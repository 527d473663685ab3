import Switchboard.Scenario.Rule
import Switchboard.Data.Record

/-!
# Context packages

A context package is the bundle of text fragments chosen for a task: the fragments in priority
order, within the budget of a scenario, and the record of those that did not fit.
-/

namespace Switchboard.Package

open Switchboard.Data
open Switchboard.Scenario (Rule)

/-- What a fragment was rendered from. -/
inductive Kind where
  /-- The project as a whole; sent first and never split. -/
  | overview
  /-- One module. -/
  | module
  deriving DecidableEq, Repr, Inhabited

/-- The name of a kind. -/
def Kind.name : Kind → String
  | .overview => "overview"
  | .module => "module"

/-- The kind with a name. -/
def Kind.ofName? (name : String) : Option Kind :=
  [Kind.overview, Kind.module].find? (·.name = name)

/-- A piece of rendered text with its estimated cost. -/
structure Fragment where
  /-- The path of the module, or the label of the overview. -/
  source : String := ""
  kind : Kind := .module
  text : String := ""
  tokens : Nat := 0
  /-- The position of the rule that admitted it, counted from one; zero for the overview. -/
  rank : Nat := 0
  rule : Option Rule := none
  deriving DecidableEq, Repr, Inhabited

/-- A fragment that did not fit the budget. -/
structure Rejected where
  source : String := ""
  tokens : Nat := 0
  rank : Nat := 0
  rule : Option Rule := none
  deriving DecidableEq, Repr, Inhabited

/-- Why a package is empty. -/
inductive EmptyReason where
  | noCandidates
  | budgetTooSmall
  deriving DecidableEq, Repr, Inhabited

/-- The name of a reason. -/
def EmptyReason.name : EmptyReason → String
  | .noCandidates => "no_candidates"
  | .budgetTooSmall => "budget_too_small"

/-- The reason with a name. -/
def EmptyReason.ofName? (name : String) : Option EmptyReason :=
  [EmptyReason.noCandidates, EmptyReason.budgetTooSmall].find? (·.name = name)

end Package

open Package in
/-- A bundle of fragments within a budget, in priority order. -/
structure Package where
  scenario : String := ""
  query : Option String := none
  fragments : List Fragment := []
  tokensUsed : Nat := 0
  budget : Nat := 0
  rejected : List Rejected := []
  /-- False when there was a query and no module matched it. -/
  queryMatched : Bool := false
  emptyReason : Option EmptyReason := none
  deriving DecidableEq, Repr, Inhabited

namespace Package

open Switchboard.Data
open Switchboard.Scenario (Rule)

/-- Whether the package has no fragment. -/
def isEmpty (p : Package) : Bool := p.fragments.isEmpty

/-- The texts of the fragments with a blank line between them. -/
def render (p : Package) : String :=
  "\n\n".intercalate (p.fragments.map (·.text))

/-- The tokens of all rejected fragments. -/
def rejectedTokens (p : Package) : Nat :=
  Word.sum (p.rejected.map (·.tokens))

/-! ## Suggestions -/

/-- The rejected fragments of one rule: how many, and their tokens. -/
structure Lost where
  rule : Option Rule
  count : Nat
  tokens : Nat
  deriving DecidableEq, Repr

/-- Adds a rejected fragment to its rule's group; a new group goes last. -/
def Lost.add (groups : List Lost) (r : Rejected) : List Lost :=
  match groups with
  | [] => [⟨r.rule, 1, r.tokens⟩]
  | group :: groups =>
      if group.rule = r.rule then
        { group with count := group.count + 1, tokens := Word.add group.tokens r.tokens } :: groups
      else group :: Lost.add groups r

/-- The rejected fragments by rule, in the order in which the rules first lost one. -/
def lost (p : Package) : List Lost :=
  p.rejected.foldl Lost.add []

/-- The hint for the fragments of one rule. -/
def Lost.hint (p : Package) (group : Lost) : String :=
  let label := match group.rule with
    | some rule => rule.name
    | none => "unranked"
  s!"{group.count} `{label}` fragment(s) ({group.tokens} tokens) did not fit; " ++
    s!"raise budget to {Word.add p.tokensUsed group.tokens} or narrow include_globs"

/-- The cost of the cheapest rejected fragment. -/
def cheapestRejected (p : Package) : Nat :=
  ((p.rejected.map (·.tokens)).min?).getD 0

/-- Hints on how to get more into the package. -/
def suggestions (p : Package) : List String :=
  let small :=
    if p.emptyReason = some .budgetTooSmall then
      [s!"budget of {p.budget} tokens is smaller than the cheapest fragment " ++
        s!"({p.cheapestRejected} tokens); raise budget_tokens"]
    else []
  let unmatched :=
    if p.query.isSome && !p.queryMatched then
      ["query matched no module; package was filled by scenario defaults"]
    else []
  small ++ unmatched ++ p.lost.map (Lost.hint p)

/-! ## As data -/

/-- Reads a rule. -/
def readRule : Reading Rule := Reading.oneOf Rule.ofName?

/-- A rule as data. -/
def ruleNode (rule : Option Rule) : Node := .opt (fun r : Rule => .str r.name) rule

/-- The fields of a fragment. -/
def Fragment.fields : List (RecordField Fragment) := [
  .required "source" Reading.text fun f x => { f with source := x },
  .required "kind" (Reading.oneOf Kind.ofName?) fun f x => { f with kind := x },
  .required "text" Reading.text fun f x => { f with text := x },
  .required "tokens" Reading.word fun f x => { f with tokens := x },
  .required "rank" Reading.word fun f x => { f with rank := x },
  .nullable "rule" readRule fun f x => { f with rule := x }]

/-- Reads a fragment. -/
def Fragment.read : Reading Fragment := record Fragment.fields {}

/-- A fragment as data. -/
def Fragment.toNode (f : Fragment) : Node := .obj [
  ("source", .str f.source),
  ("kind", .str f.kind.name),
  ("text", .str f.text),
  ("tokens", .nat f.tokens),
  ("rank", .nat f.rank),
  ("rule", ruleNode f.rule)]

/-- The fields of a rejected fragment. -/
def Rejected.fields : List (RecordField Rejected) := [
  .required "source" Reading.text fun r x => { r with source := x },
  .required "tokens" Reading.word fun r x => { r with tokens := x },
  .required "rank" Reading.word fun r x => { r with rank := x },
  .nullable "rule" readRule fun r x => { r with rule := x }]

/-- Reads a rejected fragment. -/
def Rejected.read : Reading Rejected := record Rejected.fields {}

/-- A rejected fragment as data. -/
def Rejected.toNode (r : Rejected) : Node := .obj [
  ("source", .str r.source),
  ("tokens", .nat r.tokens),
  ("rank", .nat r.rank),
  ("rule", ruleNode r.rule)]

/-- The fields of a package. -/
def fields : List (RecordField Package) := [
  .required "scenario" Reading.text fun p x => { p with scenario := x },
  .nullable "query" Reading.text fun p x => { p with query := x },
  .required "fragments" (Reading.list Fragment.read) fun p x => { p with fragments := x },
  .required "total_tokens_used" Reading.word fun p x => { p with tokensUsed := x },
  .required "budget_tokens" Reading.word fun p x => { p with budget := x },
  .required "rejected" (Reading.list Rejected.read) fun p x => { p with rejected := x },
  .required "query_matched" Reading.flag fun p x => { p with queryMatched := x },
  .nullable "empty_reason" (Reading.oneOf EmptyReason.ofName?) fun p x =>
    { p with emptyReason := x }]

/-- Reads a package. -/
def read : Reading Package := record fields {}

/-- A package as data. -/
def toNode (p : Package) : Node := .obj [
  ("scenario", .str p.scenario),
  ("query", .opt .str p.query),
  ("fragments", .arr (p.fragments.map Fragment.toNode)),
  ("total_tokens_used", .nat p.tokensUsed),
  ("budget_tokens", .nat p.budget),
  ("rejected", .arr (p.rejected.map Rejected.toNode)),
  ("query_matched", .bool p.queryMatched),
  ("empty_reason", .opt (fun r : EmptyReason => .str r.name) p.emptyReason)]

/-- What is derived from a package, as data. -/
def summary (p : Package) : Node := .obj [
  ("is_empty", .bool p.isEmpty),
  ("render", .str p.render),
  ("rejected_tokens", .nat p.rejectedTokens),
  ("suggestions", .strs p.suggestions)]

end Package

end Switchboard
