import Switchboard.Scenario.Basic
import Switchboard.Package.Dependency
import Switchboard.Index.Search

/-!
# Assembling packages

The candidates of a package are the overview, if the scenario wants one, and one fragment for each
module the scenario admits. They are ranked by the first priority rule that admits them and sorted
by rank, candidates of one rank keeping the order of the document. Then they are taken greedily:
a candidate that no longer fits the budget is rejected and the next one is tried, so a large
fragment cannot keep out the cheaper ones behind it.
-/

namespace Switchboard.Package

open Switchboard.Index (Document Module)
open Switchboard.Scenario (Rule)

/-- What a caller asks for beyond the scenario. -/
structure Request where
  query : Option String := none
  /-- The path of the file being worked on, as the index spells it. -/
  activeFile : Option String := none
  deriving DecidableEq, Repr

/-- The source label of the overview. -/
def overviewSource : String := "<overview>"

/-- The paths of the modules that the active file depends on directly. -/
def activeDependencies (doc : Document) (activeFile : Option String) : List String :=
  match activeFile.bind doc.find? with
  | none => []
  | some active =>
      (doc.modules.filter fun m =>
        m.path ≠ active.path && active.dependencies.any (Dependency.names · m.path)).map (·.path)

/-- What the rules look at. -/
structure RuleContext where
  scenario : Scenario
  terms : List String
  activeFile : Option String
  activeDependencies : List String

/-- Whether a rule admits a module. -/
def RuleContext.admits (ctx : RuleContext) (m : Module) : Rule → Bool
  | .queryMatch => m.matchesTerms ctx.terms
  | .critical => m.isTagged "critical" || ctx.scenario.isCriticalPath m.path
  | .activeFile => ctx.activeFile = some m.path
  | .activeDependencies => m.path ∈ ctx.activeDependencies
  | .summaries => !(Text.trim m.summary).isEmpty
  | .remaining => true

/-- The rank of a module, with the rule that gave it: one more than the position of the first rule
that admits it, or one more than the number of rules. -/
def RuleContext.rank (ctx : RuleContext) (m : Module) : Nat × Option Rule :=
  match ctx.scenario.rules.findIdx? (ctx.admits m) with
  | some i => (i + 1, ctx.scenario.rules[i]?)
  | none => (ctx.scenario.rules.length + 1, none)

/-- The fragment of a module. -/
def moduleFragment (estimator : Estimator) (ctx : RuleContext) (m : Module) : Fragment :=
  let text := m.render
  let (rank, rule) := ctx.rank m
  { source := m.path, kind := .module, text, tokens := estimator.estimate text, rank, rule }

/-- The fragment of the overview. -/
def overviewFragment (estimator : Estimator) (doc : Document) : Fragment :=
  let text := doc.renderOverview
  { source := overviewSource, kind := .overview, text, tokens := estimator.estimate text,
    rank := 0, rule := none }

/-- The modules of a document that a scenario admits. -/
def admitted (scenario : Scenario) (doc : Document) : List Module :=
  doc.modules.filter fun m => scenario.admits m.path

/-- The candidates in document order. -/
def candidates (estimator : Estimator) (ctx : RuleContext) (doc : Document) : List Fragment :=
  (if ctx.scenario.includeOverview then [overviewFragment estimator doc] else []) ++
    (admitted ctx.scenario doc).map (moduleFragment estimator ctx)

/-- The candidates by rank; candidates of one rank keep their order. -/
def sortByRank (fragments : List Fragment) : List Fragment :=
  fragments.mergeSort fun a b => a.rank ≤ b.rank

/-- The record of a fragment that did not fit. -/
def Fragment.reject (f : Fragment) : Rejected := ⟨f.source, f.tokens, f.rank, f.rule⟩

/-- The accepted and the rejected fragments of a list, when `used` tokens are already taken. -/
def pack (budget : Nat) : Nat → List Fragment → List Fragment × List Rejected
  | _, [] => ([], [])
  | used, f :: rest =>
      if used + f.tokens ≤ budget then
        let (taken, rejected) := pack budget (used + f.tokens) rest
        (f :: taken, rejected)
      else
        let (taken, rejected) := pack budget used rest
        (taken, f.reject :: rejected)

/-- Why a package is empty, if it is. -/
def emptyReasonOf (taken : List Fragment) (rejected : List Rejected) : Option EmptyReason :=
  if !taken.isEmpty then none
  else if rejected.isEmpty then some .noCandidates
  else some .budgetTooSmall

/-- The context of the rules for a request. -/
def ruleContext (scenario : Scenario) (doc : Document) (request : Request) : RuleContext where
  scenario := scenario
  terms := match request.query with
    | some query => Index.queryTerms query
    | none => []
  activeFile := request.activeFile
  activeDependencies := activeDependencies doc request.activeFile

/-- Assembles the package of a request. -/
def assemble (estimator : Estimator) (scenario : Scenario) (doc : Document) (request : Request) :
    Package :=
  let ctx := ruleContext scenario doc request
  let sorted := sortByRank (candidates estimator ctx doc)
  let (taken, rejected) := pack scenario.budget 0 sorted
  { scenario := scenario.name
    query := request.query
    fragments := taken
    tokensUsed := Word.total (taken.map (·.tokens))
    budget := scenario.budget
    rejected
    queryMatched := ctx.terms.isEmpty ||
      (admitted scenario doc).any fun m => m.matchesTerms ctx.terms
    emptyReason := emptyReasonOf taken rejected }

end Switchboard.Package
