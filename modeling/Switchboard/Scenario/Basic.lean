import Switchboard.Scenario.Rule
import Switchboard.Glob.Match
import Switchboard.Data.Record

/-!
# Scenarios

A scenario says how a context package is put together: its token budget, the priority rules, which
paths it admits and which of them are critical, and whether the package opens with an overview.

It is written as a `Spec` and compiled once into a `Scenario`, which checks the budget and the
rules and parses the globs. Four scenarios are built in; configuration replaces them by name or
adds to them.
-/

namespace Switchboard

namespace Scenario

open Switchboard.Data

/-- A scenario as configuration gives it. -/
structure Spec where
  budgetTokens : Nat := 0
  priorityRules : List String := []
  includeGlobs : List String := []
  excludeGlobs : List String := []
  criticalGlobs : List String := []
  includeOverview : Bool := false
  deriving DecidableEq, Repr, Inhabited

/-- The fields of a spec. -/
def Spec.fields : List (RecordField Spec) := [
  .required "budget_tokens" Reading.word fun s x => { s with budgetTokens := x },
  .required "priority_rules" (Reading.list Reading.text) fun s x => { s with priorityRules := x },
  .defaulted "include_globs" (Reading.list Reading.text) fun s x => { s with includeGlobs := x },
  .defaulted "exclude_globs" (Reading.list Reading.text) fun s x => { s with excludeGlobs := x },
  .defaulted "critical_globs" (Reading.list Reading.text) fun s x => { s with criticalGlobs := x },
  .defaulted "include_overview" Reading.flag fun s x => { s with includeOverview := x }]

/-- Reads a spec of a document in the given format. -/
def Spec.readIn (dialect : Dialect) : Reading Spec := recordIn dialect Spec.fields {}

/-- Reads a spec of a JSON document. -/
def Spec.read : Reading Spec := Spec.readIn .json

/-- A spec as data. -/
def Spec.toNode (s : Spec) : Node := .obj [
  ("budget_tokens", .nat s.budgetTokens),
  ("priority_rules", .strs s.priorityRules),
  ("include_globs", .strs s.includeGlobs),
  ("exclude_globs", .strs s.excludeGlobs),
  ("critical_globs", .strs s.criticalGlobs),
  ("include_overview", .bool s.includeOverview)]

end Scenario

/-- A compiled scenario. -/
structure Scenario where
  name : String
  budget : Nat
  rules : List Scenario.Rule
  /-- The globs a path has to match; every path is admitted when there are none. -/
  included : Option Glob.PatternSet
  excluded : Glob.PatternSet
  critical : Glob.PatternSet
  includeOverview : Bool

namespace Scenario

/-- Parses the globs of a scenario. -/
def compileGlobs (name : String) (patterns : List String) : Except Error Glob.PatternSet :=
  match Glob.parseAll patterns with
  | .ok set => .ok set
  | .error (pattern, refusal) =>
      .error (.config s!"scenarios.{name}: invalid glob '{pattern}': {refusal.message pattern}")

/-- Parses the rules of a scenario; a rule named again is dropped. -/
def compileRules (name : String) : List Rule → List String → Except Error (List Rule)
  | done, [] => .ok done
  | done, text :: texts =>
      match Rule.parse text with
      | .error error => .error (.config s!"scenarios.{name}: {error.message}")
      | .ok rule => compileRules name (if rule ∈ done then done else done ++ [rule]) texts

/-- Compiles a spec. The budget is checked first, then the rules, then the globs for inclusion,
for exclusion and for critical paths. -/
def compile (name : String) (spec : Spec) : Except Error Scenario := do
  if spec.budgetTokens = 0 then
    throw (.config s!"scenarios.{name}.budget_tokens must be > 0")
  if spec.priorityRules.isEmpty then
    throw (.config s!"scenarios.{name}.priority_rules must not be empty")
  let rules ← compileRules name [] spec.priorityRules
  let included ←
    if spec.includeGlobs.isEmpty then pure none
    else some <$> compileGlobs name spec.includeGlobs
  let excluded ← compileGlobs name spec.excludeGlobs
  let critical ← compileGlobs name spec.criticalGlobs
  return ⟨name, spec.budgetTokens, rules, included, excluded, critical, spec.includeOverview⟩

/-- Whether a path passes the scenario's filters; exclusion wins. -/
def admits (s : Scenario) (path : String) : Bool :=
  !s.excluded.matchesPath path &&
    match s.included with
    | some set => set.matchesPath path
    | none => true

/-- Whether the scenario marks a path as critical. -/
def isCriticalPath (s : Scenario) (path : String) : Bool :=
  s.critical.matchesPath path

/-- A scenario as data, with what it makes of some paths. -/
def summary (s : Scenario) (paths : List String) : Data.Node := .obj [
  ("name", .str s.name),
  ("budget_tokens", .nat s.budget),
  ("priority_rules", .strs (s.rules.map Rule.name)),
  ("include_overview", .bool s.includeOverview),
  ("admits", .arr (paths.map fun path => .bool (s.admits path))),
  ("critical", .arr (paths.map fun path => .bool (s.isCriticalPath path)))]

/-- The spec of a built-in scenario. -/
def builtinSpec (budget : Nat) (rules : List Rule) (overview : Bool) : Spec :=
  { budgetTokens := budget, priorityRules := rules.map Rule.name, includeOverview := overview }

/-- The built-in scenarios by name. -/
def builtins : List (String × Spec) := [
  ("focused", builtinSpec 32000
    [.queryMatch, .activeFile, .activeDependencies, .critical, .summaries] true),
  ("full", builtinSpec 120000
    [.queryMatch, .critical, .activeFile, .activeDependencies, .summaries, .remaining] true),
  ("minimal", builtinSpec 4000 [.queryMatch, .critical, .summaries] false),
  ("session", builtinSpec 16000
    [.activeFile, .activeDependencies, .queryMatch, .critical, .summaries] true)]

end Scenario

end Switchboard
