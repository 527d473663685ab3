import Switchboard.Error

/-!
# Priority rules

A scenario ranks modules by an ordered list of rules. A module takes the rank of the first rule
that admits it.
-/

namespace Switchboard.Scenario

/-- A predicate on modules that decides their priority. -/
inductive Rule where
  /-- The path, the summary or a symbol contains a word of the query. -/
  | queryMatch
  /-- The module is tagged critical or its path is critical in the scenario. -/
  | critical
  /-- The module is the active file. -/
  | activeFile
  /-- The active file depends on the module directly. -/
  | activeDependencies
  /-- The module has a summary. -/
  | summaries
  /-- Every module. -/
  | remaining
  deriving DecidableEq, Repr, Inhabited

namespace Rule

/-- The name of a rule in configuration. -/
def name : Rule → String
  | .queryMatch => "query_match"
  | .critical => "critical"
  | .activeFile => "active_file"
  | .activeDependencies => "active_dependencies"
  | .summaries => "summaries"
  | .remaining => "remaining"

/-- All rules. -/
def all : List Rule :=
  [.queryMatch, .critical, .activeFile, .activeDependencies, .summaries, .remaining]

/-- The rule with a name. -/
def ofName? (name : String) : Option Rule := all.find? (·.name = name)

/-- The rule with a name, or the error that lists the names there are. -/
def parse (text : String) : Except Error Rule :=
  match ofName? text with
  | some rule => .ok rule
  | none =>
      let names := ", ".intercalate (all.map name)
      .error (.config s!"unknown priority rule '{text}'. Must be one of: {names}")

end Rule

end Switchboard.Scenario
