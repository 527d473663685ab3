import Switchboard.Scenario.Basic

/-!
# The scenarios of a configuration

The built-in scenarios overlaid with the configured ones, compiled in the order of their names and
kept in that order.
-/

namespace Switchboard.Scenario

/-- Puts an entry into a list sorted by name, in place of one of the same name. -/
def insertByName (name : String) (a : α) : List (String × α) → List (String × α)
  | [] => [(name, a)]
  | (other, b) :: rest =>
      if name = other then (name, a) :: rest
      else if name < other then (name, a) :: (other, b) :: rest
      else (other, b) :: insertByName name a rest

/-- The compiled scenarios in the order of their names. -/
structure Registry where
  scenarios : List (String × Scenario)

namespace Registry

/-- Compiles specs one after the other. -/
def compileAll : List (String × Spec) → Except Error (List (String × Scenario))
  | [] => .ok []
  | (name, spec) :: specs => do
      let scenario ← compile name spec
      let rest ← compileAll specs
      return (name, scenario) :: rest

/-- The built-in scenarios, each replaced by the configured one of its name if there is one, and
the other configured ones. -/
def withOverrides (overrides : List (String × Spec)) : Except Error Registry := do
  let specs := overrides.foldl (fun specs (name, spec) => insertByName name spec specs) builtins
  return ⟨← compileAll specs⟩

/-- The names in order. -/
def names (r : Registry) : List String := r.scenarios.map (·.1)

/-- The scenario with a name. -/
def get (r : Registry) (name : String) : Except Error Scenario :=
  match r.scenarios.find? (·.1 = name) with
  | some (_, scenario) => .ok scenario
  | none => .error (.unknownScenario name)

end Registry

end Switchboard.Scenario
