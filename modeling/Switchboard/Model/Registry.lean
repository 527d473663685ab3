import Switchboard.Model.Profile
import Switchboard.Error

/-!
# The models of a configuration

A list of profiles that can be replaced while the program runs. A task keeps the profiles it was
given; a reload does not reach it.
-/

namespace Switchboard.Model

/-- The profiles currently known. -/
structure Registry where
  profiles : List Profile

namespace Registry

/-- Replaces the profiles. -/
def reload (_ : Registry) (profiles : List Profile) : Registry := ⟨profiles⟩

/-- The profile with a name. -/
def find (r : Registry) (name : String) : Except Error Profile :=
  match r.profiles.find? (·.name = name) with
  | some p => .ok p
  | none => .error (.unknownModel name)

/-- The candidates of a task: the named models in the given order, or all when none is named. -/
def candidates (r : Registry) (names : List String) : Except Error (List Profile) :=
  if names.isEmpty then .ok r.profiles else names.mapM r.find

end Registry

end Switchboard.Model
