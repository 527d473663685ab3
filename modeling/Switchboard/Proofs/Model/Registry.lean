import Mathlib.Data.List.Nodup
import Switchboard.Model.Registry

/-!
# Candidates by name

The candidates of a task are looked up by the names that were given for it, one for each name, in
the order of the names. A name that is given twice brings the same profile twice.

## Main results

* `candidates_eq_ok` — the names and the origin of candidates.
* `count_candidates_le` — how often a model is a candidate.
-/

namespace Switchboard.Model.Registry

variable {registry : Registry} {names : List String} {profiles : List Profile} {name : String}
  {p : Profile}

theorem find_eq_ok (h : registry.find name = .ok p) : p.name = name ∧ p ∈ registry.profiles := by
  rw [find] at h
  split at h
  next found hfound =>
    cases h
    have hname := List.find?_some hfound
    exact ⟨by simpa using hname, List.mem_of_find?_eq_some hfound⟩
  next => cases h

/-- Profiles that are looked up by their names have these names and are those of the registry. -/
theorem mapM_find_eq_ok (h : names.mapM registry.find = .ok profiles) :
    profiles.map (·.name) = names ∧ ∀ p ∈ profiles, p ∈ registry.profiles := by
  induction names generalizing profiles with
  | nil =>
      cases h
      exact ⟨rfl, List.forall_mem_nil _⟩
  | cons name names ih =>
      rw [List.mapM_cons] at h
      cases hfind : registry.find name with
      | error error =>
          rw [hfind] at h
          cases h
      | ok p =>
          rw [hfind] at h
          cases hrest : names.mapM registry.find with
          | error error =>
              simp only [hrest] at h
              cases h
          | ok rest =>
              simp only [hrest] at h
              cases h
              obtain ⟨hname, hp⟩ := find_eq_ok hfind
              obtain ⟨hnames, hmem⟩ := ih hrest
              exact ⟨by rw [List.map_cons, hnames, hname], List.forall_mem_cons.mpr ⟨hp, hmem⟩⟩

/-- The candidates of a task are profiles of the registry: those with the given names, or all. -/
theorem candidates_eq_ok (h : registry.candidates names = .ok profiles) :
    profiles.map (·.name) = (if names.isEmpty then registry.profiles.map (·.name) else names) ∧
      ∀ p ∈ profiles, p ∈ registry.profiles := by
  rw [candidates] at h
  split at h
  next hempty =>
    cases h
    exact ⟨(if_pos hempty).symm, fun _ hp => hp⟩
  next hnamed =>
    rw [if_neg hnamed]
    exact mapM_find_eq_ok h

/-- How often a model is a candidate: as often as it is named, and once if no model is named. -/
def timesNamed (names : List String) (name : String) : Nat :=
  if names.isEmpty then 1 else names.count name

/-- A model is a candidate no more often than it is named. -/
theorem count_candidates_le (hdistinct : (registry.profiles.map (·.name)).Nodup)
    (h : registry.candidates names = .ok profiles) (name : String) :
    (profiles.map (·.name)).count name ≤ timesNamed names name := by
  rw [(candidates_eq_ok h).1, timesNamed]
  split
  · exact List.nodup_iff_count_le_one.mp hdistinct name
  · exact Nat.le_refl _

end Switchboard.Model.Registry
