import Switchboard.Config.Validation
import Switchboard.Proofs.Model.Registry
import Switchboard.Proofs.Route.Announced

/-!
# The models of a checked configuration

Models are checked one after the other, and the first mistake is reported. What passes the check has
distinct names, and every model has one of the providers that are served without further
configuration. So the tasks of an engine have candidates that can be told apart by their names and
that all have a backend, until its models are replaced.

## Main results

* `checkModels_eq_ok` — which models pass the check.
* `nodup_of_validate`, `registered_of_validate` — what routing may rely on.
-/

namespace Switchboard.Config

open Switchboard.Model (Profile Registry)

variable {m : Profile} {models : List Profile} {seen names : List String} {c : Config}

/-- A model that passes the check, whatever models stand before it. -/
structure IsUsable (m : Profile) : Prop where
  window : m.maxContextTokens ≠ 0
  provider : m.provider ∈ knownProviders
  command : m.provider = "command" → (m.command.getD []).isEmpty = false

/-- A check that is followed by others passes just if it passes itself and the others do. -/
theorem check_bind_eq_ok {check : Except Report Unit} {others : Unit → Except Report Unit} :
    (check >>= others) = .ok () ↔ check = .ok () ∧ others () = .ok () := by
  cases check with
  | error report => exact ⟨fun h => (nomatch h), fun h => (nomatch h.1)⟩
  | ok done => exact ⟨fun h => ⟨rfl, h⟩, fun h => h.2⟩

theorem checkModel_eq_ok : checkModel seen m = .ok () ↔ m.name ∉ seen ∧ IsUsable m := by
  rw [checkModel]
  constructor
  · intro h
    split at h
    · cases h
    next hname =>
      split at h
      · cases h
      next hwindow =>
        split at h
        · cases h
        next hprovider =>
          split at h
          · cases h
          next hcommand =>
            refine ⟨hname, hwindow, Decidable.not_not.mp hprovider, fun h => ?_⟩
            exact (Bool.not_eq_true _).mp fun hempty => hcommand ⟨h, hempty⟩
  · rintro ⟨hname, husable⟩
    have hcommand : ¬(m.provider = "command" ∧ (m.command.getD []).isEmpty = true) := by
      rintro ⟨hcommand, hempty⟩
      rw [husable.command hcommand] at hempty
      cases hempty
    rw [if_neg hname, if_neg husable.window, if_neg (not_not.mpr husable.provider),
      if_neg hcommand]

/-- Models pass the check just if each of them is usable, and their names are new and distinct. -/
theorem checkModels_eq_ok :
    checkModels seen models = .ok () ↔
      (models.map (·.name)).Nodup ∧ ∀ m ∈ models, m.name ∉ seen ∧ IsUsable m := by
  induction models generalizing seen with
  | nil => exact ⟨fun _ => ⟨List.nodup_nil, List.forall_mem_nil _⟩, fun _ => rfl⟩
  | cons m models ih =>
      rw [checkModels, check_bind_eq_ok, checkModel_eq_ok, ih, List.map_cons, List.nodup_cons,
        List.forall_mem_cons]
      constructor
      · rintro ⟨hfirst, hnodup, hrest⟩
        refine ⟨⟨?_, hnodup⟩, hfirst, fun m' hm' => ?_⟩
        · intro hmem
          obtain ⟨m', hm', hname⟩ := List.mem_map.mp hmem
          exact (hrest m' hm').1 (hname ▸ List.mem_cons_self)
        · obtain ⟨hnew, husable⟩ := hrest m' hm'
          exact ⟨fun hseen => hnew (List.mem_cons_of_mem _ hseen), husable⟩
      · rintro ⟨⟨hname, hnodup⟩, hfirst, hrest⟩
        refine ⟨hfirst, hnodup, fun m' hm' => ?_⟩
        obtain ⟨hnew, husable⟩ := hrest m' hm'
        refine ⟨?_, husable⟩
        rw [List.mem_cons, not_or]
        exact ⟨fun heq => hname (heq ▸ List.mem_map_of_mem hm'), hnew⟩

theorem checkModels_of_validate (h : validate c = .ok ()) : checkModels [] c.models = .ok () := by
  simp only [validate, check_bind_eq_ok] at h
  obtain ⟨-, -, -, -, -, hmodels⟩ := h
  exact hmodels

/-- The models of a checked configuration have distinct names. -/
theorem nodup_of_validate (h : validate c = .ok ()) : (c.models.map (·.name)).Nodup :=
  (checkModels_eq_ok.mp (checkModels_of_validate h)).1

/-- Every known provider is served without further configuration. -/
theorem builtin_of_known {provider : String} (h : provider ∈ knownProviders) :
    provider ∈ Backend.builtinProviders := by
  have hall : ∀ provider ∈ knownProviders, provider ∈ Backend.builtinProviders := by decide
  exact hall provider h

/-- A task whose models come from a checked configuration is registered with the providers that are
served without further configuration. -/
theorem registered_of_validate {request : Route.Request} {settings : Route.Settings}
    (h : validate c = .ok ())
    (hcandidates : Registry.candidates ⟨c.models⟩ names = .ok request.candidates)
    (hproviders : settings.providers = Backend.builtinProviders) :
    request.Registered settings := by
  intro m hm
  have hmodel : m ∈ c.models := (Registry.candidates_eq_ok hcandidates).2 m hm
  have husable := ((checkModels_eq_ok.mp (checkModels_of_validate h)).2 m hmodel).2
  rw [hproviders]
  exact builtin_of_known husable.provider

end Switchboard.Config
