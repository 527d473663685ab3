import Switchboard.Proofs.Call.Completeness
import Switchboard.Proofs.Model.Ranking

/-!
# How a plan divides the candidates

A plan ranks the models whose window holds the package, or that take it in chunks, and passes over
the others. It decides that by the whole window, while a call has to fit what the response and the
description of the task leave of it. So a model that is passed over could not be called either, and
of the ranked ones some cannot be called. The plan selects the first that can be, which is the
first of all candidates, ranked or not, since the ranking leaves out none that can.

## Main results

* `Call.canTake_of_plan` — a model that can be called is ranked.
* `Request.plan_filteredOut` — those passed over are the others.
* `Request.plan_models_perm` — both together are the models of the request.
* `plan_partitions` — the candidates, those passed over, and the one selected.
-/

namespace Switchboard.Call

open Switchboard.Model (Profile)

section Plan

variable {package : Package} {profile : Profile} {tokens : Nat} {margin : Float}

/-- The response margin only takes from the window. -/
theorem usableWindow_le (profile : Profile) (margin : Float) :
    profile.usableWindow margin ≤ profile.maxContextTokens :=
  Nat.sub_le _ _

variable (hneeded : package.tokensUsed + tokens < Word.size64)
include hneeded

/-- A package that is sent whole fits the window. -/
theorem fits_of_plan_single {needed : Nat}
    (h : Call.plan package profile tokens margin = .ok (.single needed)) :
    package.tokensUsed ≤ profile.maxContextTokens := by
  have hwindow := usableWindow_le profile margin
  rcases plan_cases h with ⟨-, hfits⟩ | ⟨chunks, capacity, hchunked, -⟩
  · rw [Word.add_eq hneeded] at hfits
    omega
  · cases hchunked

/-- A model that can be called for a package can take it. -/
theorem canTake_of_plan {call : Plan}
    (h : Call.plan package profile tokens margin = .ok call) :
    profile.canTake package.tokensUsed = true := by
  by_contra hcannot
  simp only [Profile.canTake, Bool.or_eq_true, decide_eq_true_eq, not_or, Nat.not_le,
    Bool.not_eq_true] at hcannot
  obtain ⟨hsmall, hwhole⟩ := hcannot
  have hwindow := usableWindow_le profile margin
  rw [plan_of_whole hneeded (by omega) hwhole] at h
  cases h

end Plan

end Switchboard.Call

namespace Switchboard.Route

open Switchboard.Model (Profile Ranked Outranks rank)

section Decision

variable {package : Package} {tokens : Nat} {margin : Float} {ranked : Ranked}

/-- A decision carries a call plan exactly when one could be made. -/
theorem Candidate.ofRanked_plan_iff {call : Call.Plan} :
    (Candidate.ofRanked package tokens margin ranked).plan = some call ↔
      Call.plan package ranked.profile tokens margin = .ok call := by
  refine ⟨ofRanked_plan_eq_some, fun h => ?_⟩
  simp only [Candidate.ofRanked, h]

theorem Candidate.ofRanked_plan_isSome :
    (Candidate.ofRanked package tokens margin ranked).plan.isSome = true ↔
      ∃ call, Call.plan package ranked.profile tokens margin = .ok call := by
  rw [Option.isSome_iff_exists]
  exact exists_congr fun call => ofRanked_plan_iff

@[simp] theorem Candidate.ofRanked_fitsWhole :
    (Candidate.ofRanked package tokens margin ranked).fitsWhole = ranked.fitsWhole := by
  simp only [Candidate.ofRanked]
  split <;> rfl

end Decision

/-- The models that are passed over are those that are not ranked, in the order of the request. -/
theorem Request.plan_filteredOut (request : Request) (estimator : Estimator) (margin : Float) :
    (request.plan estimator margin).filteredOut =
      (request.candidates.zipIdx.filter fun (_, i) =>
        i ∉ (rank request.candidates request.package.tokensUsed request.tags).map
          (·.index)).map (·.1.name) := by
  show ((request.candidates.filter _).map _) = _
  conv_lhs => rw [← List.zipIdx_map_fst 0 request.candidates]
  rw [List.filter_map, List.map_map]
  refine congrArg _ (List.filter_congr fun (p, i) hp => ?_)
  have hp : request.candidates[i]? = some p := List.mem_zipIdx_iff_getElem?.mp hp
  simp [Model.index_mem_rank_iff, hp]

/-- Those passed over and the ranked ones together are the models of the request. -/
theorem Request.plan_models_perm (request : Request) (estimator : Estimator) (margin : Float) :
    ((request.plan estimator margin).filteredOut ++
      (request.plan estimator margin).candidates.map (·.model)).Perm
        (request.candidates.map (·.name)) := by
  have hmodels : (request.plan estimator margin).candidates.map (·.model) =
      ((rank request.candidates request.package.tokensUsed request.tags).map
        (·.profile)).map (·.name) := by
    show ((rank _ _ _).map _).map _ = _
    rw [List.map_map, List.map_map]
    exact List.map_congr_left fun r _ => Candidate.ofRanked_model _ _ _ r
  have hranked := (Model.rank_profile_perm request.candidates request.package.tokensUsed
    request.tags).map (·.name)
  have hsplit := (List.filter_append_perm (·.canTake request.package.tokensUsed)
    request.candidates).map (·.name)
  rw [hmodels]
  refine List.perm_append_comm.trans ((hranked.append_right _).trans ?_)
  rwa [List.map_append] at hsplit

/-- The selected candidate is the one of the least ranked model that can be called. -/
theorem Request.plan_selected_iff (request : Request) (estimator : Estimator) (margin : Float)
    (c : Candidate) :
    (request.plan estimator margin).selected = some c ↔
      ∃ r ∈ rank request.candidates request.package.tokensUsed request.tags,
        (∃ call, Call.plan request.package r.profile
          (descriptionTokens estimator request.description) margin = .ok call) ∧
        c = Candidate.ofRanked request.package
          (descriptionTokens estimator request.description) margin r ∧
        ∀ other ∈ rank request.candidates request.package.tokensUsed request.tags,
          (∃ call, Call.plan request.package other.profile
            (descriptionTokens estimator request.description) margin = .ok call) →
          other = r ∨ Outranks r other := by
  show ((rank _ _ _).map _).find? _ = some c ↔ _
  rw [List.find?_map, Option.map_eq_some_iff]
  simp only [Model.find?_eq_some_iff_least (Model.rank_pairwise _ _ _), Function.comp_apply,
    Candidate.ofRanked_plan_isSome]
  constructor
  · rintro ⟨r, ⟨hr, hcall, hleast⟩, rfl⟩
    exact ⟨r, hr, hcall, rfl, hleast⟩
  · rintro ⟨r, hr, hcall, rfl, hleast⟩
    exact ⟨r, ⟨hr, hcall, hleast⟩, rfl⟩

section Planned

variable {request : Request} {estimator : Estimator}
  (hneeded : request.package.tokensUsed + descriptionTokens estimator request.description <
    Word.size64)
include hneeded

/-- A model of the request that can be called is ranked. -/
theorem Request.mem_rank_of_plan {margin : Float} {i : Nat} {p : Profile}
    (hp : request.candidates[i]? = some p)
    (hcall : ∃ call, Call.plan request.package p
      (descriptionTokens estimator request.description) margin = .ok call) :
    Model.rankOne request.package.tokensUsed request.tags i p ∈
      rank request.candidates request.package.tokensUsed request.tags := by
  obtain ⟨call, hcall⟩ := hcall
  exact (Model.mem_rank_iff _ _ _).mpr ⟨i, p, hp, Call.canTake_of_plan hneeded hcall, rfl⟩

/-- Nothing is selected exactly when no model of the request can be called. -/
theorem Request.plan_selected_eq_none_iff (margin : Float) :
    (request.plan estimator margin).selected = none ↔ ∀ p ∈ request.candidates, ∃ rejection,
      Call.plan request.package p (descriptionTokens estimator request.description) margin =
        .error rejection := by
  rw [Plan.selected, List.find?_eq_none]
  constructor
  · intro hnone p hp
    obtain ⟨i, hp⟩ := List.mem_iff_getElem?.mp hp
    cases hcall : Call.plan request.package p
        (descriptionTokens estimator request.description) margin with
    | error rejection => exact ⟨rejection, rfl⟩
    | ok call =>
        have hranked := Request.mem_rank_of_plan hneeded hp ⟨call, hcall⟩
        refine absurd (Candidate.ofRanked_plan_isSome.mpr ⟨call, ?_⟩)
          (hnone _ (List.mem_map_of_mem hranked))
        exact hcall
  · intro hrejected c hc
    obtain ⟨r, hr, rfl⟩ := List.mem_map.mp hc
    rw [Candidate.ofRanked_plan_isSome]
    rintro ⟨call, hcall⟩
    obtain ⟨rejection, hrejection⟩ := hrejected _ (profile_mem_of_mem_rank hr)
    rw [hrejection] at hcall
    cases hcall

/-- A candidate that is sent the package whole has a window that holds it. -/
theorem Request.fitsWhole_of_plan_single {margin : Float} {c : Candidate} {needed : Nat}
    (hc : c ∈ (request.plan estimator margin).candidates)
    (hplan : c.plan = some (.single needed)) : c.fitsWhole = true := by
  obtain ⟨r, hr, rfl⟩ := List.mem_map.mp hc
  obtain ⟨i, p, hp, -, rfl⟩ := (Model.mem_rank_iff _ _ _).mp hr
  rw [Candidate.ofRanked_fitsWhole]
  have hfits := Call.fits_of_plan_single hneeded (Candidate.ofRanked_plan_iff.mp hplan)
  simpa [Model.rankOne] using hfits

end Planned

/-- **A plan divides the candidates of its request.** The models whose window holds the package, or
that take it in chunks, are ranked, each position once, in strictly increasing order; the names of
the others are passed over in the order of the request, and none of them could be called. The
selected candidate is the one that outranks all other models of the request that can be called, and
there is none exactly when no model can be. A candidate that is sent the package whole has a window
that holds it. The package and the description together are a word. -/
theorem plan_partitions (request : Request) (estimator : Estimator) (margin : Float)
    (hneeded : request.package.tokensUsed + descriptionTokens estimator request.description <
      Word.size64) :
    let tokens := descriptionTokens estimator request.description
    let plan := request.plan estimator margin
    let ranked (i : Nat) (p : Profile) := Model.rankOne request.package.tokensUsed request.tags i p
    let callable (p : Profile) := ∃ call, Call.plan request.package p tokens margin = .ok call
    (∃ order : List Ranked,
      (∀ r, r ∈ order ↔ ∃ i p, request.candidates[i]? = some p ∧ r = ranked i p ∧
        (request.package.tokensUsed ≤ p.maxContextTokens ∨ p.supportsChunking = true)) ∧
      (order.map (·.index)).Nodup ∧ order.Pairwise Outranks ∧
      plan.candidates = order.map (Candidate.ofRanked request.package tokens margin) ∧
      plan.filteredOut = (request.candidates.zipIdx.filter fun (_, i) =>
        i ∉ order.map (·.index)).map (·.1.name) ∧
      ∀ i p, request.candidates[i]? = some p → callable p → i ∈ order.map (·.index)) ∧
    (∀ c, plan.selected = some c ↔ ∃ i p, request.candidates[i]? = some p ∧ callable p ∧
      c = Candidate.ofRanked request.package tokens margin (ranked i p) ∧
      ∀ j q, request.candidates[j]? = some q → callable q → j ≠ i →
        Outranks (ranked i p) (ranked j q)) ∧
    (plan.selected = none ↔ ∀ p ∈ request.candidates, ∃ rejection,
      Call.plan request.package p tokens margin = .error rejection) ∧
    ∀ c ∈ plan.candidates, ∀ needed, c.plan = some (.single needed) → c.fitsWhole = true := by
  intro tokens plan ranked callable
  have hmem (r : Ranked) := Model.mem_rank_iff request.candidates request.package.tokensUsed
    request.tags (r := r)
  have hcallable {i : Nat} {p : Profile} (hp : request.candidates[i]? = some p)
      (hcall : callable p) := Request.mem_rank_of_plan hneeded hp hcall
  refine ⟨⟨_, fun r => ?_, Model.rank_nodup _ _ _, Model.rank_pairwise _ _ _, rfl,
    request.plan_filteredOut estimator margin, fun i p hp hcall => ?_⟩, fun c => ?_,
    Request.plan_selected_eq_none_iff hneeded margin,
    fun c hc needed hplan => Request.fitsWhole_of_plan_single hneeded hc hplan⟩
  · rw [hmem]
    simp only [Profile.canTake, Bool.or_eq_true, decide_eq_true_eq]
    exact exists_congr fun i => exists_congr fun p => and_congr_right fun _ => and_comm
  · exact List.mem_map_of_mem (hcallable hp hcall)
  · rw [request.plan_selected_iff]
    constructor
    · rintro ⟨r, hr, hcall, rfl, hleast⟩
      obtain ⟨i, p, hp, -, rfl⟩ := (hmem r).mp hr
      refine ⟨i, p, hp, hcall, rfl, fun j q hq hcall' hne => ?_⟩
      refine (hleast _ (hcallable hq hcall') hcall').resolve_left fun heq => hne ?_
      exact congrArg Ranked.index heq
    · rintro ⟨i, p, hp, hcall, rfl, hleast⟩
      refine ⟨ranked i p, hcallable hp hcall, hcall, rfl, fun other hother hcall' => ?_⟩
      obtain ⟨j, q, hq, -, rfl⟩ := (hmem other).mp hother
      by_cases hji : j = i
      · subst hji
        exact .inl (congrArg _ (Option.some.inj (hq.symm.trans hp)))
      · exact .inr (hleast j q hq hcall' hji)

/-- A model that is good at what is asked for, and expensive. -/
def strongModel : Profile :=
  { name := "strong", provider := "echo", maxContextTokens := 90, cost := .high,
    strengths := ["rust"] }

/-- The models of `sampleRequest` and a strong one, for a task about its strength. -/
def taggedRequest : Request :=
  { sampleRequest with candidates := sampleRequest.candidates ++ [strongModel], tags := ["Rust"] }

/-- The strong model is selected before the cheaper one in front of it. -/
theorem taggedRequest_plan_partitions :
    taggedRequest.package.tokensUsed + descriptionTokens .standard taggedRequest.description <
        Word.size64 ∧
      ∃ c, (taggedRequest.plan .standard Call.standardMargin).selected = some c ∧
        c.model = "strong" ∧ c.fitsWhole = true := by
  have hneeded : taggedRequest.package.tokensUsed +
      descriptionTokens .standard taggedRequest.description < Word.size64 := by decide +kernel
  obtain ⟨-, hselected, -, -⟩ := plan_partitions taggedRequest .standard Call.standardMargin hneeded
  have hcall : Call.plan taggedRequest.package strongModel
      (descriptionTokens .standard taggedRequest.description) Call.standardMargin =
        .ok (.single 65) := by decide +kernel
  have hstrength : strongModel.strengthScore taggedRequest.tags = 1 := by decide +kernel
  refine ⟨hneeded, _, (hselected _).mpr ⟨2, strongModel, rfl, ⟨_, hcall⟩, rfl, ?_⟩,
    Candidate.ofRanked_model _ _ _ _, by rw [Candidate.ofRanked_fitsWhole]; rfl⟩
  intro j q hq _ hne
  -- whether or not they can be called, the others have no strengths
  have hnone : q.strengths = [] := by
    have hj : j < 3 := (List.getElem?_eq_some_iff.mp hq).1
    rcases (by omega : j = 0 ∨ j = 1) with rfl | rfl <;> (cases hq; rfl)
  have hweak : q.strengthScore taggedRequest.tags = 0 := by simp [Profile.strengthScore, hnone]
  exact .stronger (by simp [Model.rankOne, hstrength, hweak])

end Switchboard.Route
