import Mathlib.Data.List.Nodup
import Switchboard.Model.Ranking

/-!
# The routing order

Candidates are ranked by four keys, of which the last one is their position, so no two of them tie
and sorting has one result. `Outranks` is the strict order: each of its cases says which key
decides. Everything that is said of ranked models is said by it and by membership.

## Main results

* `Outranks.asymm`, `Outranks.trans`, `outranks_or_outranks` — the order is strict and total.
* `Ranked.le_iff_not_outranks` — sorting compares by this order.
* `mem_rank_iff` — which models are ranked.
* `rank_pairwise` — they stand in strictly increasing order, each once.
-/

namespace Switchboard.Model

/-- A candidate is tried before another one: the first key in which they differ decides. -/
inductive Outranks (a b : Ranked) : Prop where
  /-- More tags are among its strengths. -/
  | stronger (h : b.strength < a.strength)
  | cheaper (hstrength : a.strength = b.strength)
      (h : a.profile.cost.level < b.profile.cost.level)
  | faster (hstrength : a.strength = b.strength)
      (hcost : a.profile.cost.level = b.profile.cost.level)
      (h : a.profile.averageLatencyMs < b.profile.averageLatencyMs)
  /-- All else is equal, and the caller named it earlier. -/
  | earlier (hstrength : a.strength = b.strength)
      (hcost : a.profile.cost.level = b.profile.cost.level)
      (hlatency : a.profile.averageLatencyMs = b.profile.averageLatencyMs)
      (h : a.index < b.index)

section Order

variable {a b c : Ranked}

/-- The cases in one formula. -/
theorem outranks_iff : Outranks a b ↔ b.strength < a.strength ∨ a.strength = b.strength ∧
    (a.profile.cost.level < b.profile.cost.level ∨ a.profile.cost.level = b.profile.cost.level ∧
      (a.profile.averageLatencyMs < b.profile.averageLatencyMs ∨
        a.profile.averageLatencyMs = b.profile.averageLatencyMs ∧ a.index < b.index)) := by
  constructor
  · intro h
    cases h with
    | stronger h => exact .inl h
    | cheaper hstrength h => exact .inr ⟨hstrength, .inl h⟩
    | faster hstrength hcost h => exact .inr ⟨hstrength, .inr ⟨hcost, .inl h⟩⟩
    | earlier hstrength hcost hlatency h =>
        exact .inr ⟨hstrength, .inr ⟨hcost, .inr ⟨hlatency, h⟩⟩⟩
  · rintro (h | ⟨hstrength, h | ⟨hcost, h | ⟨hlatency, h⟩⟩⟩)
    · exact .stronger h
    · exact .cheaper hstrength h
    · exact .faster hstrength hcost h
    · exact .earlier hstrength hcost hlatency h

theorem Outranks.asymm (h : Outranks a b) : ¬ Outranks b a := by
  rw [outranks_iff] at h ⊢
  omega

theorem Outranks.trans (hab : Outranks a b) (hbc : Outranks b c) : Outranks a c := by
  rw [outranks_iff] at hab hbc ⊢
  omega

/-- Candidates at two positions do not tie. -/
theorem outranks_or_outranks (h : a.index ≠ b.index) : Outranks a b ∨ Outranks b a := by
  rw [outranks_iff, outranks_iff]
  omega

/-- Sorting takes a candidate to come first unless the other one outranks it. -/
theorem Ranked.le_iff_not_outranks : a.le b = true ↔ ¬ Outranks b a := by
  rw [outranks_iff]
  simp only [Ranked.le, Bool.or_eq_true, Bool.and_eq_true, decide_eq_true_eq]
  omega

theorem Ranked.le_trans (a b c : Ranked) (hab : a.le b = true) (hbc : b.le c = true) :
    a.le c = true := by
  rw [le_iff_not_outranks, outranks_iff] at *
  omega

theorem Ranked.le_total (a b : Ranked) : (a.le b || b.le a) = true := by
  rw [Bool.or_eq_true, le_iff_not_outranks, le_iff_not_outranks]
  by_cases h : Outranks b a
  · exact .inr h.asymm
  · exact .inl h

end Order

section Rank

variable (candidates : List Profile) (tokens : Nat) (tags : List String)

/-- The ranked models are those that can take the package. -/
theorem mem_rank_iff {r : Ranked} : r ∈ rank candidates tokens tags ↔
    ∃ i p, candidates[i]? = some p ∧ p.canTake tokens = true ∧ r = rankOne tokens tags i p := by
  rw [rank, List.mem_mergeSort, List.mem_map]
  constructor
  · rintro ⟨⟨p, i⟩, hp, rfl⟩
    obtain ⟨hp, htakes⟩ := List.mem_filter.mp hp
    exact ⟨i, p, List.mem_zipIdx_iff_getElem?.mp hp, htakes, rfl⟩
  · rintro ⟨i, p, hp, htakes, rfl⟩
    exact ⟨(p, i), List.mem_filter.mpr ⟨List.mem_zipIdx_iff_getElem?.mpr hp, htakes⟩, rfl⟩

/-- A position is ranked when the model there can take the package. -/
theorem index_mem_rank_iff {i : Nat} : i ∈ (rank candidates tokens tags).map (·.index) ↔
    ∃ p, candidates[i]? = some p ∧ p.canTake tokens = true := by
  rw [List.mem_map]
  constructor
  · rintro ⟨r, hr, rfl⟩
    obtain ⟨i, p, hp, htakes, rfl⟩ := (mem_rank_iff candidates tokens tags).mp hr
    exact ⟨p, hp, htakes⟩
  · rintro ⟨p, hp, htakes⟩
    exact ⟨_, (mem_rank_iff candidates tokens tags).mpr ⟨i, p, hp, htakes, rfl⟩, rfl⟩

/-- Ranking only moves the models that can take the package. -/
theorem rank_perm : (rank candidates tokens tags).Perm
    ((candidates.zipIdx.filter (·.1.canTake tokens)).map fun x => rankOne tokens tags x.2 x.1) :=
  List.mergeSort_perm _ _

/-- No position is ranked twice. -/
theorem rank_nodup : ((rank candidates tokens tags).map (·.index)).Nodup := by
  have hpositions : (candidates.zipIdx.map (·.2)).Nodup := by
    rw [List.zipIdx_map_snd]
    exact List.nodup_range'
  rw [((rank_perm candidates tokens tags).map (·.index)).nodup_iff, List.map_map]
  exact hpositions.sublist (List.filter_sublist.map _)

/-- The profiles that are ranked are those of the models that can take the package. -/
theorem rank_profile_perm : ((rank candidates tokens tags).map (·.profile)).Perm
    (candidates.filter (·.canTake tokens)) := by
  have hprofiles : candidates.filter (·.canTake tokens) =
      (candidates.zipIdx.filter (·.1.canTake tokens)).map (·.1) := by
    conv_lhs => rw [← List.zipIdx_map_fst 0 candidates, List.filter_map]
    rfl
  have hperm := (rank_perm candidates tokens tags).map (·.profile)
  rw [List.map_map] at hperm
  rw [hprofiles]
  exact hperm

/-- Ranked models stand in strictly increasing order. -/
theorem rank_pairwise : (rank candidates tokens tags).Pairwise Outranks := by
  have hsorted : (rank candidates tokens tags).Pairwise fun a b => a.le b = true :=
    List.pairwise_mergeSort Ranked.le_trans Ranked.le_total _
  have hdistinct : (rank candidates tokens tags).Pairwise fun a b => a.index ≠ b.index :=
    List.pairwise_map.mp (rank_nodup candidates tokens tags)
  refine (hsorted.and hdistinct).imp fun h => ?_
  obtain ⟨hle, hne⟩ := h
  exact (outranks_or_outranks hne).resolve_right (Ranked.le_iff_not_outranks.mp hle)

end Rank

/-- In a list in strictly increasing order, the first element with a property is the least one. -/
theorem find?_eq_some_iff_least {ranked : List Ranked} (hsorted : ranked.Pairwise Outranks)
    {p : Ranked → Bool} {r : Ranked} : ranked.find? p = some r ↔
      r ∈ ranked ∧ p r = true ∧ ∀ other ∈ ranked, p other = true → other = r ∨ Outranks r other := by
  have hleast {found : Ranked} (h : ranked.find? p = some found) :
      ∀ other ∈ ranked, p other = true → other = found ∨ Outranks found other := by
    obtain ⟨-, before, after, rfl, hbefore⟩ := List.find?_eq_some_iff_append.mp h
    intro other hother hp
    rcases List.mem_append.mp hother with hother | hother
    · have := hbefore other hother
      rw [hp] at this
      cases this
    · obtain ⟨-, hsorted, -⟩ := List.pairwise_append.mp hsorted
      exact (List.mem_cons.mp hother).imp_right (List.rel_of_pairwise_cons hsorted)
  constructor
  · intro h
    exact ⟨List.mem_of_find?_eq_some h, List.find?_some h, hleast h⟩
  · rintro ⟨hr, hp, hmin⟩
    obtain ⟨found, hfound⟩ := Option.isSome_iff_exists.mp (List.find?_isSome.mpr ⟨r, hr, hp⟩)
    rcases hleast hfound r hr hp with rfl | hfirst
    · exact hfound
    · rcases hmin found (List.mem_of_find?_eq_some hfound) (List.find?_some hfound) with rfl | hother
      · exact hfound
      · exact absurd hother hfirst.asymm

end Switchboard.Model
