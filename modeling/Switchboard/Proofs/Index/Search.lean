import Mathlib.Data.List.Nodup
import Switchboard.Index.Search

/-!
# What a search finds

A search gives the first hits in the order of hits. With a limit that no module exceeds, these are
the hits of all modules that have a score, in some order: which modules are found is then a matter
of their scores alone.

## Main results

* `hit?_eq_some_iff` — when a module has a hit, and which one.
* `mem_search_iff` — the hits of a search without a narrower limit.
* `exists_mem_search_iff` — where paths are distinct, the modules found are those that match.
* `le_termPoints_of_symbol` — the points of one symbol are among those of its module.
-/

namespace Switchboard.Index

variable {estimator : Estimator} {terms : List String} {m : Module} {hit : Hit}

/-! ## Hits of modules -/

/-- A module with a score has one hit, which shows it as it is. -/
theorem hit?_eq_some_iff : m.hit? estimator terms = some hit ↔
    0 < m.score terms ∧ hit = ⟨m.path, m.score terms, m.lineCount,
      { source := m.path, kind := .module, text := m.render,
        tokens := estimator.estimate m.render, rank := 0, rule := some .queryMatch }⟩ := by
  unfold Module.hit?
  dsimp only
  split
  · rename_i hzero
    simp [hzero]
  · rename_i hpos
    simp [Nat.pos_of_ne_zero hpos, eq_comm]

/-- A module matches terms when there are any and it has a score for them. -/
theorem matchesTerms_iff : m.matchesTerms terms = true ↔ terms ≠ [] ∧ 0 < m.score terms := by
  simp [Module.matchesTerms]

/-! ## Hits of searches -/

/-- With a limit that the modules do not exceed, a search gives the hits of all of them. -/
theorem mem_search_iff {doc : Document} {query : String} {limit : Nat}
    (hlimit : doc.modules.length ≤ limit) :
    hit ∈ doc.search query limit estimator ↔ queryTerms query ≠ [] ∧
      ∃ m ∈ doc.modules, m.hit? estimator (queryTerms query) = some hit := by
  unfold Document.search
  dsimp only
  split
  · rename_i hnone
    rw [Bool.or_eq_true, List.isEmpty_iff, decide_eq_true_eq] at hnone
    constructor
    · intro h
      exact absurd h List.not_mem_nil
    · rintro ⟨hterms, m, hm, -⟩
      have := List.length_pos_of_mem hm
      rcases hnone with hnil | hzero
      · exact absurd hnil hterms
      · omega
  · rename_i hsome
    rw [Bool.or_eq_true, List.isEmpty_iff, not_or] at hsome
    have hlength : ((doc.modules.filterMap (Module.hit? estimator (queryTerms query))).mergeSort
        Hit.le).length ≤ limit := by
      rw [List.length_mergeSort]
      exact Nat.le_trans (List.length_filterMap_le _ _) hlimit
    rw [List.take_of_length_le hlength, List.mem_mergeSort, List.mem_filterMap]
    exact (and_iff_right hsome.1).symm

/-- A document whose paths are distinct has one module for a path. -/
theorem eq_of_path_eq {doc : Document} (hdistinct : (doc.modules.map (·.path)).Nodup)
    {m n : Module} (hm : m ∈ doc.modules) (hn : n ∈ doc.modules) (h : m.path = n.path) : m = n :=
  List.inj_on_of_nodup_map hdistinct hm hn h

/-- Where paths are distinct, a module is found exactly when it matches the terms of the query. -/
theorem exists_mem_search_iff {doc : Document} {query : String} {limit : Nat}
    (hdistinct : (doc.modules.map (·.path)).Nodup) (hlimit : doc.modules.length ≤ limit)
    (hm : m ∈ doc.modules) :
    (∃ hit ∈ doc.search query limit estimator, hit.path = m.path) ↔
      m.matchesTerms (queryTerms query) = true := by
  rw [matchesTerms_iff]
  constructor
  · rintro ⟨hit, hhit, hpath⟩
    obtain ⟨hterms, n, hn, hfound⟩ := (mem_search_iff hlimit).mp hhit
    obtain ⟨hscore, rfl⟩ := hit?_eq_some_iff.mp hfound
    have hsame : n = m := eq_of_path_eq hdistinct hn hm hpath
    exact ⟨hterms, hsame ▸ hscore⟩
  · rintro ⟨hterms, hscore⟩
    exact ⟨_, (mem_search_iff hlimit).mpr ⟨hterms, m, hm, hit?_eq_some_iff.mpr ⟨hscore, rfl⟩⟩, rfl⟩

/-! ## Points of symbols -/

/-- The points of one symbol are among those of its module. -/
theorem le_termPoints_of_symbol {symbol : String} (h : symbol ∈ m.symbols) (term : String) :
    symbolPoints term (Text.lowercase symbol) ≤ m.termPoints term := by
  have hmem := List.mem_map_of_mem (f := fun s => symbolPoints term (Text.lowercase s)) h
  unfold Module.termPoints
  dsimp only
  rw [List.foldl_max]
  calc symbolPoints term (Text.lowercase symbol)
      ≤ max 0 ((m.symbols.map fun s => symbolPoints term (Text.lowercase s)).max?.getD 0) :=
        Nat.le_trans (List.le_max?_getD_of_mem hmem) (Nat.le_max_right _ _)
    _ ≤ _ := Nat.le_trans (Nat.le_add_right _ _) (Nat.le_add_right _ _)

end Switchboard.Index
