import Mathlib.Algebra.BigOperators.Group.Finset.Basic
import Switchboard.Proofs.Index.Ranking

/-!
# The order of the words of a query

The terms of a query are those of its words, one after the other, of which a term is dropped when it
equals the one right before it. A search knows no more of these terms than how often each one
occurs, and what it gives for all documents tells how often that is. So the words of a query may
stand in any order as long as no word is repeated. The repetitions of a word count once or several
times, as they stand next to each other or not, and have no say in which modules are found.

## Main results

* `allTerms_join` — the terms of the words of a query.
* `search_eq_of_terms_perm` — the order of the terms does not matter.
* `count_eq_of_score_eq` — scores tell how often a term occurs.
* `search_of_permuted_words` — what the order of the words does to a search.
-/

namespace Switchboard.Index

variable {estimator : Estimator} {terms others : List String} {m : Module} {query other : String}

/-! ## Terms of words -/

/-- The terms of a text, repeated ones included. -/
def allTerms (text : String) : List String :=
  let pieces := Text.splitChars (!isTermChar ·) text.toList
  let terms := (pieces.map (Text.trimChars isTermEdge)).filter (!·.isEmpty)
  terms.map fun term => Text.lowercase (String.ofList term)

theorem queryTerms_eq (query : String) : queryTerms query = dropRepeats (allTerms query) := rfl

theorem allTerms_append_blank (first last : String) :
    allTerms (first ++ " " ++ last) = allTerms first ++ allTerms last := by
  have hblank : (!isTermChar ' ') = true := by decide +kernel
  unfold allTerms
  dsimp only
  rw [Text.toList_append_blank, Text.splitChars_append_sep hblank, List.map_append,
    List.filter_append, List.map_append]

/-- The terms of a query are those of its words, in their order. -/
theorem allTerms_join (words : List String) :
    allTerms (Text.join " " words) = words.flatMap allTerms := by
  unfold Text.join
  induction words with
  | nil => rfl
  | cons word words ih =>
    cases words with
    | nil => rw [String.intercalate_singleton, List.flatMap_singleton]
    | cons next words =>
      rw [String.intercalate_cons_cons, allTerms_append_blank, ih, ← List.flatMap_cons]

theorem queryTerms_join (words : List String) :
    queryTerms (Text.join " " words) = dropRepeats (words.flatMap allTerms) := by
  rw [queryTerms_eq, allTerms_join]

/-- A term is the lower case of some text. -/
theorem exists_lowercase_of_mem_allTerms {term : String} (h : term ∈ allTerms query) :
    ∃ text, Text.lowercase text = term := by
  obtain ⟨piece, -, hpiece⟩ := List.mem_map.mp h
  exact ⟨_, hpiece⟩

/-! ## Repeated terms -/

section Repeats

variable {α : Type} [DecidableEq α] {a : α} {items : List α}

theorem mem_dropRepeats : a ∈ dropRepeats items ↔ a ∈ items := by
  induction items using dropRepeats.induct with
  | case1 => rfl
  | case2 b => rfl
  | case3 b rest ih =>
    rw [dropRepeats, if_pos rfl, ih]
    simp
  | case4 b c rest hne ih => rw [dropRepeats, if_neg hne, List.mem_cons, ih, ← List.mem_cons]

/-- Nothing is dropped where no two neighbours are equal. -/
theorem dropRepeats_of_isChain (h : items.IsChain (· ≠ ·)) : dropRepeats items = items := by
  induction items using dropRepeats.induct with
  | case1 => rfl
  | case2 b => rfl
  | case3 b rest ih => exact absurd rfl (List.isChain_cons_cons.mp h).1
  | case4 b c rest hne ih => rw [dropRepeats, if_neg hne, ih (List.isChain_cons_cons.mp h).2]

end Repeats

/-! ## Scores -/

/-- A score counts the points of a term as often as the term occurs. -/
theorem score_eq_sum {support : Finset String} (h : ∀ term ∈ terms, term ∈ support) :
    m.score terms = ∑ term ∈ support, terms.count term * m.termPoints term := by
  have hsubset : terms.toFinset ⊆ support := fun term hterm => h term (List.mem_toFinset.mp hterm)
  calc m.score terms
      = (terms.map m.termPoints).sum := rfl
    _ = ∑ term ∈ terms.toFinset, terms.count term * m.termPoints term :=
        Finset.sum_list_map_count terms m.termPoints
    _ = ∑ term ∈ support, terms.count term * m.termPoints term := by
        apply Finset.sum_subset hsubset
        intro term _ hterm
        rw [List.count_eq_zero.mpr fun hmem => hterm (List.mem_toFinset.mpr hmem), Nat.zero_mul]

theorem score_eq_of_perm (h : terms.Perm others) : m.score terms = m.score others :=
  (h.map m.termPoints).sum_eq

/-- The module of which nothing but its summary is searched. -/
def Module.ofSummary (summary : String) : Module := { summary }

/-- A term that a summary mentions is the summary itself, or shorter. -/
theorem length_lt_of_points {summary term : String}
    (hpoints : 0 < (Module.ofSummary summary).termPoints term)
    (hne : term ≠ Text.lowercase summary) : term.length < (Text.lowercase summary).length := by
  have hoccurs : term.toList <:+: (Text.lowercase summary).toList := by
    rcases termPoints_pos_iff.mp hpoints with hpath | hsummary | ⟨symbol, hsymbol, -⟩
    · rw [List.infix_nil.mp hpath]
      exact List.nil_infix
    · exact hsummary
    · exact absurd hsymbol List.not_mem_nil
  have hle := hoccurs.length_le
  have hlength : term.toList.length ≠ (Text.lowercase summary).toList.length := fun heq =>
    hne (String.toList_inj.mp (hoccurs.eq_of_length heq))
  rw [String.length_toList, String.length_toList] at *
  omega

/-- Scores tell how often a term occurs: a module that mentions the term and none of the longer ones
has its points, and those of shorter terms, which are counted already. -/
theorem count_eq_of_score_eq (hlower : ∀ term ∈ terms ++ others, ∃ text, Text.lowercase text = term)
    (hscore : ∀ m : Module, m.score terms = m.score others) (term : String) :
    terms.count term = others.count term := by
  -- on the length of the term: a summary that is the term mentions shorter ones besides
  induction hlength : term.length using Nat.strong_induction_on generalizing term with
  | _ length ih =>
    by_cases hmem : term ∈ terms ++ others
    · obtain ⟨summary, rfl⟩ := hlower term hmem
      have hterms : ∀ t ∈ terms, t ∈ (terms ++ others).toFinset := fun t ht =>
        List.mem_toFinset.mpr (List.mem_append_left _ ht)
      have hothers : ∀ t ∈ others, t ∈ (terms ++ others).toFinset := fun t ht =>
        List.mem_toFinset.mpr (List.mem_append_right _ ht)
      have hsum := hscore (.ofSummary summary)
      rw [score_eq_sum hterms, score_eq_sum hothers,
        ← Finset.add_sum_erase _ _ (List.mem_toFinset.mpr hmem),
        ← Finset.add_sum_erase _ _ (List.mem_toFinset.mpr hmem)] at hsum
      have hrest : ∑ t ∈ (terms ++ others).toFinset.erase (Text.lowercase summary),
            terms.count t * (Module.ofSummary summary).termPoints t =
          ∑ t ∈ (terms ++ others).toFinset.erase (Text.lowercase summary),
            others.count t * (Module.ofSummary summary).termPoints t := by
        apply Finset.sum_congr rfl
        intro t ht
        rcases Nat.eq_zero_or_pos ((Module.ofSummary summary).termPoints t) with hzero | hpoints
        · rw [hzero, Nat.mul_zero, Nat.mul_zero]
        · have hshorter := length_lt_of_points hpoints (Finset.ne_of_mem_erase ht)
          rw [ih t.length (hlength ▸ hshorter) t rfl]
      rw [hrest] at hsum
      have hpoints : 0 < (Module.ofSummary summary).termPoints (Text.lowercase summary) :=
        termPoints_pos_iff.mpr (.inr (.inl List.infix_rfl))
      exact Nat.eq_of_mul_eq_mul_right hpoints (Nat.add_right_cancel hsum)
    · rw [List.mem_append, not_or] at hmem
      rw [List.count_eq_zero.mpr hmem.1, List.count_eq_zero.mpr hmem.2]

/-! ## Searches -/

section Search

variable {doc : Document}

/-- The list of all hits depends on the scores of modules. -/
theorem ranking_congr (h : ∀ m : Module, m.score terms = m.score others) :
    doc.ranking estimator terms = doc.ranking estimator others := by
  have hhit : Module.hit? estimator terms = Module.hit? estimator others := by
    funext m
    rw [Module.hit?, Module.hit?, h m]
  rw [Document.ranking, Document.ranking, hhit]

/-- The order of the terms does not matter. -/
theorem search_eq_of_terms_perm (h : (queryTerms query).Perm (queryTerms other)) (limit : Nat) :
    doc.search query limit estimator = doc.search other limit estimator := by
  rw [search_eq_take, search_eq_take, ranking_congr fun m => score_eq_of_perm h]

/-- The document with a single module. -/
def Document.ofModule (m : Module) : Document := { schemaVersion := 1, modules := [m] }

/-- A search in a single module tells its score. -/
theorem search_ofModule (m : Module) (query : String) (estimator : Estimator) :
    Word.total (((Document.ofModule m).search query 1 estimator).map (·.score)) =
      m.score (queryTerms query) := by
  rw [search_eq_take, Document.ranking, Document.ofModule]
  dsimp only
  rw [List.filterMap_cons, List.filterMap_nil]
  cases hhit : m.hit? estimator (queryTerms query) with
  | none =>
    have hscore : m.score (queryTerms query) = 0 := by
      by_contra hne
      rw [hit?_eq_some_iff.mpr ⟨Nat.pos_of_ne_zero hne, rfl⟩] at hhit
      cases hhit
    simp [hscore]
  | some hit =>
    rw [(hit?_eq_some_iff.mp hhit).2]
    simp

/-- Queries that find the same in all documents have the same terms, up to their order. -/
theorem terms_perm_of_search_eq (h : ∀ (doc : Document) (limit : Nat) (estimator : Estimator),
    doc.search query limit estimator = doc.search other limit estimator) :
    (queryTerms query).Perm (queryTerms other) := by
  rw [List.perm_iff_count]
  apply count_eq_of_score_eq
  · intro term hterm
    rcases List.mem_append.mp hterm with hterm | hterm
    · exact exists_lowercase_of_mem_allTerms (mem_dropRepeats.mp hterm)
    · exact exists_lowercase_of_mem_allTerms (mem_dropRepeats.mp hterm)
  · intro m
    rw [← search_ofModule m query .standard, h, search_ofModule]

/-- A module matches a query when it mentions a term, which may be a repeated one. -/
theorem matchesTerms_queryTerms_iff :
    m.matchesTerms (queryTerms query) = true ↔ ∃ term ∈ allTerms query, m.Mentions term := by
  rw [matchesTerms_iff, score_pos_iff, queryTerms_eq]
  simp only [mem_dropRepeats]
  apply and_iff_right_of_imp
  rintro ⟨term, hterm, -⟩
  exact List.ne_nil_of_mem (mem_dropRepeats.mpr hterm)

/-- The words of a query may be permuted. Which modules match is not a matter of their order. What
is found is the same in all documents exactly when the terms are the same, up to their order, once
those that repeat their neighbour are dropped. So it is when no term is repeated. -/
theorem search_of_permuted_words {words permuted : List String} (h : words.Perm permuted) :
    (∀ m : Module, m.matchesTerms (queryTerms (Text.join " " words)) =
      m.matchesTerms (queryTerms (Text.join " " permuted))) ∧
    ((∀ (doc : Document) (limit : Nat) (estimator : Estimator),
        doc.search (Text.join " " words) limit estimator =
          doc.search (Text.join " " permuted) limit estimator) ↔
      (dropRepeats (words.flatMap allTerms)).Perm (dropRepeats (permuted.flatMap allTerms))) ∧
    ((words.flatMap allTerms).Nodup →
      ∀ (doc : Document) (limit : Nat) (estimator : Estimator),
        doc.search (Text.join " " words) limit estimator =
          doc.search (Text.join " " permuted) limit estimator) := by
  have hterms : (words.flatMap allTerms).Perm (permuted.flatMap allTerms) := h.flatMap_right _
  rw [← queryTerms_join, ← queryTerms_join]
  refine ⟨?_, ⟨terms_perm_of_search_eq, fun hperm doc limit estimator =>
    search_eq_of_terms_perm hperm limit⟩, ?_⟩
  · intro m
    rw [Bool.eq_iff_iff, matchesTerms_queryTerms_iff, matchesTerms_queryTerms_iff, allTerms_join,
      allTerms_join]
    simp only [hterms.mem_iff]
  · intro hnodup doc limit estimator
    apply search_eq_of_terms_perm
    rw [queryTerms_join, queryTerms_join, dropRepeats_of_isChain hnodup.isChain,
      dropRepeats_of_isChain (hterms.nodup_iff.mp hnodup).isChain]
    exact hterms

/-- The words of a query without repetitions. -/
def sampleWords : List String := ["Cache,", "invalidate()", "src/cache.rs"]

/-- They find the same from the last to the first, in every document. -/
theorem sampleWords_permuted :
    sampleWords.Perm sampleWords.reverse ∧ (sampleWords.flatMap allTerms).Nodup ∧
      ∀ (doc : Document) (limit : Nat) (estimator : Estimator),
        doc.search "Cache, invalidate() src/cache.rs" limit estimator =
          doc.search "src/cache.rs invalidate() Cache," limit estimator := by
  have hperm : sampleWords.Perm sampleWords.reverse := (List.reverse_perm _).symm
  have hnodup : (sampleWords.flatMap allTerms).Nodup := by decide +kernel
  exact ⟨hperm, hnodup, (search_of_permuted_words hperm).2.2 hnodup⟩

/-- A word counts twice when another one stands between its repetitions, and once otherwise. -/
theorem parted_repetition_counts_twice :
    let doc := Document.ofModule { path := "a.rs", symbols := ["fn a"] }
    ["a", "b", "a"].Perm ["a", "a", "b"] ∧
      doc.search "a b a" 1 .standard ≠ doc.search "a a b" 1 .standard := by
  intro doc
  refine ⟨by decide, fun heq => ?_⟩
  have hscores := congrArg (fun hits => Word.total (hits.map (·.score))) heq
  rw [search_ofModule, search_ofModule] at hscores
  exact absurd hscores (by decide +kernel)

end Search

end Switchboard.Index
