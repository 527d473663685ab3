import Mathlib.Data.Prod.Lex
import Switchboard.Proofs.Index.Parsing
import Switchboard.Proofs.Index.Search
import Switchboard.Proofs.Text.Pieces

/-!
# The order of hits

Hits are ordered by three keys, of which the last one is the path. Where paths are distinct no two
hits tie, so they can be listed in one way only: a limit cuts this list off, and neither the limit
nor the order of the modules has a say in it.

Which modules are listed is a matter of single terms. The points for an equal symbol and for an
equal last word of a symbol are given only where the symbol contains the term anyway.

## Main results

* `Precedes.asymm`, `Precedes.trans`, `precedes_or_precedes` — the order is strict, and total for
  distinct paths.
* `ranking_pairwise`, `mem_ranking_iff`, `ranking_eq_of_perm` — the list of all hits.
* `search_eq_take` — a search gives the first hits of the list.
* `score_pos_iff` — which modules have a score.
* `search_is_ranked` — all of it for a search.
-/

namespace Switchboard.Index

variable {estimator : Estimator} {terms : List String} {m n : Module} {term symbol : String}

/-! ## The order -/

/-- A hit is listed before another one: the first key in which they differ decides. Paths are in the
order of their bytes. -/
inductive Precedes (a b : Hit) : Prop where
  | better (h : b.score < a.score)
  /-- The smaller module comes first. -/
  | smaller (hscore : a.score = b.score) (h : a.lineCount < b.lineCount)
  | byPath (hscore : a.score = b.score) (hlines : a.lineCount = b.lineCount) (h : a.path < b.path)

/-- The keys of a hit, in their lexicographic order. More points come first. -/
def Hit.key (h : Hit) : ℕᵒᵈ ×ₗ ℕ ×ₗ String :=
  toLex (OrderDual.toDual h.score, toLex (h.lineCount, h.path))

section Order

variable {a b c : Hit}

theorem Hit.key_lt_key_iff : a.key < b.key ↔ b.score < a.score ∨ a.score = b.score ∧
    (a.lineCount < b.lineCount ∨ a.lineCount = b.lineCount ∧ a.path < b.path) := by
  simp only [Hit.key, Prod.Lex.toLex_lt_toLex, OrderDual.toDual_lt_toDual, OrderDual.toDual_inj]

/-- The order of hits is that of their keys. -/
theorem precedes_iff : Precedes a b ↔ a.key < b.key := by
  rw [Hit.key_lt_key_iff]
  constructor
  · intro h
    cases h with
    | better h => exact .inl h
    | smaller hscore h => exact .inr ⟨hscore, .inl h⟩
    | byPath hscore hlines h => exact .inr ⟨hscore, .inr ⟨hlines, h⟩⟩
  · rintro (h | ⟨hscore, h | ⟨hlines, h⟩⟩)
    · exact .better h
    · exact .smaller hscore h
    · exact .byPath hscore hlines h

theorem Precedes.asymm (h : Precedes a b) : ¬ Precedes b a := by
  rw [precedes_iff] at h ⊢
  exact lt_asymm h

theorem Precedes.irrefl (a : Hit) : ¬ Precedes a a := fun h => h.asymm h

theorem Precedes.trans (hab : Precedes a b) (hbc : Precedes b c) : Precedes a c := by
  rw [precedes_iff] at *
  exact lt_trans hab hbc

/-- Hits with distinct paths do not tie. -/
theorem precedes_or_precedes (h : a.path ≠ b.path) : Precedes a b ∨ Precedes b a := by
  have hkey : a.key ≠ b.key := fun hkey => h (congrArg (fun key => (ofLex (ofLex key).2).2) hkey)
  rw [precedes_iff, precedes_iff]
  exact lt_or_gt_of_ne hkey

/-- Sorting compares hits by their keys. -/
theorem Hit.le_iff : a.le b = true ↔ a.key ≤ b.key := by
  rw [← not_lt, key_lt_key_iff]
  simp only [Hit.le, pathLe, Bool.or_eq_true, Bool.and_eq_true, Bool.not_eq_true',
    decide_eq_true_eq, decide_eq_false_iff_not]
  by_cases hpath : b.path < a.path
  · simp only [hpath, not_true, and_false, or_false, and_true]
    omega
  · simp only [hpath, not_false_iff, and_false, or_false, and_true]
    omega

theorem Hit.le_trans (a b c : Hit) (hab : a.le b = true) (hbc : b.le c = true) : a.le c = true := by
  rw [le_iff] at *
  exact hab.trans hbc

theorem Hit.le_total (a b : Hit) : (a.le b || b.le a) = true := by
  rw [Bool.or_eq_true, le_iff, le_iff]
  exact LinearOrder.le_total a.key b.key

/-- What is sorted before another hit precedes it, unless they have the same path. -/
theorem precedes_of_le (hpath : a.path ≠ b.path) (h : a.le b = true) : Precedes a b := by
  rcases precedes_or_precedes hpath with hab | hba
  · exact hab
  · rw [precedes_iff] at hba
    rw [Hit.le_iff] at h
    exact absurd h (not_le_of_gt hba)

end Order

/-! ## The list of all hits -/

/-- The hit that shows a module. -/
def Module.hit (estimator : Estimator) (terms : List String) (m : Module) : Hit where
  path := m.path
  score := m.score terms
  lineCount := m.lineCount
  fragment := { source := m.path, kind := .module, text := m.render,
                tokens := estimator.estimate m.render, rank := 0, rule := some .queryMatch }

/-- The hits of all modules, in their order. -/
def Document.ranking (estimator : Estimator) (terms : List String) (doc : Document) : List Hit :=
  (doc.modules.filterMap (Module.hit? estimator terms)).mergeSort Hit.le

section Ranking

variable {doc other : Document} {hit : Hit}

theorem ranking_perm (estimator : Estimator) (terms : List String) (doc : Document) :
    (doc.ranking estimator terms).Perm (doc.modules.filterMap (Module.hit? estimator terms)) :=
  List.mergeSort_perm _ _

/-- A module is listed once it has a score. -/
theorem mem_ranking_iff : hit ∈ doc.ranking estimator terms ↔
    ∃ m ∈ doc.modules, 0 < m.score terms ∧ hit = m.hit estimator terms := by
  rw [(ranking_perm estimator terms doc).mem_iff, List.mem_filterMap]
  simp only [hit?_eq_some_iff, Module.hit]

/-- Hits of modules with distinct paths have distinct paths. -/
theorem ranking_paths (hpaths : (doc.modules.map (·.path)).Nodup) :
    (doc.ranking estimator terms).Pairwise fun a b => a.path ≠ b.path := by
  have hmodules : doc.modules.Pairwise fun m n => m.path ≠ n.path := List.pairwise_map.mp hpaths
  have hhits : (doc.modules.filterMap (Module.hit? estimator terms)).Pairwise
      fun a b => a.path ≠ b.path := by
    apply hmodules.filterMap
    intro m n hne a ha b hb
    rw [(hit?_eq_some_iff.mp ha).2, (hit?_eq_some_iff.mp hb).2]
    exact hne
  exact hhits.perm (ranking_perm estimator terms doc).symm Ne.symm

/-- Where paths are distinct, every hit precedes the ones that are listed after it. -/
theorem ranking_pairwise (hpaths : (doc.modules.map (·.path)).Nodup) :
    (doc.ranking estimator terms).Pairwise Precedes := by
  have hsorted : (doc.ranking estimator terms).Pairwise fun a b => a.le b = true :=
    List.pairwise_mergeSort Hit.le_trans Hit.le_total _
  apply ((ranking_paths hpaths).and hsorted).imp
  intro a b hab
  exact precedes_of_le hab.1 hab.2

/-- The order of the modules does not matter, where paths are distinct. -/
theorem ranking_eq_of_perm (hpaths : (doc.modules.map (·.path)).Nodup)
    (hperm : other.modules.Perm doc.modules) :
    other.ranking estimator terms = doc.ranking estimator terms := by
  have hotherPaths : (other.modules.map (·.path)).Nodup := (hperm.map _).nodup_iff.mpr hpaths
  have hhits : (other.ranking estimator terms).Perm (doc.ranking estimator terms) :=
    (ranking_perm estimator terms other).trans
      ((hperm.filterMap _).trans (ranking_perm estimator terms doc).symm)
  apply hhits.eq_of_pairwise _ (ranking_pairwise hotherPaths) (ranking_pairwise hpaths)
  intro a b _ _ hab hba
  exact absurd hba hab.asymm

/-- Without terms there are no hits. -/
theorem ranking_nil (estimator : Estimator) (doc : Document) : doc.ranking estimator [] = [] := by
  apply List.eq_nil_iff_forall_not_mem.mpr
  intro hit hmem
  obtain ⟨m, -, hscore, -⟩ := mem_ranking_iff.mp hmem
  exact absurd hscore (Nat.lt_irrefl 0)

/-- A search gives the first hits of the list. -/
theorem search_eq_take (doc : Document) (query : String) (limit : Nat) (estimator : Estimator) :
    doc.search query limit estimator = (doc.ranking estimator (queryTerms query)).take limit := by
  unfold Document.search
  dsimp only
  split
  · rename_i hnone
    rw [Bool.or_eq_true, List.isEmpty_iff, decide_eq_true_eq] at hnone
    rcases hnone with hterms | hlimit
    · rw [hterms, ranking_nil, List.take_nil]
    · rw [hlimit, List.take_zero]
  · rfl

end Ranking

/-! ## Scores -/

/-- The last word of a text occurs in it. -/
theorem infix_lastWord (text : String) : (lastWord text).toList <:+: text.toList := by
  unfold lastWord Text.splitAt
  rw [List.getLast?_map]
  cases hlast : (Text.splitChars (· = ' ') text.toList).getLast? with
  | none => exact List.nil_infix
  | some piece =>
    show (String.ofList piece).toList <:+: text.toList
    rw [String.toList_ofList]
    exact Text.infix_of_mem_splitChars (List.mem_of_getLast? hlast)

/-- A symbol has points for the terms that occur in it, and for no others. -/
theorem symbolPoints_pos_iff : 0 < symbolPoints term symbol ↔ term.toList <:+: symbol.toList := by
  unfold symbolPoints
  split
  · rename_i hword
    rw [Bool.or_eq_true, decide_eq_true_eq, decide_eq_true_eq] at hword
    have hoccurs : term.toList <:+: symbol.toList := by
      rcases hword with rfl | hlast
      · exact List.infix_rfl
      · rw [← hlast]
        exact infix_lastWord symbol
    exact iff_of_true (by decide) hoccurs
  · split
    · rename_i hcontains
      exact iff_of_true (by decide) (Text.contains_iff.mp hcontains)
    · rename_i hcontains
      exact iff_of_false (Nat.lt_irrefl 0) fun hoccurs => hcontains (Text.contains_iff.mpr hoccurs)

/-- A term occurs in what is searched of a module, in lower case. -/
def Module.Mentions (m : Module) (term : String) : Prop :=
  term.toList <:+: (Text.lowercase m.path).toList ∨
    term.toList <:+: (Text.lowercase m.summary).toList ∨
      ∃ symbol ∈ m.symbols, term.toList <:+: (Text.lowercase symbol).toList

/-- The best symbol has points when some symbol has, or when there were points to start with. -/
theorem foldl_symbolPoints_pos_iff {symbols : List String} {start : Nat} :
    0 < (symbols.map fun s => symbolPoints term (Text.lowercase s)).foldl max start ↔
      0 < start ∨ ∃ symbol ∈ symbols, term.toList <:+: (Text.lowercase symbol).toList := by
  induction symbols generalizing start with
  | nil => simp
  | cons symbol symbols ih =>
    rw [List.map_cons, List.foldl_cons, ih, lt_max_iff, symbolPoints_pos_iff,
      List.exists_mem_cons_iff, or_assoc]

/-- A module has points for the terms that it mentions. -/
theorem termPoints_pos_iff : 0 < m.termPoints term ↔ m.Mentions term := by
  unfold Module.termPoints Module.Mentions
  dsimp only
  have hsymbols := @foldl_symbolPoints_pos_iff term m.symbols 0
  rw [or_iff_right (Nat.lt_irrefl 0)] at hsymbols
  rw [← hsymbols, ← Text.contains_iff, ← Text.contains_iff]
  by_cases hpath : Text.contains term (Text.lowercase m.path) = true
  · simp [hpath]
  · by_cases hsummary : Text.contains term (Text.lowercase m.summary) = true
    · simp [hsummary]
    · simp [hpath, hsummary]

/-- A module has a score when it mentions a term. -/
theorem score_pos_iff : 0 < m.score terms ↔ ∃ term ∈ terms, m.Mentions term := by
  unfold Module.score
  induction terms with
  | nil => simp
  | cons term terms ih =>
    rw [List.map_cons, Word.total_cons, List.exists_mem_cons_iff, ← ih, ← termPoints_pos_iff]
    omega

/-! ## Searches -/

section Search

variable {doc : Document} {limit : Nat} {a b : Hit}

/-- What a limit cuts off is preceded by what it leaves. -/
theorem precedes_of_omitted (hpaths : (doc.modules.map (·.path)).Nodup)
    (ha : a ∈ (doc.ranking estimator terms).take limit) (hb : b ∈ doc.ranking estimator terms)
    (homitted : b ∉ (doc.ranking estimator terms).take limit) : Precedes a b := by
  have hpairwise : (doc.ranking estimator terms).Pairwise Precedes := ranking_pairwise hpaths
  rw [← List.take_append_drop limit (doc.ranking estimator terms)] at hpairwise hb
  rcases List.mem_append.mp hb with htaken | hdropped
  · exact absurd htaken homitted
  · exact (List.pairwise_append.mp hpairwise).2.2 a ha b hdropped

/-- A search lists the first hits of the modules with a score, in a strict order. So what it omits
comes after what it gives, a smaller limit gives a prefix of what a larger one gives, and the order
of the modules does not matter. A module has a score when it mentions a term of the query. -/
theorem search_is_ranked (hpaths : (doc.modules.map (·.path)).Nodup) (query : String)
    (estimator : Estimator) :
    (∃ ranked : List Hit, ranked.Pairwise Precedes ∧
      (∀ hit, hit ∈ ranked ↔ ∃ m ∈ doc.modules, 0 < m.score (queryTerms query) ∧
        hit = m.hit estimator (queryTerms query)) ∧
      ∀ limit, doc.search query limit estimator = ranked.take limit) ∧
    (∀ a, ¬ Precedes a a) ∧ (∀ a b c, Precedes a b → Precedes b c → Precedes a c) ∧
    (∀ limit, ∀ given ∈ doc.search query limit estimator, ∀ m ∈ doc.modules,
      0 < m.score (queryTerms query) →
      m.hit estimator (queryTerms query) ∉ doc.search query limit estimator →
      Precedes given (m.hit estimator (queryTerms query))) ∧
    (∀ smaller larger, smaller ≤ larger →
      doc.search query smaller estimator <+: doc.search query larger estimator) ∧
    (∀ other : Document, other.modules.Perm doc.modules → ∀ limit,
      other.search query limit estimator = doc.search query limit estimator) ∧
    ∀ m : Module, 0 < m.score (queryTerms query) ↔ ∃ term ∈ queryTerms query, m.Mentions term := by
  refine ⟨⟨doc.ranking estimator (queryTerms query), ranking_pairwise hpaths,
    fun hit => mem_ranking_iff, fun limit => search_eq_take doc query limit estimator⟩,
    Precedes.irrefl, fun a b c => Precedes.trans, ?_, ?_, ?_, fun m => score_pos_iff⟩
  · intro limit given hgiven m hm hscore homitted
    rw [search_eq_take] at hgiven homitted
    exact precedes_of_omitted hpaths hgiven (mem_ranking_iff.mpr ⟨m, hm, hscore, rfl⟩) homitted
  · intro smaller larger hle
    rw [search_eq_take, search_eq_take]
    exact List.take_prefix_take_left hle
  · intro other hperm limit
    rw [search_eq_take, search_eq_take, ranking_eq_of_perm hpaths hperm]

/-- Three modules with the same score, of which two have the same size, and one with fewer points:
in the order of their hits. -/
def tiedDocument : Document where
  schemaVersion := 1
  modules := [
    { path := "d.rs", symbols := ["fn relay"], lineCount := 4 },
    { path := "a.rs", symbols := ["fn relay"], lineCount := 9 },
    { path := "b.rs", symbols := ["fn relay"], lineCount := 9 },
    { path := "c.rs", summary := "A relay", lineCount := 1 }]

/-- The smaller module comes first, then the first path, also when the modules are read from the
other end. -/
theorem tiedDocument_ranked :
    let reversed : Document := { tiedDocument with modules := tiedDocument.modules.reverse }
    (tiedDocument.modules.map (·.path)).Nodup ∧
      reversed.search "relay" 2 .standard = tiedDocument.search "relay" 2 .standard ∧
      (tiedDocument.search "relay" 2 .standard).map (·.path) = ["d.rs", "a.rs"] ∧
      tiedDocument.search "relay" 1 .standard <+: tiedDocument.search "relay" 2 .standard := by
  intro reversed
  have hpaths : (tiedDocument.modules.map (·.path)).Nodup := by decide
  obtain ⟨-, -, -, -, hprefix, hperm, -⟩ := search_is_ranked hpaths "relay" .standard
  refine ⟨hpaths, hperm reversed (List.reverse_perm _) 2, ?_, hprefix 1 2 (by decide)⟩
  rw [search_eq_take, Document.ranking, List.mergeSort_of_pairwise (by decide +kernel)]
  decide +kernel

end Search

end Switchboard.Index
