import Switchboard.Proofs.Package.Matching

/-!
# What a query decides

A query reaches assembly as a list of terms, and the terms are asked one question only: does this
admitted module match? The rule of matching queries asks it to rank the module, wherever the rule
stands among the others, and the package notes whether the answer was ever yes. Nothing else looks
at the terms. So two queries that match the same admitted modules rank, sort, take and refuse alike,
and a query that matches none of them fills the package as if there were no query.

## Main results

* `candidates_query_congr` — queries that match alike have the same candidates.
* `queryMatched_eq_false_iff` — when a package notes that nothing matched.
* `query_decides_by_matches` — the packages of two queries.
-/

namespace Switchboard.Package

open Switchboard.Index (Document Module queryTerms)

/-- The terms of a query; without a query there are none. -/
def termsOf : Option String → List String
  | some query => queryTerms query
  | none => []

/-- The admitted modules that match a query, in document order. -/
def matched (scenario : Scenario) (doc : Document) (query : Option String) : List Module :=
  (admitted scenario doc).filter fun m => m.matchesTerms (termsOf query)

section Query

variable {scenario : Scenario} {doc : Document} {activeFile query other : Option String}
  {m : Module}

theorem ruleContext_terms (request : Request) :
    (ruleContext scenario doc request).terms = termsOf request.query := by
  cases h : request.query <;> simp [ruleContext, termsOf, h]

theorem matched_none : matched scenario doc none = [] :=
  List.filter_eq_nil_iff.mpr fun _ _ => Bool.false_ne_true

/-- Two queries that match the same admitted modules answer alike for each of them. -/
theorem matchesTerms_congr
    (h : ∀ m, m ∈ matched scenario doc query ↔ m ∈ matched scenario doc other)
    (hm : m ∈ admitted scenario doc) :
    m.matchesTerms (termsOf query) = m.matchesTerms (termsOf other) := by
  have hiff := h m
  simp only [matched, List.mem_filter, hm, true_and] at hiff
  exact Bool.eq_iff_iff.mpr hiff

/-- The rules admit a module alike for queries that match it alike. -/
theorem admits_query_congr (h : m.matchesTerms (termsOf query) = m.matchesTerms (termsOf other)) :
    (ruleContext scenario doc ⟨query, activeFile⟩).admits m =
      (ruleContext scenario doc ⟨other, activeFile⟩).admits m := by
  funext rule
  cases rule with
  | queryMatch =>
      show m.matchesTerms _ = m.matchesTerms _
      rw [ruleContext_terms, ruleContext_terms]
      exact h
  | critical => rfl
  | activeFile => rfl
  | activeDependencies => rfl
  | summaries => rfl
  | remaining => rfl

/-- So the module has the same rank by the same rule, and the same fragment. -/
theorem moduleFragment_query_congr (estimator : Estimator)
    (h : m.matchesTerms (termsOf query) = m.matchesTerms (termsOf other)) :
    moduleFragment estimator (ruleContext scenario doc ⟨query, activeFile⟩) m =
      moduleFragment estimator (ruleContext scenario doc ⟨other, activeFile⟩) m := by
  have hrank : (ruleContext scenario doc ⟨query, activeFile⟩).rank m =
      (ruleContext scenario doc ⟨other, activeFile⟩).rank m := by
    unfold RuleContext.rank
    rw [admits_query_congr h]
    rfl
  unfold moduleFragment
  rw [hrank]

/-- Queries that match the same admitted modules have the same candidates. -/
theorem candidates_query_congr (estimator : Estimator) (activeFile : Option String)
    (h : ∀ m, m ∈ matched scenario doc query ↔ m ∈ matched scenario doc other) :
    candidates estimator (ruleContext scenario doc ⟨query, activeFile⟩) doc =
      candidates estimator (ruleContext scenario doc ⟨other, activeFile⟩) doc := by
  have hmodules : (admitted scenario doc).map
        (moduleFragment estimator (ruleContext scenario doc ⟨query, activeFile⟩)) =
      (admitted scenario doc).map
        (moduleFragment estimator (ruleContext scenario doc ⟨other, activeFile⟩)) :=
    List.map_congr_left fun m hm => moduleFragment_query_congr estimator (matchesTerms_congr h hm)
  exact congrArg _ hmodules

/-- A package notes that nothing matched when there was a term to look for and no admitted module
matches. -/
theorem queryMatched_eq_false_iff {estimator : Estimator} {request : Request} :
    (assemble estimator scenario doc request).queryMatched = false ↔
      termsOf request.query ≠ [] ∧ matched scenario doc request.query = [] := by
  show ((ruleContext scenario doc request).terms.isEmpty ||
    (admitted scenario doc).any fun m =>
      m.matchesTerms (ruleContext scenario doc request).terms) = false ↔ _
  rw [ruleContext_terms, Bool.or_eq_false_iff, List.isEmpty_eq_false_iff, List.any_eq_false,
    matched, List.filter_eq_nil_iff]

end Query

/-- **A query decides by what it matches.** Two queries, or a query and none, that match the same
admitted modules give packages with the same fragments, rejections, tokens and reason for being
empty. So a query that matches no admitted module takes and rejects what is taken and rejected
without a query; and the package says that its query was not matched exactly when the query has a
term and no admitted module matches. -/
theorem query_decides_by_matches (estimator : Estimator) (scenario : Scenario) (doc : Document)
    (activeFile : Option String) :
    let package (query : Option String) := assemble estimator scenario doc ⟨query, activeFile⟩
    (∀ query other : Option String,
      (∀ m, m ∈ matched scenario doc query ↔ m ∈ matched scenario doc other) →
        (package query).fragments = (package other).fragments ∧
        (package query).rejected = (package other).rejected ∧
        (package query).tokensUsed = (package other).tokensUsed ∧
        (package query).emptyReason = (package other).emptyReason) ∧
    (∀ query : String, matched scenario doc (some query) = [] →
      (package (some query)).fragments = (package none).fragments ∧
      (package (some query)).rejected = (package none).rejected) ∧
    ∀ query : Option String, (package query).queryMatched = false ↔
      termsOf query ≠ [] ∧ matched scenario doc query = [] := by
  intro package
  have hsame (query other : Option String)
      (h : ∀ m, m ∈ matched scenario doc query ↔ m ∈ matched scenario doc other) :
      (package query).fragments = (package other).fragments ∧
      (package query).rejected = (package other).rejected ∧
      (package query).tokensUsed = (package other).tokensUsed ∧
      (package query).emptyReason = (package other).emptyReason := by
    have hcandidates := candidates_query_congr estimator activeFile h
    simp only [package, assemble, hcandidates, and_self]
  refine ⟨hsame, fun query hnone => ?_, fun query => queryMatched_eq_false_iff⟩
  obtain ⟨hfragments, hrejected, -⟩ := hsame (some query) none fun m => by
    rw [hnone, matched_none]
  exact ⟨hfragments, hrejected⟩

/-- Two spellings of a query match the same module, and a third query matches only a module that is
not admitted. -/
theorem routerDocument_decides_by_matches :
    let package (query : Option String) :=
      assemble .standard guardedScenario routerDocument ⟨query, some "b.rs"⟩
    matched guardedScenario routerDocument (some "(router)") = [routerModule] ∧
      (package (some "(router)")).fragments = (package (some "Rout, ROUT")).fragments ∧
      matched guardedScenario routerDocument (some "secret") = [] ∧
      (package (some "secret")).fragments = (package none).fragments ∧
      (package (some "secret")).queryMatched = false := by
  intro package
  obtain ⟨hsame, hnone, hnoted⟩ :=
    query_decides_by_matches .standard guardedScenario routerDocument (some "b.rs")
  have hrouter : matched guardedScenario routerDocument (some "(router)") = [routerModule] := by
    decide +kernel
  have hrout : matched guardedScenario routerDocument (some "Rout, ROUT") = [routerModule] := by
    decide +kernel
  have hsecret : matched guardedScenario routerDocument (some "secret") = [] := by decide +kernel
  refine ⟨hrouter, (hsame _ _ fun m => by rw [hrouter, hrout]).1, hsecret, (hnone _ hsecret).1, ?_⟩
  exact (hnoted (some "secret")).mpr ⟨by decide +kernel, hsecret⟩

end Switchboard.Package
