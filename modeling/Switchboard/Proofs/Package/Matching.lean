import Switchboard.Proofs.Index.Search
import Switchboard.Proofs.Package.Filtering
import Switchboard.Proofs.Package.Greedy

/-!
# Assembly and search agree

A query is looked for in two places: a search scores all modules and lists the hits in order, while
assembly asks for each admitted module whether it matches at all, to rank it, and notes for the
whole package whether any did. Both find the same modules, and they show them in the same words at
the same price.

## Main results

* `queryMatched_iff` — what the package says of its query.
* `fragment_of_module` — the fragment of a module shows the module as a hit does.
* `search_agrees_with_assembly` — the modules found, the note, and the fragments.
-/

namespace Switchboard.Package

open Switchboard.Index (Document Module Hit queryTerms)

variable {estimator : Estimator} {scenario : Scenario} {doc : Document} {request : Request}

/-- A package says that its query was matched when there was nothing to look for, or an admitted
module matched. -/
theorem queryMatched_iff : (assemble estimator scenario doc request).queryMatched = true ↔
    request.query = none ∨ ∃ query, request.query = some query ∧ (queryTerms query = [] ∨
      ∃ m ∈ doc.modules, scenario.admits m.path = true ∧
        m.matchesTerms (queryTerms query) = true) := by
  show ((ruleContext scenario doc request).terms.isEmpty ||
    (admitted scenario doc).any fun m =>
      m.matchesTerms (ruleContext scenario doc request).terms) = true ↔ _
  unfold ruleContext admitted
  dsimp only
  cases request.query with
  | none => simp
  | some query => simp

/-- A fragment of a module comes from an admitted module, with its text and what this costs. -/
theorem fragment_of_module {f : Fragment}
    (hf : f ∈ (assemble estimator scenario doc request).fragments) (hkind : f.kind = .module) :
    ∃ m ∈ doc.modules, f.source = m.path ∧ f.text = m.render ∧
      f.tokens = estimator.estimate m.render := by
  rcases List.mem_append.mp (mem_candidates_of_mem_fragments estimator scenario doc request hf)
    with hoverview | hmodule
  · split at hoverview
    · rw [List.mem_singleton.mp hoverview] at hkind
      cases hkind
    · exact absurd hoverview List.not_mem_nil
  · obtain ⟨m, hm, rfl⟩ := List.mem_map.mp hmodule
    exact ⟨m, (List.mem_filter.mp hm).1, rfl, rfl, rfl⟩

/-- **Assembly and search agree.** In a document with distinct paths, an admitted module satisfies
the rule of matching queries exactly when a search for the query, with room for all modules, finds
it. The package says that its query was matched exactly when there was none, when it has no terms,
or when the search finds an admitted module. And a module that is both a fragment and a hit has the
same text and the same tokens as either. -/
theorem search_agrees_with_assembly (estimator : Estimator) (scenario : Scenario) (doc : Document)
    (hdistinct : (doc.modules.map (·.path)).Nodup) (request : Request) :
    let package := assemble estimator scenario doc request
    let hits (query : String) : List Hit := doc.search query doc.modules.length estimator
    (∀ query, request.query = some query → ∀ m ∈ doc.modules, scenario.admits m.path = true →
      ((ruleContext scenario doc request).admits m .queryMatch = true ↔
        ∃ hit ∈ hits query, hit.path = m.path)) ∧
    (package.queryMatched = true ↔ request.query = none ∨
      ∃ query, request.query = some query ∧ (queryTerms query = [] ∨
        ∃ m ∈ doc.modules, scenario.admits m.path = true ∧
          ∃ hit ∈ hits query, hit.path = m.path)) ∧
    (∀ query, ∀ f ∈ package.fragments, f.kind = .module → ∀ hit ∈ hits query,
      hit.path = f.source → f.text = hit.fragment.text ∧ f.tokens = hit.fragment.tokens) := by
  intro package hits
  have hfound {query : String} {m : Module} (hm : m ∈ doc.modules) :
      (∃ hit ∈ hits query, hit.path = m.path) ↔ m.matchesTerms (queryTerms query) = true :=
    Index.exists_mem_search_iff hdistinct (Nat.le_refl _) hm
  refine ⟨fun query hquery m hm _ => ?_, ?_, fun query f hf hkind hit hhit hpath => ?_⟩
  · rw [hfound hm]
    unfold ruleContext RuleContext.admits
    rw [hquery]
  · refine queryMatched_iff.trans (or_congr Iff.rfl (exists_congr fun query =>
      and_congr_right fun _ => or_congr Iff.rfl (exists_congr fun m => and_congr_right fun hm =>
        and_congr_right fun _ => (hfound hm).symm)))
  · obtain ⟨m, hm, hsource, htext, htokens⟩ := fragment_of_module hf hkind
    obtain ⟨-, n, hn, hshown⟩ := (Index.mem_search_iff (Nat.le_refl _)).mp hhit
    obtain ⟨-, rfl⟩ := Index.hit?_eq_some_iff.mp hshown
    have hsame : n = m := Index.eq_of_path_eq hdistinct hn hm (hpath.trans hsource)
    exact hsame ▸ ⟨htext, htokens⟩

/-- A module with a router. -/
def routerModule : Module := { path := "a.rs", language := "rust", symbols := ["fn Router"] }

/-- The module, one without a router, and one with a router that a scenario may exclude. -/
def routerDocument : Document where
  schemaVersion := 1
  metadata := { projectName := "match" }
  modules := [routerModule, { path := "b.rs", language := "rust" },
    { path := "secret.rs", language := "rust", summary := "the router" }]

/-- A query for a router finds the first module, by its rule and by a search. -/
theorem routerDocument_agrees :
    let request : Request := { query := some "(router)" }
    (∃ hit ∈ routerDocument.search "(router)" 3 .standard, hit.path = "a.rs") ∧
      (assemble .standard guardedScenario routerDocument request).queryMatched = true := by
  intro request
  obtain ⟨hrule, hmatched, -⟩ :=
    search_agrees_with_assembly .standard guardedScenario routerDocument (by decide) request
  have hadmits : guardedScenario.admits routerModule.path = true := by decide +kernel
  have hmem : routerModule ∈ routerDocument.modules := List.mem_cons_self
  have hfound := (hrule "(router)" rfl routerModule hmem hadmits).mp (by decide +kernel)
  exact ⟨hfound, hmatched.mpr (.inr ⟨_, rfl, .inr ⟨routerModule, hmem, hadmits, hfound⟩⟩)⟩

end Switchboard.Package
