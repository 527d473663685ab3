import Switchboard.Package.Assembly

/-!
# What a scenario does not admit

Assembly looks at the whole document more than once: for the candidates, for the active file, for
what this file depends on, and for whether anything matches the query. What the active file depends
on is looked for among all modules, those that the scenario does not admit included. But only the
path of a module decides whether it is depended on, and a rule asks this only of modules that are
admitted. So a package without an overview shows nothing of the other modules: two documents that
have the same admitted modules and the same active file give the same package.

## Main results

* `mem_activeDependencies_iff` — what is depended on is told by its path.
* `rank_ruleContext_congr` — a module has the same rank in both documents.
* `assemble_congr` — both give the same package.
-/

namespace Switchboard.Package

open Switchboard.Index (Document Module)
open Switchboard.Scenario (Rule)

section ActiveFile

variable {doc other : Document} {m : Module}

/-- A module of a document is depended on when the active file names its path, and is another. -/
theorem mem_activeDependencies_iff (hm : m ∈ doc.modules) (activeFile : Option String) :
    m.path ∈ activeDependencies doc activeFile ↔
      ∃ active, activeFile.bind doc.find? = some active ∧ m.path ≠ active.path ∧
        active.dependencies.any (Dependency.names · m.path) = true := by
  unfold activeDependencies
  cases activeFile.bind doc.find? with
  | none => simp
  | some active =>
      simp only [List.mem_map, List.mem_filter, Bool.and_eq_true, decide_eq_true_eq,
        Option.some.injEq, exists_eq_left']
      constructor
      · rintro ⟨n, ⟨-, hnames⟩, hpath⟩
        rwa [hpath] at hnames
      · intro hnames
        exact ⟨m, ⟨hm, hnames⟩, rfl⟩

/-- Modules of both documents are depended on alike when the active file is the same. -/
theorem mem_activeDependencies_congr (hm : m ∈ doc.modules) (hm' : m ∈ other.modules)
    {activeFile : Option String}
    (hactive : activeFile.bind doc.find? = activeFile.bind other.find?) :
    m.path ∈ activeDependencies doc activeFile ↔ m.path ∈ activeDependencies other activeFile := by
  rw [mem_activeDependencies_iff hm, mem_activeDependencies_iff hm', hactive]

/-- The rules admit a module of both documents alike. -/
theorem admits_ruleContext_congr (scenario : Scenario) {request : Request} (hm : m ∈ doc.modules)
    (hm' : m ∈ other.modules)
    (hactive : request.activeFile.bind doc.find? = request.activeFile.bind other.find?) :
    (ruleContext scenario doc request).admits m = (ruleContext scenario other request).admits m := by
  funext rule
  cases rule with
  | activeDependencies => exact decide_eq_decide.mpr (mem_activeDependencies_congr hm hm' hactive)
  | queryMatch => rfl
  | critical => rfl
  | activeFile => rfl
  | summaries => rfl
  | remaining => rfl

/-- So it has the same rank in both, by the same rule. -/
theorem rank_ruleContext_congr (scenario : Scenario) {request : Request} (hm : m ∈ doc.modules)
    (hm' : m ∈ other.modules)
    (hactive : request.activeFile.bind doc.find? = request.activeFile.bind other.find?) :
    (ruleContext scenario doc request).rank m = (ruleContext scenario other request).rank m := by
  unfold RuleContext.rank
  rw [admits_ruleContext_congr scenario hm hm' hactive]
  rfl

end ActiveFile

/-- **What a scenario does not admit has no influence.** Without an overview, two documents with the
same admitted modules and the same active file give the same package. -/
theorem assemble_congr (estimator : Estimator) (scenario : Scenario)
    (hoverview : scenario.includeOverview = false) (request : Request) (doc other : Document)
    (hadmitted : (doc.modules.filter fun m => scenario.admits m.path) =
      other.modules.filter fun m => scenario.admits m.path)
    (hactive : request.activeFile.bind doc.find? = request.activeFile.bind other.find?) :
    assemble estimator scenario doc request = assemble estimator scenario other request := by
  have hadmitted : admitted scenario doc = admitted scenario other := hadmitted
  have hfragment : ∀ m ∈ admitted scenario doc,
      moduleFragment estimator (ruleContext scenario doc request) m =
        moduleFragment estimator (ruleContext scenario other request) m := by
    intro m hm
    have hm' : m ∈ admitted scenario other := hadmitted ▸ hm
    unfold moduleFragment
    rw [rank_ruleContext_congr scenario (List.mem_filter.mp hm).1 (List.mem_filter.mp hm').1
      hactive]
  have hcandidates : candidates estimator (ruleContext scenario doc request) doc =
      candidates estimator (ruleContext scenario other request) other := by
    show (if scenario.includeOverview then _ else []) ++ (admitted scenario doc).map _ =
      (if scenario.includeOverview then _ else []) ++ (admitted scenario other).map _
    rw [hoverview, List.map_congr_left hfragment, hadmitted]
    rfl
  unfold assemble
  dsimp only
  rw [hcandidates, hadmitted]
  rfl

/-- The active file `a.rs` depends on `b.rs` and on `secret/key.rs`. -/
def openModules : List Module := [
  { path := "a.rs", language := "rust", dependencies := ["b", "secret/key.rs"] },
  { path := "b.rs", language := "rust" }]

/-- A module that nobody shall see. -/
def secretModule : Module :=
  { path := "secret/key.rs", language := "rust", symbols := ["KEY"], summary := "holds the key",
    dependencies := ["a"], tags := ["critical"] }

/-- A scenario that excludes what starts with `s`. -/
def guardedScenario : Scenario where
  name := "guarded"
  budget := 100
  rules := [.queryMatch, .critical, .activeDependencies, .remaining]
  included := none
  excluded := [⟨[.byte 115, .star]⟩]
  critical := []
  includeOverview := false

/-- With the secret module or without it, a query for the key gives the same package. -/
theorem secretModule_assemble_congr :
    let request : Request := { query := some "key", activeFile := some "a.rs" }
    guardedScenario.admits secretModule.path = false ∧
      assemble .standard guardedScenario { modules := secretModule :: openModules } request =
        assemble .standard guardedScenario { modules := openModules } request := by
  refine ⟨by decide +kernel, ?_⟩
  exact assemble_congr .standard guardedScenario rfl _ _ _ (by decide +kernel) (by decide +kernel)

end Switchboard.Package
