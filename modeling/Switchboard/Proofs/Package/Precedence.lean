import Switchboard.Proofs.Package.Filtering
import Switchboard.Proofs.Package.Greedy

/-!
# Lower priorities give way

Packing goes through the candidates in rank order and looks at what is taken already, so the
verdict on a candidate depends only on the candidates before it. A module that is added to a
document moves no other module to another rank, as long as it is not the active file itself. So
everything of a smaller rank than the new module is sorted, taken and refused as without it.

An overview would show the new module and may cost more with it, which is why scenarios with an
overview are left out.

## Main results

* `rulings_filter_rank` — the verdicts below a rank are those of the candidates below it.
* `assemble_filter_rank_congr` — packages agree below a rank when their candidates do.
* `candidates_filter_insert` — below its rank, an added module leaves the candidates as they were.
* `lower_ranks_unmoved` — what has a smaller rank than an added module stays as it was.
-/

namespace Switchboard.Package

open Switchboard.Index (Document Module)
open Switchboard.StableSort (filter_lt_mergeSort_congr pairwise_mergeSort)

/-! ## Verdicts below a rank -/

/-- The verdicts below a rank do not depend on the candidates from this rank on, which stand
behind. -/
theorem rulings_filter_rank (budget used rank : Nat) {fragments : List Fragment}
    (hasc : fragments.Pairwise fun a b => a.rank ≤ b.rank) :
    ((rulings budget used fragments).filter fun r => r.1.rank < rank) =
      rulings budget used (fragments.filter fun f => f.rank < rank) := by
  induction fragments generalizing used with
  | nil => rfl
  | cons f rest ih =>
      obtain ⟨hhead, htail⟩ := List.pairwise_cons.mp hasc
      by_cases hf : f.rank < rank
      · rw [List.filter_cons_of_pos (by simpa using hf), rulings, rulings]
        split
        · rw [List.filter_cons_of_pos (by simpa using hf), ih _ htail]
        · rw [List.filter_cons_of_pos (by simpa using hf), ih _ htail]
      · -- nothing from here on has a smaller rank
        have hnone : ∀ g ∈ f :: rest, ¬ g.rank < rank := by
          refine List.forall_mem_cons.mpr ⟨hf, fun g hg => ?_⟩
          have := hhead g hg
          omega
        have hempty : ((f :: rest).filter fun g => g.rank < rank) = [] := by
          rw [List.filter_eq_nil_iff]
          intro g hg
          simpa using hnone g hg
        rw [hempty, rulings, List.filter_eq_nil_iff]
        intro r hr
        have hfst : r.1 ∈ f :: rest := by
          rw [← rulings_fst budget used (f :: rest)]
          exact List.mem_map_of_mem hr
        simpa using hnone r.1 hfst

theorem filter_taken (p : Fragment → Bool) (rulings : List Ruling) :
    (taken rulings).filter p = taken (rulings.filter fun r => p r.1) := by
  rw [taken, taken, List.filter_map, List.filter_filter, List.filter_filter]
  congr 2
  funext r
  exact Bool.and_comm _ _

theorem filter_refused (p : Fragment → Bool) (rulings : List Ruling) :
    (refused rulings).filter p = refused (rulings.filter fun r => p r.1) := by
  rw [refused, refused, List.filter_map, List.filter_filter, List.filter_filter]
  congr 2
  funext r
  exact Bool.and_comm _ _

section Assembly

variable (estimator : Estimator) (scenario : Scenario) (request : Request)

/-- The rulings of an assembly below a rank. -/
theorem assemblyRulings_filter_rank (doc : Document) (rank : Nat) :
    ((assemblyRulings estimator scenario doc request).filter fun r => r.1.rank < rank) =
      rulings scenario.budget 0
        ((sortByRank (candidates estimator (ruleContext scenario doc request) doc)).filter
          fun f => f.rank < rank) :=
  rulings_filter_rank scenario.budget 0 rank (pairwise_mergeSort Fragment.rank _)

/-- Two documents whose candidates agree below a rank give packages that agree below it. -/
theorem assemble_filter_rank_congr {doc other : Document} {rank : Nat}
    (h : ((candidates estimator (ruleContext scenario doc request) doc).filter
        fun f => f.rank < rank) =
      (candidates estimator (ruleContext scenario other request) other).filter
        fun f => f.rank < rank) :
    ((assemble estimator scenario doc request).fragments.filter fun f => f.rank < rank) =
        ((assemble estimator scenario other request).fragments.filter fun f => f.rank < rank) ∧
      ((assemble estimator scenario doc request).rejected.filter fun r => r.rank < rank) =
        (assemble estimator scenario other request).rejected.filter fun r => r.rank < rank := by
  have hrulings : ((assemblyRulings estimator scenario doc request).filter
        fun r => r.1.rank < rank) =
      (assemblyRulings estimator scenario other request).filter fun r => r.1.rank < rank := by
    rw [assemblyRulings_filter_rank, assemblyRulings_filter_rank]
    exact congrArg _ (filter_lt_mergeSort_congr Fragment.rank rank h)
  have hreject (rulings : List Ruling) :
      (((refused rulings).map Fragment.reject).filter fun r => r.rank < rank) =
        (refused (rulings.filter fun r => r.1.rank < rank)).map Fragment.reject := by
    rw [List.filter_map, ← filter_refused fun f => f.rank < rank]
    rfl
  constructor
  · rw [assemble_fragments, assemble_fragments, filter_taken, filter_taken, hrulings]
  · rw [assemble_rejected, assemble_rejected, hreject, hreject, hrulings]

end Assembly

/-! ## A module more -/

section Insertion

variable {doc : Document} {earlier later : List Module} {m : Module}

/-- A module that is not the active file does not change which module this is. -/
theorem bind_find?_insert {activeFile : Option String} (h : activeFile ≠ some m.path) :
    activeFile.bind ({ doc with modules := earlier ++ m :: later } : Document).find? =
      activeFile.bind ({ doc with modules := earlier ++ later } : Document).find? := by
  cases activeFile with
  | none => rfl
  | some path =>
      have hpath : m.path ≠ path := fun heq => h (congrArg some heq.symm)
      show (earlier ++ m :: later).find? _ = (earlier ++ later).find? _
      rw [List.find?_append, List.find?_append, List.find?_cons_of_neg (by simpa using hpath)]

/-- So it does not change the fragment of any other module. -/
theorem moduleFragment_insert (estimator : Estimator) (scenario : Scenario) {request : Request}
    (hactive : request.activeFile ≠ some m.path) {n : Module} (hn : n ∈ earlier ++ later) :
    moduleFragment estimator
        (ruleContext scenario { doc with modules := earlier ++ m :: later } request) n =
      moduleFragment estimator
        (ruleContext scenario { doc with modules := earlier ++ later } request) n := by
  let larger : Document := { doc with modules := earlier ++ m :: later }
  let without : Document := { doc with modules := earlier ++ later }
  have hwithout : n ∈ without.modules := hn
  have hlarger : n ∈ larger.modules := by
    show n ∈ earlier ++ m :: later
    rw [List.mem_append, List.mem_cons]
    exact (List.mem_append.mp hn).imp_right .inr
  have hrank := rank_ruleContext_congr scenario hlarger hwithout (bind_find?_insert hactive)
  unfold moduleFragment
  rw [hrank]

/-- Without an overview the candidates are the admitted modules. -/
theorem candidates_of_no_overview (estimator : Estimator) {scenario : Scenario}
    (hoverview : scenario.includeOverview = false) (doc : Document) (request : Request) :
    candidates estimator (ruleContext scenario doc request) doc =
      (doc.modules.filter fun m => scenario.admits m.path).map
        (moduleFragment estimator (ruleContext scenario doc request)) := by
  unfold candidates
  rw [ruleContext_scenario, hoverview]
  rfl

/-- Below the rank of an added module the candidates are those of the document without it. -/
theorem candidates_filter_insert (estimator : Estimator) {scenario : Scenario}
    (hoverview : scenario.includeOverview = false) {request : Request}
    (hactive : request.activeFile ≠ some m.path) :
    let without : Document := { doc with modules := earlier ++ later }
    let larger : Document := { doc with modules := earlier ++ m :: later }
    let rank := ((ruleContext scenario larger request).rank m).1
    ((candidates estimator (ruleContext scenario larger request) larger).filter
        fun f => f.rank < rank) =
      (candidates estimator (ruleContext scenario without request) without).filter
        fun f => f.rank < rank := by
  intro without larger rank
  have hsame : ∀ modules ⊆ earlier ++ later,
      (modules.filter fun n => scenario.admits n.path).map
          (moduleFragment estimator (ruleContext scenario larger request)) =
        (modules.filter fun n => scenario.admits n.path).map
          (moduleFragment estimator (ruleContext scenario without request)) := by
    intro modules hsub
    refine List.map_congr_left fun n hn => ?_
    exact moduleFragment_insert estimator scenario hactive (hsub (List.mem_filter.mp hn).1)
  have hnone : (([m].filter fun n => scenario.admits n.path).map
      (moduleFragment estimator (ruleContext scenario larger request))).filter
        (fun f => f.rank < rank) = [] := by
    rw [List.filter_eq_nil_iff]
    intro f hf
    obtain ⟨n, hn, rfl⟩ := List.mem_map.mp hf
    obtain rfl := List.mem_singleton.mp (List.mem_filter.mp hn).1
    have hrank : (moduleFragment estimator (ruleContext scenario larger request) n).rank = rank :=
      rfl
    simp [hrank]
  rw [candidates_of_no_overview estimator hoverview, candidates_of_no_overview estimator hoverview]
  show ((List.map _ ((earlier ++ ([m] ++ later)).filter _)).filter _) =
    (List.map _ ((earlier ++ later).filter _)).filter _
  simp only [List.filter_append, List.map_append]
  rw [hsame earlier (List.subset_append_left _ _), hsame later (List.subset_append_right _ _),
    hnone, List.nil_append]

end Insertion

/-- **Lower priorities give way.** In a scenario without an overview, a module that is added
anywhere to a document and is not the active file leaves everything of a smaller rank as it was:
the same fragments are taken and the same ones are rejected, in the same order. -/
theorem lower_ranks_unmoved (estimator : Estimator) (scenario : Scenario)
    (hoverview : scenario.includeOverview = false) (request : Request) (doc : Document)
    (earlier later : List Module) (m : Module) (hactive : request.activeFile ≠ some m.path) :
    let without : Document := { doc with modules := earlier ++ later }
    let larger : Document := { doc with modules := earlier ++ m :: later }
    let rank := ((ruleContext scenario larger request).rank m).1
    ((assemble estimator scenario larger request).fragments.filter fun f => f.rank < rank) =
        ((assemble estimator scenario without request).fragments.filter fun f => f.rank < rank) ∧
      ((assemble estimator scenario larger request).rejected.filter fun r => r.rank < rank) =
        (assemble estimator scenario without request).rejected.filter fun r => r.rank < rank := by
  intro without larger rank
  exact assemble_filter_rank_congr estimator scenario request
    (candidates_filter_insert estimator hoverview hactive)

/-- A module that nothing depends on. -/
def looseModule : Module := { path := "c.rs", language := "rust", summary := "on its own" }

/-- The loose module has the last rank, so it leaves what the active file depends on in place. -/
theorem looseModule_lower_ranks_unmoved :
    let request : Request := { activeFile := some "a.rs" }
    guardedScenario.includeOverview = false ∧ request.activeFile ≠ some looseModule.path ∧
      ((assemble .standard guardedScenario { modules := looseModule :: openModules }
          request).fragments.filter fun f => f.rank < 4) =
        (assemble .standard guardedScenario { modules := openModules } request).fragments.filter
          fun f => f.rank < 4 := by
  intro request
  have hactive : request.activeFile ≠ some looseModule.path := by decide
  refine ⟨rfl, hactive, ?_⟩
  have hrank : ((ruleContext guardedScenario { modules := looseModule :: openModules }
      request).rank looseModule).1 = 4 := by decide +kernel
  have hkept := (lower_ranks_unmoved .standard guardedScenario rfl request {} [] openModules
    looseModule hactive).1
  rwa [List.nil_append, List.nil_append, hrank] at hkept

end Switchboard.Package
