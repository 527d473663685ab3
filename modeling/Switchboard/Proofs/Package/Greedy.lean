import Switchboard.Package.Assembly
import Switchboard.Proofs.StableSort

/-!
# Packages are packed greedily

Assembly filters, ranks, sorts and packs. What comes out can be said in one sentence: the
candidates stand in the order of their ranks, and going through them once, a candidate is taken
exactly when it still fits behind those taken before it.

The decisions are kept as *rulings*, the candidates in order, each with the verdict on it. The
fragments of a package are the candidates with one verdict and the rejected ones those with the
other, so nothing is lost, repeated or moved. `Greedy` says what every verdict depends on, and
all further facts are drawn from it alone.

## Main results

* `pack_eq` — packing splits the rulings by their verdicts.
* `Greedy.cost_le`, `Greedy.lt_of_refused` — the budget holds, and nothing refused would fit.
* `RuleContext.rank_firstRule` — a rank is the place of the first rule that admits the module.
* `assemble_greedy` — assembly as a whole.
-/

namespace Switchboard.Package

open Switchboard.Index (Document Module)
open Switchboard.Scenario (Rule)
open Switchboard.StableSort (buckets mergeSort_eq_buckets)

/-! ## Rulings -/

/-- A candidate with the verdict on it: true when it is taken. -/
abbrev Ruling := Fragment × Bool

/-- The tokens of a list of fragments. -/
def cost (fragments : List Fragment) : Nat := Word.total (fragments.map (·.tokens))

/-- The candidates that are taken. -/
def taken (rulings : List Ruling) : List Fragment := (rulings.filter (·.2)).map (·.1)

/-- The candidates that are not taken. -/
def refused (rulings : List Ruling) : List Fragment := (rulings.filter (!·.2)).map (·.1)

/-- Every candidate is taken exactly when it fits behind those taken before it, `used` tokens
having been spent at the start. -/
def Greedy (budget used : Nat) (rulings : List Ruling) : Prop :=
  ∀ before f kept after, rulings = before ++ (f, kept) :: after →
    (kept = true ↔ used + cost (taken before) + f.tokens ≤ budget)

@[simp] theorem cost_nil : cost [] = 0 := rfl

@[simp] theorem cost_cons (f : Fragment) (fragments : List Fragment) :
    cost (f :: fragments) = f.tokens + cost fragments := by
  simp only [cost, List.map_cons, Word.total_cons]

theorem cost_append (xs ys : List Fragment) : cost (xs ++ ys) = cost xs + cost ys := by
  simp only [cost, List.map_append, Word.total_append]

@[simp] theorem taken_nil : taken [] = [] := rfl

@[simp] theorem taken_cons_true (f : Fragment) (rulings : List Ruling) :
    taken ((f, true) :: rulings) = f :: taken rulings := rfl

@[simp] theorem taken_cons_false (f : Fragment) (rulings : List Ruling) :
    taken ((f, false) :: rulings) = taken rulings := rfl

theorem taken_append (xs ys : List Ruling) : taken (xs ++ ys) = taken xs ++ taken ys := by
  simp only [taken, List.filter_append, List.map_append]

@[simp] theorem refused_nil : refused [] = [] := rfl

@[simp] theorem refused_cons_true (f : Fragment) (rulings : List Ruling) :
    refused ((f, true) :: rulings) = refused rulings := rfl

@[simp] theorem refused_cons_false (f : Fragment) (rulings : List Ruling) :
    refused ((f, false) :: rulings) = f :: refused rulings := rfl

theorem mem_taken {f : Fragment} {rulings : List Ruling} :
    f ∈ taken rulings ↔ (f, true) ∈ rulings := by
  simp [taken]

theorem mem_refused {f : Fragment} {rulings : List Ruling} :
    f ∈ refused rulings ↔ (f, false) ∈ rulings := by
  simp [refused]

/-! ## What greedy rulings have in common -/

namespace Greedy

variable {budget used : Nat} {rulings : List Ruling}

/-- The verdict on the first candidate. -/
theorem head {f : Fragment} {kept : Bool} (h : Greedy budget used ((f, kept) :: rulings)) :
    kept = true ↔ used + f.tokens ≤ budget :=
  h [] f kept rulings rfl

/-- Behind a candidate that was taken the rulings are greedy with more tokens spent. -/
theorem tail_true {f : Fragment} (h : Greedy budget used ((f, true) :: rulings)) :
    Greedy budget (used + f.tokens) rulings := by
  intro before g kept after heq
  have := h ((f, true) :: before) g kept after (by rw [heq, List.cons_append])
  rw [taken_cons_true, cost_cons, ← Nat.add_assoc used] at this
  exact this

/-- Behind a candidate that was refused they are greedy as before. -/
theorem tail_false {f : Fragment} (h : Greedy budget used ((f, false) :: rulings)) :
    Greedy budget used rulings := by
  intro before g kept after heq
  have := h ((f, false) :: before) g kept after (by rw [heq, List.cons_append])
  rw [taken_cons_false] at this
  exact this

/-- The candidates taken stay within the budget. -/
theorem cost_le (h : Greedy budget used rulings) (hused : used ≤ budget) :
    used + cost (taken rulings) ≤ budget := by
  induction rulings generalizing used with
  | nil => simpa using hused
  | cons r rest ih =>
      obtain ⟨f, kept⟩ := r
      cases kept with
      | true =>
          have hfits : used + f.tokens ≤ budget := h.head.mp rfl
          have := ih h.tail_true hfits
          rw [taken_cons_true, cost_cons]
          omega
      | false =>
          rw [taken_cons_false]
          exact ih h.tail_false hused

/-- A refused candidate fits not even behind everything that was taken in the end. -/
theorem lt_of_refused (h : Greedy budget used rulings) {f : Fragment}
    (hf : f ∈ refused rulings) : budget < used + cost (taken rulings) + f.tokens := by
  obtain ⟨before, after, heq⟩ := List.append_of_mem (mem_refused.mp hf)
  have hverdict := h before f false after heq
  have hlate : ¬ used + cost (taken before) + f.tokens ≤ budget :=
    fun hfits => by simpa using hverdict.mpr hfits
  have hmore : cost (taken before) ≤ cost (taken rulings) := by
    rw [heq, taken_append, cost_append]
    exact Nat.le_add_right _ _
  omega

/-- Nothing is taken exactly when every candidate alone is too large. -/
theorem taken_eq_nil_iff (h : Greedy budget used rulings) :
    taken rulings = [] ↔ ∀ r ∈ rulings, budget < used + r.1.tokens := by
  constructor
  · intro hnil r hr
    obtain ⟨f, kept⟩ := r
    have hmem : f ∈ refused rulings := by
      cases kept with
      | true =>
          have : f ∈ taken rulings := mem_taken.mpr hr
          rw [hnil] at this
          exact absurd this List.not_mem_nil
      | false => exact mem_refused.mpr hr
    have := h.lt_of_refused hmem
    rw [hnil, cost_nil, Nat.add_zero] at this
    exact this
  · intro hlarge
    rw [List.eq_nil_iff_forall_not_mem]
    intro f hf
    obtain ⟨before, after, heq⟩ := List.append_of_mem (mem_taken.mp hf)
    have hfits := (h before f true after heq).mp rfl
    have := hlarge (f, true) (mem_taken.mp hf)
    simp only at this
    omega

end Greedy

/-! ## Packing -/

/-- The rulings of packing, when `used` tokens are already taken. -/
def rulings (budget : Nat) : Nat → List Fragment → List Ruling
  | _, [] => []
  | used, f :: rest =>
      if used + f.tokens ≤ budget then (f, true) :: rulings budget (used + f.tokens) rest
      else (f, false) :: rulings budget used rest

/-- Every candidate gets one verdict, in order. -/
theorem rulings_fst (budget used : Nat) (fragments : List Fragment) :
    (rulings budget used fragments).map (·.1) = fragments := by
  fun_induction rulings budget used fragments with
  | case1 => rfl
  | case2 used f rest hfits ih => rw [List.map_cons, ih]
  | case3 used f rest hfits ih => rw [List.map_cons, ih]

/-- Packing splits the rulings by their verdicts. -/
theorem pack_eq (budget used : Nat) (fragments : List Fragment) :
    pack budget used fragments =
      (taken (rulings budget used fragments),
        (refused (rulings budget used fragments)).map Fragment.reject) := by
  fun_induction rulings budget used fragments with
  | case1 => rfl
  | case2 used f rest hfits ih =>
      rw [pack, if_pos hfits, ih, taken_cons_true, refused_cons_true]
  | case3 used f rest hfits ih =>
      rw [pack, if_neg hfits, ih, taken_cons_false, refused_cons_false, List.map_cons]

/-- The rulings of packing are greedy. -/
theorem rulings_greedy (budget used : Nat) (fragments : List Fragment) :
    Greedy budget used (rulings budget used fragments) := by
  intro before
  -- by induction on what stands before the verdict in question, which is what it depends on
  induction before generalizing used fragments with
  | nil =>
      intro f kept after heq
      cases fragments with
      | nil => simp [rulings] at heq
      | cons g rest =>
          rw [rulings] at heq
          split at heq <;> simp_all
  | cons r before ih =>
      intro f kept after heq
      cases fragments with
      | nil => simp [rulings] at heq
      | cons g rest =>
          rw [rulings] at heq
          split at heq
          next hfits =>
            obtain ⟨rfl, hrest⟩ := List.cons.inj heq
            rw [ih (used + g.tokens) rest f kept after hrest, taken_cons_true, cost_cons,
              ← Nat.add_assoc used]
          next hfits =>
            obtain ⟨rfl, hrest⟩ := List.cons.inj heq
            rw [ih used rest f kept after hrest, taken_cons_false]

/-! ## Ranks -/

/-- The rank of a module and the rule that gave it: the rule is the first that admits the module
and the rank its place counted from one, or else no rule does and the rank lies behind all. -/
def RuleContext.FirstRule (ctx : RuleContext) (m : Module) (rank : Nat) (rule : Option Rule) :
    Prop :=
  (∃ before first after, ctx.scenario.rules = before ++ first :: after ∧
      (∀ r ∈ before, ctx.admits m r = false) ∧ ctx.admits m first = true ∧
      rank = 1 + before.length ∧ rule = some first) ∨
    ((∀ r ∈ ctx.scenario.rules, ctx.admits m r = false) ∧
      rank = ctx.scenario.rules.length + 1 ∧ rule = none)

/-- Ranks follow the first rule that admits a module. -/
theorem RuleContext.rank_firstRule (ctx : RuleContext) (m : Module) :
    ctx.FirstRule m (ctx.rank m).1 (ctx.rank m).2 := by
  unfold RuleContext.rank
  split
  next i hfind =>
    obtain ⟨hi, hadmits, hbefore⟩ := List.findIdx?_eq_some_iff_getElem.mp hfind
    refine .inl ⟨ctx.scenario.rules.take i, ctx.scenario.rules[i], ctx.scenario.rules.drop (i + 1),
      ?_, ?_, hadmits, ?_, ?_⟩
    · rw [List.getElem_cons_drop, List.take_append_drop]
    · intro r hr
      obtain ⟨j, hj, rfl⟩ := List.mem_take_iff_getElem.mp hr
      simpa using hbefore j (by omega)
    · rw [List.length_take, Nat.min_eq_left (Nat.le_of_lt hi), Nat.add_comm]
    · exact List.getElem?_eq_getElem hi
  next hfind =>
    refine .inr ⟨?_, rfl, rfl⟩
    intro r hr
    simpa using List.findIdx?_eq_none_iff.mp hfind r hr

/-- No rank lies beyond one more than the number of rules. -/
theorem RuleContext.rank_le (ctx : RuleContext) (m : Module) :
    (ctx.rank m).1 ≤ ctx.scenario.rules.length + 1 := by
  rcases ctx.rank_firstRule m with ⟨before, first, after, hrules, -, -, hrank, -⟩ | ⟨-, hrank, -⟩
  · have := congrArg List.length hrules
    rw [List.length_append, List.length_cons] at this
    omega
  · omega

/-- The ranks of all candidates are below two more than the number of rules. -/
theorem rank_lt_of_mem_candidates (estimator : Estimator) (ctx : RuleContext) (doc : Document)
    {f : Fragment} (hf : f ∈ candidates estimator ctx doc) :
    f.rank < ctx.scenario.rules.length + 2 := by
  rcases List.mem_append.mp hf with hoverview | hmodule
  · have hrank : f.rank = 0 := by
      split at hoverview
      · rw [List.mem_singleton.mp hoverview]
        rfl
      · exact absurd hoverview List.not_mem_nil
    omega
  · obtain ⟨m, -, rfl⟩ := List.mem_map.mp hmodule
    have : (ctx.rank m).1 ≤ ctx.scenario.rules.length + 1 := ctx.rank_le m
    show (ctx.rank m).1 < ctx.scenario.rules.length + 2
    omega

/-- Sorting the candidates writes them out rank by rank. -/
theorem sortByRank_candidates (estimator : Estimator) (ctx : RuleContext) (doc : Document) :
    sortByRank (candidates estimator ctx doc) =
      buckets Fragment.rank (ctx.scenario.rules.length + 2) (candidates estimator ctx doc) :=
  mergeSort_eq_buckets Fragment.rank _ fun _ hf => rank_lt_of_mem_candidates estimator ctx doc hf

/-- The context of a request has the scenario it was made for. -/
@[simp] theorem ruleContext_scenario (scenario : Scenario) (doc : Document) (request : Request) :
    (ruleContext scenario doc request).scenario = scenario := rfl

/-- The rulings behind the package of a request. -/
def assemblyRulings (estimator : Estimator) (scenario : Scenario) (doc : Document)
    (request : Request) : List Ruling :=
  rulings scenario.budget 0
    (sortByRank (candidates estimator (ruleContext scenario doc request) doc))

section Assembly

variable (estimator : Estimator) (scenario : Scenario) (doc : Document) (request : Request)

theorem assemblyRulings_greedy :
    Greedy scenario.budget 0 (assemblyRulings estimator scenario doc request) :=
  rulings_greedy scenario.budget 0 _

theorem assemble_fragments : (assemble estimator scenario doc request).fragments =
    taken (assemblyRulings estimator scenario doc request) := by
  simp only [assemble, pack_eq, assemblyRulings]

theorem assemble_rejected : (assemble estimator scenario doc request).rejected =
    (refused (assemblyRulings estimator scenario doc request)).map Fragment.reject := by
  simp only [assemble, pack_eq, assemblyRulings]

/-- A candidate has a ruling, and only candidates have. -/
theorem mem_assemblyRulings_fst {f : Fragment} :
    f ∈ (assemblyRulings estimator scenario doc request).map (·.1) ↔
      f ∈ candidates estimator (ruleContext scenario doc request) doc := by
  rw [assemblyRulings, rulings_fst, sortByRank, List.mem_mergeSort]

/-- A fragment of a package is one of the candidates. -/
theorem mem_candidates_of_mem_fragments {f : Fragment}
    (h : f ∈ (assemble estimator scenario doc request).fragments) :
    f ∈ candidates estimator (ruleContext scenario doc request) doc := by
  rw [assemble_fragments, mem_taken] at h
  exact (mem_assemblyRulings_fst estimator scenario doc request).mp (List.mem_map_of_mem h)

/-- Nothing is taken exactly when every candidate costs more than the budget. -/
theorem assemble_fragments_eq_nil_iff :
    (assemble estimator scenario doc request).fragments = [] ↔
      ∀ f ∈ candidates estimator (ruleContext scenario doc request) doc,
        scenario.budget < f.tokens := by
  rw [assemble_fragments,
    (assemblyRulings_greedy estimator scenario doc request).taken_eq_nil_iff]
  constructor
  · intro h f hf
    obtain ⟨r, hr, rfl⟩ :=
      List.mem_map.mp ((mem_assemblyRulings_fst estimator scenario doc request).mpr hf)
    simpa using h r hr
  · intro h r hr
    rw [Nat.zero_add]
    exact h r.1 ((mem_assemblyRulings_fst estimator scenario doc request).mp
      (List.mem_map_of_mem hr))

/-- Nothing is taken and nothing rejected exactly when there is no candidate. -/
theorem candidates_eq_nil_iff :
    candidates estimator (ruleContext scenario doc request) doc = [] ↔
      (assemble estimator scenario doc request).fragments = [] ∧
        (assemble estimator scenario doc request).rejected = [] := by
  rw [assemble_fragments, assemble_rejected, List.map_eq_nil_iff,
    List.eq_nil_iff_forall_not_mem, List.eq_nil_iff_forall_not_mem,
    List.eq_nil_iff_forall_not_mem]
  constructor
  · intro hnone
    refine ⟨fun f hf => ?_, fun f hf => ?_⟩
    · exact hnone f ((mem_assemblyRulings_fst estimator scenario doc request).mp
        (List.mem_map_of_mem (mem_taken.mp hf)))
    · exact hnone f ((mem_assemblyRulings_fst estimator scenario doc request).mp
        (List.mem_map_of_mem (mem_refused.mp hf)))
  · rintro ⟨htaken, hrefused⟩ f hf
    obtain ⟨⟨g, kept⟩, hr, rfl⟩ :=
      List.mem_map.mp ((mem_assemblyRulings_fst estimator scenario doc request).mpr hf)
    cases kept with
    | true => exact htaken g (mem_taken.mpr hr)
    | false => exact hrefused g (mem_refused.mpr hr)

end Assembly

/-- **Assembly is greedy packing in rank order.** The candidates are the overview, if the scenario
wants it, and then the admitted modules in document order. Written out rank by rank they get one
verdict each, which depends on what was taken before; the fragments and the rejected ones are those
with the one and with the other verdict. So the tokens stay within the budget, nothing rejected
would still fit, and a package is empty exactly when there is no candidate or none fits alone. -/
theorem assemble_greedy (estimator : Estimator) (scenario : Scenario) (doc : Document)
    (request : Request) :
    let ctx := ruleContext scenario doc request
    let offered :=
      (if scenario.includeOverview then [overviewFragment estimator doc] else []) ++
        (doc.modules.filter fun m => scenario.admits m.path).map (moduleFragment estimator ctx)
    let package := assemble estimator scenario doc request
    (overviewFragment estimator doc).rank = 0 ∧
    (∀ m, ctx.FirstRule m (moduleFragment estimator ctx m).rank
      (moduleFragment estimator ctx m).rule) ∧
    (∃ rulings : List Ruling,
      rulings.map (·.1) = buckets Fragment.rank (scenario.rules.length + 2) offered ∧
      Greedy scenario.budget 0 rulings ∧
      package.fragments = taken rulings ∧
      package.rejected = (refused rulings).map Fragment.reject) ∧
    package.tokensUsed = Word.total (package.fragments.map (·.tokens)) ∧
    package.budget = scenario.budget ∧
    package.tokensUsed ≤ package.budget ∧
    (∀ r ∈ package.rejected, package.budget < package.tokensUsed + r.tokens) ∧
    (package.emptyReason = some .budgetTooSmall ↔
      offered ≠ [] ∧ ∀ f ∈ offered, scenario.budget < f.tokens) ∧
    (package.emptyReason = some .noCandidates ↔ offered = []) ∧
    (package.emptyReason = none ↔ ∃ f ∈ offered, f.tokens ≤ scenario.budget) := by
  intro ctx offered package
  have hgreedy := assemblyRulings_greedy estimator scenario doc request
  have hfragments : package.fragments = taken _ :=
    assemble_fragments estimator scenario doc request
  have hrejected : package.rejected = (refused _).map _ :=
    assemble_rejected estimator scenario doc request
  have hused : package.tokensUsed = cost (taken (assemblyRulings estimator scenario doc request)) :=
    congrArg cost hfragments
  have hreason : package.emptyReason = emptyReasonOf package.fragments package.rejected := rfl
  have hnone : offered = [] ↔ package.fragments = [] ∧ package.rejected = [] :=
    candidates_eq_nil_iff estimator scenario doc request
  have hlarge : package.fragments = [] ↔ ∀ f ∈ offered, scenario.budget < f.tokens :=
    assemble_fragments_eq_nil_iff estimator scenario doc request
  refine ⟨rfl, ctx.rank_firstRule, ⟨_, ?_, hgreedy, hfragments, hrejected⟩, rfl, rfl, ?_, ?_,
    ?_, ?_, ?_⟩
  · rw [assemblyRulings, rulings_fst, sortByRank_candidates]
    rfl
  · have := hgreedy.cost_le (Nat.zero_le _)
    rw [Nat.zero_add] at this
    rw [hused]
    exact this
  · intro r hr
    rw [hrejected] at hr
    obtain ⟨f, hf, rfl⟩ := List.mem_map.mp hr
    have := hgreedy.lt_of_refused hf
    rw [Nat.zero_add] at this
    rw [hused]
    exact this
  · rw [hreason, Ne, hnone, ← hlarge]
    by_cases hf : package.fragments = [] <;> by_cases hr : package.rejected = [] <;>
      simp [emptyReasonOf, hf, hr]
  · rw [hreason, hnone]
    by_cases hf : package.fragments = [] <;> by_cases hr : package.rejected = [] <;>
      simp [emptyReasonOf, hf, hr]
  · have hfits : package.fragments ≠ [] ↔ ∃ f ∈ offered, f.tokens ≤ scenario.budget := by
      rw [Ne, hlarge]
      simp only [Classical.not_forall, Nat.not_lt, exists_prop]
    rw [hreason, ← hfits]
    by_cases hf : package.fragments = [] <;> by_cases hr : package.rejected = [] <;>
      simp [emptyReasonOf, hf, hr]

end Switchboard.Package
