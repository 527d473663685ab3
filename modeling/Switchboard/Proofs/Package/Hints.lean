import Mathlib.Data.Finset.Max
import Switchboard.Proofs.Package.Precedence
import Switchboard.Proofs.Package.Tally

/-!
# What a larger budget makes room for

A package hints at larger budgets, one for every rule that lost fragments: what was used and what
this rule lost. Packing anew with such a budget goes through all candidates again, and those of
smaller ranks that were rejected come first. So the hint is right when no other rule lost a fragment
of at most the same rank, as for the first rule that lost one. Otherwise their tokens have to be
added.

The overview has no rule, like the modules that no rule admits. It shares a hint with them, but not
a rank.

## Main results

* `rule_eq_of_rank_eq`, `rank_eq_of_rule_eq` — ranks and rules of candidates.
* `le_rank_of_rejected` — with room for all that was rejected below a rank, nothing of it is
  rejected.
* `hinted_budget_suffices` — when the budget of a hint makes room for what the hint counts.
-/

namespace Switchboard.Package

open Switchboard.Index (Document Module)
open Switchboard.Scenario (Rule)
open Switchboard.StableSort (pairwise_mergeSort)

/-! ## Ranks and rules -/

section Ranks

variable {estimator : Estimator} {ctx : RuleContext} {doc : Document} {m : Module} {f g : Fragment}

/-- A module has a rank from one on, which tells its rule. -/
theorem RuleContext.rule_of_rank (ctx : RuleContext) (m : Module) :
    1 ≤ (ctx.rank m).1 ∧ (ctx.rank m).2 = ctx.scenario.rules[(ctx.rank m).1 - 1]? := by
  unfold RuleContext.rank
  split
  · exact ⟨Nat.le_add_left 1 _, rfl⟩
  · refine ⟨Nat.le_add_left 1 _, ?_⟩
    rw [Nat.add_sub_cancel, List.getElem?_length]

/-- The rank of a module is the place of its rule. -/
theorem RuleContext.rank_of_rule (ctx : RuleContext) (m : Module) :
    (ctx.rank m).1 = (match (ctx.rank m).2 with
      | some rule => ctx.scenario.rules.idxOf rule
      | none => ctx.scenario.rules.length) + 1 := by
  rcases ctx.rank_firstRule m with
    ⟨before, first, after, hrules, hbefore, hadmits, hrank, hrule⟩ | ⟨-, hrank, hrule⟩
  · have hfirst : first ∉ before := fun hmem => by
      rw [hbefore first hmem] at hadmits
      cases hadmits
    rw [hrank, hrule, hrules]
    dsimp only
    rw [List.idxOf_append_of_notMem hfirst, List.idxOf_cons_self]
    omega
  · rw [hrank, hrule]

theorem mem_candidates_iff : f ∈ candidates estimator ctx doc ↔
    (ctx.scenario.includeOverview = true ∧ f = overviewFragment estimator doc) ∨
      ∃ m ∈ admitted ctx.scenario doc, moduleFragment estimator ctx m = f := by
  unfold candidates
  rw [List.mem_append, List.mem_map]
  split
  · rename_i hoverview
    simp [hoverview]
  · rename_i hoverview
    simp [hoverview]

/-- Candidates of one rank have one rule. -/
theorem rule_eq_of_rank_eq (hf : f ∈ candidates estimator ctx doc)
    (hg : g ∈ candidates estimator ctx doc) (h : f.rank = g.rank) : f.rule = g.rule := by
  have hmodule (m n : Module) (hrank : (ctx.rank m).1 = (ctx.rank n).1) :
      (ctx.rank m).2 = (ctx.rank n).2 := by
    rw [(ctx.rule_of_rank m).2, (ctx.rule_of_rank n).2, hrank]
  have hpos (n : Module) : (ctx.rank n).1 ≠ 0 := by
    have := (ctx.rule_of_rank n).1
    omega
  rcases mem_candidates_iff.mp hf with ⟨-, rfl⟩ | ⟨m, -, rfl⟩
  · rcases mem_candidates_iff.mp hg with ⟨-, rfl⟩ | ⟨n, -, rfl⟩
    · rfl
    · exact absurd h.symm (hpos n)
  · rcases mem_candidates_iff.mp hg with ⟨-, rfl⟩ | ⟨n, -, rfl⟩
    · exact absurd h (hpos m)
    · exact hmodule m n h

/-- Candidates of one rule have one rank, unless they are without a rule like the overview. -/
theorem rank_eq_of_rule_eq (hf : f ∈ candidates estimator ctx doc)
    (hg : g ∈ candidates estimator ctx doc) (h : f.rule = g.rule)
    (hsome : f.rule ≠ none ∨ ctx.scenario.includeOverview = false) : f.rank = g.rank := by
  have hnone (hoverview : ctx.scenario.includeOverview = true) (hrule : f.rule = none) : False :=
    hsome.elim (fun hne => hne hrule) fun hoff => by
      rw [hoff] at hoverview
      cases hoverview
  rcases mem_candidates_iff.mp hf with ⟨hoverview, rfl⟩ | ⟨m, -, rfl⟩
  · exact (hnone hoverview rfl).elim
  · rcases mem_candidates_iff.mp hg with ⟨hoverview, rfl⟩ | ⟨n, -, rfl⟩
    · exact (hnone hoverview h).elim
    · show (ctx.rank m).1 = (ctx.rank n).1
      have hrule : (ctx.rank m).2 = (ctx.rank n).2 := h
      rw [ctx.rank_of_rule m, ctx.rank_of_rule n, hrule]

end Ranks

/-! ## Raised budgets -/

section Raising

variable {estimator : Estimator} {scenario : Scenario} {doc : Document} {request : Request}
  {budget used bound : Nat} {r : Rejected}

/-- The candidates do not depend on the budget. -/
theorem candidates_withBudget :
    candidates estimator (ruleContext { scenario with budget } doc request) doc =
      candidates estimator (ruleContext scenario doc request) doc := rfl

/-- Everything is taken that fits as a whole. -/
theorem rulings_of_fits {fragments : List Fragment} (h : used + cost fragments ≤ budget) :
    rulings budget used fragments = fragments.map fun f => (f, true) := by
  induction fragments generalizing used with
  | nil => rfl
  | cons f fragments ih =>
    rw [cost_cons] at h
    rw [rulings, if_pos (by omega), ih (by omega), List.map_cons]

theorem cost_taken_add_refused (rulings : List Ruling) :
    cost (taken rulings) + cost (refused rulings) = cost (rulings.map (·.1)) := by
  induction rulings with
  | nil => rfl
  | cons ruling rulings ih =>
    obtain ⟨f, kept⟩ := ruling
    cases kept with
    | true =>
      rw [taken_cons_true, refused_cons_true, List.map_cons, cost_cons, cost_cons, ← ih,
        Nat.add_assoc]
    | false =>
      rw [taken_cons_false, refused_cons_false, List.map_cons, cost_cons, cost_cons, ← ih,
        Nat.add_left_comm]

/-- The tokens of rejected fragments are those of the candidates. -/
theorem lostTokens_map_reject (fragments : List Fragment) :
    lostTokens (fragments.map Fragment.reject) = cost fragments := by
  unfold lostTokens cost
  rw [List.map_map]
  rfl

theorem lostTokens_map_reject_filter (bound : Nat) (fragments : List Fragment) :
    lostTokens ((fragments.map Fragment.reject).filter (·.rank < bound)) =
      cost (fragments.filter (·.rank < bound)) := by
  rw [List.filter_map, lostTokens_map_reject]
  rfl

theorem cost_filter_rank_le (bound : Nat) (fragments : List Fragment) :
    cost (fragments.filter (·.rank < bound)) ≤ cost fragments := by
  rw [← lostTokens_map_reject_filter, ← lostTokens_map_reject]
  exact lostTokens_filter_le _ _

theorem assemble_tokensUsed : (assemble estimator scenario doc request).tokensUsed =
    cost (taken (assemblyRulings estimator scenario doc request)) :=
  congrArg cost (assemble_fragments estimator scenario doc request)

/-- What is used and what is lost makes up all candidates. -/
theorem tokensUsed_add_lostTokens :
    (assemble estimator scenario doc request).tokensUsed +
        lostTokens (assemble estimator scenario doc request).rejected =
      cost (candidates estimator (ruleContext scenario doc request) doc) := by
  rw [assemble_tokensUsed, assemble_rejected, lostTokens_map_reject, cost_taken_add_refused,
    assemblyRulings, rulings_fst]
  exact ((List.mergeSort_perm _ _).map _).sum_nat

/-- What a package used, and what it rejected below a rank. -/
def roomBelow (p : Package) (bound : Nat) : Nat :=
  p.tokensUsed + lostTokens (p.rejected.filter (·.rank < bound))

/-- All candidates below a rank fit into this room. -/
theorem cost_candidates_below_le (bound : Nat) :
    cost ((sortByRank (candidates estimator (ruleContext scenario doc request) doc)).filter
        (·.rank < bound)) ≤ (assemble estimator scenario doc request).roomBelow bound := by
  let all := assemblyRulings estimator scenario doc request
  have hbelow : (sortByRank (candidates estimator (ruleContext scenario doc request) doc)).filter
      (·.rank < bound) = (all.filter fun ruling => ruling.1.rank < bound).map (·.1) := by
    rw [← rulings_fst scenario.budget 0 (sortByRank _), List.filter_map]
    rfl
  rw [hbelow, ← cost_taken_add_refused, ← filter_taken fun f => f.rank < bound,
    ← filter_refused fun f => f.rank < bound, roomBelow, assemble_tokensUsed, assemble_rejected,
    lostTokens_map_reject_filter]
  exact Nat.add_le_add_right (cost_filter_rank_le bound (taken all)) _

/-- With room for all that was rejected below a rank, nothing below this rank is rejected. -/
theorem le_rank_of_rejected
    (hroom : (assemble estimator scenario doc request).roomBelow bound ≤ budget)
    (hr : r ∈ (assemble estimator { scenario with budget } doc request).rejected) :
    bound ≤ r.rank := by
  rw [assemble_rejected] at hr
  obtain ⟨f, hf, rfl⟩ := List.mem_map.mp hr
  by_contra hlow
  -- below the rank everything fits as a whole, so no verdict there is a refusal
  have hbelow := assemblyRulings_filter_rank estimator { scenario with budget } request doc bound
  rw [candidates_withBudget, rulings_of_fits] at hbelow
  · have hrank : f.rank < bound := Nat.lt_of_not_le hlow
    have hmem : (f, false) ∈ (assemblyRulings estimator { scenario with budget } doc request).filter
        fun ruling => ruling.1.rank < bound :=
      List.mem_filter.mpr ⟨mem_refused.mp hf, decide_eq_true hrank⟩
    rw [hbelow] at hmem
    obtain ⟨g, -, hg⟩ := List.mem_map.mp hmem
    exact Bool.noConfusion (congrArg Prod.snd hg)
  · rw [Nat.zero_add]
    exact Nat.le_trans (cost_candidates_below_le bound) hroom

/-- A package takes what another one rejected, and rejects nothing like it. -/
def Accepts (p : Package) (r : Rejected) : Prop :=
  r ∉ p.rejected ∧ ∃ f ∈ p.fragments, f.reject = r

/-- A rejected fragment was a candidate. -/
theorem exists_candidate_of_rejected (hr : r ∈ (assemble estimator scenario doc request).rejected) :
    ∃ f ∈ candidates estimator (ruleContext scenario doc request) doc, f.reject = r := by
  rw [assemble_rejected] at hr
  obtain ⟨f, hf, rfl⟩ := List.mem_map.mp hr
  exact ⟨f, (mem_assemblyRulings_fst estimator scenario doc request).mp
    (List.mem_map_of_mem (mem_refused.mp hf)), rfl⟩

/-- With room for all that was rejected below a rank, all of it is accepted. -/
theorem accepts_of_room
    (hroom : (assemble estimator scenario doc request).roomBelow bound ≤ budget)
    (hr : r ∈ (assemble estimator scenario doc request).rejected) (hbound : r.rank < bound) :
    (assemble estimator { scenario with budget } doc request).Accepts r := by
  have hnone : r ∉ (assemble estimator { scenario with budget } doc request).rejected := fun h => by
    have := le_rank_of_rejected hroom h
    omega
  refine ⟨hnone, ?_⟩
  obtain ⟨f, hf, rfl⟩ := exists_candidate_of_rejected hr
  refine ⟨f, ?_, rfl⟩
  rw [← candidates_withBudget, ← mem_assemblyRulings_fst] at hf
  obtain ⟨⟨g, kept⟩, hg, rfl⟩ := List.mem_map.mp hf
  rw [assemble_fragments, mem_taken]
  cases kept with
  | true => exact hg
  | false =>
    rw [assemble_rejected] at hnone
    exact absurd (List.mem_map_of_mem (mem_refused.mpr hg)) hnone

end Raising

/-! ## Hints -/

section Hints

variable {estimator : Estimator} {scenario : Scenario} {doc : Document} {request : Request}
  {group : Lost}

/-- The rejected fragments that a hint counts. -/
def counted (p : Package) (group : Lost) : List Rejected :=
  p.rejected.filter (·.rule = group.rule)

theorem mem_counted {p : Package} {r : Rejected} :
    r ∈ p.counted group ↔ r ∈ p.rejected ∧ r.rule = group.rule := by
  rw [counted, List.mem_filter, decide_eq_true_eq]

/-- No other rule lost a fragment of at most the same rank as a counted one. -/
def Foremost (p : Package) (group : Lost) : Prop :=
  ∀ s ∈ p.counted group, ∀ r ∈ p.rejected, r.rank ≤ s.rank → r.rule = group.rule

/-- What is rejected is in the order of the ranks. -/
theorem pairwise_rejected :
    (assemble estimator scenario doc request).rejected.Pairwise fun r s => r.rank ≤ s.rank := by
  have hsorted : ((assemblyRulings estimator scenario doc request).map (·.1)).Pairwise
      fun f g => f.rank ≤ g.rank := by
    rw [assemblyRulings, rulings_fst]
    exact pairwise_mergeSort Fragment.rank _
  rw [assemble_rejected, refused, List.pairwise_map, List.pairwise_map]
  exact (List.pairwise_map.mp hsorted).filter _

/-- The first group is foremost, unless it may hold the overview beside modules without a rule. -/
theorem foremost_of_head
    (hgroup : (assemble estimator scenario doc request).lost.head? = some group)
    (hsome : group.rule ≠ none ∨ scenario.includeOverview = false) :
    (assemble estimator scenario doc request).Foremost group := by
  obtain ⟨first, rest, hrejected, hfirst⟩ := rule_of_head_lost hgroup
  have hmem : first ∈ (assemble estimator scenario doc request).rejected := by
    rw [hrejected]
    exact List.mem_cons_self
  intro s hs r hr hle
  obtain ⟨hs, hrule⟩ := mem_counted.mp hs
  obtain ⟨f, hf, rfl⟩ := exists_candidate_of_rejected hmem
  obtain ⟨g, hg, rfl⟩ := exists_candidate_of_rejected hs
  obtain ⟨k, hk, rfl⟩ := exists_candidate_of_rejected hr
  have hfrule : f.rule = group.rule := hfirst
  rw [← hfrule] at hsome
  have hsame : f.rank = g.rank := rank_eq_of_rule_eq hf hg (hfrule.trans hrule.symm) hsome
  have hfront : f.rank ≤ k.rank := by
    have hsorted := @pairwise_rejected estimator scenario doc request
    rw [hrejected] at hsorted hr
    rcases List.mem_cons.mp hr with heq | hlater
    · exact Nat.le_of_eq (congrArg Rejected.rank heq.symm)
    · exact (List.pairwise_cons.mp hsorted).1 k.reject hlater
  have hkf : k.rule = f.rule := rule_eq_of_rank_eq hk hf (by
    have : k.rank ≤ g.rank := hle
    omega)
  exact hkf.trans hfirst

/-- A foremost group lost everything that was rejected up to its largest rank. -/
theorem exists_bound_of_foremost {p : Package} (h : p.Foremost group)
    (hne : ∃ r ∈ p.rejected, r.rule = group.rule) :
    ∃ bound, (∀ s ∈ p.counted group, s.rank < bound) ∧
      lostTokens (p.rejected.filter (·.rank < bound)) ≤ lostTokens (p.counted group) := by
  obtain ⟨r, hr, hrule⟩ := hne
  have hsome : (p.counted group).toFinset.Nonempty :=
    ⟨r, List.mem_toFinset.mpr (mem_counted.mpr ⟨hr, hrule⟩)⟩
  obtain ⟨last, hlast, hmax⟩ := (p.counted group).toFinset.exists_max_image (·.rank) hsome
  refine ⟨last.rank + 1, fun s hs => ?_, lostTokens_filter_mono fun r hr hbelow => ?_⟩
  · have := hmax s (List.mem_toFinset.mpr hs)
    omega
  · have hle : r.rank ≤ last.rank := Nat.le_of_lt_succ (of_decide_eq_true hbelow)
    exact decide_eq_true (h last (List.mem_toFinset.mp hlast) r hr hle)

/-- **What a hint promises.** Each group counts the fragments that were rejected for its rule, and
its hint names the budget of what is used and what they cost. Any budget makes room for them that
pays for what is used and everything that was rejected up to their ranks. The budget of the hint
does when no other rule lost a fragment of at most the same rank, and so does the first one, unless
it may count the overview. -/
theorem hinted_budget_suffices (estimator : Estimator) (scenario : Scenario) (doc : Document)
    (request : Request)
    (hsum : cost (candidates estimator (ruleContext scenario doc request) doc) < Word.size64) :
    let p := assemble estimator scenario doc request
    let raised (budget : Nat) := assemble estimator { scenario with budget } doc request
    ∀ group ∈ p.lost,
      (group.hint p ∈ p.suggestions ∧ p.counted group ≠ [] ∧
        group.count = (p.counted group).length ∧ group.tokens = lostTokens (p.counted group) ∧
        let label := (group.rule.map Rule.name).getD "unranked"
        group.hint p =
          s!"{group.count} `{label}` fragment(s) ({group.tokens} tokens) did not fit; " ++
            s!"raise budget to {p.tokensUsed + group.tokens} or narrow include_globs") ∧
      (∀ bound budget, (∀ r ∈ p.counted group, r.rank < bound) →
        p.roomBelow bound ≤ budget → ∀ r ∈ p.counted group, (raised budget).Accepts r) ∧
      (p.Foremost group →
        ∀ r ∈ p.counted group, (raised (p.tokensUsed + group.tokens)).Accepts r) ∧
      (p.lost.head? = some group → group.rule ≠ none ∨ scenario.includeOverview = false →
        ∀ r ∈ p.counted group, (raised (p.tokensUsed + group.tokens)).Accepts r) := by
  intro p raised group hgroup
  have hword : p.tokensUsed + lostTokens p.rejected < Word.size64 :=
    tokensUsed_add_lostTokens.trans_lt hsum
  have htallied : Tallied p.rejected p.lost := tallied_lost (by omega)
  have hne : ∃ r ∈ p.rejected, r.rule = group.rule :=
    List.mem_map.mp ((htallied.rules group.rule).mp (List.mem_map_of_mem hgroup))
  have htokens : group.tokens = lostTokens (p.counted group) := htallied.tokens group hgroup
  have hroom (bound budget : Nat) (hbound : ∀ r ∈ p.counted group, r.rank < bound)
      (hbudget : p.roomBelow bound ≤ budget) :
      ∀ r ∈ p.counted group, (raised budget).Accepts r := fun r hr =>
    accepts_of_room hbudget (mem_counted.mp hr).1 (hbound r hr)
  have hforemost (h : p.Foremost group) :
      ∀ r ∈ p.counted group, (raised (p.tokensUsed + group.tokens)).Accepts r := by
    obtain ⟨bound, hbound, hlost⟩ := exists_bound_of_foremost h hne
    refine hroom bound _ hbound ?_
    rw [roomBelow, htokens]
    exact Nat.add_le_add_left hlost _
  refine ⟨⟨?_, ?_, htallied.count group hgroup, htokens, ?_⟩, hroom, hforemost,
    fun hhead hsome => hforemost (foremost_of_head hhead hsome)⟩
  · exact List.mem_append_right _ (List.mem_map_of_mem hgroup)
  · obtain ⟨r, hr, hrule⟩ := hne
    exact List.ne_nil_of_mem (mem_counted.mpr ⟨hr, hrule⟩)
  · have hle : lostTokens (p.counted group) ≤ lostTokens p.rejected := lostTokens_filter_le _ _
    unfold Lost.hint
    rw [Word.add_eq (by omega)]
    cases group.rule with
    | none => rfl
    | some rule => rfl

/-- Budgets for a large critical module and two small ones. -/
def contestedScenario : Scenario where
  name := "contested"
  budget := 12
  rules := [.critical, .remaining]
  included := none
  excluded := []
  critical := []
  includeOverview := false

/-- A critical module of twenty tokens and two more of ten. -/
def contestedDocument : Document where
  schemaVersion := 1
  modules := [
    { path := "a.rs", language := "rust", symbols := ["fn alpha_first", "fn alpha_second"],
      summary := "Alpha module.", lineCount := 3, tags := ["critical"] },
    { path := "b.rs", language := "rust", symbols := ["fn beta"], lineCount := 1 },
    { path := "c.rs", language := "rust", symbols := ["fn c"], lineCount := 1 }]

/-- The first of the small modules fits, the critical one and the other small one do not. -/
theorem contested_package :
    (assemble .standard contestedScenario contestedDocument {}).tokensUsed = 10 ∧
      (assemble .standard contestedScenario contestedDocument {}).rejected =
        [⟨"a.rs", 20, 1, some .critical⟩, ⟨"c.rs", 10, 2, some .remaining⟩] := by
  rw [assemble_tokensUsed, assemble_rejected, assemblyRulings, sortByRank,
    List.mergeSort_of_pairwise (by decide +kernel)]
  decide +kernel

/-- The hint for the critical module comes true, and what the hint for the other one leaves out are
the tokens of the critical one. -/
theorem contested_budgets_suffice :
    let raised (budget : Nat) :=
      assemble .standard { contestedScenario with budget } contestedDocument {}
    cost (candidates .standard (ruleContext contestedScenario contestedDocument {})
        contestedDocument) < Word.size64 ∧
      (raised 30).Accepts ⟨"a.rs", 20, 1, some .critical⟩ ∧
      (raised 40).Accepts ⟨"c.rs", 10, 2, some .remaining⟩ := by
  intro raised
  obtain ⟨hused, hrejected⟩ := contested_package
  have hsum : cost (candidates .standard (ruleContext contestedScenario contestedDocument {})
      contestedDocument) < Word.size64 := by decide +kernel
  have hall := hinted_budget_suffices .standard contestedScenario contestedDocument {} hsum
  have hlost : (assemble .standard contestedScenario contestedDocument {}).lost =
      [⟨some .critical, 1, 20⟩, ⟨some .remaining, 1, 10⟩] := by
    rw [lost, hrejected]
    rfl
  refine ⟨hsum, ?_, ?_⟩
  · have hfirst := (hall ⟨some .critical, 1, 20⟩ (by rw [hlost]; decide)).2.2.2
    rw [hused] at hfirst
    exact hfirst (by rw [hlost]; rfl) (.inr rfl) _ (by rw [mem_counted, hrejected]; decide)
  · apply (hall ⟨some .remaining, 1, 10⟩ (by rw [hlost]; decide)).2.1 3 40
    · rw [counted, hrejected]
      decide
    · rw [roomBelow, hused, hrejected]
      decide
    · rw [mem_counted, hrejected]
      decide

/-- The budget of a hint is spent on the fragment of another rule. -/
theorem hinted_budget_spent_elsewhere :
    let p := assemble .standard contestedScenario contestedDocument {}
    let group : Lost := ⟨some .remaining, 1, 10⟩
    let rejected : Rejected := ⟨"c.rs", 10, 2, some .remaining⟩
    group ∈ p.lost ∧ rejected ∈ p.counted group ∧
      group.hint p = "1 `remaining` fragment(s) (10 tokens) did not fit; " ++
        "raise budget to 20 or narrow include_globs" ∧
      ¬ (assemble .standard { contestedScenario with budget := 20 } contestedDocument {}).Accepts
        rejected := by
  intro p group rejected
  obtain ⟨hused, hrejected⟩ := contested_package
  refine ⟨?_, ?_, ?_, fun haccepts => haccepts.1 ?_⟩
  · show group ∈ lost _
    rw [lost, hrejected]
    decide
  · rw [mem_counted]
    show rejected ∈ (assemble .standard contestedScenario contestedDocument {}).rejected ∧ _
    rw [hrejected]
    decide
  · have htokens : p.tokensUsed = 10 := hused
    unfold Lost.hint
    rw [htokens]
    decide +kernel
  · rw [assemble_rejected, assemblyRulings, sortByRank,
      List.mergeSort_of_pairwise (by decide +kernel)]
    decide +kernel

end Hints

end Switchboard.Package
