import Mathlib.Data.List.Nodup
import Switchboard.Package.Basic

/-!
# Rejected fragments by rule

The rejected fragments of a package are counted by their rules, one after the other: a fragment is
added to the group of its rule, or a group is made for it behind the others. The groups so count
every rejected fragment once, and the first group is that of the first one.

## Main results

* `Lost.add_rules`, `Lost.mem_add` — what adding a fragment does.
* `tallied_lost` — what the groups of a package count.
* `rule_of_head_lost` — the first group.
-/

namespace Switchboard.Package

open Switchboard.Scenario (Rule)

variable {groups : List Lost} {group : Lost} {rejected : List Rejected} {r : Rejected}

/-! ## Tokens -/

/-- The tokens of rejected fragments. -/
def lostTokens (rejected : List Rejected) : Nat := Word.total (rejected.map (·.tokens))

theorem lostTokens_append (first second : List Rejected) :
    lostTokens (first ++ second) = lostTokens first + lostTokens second := by
  simp only [lostTokens, List.map_append, Word.total_append]

theorem lostTokens_cons (r : Rejected) (rejected : List Rejected) :
    lostTokens (r :: rejected) = r.tokens + lostTokens rejected := rfl

theorem lostTokens_singleton (r : Rejected) : lostTokens [r] = r.tokens :=
  Nat.add_zero _

/-- Whatever else is counted too only adds to the tokens. -/
theorem lostTokens_filter_mono {p q : Rejected → Bool}
    (h : ∀ r ∈ rejected, p r = true → q r = true) :
    lostTokens (rejected.filter p) ≤ lostTokens (rejected.filter q) := by
  induction rejected with
  | nil => exact Nat.le_refl 0
  | cons r rejected ih =>
    obtain ⟨hr, hrest⟩ := List.forall_mem_cons.mp h
    rw [List.filter_cons, List.filter_cons]
    have := ih hrest
    by_cases hp : p r = true
    · rw [if_pos hp, if_pos (hr hp), lostTokens_cons, lostTokens_cons]
      omega
    · rw [if_neg hp]
      split
      · rw [lostTokens_cons]
        omega
      · exact this

theorem lostTokens_filter_le (p : Rejected → Bool) (rejected : List Rejected) :
    lostTokens (rejected.filter p) ≤ lostTokens rejected :=
  Word.total_le_of_sublist (List.filter_sublist.map _)

/-! ## Adding a fragment -/

/-- The rules of the groups after a fragment more was lost. -/
theorem Lost.add_rules (groups : List Lost) (r : Rejected) :
    (Lost.add groups r).map (·.rule) =
      if r.rule ∈ groups.map (·.rule) then groups.map (·.rule)
      else groups.map (·.rule) ++ [r.rule] := by
  induction groups with
  | nil => rfl
  | cons first groups ih =>
    rw [Lost.add]
    by_cases hfirst : first.rule = r.rule
    · simp [hfirst]
    · rw [if_neg hfirst, List.map_cons, ih, List.map_cons]
      by_cases hmem : r.rule ∈ groups.map (·.rule)
      · rw [if_pos hmem, if_pos (List.mem_cons_of_mem _ hmem)]
      · have hnone : r.rule ∉ first.rule :: groups.map (·.rule) := fun h =>
          (List.mem_cons.mp h).elim (fun heq => hfirst heq.symm) hmem
        rw [if_neg hmem, if_neg hnone, List.cons_append]

/-- A group stays as it was, counts the fragment too, or is made for it. -/
theorem Lost.mem_add (hdistinct : (groups.map (·.rule)).Nodup) (h : group ∈ Lost.add groups r) :
    (group ∈ groups ∧ group.rule ≠ r.rule) ∨
      (∃ old ∈ groups, old.rule = r.rule ∧
        group = ⟨r.rule, old.count + 1, Word.add old.tokens r.tokens⟩) ∨
      (r.rule ∉ groups.map (·.rule) ∧ group = ⟨r.rule, 1, r.tokens⟩) := by
  induction groups with
  | nil => exact .inr (.inr ⟨List.not_mem_nil, List.mem_singleton.mp h⟩)
  | cons first groups ih =>
    obtain ⟨hfresh, hrest⟩ := List.nodup_cons.mp hdistinct
    rw [Lost.add] at h
    by_cases hfirst : first.rule = r.rule
    · rw [if_pos hfirst] at h
      rcases List.mem_cons.mp h with rfl | hmem
      · exact .inr (.inl ⟨first, List.mem_cons_self, hfirst, by rw [← hfirst]⟩)
      · refine .inl ⟨List.mem_cons_of_mem _ hmem, fun heq => hfresh ?_⟩
        exact List.mem_map.mpr ⟨group, hmem, heq.trans hfirst.symm⟩
    · rw [if_neg hfirst] at h
      rcases List.mem_cons.mp h with rfl | hmem
      · exact .inl ⟨List.mem_cons_self, hfirst⟩
      · rcases ih hrest hmem with ⟨hold, hne⟩ | ⟨old, hold, hnew⟩ | ⟨hnone, hnew⟩
        · exact .inl ⟨List.mem_cons_of_mem _ hold, hne⟩
        · exact .inr (.inl ⟨old, List.mem_cons_of_mem _ hold, hnew⟩)
        · refine .inr (.inr ⟨fun h => ?_, hnew⟩)
          exact (List.mem_cons.mp h).elim (fun heq => hfirst heq.symm) hnone

/-! ## Counting all of them -/

/-- The groups have one rule each, the rules of all rejected fragments, and count the fragments of
their rule. -/
structure Tallied (rejected : List Rejected) (groups : List Lost) : Prop where
  distinct : (groups.map (·.rule)).Nodup
  rules : ∀ rule, rule ∈ groups.map (·.rule) ↔ rule ∈ rejected.map (·.rule)
  count : ∀ group ∈ groups, group.count = (rejected.filter (·.rule = group.rule)).length
  tokens : ∀ group ∈ groups, group.tokens = lostTokens (rejected.filter (·.rule = group.rule))

theorem filter_rule_append (rejected : List Rejected) (r : Rejected) (rule : Option Rule) :
    (rejected ++ [r]).filter (·.rule = rule) =
      rejected.filter (·.rule = rule) ++ if r.rule = rule then [r] else [] := by
  rw [List.filter_append]
  by_cases hrule : r.rule = rule
  · simp [hrule]
  · simp [hrule]

/-- A rule without a group lost nothing yet. -/
theorem Tallied.filter_eq_nil (h : Tallied rejected groups)
    (hfresh : r.rule ∉ groups.map (·.rule)) : rejected.filter (·.rule = r.rule) = [] := by
  rw [List.filter_eq_nil_iff]
  intro s hs heq
  rw [h.rules] at hfresh
  exact hfresh (List.mem_map.mpr ⟨s, hs, of_decide_eq_true heq⟩)

/-- Adding a fragment keeps the groups tallied, as long as their tokens are words. -/
theorem Tallied.add (h : Tallied rejected groups)
    (hsum : lostTokens (rejected ++ [r]) < Word.size64) :
    Tallied (rejected ++ [r]) (Lost.add groups r) where
  distinct := by
    rw [Lost.add_rules]
    split
    · exact h.distinct
    · rename_i hfresh
      rw [List.nodup_append]
      refine ⟨h.distinct, List.nodup_singleton _, fun rule hrule other hother heq => hfresh ?_⟩
      rwa [← List.mem_singleton.mp hother, ← heq]
  rules rule := by
    rw [Lost.add_rules, List.map_append, List.mem_append, ← h.rules, List.map_singleton,
      List.mem_singleton]
    split
    · rename_i hmem
      exact ⟨.inl, fun h => h.elim id fun heq => heq ▸ hmem⟩
    · rw [List.mem_append, List.mem_singleton]
  count group hgroup := by
    rw [filter_rule_append, List.length_append]
    rcases Lost.mem_add h.distinct hgroup with ⟨hold, hne⟩ | ⟨old, hold, hrule, rfl⟩ | ⟨hfresh, rfl⟩
    · rw [if_neg hne.symm, h.count group hold]
      rfl
    · rw [if_pos rfl, ← hrule, h.count old hold]
      rfl
    · rw [if_pos rfl, h.filter_eq_nil hfresh]
      rfl
  tokens group hgroup := by
    rw [filter_rule_append, lostTokens_append]
    rcases Lost.mem_add h.distinct hgroup with ⟨hold, hne⟩ | ⟨old, hold, hrule, rfl⟩ | ⟨hfresh, rfl⟩
    · rw [if_neg hne.symm, h.tokens group hold]
      rfl
    · have hle := lostTokens_filter_le (·.rule = r.rule) rejected
      rw [lostTokens_append, lostTokens_singleton] at hsum
      rw [if_pos rfl, lostTokens_singleton, h.tokens old hold, hrule, Word.add_eq (by omega)]
    · rw [if_pos rfl, h.filter_eq_nil hfresh, lostTokens_singleton]
      exact (Nat.zero_add _).symm

/-- Going through further fragments keeps the groups tallied. -/
theorem Tallied.foldl (h : Tallied rejected groups) {more : List Rejected}
    (hsum : lostTokens (rejected ++ more) < Word.size64) :
    Tallied (rejected ++ more) (more.foldl Lost.add groups) := by
  induction more generalizing rejected groups with
  | nil => rwa [List.append_nil]
  | cons r more ih =>
    have hassoc : rejected ++ r :: more = (rejected ++ [r]) ++ more := by
      rw [List.append_assoc, List.singleton_append]
    rw [hassoc] at hsum ⊢
    have hfirst : lostTokens (rejected ++ [r]) < Word.size64 := by
      rw [lostTokens_append] at hsum
      omega
    exact ih (h.add hfirst) hsum

theorem tallied_nil : Tallied [] [] :=
  ⟨List.nodup_nil, fun _ => Iff.rfl, nofun, nofun⟩

/-- The groups of a package count every rejected fragment once. -/
theorem tallied_lost {p : Package} (hsum : lostTokens p.rejected < Word.size64) :
    Tallied p.rejected p.lost :=
  tallied_nil.foldl hsum

/-- The groups that there are already stay in front. -/
theorem rules_prefix_foldl (groups : List Lost) (more : List Rejected) :
    groups.map (·.rule) <+: (more.foldl Lost.add groups).map (·.rule) := by
  induction more generalizing groups with
  | nil => exact List.prefix_rfl
  | cons r more ih =>
    have hadd : groups.map (·.rule) <+: (Lost.add groups r).map (·.rule) := by
      rw [Lost.add_rules]
      split
      · exact List.prefix_rfl
      · exact List.prefix_append _ _
    exact hadd.trans (ih (Lost.add groups r))

/-- The first group is that of the first rejected fragment. -/
theorem rule_of_head_lost {p : Package} (hgroup : p.lost.head? = some group) :
    ∃ first rest, p.rejected = first :: rest ∧ first.rule = group.rule := by
  unfold lost at hgroup
  cases hrejected : p.rejected with
  | nil =>
    rw [hrejected] at hgroup
    cases hgroup
  | cons first rest =>
    have hfront := rules_prefix_foldl [⟨first.rule, 1, first.tokens⟩] rest
    have hlost : p.rejected.foldl Lost.add [] =
        rest.foldl Lost.add [⟨first.rule, 1, first.tokens⟩] := by rw [hrejected]; rfl
    obtain ⟨groups, hgroups⟩ : ∃ groups, p.rejected.foldl Lost.add [] = group :: groups :=
      List.head?_eq_some_iff.mp hgroup
    rw [← hlost, hgroups, List.map_cons, List.map_cons] at hfront
    exact ⟨first, rest, rfl, (List.cons_prefix_cons.mp hfront).1⟩

end Switchboard.Package
