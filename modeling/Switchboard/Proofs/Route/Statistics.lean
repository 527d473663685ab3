import Mathlib.Data.List.Sort
import Mathlib.Data.String.Basic
import Switchboard.Proofs.Route.Cost
import Switchboard.Proofs.Text.ByteOrder
import Switchboard.Route.Statistics

/-!
# Statistics by model

A log is summarised in one pass. The models met so far are kept in the order of their names, and an
attempt is counted by the entry of its model, or by a new one at the place where it belongs. So the
entry of a model is what becomes of counting the attempts on this model alone, one after the other,
and the list of entries is settled by these and by the names that occur.

Counting two attempts comes to the same in either order, so neither the entries nor their list
depend on the order of the log.

## Main results

* `entry_countAttempt`, `ascending_countAttempt` — what counting an attempt does to the list.
* `entry_statistics`, `mem_models_statistics` — the entries of a log.
* `statistics_perm` — the order of the log makes no difference.
* `statistics_by_model` — the counts, sums and totals of a log.
-/

namespace Switchboard.Route

variable {stats : ModelStats} {list rest : List ModelStats} {model : String}
  {attempts reordered : List Attempt}

/-- The attempts on a model. -/
def ofModel (model : String) (attempts : List Attempt) : List Attempt :=
  attempts.filter (·.model = model)

/-- The number of attempts that ended in a way. -/
def ended (outcome : Outcome) (attempts : List Attempt) : Nat :=
  attempts.countP (·.outcome = outcome)

theorem ofModel_append (model : String) (first second : List Attempt) :
    ofModel model (first ++ second) = ofModel model first ++ ofModel model second :=
  List.filter_append ..

theorem ofModel_singleton (model : String) (a : Attempt) :
    ofModel model [a] = if a.model = model then [a] else [] := by
  by_cases h : a.model = model <;> simp [ofModel, h]

/-- The attempts on one model cost no more than all. -/
theorem spent_ofModel_le (model : String) (attempts : List Attempt) :
    spent (ofModel model attempts) ≤ spent attempts :=
  Word.total_le_of_sublist (List.filter_sublist.map _)

/-! ## Counting in one entry -/

namespace ModelStats

/-- The number of attempts of an entry that ended in a way. -/
def count (stats : ModelStats) : Outcome → Nat
  | .success => stats.successes
  | .transient => stats.transientFailures
  | .capability => stats.capabilityFailures
  | .skipped => stats.skipped
  | .cancelled => stats.cancelled

/-- Every attempt of an entry is counted in one of five ways. -/
def Balanced (stats : ModelStats) : Prop :=
  stats.attempts = stats.successes + stats.transientFailures + stats.capabilityFailures +
    stats.skipped + stats.cancelled

@[simp] theorem add_model (stats : ModelStats) (a : Attempt) :
    (stats.add a).model = stats.model := by
  unfold add
  cases a.outcome <;> rfl

@[simp] theorem add_attempts (stats : ModelStats) (a : Attempt) :
    (stats.add a).attempts = stats.attempts + 1 := by
  unfold add
  cases a.outcome <;> rfl

@[simp] theorem add_tokens (stats : ModelStats) (a : Attempt) :
    (stats.add a).tokens = Word.add stats.tokens a.tokenCost := by
  unfold add
  cases a.outcome <;> rfl

theorem count_add (stats : ModelStats) (a : Attempt) (outcome : Outcome) :
    (stats.add a).count outcome = stats.count outcome + if a.outcome = outcome then 1 else 0 := by
  unfold add
  cases a.outcome <;> cases outcome <;> rfl

theorem Balanced.add (h : stats.Balanced) (a : Attempt) : (stats.add a).Balanced := by
  unfold Balanced at h ⊢
  unfold ModelStats.add
  cases a.outcome <;> simp only <;> omega

/-- Two attempts are counted alike in either order. -/
theorem add_right_comm (stats : ModelStats) (a b : Attempt) :
    (stats.add a).add b = (stats.add b).add a := by
  have htokens := Word.add_right_comm stats.tokens a.tokenCost b.tokenCost
  have hlatency := Word.add_right_comm stats.latencyMs a.latencyMs b.latencyMs
  unfold add
  cases a.outcome <;> cases b.outcome <;>
    simp only [Outcome.wasCalled, if_true, if_false, Bool.false_eq_true, htokens, hlatency]

/-- The statistics of attempts on one model, which are counted one after the other. -/
def ofAttempts (model : String) (attempts : List Attempt) : ModelStats :=
  attempts.foldl add { model := model }

theorem ofAttempts_append_singleton (model : String) (attempts : List Attempt) (a : Attempt) :
    ofAttempts model (attempts ++ [a]) = (ofAttempts model attempts).add a := by
  simp only [ofAttempts, List.foldl_append, List.foldl_cons, List.foldl_nil]

theorem ofAttempts_perm (model : String) (h : reordered.Perm attempts) :
    ofAttempts model reordered = ofAttempts model attempts :=
  h.foldl_eq' (fun a _ b _ stats => stats.add_right_comm a b) _

theorem attempts_ofAttempts (model : String) (attempts : List Attempt) :
    (ofAttempts model attempts).attempts = attempts.length := by
  induction attempts using List.reverseRecOn with
  | nil => rfl
  | append_singleton attempts a ih =>
      rw [ofAttempts_append_singleton, add_attempts, ih, List.length_append, List.length_singleton]

theorem balanced_ofAttempts (model : String) (attempts : List Attempt) :
    (ofAttempts model attempts).Balanced := by
  induction attempts using List.reverseRecOn with
  | nil => rfl
  | append_singleton attempts a ih =>
      rw [ofAttempts_append_singleton]
      exact ih.add a

theorem count_ofAttempts (model : String) (attempts : List Attempt) (outcome : Outcome) :
    (ofAttempts model attempts).count outcome = ended outcome attempts := by
  induction attempts using List.reverseRecOn with
  | nil => cases outcome <;> rfl
  | append_singleton attempts a ih =>
      rw [ofAttempts_append_singleton, count_add, ih]
      simp only [ended, List.countP_append, List.countP_singleton, decide_eq_true_eq]

theorem tokens_ofAttempts (model : String) (attempts : List Attempt) :
    (ofAttempts model attempts).tokens = Word.sum (attempts.map (·.tokenCost)) := by
  induction attempts using List.reverseRecOn with
  | nil => rfl
  | append_singleton attempts a ih =>
      rw [ofAttempts_append_singleton, add_tokens, ih, List.map_append, List.map_singleton,
        Word.sum_append_singleton]

end ModelStats

/-! ## The list of entries -/

/-- The names in a list of entries. -/
def models (list : List ModelStats) : List String := list.map (·.model)

/-- What a list says of a model: its entry, or that nothing was counted. -/
def entry (model : String) (list : List ModelStats) : ModelStats :=
  (list.find? (·.model = model)).getD { model := model }

/-- The entries stand in the order of their names, and no two have one name. -/
def Ascending (list : List ModelStats) : Prop := (models list).Pairwise (· < ·)

theorem entry_cons (model : String) (stats : ModelStats) (rest : List ModelStats) :
    entry model (stats :: rest) = if stats.model = model then stats else entry model rest := by
  by_cases h : stats.model = model <;> simp [entry, h]

theorem ascending_cons :
    Ascending (stats :: rest) ↔ (∀ other ∈ rest, stats.model < other.model) ∧ Ascending rest := by
  simp only [Ascending, models, List.map_cons, List.pairwise_cons, List.forall_mem_map]

/-- A model that comes before all entries has none. -/
theorem entry_of_lt (h : ∀ stats ∈ list, model < stats.model) :
    entry model list = { model := model } := by
  have hnone : list.find? (·.model = model) = none := by
    rw [List.find?_eq_none]
    intro stats hstats heq
    exact (h stats hstats).ne (of_decide_eq_true heq).symm
  rw [entry, hnone, Option.getD_none]

theorem entry_of_mem (hasc : Ascending list) (h : stats ∈ list) :
    entry stats.model list = stats := by
  induction list with
  | nil => exact absurd h List.not_mem_nil
  | cons front rest ih =>
      obtain ⟨hfront, hrest⟩ := ascending_cons.mp hasc
      rw [entry_cons]
      rcases List.mem_cons.mp h with rfl | hmem
      · exact if_pos rfl
      · rw [if_neg (hfront stats hmem).ne]
        exact ih hrest hmem

/-- A list is settled by its names and the entries of these. -/
theorem map_entry_models (hasc : Ascending list) : (models list).map (entry · list) = list := by
  rw [models, List.map_map]
  calc list.map ((entry · list) ∘ (·.model))
      = list.map id := List.map_congr_left fun stats hstats => entry_of_mem hasc hstats
    _ = list := List.map_id list

/-! ## Counting an attempt -/

section CountAttempt

variable (a : Attempt)

theorem countAttempt_same (h : a.model = stats.model) :
    countAttempt a (stats :: rest) = stats.add a :: rest := by
  rw [countAttempt, if_pos h]

theorem countAttempt_before (h : a.model < stats.model) :
    countAttempt a (stats :: rest) =
      ModelStats.add { model := a.model } a :: stats :: rest := by
  rw [countAttempt, if_neg h.ne, if_pos h]

theorem countAttempt_after (h : stats.model < a.model) :
    countAttempt a (stats :: rest) = stats :: countAttempt a rest := by
  rw [countAttempt, if_neg h.ne', if_neg h.not_gt]

theorem mem_models_countAttempt (list : List ModelStats) :
    model ∈ models (countAttempt a list) ↔ model = a.model ∨ model ∈ models list := by
  induction list with
  | nil => simp only [countAttempt, models, List.map_cons, List.mem_cons, ModelStats.add_model]
  | cons stats rest ih =>
      simp only [models] at ih ⊢
      rcases lt_trichotomy a.model stats.model with hbefore | hsame | hafter
      · rw [countAttempt_before a hbefore]
        simp only [List.map_cons, List.mem_cons, ModelStats.add_model]
      · rw [countAttempt_same a hsame]
        simp only [List.map_cons, List.mem_cons, ModelStats.add_model, hsame, or_self_left]
      · rw [countAttempt_after a hafter]
        simp only [List.map_cons, List.mem_cons, ih]
        exact or_left_comm

/-- A new entry stands where its name belongs. -/
theorem ascending_countAttempt (hasc : Ascending list) : Ascending (countAttempt a list) := by
  induction list with
  | nil => exact List.pairwise_singleton _ _
  | cons stats rest ih =>
      obtain ⟨hfront, hrest⟩ := ascending_cons.mp hasc
      rcases lt_trichotomy a.model stats.model with hbefore | hsame | hafter
      · rw [countAttempt_before a hbefore, ascending_cons, ModelStats.add_model]
        exact ⟨List.forall_mem_cons.mpr ⟨hbefore, fun other h => hbefore.trans (hfront other h)⟩,
          hasc⟩
      · rw [countAttempt_same a hsame, ascending_cons, ModelStats.add_model]
        exact ⟨hfront, hrest⟩
      · rw [countAttempt_after a hafter, ascending_cons]
        refine ⟨fun other hother => ?_, ih hrest⟩
        have hname : other.model ∈ models (countAttempt a rest) := List.mem_map_of_mem hother
        rcases (mem_models_countAttempt a rest).mp hname with hnew | hold
        · exact hnew ▸ hafter
        · obtain ⟨old, hmem, hold⟩ := List.mem_map.mp hold
          exact hold ▸ hfront old hmem

/-- The first attempt on a model is counted by a new entry. -/
theorem entry_new (h : ∀ stats ∈ list, a.model < stats.model) (model : String) :
    entry model (ModelStats.add { model := a.model } a :: list) =
      if a.model = model then (entry model list).add a else entry model list := by
  rw [entry_cons, ModelStats.add_model]
  by_cases hmodel : a.model = model
  · subst hmodel
    rw [if_pos rfl, if_pos rfl, entry_of_lt h]
  · rw [if_neg hmodel, if_neg hmodel]

/-- The attempt is counted by the entry of its model, and the other entries stay as they were. -/
theorem entry_countAttempt (hasc : Ascending list) (model : String) :
    entry model (countAttempt a list) =
      if a.model = model then (entry model list).add a else entry model list := by
  induction list with
  | nil => exact entry_new a (fun _ h => absurd h List.not_mem_nil) model
  | cons stats rest ih =>
      obtain ⟨hfront, hrest⟩ := ascending_cons.mp hasc
      rcases lt_trichotomy a.model stats.model with hbefore | hsame | hafter
      · -- In an ascending list no later entry has the name of the new one.
        rw [countAttempt_before a hbefore]
        exact entry_new a (List.forall_mem_cons.mpr
          ⟨hbefore, fun other h => hbefore.trans (hfront other h)⟩) model
      · rw [countAttempt_same a hsame, entry_cons, entry_cons, ModelStats.add_model, hsame]
        by_cases hmodel : stats.model = model <;> simp only [hmodel, if_true, if_false]
      · rw [countAttempt_after a hafter, entry_cons, entry_cons]
        by_cases hmodel : stats.model = model
        · rw [if_pos hmodel, if_pos hmodel, if_neg (hmodel ▸ hafter.ne')]
        · rw [if_neg hmodel, if_neg hmodel]
          exact ih hrest

/-- One attempt more is counted, in whatever order the entries stand. -/
theorem total_countAttempt (list : List ModelStats) :
    Word.total ((countAttempt a list).map (·.attempts)) =
      Word.total (list.map (·.attempts)) + 1 := by
  induction list with
  | nil => simp only [countAttempt, List.map_cons, List.map_nil, Word.total_cons, Word.total_nil,
      ModelStats.add_attempts]
  | cons stats rest ih =>
      rcases lt_trichotomy a.model stats.model with hbefore | hsame | hafter
      · rw [countAttempt_before a hbefore]
        simp only [List.map_cons, Word.total_cons, ModelStats.add_attempts]
        omega
      · rw [countAttempt_same a hsame]
        simp only [List.map_cons, Word.total_cons, ModelStats.add_attempts]
        omega
      · rw [countAttempt_after a hafter]
        simp only [List.map_cons, Word.total_cons, ih]
        omega

end CountAttempt

/-! ## Logs -/

theorem statistics_append_singleton (attempts : List Attempt) (a : Attempt) :
    statistics (attempts ++ [a]) = countAttempt a (statistics attempts) := by
  simp only [statistics, List.foldl_append, List.foldl_cons, List.foldl_nil]

theorem ascending_statistics (attempts : List Attempt) : Ascending (statistics attempts) := by
  induction attempts using List.reverseRecOn with
  | nil => exact List.Pairwise.nil
  | append_singleton attempts a ih =>
      rw [statistics_append_singleton]
      exact ascending_countAttempt a ih

/-- There is an entry for each model with an attempt. -/
theorem mem_models_statistics (attempts : List Attempt) :
    model ∈ models (statistics attempts) ↔ model ∈ attempts.map (·.model) := by
  induction attempts using List.reverseRecOn with
  | nil => exact Iff.rfl
  | append_singleton attempts a ih =>
      rw [statistics_append_singleton, mem_models_countAttempt, ih, List.map_append,
        List.mem_append, List.map_singleton, List.mem_singleton, or_comm]

/-- The entry of a model is what becomes of counting its attempts alone. -/
theorem entry_statistics (model : String) (attempts : List Attempt) :
    entry model (statistics attempts) = ModelStats.ofAttempts model (ofModel model attempts) := by
  induction attempts using List.reverseRecOn with
  | nil => rfl
  | append_singleton attempts a ih =>
      rw [statistics_append_singleton, entry_countAttempt a (ascending_statistics attempts), ih,
        ofModel_append, ofModel_singleton]
      split
      · rw [ModelStats.ofAttempts_append_singleton]
      · rw [List.append_nil]

theorem total_statistics (attempts : List Attempt) :
    Word.total ((statistics attempts).map (·.attempts)) = attempts.length := by
  induction attempts using List.reverseRecOn with
  | nil => rfl
  | append_singleton attempts a ih =>
      rw [statistics_append_singleton, total_countAttempt, ih, List.length_append,
        List.length_singleton]

/-- The order of a log makes no difference. -/
theorem statistics_perm (h : reordered.Perm attempts) :
    statistics reordered = statistics attempts := by
  -- The lists have the same names, and for each name the same entry.
  have hmodels : models (statistics reordered) = models (statistics attempts) := by
    refine (ascending_statistics reordered).eq_of_mem_iff (ascending_statistics attempts) ?_
    intro model
    rw [mem_models_statistics, mem_models_statistics, (h.map _).mem_iff]
  have hentry (model : String) :
      entry model (statistics reordered) = entry model (statistics attempts) := by
    rw [entry_statistics, entry_statistics]
    exact ModelStats.ofAttempts_perm model (h.filter _)
  calc statistics reordered
      = (models (statistics reordered)).map (entry · (statistics reordered)) :=
        (map_entry_models (ascending_statistics reordered)).symm
    _ = (models (statistics attempts)).map (entry · (statistics attempts)) := by
        rw [hmodels]
        simp only [hentry]
    _ = statistics attempts := map_entry_models (ascending_statistics attempts)

/-- The tokens of an entry are the exact sum of those of its attempts, if this is a word. -/
theorem tokens_entry (h : spent (ofModel model attempts) < Word.size64) :
    (entry model (statistics attempts)).tokens = spent (ofModel model attempts) := by
  rw [entry_statistics, ModelStats.tokens_ofAttempts]
  exact Word.sum_eq h

/-- An entry counts what two others count together. -/
structure ModelStats.IsSum (both former latter : ModelStats) : Prop where
  attempts : both.attempts = former.attempts + latter.attempts
  count : ∀ outcome, both.count outcome = former.count outcome + latter.count outcome
  tokens : both.tokens = former.tokens + latter.tokens

/-- The entries of two logs add up to those of both together. -/
theorem entry_append (first second : List Attempt)
    (h : spent (ofModel model (first ++ second)) < Word.size64) :
    (entry model (statistics (first ++ second))).IsSum (entry model (statistics first))
      (entry model (statistics second)) where
  attempts := by
    simp only [entry_statistics, ModelStats.attempts_ofAttempts, ofModel_append,
      List.length_append]
  count outcome := by
    simp only [entry_statistics, ModelStats.count_ofAttempts, ofModel_append, ended,
      List.countP_append]
  tokens := by
    have hsum : spent (ofModel model (first ++ second)) =
        spent (ofModel model first) + spent (ofModel model second) := by
      rw [ofModel_append, spent_append]
    rw [tokens_entry h, tokens_entry (by omega), tokens_entry (by omega), hsum]

/-- A log has one entry for each model that occurs in it, in the order of the bytes of their names.
An entry counts every attempt on its model, by the way it ended, and adds up their tokens as long as
the sum is a word; together the entries count all attempts. The order of the log makes no
difference, and the entries of two logs add up to those of both together. -/
theorem statistics_by_model
    (hfit : ∀ model, spent (ofModel model attempts) < Word.size64) :
    (models (statistics attempts)).Pairwise
      (fun a b => Text.Utf8.encode a < Text.Utf8.encode b) ∧
    (∀ model, model ∈ models (statistics attempts) ↔ ∃ a ∈ attempts, a.model = model) ∧
    (∀ stats ∈ statistics attempts,
      stats.attempts = stats.successes + stats.transientFailures + stats.capabilityFailures +
        stats.skipped + stats.cancelled ∧
      (∀ outcome, stats.count outcome = ended outcome (ofModel stats.model attempts)) ∧
      stats.tokens = spent (ofModel stats.model attempts)) ∧
    Word.total ((statistics attempts).map (·.attempts)) = attempts.length ∧
    (∀ reordered, reordered.Perm attempts → statistics reordered = statistics attempts) ∧
    ∀ first second, attempts = first ++ second → ∀ model,
      (entry model (statistics attempts)).IsSum (entry model (statistics first))
        (entry model (statistics second)) := by
  refine ⟨?_, fun model => ?_, fun stats hstats => ?_, total_statistics attempts,
    fun reordered => statistics_perm, ?_⟩
  · exact (ascending_statistics attempts).imp Text.Utf8.encode_lt_encode.mpr
  · rw [mem_models_statistics, List.mem_map]
  · have hentry : entry stats.model (statistics attempts) = stats :=
      entry_of_mem (ascending_statistics attempts) hstats
    have htokens := tokens_entry (hfit stats.model)
    have hcounted := entry_statistics stats.model attempts
    rw [hentry] at htokens hcounted
    refine ⟨?_, fun outcome => ?_, htokens⟩
    · exact hcounted ▸ ModelStats.balanced_ofAttempts stats.model _
    · exact (congrArg (·.count outcome) hcounted).trans (ModelStats.count_ofAttempts ..)
  · rintro first second rfl model
    exact entry_append first second (hfit model)

/-- A log in which two models take turns. -/
def sampleLog : List Attempt := [
  { model := "patient", outcome := .skipped },
  { model := "brief", outcome := .transient, latencyMs := 100 },
  { model := "patient", outcome := .capability, latencyMs := 50 },
  { model := "brief", outcome := .success, tokenCost := 500, latencyMs := 300 }]

/-- Both models have two attempts, and reading the log backwards changes nothing. -/
theorem sampleLog_by_model :
    (∀ model, spent (ofModel model sampleLog) < Word.size64) ∧
      models (statistics sampleLog) = ["brief", "patient"] ∧
      (entry "brief" (statistics sampleLog)).tokens = 500 ∧
      statistics sampleLog.reverse = statistics sampleLog := by
  have hfit : ∀ model, spent (ofModel model sampleLog) < Word.size64 := fun model =>
    Nat.lt_of_le_of_lt (spent_ofModel_le model sampleLog) (by decide)
  obtain ⟨-, -, -, -, hreordered, -⟩ := statistics_by_model hfit
  exact ⟨hfit, by decide, by decide, hreordered _ (List.reverse_perm _)⟩

end Switchboard.Route
