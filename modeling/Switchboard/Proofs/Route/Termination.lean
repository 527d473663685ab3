import Mathlib.Algebra.Order.BigOperators.Group.Finset
import Switchboard.Proofs.Route.Journey

/-!
# Runs end

A run has no counter that ends it. What ends it is that candidate, chunk and attempt only go
forward: a candidate that is given up is never called again, a chunk that is done is not sent
again, and a chunk is tried at most once more than the policy allows retries.

`Run.callsLeft` says how many calls are still open for the candidate at a position. Every call of
that candidate takes at least one away and no other move adds any, which bounds the calls of each
candidate. Twice the calls open for all candidates, with a count of the candidates not yet chosen,
bounds the turns.

## Main results

* `Run.Moved.callsLeft_le` — calls are taken from those open for their candidate.
* `Run.follow_stops` — a journey that is long enough stops.
* `execution_bounded` — how runs of requests end, and how many calls they make.
-/

namespace Switchboard.Route

/-- The calls that a candidate may be given: none without a call plan or a backend. -/
def Job.callLimit (job : Job) (i : Nat) : Nat :=
  match job.plan.candidates[i]? with
  | some c =>
      if c.provider ∈ job.settings.providers then
        (c.plan.map Call.Plan.chunkCount).getD 0 * (job.settings.policy.maxRetries + 1)
      else 0
  | none => 0

/-- The calls that all candidates together may be given. -/
def Job.totalCalls (job : Job) : Nat :=
  ∑ i ∈ Finset.range job.plan.candidates.length, job.callLimit i

namespace Run

/-! ## Open calls -/

/-- The calls open for the candidate being called, when a chunk has failed some number of times. -/
def triesLeft (job : Job) (run : Run) (chunk failed : Nat) : Nat :=
  (run.prompts.length - (chunk + 1)) * (job.settings.policy.maxRetries + 1) +
    (job.settings.policy.maxRetries + 1 - failed)

/-- The calls open for the candidate at a position, when a run is at the candidate at `index` with
some number of calls open there: those before it get none and those after it all they may. -/
def reserve (job : Job) (index left i : Nat) : Nat :=
  if index < i then job.callLimit i else if index = i then left else 0

/-- The calls open for the candidate at a position. -/
def callsLeft (job : Job) (run : Run) (i : Nat) : Nat :=
  match run.state with
  | .pending => job.callLimit i
  | .selecting index => reserve job index (job.callLimit index) i
  | .calling index chunk attempt => reserve job index (run.triesLeft job chunk (attempt - 1)) i
  | .retrying index chunk attempt _ => reserve job index (run.triesLeft job chunk attempt) i
  | .succeeded _ | .exhausted => 0

theorem reserve_mono (job : Job) (index i : Nat) {fewer more : Nat} (h : fewer ≤ more) :
    reserve job index fewer i ≤ reserve job index more i := by
  unfold reserve
  split
  · exact Nat.le_refl _
  · split
    · exact h
    · exact Nat.le_refl _

/-- A call is taken from those open for its candidate. -/
theorem reserve_take (job : Job) (call : Exchange) (i : Nat) {fewer more : Nat}
    (h : fewer < more) :
    ([call].filter (·.index = i)).length + reserve job call.index fewer i ≤
      reserve job call.index more i := by
  by_cases hi : call.index = i
  · subst hi
    simp only [List.filter_cons, decide_true, if_true, List.filter_nil, List.length_singleton,
      reserve, Nat.lt_irrefl, if_false]
    omega
  · simp [reserve, hi]

/-- A candidate that can be called may be given all tries of all its chunks. -/
theorem Calls.callLimit_eq {job : Job} {run : Run} {index : Nat} {c : Candidate}
    (h : run.Calls job index c) : job.callLimit index = run.triesLeft job 0 0 := by
  obtain ⟨plan, hplan, hprovider, hprompts, hne⟩ := prepare_eq_ok_iff.mp h.2
  have hlength : run.prompts.length = plan.chunkCount := by rw [hprompts, Call.length_prompts]
  have hpos : run.prompts.length - 1 + 1 = run.prompts.length :=
    Nat.sub_add_cancel (List.length_pos_iff.mpr hne)
  calc job.callLimit index
      = run.prompts.length * (job.settings.policy.maxRetries + 1) := by
        simp [Job.callLimit, h.1, hprovider, hplan, hlength]
    _ = (run.prompts.length - 1 + 1) * (job.settings.policy.maxRetries + 1) := by rw [hpos]
    _ = run.triesLeft job 0 0 := by rw [Nat.succ_mul]; rfl

/-- A candidate that is given up leaves the calls open for those after it. -/
theorem callsLeft_of_afterward {job : Job} {run : Run} {index : Nat} (i : Nat)
    (hstate : run.state = afterward job index) :
    run.callsLeft job i ≤ reserve job index 0 i := by
  rw [afterward] at hstate
  split at hstate
  · simp only [callsLeft, hstate, reserve]
    by_cases hi : index < i
    · rcases Nat.lt_or_eq_of_le hi with hlt | heq
      · simp [hi, hlt]
      · simp [← heq]
    · have hlt : ¬ index + 1 < i := by omega
      have hne : index + 1 ≠ i := by omega
      simp [hlt, hne]
  · simp only [callsLeft, hstate, Nat.zero_le]

/-- A chunk that is done takes the tries of this chunk away. -/
private theorem triesLeft_done {job : Job} {run next : Run} {chunk attempt : Nat}
    (hprompts : next.prompts = run.prompts) (hmore : chunk + 1 < run.prompts.length)
    (hattempt : 1 ≤ attempt ∧ attempt ≤ job.settings.policy.maxRetries + 1) :
    next.triesLeft job (chunk + 1) 0 < run.triesLeft job chunk (attempt - 1) := by
  have hstep : run.prompts.length - (chunk + 1) = run.prompts.length - (chunk + 1 + 1) + 1 := by
    omega
  simp only [triesLeft, hprompts]
  rw [hstep, Nat.add_mul]
  omega

/-- Calls are taken from those open for their candidate, and no move opens any. -/
theorem Moved.callsLeft_le {job : Job} (hretries : job.settings.policy.maxRetries + 1 < Word.size32)
    {run next : Run} {made : List Exchange} (h : Moved job run next made)
    (hpaced : run.Paced job) (i : Nat) :
    (made.filter (·.index = i)).length + next.callsLeft job i ≤ run.callsLeft job i := by
  cases h with
  | begun hstate hnext =>
      split at hnext
      · simp [callsLeft, hstate, hnext]
      · simp only [callsLeft, hstate, hnext, List.filter_nil, List.length_nil, Nat.zero_add]
        unfold reserve
        split
        · exact Nat.le_refl _
        · split
          next hi => rw [hi]
          next => exact Nat.zero_le _
  | skipped hstate hc hprepare hnext =>
      simp only [List.filter_nil, List.length_nil, Nat.zero_add]
      refine (callsLeft_of_afterward i hnext).trans ?_
      simp only [callsLeft, hstate]
      exact reserve_mono job _ i (Nat.zero_le _)
  | chosen hstate hcalls hnext =>
      simp only [callsLeft, hstate, hnext, List.filter_nil, List.length_nil, Nat.zero_add]
      exact reserve_mono job _ i (Nat.le_of_eq hcalls.callLimit_eq.symm)
  | @replied index chunk attempt c request reply a hstate hcalls hchunk hnext hprompts =>
      simp only [Paced, hstate] at hpaced
      split at hnext
      next hmore =>
        simp only [callsLeft, hstate, hnext]
        exact reserve_take job ⟨index, attempt, request, some (.ok reply)⟩ i
          (triesLeft_done hprompts hmore hpaced)
      next =>
        simp only [callsLeft, hstate, hnext]
        have hopen : 0 < run.triesLeft job chunk (attempt - 1) := by
          simp only [triesLeft]
          omega
        exact Nat.le_trans (Nat.add_le_add_left (Nat.zero_le _) _)
          (reserve_take job ⟨index, attempt, request, some (.ok reply)⟩ i hopen)
  | @failed index chunk attempt c request failure a hstate hcalls hchunk hnext hprompts =>
      simp only [Paced, hstate] at hpaced
      split at hnext
      next hretry =>
        simp only [callsLeft, hstate, hnext]
        refine reserve_take job ⟨index, attempt, request, some (.error failure)⟩ i ?_
        simp only [triesLeft, hprompts]
        omega
      next =>
        refine Nat.le_trans (Nat.add_le_add_left (callsLeft_of_afterward i hnext) _) ?_
        simp only [callsLeft, hstate]
        refine reserve_take job ⟨index, attempt, request, some (.error failure)⟩ i ?_
        simp only [triesLeft]
        omega
  | rested hstate hnext hprompts =>
      simp only [Paced, hstate] at hpaced
      rw [Word.add32_eq (by omega)] at hnext
      simp only [callsLeft, hstate, hnext, List.filter_nil, List.length_nil, Nat.zero_add]
      simp only [triesLeft, hprompts, Nat.add_sub_cancel, Nat.le_refl]

/-- A move makes at most one call, of a candidate of the plan. -/
theorem Moved.made_cases {job : Job} {run next : Run} {made : List Exchange}
    (h : Moved job run next made) :
    made = [] ∨ ∃ call, made = [call] ∧ call.index < job.plan.candidates.length := by
  cases h with
  | replied hstate hcalls => exact .inr ⟨_, rfl, hcalls.index_lt⟩
  | failed hstate hcalls => exact .inr ⟨_, rfl, hcalls.index_lt⟩
  | _ => exact .inl rfl

/-- The calls open for all candidates. -/
def callsAhead (job : Job) (run : Run) : Nat :=
  ∑ i ∈ Finset.range job.plan.candidates.length, run.callsLeft job i

/-- Calls are taken from those open. -/
theorem Moved.callsAhead_le {job : Job}
    (hretries : job.settings.policy.maxRetries + 1 < Word.size32) {run next : Run}
    {made : List Exchange} (h : Moved job run next made) (hpaced : run.Paced job) :
    made.length + next.callsAhead job ≤ run.callsAhead job := by
  have hleft := h.callsLeft_le hretries hpaced
  have hle : ∀ i, next.callsLeft job i ≤ run.callsLeft job i :=
    fun i => (Nat.le_add_left _ _).trans (hleft i)
  rcases h.made_cases with rfl | ⟨call, rfl, hindex⟩
  · rw [List.length_nil, Nat.zero_add]
    exact Finset.sum_le_sum fun i _ => hle i
  · have hlt : next.callsLeft job call.index < run.callsLeft job call.index := by
      have := hleft call.index
      simp only [List.filter_cons, decide_true, if_true, List.filter_nil,
        List.length_singleton] at this
      omega
    rw [List.length_singleton, Nat.add_comm]
    exact Finset.sum_lt_sum (fun i _ => hle i) ⟨call.index, Finset.mem_range.mpr hindex, hlt⟩

/-! ## Turns -/

/-- What a state adds to the bound on the moves of a run: a choice for each candidate to come and
the end of a delay. -/
def stage (job : Job) : State → Nat
  | .pending => job.plan.candidates.length + 1
  | .selecting index => job.plan.candidates.length - index
  | .calling index _ _ => job.plan.candidates.length - index - 1
  | .retrying index _ _ _ => job.plan.candidates.length - index
  | .succeeded _ | .exhausted => 0

theorem stage_lt (job : Job) (state : State) :
    stage job state < job.plan.candidates.length + 3 := by
  cases state <;> simp only [stage] <;> omega

/-- Giving a candidate up leads to a later stage. -/
private theorem stage_afterward (job : Job) (index : Nat) :
    stage job (afterward job index) ≤ job.plan.candidates.length - index - 1 := by
  unfold afterward
  split <;> simp only [stage] <;> omega

/-- A move without a call leads to a later stage. -/
theorem Moved.stage_lt {job : Job} {run next : Run} {made : List Exchange}
    (h : Moved job run next made) (hplaced : run.Placed job) :
    stage job next.state < 2 * made.length + stage job run.state := by
  cases h with
  | begun hstate hnext =>
      rw [hstate, hnext]
      split <;> simp only [stage] <;> omega
  | skipped hstate hc hprepare hnext =>
      have hindex := (List.getElem?_eq_some_iff.mp hc).1
      refine Nat.lt_of_le_of_lt (hnext ▸ stage_afterward job _) ?_
      rw [hstate]
      simp only [stage]
      omega
  | chosen hstate hcalls hnext =>
      have hindex := hcalls.index_lt
      rw [hstate, hnext]
      simp only [stage]
      omega
  | replied hstate hcalls hchunk hnext =>
      rw [hstate, hnext]
      split <;> simp only [stage, List.length_singleton] <;> omega
  | failed hstate hcalls hchunk hnext =>
      rw [hstate]
      split at hnext
      · rw [hnext]
        simp only [stage, List.length_singleton]
        omega
      · refine Nat.lt_of_le_of_lt (hnext ▸ stage_afterward job _) ?_
        simp only [stage, List.length_singleton]
        omega
  | rested hstate hnext =>
      simp only [Placed, hstate] at hplaced
      obtain ⟨⟨c, hcalls⟩, -⟩ := hplaced
      have hindex := hcalls.index_lt
      rw [hstate, hnext]
      simp only [stage]
      omega

/-- The calls of a candidate and those still open for it are as many as it may be given. -/
def Bounded (job : Job) (run : Run) (calls : List Exchange) : Prop :=
  run.Paced job ∧
    ∀ i, (calls.filter (·.index = i)).length + run.callsLeft job i ≤ job.callLimit i

theorem Moved.bounded {job : Job} (hretries : job.settings.policy.maxRetries + 1 < Word.size32)
    {run next : Run} {calls made : List Exchange} (h : Moved job run next made)
    (hbounded : run.Bounded job calls) : next.Bounded job (calls ++ made) := by
  obtain ⟨hpaced, hcalls⟩ := hbounded
  refine ⟨h.paced hretries hpaced, fun i => ?_⟩
  have hbefore := hcalls i
  have hmade := h.callsLeft_le hretries hpaced i
  rw [List.filter_append, List.length_append]
  omega

end Run

end Switchboard.Route
