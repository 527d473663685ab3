import Switchboard.Backend.Chat
import Switchboard.Proofs.Route.Reached
import Switchboard.Proofs.Route.Result

/-!
# What a run is charged

Every reply adds to the cost of its run what the backend says that it took, and a service may say
any word. As long as the records of a run cost a word together, the cost of the run is their exact
sum. A reply that takes them past a word takes the worker down where sums are checked, and nothing
comes of the run; where they are not, the cost wraps around.

How large the sum can become is settled by the largest record and the number of records that cost
anything. There is at most one of these for each chunk of each candidate: a chunk that is answered
is not sent again, and a failure costs nothing. `Run.chunksLeft` counts the chunks that may still
be charged, and every move takes a charge from them.

## Main results

* `Run.Moved.charged_le` — a charge is taken from the chunks that are left.
* `Run.Charged.turnIn_aborts` — which turn takes down a worker whose sums are checked.
* `cost_exact_or_aborted` — when the cost of a run is exact, and what happens otherwise.
* `reported_usage_aborts` — two replies whose costs cannot be added.
-/

namespace Switchboard.Backend.Chat

open Switchboard.Data

/-- A completion with its content and the tokens it took. -/
def completion (content : String) (tokens : Nat) : Node := .obj [
  ("choices", .arr [.obj [("message", .obj [("content", .str content)])]]),
  ("usage", .obj [("total_tokens", .nat tokens)])]

/-- Any number of tokens is taken from a completion as it stands. -/
theorem readBody_completion (content : String) (tokens : Nat) :
    readBody (completion content tokens) = .ok ⟨content, some tokens⟩ := rfl

end Switchboard.Backend.Chat

namespace Switchboard.Route

/-! ## Charges -/

/-- The exact cost of some records. -/
def spent (attempts : List Attempt) : Nat :=
  Word.total (attempts.map (·.tokenCost))

theorem spent_append (first second : List Attempt) :
    spent (first ++ second) = spent first + spent second := by
  simp only [spent, List.map_append, Word.total_append]

theorem spent_append_singleton (attempts : List Attempt) (a : Attempt) :
    spent (attempts ++ [a]) = spent attempts + a.tokenCost :=
  spent_append attempts [a]

/-- Records that follow take nothing back. -/
theorem spent_le_of_prefix {earlier later : List Attempt} (h : earlier <+: later) :
    spent earlier ≤ spent later :=
  Word.total_le_of_sublist (h.sublist.map _)

/-- The number of records that cost something. -/
def charged (attempts : List Attempt) : Nat :=
  attempts.countP (0 < ·.tokenCost)

/-- Records cost no more than each of those that cost something costs at most. -/
theorem spent_le {attempts : List Attempt} {most : Nat}
    (h : ∀ a ∈ attempts, a.tokenCost ≤ most) : spent attempts ≤ charged attempts * most := by
  induction attempts with
  | nil => exact Nat.zero_le _
  | cons a attempts ih =>
      obtain ⟨ha, hattempts⟩ := List.forall_mem_cons.mp h
      have hrest := ih hattempts
      simp only [spent, charged] at hrest
      simp only [spent, charged, List.map_cons, Word.total_cons, List.countP_cons,
        decide_eq_true_eq]
      split
      · rw [Nat.succ_mul]
        omega
      · rw [Nat.add_zero]
        omega

theorem charged_append_singleton (attempts : List Attempt) (a : Attempt) :
    charged (attempts ++ [a]) = charged attempts + if 0 < a.tokenCost then 1 else 0 := by
  simp [charged, List.countP_append, List.countP_singleton]

theorem charged_append_le (attempts : List Attempt) (a : Attempt) :
    charged (attempts ++ [a]) ≤ charged attempts + 1 := by
  rw [charged_append_singleton]
  split <;> omega

/-- A record of a call that brought no reply is no charge. -/
theorem charged_append_free (attempts : List Attempt) {a r : Attempt} (ha : a.timeless = r)
    (hr : r.tokenCost = 0) : charged (attempts ++ [a]) = charged attempts := by
  have hfree : a.timeless.tokenCost = 0 := ha ▸ hr
  have hfree : a.tokenCost = 0 := hfree
  rw [charged_append_singleton, hfree, if_neg (Nat.lt_irrefl 0), Nat.add_zero]

/-! ## Chunks -/

/-- The chunks of a candidate: none if it cannot be called. -/
def Job.chunksOf (job : Job) (c : Candidate) : Nat :=
  match Run.prepare job c with
  | .ok prompts => prompts.length
  | .error _ => 0

/-- The chunks of the candidates from a position on. -/
def Job.chunksFrom (job : Job) (index : Nat) : Nat :=
  Word.total ((job.plan.candidates.drop index).map job.chunksOf)

theorem Job.chunksFrom_eq {job : Job} {index : Nat} {c : Candidate}
    (hc : job.plan.candidates[index]? = some c) :
    job.chunksFrom index = job.chunksOf c + job.chunksFrom (index + 1) := by
  obtain ⟨hindex, rfl⟩ := List.getElem?_eq_some_iff.mp hc
  rw [chunksFrom, List.drop_eq_getElem_cons hindex, List.map_cons, Word.total_cons, chunksFrom]

namespace Run

variable {job : Job} {run next : Run} {made : List Exchange}

theorem Calls.chunksFrom_eq {index : Nat} {c : Candidate} (h : run.Calls job index c) :
    job.chunksFrom index = run.prompts.length + job.chunksFrom (index + 1) := by
  rw [Job.chunksFrom_eq h.1, Job.chunksOf, h.2]

/-- The chunks that a run may still be charged for. -/
def chunksLeft (job : Job) (run : Run) : Nat :=
  match run.state with
  | .pending => job.chunksFrom 0
  | .selecting index => job.chunksFrom index
  | .calling index chunk _ | .retrying index chunk _ _ =>
      run.prompts.length - chunk + job.chunksFrom (index + 1)
  | .succeeded _ | .exhausted => 0

/-- A candidate that is given up leaves the chunks of those after it. -/
private theorem chunksLeft_of_afterward {index : Nat} (hstate : run.state = afterward job index) :
    run.chunksLeft job ≤ job.chunksFrom (index + 1) := by
  rw [afterward] at hstate
  split at hstate
  · simp only [chunksLeft, hstate, Nat.le_refl]
  · simp only [chunksLeft, hstate, Nat.zero_le]

/-- A charge is taken from the chunks that are left. -/
theorem Moved.charged_le (h : Moved job run next made) (hplaced : run.Placed job) :
    charged next.attempts + next.chunksLeft job ≤ charged run.attempts + run.chunksLeft job := by
  cases h with
  | begun hstate hnext hattempts =>
      rw [hattempts]
      split at hnext <;> simp only [chunksLeft, hstate, hnext] <;> omega
  | skipped hstate hc hprepare hnext ha hattempts =>
      have hleft := chunksLeft_of_afterward hnext
      have hfrom := Job.chunksFrom_eq hc
      rw [hattempts, charged_append_free _ ha rfl]
      simp only [chunksLeft, hstate] at hleft ⊢
      omega
  | chosen hstate hcalls hnext houtputs hattempts =>
      have hfrom := hcalls.chunksFrom_eq
      rw [hattempts]
      simp only [chunksLeft, hstate, hnext]
      omega
  | @replied index chunk attempt c request reply a hstate hcalls hchunk hnext hprompts houtputs ha
      hattempts =>
      simp only [Placed, hstate] at hplaced
      have hcharged := charged_append_le run.attempts a
      rw [hattempts]
      split at hnext <;> simp only [chunksLeft, hstate, hnext, hprompts] <;> omega
  | failed hstate hcalls hchunk hnext hprompts houtputs ha hattempts =>
      rw [hattempts, charged_append_free _ ha rfl]
      split at hnext
      · simp only [chunksLeft, hstate, hnext, hprompts, Nat.le_refl]
      · have hleft := chunksLeft_of_afterward hnext
        simp only [chunksLeft, hstate] at hleft ⊢
        omega
  | rested hstate hnext hprompts houtputs hattempts =>
      rw [hattempts]
      simp only [chunksLeft, hstate, hnext, hprompts, Nat.le_refl]

/-! ## Whole runs -/

/-- A run on its way: its cost is that of its records, and it has no more charges than chunks. -/
structure Charged (job : Job) (run : Run) : Prop where
  placed : run.Placed job
  ledger : ∃ calls, run.Ledger job calls
  bounded : charged run.attempts + run.chunksLeft job ≤ job.chunksFrom 0

theorem Charged.moved (hcharged : run.Charged job) (h : Moved job run next made) :
    next.Charged job where
  placed := h.placed hcharged.placed
  ledger := by
    obtain ⟨calls, hledger⟩ := hcharged.ledger
    exact ⟨_, h.ledger hcharged.placed hledger⟩
  bounded := Nat.le_trans (h.charged_le hcharged.placed) hcharged.bounded

/-- The records a run starts with cost nothing. -/
theorem start_free (job : Job) (now : Timestamp) :
    ∀ a ∈ (Run.start job now).attempts, a.tokenCost = 0 := by
  intro a ha
  obtain ⟨-, hattempts, -⟩ := start_eq job now
  have hskip : a.timeless ∈ (Run.start job now).attempts.map Attempt.timeless :=
    List.mem_map_of_mem ha
  rw [hattempts] at hskip
  obtain ⟨name, -, hname⟩ := List.mem_map.mp hskip
  exact congrArg Attempt.tokenCost hname.symm

theorem start_charged (job : Job) (now : Timestamp) : (Run.start job now).Charged job where
  placed := start_placed job now
  ledger := ⟨[], start_ledger job now⟩
  bounded := by
    have hfree : charged (Run.start job now).attempts = 0 :=
      List.countP_eq_zero.mpr fun a ha => by simp [start_free job now a ha]
    simp only [hfree, chunksLeft, (start_eq job now).1, Nat.zero_add, Nat.le_refl]

theorem Charged.tokenCost_eq (h : run.Charged job) :
    run.tokenCost = spent run.attempts % Word.size64 := by
  obtain ⟨calls, hledger⟩ := h.ledger
  rw [hledger.cost, Word.sum_eq_mod, spent]

theorem Charged.spent_le (h : run.Charged job) {most : Nat}
    (hmost : ∀ a ∈ run.attempts, a.tokenCost ≤ most) :
    spent run.attempts ≤ job.chunksFrom 0 * most := by
  have hbounded := h.bounded
  exact Nat.le_trans (Route.spent_le hmost) (Nat.mul_le_mul_right most (by omega))

end Run

/-! ## Turns -/

/-- What a call adds to the cost of its run. -/
def Exchange.charge (job : Job) (call : Exchange) : Nat :=
  match call.answer with
  | some (.ok reply) => Run.cost job call.request.prompt reply
  | _ => 0

namespace Run

section Turned

variable {job : Job} {run : Run} {m : Moment} {step : Step} {made : List Exchange}

/-- The records of a turn cost what its calls add. -/
theorem Turned.spent_eq (h : Turned job m run step made) :
    spent step.run.attempts = spent run.attempts + Word.total (made.map (Exchange.charge job)) := by
  cases h with
  | selected hstate hc =>
      simp only [Step.run, select]
      split
      · exact spent_append_singleton _ _
      · rfl
  | answered hstate hc hrequest =>
      obtain ⟨hprompt, -⟩ := request_eq_ok hrequest
      cases hanswer : m.answer with
      | ok reply =>
          simp only [Step.run, receive, fire, note, spent_append_singleton, hprompt,
            Option.getD_some]
          rfl
      | error failure => exact spent_append_singleton _ _
  | cancelledCalling => exact spent_append_singleton _ _
  | interruptedCalling => exact spent_append_singleton _ _
  | cancelledRetrying => exact spent_append_singleton _ _
  | begun | rested | cancelledSelecting | succeeded | exhausted | refused | astray => rfl

/-- A turn that stops a run costs nothing. -/
theorem Turned.cost_of_stop {final : Run} {ending : Ending}
    (h : Turned job m run (.stop final ending) made) :
    final.tokenCost = run.tokenCost ∧ spent final.attempts = spent run.attempts := by
  have hspent := h.spent_eq
  cases h <;> exact ⟨rfl, hspent⟩

/-- A turn does not wait. -/
theorem Turned.next_or_stop (h : Turned job m run step made) :
    (∃ next, step = .next next) ∨ ∃ final ending, step = .stop final ending := by
  cases h <;> simp

end Turned

section Checked

variable {job : Job} {run : Run} {index chunk attempt : Nat}

/-- What an answer adds to the cost of a run is what its call does. -/
theorem charge_eq {c : Candidate} {request : Backend.Request}
    (hrequest : run.request job c chunk = .ok request) (index attempt : Nat)
    (answer : Backend.Answer) :
    run.charge job chunk answer = Exchange.charge job ⟨index, attempt, request, some answer⟩ := by
  obtain ⟨hprompt, -⟩ := request_eq_ok hrequest
  cases answer with
  | ok reply => simp only [charge, Exchange.charge, hprompt, Option.getD_some]
  | error failure => rfl

/-- Where sums are checked, an answer is taken in if its cost can be added. -/
theorem resumeIn_answered (hstate : run.state = .calling index chunk attempt) (now : Timestamp)
    (answer : Backend.Answer) :
    run.resumeIn .aborts job now (.answered answer) =
      if run.tokenCost + run.charge job chunk answer < Word.size64 then
        .ok (run.resume job now (.answered answer))
      else .error overflowMessage := by
  simp only [resumeIn, overflows, hstate, decide_eq_true_eq]
  split
  next hle => rw [if_neg (Nat.not_lt.mpr hle)]
  next hlt => rw [if_pos (Nat.not_le.mp hlt)]

/-- Where sums are checked, a turn is the same if what its calls add to the cost can be added, and
takes the worker down otherwise. -/
theorem turnIn_aborts (hword : run.tokenCost < Word.size64) (m : Moment) :
    run.turnIn .aborts job m =
      if run.tokenCost + Word.total ((run.exchange job m).map (Exchange.charge job)) < Word.size64
        then .ok (run.turn job m)
      else .error overflowMessage := by
  have hfree : ∀ {made : List Exchange}, Word.total (made.map (Exchange.charge job)) = 0 →
      run.tokenCost + Word.total (made.map (Exchange.charge job)) < Word.size64 := by
    intro made hmade
    rw [hmade]
    exact hword
  cases hstep : run.step job m.now m.cancelled with
  | next next =>
      simp only [turnIn, turn, exchange, hstep]
      rw [if_pos (hfree rfl)]
  | stop final ending =>
      simp only [turnIn, turn, exchange, hstep]
      rw [if_pos (hfree rfl)]
  | wait waiting need =>
      obtain ⟨hwaits, -⟩ := step_eq_wait hstep
      cases hwaits with
      | pause hstate =>
          simp only [turnIn, turn, exchange, hstep, Moment.signal]
          rw [if_pos (hfree rfl)]
          split
          · exact resumeIn_cancelled job run m.later
          · exact resumeIn_elapsed job run m.later
      | @call index chunk attempt c request hstate hc hrequest =>
          let waiting : Run := { run with called := m.now }
          have hmade : run.exchange job m =
              [⟨index, attempt, request, if m.interrupted then none else some m.answer⟩] := by
            simp only [exchange, hstep, hstate]
          simp only [turnIn, turn, hstep, hmade, Moment.signal]
          cases m.interrupted with
          | true =>
              rw [if_pos (hfree rfl)]
              exact resumeIn_cancelled job waiting m.later
          | false =>
              have hcharge : waiting.charge job chunk m.answer =
                  Exchange.charge job ⟨index, attempt, request, some m.answer⟩ :=
                charge_eq hrequest index attempt m.answer
              have hanswered : waiting.resumeIn .aborts job m.later (.answered m.answer) = _ :=
                @resumeIn_answered job waiting index chunk attempt hstate m.later m.answer
              rw [hcharge] at hanswered
              exact hanswered

/-- Of a run whose records cost a word, a turn takes the worker down exactly if its records would
cost none any more. -/
theorem Charged.turnIn_aborts (h : run.Charged job) (hfits : spent run.attempts < Word.size64)
    (m : Moment) :
    run.turnIn .aborts job m =
      if spent (run.turn job m).run.attempts < Word.size64 then .ok (run.turn job m)
      else .error overflowMessage := by
  have hcost : run.tokenCost = spent run.attempts := by
    rw [h.tokenCost_eq, Nat.mod_eq_of_lt hfits]
  rw [(turned job run m).spent_eq, ← hcost]
  exact Run.turnIn_aborts (hcost ▸ hfits) m

end Checked

/-- No record is taken back on a journey. -/
theorem follow_grows (job : Job) (run : Run) (moments : List Moment) :
    run.attempts <+: (run.follow job moments).run.attempts := by
  induction moments generalizing run with
  | nil => exact List.prefix_rfl
  | cons m moments ih =>
      have hgrown := (turned job run m).attempts_grow
      rw [follow]
      generalize run.turn job m = step at hgrown
      cases step with
      | next next => exact hgrown.trans (ih next)
      | wait waiting need => exact hgrown
      | stop final ending => exact hgrown

variable {job : Job} (hjob : job.Sound) {run : Run}
include hjob

/-- Where sums are checked, a journey is the same as long as its records cost a word, and breaks off
otherwise. -/
theorem Charged.followIn_aborts (h : run.Charged job)
    (hfits : spent run.attempts < Word.size64) (moments : List Moment) :
    run.followIn .aborts job moments =
      if spent (run.follow job moments).run.attempts < Word.size64 then
        .ok (run.follow job moments)
      else .error overflowMessage := by
  induction moments generalizing run with
  | nil => exact (if_pos hfits).symm
  | cons m moments ih =>
      have hturned := turned job run m
      rw [followIn, follow, h.turnIn_aborts hfits]
      generalize run.turn job m = step at hturned
      cases hturned.next_or_stop with
      | inl hnext =>
          obtain ⟨next, rfl⟩ := hnext
          by_cases hlater : spent next.attempts < Word.size64
          · rw [Step.run, if_pos hlater]
            exact ih (h.moved (h.placed.moved hjob hturned)) hlater
          · -- The records of this turn are among those of the journey.
            have hmore := spent_le_of_prefix (follow_grows job next moments)
            have hover : ¬ spent (next.follow job moments).run.attempts < Word.size64 := by omega
            rw [Step.run, if_neg hlater]
            exact (if_neg hover).symm
      | inr hstop =>
          obtain ⟨final, ending, rfl⟩ := hstop
          by_cases hlater : spent final.attempts < Word.size64
          · rw [Step.run, if_pos hlater]
          · rw [Step.run, if_neg hlater]

/-- The cost of a run that has come somewhere is that of its records, wrapped around to a word; and
no record costs more than the largest, of which there are no more than chunks. -/
theorem Charged.follow (h : run.Charged job) (moments : List Moment) :
    (run.follow job moments).run.tokenCost =
        spent (run.follow job moments).run.attempts % Word.size64 ∧
      ∀ most, (∀ a ∈ (run.follow job moments).run.attempts, a.tokenCost ≤ most) →
        spent (run.follow job moments).run.attempts ≤ job.chunksFrom 0 * most := by
  induction moments generalizing run with
  | nil => exact ⟨h.tokenCost_eq, fun most => h.spent_le⟩
  | cons m moments ih =>
      have hturned := turned job run m
      have hgrown := hturned.attempts_grow
      rw [Run.follow]
      generalize run.turn job m = step at hturned hgrown
      cases hturned.next_or_stop with
      | inl hnext =>
          obtain ⟨next, rfl⟩ := hnext
          exact ih (h.moved (h.placed.moved hjob hturned))
      | inr hstop =>
          obtain ⟨final, ending, rfl⟩ := hstop
          obtain ⟨hcost, hspent⟩ := hturned.cost_of_stop
          dsimp only [Step.run]
          rw [hcost, hspent]
          exact ⟨h.tokenCost_eq, fun most hmost =>
            h.spent_le fun a ha => hmost a (hgrown.subset ha)⟩

end Run

/-- Whatever the backends answer and report. Where sums are checked, a run goes its way as long as
its records cost a word, and its cost is exact; as soon as they would not, its worker goes down and
nothing comes of it. Where sums are not checked, it goes on and its cost is wrapped around. The
records cost at most as often the largest record as all candidates that can be called have
chunks. -/
theorem cost_exact_or_aborted (request : Request) (settings : Settings)
    (haddr : request.Addressable) (now : Timestamp) (moments : List Moment) :
    let job := request.job settings
    let first := Run.start job now
    let step := first.follow job moments
    (first.followIn .aborts job moments =
      if spent step.run.attempts < Word.size64 then .ok step else .error Run.overflowMessage) ∧
    (∀ reached, first.followIn .aborts job moments = .ok reached →
      reached = step ∧ reached.run.tokenCost = spent reached.run.attempts) ∧
    first.followIn .wraps job moments = .ok step ∧
    step.run.tokenCost = spent step.run.attempts % Word.size64 ∧
    (∀ final result, step = .stop final (.ok result) →
      result.tokenCost = final.tokenCost ∧ result.attempts = final.attempts) ∧
    ∀ most, (∀ a ∈ step.run.attempts, a.tokenCost ≤ most) →
      spent step.run.attempts ≤ job.chunksFrom 0 * most := by
  intro job first step
  have hjob : job.Sound := request.job_sound settings haddr
  have hcharged := Run.start_charged job now
  have hnothing : spent first.attempts ≤ job.chunksFrom 0 * 0 :=
    hcharged.spent_le fun a ha => Nat.le_of_eq (Run.start_free job now a ha)
  rw [Nat.mul_zero] at hnothing
  have hfits : spent first.attempts < Word.size64 := Nat.lt_of_le_of_lt hnothing (by decide)
  have haborts := hcharged.followIn_aborts hjob hfits moments
  obtain ⟨hcost, hmost⟩ := hcharged.follow hjob moments
  refine ⟨haborts, fun reached hreached => ?_, Run.followIn_wraps job first moments, hcost,
    fun final result hstop => ?_, hmost⟩
  · have hsame : step = reached := Run.follow_of_followIn hreached
    subst hsame
    rw [haborts] at hreached
    split at hreached
    next hfits => exact ⟨rfl, hcost.trans (Nat.mod_eq_of_lt hfits)⟩
    next => cases hreached
  · obtain ⟨last, made, m, -, extra, -, hstopped, -⟩ :=
      Run.start_follow_stop (P := fun _ _ => True) hjob trivial (fun _ _ _ => trivial) hstop
    cases hstopped with
    | succeeded => exact ⟨rfl, rfl⟩

/-- Moments for `sampleRequest` in which its two chunks are answered, with what a service says
that they took. -/
def reportedMoments (first second : Nat) : List Moment :=
  [.ok ⟨"", none⟩, .ok ⟨"", none⟩,
    Backend.Chat.readBody (Backend.Chat.completion "one" first),
    Backend.Chat.readBody (Backend.Chat.completion "two" second),
    .ok ⟨"", none⟩].map Moment.calm

/-- Two replies whose costs can be added. -/
theorem sampleRequest_cost_exact :
    ∃ final result, (Run.start (sampleRequest.job sampleSettings) ⟨0, 0⟩).followIn .aborts
        (sampleRequest.job sampleSettings) (reportedMoments 30 12) =
          .ok (.stop final (.ok result)) ∧
      spent final.attempts = 42 ∧ result.tokenCost = 42 := by
  have hrun : ∃ final result, (Run.start (sampleRequest.job sampleSettings) ⟨0, 0⟩).followIn .aborts
      (sampleRequest.job sampleSettings) (reportedMoments 30 12) = .ok (.stop final (.ok result)) ∧
      spent final.attempts = 42 := by
    rw [sampleRequest_job]
    exact ⟨_, _, rfl, rfl⟩
  obtain ⟨final, result, h, hspent⟩ := hrun
  obtain ⟨-, hexact, -, -, hresult, -⟩ := cost_exact_or_aborted sampleRequest sampleSettings
    sampleRequest_addressable ⟨0, 0⟩ (reportedMoments 30 12)
  obtain ⟨hstep, hcost⟩ := hexact _ h
  exact ⟨final, result, h, hspent, (hresult final result hstep.symm).1.trans (hcost.trans hspent)⟩

/-- A service that reports the largest word for the first chunk, and one token for the second. Where
sums are checked, the worker goes down with the second reply; where they are not, the result has
cost nothing. -/
theorem reported_usage_aborts :
    (Run.start (sampleRequest.job sampleSettings) ⟨0, 0⟩).followIn .aborts
        (sampleRequest.job sampleSettings) (reportedMoments Word.max64 1) =
      .error "attempt to add with overflow" ∧
    ∃ final result, (Run.start (sampleRequest.job sampleSettings) ⟨0, 0⟩).followIn .wraps
        (sampleRequest.job sampleSettings) (reportedMoments Word.max64 1) =
          .ok (.stop final (.ok result)) ∧
      (∀ a ∈ result.attempts, a.tokenCost ≤ Word.max64) ∧
      spent result.attempts = Word.size64 ∧ result.tokenCost = 0 := by
  rw [sampleRequest_job]
  exact ⟨rfl, _, _, rfl, by decide, rfl, rfl⟩

end Switchboard.Route
