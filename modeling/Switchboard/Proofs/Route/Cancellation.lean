import Switchboard.Proofs.Route.Result
import Switchboard.Queue.Basic

/-!
# What a cancelled run tells

A run that is cancelled tells how many chunks it had completed, and calls itself partial when there
was one. It counts the outputs it holds at that moment, and these are the replies of the candidate
being called: a candidate that is given up loses its outputs, and while the next one is chosen
nothing is counted at all. The records of the run forget nothing. So a partial run has always
completed a chunk, and a run that has completed one is called partial exactly when the candidate
being called has.

## Main results

* `Run.Moved.successes` — a success is recorded for every reply, whichever candidate brought it.
* `cancelled_partly_iff` — when a cancelled run calls itself partial.
* `fallback_cancelled_not_partly` — a run that drops a completed chunk and does not say so.
-/

namespace Switchboard.Route

/-- The candidate that is being called in a state, between two tries as well. -/
def State.served? : State → Option Nat
  | .calling index _ _ | .retrying index _ _ _ => some index
  | _ => none

/-- The call brought a reply of the candidate that is being called in a state. -/
def Exchange.servedIn (state : State) (call : Exchange) : Bool :=
  call.reply?.isSome && decide (state.served? = some call.index)

/-- The record of a call is that of a success exactly when the call brought a reply. -/
theorem Exchange.record_outcome_iff (job : Job) (c : Candidate) (call : Exchange) :
    (call.record job c).outcome = .success ↔ call.reply?.isSome = true := by
  obtain ⟨index, attempt, request, answer⟩ := call
  rcases answer with _ | ⟨⟨kind, message⟩⟩ | reply
  · simp [Exchange.record, Exchange.reply?]
  · cases kind <;> simp [Exchange.record, Exchange.reply?, Outcome.ofFailure]
  · simp [Exchange.record, Exchange.reply?]

/-- The times that a record notes do not matter to its outcome. -/
private theorem outcome_of_timeless {a r : Attempt} (h : a.timeless = r) :
    a.outcome = r.outcome :=
  h ▸ rfl

namespace Run

/-! ## Successes on record -/

/-- There are as many records of a success as calls that brought a reply. -/
def Successes (run : Run) (calls : List Exchange) : Prop :=
  run.attempts.countP (·.outcome = .success) = calls.countP (·.reply?.isSome)

/-- A record that is no success changes nothing. -/
private theorem Successes.append_other {run next : Run} {calls : List Exchange} {a : Attempt}
    (h : run.Successes calls) (hattempts : next.attempts = run.attempts ++ [a])
    (ha : a.outcome ≠ .success) : next.Successes calls := by
  unfold Successes at h ⊢
  rw [hattempts, List.countP_append, h]
  simp [ha]

/-- A call that brought nothing changes nothing. -/
private theorem Successes.append_silent {run : Run} {calls : List Exchange} {call : Exchange}
    (h : run.Successes calls) (hcall : call.reply? = none) : run.Successes (calls ++ [call]) := by
  unfold Successes at h ⊢
  rw [h, List.countP_append]
  simp [hcall]

/-- A call that was answered leaves its record. -/
private theorem Successes.append_call {job : Job} {run next : Run} {calls : List Exchange}
    {c : Candidate} {call : Exchange} {a : Attempt} (h : run.Successes calls)
    (hattempts : next.attempts = run.attempts ++ [a]) (ha : a.timeless = call.record job c) :
    next.Successes (calls ++ [call]) := by
  have houtcome := outcome_of_timeless ha
  have hiff := Exchange.record_outcome_iff job c call
  unfold Successes at h ⊢
  rw [hattempts, List.countP_append, List.countP_append, h]
  congr 1
  by_cases hreply : call.reply?.isSome = true
  · have hsuccess : a.outcome = .success := houtcome.trans (hiff.mpr hreply)
    simp [hsuccess, hreply]
  · have hother : a.outcome ≠ .success := fun heq => hreply (hiff.mp (houtcome ▸ heq))
    simp [hother, hreply]

/-- Every move keeps the count of successes. -/
theorem Moved.successes {job : Job} {run next : Run} {calls made : List Exchange}
    (h : Moved job run next made) (hsuccesses : run.Successes calls) :
    next.Successes (calls ++ made) := by
  cases h with
  | begun hstate hnext hattempts =>
      rw [List.append_nil, Successes, hattempts]
      exact hsuccesses
  | skipped hstate hc hprepare hnext ha hattempts =>
      rw [List.append_nil]
      refine hsuccesses.append_other hattempts ?_
      rw [outcome_of_timeless ha]
      exact Outcome.noConfusion
  | chosen hstate hcalls hnext houtputs hattempts =>
      rw [List.append_nil, Successes, hattempts]
      exact hsuccesses
  | replied hstate hcalls hchunk hnext hprompts houtputs ha hattempts =>
      exact hsuccesses.append_call hattempts ha
  | failed hstate hcalls hchunk hnext hprompts houtputs ha hattempts =>
      exact hsuccesses.append_call hattempts ha
  | rested hstate hnext hprompts houtputs hattempts =>
      rw [List.append_nil, Successes, hattempts]
      exact hsuccesses

/-- A run starts without a success. -/
theorem start_successes (job : Job) (now : Timestamp) : (Run.start job now).Successes [] := by
  obtain ⟨-, hattempts, -⟩ := start_eq job now
  have hskipped : ∀ a ∈ (Run.start job now).attempts, a.outcome ≠ .success := by
    intro a ha
    have hmem : a.timeless ∈ (Run.start job now).attempts.map Attempt.timeless :=
      List.mem_map_of_mem ha
    rw [hattempts] at hmem
    obtain ⟨name, -, hname⟩ := List.mem_map.mp hmem
    rw [outcome_of_timeless hname.symm]
    exact Outcome.noConfusion
  simpa [Successes, List.countP_eq_zero] using hskipped

/-! ## Completed chunks -/

/-- The outputs that a run holds are the replies of the candidate being called. -/
theorem Serving.length_outputs {job : Job} {run : Run} {calls : List Exchange}
    {index chunks : Nat} (h : run.Serving job calls index chunks) {state : State}
    (hstate : state.served? = some index) :
    run.outputs.length = calls.countP (Exchange.servedIn state) := by
  have hcount : ∀ some : List Exchange,
      ((some.filter (·.index = index)).filterMap Exchange.reply?).length =
        some.countP (Exchange.servedIn state) := by
    intro some
    induction some with
    | nil => rfl
    | cons call rest ih =>
        by_cases hindex : call.index = index
        · cases hreply : call.reply? <;>
            simp [Exchange.servedIn, hindex, hreply, hstate, ih]
        · have hother : ¬ index = call.index := fun heq => hindex heq.symm
          simp [Exchange.servedIn, hindex, hother, hstate, ih]
  rw [h.replies, List.length_map, hcount]

/-- A candidate that is being called has its replies in the ledger. -/
private theorem Ledger.length_outputs {job : Job} {run : Run} {calls : List Exchange}
    {index : Nat} (h : run.Ledger job calls)
    (hstate : (∃ chunk attempt, run.state = .calling index chunk attempt) ∨
      ∃ chunk attempt delayMs, run.state = .retrying index chunk attempt delayMs) :
    run.outputs.length = calls.countP (Exchange.servedIn run.state) := by
  have hserving := h.serving
  rcases hstate with ⟨chunk, attempt, hstate⟩ | ⟨chunk, attempt, delayMs, hstate⟩
  · simp only [hstate] at hserving
    exact hserving.length_outputs (by rw [hstate]; rfl)
  · simp only [hstate] at hserving
    exact hserving.length_outputs (by rw [hstate]; rfl)

/-- The chunks that a cancelled run tells of are those of the candidate being called. -/
private theorem Stopped.completed {job : Job} {m : Moment} {last final : Run} {id : String}
    {partly : Bool} {chunks : Nat} {made extra : List Exchange}
    (h : Stopped job m last final (.error (.cancelled id partly chunks)) extra)
    (hledger : last.Ledger job made) (hsuccesses : last.Successes made) :
    partly = decide (0 < chunks) ∧
      chunks = (made ++ extra).countP (Exchange.servedIn final.state) ∧
      final.Successes (made ++ extra) := by
  cases h with
  | quit hstate =>
      rw [List.append_nil]
      have hnone : Exchange.servedIn last.state = fun _ => false := by
        funext call
        simp [Exchange.servedIn, hstate, State.served?]
      exact ⟨rfl, by rw [hnone]; simp, hsuccesses⟩
  | @halted index chunk attempt c now hstate =>
      have hserved : (∃ chunk attempt, last.state = .calling index chunk attempt) ∨
          ∃ chunk attempt delayMs, last.state = .retrying index chunk attempt delayMs :=
        hstate.imp (fun h => ⟨chunk, attempt, h⟩) fun ⟨delayMs, h⟩ => ⟨chunk, attempt, delayMs, h⟩
      rw [List.append_nil]
      exact ⟨rfl, hledger.length_outputs hserved,
        hsuccesses.append_other rfl Outcome.noConfusion⟩
  | interrupted called now hstate =>
      -- The call that was cut short brought nothing.
      refine ⟨rfl, ?_, (hsuccesses.append_other rfl Outcome.noConfusion).append_silent rfl⟩
      rw [List.countP_append, hledger.length_outputs (.inl ⟨_, _, hstate⟩)]
      rfl

end Run

/-- Whatever the backends answer and whenever the task is cancelled: a cancelled run calls itself
partial exactly when the candidate being called at that moment has brought a reply, and it counts
the replies of this candidate only. A success is on record exactly when any candidate has brought
one. So a partial run has completed a chunk, and a run that has completed one is settled as failed
if the candidate being called has a part in it, and as cancelled otherwise. -/
theorem cancelled_partly_iff (request : Request) (settings : Settings)
    (haddr : request.Addressable) (now : Timestamp) (moments : List Moment) {final : Run}
    {id : String} {partly : Bool} {chunks : Nat}
    (h : (Run.start (request.job settings) now).follow (request.job settings) moments =
      .stop final (.error (.cancelled id partly chunks))) :
    let calls := (Run.start (request.job settings) now).exchanges (request.job settings) moments
    chunks = calls.countP (Exchange.servedIn final.state) ∧
      (partly = true ↔ ∃ call ∈ calls, call.reply?.isSome ∧
        final.state.served? = some call.index) ∧
      ((∃ a ∈ final.attempts, a.outcome = .success) ↔ ∃ call ∈ calls, call.reply?.isSome) ∧
      (partly = true → ∃ a ∈ final.attempts, a.outcome = .success) ∧
      Queue.endingStatus (.error (.cancelled id partly chunks)) =
        if partly then .failed else .cancelled := by
  intro calls
  obtain ⟨last, made, m, -, extra, ⟨hledger, hsuccesses⟩, hstopped, hcalls⟩ :=
    Run.start_follow_stop (request.job_sound settings haddr)
      (P := fun run calls => run.Ledger (request.job settings) calls ∧ run.Successes calls)
      ⟨Run.start_ledger _ now, Run.start_successes _ now⟩
      (fun ⟨hledger, hsuccesses⟩ hplaced hmoved =>
        ⟨hmoved.ledger hplaced hledger, hmoved.successes hsuccesses⟩) h
  obtain ⟨hpartly, hchunks, hrecorded⟩ := hstopped.completed hledger hsuccesses
  rw [← hcalls] at hchunks hrecorded
  have hiff : partly = true ↔ ∃ call ∈ calls, call.reply?.isSome ∧
      final.state.served? = some call.index := by
    rw [hpartly, decide_eq_true_iff, hchunks, List.countP_pos_iff]
    simp [Exchange.servedIn, calls]
  have hany : (∃ a ∈ final.attempts, a.outcome = .success) ↔
      ∃ call ∈ calls, call.reply?.isSome := by
    have hattempts : 0 < final.attempts.countP (·.outcome = .success) ↔
        ∃ a ∈ final.attempts, a.outcome = .success := by
      simp [List.countP_pos_iff]
    have hreplies : 0 < calls.countP (·.reply?.isSome) ↔ ∃ call ∈ calls, call.reply?.isSome := by
      rw [List.countP_pos_iff]
    rw [← hattempts, ← hreplies, hrecorded]
  refine ⟨hchunks, hiff, hany, fun htrue => ?_, ?_⟩
  · obtain ⟨call, hcall, hreply, -⟩ := hiff.mp htrue
    exact hany.mpr ⟨call, hcall, hreply⟩
  · cases partly <;> rfl

/-- A moment in which the task is seen to be cancelled before anything else happens. -/
def Moment.cancelling : Moment := { Moment.calm (.ok default) with cancelled := true }

/-- `sampleRequest`, cancelled between its two chunks. -/
theorem sampleRequest_cancelled_partly :
    let job := sampleRequest.job sampleSettings
    let moments := [.ok ⟨"", none⟩, .ok ⟨"", none⟩, .ok ⟨"one", none⟩].map Moment.calm ++
      [Moment.cancelling]
    sampleRequest.Addressable ∧ ∃ final,
      (Run.start job ⟨0, 0⟩).follow job moments =
          .stop final (.error (.cancelled "task" true 1)) ∧
        ∃ a ∈ final.attempts, a.outcome = .success := by
  intro job moments
  have hrun : ∃ final, (Run.start job ⟨0, 0⟩).follow job moments =
      .stop final (.error (.cancelled "task" true 1)) := by
    simp only [job]
    rw [sampleRequest_job]
    exact ⟨_, rfl⟩
  obtain ⟨final, hfinal⟩ := hrun
  obtain ⟨-, -, -, hsuccess, -⟩ := cancelled_partly_iff sampleRequest sampleSettings
    sampleRequest_addressable ⟨0, 0⟩ moments hfinal
  exact ⟨sampleRequest_addressable, final, hfinal, hsuccess rfl⟩

/-! ## A completed chunk that is not told of -/

/-- The task of `sampleRequest` for two models that take its chunks. -/
def fallbackRequest : Request :=
  { sampleRequest with candidates := [sampleModel, { sampleModel with name := "spare" }] }

/-- The plan of `fallbackRequest`: the same two chunks for each of the models. -/
def fallbackPlan : Plan :=
  let candidate : Candidate := {
    model := "patient", provider := "echo"
    plan := some (.chunked [⟨0, [0], 30⟩, ⟨1, [1], 30⟩] 41), promptTokens := 86 }
  { samplePlan with
    candidates := [candidate, { candidate with model := "spare" }], filteredOut := [] }

theorem fallbackRequest_job :
    fallbackRequest.job sampleSettings = ⟨sampleSettings, fallbackRequest, fallbackPlan⟩ := by
  have hrank : Model.rank fallbackRequest.candidates fallbackRequest.package.tokensUsed
      fallbackRequest.tags =
        [Model.rankOne 60 [] 0 sampleModel,
          Model.rankOne 60 [] 1 { sampleModel with name := "spare" }] := by
    rw [Model.rank, List.mergeSort_of_pairwise (by decide)]
    decide
  have hplan : fallbackRequest.plan sampleSettings.estimator sampleSettings.margin =
      fallbackPlan := by
    rw [Request.plan, hrank]
    decide +kernel
  rw [Request.job, hplan]

/-- The first model completes a chunk and is given up at the next one; the task is cancelled before
the second model is chosen. A success is on record, and the run does not call itself partial. -/
theorem fallback_cancelled_not_partly :
    let job := fallbackRequest.job sampleSettings
    let moments := [.ok ⟨"", none⟩, .ok ⟨"", none⟩, .ok ⟨"one", none⟩,
      Backend.capability "too long"].map Moment.calm ++ [Moment.cancelling]
    ∃ final, (Run.start job ⟨0, 0⟩).follow job moments =
        .stop final (.error (.cancelled "task" false 0)) ∧
      (∃ a ∈ final.attempts, a.outcome = .success) ∧
      Queue.endingStatus (.error (.cancelled "task" false 0)) = .cancelled := by
  intro job moments
  simp only [job]
  rw [fallbackRequest_job]
  refine ⟨_, rfl, ?_, rfl⟩
  decide +kernel

end Switchboard.Route
