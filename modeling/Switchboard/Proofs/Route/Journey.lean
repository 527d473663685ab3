import Switchboard.Proofs.Route.Job

/-!
# Journeys: runs among arbitrary circumstances

A run meets circumstances it has no say in: when a turn of its loop takes place, whether the task
is seen to be cancelled then, what a backend answers and whether a cancellation comes first. A
`Moment` holds those of one turn, and a journey is what `Run.step` and `Run.resume` make of a list
of moments. Statements about all lists of moments are statements about every behaviour of the
backends and every instant at which a task may be cancelled, seen or not seen by the run. Where sums
are checked, a journey may also break off because the worker goes down; up to there it is the
same journey.

`Turned` lists everything one turn can do. A run of a sound job is always `Placed`: it is at a
candidate and at a chunk that there is. For such runs `Moved` says how they go on and `Stopped` how
they stop. Whatever holds along a journey is shown for each case of `Moved` and carried over the
journey by `start_follow_stop`.

## Main results

* `Run.turned` — a turn does one of the things that `Turned` lists.
* `Run.Placed.moved`, `Run.Placed.stopped` — how runs of sound jobs go on and stop.
* `Run.Moved.placed` — they stay within the candidates and prompts there are.
* `Run.start_follow_stop` — what every move keeps holds when a journey stops.
-/

namespace Switchboard.Route

/-- What a run meets in one turn of its loop. -/
structure Moment where
  /-- When the turn begins. -/
  now : Timestamp
  /-- Whether the task is then seen to be cancelled. -/
  cancelled : Bool
  /-- When the waiting is over, if the turn waits. -/
  later : Timestamp
  /-- Whether it is a cancellation that ends the waiting. -/
  interrupted : Bool
  /-- What the backend answers, if the turn makes a call. -/
  answer : Backend.Answer

/-- A moment in which nobody cancels the task. -/
def Moment.calm (answer : Backend.Answer) : Moment := ⟨⟨0, 0⟩, false, ⟨0, 0⟩, false, answer⟩

/-- Somebody cancels the task in this moment. -/
def Moment.Cancels (m : Moment) : Prop := m.cancelled = true ∨ m.interrupted = true

/-- What ends the waiting for something. -/
def Moment.signal (m : Moment) : Need → Signal
  | .reply _ => if m.interrupted then .cancelled else .answered m.answer
  | .delay _ => if m.interrupted then .cancelled else .elapsed

/-- A call that was made. -/
structure Exchange where
  /-- The position of the candidate. -/
  index : Nat
  attempt : Nat
  request : Backend.Request
  /-- What came back; nothing when a cancellation came first. -/
  answer : Option Backend.Answer

/-- A record without the times it notes. -/
def Attempt.timeless (a : Attempt) : Attempt := { a with latencyMs := 0, time := ⟨0, 0⟩ }

/-- The chunk number in the records of a candidate: none when the task is sent whole. -/
def Candidate.label (c : Candidate) (chunk : Nat) : Option Nat :=
  if (c.plan.map Call.Plan.isChunked).getD false then some chunk else none

/-- The record that a call of a candidate leaves, without the times it notes. -/
def Exchange.record (job : Job) (c : Candidate) (call : Exchange) : Attempt :=
  match call.answer with
  | some (.ok reply) => {
      taskId := job.request.taskId, model := c.model, number := call.attempt
      chunk := c.label call.request.chunk, outcome := .success
      tokenCost := Run.cost job call.request.prompt reply }
  | some (.error failure) => {
      taskId := job.request.taskId, model := c.model, number := call.attempt
      chunk := c.label call.request.chunk, outcome := .ofFailure failure.kind
      error := some failure.message }
  | none => { taskId := job.request.taskId, model := c.model, outcome := .cancelled }

/-- The record of a model that is passed over, without the time it notes. -/
def skipRecord (job : Job) (model reason : String) : Attempt :=
  { taskId := job.request.taskId, model, outcome := .skipped, error := some reason }

namespace Run

/-- One turn of the loop: a step, and what follows the waiting if the step waits. -/
def turn (job : Job) (run : Run) (m : Moment) : Step :=
  match run.step job m.now m.cancelled with
  | .wait waiting need => waiting.resume job m.later (m.signal need)
  | other => other

/-- The call that a turn makes, if it makes one. -/
def exchange (job : Job) (run : Run) (m : Moment) : List Exchange :=
  match run.step job m.now m.cancelled with
  | .wait _ (.reply request) =>
      match run.state with
      | .calling index _ attempt =>
          [⟨index, attempt, request, if m.interrupted then none else some m.answer⟩]
      | _ => []
  | _ => []

/-- Where a list of moments takes a run. -/
def follow (job : Job) (run : Run) : List Moment → Step
  | [] => .next run
  | m :: moments =>
      match run.turn job m with
      | .next run => run.follow job moments
      | stopped => stopped

/-- One turn of the loop, with sums checked or not. -/
def turnIn (overflow : Overflow) (job : Job) (run : Run) (m : Moment) : Except String Step :=
  match run.step job m.now m.cancelled with
  | .wait waiting need => waiting.resumeIn overflow job m.later (m.signal need)
  | other => .ok other

/-- Where a list of moments takes a run with sums checked or not, if it does not take its worker
down. -/
def followIn (overflow : Overflow) (job : Job) (run : Run) : List Moment → Except String Step
  | [] => .ok (.next run)
  | m :: moments =>
      match run.turnIn overflow job m with
      | .ok (.next run) => run.followIn overflow job moments
      | stopped => stopped

/-- The calls on the way, in order. -/
def exchanges (job : Job) (run : Run) : List Moment → List Exchange
  | [] => []
  | m :: moments =>
      run.exchange job m ++
        match run.turn job m with
        | .next run => run.exchanges job moments
        | _ => []

/-! ## What a turn can do -/

/-- The run after a cancellation that leaves a record. -/
def noteCancelled (job : Job) (now : Timestamp) (run : Run) (model : String) : Run :=
  run.note { taskId := job.request.taskId, model, outcome := .cancelled, time := now }

/-- Everything that a turn can do, with the calls it makes. -/
inductive Turned (job : Job) (m : Moment) (run : Run) : Step → List Exchange → Prop where
  | begun (hstate : run.state = .pending) :
      Turned job m run (.next (run.fire job .begin)) []
  | selected {index : Nat} {c : Candidate} (hstate : run.state = .selecting index)
      (hc : job.plan.candidates[index]? = some c) :
      Turned job m run (.next (run.select job m.now c)) []
  | answered {index chunk attempt : Nat} {c : Candidate} {request : Backend.Request}
      (hstate : run.state = .calling index chunk attempt)
      (hc : job.plan.candidates[index]? = some c)
      (hrequest : run.request job c chunk = .ok request) :
      Turned job m run
        (.next ({ run with called := m.now }.receive job m.later c chunk attempt m.answer))
        [⟨index, attempt, request, some m.answer⟩]
  | rested {index chunk attempt delayMs : Nat} {c : Candidate}
      (hstate : run.state = .retrying index chunk attempt delayMs)
      (hc : job.plan.candidates[index]? = some c) :
      Turned job m run (.next (run.fire job .backoffElapsed)) []
  | cancelledSelecting {index : Nat} (hstate : run.state = .selecting index)
      (hcancels : m.Cancels) :
      Turned job m run (.stop run (.error (.cancelled job.request.taskId false 0))) []
  | cancelledCalling {index chunk attempt : Nat} {c : Candidate}
      (hstate : run.state = .calling index chunk attempt)
      (hc : job.plan.candidates[index]? = some c) (hcancels : m.Cancels) :
      Turned job m run
        (.stop (run.noteCancelled job m.now c.model)
          (.error (.cancelled job.request.taskId (0 < run.outputs.length) run.outputs.length))) []
  | interruptedCalling {index chunk attempt : Nat} {c : Candidate} {request : Backend.Request}
      (hstate : run.state = .calling index chunk attempt)
      (hc : job.plan.candidates[index]? = some c)
      (hrequest : run.request job c chunk = .ok request) (hcancels : m.Cancels) :
      Turned job m run
        (.stop ({ run with called := m.now }.noteCancelled job m.later c.model)
          (.error (.cancelled job.request.taskId (0 < run.outputs.length) run.outputs.length)))
        [⟨index, attempt, request, none⟩]
  | cancelledRetrying {index chunk attempt delayMs : Nat} {c : Candidate} {now : Timestamp}
      (hstate : run.state = .retrying index chunk attempt delayMs)
      (hc : job.plan.candidates[index]? = some c) (hcancels : m.Cancels) :
      Turned job m run
        (.stop (run.noteCancelled job now c.model)
          (.error (.cancelled job.request.taskId (0 < run.outputs.length) run.outputs.length))) []
  | succeeded {index : Nat} {c : Candidate} (hstate : run.state = .succeeded index)
      (hc : job.plan.candidates[index]? = some c) :
      Turned job m run (.stop run (.ok (run.finish job m.now c))) []
  | exhausted (hstate : run.state = .exhausted) :
      Turned job m run (.stop run (.error (run.exhaustion job))) []
  | refused {index chunk attempt : Nat} {c : Candidate} {error : Error}
      (hstate : run.state = .calling index chunk attempt)
      (hc : job.plan.candidates[index]? = some c)
      (hrequest : run.request job c chunk = .error error) :
      Turned job m run (.stop run (.error error)) []
  | astray {index : Nat} (hstate : (∃ chunk attempt, run.state = .calling index chunk attempt) ∨
        (∃ chunk attempt delayMs, run.state = .retrying index chunk attempt delayMs) ∨
        run.state = .selecting index ∨ run.state = .succeeded index)
      (hc : job.plan.candidates[index]? = none) :
      Turned job m run (.stop run (.error (astray job index))) []

theorem resume_answered {job : Job} {run : Run} {c : Candidate} {index chunk attempt : Nat}
    (now : Timestamp) (answer : Backend.Answer) (hstate : run.state = .calling index chunk attempt)
    (hc : job.plan.candidates[index]? = some c) :
    run.resume job now (.answered answer) =
      .next (run.receive job now c chunk attempt answer) := by
  simp only [resume, hstate, hc]

theorem resume_elapsed {job : Job} {run : Run} {index chunk attempt delayMs : Nat}
    (now : Timestamp) (hstate : run.state = .retrying index chunk attempt delayMs) :
    run.resume job now .elapsed = .next (run.fire job .backoffElapsed) := by
  simp only [resume, hstate]

theorem resume_cancelled {job : Job} {run : Run} {c : Candidate} {index : Nat}
    (now : Timestamp)
    (hstate : (∃ chunk attempt, run.state = .calling index chunk attempt) ∨
      ∃ chunk attempt delayMs, run.state = .retrying index chunk attempt delayMs)
    (hc : job.plan.candidates[index]? = some c) :
    run.resume job now .cancelled =
      .stop (run.noteCancelled job now c.model)
        (.error (.cancelled job.request.taskId (0 < run.outputs.length) run.outputs.length)) := by
  rcases hstate with ⟨chunk, attempt, hstate⟩ | ⟨chunk, attempt, delayMs, hstate⟩ <;>
    simp only [resume, hstate, hc, cancel, noteCancelled]

/-- An answer takes a worker down only where sums are checked and its cost cannot be added. -/
theorem resumeIn_eq_error {overflow : Overflow} {job : Job} {run : Run} {now : Timestamp}
    {signal : Signal} {message : String}
    (h : run.resumeIn overflow job now signal = .error message) :
    overflow = .aborts ∧ message = overflowMessage ∧
      ∃ answer, signal = .answered answer ∧ run.overflows job answer = true := by
  unfold resumeIn at h
  split at h
  next answer =>
    split at h
    next hoverflows => exact ⟨rfl, (Except.error.inj h).symm, answer, rfl, hoverflows⟩
    next => cases h
  next => cases h

/-- Otherwise it makes no difference whether sums are checked. -/
theorem resumeIn_eq_ok {overflow : Overflow} {job : Job} {run : Run} {now : Timestamp}
    {signal : Signal} {step : Step} (h : run.resumeIn overflow job now signal = .ok step) :
    step = run.resume job now signal := by
  unfold resumeIn at h
  split at h
  · split at h
    · cases h
    · exact (Except.ok.inj h).symm
  · exact (Except.ok.inj h).symm

theorem resumeIn_elapsed {overflow : Overflow} (job : Job) (run : Run) (now : Timestamp) :
    run.resumeIn overflow job now .elapsed = .ok (run.resume job now .elapsed) := by
  cases overflow <;> rfl

theorem resumeIn_cancelled {overflow : Overflow} (job : Job) (run : Run) (now : Timestamp) :
    run.resumeIn overflow job now .cancelled = .ok (run.resume job now .cancelled) := by
  cases overflow <;> rfl

/-- A turn that does not wait is a step. -/
private theorem turned_of_next {job : Job} {run next : Run} {m : Moment}
    (hstep : run.step job m.now m.cancelled = .next next)
    (h : Turned job m run (.next next) []) :
    Turned job m run (run.turn job m) (run.exchange job m) := by
  simpa only [turn, exchange, hstep] using h

private theorem turned_of_stop {job : Job} {run final : Run} {ending : Ending} {m : Moment}
    (hstep : run.step job m.now m.cancelled = .stop final ending)
    (h : Turned job m run (.stop final ending) []) :
    Turned job m run (run.turn job m) (run.exchange job m) := by
  simpa only [turn, exchange, hstep] using h

private theorem turned_calling {job : Job} {run : Run} {m : Moment} {index chunk attempt : Nat}
    (hstate : run.state = .calling index chunk attempt) :
    Turned job m run (run.turn job m) (run.exchange job m) := by
  cases hc : job.plan.candidates[index]? with
  | none =>
      exact turned_of_stop (by simp only [step, hstate, hc])
        (.astray (.inl ⟨chunk, attempt, hstate⟩) hc)
  | some c =>
      cases hcancelled : m.cancelled with
      | true =>
          exact turned_of_stop (by simp only [step, hstate, hc, hcancelled, if_true, cancel]; rfl)
            (.cancelledCalling hstate hc (.inl hcancelled))
      | false =>
          cases hrequest : run.request job c chunk with
          | error error =>
              exact turned_of_stop
                (by simp only [step, hstate, hc, hcancelled, Bool.false_eq_true, if_false,
                  hrequest])
                (.refused hstate hc hrequest)
          | ok request =>
              have hstep : run.step job m.now m.cancelled =
                  .wait { run with called := m.now } (.reply request) := by
                simp only [step, hstate, hc, hcancelled, Bool.false_eq_true, if_false, hrequest]
              have hwaiting : { run with called := m.now }.state = .calling index chunk attempt :=
                hstate
              cases hinterrupted : m.interrupted with
              | true =>
                  have hexchange : run.exchange job m = [⟨index, attempt, request, none⟩] := by
                    simp only [exchange, hstep, hstate, hinterrupted, if_true]
                  rw [hexchange]
                  simp only [turn, hstep, Moment.signal, hinterrupted, if_true]
                  rw [resume_cancelled m.later (.inl ⟨chunk, attempt, hwaiting⟩) hc]
                  exact .interruptedCalling hstate hc hrequest (.inr hinterrupted)
              | false =>
                  have hexchange : run.exchange job m =
                      [⟨index, attempt, request, some m.answer⟩] := by
                    simp only [exchange, hstep, hstate, hinterrupted, Bool.false_eq_true, if_false]
                  rw [hexchange]
                  simp only [turn, hstep, Moment.signal, hinterrupted, Bool.false_eq_true, if_false]
                  rw [resume_answered m.later m.answer hwaiting hc]
                  exact .answered hstate hc hrequest

private theorem turned_retrying {job : Job} {run : Run} {m : Moment}
    {index chunk attempt delayMs : Nat}
    (hstate : run.state = .retrying index chunk attempt delayMs) :
    Turned job m run (run.turn job m) (run.exchange job m) := by
  cases hc : job.plan.candidates[index]? with
  | none =>
      exact turned_of_stop (by simp only [step, hstate, hc])
        (.astray (.inr (.inl ⟨chunk, attempt, delayMs, hstate⟩)) hc)
  | some c =>
      cases hcancelled : m.cancelled with
      | true =>
          exact turned_of_stop (by simp only [step, hstate, hc, hcancelled, if_true, cancel]; rfl)
            (.cancelledRetrying hstate hc (.inl hcancelled))
      | false =>
          have hstep : run.step job m.now m.cancelled = .wait run (.delay delayMs) := by
            simp only [step, hstate, hc, hcancelled, Bool.false_eq_true, if_false]
          cases hinterrupted : m.interrupted with
          | true =>
              simp only [turn, exchange, hstep, Moment.signal, hinterrupted, if_true]
              rw [resume_cancelled m.later (.inr ⟨chunk, attempt, delayMs, hstate⟩) hc]
              exact .cancelledRetrying hstate hc (.inr hinterrupted)
          | false =>
              simp only [turn, exchange, hstep, Moment.signal, hinterrupted, Bool.false_eq_true,
                if_false]
              rw [resume_elapsed m.later hstate]
              exact .rested hstate hc

/-- A turn does one of the things listed. -/
theorem turned (job : Job) (run : Run) (m : Moment) :
    Turned job m run (run.turn job m) (run.exchange job m) := by
  cases hstate : run.state with
  | pending => exact turned_of_next (by simp only [step, hstate]) (.begun hstate)
  | selecting index =>
      cases hcancelled : m.cancelled with
      | true =>
          exact turned_of_stop (by simp only [step, hstate, hcancelled, if_true, cancel]; rfl)
            (.cancelledSelecting hstate (.inl hcancelled))
      | false =>
          cases hc : job.plan.candidates[index]? with
          | none =>
              exact turned_of_stop
                (by simp only [step, hstate, hcancelled, Bool.false_eq_true, if_false, hc])
                (.astray (.inr (.inr (.inl hstate))) hc)
          | some c =>
              exact turned_of_next
                (by simp only [step, hstate, hcancelled, Bool.false_eq_true, if_false, hc])
                (.selected hstate hc)
  | calling index chunk attempt => exact turned_calling hstate
  | retrying index chunk attempt delayMs => exact turned_retrying hstate
  | succeeded index =>
      cases hc : job.plan.candidates[index]? with
      | none =>
          exact turned_of_stop (by simp only [step, hstate, hc])
            (.astray (.inr (.inr (.inr hstate))) hc)
      | some c => exact turned_of_stop (by simp only [step, hstate, hc]) (.succeeded hstate hc)
  | exhausted => exact turned_of_stop (by simp only [step, hstate]) (.exhausted hstate)

/-! ## Whole journeys -/

/-- Moments that come later are met by what the earlier ones led to. -/
theorem followIn_append (overflow : Overflow) (job : Job) (run : Run)
    (earlier later : List Moment) :
    run.followIn overflow job (earlier ++ later) =
      match run.followIn overflow job earlier with
      | .ok (.next reached) => reached.followIn overflow job later
      | stopped => stopped := by
  induction earlier generalizing run with
  | nil => rfl
  | cons m earlier ih =>
      rw [List.cons_append, followIn, followIn]
      rcases run.turnIn overflow job m with message | (next | ⟨waiting, need⟩ | ⟨final, ending⟩)
      · rfl
      · exact ih next
      · rfl
      · rfl

theorem followIn_singleton (overflow : Overflow) (job : Job) (run : Run) (m : Moment) :
    run.followIn overflow job [m] = run.turnIn overflow job m := by
  rw [followIn]
  rcases run.turnIn overflow job m with message | (next | ⟨waiting, need⟩ | ⟨final, ending⟩) <;> rfl

/-- A turn that does not take the worker down is the same with sums checked or not. -/
theorem turnIn_eq_ok {overflow : Overflow} {job : Job} {run : Run} {m : Moment} {step : Step}
    (h : run.turnIn overflow job m = .ok step) : run.turn job m = step := by
  rw [turnIn] at h
  rw [turn]
  cases hstep : run.step job m.now m.cancelled with
  | wait waiting need =>
      rw [hstep] at h
      exact (resumeIn_eq_ok h).symm
  | next next =>
      rw [hstep] at h
      exact Except.ok.inj h
  | stop final ending =>
      rw [hstep] at h
      exact Except.ok.inj h

/-- So is a journey. -/
theorem follow_of_followIn {overflow : Overflow} {job : Job} {run : Run} {moments : List Moment}
    {step : Step} (h : run.followIn overflow job moments = .ok step) :
    run.follow job moments = step := by
  induction moments generalizing run with
  | nil => exact Except.ok.inj h
  | cons m moments ih =>
      rw [followIn] at h
      rw [follow]
      rcases hturn : run.turnIn overflow job m with
        message | (next | ⟨waiting, need⟩ | ⟨final, ending⟩)
      · rw [hturn] at h
        cases h
      · rw [hturn] at h
        rw [turnIn_eq_ok hturn]
        exact ih h
      · rw [hturn] at h
        rw [turnIn_eq_ok hturn]
        exact Except.ok.inj h
      · rw [hturn] at h
        rw [turnIn_eq_ok hturn]
        exact Except.ok.inj h

/-- Where sums are not checked, no worker goes down. -/
theorem followIn_wraps (job : Job) (run : Run) (moments : List Moment) :
    run.followIn .wraps job moments = .ok (run.follow job moments) := by
  have hturn : ∀ run m, turnIn .wraps job run m = .ok (run.turn job m) := by
    intro run m
    rw [turnIn, turn]
    cases run.step job m.now m.cancelled <;> rfl
  induction moments generalizing run with
  | nil => rfl
  | cons m moments ih =>
      rw [followIn, hturn, follow]
      cases run.turn job m with
      | next next => exact ih next
      | wait waiting need => rfl
      | stop final ending => rfl

/-- What every turn keeps holds of the run in which a journey stops. The property may speak of
the calls made so far; `calls` are those before the journey. -/
theorem follow_stop {job : Job} {P : Run → List Exchange → Prop}
    (hkeep : ∀ {run calls m next made}, P run calls → Turned job m run (.next next) made →
      P next (calls ++ made))
    {run final : Run} {calls : List Exchange} {ending : Ending} {moments : List Moment}
    (hstart : P run calls) (h : run.follow job moments = .stop final ending) :
    ∃ last made, ∃ m ∈ moments, ∃ extra, P last made ∧
      Turned job m last (.stop final ending) extra ∧
      calls ++ run.exchanges job moments = made ++ extra := by
  induction moments generalizing run calls with
  | nil => cases h
  | cons m moments ih =>
      have hturned := turned job run m
      rw [follow] at h
      rw [exchanges]
      cases hturn : run.turn job m with
      | next next =>
          rw [hturn] at h hturned
          obtain ⟨last, made, m', hm, extra, hlast, hstop, hcalls⟩ := ih (hkeep hstart hturned) h
          exact ⟨last, made, m', List.mem_cons_of_mem m hm, extra, hlast, hstop,
            by rw [← hcalls, List.append_assoc]⟩
      | wait waiting need =>
          rw [hturn] at h
          cases h
      | stop stopped ended =>
          rw [hturn] at h hturned
          cases h
          exact ⟨run, calls, m, List.mem_cons_self, _, hstart, hturned, by rw [List.append_nil]⟩

/-! ## Where a run can be -/

/-- The candidate at a position can be called, and the prompts of the run are its prompts. -/
def Calls (job : Job) (run : Run) (index : Nat) (c : Candidate) : Prop :=
  job.plan.candidates[index]? = some c ∧ prepare job c = .ok run.prompts

/-- The run is at a candidate of the plan and at a chunk of that candidate. -/
def Placed (job : Job) (run : Run) : Prop :=
  match run.state with
  | .pending | .exhausted => True
  | .selecting index => index < job.plan.candidates.length
  | .calling index chunk _ | .retrying index chunk _ _ =>
      (∃ c, run.Calls job index c) ∧ chunk < run.prompts.length
  | .succeeded index => ∃ c, run.Calls job index c

/-- A candidate can be called exactly when it has a plan, a backend and a prompt. -/
theorem prepare_eq_ok_iff {job : Job} {c : Candidate} {prompts : List String} :
    prepare job c = .ok prompts ↔
      ∃ plan, c.plan = some plan ∧ c.provider ∈ job.settings.providers ∧
        prompts = Call.prompts job.request.description job.request.package plan ∧
        prompts ≠ [] := by
  constructor
  · intro h
    cases hplan : c.plan with
    | none =>
        cases hrejection : c.rejection <;> simp [prepare, hplan, hrejection] at h
    | some plan =>
        simp only [prepare, hplan] at h
        split at h
        · cases h
        next hprovider =>
          split at h
          · cases h
          next hne =>
            injection h with h
            exact ⟨plan, rfl, by simpa using hprovider, h.symm, by rw [← h]; exact hne⟩
  · rintro ⟨plan, hplan, hprovider, rfl, hne⟩
    simp only [prepare, hplan]
    simp only [hprovider, not_true_eq_false, if_false]

/-- The candidates of a sound job that can be called are those with a plan and a backend. -/
theorem prepare_isOk_iff {job : Job} (hjob : job.Sound) {c : Candidate}
    (hc : c ∈ job.plan.candidates) :
    (∃ prompts, prepare job c = .ok prompts) ↔
      c.plan.isSome ∧ c.provider ∈ job.settings.providers := by
  constructor
  · rintro ⟨prompts, h⟩
    obtain ⟨plan, hplan, hprovider, -, -⟩ := prepare_eq_ok_iff.mp h
    exact ⟨by rw [hplan]; rfl, hprovider⟩
  · rintro ⟨hplan, hprovider⟩
    obtain ⟨plan, hplan⟩ := Option.isSome_iff_exists.mp hplan
    refine ⟨_, prepare_eq_ok_iff.mpr ⟨plan, hplan, hprovider, rfl, ?_⟩⟩
    have hpos := hjob.calls_pos c hc plan hplan
    rw [← Call.length_prompts job.request.description job.request.package plan] at hpos
    exact List.ne_nil_of_length_pos hpos

/-- The prompts of a candidate that is called can be counted. -/
theorem Calls.length_prompts_lt {job : Job} (hjob : job.Sound) {run : Run} {index : Nat}
    {c : Candidate} (h : run.Calls job index c) : run.prompts.length < Word.size64 := by
  obtain ⟨plan, hplan, -, hprompts, -⟩ := prepare_eq_ok_iff.mp h.2
  rw [hprompts, Call.length_prompts]
  exact hjob.calls_lt c (List.mem_of_getElem? h.1) plan hplan

/-- The numbers in the records of a candidate that is called. -/
theorem chunkLabel_eq {job : Job} {run : Run} {index : Nat} {c : Candidate}
    (h : run.Calls job index c) (chunk : Nat) : run.chunkLabel c chunk = c.label chunk := by
  obtain ⟨plan, hplan, -, hprompts, -⟩ := prepare_eq_ok_iff.mp h.2
  have hlength : run.prompts.length = plan.chunkCount := by
    rw [hprompts, Call.length_prompts]
  cases plan with
  | single promptTokens => simp [chunkLabel, Candidate.label, hplan, hlength, Call.Plan.chunkCount]
  | chunked chunks capacity => simp [chunkLabel, Candidate.label, hplan, Call.Plan.isChunked]

/-- What a call that can be made asks. -/
theorem request_eq_ok {job : Job} {run : Run} {c : Candidate} {chunk : Nat}
    {request : Backend.Request} (h : run.request job c chunk = .ok request) :
    run.prompts[chunk]? = some request.prompt ∧ request.chunk = chunk := by
  unfold Run.request at h
  split at h
  · cases h
  · split at h
    · cases h
    · split at h
      · cases h
      next hprompt =>
        cases h
        exact ⟨hprompt, rfl⟩

/-- A call of a candidate that can be called goes through. -/
theorem Calls.request_ok {job : Job} (hjob : job.Sound) {run : Run} {index chunk : Nat}
    {c : Candidate} (h : run.Calls job index c) (hchunk : chunk < run.prompts.length) :
    ∃ request, run.request job c chunk = .ok request := by
  obtain ⟨p, hp, hname⟩ := hjob.known c (List.mem_of_getElem? h.1)
  obtain ⟨profile, hprofile⟩ : ∃ profile,
      job.request.candidates.find? (·.name = c.model) = some profile := by
    rw [← Option.isSome_iff_exists, List.find?_isSome]
    exact ⟨p, hp, by simpa using hname⟩
  obtain ⟨-, -, hprovider, -, -⟩ := prepare_eq_ok_iff.mp h.2
  have hprompt : run.prompts[chunk]? = some run.prompts[chunk] := List.getElem?_eq_getElem hchunk
  simp only [Run.request, hprofile, hprovider, not_true_eq_false, if_false, hprompt]
  exact ⟨_, rfl⟩

/-! ## What choosing and answering change -/

section Select

variable {job : Job} {run : Run} {index : Nat} {c : Candidate} (now : Timestamp)
  (hstate : run.state = .selecting index)
include hstate

/-- A candidate that cannot be called is passed over with a record. -/
theorem select_of_error {reason : String} (h : prepare job c = .error reason) :
    (run.select job now c).state = advance job.plan.candidates.length index ∧
      (∃ a, a.timeless = skipRecord job c.model reason ∧
        (run.select job now c).attempts = run.attempts ++ [a]) ∧
      (run.select job now c).tokenCost = run.tokenCost := by
  simp only [select, h]
  refine ⟨?_, ⟨_, rfl, rfl⟩, rfl⟩
  simp only [fire, skip, note, hstate, transition]

/-- A candidate that can be called is called from its first chunk on. -/
theorem select_of_ok {prompts : List String} (h : prepare job c = .ok prompts) :
    (run.select job now c).state = .calling index 0 1 ∧
      (run.select job now c).prompts = prompts ∧
      (run.select job now c).outputs = [] ∧
      (run.select job now c).attempts = run.attempts ∧
      (run.select job now c).tokenCost = run.tokenCost := by
  simp only [select, h]
  refine ⟨?_, rfl, rfl, rfl, rfl⟩
  simp only [fire, hstate, transition]

end Select

section Receive

variable {job : Job} {run : Run} {index chunk attempt : Nat} {c : Candidate} (now : Timestamp)

theorem receive_prompts (attempt : Nat) (answer : Backend.Answer) :
    (run.receive job now c chunk attempt answer).prompts = run.prompts := by
  cases answer <;> rfl

/-- A call that is answered leaves its record. -/
theorem receive_attempts {request : Backend.Request} (attempt : Nat) (answer : Backend.Answer)
    (hcalls : run.Calls job index c) (hrequest : run.request job c chunk = .ok request) :
    ∃ a, a.timeless = Exchange.record job c ⟨index, attempt, request, some answer⟩ ∧
      (run.receive job now c chunk attempt answer).attempts = run.attempts ++ [a] := by
  obtain ⟨hprompt, rfl⟩ := request_eq_ok hrequest
  have hlabel := chunkLabel_eq hcalls request.chunk
  cases answer with
  | ok reply =>
      refine ⟨_, ?_, rfl⟩
      simp only [Attempt.timeless, Exchange.record, hprompt, hlabel, Option.getD_some]
  | error failure =>
      refine ⟨_, ?_, rfl⟩
      simp only [Attempt.timeless, Exchange.record, hlabel]

variable (hstate : run.state = .calling index chunk attempt)
include hstate

/-- A reply is kept and charged, and the next chunk is due if there is one. -/
theorem receive_ok (reply : Backend.Reply) (hprompts : run.prompts.length < Word.size64) :
    (run.receive job now c chunk attempt (.ok reply)).state =
        (if chunk + 1 < run.prompts.length then .calling index (chunk + 1) 1
          else .succeeded index) ∧
      (run.receive job now c chunk attempt (.ok reply)).outputs =
        run.outputs ++ [(chunk, reply.text)] ∧
      (run.receive job now c chunk attempt (.ok reply)).tokenCost =
        Word.add run.tokenCost (cost job (run.prompts[chunk]?.getD "") reply) := by
  refine ⟨?_, rfl, rfl⟩
  by_cases hmore : chunk + 1 < run.prompts.length
  · simp only [receive, fire, note, hstate, hmore, if_true, transition]
    rw [Word.add_eq (by omega)]
  · simp only [receive, fire, note, hstate, hmore, if_false, transition]

/-- A failure changes neither outputs nor costs. What follows depends on its kind and on how often
the chunk was tried. -/
theorem receive_error (failure : Failure) :
    (run.receive job now c chunk attempt (.error failure)).state =
        (if failure.kind = .transient ∧ attempt ≤ job.settings.policy.maxRetries then
          .retrying index chunk attempt (job.settings.policy.backoffMs attempt)
        else advance job.plan.candidates.length index) ∧
      (run.receive job now c chunk attempt (.error failure)).outputs = run.outputs ∧
      (run.receive job now c chunk attempt (.error failure)).tokenCost = run.tokenCost := by
  refine ⟨?_, rfl, rfl⟩
  cases hkind : failure.kind <;>
    simp [receive, fire, note, hstate, hkind, transition]

end Receive

/-! ## How a run that is placed goes on -/

/-- The state after a candidate is given up. -/
def afterward (job : Job) (index : Nat) : State :=
  if index + 1 < job.plan.candidates.length then .selecting (index + 1) else .exhausted

/-- How a placed run of a sound job goes on in a turn that does not stop it, with the calls it
makes. -/
inductive Moved (job : Job) (run next : Run) : List Exchange → Prop where
  | begun (hstate : run.state = .pending)
      (hnext : next.state = if job.plan.candidates.length = 0 then .exhausted else .selecting 0)
      (hattempts : next.attempts = run.attempts) (hcost : next.tokenCost = run.tokenCost) :
      Moved job run next []
  | skipped {index : Nat} {c : Candidate} {reason : String} {a : Attempt}
      (hstate : run.state = .selecting index) (hc : job.plan.candidates[index]? = some c)
      (hprepare : prepare job c = .error reason) (hnext : next.state = afterward job index)
      (ha : a.timeless = skipRecord job c.model reason)
      (hattempts : next.attempts = run.attempts ++ [a]) (hcost : next.tokenCost = run.tokenCost) :
      Moved job run next []
  | chosen {index : Nat} {c : Candidate} (hstate : run.state = .selecting index)
      (hcalls : next.Calls job index c) (hnext : next.state = .calling index 0 1)
      (houtputs : next.outputs = []) (hattempts : next.attempts = run.attempts)
      (hcost : next.tokenCost = run.tokenCost) : Moved job run next []
  | replied {index chunk attempt : Nat} {c : Candidate} {request : Backend.Request}
      {reply : Backend.Reply} {a : Attempt} (hstate : run.state = .calling index chunk attempt)
      (hcalls : run.Calls job index c) (hchunk : request.chunk = chunk)
      (hnext : next.state = if chunk + 1 < run.prompts.length then .calling index (chunk + 1) 1
        else .succeeded index)
      (hprompts : next.prompts = run.prompts)
      (houtputs : next.outputs = run.outputs ++ [(chunk, reply.text)])
      (ha : a.timeless = Exchange.record job c ⟨index, attempt, request, some (.ok reply)⟩)
      (hattempts : next.attempts = run.attempts ++ [a])
      (hcost : next.tokenCost = Word.add run.tokenCost a.tokenCost) :
      Moved job run next [⟨index, attempt, request, some (.ok reply)⟩]
  | failed {index chunk attempt : Nat} {c : Candidate} {request : Backend.Request}
      {failure : Failure} {a : Attempt} (hstate : run.state = .calling index chunk attempt)
      (hcalls : run.Calls job index c) (hchunk : request.chunk = chunk)
      (hnext : next.state =
        if failure.kind = .transient ∧ attempt ≤ job.settings.policy.maxRetries then
          .retrying index chunk attempt (job.settings.policy.backoffMs attempt)
        else afterward job index)
      (hprompts : next.prompts = run.prompts) (houtputs : next.outputs = run.outputs)
      (ha : a.timeless = Exchange.record job c ⟨index, attempt, request, some (.error failure)⟩)
      (hattempts : next.attempts = run.attempts ++ [a]) (hcost : next.tokenCost = run.tokenCost) :
      Moved job run next [⟨index, attempt, request, some (.error failure)⟩]
  | rested {index chunk attempt delayMs : Nat}
      (hstate : run.state = .retrying index chunk attempt delayMs)
      (hnext : next.state = .calling index chunk (Word.add32 attempt 1))
      (hprompts : next.prompts = run.prompts) (houtputs : next.outputs = run.outputs)
      (hattempts : next.attempts = run.attempts) (hcost : next.tokenCost = run.tokenCost) :
      Moved job run next []

/-- A run that is at a candidate is at one of the plan. -/
theorem Calls.index_lt {job : Job} {run : Run} {index : Nat} {c : Candidate}
    (h : run.Calls job index c) : index < job.plan.candidates.length :=
  (List.getElem?_eq_some_iff.mp h.1).1

/-- It depends on the prompts of a run only which candidate they are for. -/
theorem Calls.of_prompts {job : Job} {run next : Run} {index : Nat} {c : Candidate}
    (h : run.Calls job index c) (hprompts : next.prompts = run.prompts) :
    next.Calls job index c :=
  ⟨h.1, hprompts ▸ h.2⟩

/-- There is one candidate at a position. -/
theorem Calls.unique {job : Job} {run : Run} {index : Nat} {c c' : Candidate}
    (h : run.Calls job index c) (h' : job.plan.candidates[index]? = some c') : c = c' :=
  Option.some.inj (h.1.symm.trans h')

theorem Placed.of_calling {job : Job} {run : Run} {index chunk attempt : Nat} {c : Candidate}
    (h : run.Placed job) (hstate : run.state = .calling index chunk attempt)
    (hc : job.plan.candidates[index]? = some c) :
    run.Calls job index c ∧ chunk < run.prompts.length := by
  simp only [Placed, hstate] at h
  obtain ⟨⟨c', hcalls⟩, hchunk⟩ := h
  exact ⟨hcalls.unique hc ▸ hcalls, hchunk⟩

section Sound

variable {job : Job} (hjob : job.Sound)
include hjob

theorem advance_eq {index : Nat} (hindex : index < job.plan.candidates.length) :
    advance job.plan.candidates.length index = afterward job index := by
  have hcount := hjob.candidates_lt
  rw [advance, afterward, Word.add_eq (by omega)]

/-- A candidate that is chosen is passed over or called. -/
private theorem moved_selected {run : Run} {index : Nat} {c : Candidate} (now : Timestamp)
    (hstate : run.state = .selecting index) (hc : job.plan.candidates[index]? = some c) :
    Moved job run (run.select job now c) [] := by
  have hindex := (List.getElem?_eq_some_iff.mp hc).1
  cases hprepare : prepare job c with
  | error reason =>
      obtain ⟨hnext, ⟨a, ha, hattempts⟩, hcost⟩ := select_of_error now hstate hprepare
      rw [advance_eq hjob hindex] at hnext
      exact .skipped hstate hc hprepare hnext ha hattempts hcost
  | ok prompts =>
      obtain ⟨hnext, hprompts, houtputs, hattempts, hcost⟩ := select_of_ok now hstate hprepare
      exact .chosen hstate ⟨hc, hprompts ▸ hprepare⟩ hnext houtputs hattempts hcost

/-- A call that is answered is done or has failed. -/
private theorem moved_answered {run : Run} {index chunk attempt : Nat} {c : Candidate}
    {request : Backend.Request} (called now : Timestamp) (answer : Backend.Answer)
    (hstate : run.state = .calling index chunk attempt) (hcalls : run.Calls job index c)
    (hrequest : run.request job c chunk = .ok request) :
    Moved job run ({ run with called }.receive job now c chunk attempt answer)
      [⟨index, attempt, request, some answer⟩] := by
  obtain ⟨hprompt, hchunk⟩ := request_eq_ok hrequest
  let waiting : Run := { run with called }
  have hwaits : waiting.state = .calling index chunk attempt := hstate
  have hcalls' : waiting.Calls job index c := hcalls
  obtain ⟨a, ha, hattempts⟩ := receive_attempts now attempt answer hcalls' hrequest
  have hprompts : (waiting.receive job now c chunk attempt answer).prompts = run.prompts :=
    receive_prompts now attempt answer
  cases answer with
  | ok reply =>
      obtain ⟨hnext, houtputs, hcost⟩ :=
        receive_ok now hwaits reply (hcalls'.length_prompts_lt hjob)
      refine .replied hstate hcalls hchunk hnext hprompts houtputs ha hattempts ?_
      have hpaid : a.tokenCost = cost job request.prompt reply := congrArg Attempt.tokenCost ha
      rw [hcost, hpaid, hprompt, Option.getD_some]
  | error failure =>
      obtain ⟨hnext, houtputs, hcost⟩ := receive_error now hwaits failure
      rw [advance_eq hjob hcalls.index_lt] at hnext
      exact .failed hstate hcalls hchunk hnext hprompts houtputs ha hattempts hcost

/-- A placed run goes on in one of the ways listed. -/
theorem Placed.moved {run next : Run} {m : Moment} {made : List Exchange} (h : run.Placed job)
    (hturned : Turned job m run (.next next) made) : Moved job run next made := by
  cases hturned with
  | begun hstate => exact .begun hstate (by simp only [fire, hstate, transition]) rfl rfl
  | selected hstate hc => exact moved_selected hjob m.now hstate hc
  | answered hstate hc hrequest =>
      exact moved_answered hjob m.now m.later m.answer hstate (h.of_calling hstate hc).1 hrequest
  | rested hstate hc =>
      exact .rested hstate (by simp only [fire, hstate, transition]) rfl rfl rfl rfl

end Sound

/-- A candidate that is given up is followed by another one or by the end. -/
private theorem placed_of_afterward {job : Job} {run : Run} {index : Nat}
    (hstate : run.state = afterward job index) : run.Placed job := by
  rw [afterward] at hstate
  split at hstate <;> simp [Placed, *]

/-- A placed run stays placed. -/
theorem Moved.placed {job : Job} {run next : Run} {made : List Exchange}
    (h : Moved job run next made) (hplaced : run.Placed job) : next.Placed job := by
  cases h with
  | begun hstate hnext =>
      split at hnext
      · simp only [Placed, hnext]
      · simp only [Placed, hnext]
        omega
  | skipped hstate hc hprepare hnext => exact placed_of_afterward hnext
  | chosen hstate hcalls hnext =>
      obtain ⟨-, -, -, -, hne⟩ := prepare_eq_ok_iff.mp hcalls.2
      simp only [Placed, hnext]
      exact ⟨⟨_, hcalls⟩, List.length_pos_iff.mpr hne⟩
  | replied hstate hcalls hchunk hnext hprompts =>
      split at hnext
      next hmore =>
        simp only [Placed, hnext]
        exact ⟨⟨_, hcalls.of_prompts hprompts⟩, hprompts ▸ hmore⟩
      next =>
        simp only [Placed, hnext]
        exact ⟨_, hcalls.of_prompts hprompts⟩
  | failed hstate hcalls hchunk hnext hprompts =>
      split at hnext
      · simp only [Placed, hstate] at hplaced
        simp only [Placed, hnext]
        exact ⟨⟨_, hcalls.of_prompts hprompts⟩, hprompts ▸ hplaced.2⟩
      · exact placed_of_afterward hnext
  | rested hstate hnext hprompts =>
      simp only [Placed, hstate] at hplaced
      obtain ⟨⟨c, hcalls⟩, hchunk⟩ := hplaced
      simp only [Placed, hnext]
      exact ⟨⟨c, hcalls.of_prompts hprompts⟩, hprompts ▸ hchunk⟩

/-! ## Attempts -/

/-- The attempt is one that the policy allows. -/
def Paced (job : Job) (run : Run) : Prop :=
  match run.state with
  | .calling _ _ attempt => 1 ≤ attempt ∧ attempt ≤ job.settings.policy.maxRetries + 1
  | .retrying _ _ attempt _ => 1 ≤ attempt ∧ attempt ≤ job.settings.policy.maxRetries
  | _ => True

private theorem paced_of_afterward {job : Job} {run : Run} {index : Nat}
    (hstate : run.state = afterward job index) : run.Paced job := by
  rw [afterward] at hstate
  split at hstate <;> simp [Paced, *]

/-- Attempts stay within the policy as long as they can be counted. -/
theorem Moved.paced {job : Job} (hretries : job.settings.policy.maxRetries + 1 < Word.size32)
    {run next : Run} {made : List Exchange} (h : Moved job run next made)
    (hpaced : run.Paced job) : next.Paced job := by
  cases h with
  | begun hstate hnext => split at hnext <;> simp [Paced, hnext]
  | skipped hstate hc hprepare hnext => exact paced_of_afterward hnext
  | chosen hstate hcalls hnext => simp [Paced, hnext]
  | replied hstate hcalls hchunk hnext => split at hnext <;> simp [Paced, hnext]
  | failed hstate hcalls hchunk hnext =>
      simp only [Paced, hstate] at hpaced
      split at hnext
      next hretry =>
        simp only [Paced, hnext]
        exact ⟨hpaced.1, hretry.2⟩
      next => exact paced_of_afterward hnext
  | rested hstate hnext =>
      simp only [Paced, hstate] at hpaced
      rw [Word.add32_eq (by omega)] at hnext
      simp only [Paced, hnext]
      omega

/-! ## How a run that is placed stops -/

/-- How a placed run of a sound job stops in a moment, with the call that a cancellation cut
short. -/
inductive Stopped (job : Job) (m : Moment) (last : Run) : Run → Ending → List Exchange → Prop where
  | succeeded {index : Nat} {c : Candidate} (now : Timestamp)
      (hstate : last.state = .succeeded index) (hcalls : last.Calls job index c) :
      Stopped job m last last (.ok (last.finish job now c)) []
  | exhausted (hstate : last.state = .exhausted) :
      Stopped job m last last (.error (last.exhaustion job)) []
  | quit {index : Nat} (hstate : last.state = .selecting index) (hcancels : m.Cancels) :
      Stopped job m last last (.error (.cancelled job.request.taskId false 0)) []
  | halted {index chunk attempt : Nat} {c : Candidate} (now : Timestamp)
      (hstate : last.state = .calling index chunk attempt ∨
        ∃ delayMs, last.state = .retrying index chunk attempt delayMs)
      (hc : job.plan.candidates[index]? = some c) (hcancels : m.Cancels) :
      Stopped job m last (last.noteCancelled job now c.model)
        (.error (.cancelled job.request.taskId (0 < last.outputs.length) last.outputs.length)) []
  | interrupted {index chunk attempt : Nat} {c : Candidate} {request : Backend.Request}
      (called now : Timestamp) (hstate : last.state = .calling index chunk attempt)
      (hc : job.plan.candidates[index]? = some c) (hcancels : m.Cancels) :
      Stopped job m last ({ last with called }.noteCancelled job now c.model)
        (.error (.cancelled job.request.taskId (0 < last.outputs.length) last.outputs.length))
        [⟨index, attempt, request, none⟩]

/-- A placed run is at a candidate of the plan. -/
private theorem Placed.exists_candidate {job : Job} {run : Run} {index : Nat} (h : run.Placed job)
    (hstate : (∃ chunk attempt, run.state = .calling index chunk attempt) ∨
      (∃ chunk attempt delayMs, run.state = .retrying index chunk attempt delayMs) ∨
      run.state = .selecting index ∨ run.state = .succeeded index) :
    ∃ c, job.plan.candidates[index]? = some c := by
  rcases hstate with ⟨chunk, attempt, hstate⟩ | ⟨chunk, attempt, delayMs, hstate⟩ | hstate | hstate
  all_goals simp only [Placed, hstate] at h
  · exact ⟨_, h.1.choose_spec.1⟩
  · exact ⟨_, h.1.choose_spec.1⟩
  · exact ⟨_, List.getElem?_eq_getElem h⟩
  · exact ⟨_, h.choose_spec.1⟩

/-- A placed run stops in one of the ways listed: it neither loses its candidate nor asks for a
prompt, a model or a backend that there is not. -/
theorem Placed.stopped {job : Job} (hjob : job.Sound) {run final : Run} {m : Moment}
    {ending : Ending} {made : List Exchange} (h : run.Placed job)
    (hturned : Turned job m run (.stop final ending) made) :
    Stopped job m run final ending made := by
  cases hturned with
  | cancelledSelecting hstate hcancels => exact .quit hstate hcancels
  | cancelledCalling hstate hc hcancels => exact .halted m.now (.inl hstate) hc hcancels
  | interruptedCalling hstate hc hrequest hcancels =>
      exact .interrupted m.now m.later hstate hc hcancels
  | cancelledRetrying hstate hc hcancels => exact .halted _ (.inr ⟨_, hstate⟩) hc hcancels
  | succeeded hstate hc =>
      have hplaced := h
      simp only [Placed, hstate] at hplaced
      obtain ⟨c, hcalls⟩ := hplaced
      exact .succeeded m.now hstate (hcalls.unique hc ▸ hcalls)
  | exhausted hstate => exact .exhausted hstate
  | refused hstate hc hrequest =>
      obtain ⟨hcalls, hchunk⟩ := h.of_calling hstate hc
      obtain ⟨request, hok⟩ := hcalls.request_ok hjob hchunk
      rw [hok] at hrequest
      cases hrequest
  | astray hstate hc =>
      obtain ⟨c, hc'⟩ := h.exists_candidate hstate
      rw [hc] at hc'
      cases hc'

/-! ## Where a run starts -/

/-- The run after a model that is too small. -/
private def passOver (job : Job) (now : Timestamp) (run : Run) (name : String) : Run :=
  let run := run.skip job now name (tooSmall job.plan)
  { run with tried := run.tried ++ [name] }

private theorem foldl_passOver (job : Job) (now : Timestamp) (names : List String) (run : Run) :
    (names.foldl (passOver job now) run).state = run.state ∧
      (names.foldl (passOver job now) run).attempts.map Attempt.timeless =
        run.attempts.map Attempt.timeless ++
          names.map (skipRecord job · (tooSmall job.plan)) ∧
      (names.foldl (passOver job now) run).tokenCost = run.tokenCost := by
  induction names generalizing run with
  | nil => exact ⟨rfl, (List.append_nil _).symm, rfl⟩
  | cons name names ih =>
      obtain ⟨hstate, hattempts, hcost⟩ := ih (passOver job now run name)
      refine ⟨hstate, hattempts.trans ?_, hcost⟩
      simp only [passOver, skip, note, List.map_append, List.map_cons, List.map_nil,
        List.append_assoc, List.singleton_append]
      rfl

/-- A run starts with a record for each model that is too small, and nothing else. -/
theorem start_eq (job : Job) (now : Timestamp) :
    (Run.start job now).state = .pending ∧
      (Run.start job now).attempts.map Attempt.timeless =
        job.plan.filteredOut.map (skipRecord job · (tooSmall job.plan)) ∧
      (Run.start job now).tokenCost = 0 :=
  foldl_passOver job now job.plan.filteredOut { started := now }

theorem start_placed (job : Job) (now : Timestamp) : (Run.start job now).Placed job := by
  simp only [Placed, (start_eq job now).1]

theorem start_paced (job : Job) (now : Timestamp) : (Run.start job now).Paced job := by
  simp only [Paced, (start_eq job now).1]

/-! ## Whole runs of sound jobs -/

/-- What holds at the start and is kept by every move holds of the run in which a journey of a
sound job stops. -/
theorem start_follow_stop {job : Job} (hjob : job.Sound) {P : Run → List Exchange → Prop}
    {now : Timestamp} (hstart : P (Run.start job now) [])
    (hkeep : ∀ {run calls next made}, P run calls → run.Placed job → Moved job run next made →
      P next (calls ++ made))
    {final : Run} {ending : Ending} {moments : List Moment}
    (h : (Run.start job now).follow job moments = .stop final ending) :
    ∃ last made, ∃ m ∈ moments, ∃ extra, P last made ∧ Stopped job m last final ending extra ∧
      (Run.start job now).exchanges job moments = made ++ extra := by
  obtain ⟨last, made, m, hm, extra, ⟨hlast, hplaced⟩, hstop, hcalls⟩ :=
    follow_stop (P := fun run calls => P run calls ∧ run.Placed job)
      (fun ⟨hrun, hplaced⟩ hturned =>
        have hmoved := hplaced.moved hjob hturned
        ⟨hkeep hrun hplaced hmoved, hmoved.placed hplaced⟩)
      ⟨hstart, start_placed job now⟩ h
  rw [List.nil_append] at hcalls
  exact ⟨last, made, m, hm, extra, hlast, hplaced.stopped hjob hstop, hcalls⟩

end Run

end Switchboard.Route
