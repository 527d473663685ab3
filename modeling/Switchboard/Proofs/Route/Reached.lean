import Switchboard.Proofs.Route.Termination

/-!
# What a driver of runs reaches

Whoever drives a run lets it go on until it waits, sees to what it waits for and hands it the
signal. `Reached` says of a step that it comes up in this way in a run of a job, and that nobody
cancels the task on the way unless a given proposition holds. Everything a driver does leads from
one such step to another, so a step that stops the run is the end of a journey, whatever the driver
does in between. Where sums are checked, a signal may also take the worker down that drives the run,
and then the journey breaks off.

Between two waits a run goes on by itself for a bounded number of steps, and `Run.waitsLeft` bounds
the waits that are still to come.

## Main results

* `reached_proceed` — going on leads to a wait or to the end.
* `reached_resume` — a signal leads closer to the end.
* `reached_break` — a signal that takes the worker down breaks the journey off.
-/

namespace Switchboard.Route

/-- The run of a step. -/
def Step.run : Step → Run
  | .next run | .wait run _ | .stop run _ => run

/-- The step comes up in a run of the job, with sums checked or not, in which nobody cancels the
task unless `told`. -/
def Reached (overflow : Overflow) (job : Job) (started : Timestamp) (told : Prop) : Step → Prop
  | .next run => ∃ moments, (∀ m ∈ moments, m.Cancels → told) ∧
      (Run.start job started).followIn overflow job moments = .ok (.next run)
  | .wait run need => ∃ before moments now cancelled, (∀ m ∈ moments, m.Cancels → told) ∧
      (Run.start job started).followIn overflow job moments = .ok (.next before) ∧
        before.step job now cancelled = .wait run need
  | .stop run ending => ∃ moments, (∀ m ∈ moments, m.Cancels → told) ∧
      (Run.start job started).followIn overflow job moments = .ok (.stop run ending)

/-- The signal is one that ends the waiting, and no cancellation unless `told`. -/
def Need.Ends (told : Prop) : Need → Signal → Prop
  | .reply _, .answered _ | .delay _, .elapsed => True
  | _, .cancelled => told
  | _, _ => False

/-- Every signal that ends a waiting is what some moment has in store. -/
theorem Need.Ends.exists_moment {told : Prop} {need : Need} {signal : Signal}
    (h : need.Ends told signal) :
    ∃ interrupted answer, (interrupted = true → told) ∧ ∀ now cancelled later,
      Moment.signal ⟨now, cancelled, later, interrupted, answer⟩ need = signal := by
  cases signal with
  | answered answer =>
      cases need with
      | reply request => exact ⟨false, answer, Bool.noConfusion, fun _ _ _ => rfl⟩
      | delay ms => exact h.elim
  | elapsed =>
      cases need with
      | reply request => exact h.elim
      | delay ms => exact ⟨false, .ok default, Bool.noConfusion, fun _ _ _ => rfl⟩
  | cancelled =>
      have htold : told := by cases need <;> exact h
      exact ⟨true, .ok default, fun _ => htold, fun _ _ _ => by cases need <;> rfl⟩

/-- What a run that is on its way has. -/
structure Run.Sane (job : Job) (run : Run) : Prop where
  placed : run.Placed job
  paced : run.Paced job
  bounded : run.callsAhead job ≤ job.totalCalls

namespace Run

/-- One while a run is between two tries. -/
def pause : State → Nat
  | .retrying .. => 1
  | _ => 0

/-- A bound on the waits to come: two for each open call, and one for a delay. -/
def waitsLeft (job : Job) (run : Run) : Nat :=
  2 * run.callsAhead job + pause run.state

theorem pause_le_one (state : State) : pause state ≤ 1 := by
  cases state <;> simp [pause]

/-- What every turn keeps holds of the run that a journey leads to. -/
theorem follow_next {job : Job} {P : Run → Prop}
    (hkeep : ∀ {run m next made}, P run → Turned job m run (.next next) made → P next)
    {run reached : Run} {moments : List Moment} (hstart : P run)
    (h : run.follow job moments = .next reached) : P reached := by
  induction moments generalizing run with
  | nil =>
      cases h
      exact hstart
  | cons m moments ih =>
      have hturned := turned job run m
      rw [follow] at h
      cases hturn : run.turn job m with
      | next next =>
          rw [hturn] at h hturned
          exact ih (hkeep hstart hturned) h
      | wait waiting need =>
          rw [hturn] at h
          cases h
      | stop stopped ended =>
          rw [hturn] at h
          cases h

/-- No record is ever taken back. -/
theorem Turned.attempts_grow {job : Job} {m : Moment} {run : Run} {step : Step}
    {made : List Exchange} (h : Turned job m run step made) :
    run.attempts <+: step.run.attempts := by
  cases h with
  | selected hstate hc =>
      simp only [Step.run, select]
      split
      · exact List.prefix_append _ _
      · exact List.prefix_rfl
  | answered hstate hc hrequest =>
      simp only [Step.run, receive]
      split <;> exact List.prefix_append _ _
  | cancelledCalling => exact List.prefix_append _ _
  | interruptedCalling => exact List.prefix_append _ _
  | cancelledRetrying => exact List.prefix_append _ _
  | _ => exact List.prefix_rfl

/-- How a run waits: in a call, whose beginning it has noted, or between two tries. -/
inductive Waits (job : Job) (before : Run) (now : Timestamp) : Run → Need → Prop where
  | call {index chunk attempt : Nat} {c : Candidate} {request : Backend.Request}
      (hstate : before.state = .calling index chunk attempt)
      (hc : job.plan.candidates[index]? = some c)
      (hrequest : before.request job c chunk = .ok request) :
      Waits job before now { before with called := now } (.reply request)
  | pause {index chunk attempt delayMs : Nat}
      (hstate : before.state = .retrying index chunk attempt delayMs) :
      Waits job before now before (.delay delayMs)

/-- A run that waits was not seen to be cancelled. -/
theorem step_eq_wait {job : Job} {before run : Run} {now : Timestamp} {cancelled : Bool}
    {need : Need} (h : before.step job now cancelled = .wait run need) :
    Waits job before now run need ∧ cancelled = false := by
  cases hstate : before.state with
  | pending => simp [step, hstate] at h
  | selecting index =>
      simp only [step, hstate, cancel] at h
      split at h
      · cases h
      · split at h <;> cases h
  | calling index chunk attempt =>
      simp only [step, hstate, cancel] at h
      split at h
      · cases h
      next hc =>
        split at h
        · cases h
        next hcancelled =>
          split at h
          · cases h
          next hrequest =>
            cases h
            rw [← hstate]
            exact ⟨.call hstate hc hrequest, Bool.eq_false_of_not_eq_true hcancelled⟩
  | retrying index chunk attempt delayMs =>
      simp only [step, hstate, cancel] at h
      split at h
      · cases h
      · split at h
        · cases h
        next hcancelled =>
          cases h
          exact ⟨.pause hstate, Bool.eq_false_of_not_eq_true hcancelled⟩
  | succeeded index =>
      simp only [step, hstate] at h
      split at h <;> cases h
  | exhausted => simp [step, hstate] at h

section Waits

variable {job : Job} {before run : Run} {now : Timestamp} {need : Need}
  (h : Waits job before now run need)
include h

theorem Waits.open : (∃ index chunk attempt, before.state = .calling index chunk attempt) ∨
    ∃ index chunk attempt delayMs, before.state = .retrying index chunk attempt delayMs := by
  cases h with
  | call hstate => exact .inl ⟨_, _, _, hstate⟩
  | pause hstate => exact .inr ⟨_, _, _, _, hstate⟩

theorem Waits.state_eq : run.state = before.state := by cases h <;> rfl

theorem Waits.prompts_eq : run.prompts = before.prompts := by cases h <;> rfl

theorem Waits.attempts_eq : run.attempts = before.attempts := by cases h <;> rfl

end Waits

/-- The waits to come depend on the state and the prompts only. -/
theorem waitsLeft_congr {job : Job} {run other : Run} (hstate : other.state = run.state)
    (hprompts : other.prompts = run.prompts) : other.waitsLeft job = run.waitsLeft job := by
  have hleft : ∀ i, other.callsLeft job i = run.callsLeft job i := by
    intro i
    simp only [callsLeft, triesLeft, hstate, hprompts]
  simp only [waitsLeft, callsAhead, hleft, hstate]

/-- Where a move without a call leads, there is no delay. -/
theorem Moved.waitsLeft_le {job : Job} (hretries : job.settings.policy.maxRetries + 1 < Word.size32)
    {run next : Run} (h : Moved job run next []) (hpaced : run.Paced job) :
    next.waitsLeft job ≤ run.waitsLeft job := by
  have hahead := h.callsAhead_le hretries hpaced
  have hcalm : pause next.state = 0 := by
    cases h with
    | begun hstate hnext =>
        rw [hnext]
        split <;> rfl
    | skipped hstate hc hprepare hnext =>
        rw [hnext, afterward]
        split <;> rfl
    | chosen hstate hcalls hnext =>
        rw [hnext]
        rfl
    | rested hstate hnext =>
        rw [hnext]
        rfl
  rw [List.length_nil] at hahead
  simp only [waitsLeft, hcalm]
  omega

/-- A move that follows a wait leaves fewer to come. -/
theorem Moved.waitsLeft_lt {job : Job} (hretries : job.settings.policy.maxRetries + 1 < Word.size32)
    {run next : Run} {made : List Exchange} (h : Moved job run next made)
    (hpaced : run.Paced job)
    (hwaits : (∃ index chunk attempt, run.state = .calling index chunk attempt) ∨
      ∃ index chunk attempt delayMs, run.state = .retrying index chunk attempt delayMs) :
    next.waitsLeft job < run.waitsLeft job := by
  have hahead := h.callsAhead_le hretries hpaced
  cases h with
  | begun hstate => simp [hstate] at hwaits
  | skipped hstate => simp [hstate] at hwaits
  | chosen hstate => simp [hstate] at hwaits
  | replied hstate =>
      have hpause := pause_le_one next.state
      rw [List.length_singleton] at hahead
      simp only [waitsLeft]
      omega
  | failed hstate =>
      have hpause := pause_le_one next.state
      rw [List.length_singleton] at hahead
      simp only [waitsLeft]
      omega
  | rested hstate hnext =>
      rw [List.length_nil] at hahead
      simp only [waitsLeft, hstate, hnext, pause]
      omega

/-- Every move keeps a run sane. -/
theorem Moved.sane {job : Job} (hretries : job.settings.policy.maxRetries + 1 < Word.size32)
    {run next : Run} {made : List Exchange} (h : Moved job run next made)
    (hsane : run.Sane job) : next.Sane job where
  placed := h.placed hsane.placed
  paced := h.paced hretries hsane.paced
  bounded := by
    have hahead := h.callsAhead_le hretries hsane.paced
    have hbounded := hsane.bounded
    omega

theorem start_sane (job : Job) (now : Timestamp) : (Run.start job now).Sane job where
  placed := start_placed job now
  paced := start_paced job now
  bounded := by
    simp only [callsAhead, callsLeft, (start_eq job now).1, Job.totalCalls, Nat.le_refl]

end Run

section Reached

variable {overflow : Overflow} {job : Job} {started : Timestamp} {told : Prop}

theorem reached_start (overflow : Overflow) (job : Job) (started : Timestamp) (told : Prop) :
    Reached overflow job started told (.next (Run.start job started)) :=
  ⟨[], fun _ hm => absurd hm List.not_mem_nil, rfl⟩

/-- One more moment. -/
private theorem followIn_concat {run : Run} {moments : List Moment} {m : Moment}
    (h : (Run.start job started).followIn overflow job moments = .ok (.next run)) :
    (Run.start job started).followIn overflow job (moments ++ [m]) =
      run.turnIn overflow job m := by
  rw [Run.followIn_append, h]
  exact Run.followIn_singleton overflow job run m

private theorem cancels_concat {moments : List Moment} {m : Moment}
    (htold : ∀ m ∈ moments, m.Cancels → told) (hm : m.Cancels → told) :
    ∀ m' ∈ moments ++ [m], m'.Cancels → told := by
  intro m' hm'
  rcases List.mem_append.mp hm' with hm' | hm'
  · exact htold m' hm'
  · rw [List.mem_singleton.mp hm']
    exact hm

/-- One more turn. -/
private theorem reached_turn {run : Run} {m : Moment} (hm : m.Cancels → told)
    (h : Reached overflow job started told (.next run))
    (hturnIn : run.turnIn overflow job m = .ok (run.turn job m)) :
    Reached overflow job started told (run.turn job m) := by
  obtain ⟨moments, htold, h⟩ := h
  have hturned := Run.turned job run m
  have htold := cancels_concat htold hm
  have hfollow := (followIn_concat h).trans hturnIn
  cases hturn : run.turn job m with
  | next next => exact ⟨_, htold, hfollow.trans (congrArg _ hturn)⟩
  | wait waiting need =>
      rw [hturn] at hturned
      cases hturned
  | stop final ending => exact ⟨_, htold, hfollow.trans (congrArg _ hturn)⟩

/-- The signal that a run waits for is what some moment has in store. -/
private theorem exists_moment {run : Run} {need : Need} {signal : Signal} (now : Timestamp)
    (h : Reached overflow job started told (.wait run need)) (hends : need.Ends told signal) :
    ∃ before m, Reached overflow job started told (.next before) ∧ (m.Cancels → told) ∧
      before.turn job m = run.resume job now signal ∧
      before.turnIn overflow job m = run.resumeIn overflow job now signal ∧
      ∃ earlier cancelled, before.step job earlier cancelled = .wait run need := by
  obtain ⟨before, moments, earlier, cancelled, htold, hfollow, hstep⟩ := h
  obtain ⟨-, hcalm⟩ := Run.step_eq_wait hstep
  obtain ⟨interrupted, answer, hinterrupted, hsignal⟩ := hends.exists_moment
  refine ⟨before, ⟨earlier, cancelled, now, interrupted, answer⟩, ⟨moments, htold, hfollow⟩, ?_, ?_,
    ?_, earlier, cancelled, hstep⟩
  · rintro (hcancelled | hlater)
    · rw [hcalm] at hcancelled
      cases hcancelled
    · exact hinterrupted hlater
  · simp only [Run.turn, hstep, hsignal]
  · simp only [Run.turnIn, hstep, hsignal]

/-- A signal that takes the worker down breaks the journey off. -/
theorem reached_break {run : Run} {need : Need} {signal : Signal} {now : Timestamp}
    {message : String} (h : Reached overflow job started told (.wait run need))
    (hends : need.Ends told signal)
    (hresume : run.resumeIn overflow job now signal = .error message) :
    ∃ moments, (∀ m ∈ moments, m.Cancels → told) ∧
      (Run.start job started).followIn overflow job moments = .error message := by
  obtain ⟨before, m, ⟨moments, htold, hfollow⟩, hm, -, hturn, -⟩ := exists_moment now h hends
  exact ⟨_, cancels_concat htold hm, (followIn_concat hfollow).trans (hturn.trans hresume)⟩

variable (hjob : job.Sound) (hretries : job.settings.policy.maxRetries + 1 < Word.size32)
include hjob hretries

theorem reached_sane {run : Run} (h : Reached overflow job started told (.next run)) :
    run.Sane job := by
  obtain ⟨moments, -, hfollow⟩ := h
  exact Run.follow_next
    (fun hsane hturned => (hsane.placed.moved hjob hturned).sane hretries hsane)
    (Run.start_sane job started) (Run.follow_of_followIn hfollow)

/-- A run that waits has at most two waits to come for each call that it may make, and one more. -/
theorem reached_waitsLeft_le {run : Run} {need : Need}
    (h : Reached overflow job started told (.wait run need)) :
    run.waitsLeft job ≤ 2 * job.totalCalls + 1 := by
  obtain ⟨before, moments, now, cancelled, htold, hfollow, hstep⟩ := h
  obtain ⟨hwaits, -⟩ := Run.step_eq_wait hstep
  have hbounded := (reached_sane hjob hretries ⟨moments, htold, hfollow⟩).bounded
  have hpause := Run.pause_le_one before.state
  rw [Run.waitsLeft_congr hwaits.state_eq hwaits.prompts_eq, Run.waitsLeft]
  omega

/-- A signal that ends the waiting, and does not take the worker down, leads to the end or to a run
with fewer waits to come. -/
theorem reached_resume {run : Run} {need : Need} {signal : Signal} (now : Timestamp)
    (h : Reached overflow job started told (.wait run need)) (hends : need.Ends told signal)
    (hresumeIn : run.resumeIn overflow job now signal = .ok (run.resume job now signal)) :
    (∃ next, run.resume job now signal = .next next ∧
        Reached overflow job started told (.next next) ∧
        run.attempts <+: next.attempts ∧ next.waitsLeft job < run.waitsLeft job) ∨
      ∃ final ending, run.resume job now signal = .stop final ending ∧
        Reached overflow job started told (.stop final ending) ∧
        run.attempts <+: final.attempts := by
  obtain ⟨before, m, hbefore, hm, hturn, hturnIn, earlier, cancelled, hstep⟩ :=
    exists_moment now h hends
  obtain ⟨hwaits, -⟩ := Run.step_eq_wait hstep
  have hsane := reached_sane hjob hretries hbefore
  have hturned := Run.turned job before m
  have hreached := reached_turn hm hbefore (by rw [hturnIn, hresumeIn, hturn])
  rw [hturn] at hturned hreached
  rw [hwaits.attempts_eq, Run.waitsLeft_congr hwaits.state_eq hwaits.prompts_eq]
  have hgrown := hturned.attempts_grow
  cases hresume : run.resume job now signal with
  | next next =>
      rw [hresume] at hturned hreached hgrown
      have hmoved := hsane.placed.moved hjob hturned
      exact .inl ⟨next, rfl, hreached, hgrown, hmoved.waitsLeft_lt hretries hsane.paced
        hwaits.open⟩
  | wait waiting need =>
      rw [hresume] at hturned
      cases hturned
  | stop final ending =>
      rw [hresume] at hreached hgrown
      exact .inr ⟨final, ending, rfl, hreached, hgrown⟩

/-- A run that goes on for longer than the stages before it waits or stops. -/
private theorem reached_settle (now : Timestamp) {cancelled : Bool}
    (hcancelled : cancelled = true → told) {fuel : Nat} {run : Run}
    (h : Reached overflow job started told (.next run))
    (hfuel : Run.stage job run.state < fuel) :
    (∃ waiting need, Run.settle job now cancelled fuel run = .wait waiting need ∧
        Reached overflow job started told (.wait waiting need) ∧
        run.attempts <+: waiting.attempts ∧ waiting.waitsLeft job ≤ run.waitsLeft job) ∨
      ∃ final ending, Run.settle job now cancelled fuel run = .stop final ending ∧
        Reached overflow job started told (.stop final ending) ∧
        run.attempts <+: final.attempts := by
  induction fuel generalizing run with
  | zero => exact absurd hfuel (Nat.not_lt_zero _)
  | succ fuel ih =>
      have hsane := reached_sane hjob hretries h
      let m : Moment := ⟨now, cancelled, now, false, .ok default⟩
      have hm : m.Cancels → told := fun hm => hm.elim hcancelled Bool.noConfusion
      have hturned := Run.turned job run m
      have hreached := reached_turn hm h
      rw [Run.settle]
      cases hstep : run.step job now cancelled with
      | next next =>
          have hturn : run.turn job m = .next next := by simp only [Run.turn, m, hstep]
          have hturnIn : run.turnIn overflow job m = .ok (.next next) := by
            simp only [Run.turnIn, m, hstep]
          replace hreached := hreached (hturnIn.trans (congrArg _ hturn.symm))
          have hmade : run.exchange job m = [] := by simp only [Run.exchange, m, hstep]
          rw [hturn] at hturned hreached
          rw [hmade] at hturned
          have hmoved := hsane.placed.moved hjob hturned
          have hstage := hmoved.stage_lt hsane.placed
          have hwaits := hmoved.waitsLeft_le hretries hsane.paced
          have hgrown : run.attempts <+: next.attempts := hturned.attempts_grow
          rw [List.length_nil] at hstage
          rcases ih hreached (by omega) with
            ⟨waiting, need, hsettle, hwaiting, hlater, hfewer⟩ |
            ⟨final, ending, hsettle, hfinal, hlater⟩
          · exact .inl ⟨waiting, need, hsettle, hwaiting, hgrown.trans hlater,
              Nat.le_trans hfewer hwaits⟩
          · exact .inr ⟨final, ending, hsettle, hfinal, hgrown.trans hlater⟩
      | wait waiting need =>
          obtain ⟨hwaits, -⟩ := Run.step_eq_wait hstep
          obtain ⟨moments, htold, hfollow⟩ := h
          exact .inl ⟨waiting, need, rfl, ⟨run, moments, now, cancelled, htold, hfollow, hstep⟩,
            hwaits.attempts_eq ▸ List.prefix_rfl,
            Nat.le_of_eq (Run.waitsLeft_congr hwaits.state_eq hwaits.prompts_eq)⟩
      | stop final ending =>
          have hturn : run.turn job m = .stop final ending := by simp only [Run.turn, m, hstep]
          have hturnIn : run.turnIn overflow job m = .ok (.stop final ending) := by
            simp only [Run.turnIn, m, hstep]
          replace hreached := hreached (hturnIn.trans (congrArg _ hturn.symm))
          rw [hturn] at hturned hreached
          exact .inr ⟨final, ending, rfl, hreached, hturned.attempts_grow⟩

/-- A run that goes on by itself comes to a wait or to its end. -/
theorem reached_proceed {run : Run} (now : Timestamp) {cancelled : Bool}
    (hcancelled : cancelled = true → told) (h : Reached overflow job started told (.next run)) :
    (∃ waiting need, run.proceed job now cancelled = .wait waiting need ∧
        Reached overflow job started told (.wait waiting need) ∧
        run.attempts <+: waiting.attempts ∧ waiting.waitsLeft job ≤ run.waitsLeft job) ∨
      ∃ final ending, run.proceed job now cancelled = .stop final ending ∧
        Reached overflow job started told (.stop final ending) ∧
        run.attempts <+: final.attempts :=
  reached_settle hjob hretries now hcancelled h (Run.stage_lt job run.state)

end Reached

end Switchboard.Route
