import Switchboard.Proofs.Route.Reached
import Switchboard.Queue.Shift

/-!
# Driving a worker

A worker of a shift lets its run go on until it waits or has ended, and puts every new record into
the log on the way. `Shift.Left` says what that leaves: a worker whose run waits, or one less
worker and one more ending, and in both cases a log that has grown by the new records of the run.
Nothing else changes but the queue, through cancellations, and what the backends remember. A run
ends because it stops or, where sums are checked, because it comes upon an answer whose cost cannot
be added.

What is known of the others is a parameter. `Conditions` says how the backends play, that they
answer every call, and what their cancellations leave known of the queue. A proposition `told` is
carried along for those who want to know that nobody cancels the task: the run is told to stop only
if it holds. Whether a record can be written down outside makes no difference to the log.

## Main results

* `Shift.record_eq` — the log grows by the new records, written down or not.
* `Shift.left_begin`, `Shift.left_advance` — what a worker leaves that begins or goes on; it has
  fewer waits to come.
-/

namespace Switchboard.Queue

open Switchboard.Route (Job Run Step Need Signal Attempt Ending Reached)

variable {σ : Type} {plays : Play → Prop} {known : Queue → Prop} {told : Prop}
  {overflow : Route.Overflow}

/-- What is known while workers are driven: how the backends play, what holds of the queue, and that
a task is told to stop only if `told`. -/
structure Conditions (backends : Backends σ) (plays : Play → Prop) (known : Queue → Prop)
    (told : Prop) : Prop where
  played : ∀ state now request, plays (backends state now request).2
  answers : ∀ {play}, plays play → ∃ answer, play.deed = .answer answer
  keeps : ∀ {play name q}, plays play → play.cancels = some name → known q →
    known (q.cancel name).1
  stopped : ∀ {q : Queue} {serial}, known q →
    (q.slots.find? (·.serial = serial)).any (·.stopped) = true → told

/-- The backends answer every call. -/
def Answering (backends : Backends σ) : Prop :=
  ∀ state now request, ∃ answer, (backends state now request).2.deed = .answer answer

/-- The worker waits for what its run needs. -/
def Waiting.Awaits (plays : Play → Prop) : Waiting → Need → Prop
  | .call _ play, .reply _ => plays play
  | .backoff _, .delay _ => True
  | _, _ => False

/-- A worker that waits is due at some time. -/
theorem Waiting.Awaits.due {waiting : Waiting} {need : Need} (h : waiting.Awaits plays need) :
    (∃ ms play, waiting = .call ms play) ∨ ∃ ms, waiting = .backoff ms := by
  cases waiting with
  | nothing => exact h.elim
  | call ms play => exact .inl ⟨ms, play, rfl⟩
  | forever => exact h.elim
  | backoff ms => exact .inr ⟨ms, rfl⟩

namespace Shift

/-! ## The log -/

theorem foldl_enter (shift : Shift σ) (attempts : List Attempt) :
    ∃ state, attempts.foldl enter shift =
      { shift with log := shift.log ++ attempts, backends := state } := by
  induction attempts generalizing shift with
  | nil => exact ⟨shift.backends, by rw [List.append_nil]; rfl⟩
  | cons attempt attempts ih =>
      obtain ⟨state, hstate⟩ := ih (shift.enter attempt)
      refine ⟨state, ?_⟩
      rw [List.foldl_cons, hstate]
      simp only [enter, List.append_assoc, List.singleton_append]

/-- A log has grown by the new records of a run. -/
def Grown (log : List Attempt) (before : Run) (longer : List Attempt) (after : Run) : Prop :=
  ∃ new, longer = log ++ new ∧ after.attempts = before.attempts ++ new

theorem Grown.trans {first second third : List Attempt} {before between after : Run}
    (h : Grown first before second between) (h' : Grown second between third after) :
    Grown first before third after := by
  obtain ⟨new, hsecond, hbetween⟩ := h
  obtain ⟨newer, hthird, hafter⟩ := h'
  exact ⟨new ++ newer, by rw [hthird, hsecond, List.append_assoc],
    by rw [hafter, hbetween, List.append_assoc]⟩

/-- The log grows by the new records of a run, written down or not. -/
theorem record_eq {shift : Shift σ} {before after : Run}
    (hgrown : before.attempts <+: after.attempts) :
    ∃ state log, shift.record before after = { shift with log, backends := state } ∧
      Grown shift.log before log after := by
  obtain ⟨state, hstate⟩ := foldl_enter shift (after.attempts.drop before.attempts.length)
  obtain ⟨new, hnew⟩ := hgrown
  refine ⟨state, shift.log ++ new, ?_, new, rfl, hnew.symm⟩
  rw [record, hstate, ← hnew, List.drop_left]

/-! ## What driving a worker leaves -/

/-- Nothing but the queue, the backends, the calls and the log differs. -/
def Kept (shift other : Shift σ) : Prop :=
  ∃ queue state calls log, other = { shift with queue, backends := state, calls, log }

/-- How a run ends that has come as far as `final`: it stops, or its worker goes down with an answer
whose cost cannot be added. -/
inductive Ends (overflow : Route.Overflow) (job : Job) (started : Timestamp) (told : Prop)
    (final : Run) : Ending → Prop where
  | stopped {ending : Ending} (hreached : Reached overflow job started told (.stop final ending)) :
      Ends overflow job started told final ending
  | crashed {serial : Nat} {request : Backend.Request} {answer : Backend.Answer}
      (hchecked : overflow = .aborts)
      (hreached : Reached overflow job started told (.wait final (.reply request)))
      (hoverflows : final.overflows job answer = true) :
      Ends overflow job started told final (crashed { serial, job } Run.overflowMessage)

/-- What a worker leaves that was driven: it waits, with fewer than `limit` waits to come, or its
run has ended. The log has grown by the new records of the run. -/
inductive Left (plays : Play → Prop) (known : Queue → Prop) (told : Prop)
    (overflow : Route.Overflow) (started : Timestamp) (limit : Nat) (shift : Shift σ)
    (worker : Worker) : Shift σ → Prop where
  | waiting {other : Shift σ} {run : Run} {need : Need} {waiting : Waiting}
      (hkept : Kept shift other) (hknown : known other.queue)
      (hgrown : Grown shift.log worker.run other.log run)
      (hreached : Reached overflow worker.job started told (.wait run need))
      (hawaits : waiting.Awaits plays need)
      (hlimit : run.waitsLeft worker.job < limit) :
      Left plays known told overflow started limit shift worker
        (other.putWorker { worker with run, waiting })
  | ended {other : Shift σ} {final : Run} {ending : Ending} (hkept : Kept shift other)
      (hknown : known other.queue) (hgrown : Grown shift.log worker.run other.log final)
      (hends : Ends overflow worker.job started told final ending) :
      Left plays known told overflow started limit shift worker (other.endWorker worker ending)

section Left

variable {started : Timestamp} {limit : Nat} {shift other : Shift σ} {worker : Worker}

theorem Kept.trans {last : Shift σ} (h : Kept shift other) (h' : Kept other last) :
    Kept shift last := by
  obtain ⟨queue, state, calls, now, rfl⟩ := h
  obtain ⟨queue', state', calls', now', rfl⟩ := h'
  exact ⟨queue', state', calls', now', rfl⟩

theorem Kept.overflow_eq (h : Kept shift other) : other.overflow = shift.overflow := by
  obtain ⟨queue, state, calls, now, rfl⟩ := h
  rfl

/-- What is left does not depend on what changes on the way. -/
private theorem Left.widen {result : Shift σ} {run : Run} (hother : Kept shift other)
    (hlog : Grown shift.log worker.run other.log run)
    (h : Left plays known told overflow started limit other { worker with run } result) :
    Left plays known told overflow started limit shift worker result := by
  cases h with
  | waiting hkept hknown hgrown hreached hawaits hlimit =>
      exact .waiting (hother.trans hkept) hknown (hlog.trans hgrown) hreached hawaits hlimit
  | ended hkept hknown hgrown hends =>
      exact .ended (hother.trans hkept) hknown (hlog.trans hgrown) hends

private theorem Left.mono {result : Shift σ} {more : Nat} (hle : limit ≤ more)
    (h : Left plays known told overflow started limit shift worker result) :
    Left plays known told overflow started more shift worker result := by
  cases h with
  | waiting hkept hknown hgrown hreached hawaits hlimit =>
      exact .waiting hkept hknown hgrown hreached hawaits (Nat.lt_of_lt_of_le hlimit hle)
  | ended hkept hknown hgrown hends => exact .ended hkept hknown hgrown hends

end Left

/-- Recording new attempts changes the log and the backends only. -/
theorem record_kept {shift : Shift σ} {before after : Run} (hknown : known shift.queue)
    (hgrown : before.attempts <+: after.attempts) :
    Kept shift (shift.record before after) ∧ known (shift.record before after).queue ∧
      Grown shift.log before (shift.record before after).log after := by
  obtain ⟨state, log, hrecord, hlog⟩ := record_eq hgrown
  rw [hrecord]
  exact ⟨⟨_, _, _, _, rfl⟩, hknown, hlog⟩

/-- More than the waits to come from a step on. -/
def waitsFrom (job : Job) : Step → Nat
  | .next run | .wait run _ => run.waitsLeft job + 1
  | .stop _ _ => 0

/-- The fuel that driving a worker takes, which grows with the waits to come. -/
def fuelFor (job : Job) : Step → Nat
  | .next run => 3 * run.waitsLeft job + 4
  | .wait run _ => 3 * run.waitsLeft job + 3
  | .stop _ _ => 1

/-- Driving a worker on from a step leaves what it should. -/
private def DriveLeaves (backends : Backends σ) (plays : Play → Prop) (known : Queue → Prop)
    (told : Prop) (overflow : Route.Overflow) (job : Job) (started : Timestamp) (fuel : Nat) :
    Prop :=
  ∀ {shift : Shift σ} (worker : Worker) {step : Step}, shift.overflow = overflow →
    worker.job = job → known shift.queue →
    Reached overflow job started told step → worker.run.attempts <+: step.run.attempts →
    fuelFor job step ≤ fuel →
    Left plays known told overflow started (waitsFrom job step) shift worker
      (drive backends fuel shift worker step)

/-- Ending a call leaves what it should. -/
private def CallLeaves (backends : Backends σ) (plays : Play → Prop) (known : Queue → Prop)
    (told : Prop) (overflow : Route.Overflow) (job : Job) (started : Timestamp) (fuel : Nat) :
    Prop :=
  ∀ {shift : Shift σ} (worker : Worker) {play : Play} {request : Backend.Request},
    shift.overflow = overflow → worker.job = job → known shift.queue →
    Reached overflow job started told (.wait worker.run (.reply request)) →
    plays play → 3 * worker.run.waitsLeft job + 2 ≤ fuel →
    Left plays known told overflow started (worker.run.waitsLeft job) shift worker
      (finishCall backends fuel shift worker play)

section Drive

variable {backends : Backends σ} {job : Job} (hjob : job.Sound)
  (hretries : job.settings.policy.maxRetries + 1 < Word.size32) {started : Timestamp} {fuel : Nat}
include hjob hretries

/-- A worker that is driven on with the signal its run waits for has fewer waits to come. -/
private theorem left_resume
    (hdrive : DriveLeaves backends plays known told overflow job started fuel) {shift : Shift σ} (worker : Worker) {need : Need} {signal : Signal} (now : Timestamp)
    (hoverflow : shift.overflow = overflow) (hworker : worker.job = job)
    (hknown : known shift.queue)
    (hreached : Reached overflow job started told (.wait worker.run need))
    (hends : need.Ends told signal)
    (hresumeIn : worker.run.resumeIn overflow job now signal =
      .ok (worker.run.resume job now signal))
    (hfuel : 3 * worker.run.waitsLeft job + 1 ≤ fuel) :
    Left plays known told overflow started (worker.run.waitsLeft job) shift worker
      (drive backends fuel shift worker (worker.run.resume worker.job now signal)) := by
  rw [hworker]
  rcases Route.reached_resume hjob hretries now hreached hends hresumeIn with
    ⟨next, hresume, hnext, hgrown, hfewer⟩ | ⟨final, ending, hresume, hfinal, hgrown⟩
  · rw [hresume]
    refine (hdrive worker hoverflow hworker hknown hnext hgrown ?_).mono hfewer
    simp only [fuelFor]
    omega
  · rw [hresume]
    refine (hdrive worker hoverflow hworker hknown hfinal hgrown ?_).mono (Nat.zero_le _)
    simp only [fuelFor]
    omega

private theorem callLeaves_succ (hconditions : Conditions backends plays known told)
    (hdrive : DriveLeaves backends plays known told overflow job started fuel) :
    CallLeaves backends plays known told overflow job started (fuel + 1) := by
  intro shift worker play request hoverflow hworker hknown hreached hplay hfuel
  obtain ⟨answer, hanswer⟩ := hconditions.answers hplay
  have hcancel : Kept shift (shift.cancelNamed play.cancels) ∧
      known (shift.cancelNamed play.cancels).queue ∧
      Grown shift.log worker.run (shift.cancelNamed play.cancels).log worker.run := by
    have hsame : Grown shift.log worker.run shift.log worker.run := ⟨[], by simp, by simp⟩
    cases hcancels : play.cancels with
    | none => exact ⟨⟨_, _, _, _, rfl⟩, hknown, hsame⟩
    | some name => exact ⟨⟨_, _, _, _, rfl⟩, hconditions.keeps hplay hcancels hknown, hsame⟩
  obtain ⟨hkept, hknown', hlog⟩ := hcancel
  have hends : (Need.reply request).Ends told (.answered answer) := trivial
  have hoverflow' := hkept.overflow_eq.trans hoverflow
  simp only [finishCall, hanswer]
  rw [hoverflow', hworker]
  cases hresume : worker.run.resumeIn overflow job (shift.cancelNamed play.cancels).now
      (.answered answer) with
  | error message =>
      obtain ⟨hchecked, rfl, _, hsame, hoverflows⟩ := Run.resumeIn_eq_error hresume
      cases hsame
      subst hworker
      exact .ended hkept hknown' hlog (.crashed hchecked hreached hoverflows)
  | ok step =>
      obtain rfl := Run.resumeIn_eq_ok hresume
      have hleft := left_resume hjob hretries hdrive worker _ hoverflow' hworker hknown' hreached
        hends hresume (by omega)
      rw [hworker] at hleft
      exact Left.widen hkept hlog hleft

private theorem driveLeaves_succ (hconditions : Conditions backends plays known told)
    (hdrive : DriveLeaves backends plays known told overflow job started fuel)
    (hcall : CallLeaves backends plays known told overflow job started fuel) :
    DriveLeaves backends plays known told overflow job started (fuel + 1) := by
  intro shift worker step hoverflow hworker hknown hreached hgrown hfuel
  subst hworker
  cases step with
  | stop final ending =>
      obtain ⟨hkept, hknown', hlog⟩ := record_kept hknown hgrown
      simp only [drive]
      exact .ended hkept hknown' hlog (.stopped hreached)
  | next run =>
      obtain ⟨hkept, hknown', hlog⟩ := record_kept hknown hgrown
      have hoverflow' := hkept.overflow_eq.trans hoverflow
      simp only [fuelFor] at hfuel
      have hstopped : (shift.record worker.run run).isStopped { worker with run } = true → told :=
        hconditions.stopped hknown'
      simp only [drive]
      rcases Route.reached_proceed hjob hretries _ hstopped hreached with
        ⟨waiting, need, hproceed, hwaiting, hlater, hfewer⟩ |
        ⟨final, ending, hproceed, hfinal, hlater⟩
      · rw [hproceed]
        refine Left.widen hkept hlog
          ((hdrive { worker with run } hoverflow' rfl hknown' hwaiting hlater ?_).mono
            (Nat.succ_le_succ hfewer))
        simp only [fuelFor]
        omega
      · rw [hproceed]
        refine Left.widen hkept hlog
          ((hdrive { worker with run } hoverflow' rfl hknown' hfinal hlater ?_).mono
            (Nat.zero_le _))
        simp only [fuelFor]
        omega
  | wait run need =>
      obtain ⟨hkept, hknown', hlog⟩ := record_kept hknown hgrown
      have hoverflow' := hkept.overflow_eq.trans hoverflow
      simp only [fuelFor] at hfuel
      cases need with
      | delay ms =>
          have hends : (Need.delay ms).Ends told .elapsed := trivial
          simp only [drive]
          split
          · refine Left.widen hkept hlog ((left_resume hjob hretries hdrive { worker with run } _
              hoverflow' rfl hknown' hreached hends (Run.resumeIn_elapsed _ _ _) ?_).mono
                (Nat.le_succ _))
            simp only
            omega
          · exact .waiting hkept hknown' hlog hreached trivial (Nat.lt_succ_self _)
      | reply request =>
          let noted := (shift.record worker.run run).noteCall worker request
          let asked : Shift σ :=
            { noted with backends := (backends noted.backends noted.now request).1 }
          have hasked : Kept shift asked := hkept.trans ⟨_, _, _, _, rfl⟩
          have hoverflow' : asked.overflow = overflow := hoverflow'
          have hknown' : known asked.queue := hknown'
          have hlog : Grown shift.log worker.run asked.log run := hlog
          have hplay : plays (backends noted.backends noted.now request).2 :=
            hconditions.played _ _ _
          simp only [drive]
          split
          · refine Left.widen hasked hlog
              ((hcall { worker with run } hoverflow' rfl hknown' hreached hplay ?_).mono
                (Nat.le_succ _))
            simp only
            omega
          · exact .waiting hasked hknown' hlog hreached hplay (Nat.lt_succ_self _)

private theorem leaves (hconditions : Conditions backends plays known told) (started : Timestamp)
    (fuel : Nat) :
    DriveLeaves backends plays known told overflow job started fuel ∧
      CallLeaves backends plays known told overflow job started fuel := by
  induction fuel with
  | zero =>
      constructor
      · intro shift worker step hoverflow hworker hknown hreached hgrown hfuel
        cases step <;> simp only [fuelFor] at hfuel <;> omega
      · intro shift worker play request hoverflow hworker hknown hreached hplay hfuel
        omega
  | succ fuel ih =>
      exact ⟨driveLeaves_succ hjob hretries hconditions ih.1 ih.2,
        callLeaves_succ hjob hretries hconditions ih.1⟩

/-! ## A worker that goes on -/

omit hretries hjob in
/-- Limits that hold candidate by candidate add up. -/
private theorem sum_limits_le (rounds : Nat) (candidates : List Route.Candidate)
    (limit : Nat → Nat)
    (hlimit : ∀ i c, candidates[i]? = some c →
      limit i ≤ (c.plan.map Call.Plan.chunkCount).getD 0 * rounds) :
    ∑ i ∈ Finset.range candidates.length, limit i ≤
      Word.total (candidates.map fun c => (c.plan.map Call.Plan.chunkCount).getD 0) * rounds := by
  induction candidates generalizing limit with
  | nil => simp
  | cons c candidates ih =>
      have hhead := hlimit 0 c rfl
      have htail := ih (fun i => limit (i + 1)) fun i d hd => hlimit (i + 1) d hd
      rw [List.length_cons, Finset.sum_range_succ', List.map_cons, Word.total_cons, Nat.add_mul]
      omega

omit hretries hjob in
/-- The calls that a run may make are within the bound on its steps. -/
theorem totalCalls_le_stepBound (job : Job) : 2 * job.totalCalls + 2 ≤ stepBound job := by
  have hcalls := sum_limits_le (job.settings.policy.maxRetries + 1) job.plan.candidates
    job.callLimit fun i c hc => by
      simp only [Job.callLimit, hc]
      split
      · exact Nat.le_refl _
      · exact Nat.zero_le _
  simp only [stepBound, Job.totalCalls]
  omega

/-- A worker that begins puts the records of its run into the log. -/
theorem left_begin (hconditions : Conditions backends plays known told) {shift : Shift σ}
    {serial : Nat} (hoverflow : shift.overflow = overflow) (hknown : known shift.queue) :
    Left plays known told overflow shift.now (2 * job.totalCalls + 1) shift { serial, job }
      (shift.advance backends { serial, job }) := by
  have hbound := totalCalls_le_stepBound job
  have hwaits : (Run.start job shift.now).waitsLeft job ≤ 2 * job.totalCalls := by
    have hcalls := (Run.start_sane job shift.now).bounded
    simp only [Run.waitsLeft, (Run.start_eq job shift.now).1, Run.pause]
    omega
  have hfuel : fuelFor job (.next (Run.start job shift.now)) ≤ 3 * stepBound job := by
    simp only [fuelFor]
    omega
  have hleft := (leaves hjob hretries hconditions shift.now (3 * stepBound job)).1
    { serial, job } hoverflow rfl hknown (Route.reached_start overflow job shift.now told) ⟨_, rfl⟩
    hfuel
  exact hleft.mono (Nat.succ_le_succ hwaits)

/-- A worker that goes on has fewer waits to come. -/
theorem left_advance (hconditions : Conditions backends plays known told) {shift : Shift σ}
    {worker : Worker} {need : Need} (hoverflow : shift.overflow = overflow)
    (hworker : worker.job = job) (hknown : known shift.queue)
    (hreached : Reached overflow job started told (.wait worker.run need))
    (hawaits : worker.waiting.Awaits plays need) :
    Left plays known told overflow started (worker.run.waitsLeft job) shift worker
      (shift.advance backends worker) := by
  have hbound := totalCalls_le_stepBound job
  have hwaits := Route.reached_waitsLeft_le hjob hretries hreached
  obtain ⟨hdrive, hcall⟩ := leaves hjob hretries hconditions started (3 * stepBound worker.job)
  have hfuel : 3 * worker.run.waitsLeft job + 2 ≤ 3 * stepBound worker.job := by
    rw [hworker]
    omega
  unfold advance
  cases hwaiting : worker.waiting with
  | nothing =>
      rw [hwaiting] at hawaits
      exact hawaits.elim
  | forever =>
      rw [hwaiting] at hawaits
      exact hawaits.elim
  | call due play =>
      rw [hwaiting] at hawaits
      cases need with
      | delay ms => exact hawaits.elim
      | reply request =>
          simp only
          split
          next hstopped =>
            have htold : told := hconditions.stopped hknown hstopped
            exact left_resume hjob hretries hdrive worker _ hoverflow hworker hknown hreached htold
              (Run.resumeIn_cancelled _ _ _) (by omega)
          · exact hcall worker hoverflow hworker hknown hreached hawaits hfuel
  | backoff due =>
      rw [hwaiting] at hawaits
      cases need with
      | reply request => exact hawaits.elim
      | delay ms =>
          simp only
          split
          next hstopped =>
            have htold : told := hconditions.stopped hknown hstopped
            exact left_resume hjob hretries hdrive worker _ hoverflow hworker hknown hreached htold
              (Run.resumeIn_cancelled _ _ _) (by omega)
          next =>
            have hends : (Need.delay ms).Ends told .elapsed := trivial
            exact left_resume hjob hretries hdrive worker _ hoverflow hworker hknown hreached hends
              (Run.resumeIn_elapsed _ _ _) (by omega)

end Drive

end Shift

end Switchboard.Queue
