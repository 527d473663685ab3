import Switchboard.Proofs.Queue.Clock
import Switchboard.Proofs.Queue.Drive
import Switchboard.Proofs.Queue.Floor

/-!
# A shift and its floor

A shift that works off a queue is one of the ways in which workers can share it: whatever it does to
the queue is a step of a worker on a floor. While its clock moves and its workers are driven on, the
queue stays as it is; looking at the queue claims and plans tasks, and each ended run settles one.

The backends may do with a call whatever they like, also never end it or take the worker down with
it. Only cancelling tasks, which is an operation from outside, is left out.

## Main results

* `Shift.drifts_advance` — letting a worker go on changes that worker alone.
* `Shift.Crew.step`, `Shift.Crew.run` — a shift stays a run of workers on a floor.
* `Shift.Crew.atRest` — when the shift is over, nothing is left to do on the floor.
-/

namespace Switchboard.Queue

open Switchboard.Route (Run Step Attempt Ending Request Settings)

variable {σ : Type}

/-- The backends cancel nothing. -/
def Calm (backends : Backends σ) : Prop :=
  ∀ state now request, (backends state now request).2.cancels = none

/-- The call that is waited for cancels nothing. -/
def Waiting.Calm (waiting : Waiting) : Prop :=
  ∀ due play, waiting = .call due play → play.cancels = none

namespace Shift

/-! ## A worker goes on -/

/-- Nothing but the backends, the calls, the log and the time differs. -/
def Aside (shift other : Shift σ) : Prop :=
  ∃ state calls log clockMs, other = { shift with backends := state, calls, log, clockMs }

theorem Aside.refl (shift : Shift σ) : Aside shift shift := ⟨_, _, _, _, rfl⟩

theorem Aside.trans {shift other last : Shift σ} (h : Aside shift other) (h' : Aside other last) :
    Aside shift last := by
  obtain ⟨state, calls, log, clockMs, rfl⟩ := h
  obtain ⟨state', calls', log', clockMs', rfl⟩ := h'
  exact ⟨state', calls', log', clockMs', rfl⟩

theorem Aside.workers_eq {shift other : Shift σ} (h : Aside shift other) :
    other.workers = shift.workers := by
  obtain ⟨state, calls, log, clockMs, rfl⟩ := h
  rfl

theorem Kept.aside {shift other : Shift σ} (h : Kept shift other)
    (hqueue : other.queue = shift.queue) : Aside shift other := by
  obtain ⟨queue, state, calls, log, rfl⟩ := h
  have hqueue : queue = shift.queue := hqueue
  subst hqueue
  exact ⟨state, calls, log, shift.clockMs, rfl⟩

theorem aside_record (shift : Shift σ) (before after : Run) :
    Aside shift (shift.record before after) := by
  obtain ⟨state, hstate⟩ := foldl_enter shift (after.attempts.drop before.attempts.length)
  exact ⟨state, shift.calls, _, shift.clockMs, hstate⟩

/-- What becomes of a shift whose worker was driven, whatever the backends did: the worker waits,
or its run has ended. -/
inductive Drifts (shift : Shift σ) (worker : Worker) : Shift σ → Prop where
  | same {other : Shift σ} (h : Aside shift other) : Drifts shift worker other
  | waiting {other : Shift σ} {run : Run} {waiting : Waiting} (h : Aside shift other)
      (hcalm : waiting.Calm) : Drifts shift worker (other.putWorker { worker with run, waiting })
  | ended {other : Shift σ} {ending : Ending} (h : Aside shift other) :
      Drifts shift worker (other.endWorker worker ending)

theorem Drifts.widen {shift other result : Shift σ} {worker : Worker} {run : Run}
    (hother : Aside shift other) (h : Drifts other { worker with run } result) :
    Drifts shift worker result := by
  cases h with
  | same h => exact .same (hother.trans h)
  | waiting h hcalm => exact .waiting (hother.trans h) hcalm
  | ended h => exact .ended (hother.trans h)

section Drifts

variable {backends : Backends σ} (hcalm : Calm backends)
include hcalm

private theorem drifts (fuel : Nat) :
    (∀ (shift : Shift σ) (worker : Worker) (step : Step),
      Drifts shift worker (drive backends fuel shift worker step)) ∧
    ∀ (shift : Shift σ) (worker : Worker) (play : Play), play.cancels = none →
      Drifts shift worker (finishCall backends fuel shift worker play) := by
  induction fuel with
  | zero =>
      constructor
      · intro shift worker step
        rw [drive]
        exact .same (.refl shift)
      · intro shift worker play hplay
        rw [finishCall]
        exact .same (.refl shift)
  | succ fuel ih =>
      obtain ⟨hdrive, hcall⟩ := ih
      constructor
      · intro shift worker step
        cases step with
        | stop final ending =>
            rw [drive]
            exact .ended (aside_record shift _ _)
        | next run =>
            simp only [drive]
            exact .widen (aside_record shift _ _) (hdrive _ { worker with run } _)
        | wait run need =>
            have hrecord := aside_record shift worker.run run
            cases need with
            | delay ms =>
                simp only [drive]
                split
                · exact .widen hrecord (hdrive _ { worker with run } _)
                · refine .waiting hrecord ?_
                  intro due play hwaiting
                  cases hwaiting
            | reply request =>
                let noted := (shift.record worker.run run).noteCall worker request
                have hasked : Aside shift
                    { noted with backends := (backends noted.backends noted.now request).1 } :=
                  hrecord.trans ⟨_, _, _, _, rfl⟩
                simp only [drive]
                split
                · exact .widen hasked (hcall _ { worker with run } _ (hcalm _ _ _))
                · refine .waiting hasked ?_
                  intro due play hwaiting
                  injection hwaiting with _ hplay
                  rw [← hplay]
                  exact hcalm _ _ _
      · intro shift worker play hplay
        have hsame : shift.cancelNamed play.cancels = shift := by
          rw [hplay]
          rfl
        simp only [finishCall, hsame]
        split
        · refine .waiting (.refl shift) ?_
          intro due play hwaiting
          cases hwaiting
        · exact .ended (.refl shift)
        · split
          · exact .ended (.refl shift)
          · exact .widen (.refl shift) (hdrive shift worker _)

/-- Letting a worker go on changes that worker alone. -/
theorem drifts_advance {shift : Shift σ} {worker : Worker} (hworker : worker.waiting.Calm) :
    Drifts shift worker (shift.advance backends worker) := by
  obtain ⟨hdrive, hcall⟩ := drifts hcalm (3 * stepBound worker.job)
  unfold advance
  cases hwaiting : worker.waiting with
  | nothing => exact hdrive shift worker _
  | call due play =>
      dsimp only
      split
      · exact hdrive shift worker _
      · exact hcall shift worker play (hworker due play hwaiting)
  | forever => exact hdrive shift worker _
  | backoff due => exact hdrive shift worker _

end Drifts

/-! ## The workers of a shift -/

/-- Putting back or taking out the worker of one slot leaves all others in their places. -/
theorem workers_split {workers : List Worker} {worker : Worker}
    (hserials : (workers.map (·.serial)).Nodup) (hmem : worker ∈ workers) :
    ∃ before after, workers = before ++ worker :: after ∧
      (∀ new : Worker, new.serial = worker.serial →
        (workers.map fun w => if w.serial = new.serial then new else w) =
          before ++ new :: after) ∧
      workers.filter (·.serial ≠ worker.serial) = before ++ after := by
  obtain ⟨before, after, rfl⟩ := List.append_of_mem hmem
  rw [List.map_append, List.map_cons, List.nodup_middle, List.nodup_cons, List.mem_append,
    not_or] at hserials
  obtain ⟨⟨hbefore, hafter⟩, -⟩ := hserials
  have hapart : ∀ others : List Worker, worker.serial ∉ others.map (·.serial) →
      ∀ w ∈ others, w.serial ≠ worker.serial :=
    fun others h w hw heq => h (heq ▸ List.mem_map_of_mem hw)
  refine ⟨before, after, rfl, ?_, ?_⟩
  · intro new hnew
    have hkeep : ∀ others : List Worker, worker.serial ∉ others.map (·.serial) →
        (others.map fun w => if w.serial = new.serial then new else w) = others := by
      intro others h
      conv_rhs => rw [← List.map_id others]
      refine List.map_congr_left fun w hw => if_neg ?_
      rw [hnew]
      exact hapart others h w hw
    rw [List.map_append, List.map_cons, hkeep before hbefore, hkeep after hafter, if_pos hnew.symm]
  · have hkeep : ∀ others : List Worker, worker.serial ∉ others.map (·.serial) →
        others.filter (·.serial ≠ worker.serial) = others :=
      fun others h => List.filter_eq_self.mpr fun w hw => decide_eq_true (hapart others h w hw)
    rw [List.filter_append, hkeep before hbefore, List.filter_cons_of_neg (by simp),
      hkeep after hafter]

/-- The shift has done to its queue what the workers did on the floor. -/
structure Enacts (shift : Shift σ) (floor : Floor) : Prop where
  queue : floor.queue = shift.queue
  claimed : floor.claimed = shift.claimed
  unplanned : floor.unplanned = []
  /-- The running requests are those of the workers and of the runs that are to be settled. -/
  running : (floor.running.map (·.taskId)).Perm
    (shift.workers.map (·.job.request.taskId) ++ shift.ended.map (·.1))

section Enacts

variable {shift : Shift σ} {floor : Floor}

theorem Enacts.aside {other : Shift σ} (h : Enacts shift floor) (haside : Aside shift other) :
    Enacts other floor := by
  obtain ⟨state, calls, log, clockMs, rfl⟩ := haside
  exact ⟨h.queue, h.claimed, h.unplanned, h.running⟩

/-- A worker that waits for something else holds its request on. -/
theorem Enacts.putWorker (h : Enacts shift floor)
    (hserials : (shift.workers.map (·.serial)).Nodup) {worker : Worker}
    (hmem : worker ∈ shift.workers) (run : Run) (waiting : Waiting) :
    Enacts (shift.putWorker { worker with run, waiting }) floor := by
  let new : Worker := { worker with run, waiting }
  obtain ⟨before, after, hsplit, hput, -⟩ := workers_split hserials hmem
  have hworkers : (shift.putWorker new).workers = before ++ new :: after := hput new rfl
  have hrunning := h.running
  rw [hsplit] at hrunning
  refine ⟨h.queue, h.claimed, h.unplanned, ?_⟩
  show (floor.running.map (·.taskId)).Perm
    ((shift.putWorker new).workers.map (·.job.request.taskId) ++ shift.ended.map (·.1))
  rw [hworkers]
  simpa only [List.map_append, List.map_cons] using hrunning

/-- A run that has ended is to be settled. -/
theorem Enacts.endWorker (h : Enacts shift floor)
    (hserials : (shift.workers.map (·.serial)).Nodup) {worker : Worker}
    (hmem : worker ∈ shift.workers) (ending : Ending) :
    Enacts (shift.endWorker worker ending) floor := by
  obtain ⟨before, after, hsplit, -, hend⟩ := workers_split hserials hmem
  have hworkers : (shift.endWorker worker ending).workers = before ++ after := hend
  have hended : (shift.endWorker worker ending).ended =
      shift.ended ++ [(worker.job.request.taskId, ending)] := rfl
  have hrunning := h.running
  rw [hsplit] at hrunning
  refine ⟨h.queue, h.claimed, h.unplanned, ?_⟩
  rw [hworkers, hended]
  refine hrunning.trans ?_
  simp only [List.map_append, List.map_cons, List.map_nil, List.append_assoc, List.cons_append]
  refine List.perm_middle.trans ?_
  rw [← List.append_assoc, ← List.append_assoc, ← List.append_assoc]
  exact (List.perm_append_singleton _ _).symm

/-- A run that is settled was that of a running request. -/
theorem Enacts.settleOne (h : Enacts shift floor) {id : String} {ending : Ending}
    {rest : List (String × Ending)} (hended : shift.ended = (id, ending) :: rest) :
    ∃ request before after, floor.running = before ++ request :: after ∧ request.taskId = id ∧
      Enacts (shift.settleOne id ending rest) { floor with
        queue := floor.queue.settle request.taskId ending
        running := before ++ after } := by
  have hrunning := h.running
  rw [hended, List.map_cons] at hrunning
  have hmem : id ∈ floor.running.map (·.taskId) :=
    hrunning.mem_iff.mpr (List.mem_append_right _ List.mem_cons_self)
  obtain ⟨request, hrequest, rfl⟩ := List.mem_map.mp hmem
  obtain ⟨before, after, hsplit⟩ := List.append_of_mem hrequest
  refine ⟨request, before, after, hsplit, rfl, ?_, h.claimed, h.unplanned, ?_⟩
  · show floor.queue.settle request.taskId ending = shift.queue.settle request.taskId ending
    rw [h.queue]
  · rw [hsplit, List.map_append, List.map_cons] at hrunning
    have hperm := (List.perm_middle.symm.trans hrunning).trans List.perm_middle
    show ((before ++ after).map (·.taskId)).Perm _
    rw [List.map_append]
    exact hperm.cons_inv

/-- A task that was claimed and planned is run by a new worker. -/
theorem Enacts.claimOne (h : Enacts shift floor) (queue : Queue) (slot : Slot) (permits : Nat)
    (events : List Progress) :
    Enacts { shift with
      queue := queue.setPlan slot.task.id (slot.task.request.job shift.settings).plan
      permits
      claimed := shift.claimed ++ [slot.task.id]
      events
      workers := shift.workers ++
        [{ serial := slot.serial, job := slot.task.request.job shift.settings }] }
      { floor with
        queue := queue.setPlan slot.task.id (slot.task.request.job shift.settings).plan
        unplanned := []
        running := floor.running ++ [slot.task.request]
        claimed := floor.claimed ++ [slot.task.id] } := by
  refine ⟨rfl, by rw [h.claimed], rfl, ?_⟩
  let worker : Worker :=
    { serial := slot.serial, job := slot.task.request.job shift.settings }
  show ((floor.running ++ [slot.task.request]).map (·.taskId)).Perm
    ((shift.workers ++ [worker]).map (·.job.request.taskId) ++ shift.ended.map (·.1))
  rw [List.map_append, List.map_append, List.append_assoc]
  refine (List.perm_append_singleton _ _).trans ?_
  exact (h.running.cons _).trans List.perm_middle.symm

end Enacts

/-- The shift works off queue `q`, and nothing comes in from outside. -/
structure Crew (settings : Settings) (q : Queue) (shift : Shift σ) : Prop where
  settings_eq : shift.settings = settings
  floor : ∃ floor, Relation.ReflTransGen (Floor.Move settings fun _ _ => True) (.ofQueue q) floor ∧
    shift.Enacts floor
  workers : ∀ worker ∈ shift.workers, worker.waiting.Calm ∧
    ∃ slot ∈ q.slots, slot.serial = worker.serial ∧ worker.job = slot.task.request.job settings
  /-- There is at least one place for a worker. -/
  staffed : 0 < shift.permits + shift.workers.length + shift.ended.length
  incoming : shift.incoming = []
  finished : shift.finishedMs.isSome = true →
    shift.workers = [] ∧ shift.ended = [] ∧ shift.queue.pendingIds = []

/-- A shift that has not begun to work off its queue. -/
structure Unbegun (shift : Shift σ) : Prop where
  workers : shift.workers = []
  ended : shift.ended = []
  claimed : shift.claimed = []
  incoming : shift.incoming = []
  finishedMs : shift.finishedMs = none
  awake : shift.awake = true
  permits : 0 < shift.permits

theorem Unbegun.crew {shift : Shift σ} (h : Unbegun shift) :
    Crew shift.settings shift.queue shift where
  settings_eq := rfl
  floor := by
    refine ⟨_, .refl, rfl, h.claimed.symm, rfl, ?_⟩
    rw [h.workers, h.ended]
    exact .refl []
  workers := by
    intro worker hworker
    rw [h.workers] at hworker
    exact absurd hworker List.not_mem_nil
  staffed := by
    have := h.permits
    omega
  incoming := h.incoming
  finished := by
    intro hfinished
    rw [h.finishedMs] at hfinished
    cases hfinished

/-- A shift for the pending tasks of a queue. -/
def ofQueue (writeDown : Attempt → σ → Except String σ) (state : σ) (settings : Settings)
    (start : Timestamp) (q : Queue) (log : List Attempt) (workers : Nat) : Shift σ :=
  { settings, queue := q, backends := state, start, log, writeDown
    overflow := .aborts, permits := min (max workers 1) maxWorkers }

theorem unbegun_ofQueue (writeDown : Attempt → σ → Except String σ) (state : σ)
    (settings : Settings) (start : Timestamp) (q : Queue) (log : List Attempt) (workers : Nat) :
    Unbegun (ofQueue writeDown state settings start q log workers) := by
  refine ⟨rfl, rfl, rfl, rfl, rfl, rfl, ?_⟩
  show 0 < min (max workers 1) maxWorkers
  simp only [maxWorkers]
  omega

section Crew

variable {settings : Settings} {q : Queue} (hids : q.ids.Nodup) (hnumbered : q.Numbered)
  {shift : Shift σ}

include hids hnumbered in
/-- No two workers have the same slot. -/
theorem Crew.serials (h : Crew settings q shift) : (shift.workers.map (·.serial)).Nodup := by
  obtain ⟨floor, hmoves, henacts⟩ := h.floor
  obtain ⟨stage, hstaged⟩ := Floor.staged_of_moves hids hmoves
  have hnodup : (shift.workers.map (·.job.request.taskId)).Nodup :=
    (List.nodup_append.mp (henacts.running.nodup (hstaged.running_ids_nodup hids))).1
  refine List.Nodup.map_on ?_ (List.Nodup.of_map _ hnodup)
  intro first hfirst second hsecond hserial
  obtain ⟨-, slot, hslot, hslotSerial, hjob⟩ := h.workers first hfirst
  obtain ⟨-, other, hother, hotherSerial, hjob'⟩ := h.workers second hsecond
  have hsame : slot = other := List.inj_on_of_nodup_map hnumbered.nodup hslot hother
    (hslotSerial.trans (hserial.trans hotherSerial.symm))
  refine List.inj_on_of_nodup_map hnodup hfirst hsecond ?_
  rw [hjob, hjob', hsame]

/-- The backends, the calls, the log and the time are nothing to the crew. -/
theorem Crew.aside {other : Shift σ} (h : Crew settings q shift) (haside : Aside shift other) :
    Crew settings q other := by
  obtain ⟨floor, hmoves, henacts⟩ := h.floor
  have hfloor := henacts.aside haside
  obtain ⟨state, calls, log, clockMs, rfl⟩ := haside
  exact ⟨h.settings_eq, ⟨floor, hmoves, hfloor⟩, h.workers, h.staffed, h.incoming, h.finished⟩

/-- As long as there are workers, the shift is not over. -/
theorem Crew.not_finished (h : Crew settings q shift) {worker : Worker}
    (hmem : worker ∈ shift.workers) : ¬ shift.finishedMs.isSome = true := by
  intro hfinished
  rw [(h.finished hfinished).1] at hmem
  exact List.not_mem_nil hmem

include hids hnumbered in
/-- A worker may wait for something else. -/
theorem Crew.putWorker (h : Crew settings q shift) {worker : Worker}
    (hmem : worker ∈ shift.workers) (run : Run) {waiting : Waiting} (hcalm : waiting.Calm) :
    Crew settings q (shift.putWorker { worker with run, waiting }) := by
  let new : Worker := { worker with run, waiting }
  have hserials := h.serials hids hnumbered
  obtain ⟨floor, hmoves, henacts⟩ := h.floor
  obtain ⟨-, slot, hslot, hserial, hjob⟩ := h.workers worker hmem
  obtain ⟨before, after, hsplit, hput, -⟩ := workers_split hserials hmem
  have hworkers : (shift.putWorker new).workers = before ++ new :: after := hput new rfl
  refine ⟨h.settings_eq, ⟨floor, hmoves, henacts.putWorker hserials hmem run waiting⟩, ?_, ?_,
    h.incoming, fun hfinished => (h.not_finished hmem hfinished).elim⟩
  · intro w hw
    have hw : w ∈ (shift.putWorker new).workers := hw
    rw [hworkers, List.mem_append, List.mem_cons] at hw
    by_cases hnew : w = new
    · rw [hnew]
      exact ⟨hcalm, slot, hslot, hserial, hjob⟩
    · refine h.workers w ?_
      rw [hsplit, List.mem_append, List.mem_cons]
      exact hw.imp_right fun hw => .inr (hw.resolve_left hnew)
  · show 0 < shift.permits + (shift.putWorker new).workers.length + shift.ended.length
    rw [hworkers]
    simpa only [hsplit, List.length_append, List.length_cons] using h.staffed

include hids hnumbered in
/-- A worker may come to an end. -/
theorem Crew.endWorker (h : Crew settings q shift) {worker : Worker}
    (hmem : worker ∈ shift.workers) (ending : Ending) :
    Crew settings q (shift.endWorker worker ending) := by
  have hserials := h.serials hids hnumbered
  obtain ⟨floor, hmoves, henacts⟩ := h.floor
  obtain ⟨before, after, hsplit, -, hend⟩ := workers_split hserials hmem
  have hworkers : (shift.endWorker worker ending).workers = before ++ after := hend
  have hended : (shift.endWorker worker ending).ended =
      shift.ended ++ [(worker.job.request.taskId, ending)] := rfl
  refine ⟨h.settings_eq, ⟨floor, hmoves, henacts.endWorker hserials hmem ending⟩, ?_, ?_,
    h.incoming, fun hfinished => (h.not_finished hmem hfinished).elim⟩
  · intro w hw
    rw [hworkers, List.mem_append] at hw
    refine h.workers w ?_
    rw [hsplit, List.mem_append, List.mem_cons]
    exact hw.imp_right .inr
  · have hstaffed := h.staffed
    show 0 < shift.permits + _ + _
    rw [hworkers, hended]
    simp only [hsplit, List.length_append, List.length_cons, List.length_nil] at hstaffed ⊢
    omega

include hids hnumbered in
/-- A worker that goes on leaves the queue as it is. -/
theorem Crew.drifts (h : Crew settings q shift) {worker : Worker} (hmem : worker ∈ shift.workers)
    {next : Shift σ} (hdrifts : Drifts shift worker next) : Crew settings q next := by
  cases hdrifts with
  | same haside => exact h.aside haside
  | waiting haside hcalm =>
      exact (h.aside haside).putWorker hids hnumbered (haside.workers_eq ▸ hmem) _ hcalm
  | ended haside =>
      exact (h.aside haside).endWorker hids hnumbered (haside.workers_eq ▸ hmem) _

/-- Settling an ended run is a step of a worker. -/
theorem Crew.settleOne (h : Crew settings q shift) {id : String} {ending : Ending}
    {rest : List (String × Ending)} (hended : shift.ended = (id, ending) :: rest) :
    Crew settings q (shift.settleOne id ending rest) := by
  obtain ⟨floor, hmoves, henacts⟩ := h.floor
  obtain ⟨request, before, after, hsplit, -, hsettled⟩ := henacts.settleOne hended
  refine ⟨h.settings_eq, ⟨_, hmoves.tail (.settle hsplit trivial), hsettled⟩, h.workers, ?_,
    h.incoming, ?_⟩
  · show 0 < shift.permits + 1 + shift.workers.length + rest.length
    omega
  · intro hfinished
    rw [(h.finished hfinished).2.1] at hended
    cases hended

include hids in
/-- A claimed task is one of the queue that is worked off. -/
theorem Crew.claim_source (h : Crew settings q shift) {queue : Queue} {slot : Slot}
    (hclaim : shift.queue.claim = some (queue, slot)) :
    ∃ s ∈ q.slots, s.serial = slot.serial ∧ slot.task.request = s.task.request := by
  obtain ⟨floor, hmoves, henacts⟩ := h.floor
  obtain ⟨stage, hstaged⟩ := Floor.staged_of_moves hids hmoves
  obtain ⟨old, -, rfl, hreplaces, -⟩ := claim_replaces hclaim
  have hmem := hreplaces.mem_old
  rw [← henacts.queue, hstaged.slots] at hmem
  obtain ⟨s, hs, rfl⟩ := List.mem_map.mp hmem
  exact ⟨s, hs, (Slot.atStage_serial ..).symm, Slot.atStage_request ..⟩

include hids in
/-- Claiming a task and planning it are two steps of a worker. -/
theorem Crew.claimOne (h : Crew settings q shift) (hunfinished : shift.finishedMs = none)
    {queue : Queue} {slot : Slot} (hclaim : shift.queue.claim = some (queue, slot)) (permits : Nat)
    (events : List Progress) :
    Crew settings q { shift with
      queue := queue.setPlan slot.task.id (slot.task.request.job shift.settings).plan
      permits
      claimed := shift.claimed ++ [slot.task.id]
      events
      workers := shift.workers ++
        [{ serial := slot.serial, job := slot.task.request.job shift.settings }] } := by
  have hsettings := h.settings_eq
  subst hsettings
  obtain ⟨floor, hmoves, henacts⟩ := h.floor
  let claimed : Floor := { floor with
    queue
    unplanned := floor.unplanned ++ [slot.task.request]
    claimed := floor.claimed ++ [slot.task.id] }
  have hmoves : Relation.ReflTransGen (Floor.Move shift.settings fun _ _ => True) (.ofQueue q)
      claimed := hmoves.tail (.claim (henacts.queue ▸ hclaim))
  have hheld : claimed.unplanned = [] ++ slot.task.request :: [] := by
    show floor.unplanned ++ _ = _
    rw [henacts.unplanned]
  refine ⟨rfl, ⟨_, hmoves.tail (.plan hheld), henacts.claimOne queue slot permits events⟩, ?_, ?_,
    h.incoming, ?_⟩
  · intro worker hworker
    rcases List.mem_append.mp hworker with hworker | hworker
    · exact h.workers worker hworker
    · obtain ⟨s, hs, hserial, hrequest⟩ := h.claim_source hids hclaim
      rw [List.mem_singleton.mp hworker]
      exact ⟨nofun, s, hs, hserial, by rw [hrequest]⟩
  · show 0 < permits + (shift.workers ++ [_]).length + shift.ended.length
    rw [List.length_append, List.length_singleton]
    omega
  · intro hfinished
    have hfinished : shift.finishedMs.isSome = true := hfinished
    rw [hunfinished] at hfinished
    cases hfinished

include hids in
/-- Tasks are claimed until nothing is pending or no permit is left. -/
theorem Crew.claimTasks (h : Crew settings q shift) (hunfinished : shift.finishedMs = none)
    (permits : Nat) :
    Crew settings q (claimTasks permits shift) ∧ (claimTasks permits shift).ended = shift.ended ∧
      ((claimTasks permits shift).queue.pendingIds = [] ∨
        (claimTasks permits shift).workers.length = shift.workers.length + permits) := by
  induction permits generalizing shift with
  | zero => exact ⟨h, rfl, .inr rfl⟩
  | succ permits ih =>
      cases hclaim : shift.queue.claim with
      | none =>
          simp only [Shift.claimTasks, hclaim]
          exact ⟨h, trivial, .inl (claim_eq_none_iff.mp hclaim)⟩
      | some found =>
          obtain ⟨queue, slot⟩ := found
          simp only [Shift.claimTasks, hclaim]
          obtain ⟨hcrew, hended, hdone⟩ :=
            ih (h.claimOne hids hunfinished hclaim permits _) hunfinished
          refine ⟨hcrew, hended, hdone.imp_right fun hlength => ?_⟩
          rw [hlength, List.length_append, List.length_singleton]
          omega

include hids in
/-- Looking at the queue ends the shift only when nothing is left to do. -/
theorem Crew.lookAtQueue (h : Crew settings q shift) (hunfinished : shift.finishedMs = none)
    (hended : shift.ended = []) : Crew settings q shift.lookAtQueue := by
  obtain ⟨hcrew, hended', hdone⟩ := h.claimTasks hids hunfinished shift.permits
  obtain ⟨floor, hmoves, hqueue, hclaimed, hunplanned, hrunning⟩ := hcrew.floor
  refine ⟨hcrew.settings_eq, ⟨floor, hmoves, hqueue, hclaimed, hunplanned, hrunning⟩,
    hcrew.workers, hcrew.staffed, hcrew.incoming, ?_⟩
  intro hfinished
  have hworkers : (Shift.claimTasks shift.permits shift).workers = [] := by
    unfold Shift.lookAtQueue at hfinished
    dsimp only at hfinished
    split at hfinished
    · rename_i hempty
      exact List.isEmpty_iff.mp hempty
    · cases hfinished
  refine ⟨hworkers, hended'.trans hended, hdone.resolve_right fun hlength => ?_⟩
  have hstaffed := h.staffed
  rw [hworkers, List.length_nil] at hlength
  rw [hended, List.length_nil] at hstaffed
  omega

theorem Crew.operate?_eq_none (h : Crew settings q shift) : shift.operate? = none := by
  simp only [operate?, h.incoming]

section Steps

variable {backends : Backends σ} (hcalm : Calm backends) {next : Shift σ}
include hids hnumbered hcalm

theorem Crew.work (h : Crew settings q shift) (hwork : Works backends shift next) :
    Crew settings q next := by
  cases hwork with
  | advance mem => exact h.drifts hids hnumbered mem (drifts_advance hcalm (h.workers _ mem).1)
  | settle ended => exact h.settleOne ended
  | look ended awake unfinished => exact h.lookAtQueue hids unfinished ended

/-- Every step of a shift is a step of a worker, or several, or none. -/
theorem Crew.step (h : Crew settings q shift) (hstep : shift.step backends = some next) :
    Crew settings q next := by
  rcases step_cases hstep with hwork | hoperate | ⟨ms, rfl⟩
  · exact h.work hids hnumbered hcalm hwork
  · rw [h.operate?_eq_none] at hoperate
    cases hoperate
  · exact h.aside ⟨_, _, _, ms, rfl⟩

/-- So the whole shift is a run of workers on a floor. -/
theorem Crew.run (h : Crew settings q shift) (fuel : Nat) :
    Crew settings q (run backends fuel shift) := by
  induction fuel generalizing shift with
  | zero => exact h
  | succ fuel ih =>
      rw [Shift.run]
      split
      next => exact h
      next next hnext => exact ih (h.step hids hnumbered hcalm hnext)

end Steps

/-- When the shift is over, nothing is left to do on the floor. -/
theorem Crew.atRest (h : Crew settings q shift) (hfinished : shift.finishedMs.isSome = true) :
    ∃ floor, Relation.ReflTransGen (Floor.Move settings fun _ _ => True) (.ofQueue q) floor ∧
      floor.queue = shift.queue ∧ floor.claimed = shift.claimed ∧ floor.AtRest := by
  obtain ⟨floor, hmoves, hqueue, hclaimed, hunplanned, hrunning⟩ := h.floor
  obtain ⟨hworkers, hended, hpending⟩ := h.finished hfinished
  rw [hworkers, hended] at hrunning
  refine ⟨floor, hmoves, hqueue, hclaimed, hunplanned, ?_, hqueue ▸ hpending⟩
  exact List.map_eq_nil_iff.mp hrunning.eq_nil

end Crew

end Shift

end Switchboard.Queue
