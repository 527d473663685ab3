import Switchboard.Proofs.Queue.Crew

/-!
# A shift comes to its end

Where the backends answer every call, a shift that works off a queue is over after a bounded number
of steps. What there is to do is counted task by task: a pending task stands for all the waits its
run may have, a worker for the waits its run has left, an ended run for being settled and for
looking at the queue afterwards. Every step but those of the clock leaves less of it, and the bound
that the shift gives itself is enough.

## Main results

* `Shift.Lively.work` — what is done leaves less to do.
* `Shift.finish_lively` — a shift that works off a queue comes to its end.
-/

namespace Switchboard.Queue

open Switchboard.Route (Job Run Need Ending Reached Settings)

variable {σ : Type}

/-- The backend answers a call and cancels nothing. -/
def Play.Plain (play : Play) : Prop :=
  (∃ answer, play.deed = .answer answer) ∧ play.cancels = none

/-- Plain backends leave the queue as it is. -/
theorem plain_conditions {backends : Backends σ} (hanswers : Answering backends)
    (hcalm : Calm backends) (q : Queue) : Conditions backends Play.Plain (· = q) True where
  played := fun _ _ _ => ⟨hanswers _ _ _, hcalm _ _ _⟩
  answers := fun hplay => hplay.1
  keeps := by
    intro play name queue hplay hcancels
    rw [hplay.2] at hcancels
    cases hcancels
  stopped := fun _ _ => trivial

/-! ## What there is to do -/

/-- A worker that has not begun, or whose run waits for what the worker waits for. -/
inductive Worker.Active (overflow : Route.Overflow) : Worker → Prop where
  | fresh {serial : Nat} {job : Job} : Active overflow { serial, job }
  | busy {worker : Worker} {need : Need} {started : Timestamp}
      (hreached : Reached overflow worker.job started True (.wait worker.run need))
      (hawaits : worker.waiting.Awaits Play.Plain need) : Active overflow worker

/-- What there is to do for a task: the waits of its run, settling it, and what follows. -/
def jobTasks (job : Job) : Nat := 2 * job.totalCalls + 4

/-- What there is to do for a worker. -/
def Worker.tasks (worker : Worker) : Nat :=
  match worker.waiting with
  | .nothing => jobTasks worker.job
  | _ => worker.run.waitsLeft worker.job + 3

theorem Worker.tasks_of_awaits {worker : Worker} {need : Need}
    (h : worker.waiting.Awaits Play.Plain need) :
    worker.tasks = worker.run.waitsLeft worker.job + 3 := by
  unfold Worker.tasks
  rcases h.due with ⟨ms, play, hwaiting⟩ | ⟨ms, hwaiting⟩ <;> rw [hwaiting]

/-- What there is to do for a task of queue `q`. -/
def taskTasks (q : Queue) (settings : Settings) (id : String) : Nat :=
  match q.slot? id with
  | some slot => jobTasks (slot.task.request.job settings)
  | none => 0

namespace Shift

/-- What there is to do in a shift that works off queue `q`. -/
def tasks (q : Queue) (shift : Shift σ) : Nat :=
  Word.total (shift.queue.pendingIds.map (taskTasks q shift.settings)) +
    Word.total (shift.workers.map Worker.tasks) + 2 * shift.ended.length + shift.look

/-- A shift in which every worker has something to do, and `tasks` bounds what there is to do. -/
structure Lively (settings : Settings) (q : Queue) (shift : Shift σ) (tasks : Nat) : Prop where
  crew : Crew settings q shift
  retries : settings.policy.maxRetries + 1 < Word.size32
  active : ∀ worker ∈ shift.workers, worker.Active shift.overflow
  /-- The queue is looked at again when somebody comes to an end. -/
  engaged : shift.awake = false → shift.finishedMs = none →
    shift.workers ≠ [] ∨ shift.ended ≠ []
  enough : shift.tasks q ≤ tasks

section Crew

variable {settings : Settings} {q : Queue} (hids : q.ids.Nodup) {shift : Shift σ}

include hids in
/-- The pending tasks are those that are not claimed yet. -/
theorem Crew.pendingIds_eq (h : Crew settings q shift) :
    shift.queue.pendingIds = q.pendingIds.drop shift.claimed.length := by
  obtain ⟨floor, hmoves, henacts⟩ := h.floor
  obtain ⟨stage, hstaged⟩ := Floor.staged_of_moves hids hmoves
  rw [← hstaged.order, henacts.queue, henacts.claimed, List.drop_left]

include hids in
/-- As long as nothing is claimed, the same tasks are pending. -/
theorem Crew.pendingIds_congr {next : Shift σ} (h : Crew settings q shift)
    (hnext : Crew settings q next) (hclaimed : next.claimed = shift.claimed) :
    next.queue.pendingIds = shift.queue.pendingIds := by
  rw [hnext.pendingIds_eq hids, h.pendingIds_eq hids, hclaimed]

end Crew

theorem total_map_middle {α : Type} (f : α → Nat) (before after : List α) (a : α) :
    Word.total ((before ++ a :: after).map f) =
      f a + Word.total ((before ++ after).map f) := by
  rw [List.map_append, List.map_cons, Word.total_append, Word.total_cons, List.map_append,
    Word.total_append]
  omega

section Lively

variable {settings : Settings} {q : Queue} (hids : q.ids.Nodup) (hnumbered : q.Numbered)
  (haddr : ∀ slot ∈ q.slots, slot.task.request.Addressable) {backends : Backends σ}
  (hanswers : Answering backends) (hcalm : Calm backends) {shift next : Shift σ} {n : Nat}

include haddr in
/-- The jobs of workers are sound. -/
theorem Crew.job_sound (h : Crew settings q shift) {worker : Worker}
    (hmem : worker ∈ shift.workers) :
    worker.job.Sound ∧ worker.job.settings = settings := by
  obtain ⟨-, slot, hslot, -, hjob⟩ := h.workers worker hmem
  rw [hjob]
  exact ⟨Route.Request.job_sound _ (haddr slot hslot), rfl⟩

include haddr hanswers hcalm in
/-- What driving a worker leaves, with less to do than before. -/
theorem Lively.left (h : Lively settings q shift n) {worker : Worker}
    (hmem : worker ∈ shift.workers) :
    ∃ started limit, limit + 3 ≤ worker.tasks ∧
      Left Play.Plain (· = shift.queue) True shift.overflow started limit shift worker
        (shift.advance backends worker) := by
  obtain ⟨hjob, hsettings⟩ := h.crew.job_sound haddr hmem
  have hretries : worker.job.settings.policy.maxRetries + 1 < Word.size32 := hsettings ▸ h.retries
  have hconditions := plain_conditions hanswers hcalm shift.queue
  cases h.active worker hmem with
  | @fresh serial job =>
      exact ⟨_, _, Nat.le_refl _, left_begin hjob hretries hconditions rfl rfl⟩
  | busy hreached hawaits =>
      refine ⟨_, _, ?_, left_advance hjob hretries hconditions rfl rfl rfl hreached hawaits⟩
      rw [Worker.tasks_of_awaits hawaits]

/-- The backends, the calls, the log and the time change nothing about what there is to do. -/
theorem Lively.aside (h : Lively settings q shift n) (haside : Aside shift next) :
    Lively settings q next n := by
  have hcrew := h.crew.aside haside
  obtain ⟨state, calls, log, clockMs, rfl⟩ := haside
  exact ⟨hcrew, h.retries, h.active, h.engaged, h.enough⟩

include hids hnumbered in
/-- A worker that waits with less to do than before leaves less to do. -/
theorem Lively.putWorker (h : Lively settings q shift n) {worker new : Worker}
    (hmem : worker ∈ shift.workers) (hserial : new.serial = worker.serial)
    (hcrew : Crew settings q (shift.putWorker new)) (hactive : new.Active shift.overflow)
    (hfewer : new.tasks < worker.tasks) :
    ∃ fewer < n, Lively settings q (shift.putWorker new) fewer := by
  obtain ⟨before, after, hsplit, hput, -⟩ :=
    workers_split (h.crew.serials hids hnumbered) hmem
  have hworkers : (shift.putWorker new).workers = before ++ new :: after := hput new hserial
  have henough := h.enough
  rw [tasks, hsplit, total_map_middle] at henough
  have htasks : (shift.putWorker new).tasks q =
      Word.total (shift.queue.pendingIds.map (taskTasks q shift.settings)) +
        Word.total ((shift.putWorker new).workers.map Worker.tasks) + 2 * shift.ended.length +
          shift.look := rfl
  rw [hworkers, total_map_middle] at htasks
  refine ⟨_, by omega, hcrew, h.retries, ?_, ?_, Nat.le_refl _⟩
  · intro w hw
    rw [hworkers, List.mem_append, List.mem_cons] at hw
    by_cases hnew : w = new
    · exact hnew ▸ hactive
    · refine h.active w ?_
      rw [hsplit, List.mem_append, List.mem_cons]
      exact hw.imp_right fun hw => .inr (hw.resolve_left hnew)
  · intro _ _
    left
    rw [hworkers]
    exact List.append_ne_nil_of_right_ne_nil _ (List.cons_ne_nil _ _)

include hids hnumbered in
/-- A worker that comes to an end leaves only its run to be settled. -/
theorem Lively.endWorker (h : Lively settings q shift n) {worker : Worker}
    (hmem : worker ∈ shift.workers) (htasks : 2 < worker.tasks) (ending : Ending) :
    ∃ fewer < n, Lively settings q (shift.endWorker worker ending) fewer := by
  obtain ⟨before, after, hsplit, -, hend⟩ :=
    workers_split (h.crew.serials hids hnumbered) hmem
  have hworkers : (shift.endWorker worker ending).workers = before ++ after := hend
  have henough := h.enough
  rw [tasks, hsplit, total_map_middle] at henough
  have hleft : (shift.endWorker worker ending).tasks q =
      Word.total (shift.queue.pendingIds.map (taskTasks q shift.settings)) +
        Word.total ((shift.endWorker worker ending).workers.map Worker.tasks) +
          2 * (shift.ended ++ [(worker.job.request.taskId, ending)]).length + shift.look := rfl
  rw [hworkers, List.length_append, List.length_singleton] at hleft
  refine ⟨_, by omega, h.crew.endWorker hids hnumbered hmem ending, h.retries, ?_, ?_,
    Nat.le_refl _⟩
  · intro w hw
    rw [hworkers, List.mem_append] at hw
    refine h.active w ?_
    rw [hsplit, List.mem_append, List.mem_cons]
    exact hw.imp_right .inr
  · intro _ _
    right
    exact List.append_ne_nil_of_right_ne_nil _ (List.cons_ne_nil _ _)

include hids hnumbered haddr hanswers hcalm in
/-- A worker that goes on leaves less to do. -/
theorem Lively.advance (h : Lively settings q shift n) {worker : Worker}
    (hmem : worker ∈ shift.workers) :
    ∃ fewer < n, Lively settings q (shift.advance backends worker) fewer := by
  have hcrew : Crew settings q (shift.advance backends worker) :=
    h.crew.drifts hids hnumbered hmem (drifts_advance hcalm (h.crew.workers worker hmem).1)
  obtain ⟨started, limit, hlimit, hleft⟩ := h.left haddr hanswers hcalm hmem
  generalize shift.advance backends worker = next at hcrew hleft
  cases hleft with
  | @waiting other run need waiting hkept hqueue hgrown hreached hawaits hfewer =>
      have haside := hkept.aside hqueue
      have hstays : worker ∈ other.workers := haside.workers_eq ▸ hmem
      rw [← hkept.overflow_eq] at hreached
      have hnew : ({ worker with run, waiting } : Worker).tasks = run.waitsLeft worker.job + 3 :=
        Worker.tasks_of_awaits hawaits
      exact (h.aside haside).putWorker hids hnumbered hstays rfl hcrew
        (.busy hreached hawaits) (by omega)
  | @ended other final ending hkept hqueue hgrown hends =>
      have haside := hkept.aside hqueue
      exact (h.aside haside).endWorker hids hnumbered (haside.workers_eq ▸ hmem) (by omega) ending

include hids in
/-- Settling an ended run leaves less to do. -/
theorem Lively.settleOne (h : Lively settings q shift n) {id : String} {ending : Ending}
    {rest : List (String × Ending)} (hended : shift.ended = (id, ending) :: rest) :
    ∃ fewer < n, Lively settings q (shift.settleOne id ending rest) fewer := by
  have hcrew := h.crew.settleOne hended
  have hpending : (shift.settleOne id ending rest).queue.pendingIds = shift.queue.pendingIds :=
    h.crew.pendingIds_congr hids hcrew rfl
  have hlook := (shift.settleOne id ending rest).look_le_one
  have htasks : (shift.settleOne id ending rest).tasks q =
      Word.total ((shift.settleOne id ending rest).queue.pendingIds.map
          (taskTasks q shift.settings)) +
        Word.total (shift.workers.map Worker.tasks) + 2 * rest.length +
          (shift.settleOne id ending rest).look := rfl
  have henough := h.enough
  rw [hpending] at htasks
  rw [tasks, hended, List.length_cons] at henough
  exact ⟨_, by omega, hcrew, h.retries, h.active, nofun, Nat.le_refl _⟩

include hids in
/-- A claimed task leaves as much to do as it did while it was pending. -/
theorem Crew.claimOne_tasks (h : Crew settings q shift) (hunfinished : shift.finishedMs = none)
    {queue : Queue} {slot : Slot} (hclaim : shift.queue.claim = some (queue, slot))
    {worker : Worker}
    (hworker : worker = { serial := slot.serial, job := slot.task.request.job shift.settings }) :
    Word.total ((queue.setPlan slot.task.id worker.job.plan).pendingIds.map
          (taskTasks q shift.settings)) +
        Word.total ((shift.workers ++ [worker]).map Worker.tasks) =
      Word.total (shift.queue.pendingIds.map (taskTasks q shift.settings)) +
        Word.total (shift.workers.map Worker.tasks) := by
  subst hworker
  obtain ⟨s, hs, -, hrequest⟩ := h.claim_source hids hclaim
  have hafter := (h.claimOne hids hunfinished hclaim shift.permits shift.events).pendingIds_eq hids
  have hbefore := h.pendingIds_eq hids
  obtain ⟨old, -, rfl, -, hpending⟩ := claim_replaces hclaim
  -- The task is the first of the pending ones and is missing from them afterwards.
  have hrest : (queue.setPlan old.claimed.task.id
      (old.claimed.task.request.job shift.settings).plan).pendingIds = queue.pendingIds := by
    rw [hpending] at hbefore
    have hdrop : q.pendingIds.drop (shift.claimed ++ [old.task.id]).length =
        (q.pendingIds.drop shift.claimed.length).drop 1 := by
      rw [List.drop_drop, List.length_append, List.length_singleton]
    rw [← hbefore] at hdrop
    exact hafter.trans hdrop
  have hid : s.task.id = old.task.id := (congrArg Route.Request.taskId hrequest).symm
  have htask : taskTasks q shift.settings old.task.id =
      jobTasks (old.claimed.task.request.job shift.settings) := by
    rw [taskTasks, ← hid, slot?_eq_some_of_mem hids hs, hrequest]
  rw [hrest, hpending, List.map_cons, Word.total_cons, htask, total_map_middle, List.append_nil]
  simp only [Worker.tasks]
  omega

include hids in
/-- Claiming changes nothing about what there is to do. -/
theorem Crew.claimTasks_tasks (h : Crew settings q shift) (hunfinished : shift.finishedMs = none)
    (hactive : ∀ worker ∈ shift.workers, worker.Active shift.overflow) (permits : Nat) :
    (∀ worker ∈ (Shift.claimTasks permits shift).workers,
        worker.Active (Shift.claimTasks permits shift).overflow) ∧
      Word.total ((Shift.claimTasks permits shift).queue.pendingIds.map
            (taskTasks q shift.settings)) +
          Word.total ((Shift.claimTasks permits shift).workers.map Worker.tasks) =
        Word.total (shift.queue.pendingIds.map (taskTasks q shift.settings)) +
          Word.total (shift.workers.map Worker.tasks) := by
  induction permits generalizing shift with
  | zero => exact ⟨hactive, rfl⟩
  | succ permits ih =>
      cases hclaim : shift.queue.claim with
      | none =>
          simp only [Shift.claimTasks, hclaim]
          exact ⟨hactive, trivial⟩
      | some found =>
          obtain ⟨queue, slot⟩ := found
          simp only [Shift.claimTasks, hclaim]
          have hactive' : ∀ worker ∈ shift.workers ++
              [{ serial := slot.serial, job := slot.task.request.job shift.settings }],
              worker.Active shift.overflow := by
            intro worker hworker
            rcases List.mem_append.mp hworker with hworker | hworker
            · exact hactive worker hworker
            · exact List.mem_singleton.mp hworker ▸ .fresh
          obtain ⟨hworkers, htotal⟩ :=
            ih (h.claimOne hids hunfinished hclaim permits _) hunfinished hactive'
          exact ⟨hworkers, htotal.trans (h.claimOne_tasks hids hunfinished hclaim rfl)⟩

include hids in
/-- Looking at the queue leaves less to do. -/
theorem Lively.lookAtQueue (h : Lively settings q shift n) (hawake : shift.awake = true)
    (hunfinished : shift.finishedMs = none) (hended : shift.ended = []) :
    ∃ fewer < n, Lively settings q shift.lookAtQueue fewer := by
  have hcrew := h.crew.lookAtQueue hids hunfinished hended
  obtain ⟨hactive, htotal⟩ := h.crew.claimTasks_tasks hids hunfinished h.active shift.permits
  obtain ⟨hclaimed, hended', -⟩ := h.crew.claimTasks hids hunfinished shift.permits
  have hsettings : (Shift.claimTasks shift.permits shift).settings = shift.settings :=
    hclaimed.settings_eq.trans h.crew.settings_eq.symm
  have hlook : shift.look = 1 := by
    simp [look, hawake, hunfinished]
  have henough := h.enough
  rw [tasks, hended, hlook, List.length_nil] at henough
  have htasks : shift.lookAtQueue.tasks q =
      Word.total ((Shift.claimTasks shift.permits shift).queue.pendingIds.map
          (taskTasks q (Shift.claimTasks shift.permits shift).settings)) +
        Word.total ((Shift.claimTasks shift.permits shift).workers.map Worker.tasks) +
          2 * (Shift.claimTasks shift.permits shift).ended.length + 0 := rfl
  rw [hsettings, hended', hended, List.length_nil] at htasks
  refine ⟨_, by omega, hcrew, h.retries, hactive, ?_, Nat.le_refl _⟩
  intro _ hopen
  left
  intro hworkers
  have hworkers : (Shift.claimTasks shift.permits shift).workers = [] := hworkers
  unfold Shift.lookAtQueue at hopen
  simp [hworkers] at hopen

include hids hnumbered haddr hanswers hcalm in
/-- What is done at a moment leaves less to do. -/
theorem Lively.work (h : Lively settings q shift n) (hwork : Works backends shift next) :
    ∃ fewer < n, Lively settings q next fewer := by
  cases hwork with
  | advance mem => exact h.advance hids hnumbered haddr hanswers hcalm mem
  | settle ended => exact h.settleOne hids ended
  | look ended awake unfinished => exact h.lookAtQueue hids awake unfinished ended

/-- Where nothing can be done and the clock stands still, the shift is over. -/
theorem Lively.finished_of_still (h : Lively settings q shift n)
    (hstirs : shift.stirs backends = false)
    (hnext : shift.nextMs? = none) : shift.finishedMs.isSome = true := by
  have hworkers : shift.workers = [] := by
    rw [List.eq_nil_iff_forall_not_mem]
    intro worker hmem
    cases h.active worker hmem with
    | fresh =>
        have hready : shift.stirs backends := stirs_of_ready hmem rfl
        rw [hstirs] at hready
        cases hready
    | busy hreached hawaits =>
        have hdue : worker.due?.isSome := by
          rcases hawaits.due with ⟨ms, play, hwaiting⟩ | ⟨ms, hwaiting⟩ <;>
            simp [Worker.due?, hwaiting]
        obtain ⟨ms, hms⟩ := Option.isSome_iff_exists.mp hdue
        rw [nextMs?, List.min?_eq_none_iff, List.append_eq_nil_iff] at hnext
        exact List.ne_nil_of_mem (List.mem_filterMap.mpr ⟨worker, hmem, hms⟩) hnext.1
  cases hfinished : shift.finishedMs with
  | some ms => rfl
  | none =>
      simp only [stirs, work?, hworkers, List.find?_nil, Bool.or_eq_false_iff] at hstirs
      cases hended : shift.ended with
      | cons entry rest => simp [hended] at hstirs
      | nil =>
          cases hawake : shift.awake with
          | true => simp [hended, hawake, hfinished] at hstirs
          | false =>
              rcases h.engaged hawake hfinished with hne | hne
              · exact absurd hworkers hne
              · exact absurd hended hne

include hids hnumbered haddr hanswers hcalm in
/-- A shift with enough steps comes to its end. -/
theorem run_lively {fuel : Nat} (h : Lively settings q shift n)
    (hfuel : 2 * n + (if shift.stirs backends then 0 else 1) ≤ fuel) :
    (run backends fuel shift).finishedMs.isSome = true := by
  refine run_of_tasks (Lively settings q) ?_ ?_ Lively.finished_of_still h hfuel
  · intro shift n next hlively hdone
    rcases hdone with hwork | hoperate
    · exact hlively.work hids hnumbered haddr hanswers hcalm (works_of_work? hwork)
    · rw [hlively.crew.operate?_eq_none] at hoperate
      cases hoperate
  · intro shift n ms hlively
    exact hlively.aside ⟨_, _, _, ms, rfl⟩

/-- What there is to do for the pending tasks is within the bound for all tasks. -/
theorem total_pending_le (hids : q.ids.Nodup) (settings : Settings) :
    2 * Word.total (q.pendingIds.map (taskTasks q settings)) ≤
      Word.total (q.slots.map fun slot =>
        3 * stepBound (slot.task.request.job settings) + 6) := by
  have hweights : ∀ slots : List Slot, (∀ slot ∈ slots, slot ∈ q.slots) →
      2 * Word.total (((slots.filter (·.task.status = .pending)).map (·.task.id)).map
          (taskTasks q settings)) ≤
        Word.total (slots.map fun slot =>
          3 * stepBound (slot.task.request.job settings) + 6) := by
    intro slots hslots
    induction slots with
    | nil => simp
    | cons slot slots ih =>
        rw [List.forall_mem_cons] at hslots
        have htasks : taskTasks q settings slot.task.id =
            jobTasks (slot.task.request.job settings) := by
          rw [taskTasks, slot?_eq_some_of_mem hids hslots.1]
        have hbound := totalCalls_le_stepBound (slot.task.request.job settings)
        have hrest := ih hslots.2
        rw [List.map_cons, Word.total_cons, List.filter_cons]
        split
        · rw [List.map_cons, List.map_cons, Word.total_cons, htasks, jobTasks]
          omega
        · omega
  exact hweights q.slots fun _ hslot => hslot

include hanswers hcalm in
/-- A shift that works off a queue comes to its end. -/
theorem finish_lively (hshift : Unbegun shift) (hids : shift.queue.ids.Nodup)
    (hnumbered : shift.queue.Numbered)
    (haddr : ∀ slot ∈ shift.queue.slots, slot.task.request.Addressable)
    (hretries : shift.settings.policy.maxRetries + 1 < Word.size32) :
    (shift.finish backends).finishedMs.isSome = true := by
  have hlively : Lively shift.settings shift.queue shift (shift.tasks shift.queue) := by
    refine ⟨hshift.crew, hretries, ?_, ?_, Nat.le_refl _⟩
    · intro worker hworker
      rw [hshift.workers] at hworker
      exact absurd hworker List.not_mem_nil
    · intro hasleep
      rw [hshift.awake] at hasleep
      cases hasleep
  have hpending := total_pending_le hids shift.settings
  have hlook := shift.look_le_one
  have htasks : shift.tasks shift.queue =
      Word.total (shift.queue.pendingIds.map (taskTasks shift.queue shift.settings)) +
        shift.look := by
    simp [tasks, hshift.workers, hshift.ended]
  have hbound : shift.bound =
      Word.total (shift.queue.slots.map fun slot =>
        3 * stepBound (slot.task.request.job shift.settings) + 6) + 3 := by
    simp [bound, hshift.workers, hshift.incoming, Queue.list, Function.comp_def]
  refine run_lively hids hnumbered haddr hanswers hcalm hlively ?_
  split <;> omega

end Lively

end Shift

end Switchboard.Queue
