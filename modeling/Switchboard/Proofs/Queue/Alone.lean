import Switchboard.Proofs.Queue.Clock
import Switchboard.Proofs.Queue.Drive
import Switchboard.Proofs.Queue.Slots
import Switchboard.Proofs.Route.Grammar

/-!
# A job on its own

A shift that has one worker and no pending task runs that worker to the end of its run, whatever
comes in meanwhile, as long as no task is added. Each step of the shift lets the worker go on,
settles its task, looks at the queue or carries out an operation, or else lets the clock move to
the moment at which one of these can happen. `Alone` counts what there is to do, and every step but
those of the clock leaves less of it.

So the run that the shift makes is a journey, and the log has grown by the records of this journey.
It is cancelled only if it was told to stop at the start, or if an operation or a backend names it.
Where sums are checked, the journey may break off, and the records are those up to there.

## Main results

* `Shift.run_alone` — a shift with enough steps comes to the end.
* `ofJob_journey`, `workAlone_journey` — the ending and the log of a job on its own are those of a
  journey, with sums checked or not.
* `records_follow_grammar` — what the records of a run that was not cancelled look like.
-/

namespace Switchboard.Queue

open Switchboard.Route (Job Run Step Need Signal Attempt Ending Reached)

variable {σ : Type} {id : String} {told : Prop} {overflow : Route.Overflow}

/-- The slot is that of the task with this id, which is not pending and was told to stop only if
`told`. -/
def Slot.Quiet (id : String) (told : Prop) (slot : Slot) : Prop :=
  slot.task.id = id ∧ slot.task.status ≠ .pending ∧ (slot.stopped = true → told)

/-- The queue holds nothing but the task with this id. -/
def Holds (id : String) (told : Prop) (q : Queue) : Prop :=
  ∀ slot ∈ q.slots, slot.Quiet id told

/-- The backends may cancel the task with this id. -/
def Cancelling (id : String) (backends : Backends σ) : Prop :=
  ∃ state now request, (backends state now request).2.cancels = some id

/-- The backend answers a call, and cancels the task with this id only if `told`. -/
def Play.Answers (id : String) (told : Prop) (play : Play) : Prop :=
  (∃ answer, play.deed = .answer answer) ∧ (play.cancels = some id → told)

/-! ## The queue holds one task -/

section Holds

variable {q : Queue}

theorem Holds.change {name : String} {change : Slot → Slot} (h : q.Holds id told)
    (hchange : ∀ slot, slot.task.id = name → slot.Quiet id told → (change slot).Quiet id told) :
    (q.change name change).Holds id told := by
  cases hfound : q.slot? name with
  | none =>
      rw [change_of_slot?_eq_none hfound]
      exact h
  | some found =>
      intro slot hslot
      rcases (change_replaces hfound change).mem_cases hslot with rfl | hslot
      · exact hchange found (slot?_id hfound) (h found (slot?_mem hfound))
      · exact h slot hslot

/-- A cancellation tells the task to stop only if it names it. -/
theorem Holds.cancel (h : q.Holds id told) {name : String} (hname : name = id → told) :
    (q.cancel name).1.Holds id told := by
  refine h.change fun slot hslot hquiet => ?_
  obtain ⟨hid, hstatus, hstopped⟩ := hquiet
  have htold : told := hname (hslot.symm.trans hid)
  unfold Slot.cancel
  split
  next hpending => exact absurd hpending hstatus
  next => exact ⟨hid, hstatus, fun _ => htold⟩
  next => exact ⟨hid, hstatus, hstopped⟩

theorem Holds.settle (h : q.Holds id told) (name : String) (ending : Ending) :
    (q.settle name ending).Holds id told :=
  h.change fun _ _ hquiet => ⟨hquiet.1, endingStatus_ne_pending ending, hquiet.2.2⟩

theorem Holds.purge (h : q.Holds id told) (status : Option Status) :
    (q.purge status).1.Holds id told :=
  fun slot hslot => h slot (List.mem_filter.mp hslot).1

theorem Holds.claim (h : q.Holds id told) : q.claim = none := by
  rw [claim_eq_none_iff, pendingIds, List.map_eq_nil_iff, List.filter_eq_nil_iff]
  intro slot hslot
  simpa using (h slot hslot).2.1

end Holds

/-- Backends that answer every call are driven on while the queue holds one task. -/
theorem Holds.conditions {backends : Backends σ} (hanswers : Answering backends)
    (hcancels : Cancelling id backends → told) :
    Conditions backends (Play.Answers id told) (Holds id told) told where
  played := fun _ _ _ => ⟨hanswers _ _ _, fun hcancel => hcancels ⟨_, _, _, hcancel⟩⟩
  answers := fun hplay => hplay.1
  keeps := fun hplay hcancel hholds => hholds.cancel fun hname => hplay.2 (hname ▸ hcancel)
  stopped := by
    intro q serial hholds hstopped
    obtain ⟨slot, hslot, hstopped⟩ := Option.any_eq_true _ _ |>.mp hstopped
    exact (hholds slot (List.mem_of_find?_eq_some hslot)).2.2 hstopped

/-- Whether an operation puts a task into the queue. -/
def Operation.addsTask : Operation → Bool
  | .enqueue _ => true
  | _ => false

/-- An operation that adds no task leaves the queue with the one it holds, which is told to stop
only if the operation names it. -/
theorem Holds.operation {q : Queue} (h : q.Holds id told) (records : List Attempt)
    {operation : Operation} (hadds : operation.addsTask = false)
    (hcancels : operation = .cancel id → told) : (operation.run q records).1.Holds id told := by
  cases operation with
  | enqueue task => cases hadds
  | list status => exact h
  | get name => exact h
  | cancel name => exact h.cancel fun hname => hcancels (hname ▸ rfl)
  | purge status =>
      simp only [Operation.run]
      split
      · exact h
      · exact h.purge _
  | log name => exact h

namespace Shift

/-! ## What there is to do -/

/-- How far the one run of a shift has come, with a bound on what its worker and the one who
settles its task have to do. -/
inductive Phase (id : String) (told : Prop) (overflow : Route.Overflow) (job : Job)
    (log : List Attempt) (shift : Shift σ) : Nat → Prop where
  | fresh {serial : Nat} (hworkers : shift.workers = [{ serial, job }])
      (hended : shift.ended = []) (hendings : shift.endings = []) (hlog : shift.log = log) :
      Phase id told overflow job log shift (2 * job.totalCalls + 4)
  | busy {worker : Worker} {need : Need} {started : Timestamp}
      (hworkers : shift.workers = [worker]) (hjob : worker.job = job)
      (hended : shift.ended = []) (hendings : shift.endings = [])
      (hlog : shift.log = log ++ worker.run.attempts)
      (hreached : Reached overflow job started told (.wait worker.run need))
      (hawaits : worker.waiting.Awaits (Play.Answers id told) need) :
      Phase id told overflow job log shift (worker.run.waitsLeft job + 3)
  | finished {started : Timestamp} {final : Run} {ending : Ending} (hworkers : shift.workers = [])
      (hendings : shift.endings = [(job.request.taskId, ending)])
      (hlog : shift.log = log ++ final.attempts)
      (hends : Ends overflow job started told final ending) :
      Phase id told overflow job log shift (2 * shift.ended.length)

/-- The shift has one run and `tasks` things to do at most, besides moving its clock. -/
structure Alone (id : String) (told : Prop) (overflow : Route.Overflow) (job : Job)
    (log : List Attempt) (shift : Shift σ) (tasks : Nat) : Prop where
  overflow_eq : shift.overflow = overflow
  holds : shift.queue.Holds id told
  adds : ∀ entry ∈ shift.incoming, entry.2.addsTask = false
  cancels : ∀ entry ∈ shift.incoming, entry.2 = .cancel id → told
  phase : ∃ n, Phase id told overflow job log shift n ∧
    n + shift.look + shift.incoming.length ≤ tasks

/-- The run of the shift has ended. -/
def Over (told : Prop) (overflow : Route.Overflow) (job : Job) (log : List Attempt)
    (shift : Shift σ) : Prop :=
  ∃ started final ending, Ends overflow job started told final ending ∧
    shift.endings = [(job.request.taskId, ending)] ∧ shift.log = log ++ final.attempts

section Alone

variable {job : Job} {log : List Attempt} {shift other : Shift σ}

/-- The phase depends on the worker, the endings and the log only. -/
theorem Phase.congr {n : Nat} (h : Phase id told overflow job log shift n)
    (hworkers : other.workers = shift.workers) (hended : other.ended = shift.ended)
    (hendings : other.endings = shift.endings) (hlog : other.log = shift.log) :
    Phase id told overflow job log other n := by
  cases h with
  | fresh hw he hes hl =>
      exact .fresh (hworkers.trans hw) (hended.trans he) (hendings.trans hes) (hlog.trans hl)
  | busy hw hj he hes hl hr ha =>
      exact .busy (hworkers.trans hw) hj (hended.trans he) (hendings.trans hes) (hlog.trans hl)
        hr ha
  | finished hw hes hl hr =>
      rw [← hended]
      exact .finished (hworkers.trans hw) (hendings.trans hes) (hlog.trans hl) hr

/-- What a worker that was driven leaves is a phase again, with less to do. -/
theorem Left.phase {started : Timestamp} {limit : Nat} {worker : Worker} {result : Shift σ}
    (h : Left (Play.Answers id told) (Holds id told) told overflow started limit shift worker
      result)
    (hoverflow : shift.overflow = overflow) (hjob : worker.job = job)
    (hworkers : shift.workers = [worker]) (hended : shift.ended = [])
    (hendings : shift.endings = []) (hlog : shift.log = log ++ worker.run.attempts) :
    (∃ n < limit + 3, Phase id told overflow job log result n) ∧ result.queue.Holds id told ∧
      result.incoming = shift.incoming ∧ result.look = shift.look ∧
      result.overflow = overflow := by
  subst hjob hoverflow
  have hgrows : ∀ {longer run}, Grown shift.log worker.run longer run →
      longer = log ++ run.attempts := by
    rintro longer run ⟨new, hlonger, hrun⟩
    rw [hlonger, hlog, hrun, List.append_assoc]
  cases h with
  | @waiting kin run need waiting hkept hholds hgrown hreached hawaits hlimit =>
      have hlog := hgrows hgrown
      obtain ⟨queue, state, calls, now, rfl⟩ := hkept
      have hnow : ({ shift with queue, backends := state, calls, log := now }.putWorker
          { worker with run, waiting }).workers = [{ worker with run, waiting }] := by
        simp [putWorker, hworkers]
      exact ⟨⟨_, Nat.add_lt_add_right hlimit 3,
        .busy hnow rfl hended hendings hlog hreached hawaits⟩, hholds, rfl, rfl, rfl⟩
  | @ended kin final ending hkept hholds hgrown hends =>
      have hlog := hgrows hgrown
      obtain ⟨queue, state, calls, now, rfl⟩ := hkept
      have hnow : ({ shift with queue, backends := state, calls, log := now }.endWorker
          worker ending).workers = [] := by
        simp [endWorker, hworkers]
      refine ⟨⟨_, ?_, .finished hnow ?_ hlog hends⟩, hholds, rfl, rfl, rfl⟩
      · simp [endWorker, hended]
      · simp [endWorker, hendings]

/-! ## The steps of the shift -/

theorem claimTasks_of_holds (hholds : shift.queue.Holds id told) (permits : Nat) :
    claimTasks permits shift = shift := by
  cases permits with
  | zero => rfl
  | succ permits => simp only [claimTasks, hholds.claim]

/-- Carrying out an operation leaves less to do. -/
theorem Alone.operate {tasks : Nat} (h : Alone id told overflow job log shift tasks)
    (hoperate : shift.operate? = some other) :
    ∃ fewer < tasks, Alone id told overflow job log other fewer := by
  obtain ⟨hoverflow, hholds, hadds, hnames, n, hphase, htasks⟩ := h
  unfold operate? at hoperate
  split at hoperate
  next atMs operation rest hincoming =>
    rw [hincoming] at hadds hnames htasks
    rw [List.length_cons] at htasks
    split at hoperate
    · cases hoperate
      refine ⟨n + shift.look + rest.length, by omega, hoverflow, ?_, ?_, ?_, n, ?_, Nat.le_refl _⟩
      · exact hholds.operation shift.log (hadds (atMs, operation) List.mem_cons_self)
          (hnames (atMs, operation) List.mem_cons_self)
      · exact fun entry hentry => hadds entry (List.mem_cons_of_mem _ hentry)
      · exact fun entry hentry => hnames entry (List.mem_cons_of_mem _ hentry)
      · exact hphase.congr rfl rfl rfl rfl
    · cases hoperate
  next => cases hoperate

/-- Looking at the queue leaves less to do. -/
private theorem Alone.lookAtQueue {tasks : Nat} (h : Alone id told overflow job log shift tasks)
    (hlook : shift.awake && shift.finishedMs.isNone) :
    ∃ fewer < tasks, Alone id told overflow job log shift.lookAtQueue fewer := by
  obtain ⟨hoverflow, hholds, hadds, hnames, n, hphase, htasks⟩ := h
  have hone : shift.look = 1 := by simp only [look, hlook, if_true]
  unfold Shift.lookAtQueue
  rw [claimTasks_of_holds hholds]
  refine ⟨n + shift.incoming.length, by omega, hoverflow, hholds, hadds, hnames, n,
    hphase.congr rfl rfl rfl rfl, ?_⟩
  simp [look]

/-- Settling a task leaves less to do. -/
private theorem Alone.settleOne {tasks : Nat} (h : Alone id told overflow job log shift tasks)
    {name : String} {ending : Ending} {rest : List (String × Ending)}
    (hended : shift.ended = (name, ending) :: rest) :
    ∃ fewer < tasks, Alone id told overflow job log (shift.settleOne name ending rest) fewer := by
  obtain ⟨hoverflow, hholds, hadds, hnames, n, hphase, htasks⟩ := h
  cases hphase with
  | fresh hworkers hnone =>
      rw [hended] at hnone
      cases hnone
  | busy hworkers hjob hnone =>
      rw [hended] at hnone
      cases hnone
  | finished hworkers hendings hlog hends =>
      rw [hended, List.length_cons] at htasks
      have hlook := (shift.settleOne name ending rest).look_le_one
      have hphase : Phase id told overflow job log (shift.settleOne name ending rest)
          (2 * rest.length) := .finished hworkers hendings hlog hends
      exact ⟨2 * rest.length + (shift.settleOne name ending rest).look + shift.incoming.length,
        by omega, hoverflow, hholds.settle name ending, hadds, hnames, _, hphase, Nat.le_refl _⟩

section Steps

variable {backends : Backends σ} (hjob : job.Sound)
  (hretries : job.settings.policy.maxRetries + 1 < Word.size32) (hanswers : Answering backends)
  (hcancels : Cancelling id backends → told)
include hjob hretries hanswers hcancels

/-- A worker that goes on leaves less to do. -/
private theorem Alone.advance {tasks : Nat} (h : Alone id told overflow job log shift tasks)
    {worker : Worker} (hmem : worker ∈ shift.workers) :
    ∃ fewer < tasks, Alone id told overflow job log (shift.advance backends worker) fewer := by
  obtain ⟨hoverflow, hholds, hadds, hnames, n, hphase, htasks⟩ := h
  have hless : (∃ m < n, Phase id told overflow job log (shift.advance backends worker) m) ∧
      (shift.advance backends worker).queue.Holds id told ∧
      (shift.advance backends worker).incoming = shift.incoming ∧
      (shift.advance backends worker).look = shift.look ∧
      (shift.advance backends worker).overflow = overflow := by
    cases hphase with
    | fresh hworkers hended hendings hlog =>
        rw [hworkers, List.mem_singleton] at hmem
        subst hmem hlog
        exact (left_begin hjob hretries (Holds.conditions hanswers hcancels) hoverflow hholds).phase
          hoverflow rfl hworkers hended hendings (List.append_nil _).symm
    | busy hworkers hworker hended hendings hlog hreached hawaits =>
        rw [hworkers, List.mem_singleton] at hmem
        subst hmem
        have hleft := left_advance hjob hretries (Holds.conditions hanswers hcancels) hoverflow
          hworker hholds hreached hawaits
        exact hleft.phase hoverflow hworker hworkers hended hendings hlog
    | finished hworkers =>
        rw [hworkers] at hmem
        exact absurd hmem List.not_mem_nil
  obtain ⟨⟨m, hm, hphase'⟩, hholds', hincoming, hlook, hoverflow'⟩ := hless
  refine ⟨m + shift.look + shift.incoming.length, by omega, hoverflow', hholds', ?_, ?_, m, hphase',
    ?_⟩
  · rw [hincoming]
    exact hadds
  · rw [hincoming]
    exact hnames
  · rw [hincoming, hlook]

/-- Whatever is done at a moment leaves less to do. -/
theorem Alone.work {tasks : Nat} (h : Alone id told overflow job log shift tasks)
    (hwork : Works backends shift other) :
    ∃ fewer < tasks, Alone id told overflow job log other fewer := by
  cases hwork with
  | advance mem => exact h.advance hjob hretries hanswers hcancels mem
  | settle ended => exact h.settleOne ended
  | look ended awake unfinished => exact h.lookAtQueue (by rw [awake, unfinished]; rfl)

end Steps

/-! ## The end of the run -/

/-- Where nothing can be done and the clock stands still, the run has ended. -/
theorem Alone.over_of_still {backends : Backends σ} {tasks : Nat}
    (h : Alone id told overflow job log shift tasks) (hstirs : shift.stirs backends = false)
    (hnext : shift.nextMs? = none) : Over told overflow job log shift := by
  obtain ⟨-, -, -, -, n, hphase, -⟩ := h
  cases hphase with
  | fresh hworkers =>
      have hready : shift.stirs backends :=
        stirs_of_ready (hworkers ▸ List.mem_singleton_self _) rfl
      rw [hstirs] at hready
      cases hready
  | busy hworkers hjob hended hendings hlog hreached hawaits =>
      simp only [nextMs?, hworkers, List.min?_eq_none_iff] at hnext
      rcases hawaits.due with ⟨ms, play, hwaiting⟩ | ⟨ms, hwaiting⟩ <;>
        simp [Worker.due?, hwaiting] at hnext
  | finished hworkers hendings hlog hends => exact ⟨_, _, _, hends, hendings, hlog⟩

section Run

variable {backends : Backends σ} (hjob : job.Sound)
  (hretries : job.settings.policy.maxRetries + 1 < Word.size32) (hanswers : Answering backends)
  (hcancels : Cancelling id backends → told)
include hjob hretries hanswers hcancels

/-- A shift with enough steps comes to the end of its run. -/
theorem run_alone {fuel tasks : Nat} (h : Alone id told overflow job log shift tasks)
    (hfuel : 2 * tasks + (if shift.stirs backends then 0 else 1) ≤ fuel) :
    Over told overflow job log (run backends fuel shift) := by
  refine run_of_tasks (Alone id told overflow job log) ?_ ?_ Alone.over_of_still h hfuel
  · intro shift tasks next halone hdone
    rcases hdone with hwork | hoperate
    · exact halone.work hjob hretries hanswers hcancels (works_of_work? hwork)
    · exact halone.operate hoperate
  · intro shift tasks ms halone
    obtain ⟨hoverflow, hholds, hadds, hnames, n, hphase, htasks⟩ := halone
    exact ⟨hoverflow, hholds, hadds, hnames, n, hphase.congr rfl rfl rfl rfl, htasks⟩

/-- A shift whose one worker has not begun comes to the end of its run. -/
theorem finish_alone {serial : Nat} (hoverflow : shift.overflow = overflow)
    (hworkers : shift.workers = [{ serial, job }])
    (hended : shift.ended = []) (hendings : shift.endings = []) (hholds : shift.queue.Holds id told)
    (hadds : ∀ entry ∈ shift.incoming, entry.2.addsTask = false)
    (hnames : ∀ entry ∈ shift.incoming, entry.2 = .cancel id → told) :
    Over told overflow job shift.log (shift.finish backends) := by
  have hlook := shift.look_le_one
  have halone : Alone id told overflow job shift.log shift
      (2 * job.totalCalls + 5 + shift.incoming.length) :=
    ⟨hoverflow, hholds, hadds, hnames, _, .fresh hworkers hended hendings rfl, by omega⟩
  have hsteps := totalCalls_le_stepBound job
  have hbound : 3 * stepBound job + 6 + 3 * shift.incoming.length + 3 ≤ shift.bound := by
    simp only [bound, hworkers, List.map_append, List.map_cons, List.map_nil,
      List.cons_append, Word.total_cons]
    omega
  refine run_alone hjob hretries hanswers hcancels halone ?_
  split <;> omega

end Run

end Alone

end Shift

/-! ## The records of a job on its own -/

/-- Somebody may cancel a job: it was told to stop before it began, or an operation or a backend
names its task. -/
def MayBeCancelled (id : String) (backends : Backends σ) (stopped : Bool)
    (incoming : List (Nat × Operation)) : Prop :=
  stopped = true ∨ (∃ entry ∈ incoming, entry.2 = .cancel id) ∨ Cancelling id backends

/-- A job on its own ends, with sums checked or not, and leaves the records of its run. -/
theorem ofJob_ends {job : Job} (hjob : job.Sound)
    (hretries : job.settings.policy.maxRetries + 1 < Word.size32) {backends : Backends σ}
    (hanswers : Answering backends) (overflow : Route.Overflow)
    (writeDown : Attempt → σ → Except String σ) (state : σ) (start : Timestamp)
    (log : List Attempt) (stopped : Bool) {incoming : List (Nat × Operation)}
    (hincoming : ∀ entry ∈ incoming, entry.2.addsTask = false) :
    let shift : Shift σ :=
      { Shift.ofJob writeDown state job start log stopped incoming with overflow }
    ∃ started final ending,
      Shift.Ends overflow job started
        (MayBeCancelled job.request.taskId backends stopped incoming) final ending ∧
      (shift.finish backends).endings = [(job.request.taskId, ending)] ∧
      (shift.finish backends).log = log ++ final.attempts := by
  intro shift
  have hholds : shift.queue.Holds job.request.taskId
      (MayBeCancelled job.request.taskId backends stopped incoming) := by
    intro slot hslot
    rw [List.mem_singleton.mp hslot]
    exact ⟨rfl, Status.noConfusion, .inl⟩
  have hworkers : shift.workers = [{ serial := 0, job }] := rfl
  exact Shift.finish_alone hjob hretries hanswers (fun h => .inr (.inr h)) rfl hworkers rfl rfl
    hholds hincoming (fun entry hentry hcancel => .inr (.inl ⟨entry, hentry, hcancel⟩))

/-- Where sums are checked, the journey of a job on its own may break off. Then the task is aborted,
and the log has the records up to there. -/
theorem workAlone_journey {job : Job} (hjob : job.Sound)
    (hretries : job.settings.policy.maxRetries + 1 < Word.size32) {backends : Backends σ}
    (hanswers : Answering backends) (state : σ) (start : Timestamp) (stopped : Bool)
    {incoming : List (Nat × Operation)}
    (hincoming : ∀ entry ∈ incoming, entry.2.addsTask = false) :
    let shift := workAlone backends state job start stopped incoming
    ∃ started moments final ending,
      (∀ m ∈ moments, m.Cancels →
        MayBeCancelled job.request.taskId backends stopped incoming) ∧
      shift.endings = [(job.request.taskId, ending)] ∧ shift.log = final.attempts ∧
      ((Run.start job started).followIn .aborts job moments = .ok (.stop final ending) ∨
        (Run.start job started).followIn .aborts job moments = .error Run.overflowMessage ∧
          (∃ answer, final.overflows job answer = true) ∧
          ∃ serial, ending = Shift.crashed { serial, job } Run.overflowMessage) := by
  obtain ⟨started, final, ending, hends, hendings, hlog⟩ :=
    ofJob_ends hjob hretries hanswers .aborts (fun _ state => .ok state) state start [] stopped
      hincoming
  cases hends with
  | stopped hreached =>
      obtain ⟨moments, htold, hfollow⟩ := hreached
      exact ⟨started, moments, final, ending, htold, hendings, hlog, .inl hfollow⟩
  | @crashed serial request answer _ hreached hoverflows =>
      have hresume : final.resumeIn .aborts job start (.answered answer) =
          .error Run.overflowMessage := by
        simp only [Run.resumeIn, hoverflows, if_true]
      have hends : (Need.reply request).Ends
          (MayBeCancelled job.request.taskId backends stopped incoming) (.answered answer) :=
        trivial
      obtain ⟨moments, htold, hbreak⟩ := Route.reached_break hreached hends hresume
      exact ⟨started, moments, final, _, htold, hendings, hlog,
        .inr ⟨hbreak, ⟨answer, hoverflows⟩, serial, rfl⟩⟩

end Switchboard.Queue
