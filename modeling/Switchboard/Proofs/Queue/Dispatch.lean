import Switchboard.Proofs.Queue.Interleaving
import Switchboard.Queue.Shift

/-!
# Handing out the tasks of a queue

One hand gives out the pending tasks, with a bounded number of permits. It waits for a permit,
claims the oldest pending task, notes its plan and hands it to a worker, who holds the permit until
the run has ended and settles the task after that. When nothing is pending, the hand waits for a
worker to be done and looks again; when all workers are done, it is over. `Dispatch.Step` is one
step of the hand or of a worker, and the steps may come in any order that the permits allow.

Every order comes to the same end. The dispatch is a run of workers on a floor, so the queue is
known slot by slot; it cannot stop before it is over, since whoever waits waits for a worker who can
go on; and each step leaves less to do.

## Main results

* `Dispatch.sound_of_run` — permits are never lost, and the queue is that of workers on a floor.
* `Dispatch.Sound.exists_step` — a dispatch that is not over can go on.
* `Dispatch.Sound.effort_lt` — every step leaves less to do.
* `Floor.Staged.worked` — the queue when nothing is left to do.
-/

namespace Switchboard.Queue

open Switchboard.Route (Request Ending Settings)

/-! ## Work that is done -/

/-- A slot after the work on it: a pending task has its plan, and what the end of its run gives. -/
def Slot.worked (settings : Settings) (outcome : Request → Ending) (slot : Slot) : Slot :=
  if slot.task.status = .pending then
    let ending := outcome slot.task.request
    { slot with
      task := { slot.task with
        status := endingStatus ending
        plan := some (slot.task.request.job settings).plan
        result := ending.toOption
        error := endingError ending } }
  else slot

section Worked

variable {settings : Settings} {outcome : Request → Ending} {slot : Slot}

theorem Slot.worked_of_pending (h : slot.task.status = .pending) :
    slot.worked settings outcome =
      slot.atStage settings (.settled (outcome slot.task.request)) := by
  rw [worked, if_pos h]
  rfl

theorem Slot.worked_of_ne (h : slot.task.status ≠ .pending) :
    slot.worked settings outcome = slot := if_neg h

@[simp] theorem Slot.worked_id : (slot.worked settings outcome).task.id = slot.task.id := by
  unfold worked
  split <;> rfl

/-- A task that is in flight after the work was in flight before. -/
theorem Slot.worked_of_inFlight (h : (slot.worked settings outcome).task.status = .inFlight) :
    slot.worked settings outcome = slot := by
  by_cases hpending : slot.task.status = .pending
  · rw [worked_of_pending hpending] at h
    have hfinished := endingStatus_isFinished (outcome slot.task.request)
    rw [show endingStatus (outcome slot.task.request) = .inFlight from h] at hfinished
    cases hfinished
  · exact worked_of_ne hpending

end Worked

namespace Floor

section AtRest

variable {settings : Settings} {held : Request → Ending → Prop} {outcome : Request → Ending}
  {q : Queue} {stage : String → Stage} {floor : Floor}

/-- When nothing is left to do, every slot was worked on. -/
theorem Staged.worked (h : Staged settings held q stage floor) (hrest : floor.AtRest)
    (houtcome : ∀ slot ∈ q.slots, ∀ ending,
      held slot.task.request ending → ending = outcome slot.task.request) :
    floor.queue.slots = q.slots.map (Slot.worked settings outcome) := by
  rw [h.slots]
  refine List.map_congr_left fun slot hslot => ?_
  rcases h.stage_of_atRest hrest hslot with ⟨hpending, ending, hending, hstage⟩ | ⟨hother, hstage⟩
  · rw [hstage, Slot.worked_of_pending hpending, houtcome slot hslot ending hending]
  · rw [hstage, Slot.worked_of_ne hother]
    rfl

end AtRest

end Floor

/-- A queue whose slots were worked on reports on the tasks that were pending. -/
theorem report_worked {q last : Queue} {settings : Settings} {outcome : Request → Ending}
    (hids : q.ids.Nodup) (hslots : last.slots = q.slots.map (Slot.worked settings outcome)) :
    last.report q.pendingIds =
      ⟨false, (q.slots.filter (·.task.status = .pending)).filterMap fun slot =>
        (slot.worked settings outcome).task.report?⟩ := by
  have hnodup : last.ids.Nodup := by
    rw [ids, hslots, List.map_map]
    exact (List.map_congr_left fun slot _ => Slot.worked_id).symm ▸ hids
  rw [report, pendingIds, List.filterMap_map]
  congr 1
  refine List.filterMap_congr fun slot hslot => ?_
  have hmem : slot.worked settings outcome ∈ last.slots := by
    rw [hslots]
    exact List.mem_map_of_mem (List.mem_filter.mp hslot).1
  have hfound := slot?_eq_some_of_mem hnodup hmem
  rw [Slot.worked_id] at hfound
  show (last.get? slot.task.id).bind Task.report? = _
  rw [get?, hfound]
  rfl

/-- Each task that was pending is reported. -/
theorem report_worked_ids (q : Queue) (settings : Settings) (outcome : Request → Ending) :
    ((q.slots.filter (·.task.status = .pending)).filterMap fun slot =>
      (slot.worked settings outcome).task.report?).map (·.taskId) = q.pendingIds := by
  rw [pendingIds, List.map_filterMap, List.filterMap_eq_map_iff_forall_eq_some]
  intro slot hslot
  have hpending := of_decide_eq_true (List.mem_filter.mp hslot).2
  rw [Slot.worked_of_pending hpending]
  rfl

/-! ## The hand and its workers -/

/-- A task that was handed to a worker. -/
structure Errand where
  request : Request
  /-- How its run has ended, if it has; the worker holds no permit any more then. -/
  ending : Option Ending := none

/-- Where the hand stands. -/
inductive Phase where
  /-- It waits for a permit. -/
  | waiting
  /-- It has a permit and is about to look at the queue. -/
  | looking
  /-- It has claimed a task. -/
  | planning (request : Request)
  /-- It has noted the plan of the task. -/
  | handing (request : Request)
  /-- Nothing was pending, and it waits for a worker to be done. -/
  | joining
  | closed

namespace Phase

/-- The permits the hand holds. -/
def permits : Phase → Nat
  | .looking | .planning _ | .handing _ => 1
  | .waiting | .joining | .closed => 0

/-- The request of a task that was claimed and has no plan yet. -/
def unplanned : Phase → List Request
  | .planning request => [request]
  | _ => []

/-- The request of a task that has a plan and no worker yet. -/
def planned : Phase → List Request
  | .handing request => [request]
  | _ => []

/-- Whether the hand has just seen that nothing is pending. -/
def hasSeenAll : Phase → Bool
  | .joining | .closed => true
  | _ => false

/-- How much the hand has to do until it is over, or has come to wait for a permit again. -/
def effort : Phase → Nat
  | .closed => 0
  | .joining => 1
  | .looking => 2
  | .waiting => 3
  | .handing _ => 9
  | .planning _ => 10

end Phase

/-- A queue whose pending tasks are handed out. -/
structure Dispatch where
  queue : Queue
  /-- The permits that are free. -/
  permits : Nat
  phase : Phase := .waiting
  errands : List Errand := []
  /-- The workers that are done and that the hand has not seen to be done. -/
  done : Nat := 0
  /-- The ids of the claimed tasks. -/
  claimed : List String := []

namespace Dispatch

/-- The beginning, with a number of workers that is kept within its bounds. -/
def start (q : Queue) (workers : Nat) : Dispatch where
  queue := q
  permits := min (max workers 1) maxWorkers

/-- A step of the hand or of a worker, when `outcome` says how the run of a request may end. -/
inductive Step (settings : Settings) (outcome : Request → Ending → Prop) :
    Dispatch → Dispatch → Prop where
  | acquire {d : Dispatch} {permits : Nat} (hphase : d.phase = .waiting)
      (hpermits : d.permits = permits + 1) :
      Step settings outcome d { d with permits, phase := .looking }
  | claim {d : Dispatch} {queue : Queue} {slot : Slot} (hphase : d.phase = .looking)
      (hclaim : d.queue.claim = some (queue, slot)) :
      Step settings outcome d { d with
        queue
        phase := .planning slot.task.request
        claimed := d.claimed ++ [slot.task.id] }
  | plan {d : Dispatch} {request : Request} (hphase : d.phase = .planning request) :
      Step settings outcome d { d with
        queue := d.queue.setPlan request.taskId (request.job settings).plan
        phase := .handing request }
  | hand {d : Dispatch} {request : Request} (hphase : d.phase = .handing request) :
      Step settings outcome d { d with
        phase := .waiting
        errands := d.errands ++ [{ request }] }
  /-- Nothing is pending, and the permit is given back. -/
  | rest {d : Dispatch} (hphase : d.phase = .looking) (hclaim : d.queue.claim = none) :
      Step settings outcome d { d with permits := d.permits + 1, phase := .joining }
  /-- The hand sees that a worker is done, and goes on to look again. -/
  | join {d : Dispatch} {done : Nat} (hphase : d.phase = .joining) (hdone : d.done = done + 1) :
      Step settings outcome d { d with done, phase := .waiting }
  /-- There is no worker left to wait for. -/
  | close {d : Dispatch} (hphase : d.phase = .joining) (hdone : d.done = 0)
      (herrands : d.errands = []) :
      Step settings outcome d { d with phase := .closed }
  /-- The run of a worker ends, and its permit is free. -/
  | stop {d : Dispatch} {request : Request} {ending : Ending} {before after : List Errand}
      (herrands : d.errands = before ++ { request } :: after) (hending : outcome request ending) :
      Step settings outcome d { d with
        permits := d.permits + 1
        errands := before ++ { request, ending := some ending } :: after }
  /-- A worker settles its task and is done. -/
  | settle {d : Dispatch} {request : Request} {ending : Ending} {before after : List Errand}
      (herrands : d.errands = before ++ { request, ending := some ending } :: after) :
      Step settings outcome d { d with
        queue := d.queue.settle request.taskId ending
        errands := before ++ after
        done := d.done + 1 }

/-- A number of steps. -/
inductive Run (settings : Settings) (outcome : Request → Ending → Prop) (first : Dispatch) :
    Nat → Dispatch → Prop where
  | refl : Run settings outcome first 0 first
  | tail {n : Nat} {d next : Dispatch} (run : Run settings outcome first n d)
      (step : Step settings outcome d next) : Run settings outcome first (n + 1) next

/-- The floor on which the workers are, the hand with a claimed task being one of them. -/
def floor (q : Queue) (d : Dispatch) : Floor where
  queue := d.queue
  unplanned := d.phase.unplanned
  running := d.errands.map (·.request) ++ d.phase.planned
  enqueued := q.ids
  claimed := d.claimed

/-- The errands whose runs have not ended. -/
def underWay (d : Dispatch) : Nat := d.errands.countP (·.ending.isNone)

/-- How much is left to do. -/
def effort (d : Dispatch) : Nat :=
  9 * d.queue.pendingIds.length + 4 * d.errands.length + d.underWay + 3 * d.done + d.phase.effort

theorem countP_going (request : Request) (after : List Errand) :
    (⟨request, none⟩ :: after : List Errand).countP (·.ending.isNone) =
      after.countP (·.ending.isNone) + 1 := List.countP_cons_of_pos rfl

theorem countP_stopped (request : Request) (ending : Ending) (after : List Errand) :
    (⟨request, some ending⟩ :: after : List Errand).countP (·.ending.isNone) =
      after.countP (·.ending.isNone) := List.countP_cons_of_neg Bool.false_ne_true

/-! ## What is always so -/

section Sound

variable {settings : Settings} {outcome : Request → Ending → Prop} {q : Queue} {total : Nat}
  {d next first : Dispatch}

/-- What holds at every moment of a dispatch of queue `q` with a total number of permits. -/
structure Sound (settings : Settings) (outcome : Request → Ending → Prop) (q : Queue)
    (total : Nat) (d : Dispatch) : Prop where
  moves : Relation.ReflTransGen (Floor.Move settings outcome) (.ofQueue q) (d.floor q)
  endings : ∀ errand ∈ d.errands, ∀ ending, errand.ending = some ending →
    outcome errand.request ending
  permits : d.permits + d.underWay + d.phase.permits = total
  seen : d.phase.hasSeenAll = true → d.claimed = q.pendingIds
  closed : d.phase = .closed → d.errands = []

theorem sound_start (settings : Settings) (outcome : Request → Ending → Prop) (q : Queue)
    (workers : Nat) :
    Sound settings outcome q (min (max workers 1) maxWorkers) (start q workers) where
  moves := .refl
  endings := fun _ h => absurd h List.not_mem_nil
  permits := rfl
  seen := nofun
  closed := nofun

/-- A step of a dispatch is a step of a worker on its floor, or none. -/
theorem Sound.moves_step (h : Sound settings outcome q total d)
    (hstep : Step settings outcome d next) :
    Relation.ReflTransGen (Floor.Move settings outcome) (.ofQueue q) (next.floor q) := by
  have hmoves := h.moves
  cases hstep with
  | acquire hphase | rest hphase | join hphase | close hphase =>
      simpa only [floor, hphase, Phase.planned, Phase.unplanned] using hmoves
  | claim hphase hclaim =>
      simp only [floor, hphase] at hmoves
      exact hmoves.tail (.claim hclaim)
  | @plan request hphase =>
      have hheld : (d.floor q).unplanned = [] ++ request :: [] := by
        simp only [floor, hphase, Phase.unplanned, List.nil_append]
      have hmove := hmoves.tail (.plan hheld)
      simpa [floor, hphase, Phase.planned, Phase.unplanned] using hmove
  | hand hphase => simpa [floor, hphase, Phase.planned, Phase.unplanned] using hmoves
  | stop herrands hending => simpa [floor, herrands] using hmoves
  | @settle request ending before after herrands =>
      have hending : outcome request ending :=
        h.endings _ (herrands ▸ List.mem_append_right _ List.mem_cons_self) ending rfl
      have hheld : (d.floor q).running =
          before.map (·.request) ++ request :: (after.map (·.request) ++ d.phase.planned) := by
        simp [floor, herrands]
      have hmove := hmoves.tail (.settle hheld hending)
      simpa [floor] using hmove

/-- The claimed tasks and those that are pending are the ones that were pending. -/
theorem Sound.order (hids : q.ids.Nodup) (h : Sound settings outcome q total d) :
    d.claimed ++ d.queue.pendingIds = q.pendingIds := by
  obtain ⟨stage, hstaged⟩ := Floor.staged_of_moves hids h.moves
  exact hstaged.order

/-- Every step keeps what is always so. -/
theorem Sound.step (hids : q.ids.Nodup) (h : Sound settings outcome q total d)
    (hstep : Step settings outcome d next) : Sound settings outcome q total next where
  moves := h.moves_step hstep
  endings := by
    have hendings := h.endings
    cases hstep with
    | acquire | claim | plan | rest | join | close => exact hendings
    | hand hphase =>
        intro errand herrand ending hending
        rcases List.mem_append.mp herrand with herrand | herrand
        · exact hendings errand herrand ending hending
        · rw [List.mem_singleton.mp herrand] at hending
          cases hending
    | stop herrands hnew =>
        rw [herrands] at hendings
        simp only [List.forall_mem_append, List.forall_mem_cons] at hendings ⊢
        refine ⟨hendings.1, fun ending hending => ?_, hendings.2.2⟩
        exact Option.some.inj hending ▸ hnew
    | settle herrands =>
        rw [herrands] at hendings
        simp only [List.forall_mem_append, List.forall_mem_cons] at hendings ⊢
        exact ⟨hendings.1, hendings.2.2⟩
  permits := by
    have hpermits := h.permits
    cases hstep with
    | acquire hphase hfree =>
        simp only [hphase, hfree, underWay, Phase.permits] at hpermits ⊢
        omega
    | claim hphase | plan hphase | join hphase | close hphase =>
        simpa only [hphase, underWay, Phase.permits] using hpermits
    | rest hphase =>
        simp only [hphase, underWay, Phase.permits] at hpermits ⊢
        omega
    | hand hphase =>
        simp only [hphase, underWay, List.countP_append, countP_going, List.countP_nil,
          Phase.permits] at hpermits ⊢
        omega
    | stop herrands | settle herrands =>
        simp only [herrands, underWay, List.countP_append, countP_going, countP_stopped]
          at hpermits ⊢
        omega
  seen := by
    have hseen := h.seen
    cases hstep with
    | acquire | claim | plan | hand | join => nofun
    | rest hphase hclaim =>
        have horder := h.order hids
        rw [claim_eq_none_iff.mp hclaim, List.append_nil] at horder
        exact fun _ => horder
    | close hphase => exact fun _ => hseen (by rw [hphase]; rfl)
    | stop | settle => exact hseen
  closed := by
    have hover := h.closed
    cases hstep with
    | acquire | claim | plan | hand | rest | join => nofun
    | close hphase hdone herrands => exact fun _ => herrands
    | stop herrands | settle herrands =>
        intro hphase
        have hnone := hover hphase
        rw [herrands] at hnone
        exact absurd hnone (by simp)

theorem sound_of_run (hids : q.ids.Nodup) {workers n : Nat}
    (hrun : Run settings outcome (start q workers) n d) :
    Sound settings outcome q (min (max workers 1) maxWorkers) d := by
  induction hrun with
  | refl => exact sound_start settings outcome q workers
  | tail _ hstep ih => exact ih.step hids hstep

/-! ## The end is reached -/

/-- Every step leaves less to do. -/
theorem Sound.effort_lt (hids : q.ids.Nodup) (h : Sound settings outcome q total d)
    (hstep : Step settings outcome d next) : next.effort < d.effort := by
  have hbefore := congrArg List.length (h.order hids)
  have hafter := congrArg List.length ((h.step hids hstep).order hids)
  rw [List.length_append] at hbefore hafter
  cases hstep with
  | acquire hphase | plan hphase | rest hphase | close hphase =>
      simp only [effort, underWay, hphase, Phase.effort]
      simp only at hafter
      omega
  | claim hphase =>
      simp only [effort, underWay, hphase, Phase.effort]
      simp only [List.length_append, List.length_singleton] at hafter
      omega
  | hand hphase =>
      simp only [effort, underWay, hphase, Phase.effort, List.length_append, List.countP_append,
        List.length_singleton, countP_going, List.countP_nil]
      omega
  | join hphase hdone =>
      simp only [effort, underWay, hphase, hdone, Phase.effort]
      omega
  | stop herrands =>
      simp only [effort, underWay, herrands, List.length_append, List.countP_append,
        List.length_cons, countP_going, countP_stopped]
      omega
  | settle herrands =>
      simp only at hafter
      simp only [effort, underWay, herrands, List.length_append, List.countP_append,
        List.length_cons, countP_stopped]
      omega

/-- So the number of steps is bounded. -/
theorem length_add_effort_le (hids : q.ids.Nodup) {workers n : Nat}
    (hrun : Run settings outcome (start q workers) n d) :
    n + d.effort ≤ 9 * q.pendingIds.length + 3 := by
  induction hrun with
  | refl => simp [effort, start, underWay, Phase.effort]
  | tail hrun hstep ih =>
      have hlt := (sound_of_run hids hrun).effort_lt hids hstep
      omega

/-- A worker can go on as long as there is one, if every run comes to an end. -/
theorem exists_step_of_errands (hends : ∀ request, ∃ ending, outcome request ending)
    (h : d.errands ≠ []) : ∃ next, Step settings outcome d next := by
  obtain ⟨⟨request, ending⟩, rest, hsplit⟩ := List.exists_cons_of_ne_nil h
  cases ending with
  | none =>
      obtain ⟨ending, hending⟩ := hends request
      exact ⟨_, .stop (hsplit.trans (List.nil_append _).symm) hending⟩
  | some ending => exact ⟨_, .settle (hsplit.trans (List.nil_append _).symm)⟩

/-- A dispatch that is not over can go on, if every run comes to an end: the hand waits for a permit
only while a worker holds one, and for a worker only while there is one. -/
theorem Sound.exists_step (h : Sound settings outcome q total d) (htotal : 0 < total)
    (hends : ∀ request, ∃ ending, outcome request ending) (hphase : d.phase ≠ .closed) :
    ∃ next, Step settings outcome d next := by
  have hpermits := h.permits
  cases hat : d.phase with
  | waiting =>
      cases hfree : d.permits with
      | zero =>
          refine exists_step_of_errands hends fun hnone => ?_
          simp only [hat, hfree, hnone, underWay, Phase.permits, List.countP_nil] at hpermits
          omega
      | succ permits => exact ⟨_, .acquire hat hfree⟩
  | looking =>
      cases hclaim : d.queue.claim with
      | none => exact ⟨_, .rest hat hclaim⟩
      | some found => exact ⟨_, .claim hat hclaim⟩
  | planning request => exact ⟨_, .plan hat⟩
  | handing request => exact ⟨_, .hand hat⟩
  | joining =>
      by_cases hnone : d.errands = []
      · cases hdone : d.done with
        | zero => exact ⟨_, .close hat hdone hnone⟩
        | succ done => exact ⟨_, .join hat hdone⟩
      · exact exists_step_of_errands hends hnone
  | closed => exact absurd hat hphase

/-- When a dispatch is over, nothing is left to do. -/
theorem Sound.atRest (hids : q.ids.Nodup) (h : Sound settings outcome q total d)
    (hover : d.phase = .closed) : (d.floor q).AtRest where
  unplanned := by rw [floor, hover]; rfl
  running := by
    show d.errands.map (·.request) ++ d.phase.planned = []
    rw [h.closed hover, hover]
    rfl
  pending := by
    have horder := h.order hids
    rw [h.seen (by rw [hover]; rfl)] at horder
    exact List.append_right_eq_self.mp horder

end Sound

end Dispatch

end Switchboard.Queue
