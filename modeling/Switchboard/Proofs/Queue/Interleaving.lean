import Switchboard.Proofs.Queue.Floor
import Switchboard.Proofs.Route.Job
import Switchboard.Queue.Shift

/-!
# Every interleaving of queue operations

Tasks are enqueued, listed, cancelled and purged while any number of workers claim, plan and settle
them, and somebody may ask in between what would be done. `Floor.Step` is one of these, and a floor
is reached by any sequence of them from an empty queue. `Floor.Sound` collects what every step
keeps: the ids are distinct, tasks are claimed in the order in which they were enqueued, the tasks
whose requests workers hold are in flight, and the fields of a task agree with its status.

## Main results

* `Floor.Sound.step`, `Floor.Reachable.sound` — every step keeps a floor sound.
* `Floor.Sound.follows_step` — how a step changes the status of a task.
* `Floor.interleavings_orderly` — what holds of every interleaving.
-/

namespace Switchboard.Queue

open Switchboard.Route (Request Ending Settings Attempt)

/-! ## Tasks -/

/-- A task as it is made. -/
structure Task.IsNew (task : Task) : Prop where
  status : task.status = .pending
  plan : task.plan = none
  result : task.result = none
  error : task.error = none

/-- The ways in which a status changes. -/
inductive Status.Moves : Status → Status → Prop where
  | claimed : Moves .pending .inFlight
  | withdrawn : Moves .pending .cancelled
  | settled {status : Status} (h : status.isFinished = true) : Moves .inFlight status

/-- The plan, the result and the error that a task with a status may have. -/
def Status.Admits (plan : Option Route.Plan) (result : Option Route.Result)
    (error : Option TaskError) : Status → Prop
  | .pending => plan = none ∧ result = none ∧ error = none
  | .inFlight => result = none ∧ error = none
  | .succeeded => plan.isSome ∧ result.isSome ∧ error = none
  | .failed => plan.isSome ∧ result = none ∧ error.isSome
  | .fallbackExhausted => plan.isSome ∧ result = none ∧ ∃ e, error = some e ∧ e.partly = false
  | .cancelled => result = none ∧
      ((plan = none ∧ error = none) ∨ (plan.isSome ∧ ∃ e, error = some e ∧ e.partly = false))

/-- The fields of a task agree with its status, and its plan is the one made of its request. -/
structure Task.Agrees (settings : Settings) (task : Task) : Prop where
  fields : task.status.Admits task.plan task.result task.error
  plan : ∀ plan, task.plan = some plan → plan = (task.request.job settings).plan

theorem endingStatus_isFinished (ending : Ending) : (endingStatus ending).isFinished = true := by
  unfold endingStatus
  split <;> rfl

/-- The end of a run gives a planned task the fields that its new status admits. -/
theorem endingStatus_admits (ending : Ending) {plan : Option Route.Plan} (hplan : plan.isSome) :
    (endingStatus ending).Admits plan ending.toOption (endingError ending) := by
  unfold endingStatus
  split
  · exact ⟨hplan, rfl, rfl⟩
  · exact ⟨hplan, rfl, _, rfl, rfl⟩
  · exact ⟨rfl, .inr ⟨hplan, _, rfl, rfl⟩⟩
  · exact ⟨hplan, rfl, rfl⟩

section Task

variable {settings : Settings} {slot : Slot}

theorem Task.IsNew.agrees {task : Task} (h : task.IsNew) : task.Agrees settings where
  fields := by
    rw [h.status]
    exact ⟨h.plan, h.result, h.error⟩
  plan := by
    intro plan hplan
    rw [h.plan] at hplan
    cases hplan

theorem Slot.claimed_agrees (h : slot.task.Agrees settings)
    (hpending : slot.task.status = .pending) : slot.claimed.task.Agrees settings where
  fields := by
    have hfields := h.fields
    rw [hpending] at hfields
    exact hfields.2
  plan := h.plan

theorem Slot.withPlan_agrees (h : slot.task.Agrees settings)
    (hflight : slot.task.status = .inFlight) :
    (slot.withPlan (slot.task.request.job settings).plan).task.Agrees settings where
  fields := by
    have hfields := h.fields
    show slot.task.status.Admits _ slot.task.result slot.task.error
    rw [hflight] at hfields ⊢
    exact hfields
  plan := fun _ hplan => (Option.some.inj hplan).symm

theorem Slot.settledBy_agrees (ending : Ending)
    (hplan : slot.task.plan = some (slot.task.request.job settings).plan) :
    (slot.settledBy ending).task.Agrees settings where
  fields := endingStatus_admits ending (by
    show slot.task.plan.isSome
    rw [hplan]
    rfl)
  plan := fun _ h => (Option.some.inj (hplan.symm.trans h)).symm

theorem Slot.cancel_agrees (h : slot.task.Agrees settings) :
    slot.cancel.task.Agrees settings := by
  unfold Slot.cancel
  split
  · rename_i hpending
    have hfields := h.fields
    rw [hpending] at hfields
    exact ⟨⟨hfields.2.1, .inl ⟨hfields.1, hfields.2.2⟩⟩, h.plan⟩
  · exact ⟨h.fields, h.plan⟩
  · exact h

theorem Slot.cancel_request (slot : Slot) : slot.cancel.task.request = slot.task.request := by
  unfold Slot.cancel
  split <;> rfl

theorem Slot.cancel_serial (slot : Slot) : slot.cancel.serial = slot.serial := by
  unfold Slot.cancel
  split <;> rfl

end Task

/-! ## Steps -/

/-- The ids of the tasks that an operation puts into the queue. -/
def Operation.added : Operation → List String
  | .enqueue task => [task.id]
  | _ => []

/-- The ids of the pending tasks that an operation cancels. -/
def Operation.withdraws (q : Queue) : Operation → List String
  | .cancel id => if (q.get? id).map (·.status) = some .pending then [id] else []
  | _ => []

/-- An operation that puts nothing into the queue but a new task with a fresh id. -/
def Operation.Proper (enqueued : List String) : Operation → Prop
  | .enqueue task => task.IsNew ∧ task.id ∉ enqueued
  | _ => True

namespace Floor

/-- Carries out an operation on the queue. -/
def operate (floor : Floor) (records : List Attempt) (operation : Operation) : Floor :=
  { floor with
    queue := (operation.run floor.queue records).1
    enqueued := floor.enqueued ++ operation.added
    withdrawn := floor.withdrawn ++ operation.withdraws floor.queue }

/-- A step of a worker, an operation from outside, or a dry run. -/
inductive Step (settings : Settings) (outcome : Request → Ending → Prop) :
    Floor → Floor → Prop where
  | work {floor next : Floor} (h : Move settings outcome floor next) :
      Step settings outcome floor next
  | operate {floor : Floor} (records : List Attempt) (operation : Operation)
      (h : operation.Proper floor.enqueued) :
      Step settings outcome floor (floor.operate records operation)
  | dryRun {floor : Floor} {σ : Type} (writeDown : Attempt → σ → Except String σ)
      (backends : Backends σ) (state : σ) (start : Timestamp) (log : List Attempt)
      (workers : Nat) :
      Step settings outcome floor { floor with
        queue :=
          (process writeDown backends state settings start floor.queue log true workers).queue }

/-- The floors that can be reached from an empty queue. -/
def Reachable (settings : Settings) (outcome : Request → Ending → Prop) (floor : Floor) : Prop :=
  Relation.ReflTransGen (Step settings outcome) {} floor

end Floor

/-! ## Soundness -/

/-- The slot is that of a request, and its task is in flight, with its plan if it is `planned`. -/
structure Slot.Carries (settings : Settings) (request : Request) (planned : Prop) (slot : Slot) :
    Prop where
  request_eq : slot.task.request = request
  status_eq : slot.task.status = .inFlight
  plan_eq : planned → slot.task.plan = some (request.job settings).plan

/-- A cancellation leaves a task in flight where it is. -/
theorem Slot.Carries.cancel {settings : Settings} {request : Request} {planned : Prop}
    {slot : Slot} (h : slot.Carries settings request planned) :
    slot.cancel.Carries settings request planned := by
  have hcancel : slot.cancel = { slot with stopped := true } := by
    unfold Slot.cancel
    rw [h.status_eq]
  rw [hcancel]
  exact ⟨h.request_eq, h.status_eq, h.plan_eq⟩

namespace Floor

/-- What every step keeps. -/
structure Sound (settings : Settings) (floor : Floor) : Prop where
  ids : floor.queue.ids.Nodup
  numbered : floor.queue.Numbered
  agrees : ∀ slot ∈ floor.queue.slots, slot.task.Agrees settings
  known : ∀ id ∈ floor.queue.ids, id ∈ floor.enqueued
  enqueued : floor.enqueued.Nodup
  /-- Tasks are claimed in the order in which they were enqueued. -/
  order : (floor.claimed ++ floor.queue.pendingIds).Sublist floor.enqueued
  withdrawn : ∀ id ∈ floor.withdrawn,
    id ∈ floor.enqueued ∧ id ∉ floor.claimed ++ floor.queue.pendingIds
  unplanned : ∀ request ∈ floor.unplanned,
    ∃ slot ∈ floor.queue.slots, slot.Carries settings request False
  running : ∀ request ∈ floor.running,
    ∃ slot ∈ floor.queue.slots, slot.Carries settings request True
  held : ((floor.unplanned ++ floor.running).map (·.taskId)).Nodup

theorem sound_empty (settings : Settings) : Sound settings {} where
  ids := List.nodup_nil
  numbered := ⟨List.nodup_nil, by simp⟩
  agrees := by simp
  known := by simp [Queue.ids]
  enqueued := List.nodup_nil
  order := List.Sublist.refl []
  withdrawn := by simp
  unplanned := by simp
  running := by simp
  held := List.nodup_nil

section Sound

variable {settings : Settings} {outcome : Request → Ending → Prop} {floor : Floor}

/-- A request stays with its slot, unless this is the one that is replaced. -/
theorem carries_of_replaces {q next : Queue} {old new : Slot} {request : Request} {planned : Prop}
    (hreplaces : Replaces old new q next)
    (hnew : old.Carries settings request planned → new.Carries settings request planned)
    (h : ∃ slot ∈ q.slots, slot.Carries settings request planned) :
    ∃ slot ∈ next.slots, slot.Carries settings request planned := by
  obtain ⟨slot, hslot, hcarries⟩ := h
  rcases hreplaces.mem_or_eq hslot with rfl | hslot
  · exact ⟨new, hreplaces.mem_new, hnew hcarries⟩
  · exact ⟨slot, hslot, hcarries⟩

/-- A held request has its slot in flight. -/
theorem Sound.carries_of_held (h : Sound settings floor) {request : Request}
    (hheld : request ∈ floor.unplanned ++ floor.running) :
    ∃ slot ∈ floor.queue.slots, slot.Carries settings request False := by
  rcases List.mem_append.mp hheld with hheld | hheld
  · exact h.unplanned request hheld
  · obtain ⟨slot, hslot, hcarries⟩ := h.running request hheld
    exact ⟨slot, hslot, hcarries.request_eq, hcarries.status_eq, False.elim⟩

/-- What replacing a slot keeps of the queue as a whole. -/
theorem Sound.replaced (h : Sound settings floor) {queue : Queue} {old new : Slot}
    (hreplaces : Replaces old new floor.queue queue)
    (hrequest : new.task.request = old.task.request) (hserial : new.serial = old.serial)
    (hagrees : new.task.Agrees settings) :
    queue.ids.Nodup ∧ queue.Numbered ∧ (∀ slot ∈ queue.slots, slot.task.Agrees settings) ∧
      ∀ id ∈ queue.ids, id ∈ floor.enqueued := by
  have hids := hreplaces.ids_eq (congrArg Request.taskId hrequest)
  rw [hids]
  refine ⟨h.ids, hreplaces.numbered hserial h.numbered, ?_, h.known⟩
  intro slot hslot
  rcases hreplaces.mem_cases hslot with rfl | hslot
  · exact hagrees
  · exact h.agrees slot hslot

/-- Claiming keeps a floor sound. -/
theorem Sound.claim (h : Sound settings floor) {queue : Queue} {claimed : Slot}
    (hclaim : floor.queue.claim = some (queue, claimed)) :
    Sound settings { floor with
      queue
      unplanned := floor.unplanned ++ [claimed.task.request]
      claimed := floor.claimed ++ [claimed.task.id] } := by
  obtain ⟨old, hpending, rfl, hreplaces, hids⟩ := claim_replaces hclaim
  obtain ⟨hnodup, hnumbered, hagrees, hknown⟩ := h.replaced hreplaces rfl rfl
    (Slot.claimed_agrees (h.agrees old hreplaces.mem_old) hpending)
  have horder : floor.claimed ++ [old.task.id] ++ queue.pendingIds =
      floor.claimed ++ floor.queue.pendingIds := by
    rw [hids, List.append_assoc]
    rfl
  -- The task was pending, so that no worker holds its request yet.
  have hpast : ∀ {request planned}, old.Carries settings request planned →
      old.claimed.Carries settings request planned := by
    intro request planned hcarries
    have hflight := hcarries.status_eq
    rw [hpending] at hflight
    cases hflight
  have hfresh : old.task.id ∉ (floor.unplanned ++ floor.running).map (·.taskId) := by
    intro hmem
    obtain ⟨request, hheld, hid⟩ := List.mem_map.mp hmem
    obtain ⟨slot, hslot, hcarries⟩ := h.carries_of_held hheld
    have hslotId : slot.task.id = old.task.id :=
      (congrArg Request.taskId hcarries.request_eq).trans hid
    have hflight := hcarries.status_eq
    rw [List.inj_on_of_nodup_map h.ids hslot hreplaces.mem_old hslotId, hpending] at hflight
    cases hflight
  refine {
    ids := hnodup, numbered := hnumbered, agrees := hagrees, known := hknown
    enqueued := h.enqueued, order := horder ▸ h.order, withdrawn := ?withdrawn
    unplanned := ?unplanned, running := ?running, held := ?held }
  case withdrawn =>
    intro id hid
    show id ∈ floor.enqueued ∧ id ∉ floor.claimed ++ [old.task.id] ++ queue.pendingIds
    rw [horder]
    exact h.withdrawn id hid
  case unplanned =>
    intro request hrequest
    rcases List.mem_append.mp hrequest with hrequest | hrequest
    · exact carries_of_replaces hreplaces hpast (h.unplanned request hrequest)
    · rw [List.mem_singleton.mp hrequest]
      exact ⟨old.claimed, hreplaces.mem_new, rfl, rfl, False.elim⟩
  case running =>
    intro request hrequest
    exact carries_of_replaces hreplaces hpast (h.running request hrequest)
  case held =>
    show ((floor.unplanned ++ [old.task.request] ++ floor.running).map (·.taskId)).Nodup
    rw [List.append_assoc, List.map_append, List.singleton_append, List.map_cons,
      List.nodup_middle, ← List.map_append, List.nodup_cons]
    exact ⟨hfresh, h.held⟩

/-- The slot of a held request is found by its id. -/
theorem Sound.slot?_eq (h : Sound settings floor) {slot : Slot} {request : Request}
    {planned : Prop} (hslot : slot ∈ floor.queue.slots)
    (hcarries : slot.Carries settings request planned) :
    floor.queue.slot? request.taskId = some slot := by
  have hid : slot.task.id = request.taskId := congrArg Request.taskId hcarries.request_eq
  rw [← hid]
  exact slot?_eq_some_of_mem h.ids hslot

/-- Planning keeps a floor sound. -/
theorem Sound.plan (h : Sound settings floor) {request : Request} {before after : List Request}
    (hheld : floor.unplanned = before ++ request :: after) :
    Sound settings { floor with
      queue := floor.queue.setPlan request.taskId (request.job settings).plan
      unplanned := before ++ after
      running := floor.running ++ [request] } := by
  have hmem : request ∈ floor.unplanned := by
    rw [hheld]
    exact List.mem_append_right _ List.mem_cons_self
  obtain ⟨slot, hslot, hcarries⟩ := h.unplanned request hmem
  have hreplaces := change_replaces (h.slot?_eq hslot hcarries)
    (·.withPlan (request.job settings).plan)
  obtain ⟨rfl, hflight, -⟩ := hcarries
  obtain ⟨hnodup, hnumbered, hagrees, hknown⟩ := h.replaced hreplaces rfl rfl
    (Slot.withPlan_agrees (h.agrees slot hslot) hflight)
  have hpending : (floor.queue.setPlan slot.task.request.taskId
      (slot.task.request.job settings).plan).pendingIds = floor.queue.pendingIds :=
    hreplaces.pendingIds_eq rfl Iff.rfl
  have hkeeps : ∀ {other planned}, slot.Carries settings other planned →
      (slot.withPlan (slot.task.request.job settings).plan).Carries settings other planned := by
    rintro other planned ⟨rfl, -, -⟩
    exact ⟨rfl, hflight, fun _ => rfl⟩
  refine {
    ids := hnodup, numbered := hnumbered, agrees := hagrees, known := hknown
    enqueued := h.enqueued, order := hpending.symm ▸ h.order
    withdrawn := hpending.symm ▸ h.withdrawn
    unplanned := ?unplanned, running := ?running, held := ?held }
  case unplanned =>
    intro other hother
    refine carries_of_replaces hreplaces hkeeps (h.unplanned other ?_)
    rw [hheld]
    exact List.mem_append.mpr ((List.mem_append.mp hother).imp_right (List.mem_cons_of_mem _))
  case running =>
    intro other hother
    rcases List.mem_append.mp hother with hother | hother
    · exact carries_of_replaces hreplaces hkeeps (h.running other hother)
    · rw [List.mem_singleton.mp hother]
      exact ⟨_, hreplaces.mem_new, rfl, hflight, fun _ => rfl⟩
  case held =>
    have hunique := h.held
    rw [hheld] at hunique
    simp only [List.map_append, List.map_cons, List.append_assoc, List.cons_append,
      List.nodup_middle] at hunique
    show ((before ++ after ++ (floor.running ++ [slot.task.request])).map (·.taskId)).Nodup
    rw [← List.append_assoc, List.map_append, List.map_singleton, List.nodup_middle,
      List.append_nil, List.map_append, List.map_append, List.append_assoc]
    exact hunique

/-- Settling keeps a floor sound. -/
theorem Sound.settle (h : Sound settings floor) {request : Request} {before after : List Request}
    (ending : Ending) (hheld : floor.running = before ++ request :: after) :
    Sound settings { floor with
      queue := floor.queue.settle request.taskId ending
      running := before ++ after } := by
  have hmem : request ∈ floor.running := by
    rw [hheld]
    exact List.mem_append_right _ List.mem_cons_self
  obtain ⟨slot, hslot, hcarries⟩ := h.running request hmem
  have hreplaces := change_replaces (h.slot?_eq hslot hcarries) (·.settledBy ending)
  obtain ⟨rfl, hflight, hplan⟩ := hcarries
  obtain ⟨hnodup, hnumbered, hagrees, hknown⟩ := h.replaced hreplaces rfl rfl
    (Slot.settledBy_agrees ending (hplan trivial))
  have hpending : (floor.queue.settle slot.task.request.taskId ending).pendingIds =
      floor.queue.pendingIds := by
    refine hreplaces.pendingIds_eq rfl ⟨fun hnew => ?_, fun hold => ?_⟩
    · exact absurd hnew (endingStatus_ne_pending ending)
    · rw [hflight] at hold
      cases hold
  have hunique := h.held
  rw [hheld, ← List.append_assoc, List.map_append, List.map_cons, List.nodup_middle,
    ← List.map_append, List.nodup_cons, List.append_assoc] at hunique
  -- Nobody else holds the request of the slot.
  have hothers : ∀ {other planned}, other ∈ floor.unplanned ++ (before ++ after) →
      slot.Carries settings other planned →
        (slot.settledBy ending).Carries settings other planned := by
    rintro other planned hother ⟨rfl, -, -⟩
    exact absurd (List.mem_map_of_mem hother) hunique.1
  refine {
    ids := hnodup, numbered := hnumbered, agrees := hagrees, known := hknown
    enqueued := h.enqueued, order := hpending.symm ▸ h.order
    withdrawn := hpending.symm ▸ h.withdrawn
    unplanned := ?unplanned, running := ?running, held := hunique.2 }
  case unplanned =>
    intro other hother
    exact carries_of_replaces hreplaces (hothers (List.mem_append_left _ hother))
      (h.unplanned other hother)
  case running =>
    intro other hother
    refine carries_of_replaces hreplaces (hothers (List.mem_append_right _ hother))
      (h.running other ?_)
    rw [hheld]
    exact List.mem_append.mpr ((List.mem_append.mp hother).imp_right (List.mem_cons_of_mem _))

/-- Every step of a worker keeps a floor sound. -/
theorem Sound.move {next : Floor} (h : Sound settings floor)
    (hmove : Move settings outcome floor next) : Sound settings next := by
  cases hmove with
  | claim hclaim => exact h.claim hclaim
  | plan hheld => exact h.plan hheld
  | settle hheld hending => exact h.settle _ hheld

/-- A cancellation takes at most the cancelled task out of the pending ones, and a pending one it
does take out. -/
theorem Sound.order_cancel (h : Sound settings floor) {id : String} {slot : Slot}
    (hslot : floor.queue.slot? id = some slot) :
    (floor.claimed ++ (floor.queue.change id Slot.cancel).pendingIds).Sublist
        (floor.claimed ++ floor.queue.pendingIds) ∧
      (slot.task.status = .pending →
        id ∉ floor.claimed ++ (floor.queue.change id Slot.cancel).pendingIds) := by
  have hreplaces := change_replaces hslot Slot.cancel
  have hids : (floor.claimed ++ floor.queue.pendingIds).Nodup := h.order.nodup h.enqueued
  by_cases hpending : slot.task.status = .pending
  · have hcancelled : slot.cancel.task.status ≠ .pending := by
      simp [Slot.cancel, hpending]
    obtain ⟨before, after, hold, hnew⟩ := hreplaces.pendingIds_split hpending hcancelled
    rw [hold, ← List.append_assoc, List.nodup_middle, List.nodup_cons, slot?_id hslot] at hids
    rw [hold, hnew, ← List.append_assoc, ← List.append_assoc]
    exact ⟨(List.sublist_cons_self _ _).append_left _, fun _ => hids.1⟩
  · have hsame : slot.cancel.task.status = .pending ↔ slot.task.status = .pending := by
      unfold Slot.cancel
      split <;> simp_all
    rw [hreplaces.pendingIds_eq (congrArg Request.taskId slot.cancel_request) hsame]
    exact ⟨List.Sublist.refl _, fun h => absurd h hpending⟩

/-- Cancelling keeps a floor sound: a pending task is withdrawn, any other stays where it is. -/
theorem Sound.cancel (h : Sound settings floor) (records : List Attempt) (id : String) :
    Sound settings (floor.operate records (.cancel id)) := by
  have hqueue : (floor.operate records (.cancel id)).queue =
      floor.queue.change id Slot.cancel := rfl
  have henqueued : (floor.operate records (.cancel id)).enqueued = floor.enqueued :=
    List.append_nil _
  cases hslot : floor.queue.slot? id with
  | none =>
      have hsame : floor.operate records (.cancel id) = floor := by
        have hchange := hqueue.trans (change_of_slot?_eq_none hslot Slot.cancel)
        simp only [operate] at hchange ⊢
        simp [hchange, Operation.added, Operation.withdraws, Queue.get?, hslot]
      rw [hsame]
      exact h
  | some slot =>
      have hreplaces := change_replaces hslot Slot.cancel
      obtain ⟨hnodup, hnumbered, hagrees, hknown⟩ := h.replaced hreplaces slot.cancel_request
        slot.cancel_serial (Slot.cancel_agrees (h.agrees slot hreplaces.mem_old))
      obtain ⟨horder, hgone⟩ := h.order_cancel hslot
      have hwithdrawn : (floor.operate records (.cancel id)).withdrawn = floor.withdrawn ++
          if slot.task.status = .pending then [id] else [] := by
        simp [operate, Operation.withdraws, Queue.get?, hslot]
      refine {
        ids := hnodup, numbered := hnumbered, agrees := hagrees
        known := henqueued.symm ▸ hknown, enqueued := henqueued.symm ▸ h.enqueued
        order := henqueued.symm ▸ horder.trans h.order, withdrawn := ?withdrawn
        unplanned := ?unplanned, running := ?running, held := h.held }
      case withdrawn =>
        intro name hname
        rw [hwithdrawn] at hname
        rw [henqueued]
        rcases List.mem_append.mp hname with hname | hname
        · obtain ⟨hknown, hother⟩ := h.withdrawn name hname
          exact ⟨hknown, fun hmem => hother (horder.subset hmem)⟩
        · split at hname
          · rename_i hpending
            rw [List.mem_singleton.mp hname]
            refine ⟨h.known id ?_, hgone hpending⟩
            rw [← slot?_id hslot]
            exact List.mem_map_of_mem hreplaces.mem_old
          · exact absurd hname List.not_mem_nil
      case unplanned =>
        intro request hheld
        exact carries_of_replaces hreplaces Slot.Carries.cancel (h.unplanned request hheld)
      case running =>
        intro request hheld
        exact carries_of_replaces hreplaces Slot.Carries.cancel (h.running request hheld)

/-- Enqueuing a new task keeps a floor sound. -/
theorem Sound.enqueue (h : Sound settings floor) (records : List Attempt) {task : Task}
    (hnew : task.IsNew) (hfresh : task.id ∉ floor.enqueued) :
    Sound settings (floor.operate records (.enqueue task)) := by
  have hslots : (floor.operate records (.enqueue task)).queue.slots =
      floor.queue.slots ++ [⟨floor.queue.nextSerial, task, false⟩] := rfl
  have hkept : ∀ {request planned},
      (∃ slot ∈ floor.queue.slots, slot.Carries settings request planned) →
      ∃ slot ∈ (floor.operate records (.enqueue task)).queue.slots,
        slot.Carries settings request planned := by
    rintro request planned ⟨slot, hslot, hcarries⟩
    exact ⟨slot, List.mem_append_left _ hslot, hcarries⟩
  have hpending : (floor.operate records (.enqueue task)).queue.pendingIds =
      floor.queue.pendingIds ++ [task.id] := by
    rw [pendingIds, hslots, List.filter_append, List.map_append]
    simp [pendingIds, hnew.status]
  have henqueued : (floor.operate records (.enqueue task)).enqueued =
      floor.enqueued ++ [task.id] := rfl
  refine {
    ids := ?ids, numbered := ⟨?serials, ?free⟩, agrees := ?agrees, known := ?known
    enqueued := nodup_append_singleton h.enqueued hfresh, order := ?order, withdrawn := ?withdrawn
    unplanned := fun request hheld => hkept (h.unplanned request hheld)
    running := fun request hheld => hkept (h.running request hheld), held := h.held }
  case ids =>
    rw [Queue.ids, hslots, List.map_append]
    exact nodup_append_singleton h.ids fun hmem => hfresh (h.known _ hmem)
  case serials =>
    rw [hslots, List.map_append]
    refine nodup_append_singleton h.numbered.nodup fun hmem => ?_
    obtain ⟨slot, hslot, hserial⟩ := List.mem_map.mp hmem
    exact Nat.ne_of_lt (h.numbered.free slot hslot) hserial
  case free =>
    intro slot hslot
    rw [hslots, List.mem_append, List.mem_singleton] at hslot
    rcases hslot with hslot | rfl
    · exact Nat.lt_succ_of_lt (h.numbered.free slot hslot)
    · exact Nat.lt_succ_self _
  case agrees =>
    intro slot hslot
    rw [hslots, List.mem_append, List.mem_singleton] at hslot
    rcases hslot with hslot | rfl
    · exact h.agrees slot hslot
    · exact hnew.agrees
  case known =>
    intro id hid
    rw [Queue.ids, hslots, List.map_append, List.mem_append] at hid
    rw [henqueued, List.mem_append]
    exact hid.imp_left (h.known id)
  case order =>
    rw [hpending, henqueued, ← List.append_assoc]
    exact h.order.append (List.Sublist.refl _)
  case withdrawn =>
    intro id hid
    have hid : id ∈ floor.withdrawn ++ [] := hid
    rw [List.append_nil] at hid
    obtain ⟨hknown, hother⟩ := h.withdrawn id hid
    rw [hpending, henqueued, ← List.append_assoc]
    refine ⟨List.mem_append_left _ hknown, fun hmem => ?_⟩
    rcases List.mem_append.mp hmem with hmem | hmem
    · exact hother hmem
    · exact hfresh (List.mem_singleton.mp hmem ▸ hknown)

/-- A purge removes no task that is pending or in flight. -/
theorem not_isPurged_of_unfinished {task : Task} {status : Option Status}
    (h : task.status.isFinished = false) : isPurged status task = false := by
  simp [isPurged, h]

/-- A purge leaves the pending tasks as they were. -/
theorem pendingIds_purge (q : Queue) (status : Option Status) :
    (q.purge status).1.pendingIds = q.pendingIds := by
  show ((q.slots.filter fun slot => !isPurged status slot.task).filter
    (·.task.status = .pending)).map (·.task.id) = _
  rw [List.filter_filter, pendingIds]
  congr 1
  refine List.filter_congr fun slot _ => ?_
  by_cases hpending : slot.task.status = .pending
  · simp [hpending, not_isPurged_of_unfinished (show slot.task.status.isFinished = false by
      rw [hpending]; rfl)]
  · simp [hpending]

/-- Purging keeps a floor sound. -/
theorem Sound.purge (h : Sound settings floor) (status : Option Status) :
    Sound settings { floor with queue := (floor.queue.purge status).1 } := by
  have hsub : (floor.queue.purge status).1.slots.Sublist floor.queue.slots := List.filter_sublist
  have hkept : ∀ {request planned},
      (∃ slot ∈ floor.queue.slots, slot.Carries settings request planned) →
      ∃ slot ∈ (floor.queue.purge status).1.slots, slot.Carries settings request planned := by
    rintro request planned ⟨slot, hslot, hcarries⟩
    refine ⟨slot, List.mem_filter.mpr ⟨hslot, ?_⟩, hcarries⟩
    have hunfinished : slot.task.status.isFinished = false := by
      rw [hcarries.status_eq]
      rfl
    rw [not_isPurged_of_unfinished hunfinished]
    rfl
  exact {
    ids := (hsub.map _).nodup h.ids
    numbered := ⟨(hsub.map _).nodup h.numbered.nodup,
      fun slot hslot => h.numbered.free slot (hsub.subset hslot)⟩
    agrees := fun slot hslot => h.agrees slot (hsub.subset hslot)
    known := fun id hid => h.known id ((hsub.map _).subset hid)
    enqueued := h.enqueued
    order := (pendingIds_purge floor.queue status).symm ▸ h.order
    withdrawn := (pendingIds_purge floor.queue status).symm ▸ h.withdrawn
    unplanned := fun request hheld => hkept (h.unplanned request hheld)
    running := fun request hheld => hkept (h.running request hheld)
    held := h.held }

/-- Every operation keeps a floor sound. -/
theorem Sound.operate (h : Sound settings floor) (records : List Attempt) {operation : Operation}
    (hproper : operation.Proper floor.enqueued) :
    Sound settings (floor.operate records operation) := by
  have hsame : ∀ queue, Sound settings { floor with queue } →
      Sound settings { floor with
        queue, enqueued := floor.enqueued ++ [], withdrawn := floor.withdrawn ++ [] } := by
    intro queue hqueue
    rwa [List.append_nil, List.append_nil]
  cases operation with
  | enqueue task => exact h.enqueue records hproper.1 hproper.2
  | list status => exact hsame _ h
  | get id => exact hsame _ h
  | cancel id => exact h.cancel records id
  | purge status =>
      refine hsame _ ?_
      simp only [Operation.run]
      split
      · exact h
      · exact h.purge _
  | log id => exact hsame _ h

/-- Every step keeps a floor sound. -/
theorem Sound.step {next : Floor} (h : Sound settings floor)
    (hstep : Step settings outcome floor next) : Sound settings next := by
  cases hstep with
  | work hmove => exact h.move hmove
  | operate records operation hproper => exact h.operate records hproper
  | dryRun => exact h

/-- Every floor that can be reached is sound. -/
theorem Reachable.sound (h : Reachable settings outcome floor) : Sound settings floor := by
  induction h with
  | refl => exact sound_empty settings
  | tail _ hstep ih => exact ih.step hstep

end Sound

end Floor

/-! ## How tasks change -/

/-- What becomes of a slot in one step: its status stays or moves on, and once its task is finished
nothing of it changes. -/
structure Slot.Follows (slot next : Slot) : Prop where
  request : next.task.request = slot.task.request
  status : next.task.status = slot.task.status ∨ slot.task.status.Moves next.task.status
  finished : slot.task.status.isFinished = true → next = slot

theorem Slot.Follows.refl (slot : Slot) : slot.Follows slot :=
  ⟨rfl, .inl rfl, fun _ => rfl⟩

/-- A task that is not finished may change as long as its status moves on. -/
theorem Slot.Follows.of_unfinished {slot next : Slot}
    (hrequest : next.task.request = slot.task.request)
    (hunfinished : slot.task.status.isFinished = false)
    (hstatus : next.task.status = slot.task.status ∨ slot.task.status.Moves next.task.status) :
    slot.Follows next where
  request := hrequest
  status := hstatus
  finished := by
    intro hfinished
    rw [hunfinished] at hfinished
    cases hfinished

theorem Slot.follows_cancel (slot : Slot) : slot.Follows slot.cancel := by
  unfold Slot.cancel
  split
  · rename_i hpending
    refine .of_unfinished rfl (by rw [hpending]; rfl) (.inr ?_)
    rw [hpending]
    exact .withdrawn
  · rename_i hflight
    exact .of_unfinished rfl (by rw [hflight]; rfl) (.inl rfl)
  · exact .refl slot

theorem Replaces.exists_follows {old new slot : Slot} {q next : Queue}
    (h : Replaces old new q next) (hfollows : old.Follows new) (hslot : slot ∈ q.slots) :
    ∃ s ∈ next.slots, slot.Follows s := by
  rcases h.mem_or_eq hslot with rfl | hslot
  · exact ⟨new, h.mem_new, hfollows⟩
  · exact ⟨slot, hslot, .refl slot⟩

namespace Floor

section Follows

variable {settings : Settings} {outcome : Request → Ending → Prop} {floor next : Floor}
  {slot : Slot}

/-- A step of a worker removes no task, and changes only the one it is about. -/
theorem Sound.follows_move (h : Sound settings floor) (hmove : Move settings outcome floor next)
    (hslot : slot ∈ floor.queue.slots) : ∃ s ∈ next.queue.slots, slot.Follows s := by
  cases hmove with
  | claim hclaim =>
      obtain ⟨old, hpending, rfl, hreplaces, -⟩ := claim_replaces hclaim
      refine hreplaces.exists_follows (.of_unfinished rfl (by rw [hpending]; rfl) (.inr ?_)) hslot
      rw [hpending]
      exact .claimed
  | @plan request before after hheld =>
      obtain ⟨held, hmem, hcarries⟩ := h.unplanned request (by simp [hheld])
      have hreplaces := change_replaces (h.slot?_eq hmem hcarries)
        (·.withPlan (request.job settings).plan)
      have hflight := hcarries.status_eq
      exact hreplaces.exists_follows
        (.of_unfinished rfl (by rw [hflight]; rfl) (.inl rfl)) hslot
  | @settle request before after ending hheld hending =>
      obtain ⟨held, hmem, hcarries⟩ := h.running request (by simp [hheld])
      have hreplaces := change_replaces (h.slot?_eq hmem hcarries) (·.settledBy ending)
      have hflight := hcarries.status_eq
      refine hreplaces.exists_follows (.of_unfinished rfl (by rw [hflight]; rfl) (.inr ?_)) hslot
      rw [hflight]
      exact .settled (endingStatus_isFinished ending)

/-- An operation removes no task that is not finished. -/
theorem Sound.follows_operate (h : Sound settings floor) (records : List Attempt)
    (operation : Operation) (hslot : slot ∈ floor.queue.slots) :
    (∃ s ∈ (floor.operate records operation).queue.slots, slot.Follows s) ∨
      slot.task.status.isFinished = true ∧
        slot.task.id ∉ (floor.operate records operation).queue.ids := by
  cases operation with
  | enqueue task => exact .inl ⟨slot, List.mem_append_left _ hslot, .refl slot⟩
  | list status => exact .inl ⟨slot, hslot, .refl slot⟩
  | get id => exact .inl ⟨slot, hslot, .refl slot⟩
  | cancel id =>
      left
      show ∃ s ∈ (floor.queue.change id Slot.cancel).slots, slot.Follows s
      cases hfound : floor.queue.slot? id with
      | none =>
          rw [change_of_slot?_eq_none hfound]
          exact ⟨slot, hslot, .refl slot⟩
      | some found =>
          exact (change_replaces hfound Slot.cancel).exists_follows found.follows_cancel hslot
  | purge status =>
      simp only [Floor.operate, Operation.run]
      split
      · exact .inl ⟨slot, hslot, .refl slot⟩
      · rename_i purged hpurged
        by_cases hkept : isPurged purged slot.task = false
        · exact .inl ⟨slot, List.mem_filter.mpr ⟨hslot, by rw [hkept]; rfl⟩, .refl slot⟩
        · right
          constructor
          · by_contra hunfinished
            exact hkept (not_isPurged_of_unfinished (Bool.eq_false_iff.mpr hunfinished))
          · intro hid
            obtain ⟨other, hother, hsame⟩ := List.mem_map.mp hid
            obtain ⟨hmem, hstays⟩ := List.mem_filter.mp hother
            rw [List.inj_on_of_nodup_map h.ids hmem hslot hsame] at hstays
            exact hkept (by simpa using hstays)
  | log id => exact .inl ⟨slot, hslot, .refl slot⟩

/-- What becomes of a task in one step, whoever makes it. -/
theorem Sound.follows_step (h : Sound settings floor) (hstep : Step settings outcome floor next)
    (hslot : slot ∈ floor.queue.slots) :
    (∃ s ∈ next.queue.slots, slot.Follows s) ∨
      slot.task.status.isFinished = true ∧ slot.task.id ∉ next.queue.ids := by
  cases hstep with
  | work hmove => exact .inl (h.follows_move hmove hslot)
  | operate records operation hproper => exact h.follows_operate records operation hslot
  | dryRun => exact .inl ⟨slot, hslot, .refl slot⟩

/-- The outcome of a run is written down where the task of the run still is in flight. -/
theorem Sound.settle_writes (h : Sound settings floor) {request : Request}
    (hrunning : request ∈ floor.running) (ending : Ending) :
    ∃ slot, floor.queue.slot? request.taskId = some slot ∧ slot.task.request = request ∧
      slot.task.status = .inFlight ∧
      (floor.queue.settle request.taskId ending).slot? request.taskId =
        some (slot.settledBy ending) := by
  obtain ⟨slot, hslot, hcarries⟩ := h.running request hrunning
  have hfound := h.slot?_eq hslot hcarries
  exact ⟨slot, hfound, hcarries.request_eq, hcarries.status_eq, slot?_change h.ids hfound rfl⟩

end Follows

/-- Every interleaving is orderly. No task is claimed twice, or after it was cancelled while it was
pending, and of two claimed tasks the one enqueued first is claimed first. The fields of every task
agree with its status. Whatever happens next, a status stays or moves on, nothing of a finished task
changes, and only finished tasks are removed. The outcome of a run finds its task in flight and is
written down there. -/
theorem interleavings_orderly {settings : Settings} {outcome : Request → Ending → Prop}
    {floor : Floor} (h : Reachable settings outcome floor) :
    floor.claimed.Nodup ∧ (∀ id ∈ floor.withdrawn, id ∉ floor.claimed) ∧
      floor.claimed.Sublist floor.enqueued ∧ floor.enqueued.Nodup ∧
      (∀ slot ∈ floor.queue.slots, slot.task.Agrees settings) ∧
      (∀ next, Step settings outcome floor next → ∀ slot ∈ floor.queue.slots,
        (∃ s ∈ next.queue.slots, slot.Follows s) ∨
          slot.task.status.isFinished = true ∧ slot.task.id ∉ next.queue.ids) ∧
      ∀ request ∈ floor.running, ∀ ending, ∃ slot,
        floor.queue.slot? request.taskId = some slot ∧ slot.task.request = request ∧
          slot.task.status = .inFlight ∧
          (floor.queue.settle request.taskId ending).slot? request.taskId =
            some (slot.settledBy ending) := by
  have hsound := h.sound
  have horder : floor.claimed.Sublist floor.enqueued :=
    (List.sublist_append_left _ _).trans hsound.order
  refine ⟨horder.nodup hsound.enqueued, ?_, horder, hsound.enqueued, hsound.agrees, ?_, ?_⟩
  · intro id hid hclaimed
    exact (hsound.withdrawn id hid).2 (List.mem_append_left _ hclaimed)
  · intro next hstep slot hslot
    exact hsound.follows_step hstep hslot
  · intro request hrunning ending
    exact hsound.settle_writes hrunning ending

/-- A new task for the sample request. -/
def sampleTask : Task where
  id := "task"
  description := "d"
  package := Route.sampleRequest.package
  candidates := Route.sampleRequest.candidates

/-- Another task is enqueued before the sample task and cancelled at once; the sample task is
claimed and planned. -/
theorem sampleTask_orderly :
    ∃ floor, Reachable Route.sampleSettings (fun _ _ => True) floor ∧
      floor.enqueued = ["other", "task"] ∧ floor.withdrawn = ["other"] ∧
      floor.claimed = ["task"] ∧ floor.running = [sampleTask.request] ∧
      (∀ id ∈ floor.withdrawn, id ∉ floor.claimed) ∧
      ∃ slot, floor.queue.slot? "task" = some slot ∧ slot.task.status = .inFlight := by
  let other : Task := { sampleTask with id := "other" }
  let enqueued := ((({} : Floor).operate [] (.enqueue other)).operate [] (.enqueue sampleTask))
  let withdrawn := enqueued.operate [] (.cancel "other")
  have hother : Reachable Route.sampleSettings (fun _ _ => True)
      (({} : Floor).operate [] (.enqueue other)) :=
    .single (.operate [] _ ⟨⟨rfl, rfl, rfl, rfl⟩, List.not_mem_nil⟩)
  have henqueued : Reachable Route.sampleSettings (fun _ _ => True) enqueued :=
    hother.tail (.operate [] _ ⟨⟨rfl, rfl, rfl, rfl⟩, by decide⟩)
  have hwithdrawn : Reachable Route.sampleSettings (fun _ _ => True) withdrawn :=
    henqueued.tail (.operate [] _ trivial)
  have hclaimed := hwithdrawn.tail (.work (.claim rfl))
  have hplanned := hclaimed.tail (.work (.plan rfl))
  obtain ⟨-, hapart, -, -, -, -, hwrites⟩ := interleavings_orderly hplanned
  obtain ⟨slot, hslot, -, hflight, -⟩ :=
    hwrites sampleTask.request (List.mem_singleton_self _) (.ok default)
  exact ⟨_, hplanned, rfl, rfl, rfl, rfl, hapart, slot, hslot, hflight⟩

end Floor

/-- The sample task, and the same task under another id. -/
def sampleTasks : Queue :=
  (({} : Queue).enqueue Floor.sampleTask).enqueue { Floor.sampleTask with id := "other" }

end Switchboard.Queue
