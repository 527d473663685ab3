import Mathlib.Logic.Relation
import Switchboard.Proofs.Queue.Slots

/-!
# Workers on the floor

Any number of workers share a queue. Each claims a task, plans it, and settles it when its run has
ended, and the steps of different workers may come in any order. A `Floor` is the queue together
with the requests that workers hold, and with what happened so far: which tasks were enqueued,
which were claimed and which were cancelled before they were. `Floor.Move` is one step of a worker.

Where nothing but such steps is done to a queue with distinct ids, every slot is at all times in one
of four stages of its own task: waiting as it was, claimed, planned or settled. So the queue is
known exactly, whatever the order of the steps.

## Main results

* `Floor.Staged.move`, `Floor.staged_of_moves` — every slot is in a stage of its own task.
* `Floor.Staged.stage_of_atRest`, `Floor.Staged.claimed_of_atRest` — when nothing is left to do, the
  tasks that were pending are settled, and were claimed in their order.
-/

namespace Switchboard.Queue

open Switchboard.Route (Request Ending Settings)

/-- A queue with workers at it. -/
structure Floor where
  queue : Queue := {}
  /-- The requests of claimed tasks that are not planned yet. -/
  unplanned : List Request := []
  /-- The requests of planned tasks that are not settled yet. -/
  running : List Request := []
  /-- The ids of all tasks that were put into the queue. -/
  enqueued : List String := []
  /-- The ids of all tasks that were claimed. -/
  claimed : List String := []
  /-- The ids of the tasks that were cancelled while they were pending. -/
  withdrawn : List String := []

namespace Floor

/-- A step of a worker, when `outcome` says how the run of a request may end. -/
inductive Move (settings : Settings) (outcome : Request → Ending → Prop) :
    Floor → Floor → Prop where
  | claim {floor : Floor} {queue : Queue} {slot : Slot}
      (h : floor.queue.claim = some (queue, slot)) :
      Move settings outcome floor { floor with
        queue
        unplanned := floor.unplanned ++ [slot.task.request]
        claimed := floor.claimed ++ [slot.task.id] }
  | plan {floor : Floor} {request : Request} {before after : List Request}
      (h : floor.unplanned = before ++ request :: after) :
      Move settings outcome floor { floor with
        queue := floor.queue.setPlan request.taskId (request.job settings).plan
        unplanned := before ++ after
        running := floor.running ++ [request] }
  | settle {floor : Floor} {request : Request} {before after : List Request} {ending : Ending}
      (h : floor.running = before ++ request :: after) (hending : outcome request ending) :
      Move settings outcome floor { floor with
        queue := floor.queue.settle request.taskId ending
        running := before ++ after }

/-- The floor of a queue that nobody works at. -/
def ofQueue (q : Queue) : Floor := { queue := q, enqueued := q.ids }

/-- Nobody holds a request and nothing can be claimed. -/
structure AtRest (floor : Floor) : Prop where
  unplanned : floor.unplanned = []
  running : floor.running = []
  pending : floor.queue.pendingIds = []

end Floor

/-! ## Stages -/

/-- A slot whose task has a plan. -/
def Slot.withPlan (slot : Slot) (plan : Route.Plan) : Slot :=
  { slot with task := { slot.task with plan := some plan } }

/-- A slot whose task was settled. -/
def Slot.settledBy (slot : Slot) (ending : Ending) : Slot :=
  { slot with
    task := { slot.task with
      status := endingStatus ending
      result := ending.toOption
      error := endingError ending } }

/-- How far the work on a task has come. -/
inductive Stage where
  | waiting
  | claimed
  | planned
  | settled (ending : Ending)

/-- A slot at a stage of the work on its task. -/
def Slot.atStage (settings : Settings) (slot : Slot) : Stage → Slot
  | .waiting => slot
  | .claimed => slot.claimed
  | .planned => slot.claimed.withPlan (slot.task.request.job settings).plan
  | .settled ending =>
      (slot.claimed.withPlan (slot.task.request.job settings).plan).settledBy ending

@[simp] theorem Slot.atStage_id (settings : Settings) (slot : Slot) (stage : Stage) :
    (slot.atStage settings stage).task.id = slot.task.id := by
  cases stage <;> rfl

@[simp] theorem Slot.atStage_serial (settings : Settings) (slot : Slot) (stage : Stage) :
    (slot.atStage settings stage).serial = slot.serial := by
  cases stage <;> rfl

@[simp] theorem Slot.atStage_request (settings : Settings) (slot : Slot) (stage : Stage) :
    (slot.atStage settings stage).task.request = slot.task.request := by
  cases stage <;> rfl

/-- Work on a task that has begun is not undone. -/
theorem Slot.eq_waiting_of_pending {settings : Settings} {slot : Slot} {stage : Stage}
    (h : (slot.atStage settings stage).task.status = .pending) : stage = .waiting := by
  cases stage with
  | waiting => rfl
  | claimed => cases h
  | planned => cases h
  | settled ending => exact absurd h (endingStatus_ne_pending ending)

/-- Replacing a slot of a queue that is given slot by slot. -/
theorem Replaces.slots_eq_map {q next : Queue} {slots : List Slot} {view : Slot → Slot}
    {slot new : Slot} (h : Replaces (view slot) new q next) (hq : q.slots = slots.map view)
    (hslot : slot ∈ slots) (hids : (slots.map (·.task.id)).Nodup)
    (hview : ∀ s, (view s).task.id = s.task.id) :
    next.slots = slots.map fun s => if s.task.id = slot.task.id then new else view s := by
  obtain ⟨before, after, hold, hnew⟩ := h.split
  rw [hq] at hold
  obtain ⟨first, rest, rfl, rfl, hrest⟩ := List.map_eq_append_iff.mp hold
  obtain ⟨found, last, rfl, hfound, rfl⟩ := List.map_eq_cons_iff.mp hrest
  have hid : found.task.id = slot.task.id := by
    rw [← hview found, hfound, hview]
  have hsame : found = slot :=
    List.inj_on_of_nodup_map hids (List.mem_append_right _ List.mem_cons_self) hslot hid
  subst hsame
  rw [List.map_append, List.map_cons, List.nodup_append] at hids
  obtain ⟨-, hlast, hapart⟩ := hids
  rw [hnew, List.map_append, List.map_cons, if_pos rfl]
  congr 1
  · refine (List.map_congr_left fun s hs => ?_).symm
    exact if_neg (hapart _ (List.mem_map_of_mem hs) _ List.mem_cons_self)
  · congr 1
    refine (List.map_congr_left fun s hs => ?_).symm
    refine if_neg fun heq => (List.nodup_cons.mp hlast).1 ?_
    rw [← heq]
    exact List.mem_map_of_mem hs

namespace Floor

/-- The floor came from queue `q` by steps of workers alone: every slot is in the stage of its task,
workers hold the requests of the tasks that are claimed or planned, and tasks are claimed in their
order. -/
structure Staged (settings : Settings) (outcome : Request → Ending → Prop) (q : Queue)
    (stage : String → Stage) (floor : Floor) : Prop where
  slots : floor.queue.slots = q.slots.map fun slot => slot.atStage settings (stage slot.task.id)
  touched : ∀ slot ∈ q.slots, stage slot.task.id ≠ .waiting → slot.task.status = .pending
  unplanned : ∀ request, request ∈ floor.unplanned ↔
    ∃ slot ∈ q.slots, slot.task.request = request ∧ stage slot.task.id = .claimed
  running : ∀ request, request ∈ floor.running ↔
    ∃ slot ∈ q.slots, slot.task.request = request ∧ stage slot.task.id = .planned
  outcome : ∀ slot ∈ q.slots, ∀ ending, stage slot.task.id = .settled ending →
    outcome slot.task.request ending
  unplanned_nodup : floor.unplanned.Nodup
  running_nodup : floor.running.Nodup
  order : floor.claimed ++ floor.queue.pendingIds = q.pendingIds

section Staged

variable {settings : Settings} {outcome : Request → Ending → Prop} {q : Queue}
  {stage : String → Stage} {floor next : Floor}

/-- Nothing has been done yet. -/
theorem staged_ofQueue (settings : Settings) (outcome : Request → Ending → Prop) (q : Queue) :
    Staged settings outcome q (fun _ => .waiting) (ofQueue q) where
  slots := by simp [ofQueue, Slot.atStage]
  touched := fun _ _ h => absurd rfl h
  unplanned := by simp [ofQueue]
  running := by simp [ofQueue]
  outcome := by simp
  unplanned_nodup := List.nodup_nil
  running_nodup := List.nodup_nil
  order := rfl

/-- The stages after the task with an id has come to a new one. -/
def advanced (stage : String → Stage) (id : String) (new : Stage) : String → Stage :=
  fun name => if name = id then new else stage name

/-- The holders of a stage that nobody has just reached or left are the same. -/
theorem exists_advanced_iff (hids : q.ids.Nodup) {slot : Slot} (hslot : slot ∈ q.slots)
    {new target : Stage} (request : Request) :
    (∃ s ∈ q.slots, s.task.request = request ∧
        advanced stage slot.task.id new s.task.id = target) ↔
      (slot.task.request = request ∧ new = target) ∨
        request ≠ slot.task.request ∧
          ∃ s ∈ q.slots, s.task.request = request ∧ stage s.task.id = target := by
  constructor
  · rintro ⟨s, hs, rfl, htarget⟩
    unfold advanced at htarget
    split at htarget
    · rename_i hid
      rw [List.inj_on_of_nodup_map hids hs hslot hid]
      exact .inl ⟨rfl, htarget⟩
    · rename_i hid
      exact .inr ⟨fun heq => hid (congrArg Request.taskId heq), s, hs, rfl, htarget⟩
  · rintro (⟨rfl, rfl⟩ | ⟨hne, s, hs, rfl, htarget⟩)
    · exact ⟨slot, hslot, rfl, if_pos rfl⟩
    · refine ⟨s, hs, rfl, ?_⟩
      rw [advanced, if_neg, htarget]
      intro hid
      exact hne (by rw [List.inj_on_of_nodup_map hids hs hslot hid])

theorem nodup_append_singleton {α : Type} {items : List α} {a : α} (h : items.Nodup)
    (ha : a ∉ items) : (items ++ [a]).Nodup := by
  rw [List.nodup_middle, List.append_nil, List.nodup_cons]
  exact ⟨ha, h⟩

/-! The three ways in which a list of held requests changes when task `a` comes to a new stage: its
request is taken up, left out, or given away; `p` says whether the list is that of the new stage. -/

section Hands

variable {α : Type} {items before after : List α} {a b : α} {p : Prop}

theorem mem_taken_up_iff (hp : p) : b ∈ items ++ [a] ↔ (a = b ∧ p) ∨ b ≠ a ∧ b ∈ items := by
  rw [List.mem_append, List.mem_singleton]
  by_cases heq : b = a
  · simp [heq, hp]
  · simp [heq, Ne.symm heq]

theorem mem_left_out_iff (hp : ¬ p) (ha : a ∉ items) :
    b ∈ items ↔ (a = b ∧ p) ∨ b ≠ a ∧ b ∈ items := by
  by_cases heq : b = a
  · simp [heq, hp, ha]
  · simp [heq, hp]

theorem mem_given_away_iff (hp : ¬ p) (h : (before ++ a :: after).Nodup) :
    b ∈ before ++ after ↔ (a = b ∧ p) ∨ b ≠ a ∧ b ∈ before ++ a :: after := by
  rw [List.nodup_middle, List.nodup_cons, List.mem_append] at h
  rw [List.mem_append, List.mem_append, List.mem_cons]
  by_cases heq : b = a
  · subst heq
    simp [h.1, hp]
  · simp [heq, hp]

end Hands

theorem Staged.ids_eq (h : Staged settings outcome q stage floor) : floor.queue.ids = q.ids := by
  rw [ids, ids, h.slots, List.map_map]
  exact List.map_congr_left fun slot _ => Slot.atStage_id settings slot _

theorem Staged.mem_slots (h : Staged settings outcome q stage floor) {slot : Slot}
    (hslot : slot ∈ q.slots) :
    slot.atStage settings (stage slot.task.id) ∈ floor.queue.slots := by
  rw [h.slots]
  exact List.mem_map_of_mem hslot

/-- A task is found by its id, in its stage. -/
theorem Staged.slot?_eq (h : Staged settings outcome q stage floor) (hids : q.ids.Nodup)
    {slot : Slot} (hslot : slot ∈ q.slots) :
    floor.queue.slot? slot.task.id = some (slot.atStage settings (stage slot.task.id)) := by
  have hfound := slot?_eq_some_of_mem (h.ids_eq ▸ hids) (h.mem_slots hslot)
  rwa [Slot.atStage_id] at hfound

/-- A worker holds the request of a task in no stage but its own. -/
theorem exists_stage_iff {slot : Slot} (hslot : slot ∈ q.slots) {target : Stage} :
    (∃ s ∈ q.slots, s.task.request = slot.task.request ∧ stage s.task.id = target) ↔
      stage slot.task.id = target := by
  constructor
  · rintro ⟨s, hs, hrequest, htarget⟩
    have hid : s.task.id = slot.task.id := congrArg Request.taskId hrequest
    rw [← hid, htarget]
  · intro htarget
    exact ⟨slot, hslot, rfl, htarget⟩

/-- A task comes to a new stage: what has to be shown of the floor afterwards. -/
theorem Staged.advance (h : Staged settings outcome q stage floor) (hids : q.ids.Nodup)
    {slot : Slot} (hslot : slot ∈ q.slots) (hpending : slot.task.status = .pending) {new : Stage}
    (hreplaces : Replaces (slot.atStage settings (stage slot.task.id)) (slot.atStage settings new)
      floor.queue next.queue)
    (hunplanned : next.unplanned.Nodup ∧ ∀ request, request ∈ next.unplanned ↔
      (slot.task.request = request ∧ new = .claimed) ∨
        request ≠ slot.task.request ∧ request ∈ floor.unplanned)
    (hrunning : next.running.Nodup ∧ ∀ request, request ∈ next.running ↔
      (slot.task.request = request ∧ new = .planned) ∨
        request ≠ slot.task.request ∧ request ∈ floor.running)
    (houtcome : ∀ ending, new = .settled ending → outcome slot.task.request ending)
    (horder : next.claimed ++ next.queue.pendingIds =
      floor.claimed ++ floor.queue.pendingIds) :
    Staged settings outcome q (advanced stage slot.task.id new) next where
  slots := by
    rw [hreplaces.slots_eq_map h.slots hslot hids fun s => Slot.atStage_id settings s _]
    refine List.map_congr_left fun s hs => ?_
    unfold advanced
    split
    · rename_i hid
      rw [List.inj_on_of_nodup_map hids hs hslot hid]
    · rfl
  touched := by
    intro s hs
    unfold advanced
    split
    · rename_i hid
      rw [List.inj_on_of_nodup_map hids hs hslot hid]
      exact fun _ => hpending
    · exact h.touched s hs
  unplanned := by
    intro request
    rw [hunplanned.2, exists_advanced_iff hids hslot, h.unplanned]
  running := by
    intro request
    rw [hrunning.2, exists_advanced_iff hids hslot, h.running]
  outcome := by
    intro s hs ending
    unfold advanced
    split
    · rename_i hid
      rw [List.inj_on_of_nodup_map hids hs hslot hid]
      exact houtcome ending
    · exact h.outcome s hs ending
  unplanned_nodup := hunplanned.1
  running_nodup := hrunning.1
  order := horder.trans h.order

/-- A task that is claimed comes from waiting to claimed. -/
theorem Staged.claim (h : Staged settings outcome q stage floor) (hids : q.ids.Nodup)
    {queue : Queue} {claimed : Slot} (hclaim : floor.queue.claim = some (queue, claimed)) :
    ∃ stage, Staged settings outcome q stage { floor with
      queue
      unplanned := floor.unplanned ++ [claimed.task.request]
      claimed := floor.claimed ++ [claimed.task.id] } := by
  obtain ⟨old, hold, rfl, hreplaces, hpending⟩ := claim_replaces hclaim
  have hmem := hreplaces.mem_old
  rw [h.slots] at hmem
  obtain ⟨slot, hslot, rfl⟩ := List.mem_map.mp hmem
  have hstage : stage slot.task.id = .waiting := Slot.eq_waiting_of_pending hold
  have hsame : slot.atStage settings (stage slot.task.id) = slot := by
    rw [hstage]
    rfl
  have hreplaces : Replaces (slot.atStage settings (stage slot.task.id))
      (slot.atStage settings .claimed) floor.queue queue := by
    rwa [hsame] at hreplaces ⊢
  rw [hsame] at hold hpending ⊢
  have hunplanned : slot.task.request ∉ floor.unplanned := by
    rw [h.unplanned, exists_stage_iff hslot, hstage]
    exact Stage.noConfusion
  have hrunning : slot.task.request ∉ floor.running := by
    rw [h.running, exists_stage_iff hslot, hstage]
    exact Stage.noConfusion
  refine ⟨_, h.advance hids hslot hold hreplaces
    ⟨nodup_append_singleton h.unplanned_nodup hunplanned, fun _ => mem_taken_up_iff rfl⟩
    ⟨h.running_nodup, fun _ => mem_left_out_iff Stage.noConfusion hrunning⟩ nofun ?_⟩
  rw [hpending, List.append_assoc]
  rfl

/-- A task that is planned comes from claimed to planned. -/
theorem Staged.plan (h : Staged settings outcome q stage floor) (hids : q.ids.Nodup)
    {request : Request} {before after : List Request}
    (hheld : floor.unplanned = before ++ request :: after) :
    ∃ stage, Staged settings outcome q stage { floor with
      queue := floor.queue.setPlan request.taskId (request.job settings).plan
      unplanned := before ++ after
      running := floor.running ++ [request] } := by
  have hmem : request ∈ floor.unplanned := by
    rw [hheld]
    exact List.mem_append_right _ List.mem_cons_self
  obtain ⟨slot, hslot, rfl, hstage⟩ := (h.unplanned request).mp hmem
  have hreplaces := change_replaces (h.slot?_eq hids hslot)
    (·.withPlan (slot.task.request.job settings).plan)
  have hnew : (slot.atStage settings (stage slot.task.id)).withPlan
      (slot.task.request.job settings).plan = slot.atStage settings .planned := by
    rw [hstage]
    rfl
  rw [hnew] at hreplaces
  have hpending : slot.task.status = .pending :=
    h.touched slot hslot (by rw [hstage]; exact Stage.noConfusion)
  have hrunning : slot.task.request ∉ floor.running := by
    rw [h.running, exists_stage_iff hslot, hstage]
    exact Stage.noConfusion
  have hnodup : (before ++ slot.task.request :: after).Nodup := hheld ▸ h.unplanned_nodup
  refine ⟨_, h.advance hids hslot hpending hreplaces
    ⟨(List.nodup_cons.mp (List.nodup_middle.mp hnodup)).2, ?_⟩
    ⟨nodup_append_singleton h.running_nodup hrunning, fun _ => mem_taken_up_iff rfl⟩ nofun ?_⟩
  · rw [hheld]
    exact fun _ => mem_given_away_iff Stage.noConfusion hnodup
  · congr 1
    exact hreplaces.pendingIds_eq (by rw [Slot.atStage_id, Slot.atStage_id]) (by rw [hstage]; rfl)

/-- A task that is settled comes from planned to settled. -/
theorem Staged.settle (h : Staged settings outcome q stage floor) (hids : q.ids.Nodup)
    {request : Request} {before after : List Request} {ending : Ending}
    (hheld : floor.running = before ++ request :: after) (hending : outcome request ending) :
    ∃ stage, Staged settings outcome q stage { floor with
      queue := floor.queue.settle request.taskId ending
      running := before ++ after } := by
  have hmem : request ∈ floor.running := by
    rw [hheld]
    exact List.mem_append_right _ List.mem_cons_self
  obtain ⟨slot, hslot, rfl, hstage⟩ := (h.running request).mp hmem
  have hreplaces := change_replaces (h.slot?_eq hids hslot) (·.settledBy ending)
  have hnew : (slot.atStage settings (stage slot.task.id)).settledBy ending =
      slot.atStage settings (.settled ending) := by
    rw [hstage]
    rfl
  rw [hnew] at hreplaces
  have hpending : slot.task.status = .pending :=
    h.touched slot hslot (by rw [hstage]; exact Stage.noConfusion)
  have hunplanned : slot.task.request ∉ floor.unplanned := by
    rw [h.unplanned, exists_stage_iff hslot, hstage]
    exact Stage.noConfusion
  have hnodup : (before ++ slot.task.request :: after).Nodup := hheld ▸ h.running_nodup
  refine ⟨_, h.advance hids hslot hpending hreplaces
    ⟨h.unplanned_nodup, fun _ => mem_left_out_iff Stage.noConfusion hunplanned⟩
    ⟨(List.nodup_cons.mp (List.nodup_middle.mp hnodup)).2, ?_⟩ ?_ ?_⟩
  · rw [hheld]
    exact fun _ => mem_given_away_iff Stage.noConfusion hnodup
  · intro other hother
    injection hother with hother
    exact hother ▸ hending
  · congr 1
    refine hreplaces.pendingIds_eq (by rw [Slot.atStage_id, Slot.atStage_id]) ?_
    rw [hstage]
    exact ⟨fun h => absurd h (endingStatus_ne_pending ending), nofun⟩

/-- A step of a worker brings one task to its next stage. -/
theorem Staged.move (h : Staged settings outcome q stage floor) (hids : q.ids.Nodup)
    (hmove : Move settings outcome floor next) :
    ∃ stage, Staged settings outcome q stage next := by
  cases hmove with
  | claim hclaim => exact h.claim hids hclaim
  | plan hheld => exact h.plan hids hheld
  | settle hheld hending => exact h.settle hids hheld hending

/-- Whatever the order of their steps, workers leave every slot in a stage of its own task. -/
theorem staged_of_moves (hids : q.ids.Nodup)
    (h : Relation.ReflTransGen (Move settings outcome) (ofQueue q) floor) :
    ∃ stage, Staged settings outcome q stage floor := by
  induction h with
  | refl => exact ⟨_, staged_ofQueue settings outcome q⟩
  | tail _ hmove ih =>
      obtain ⟨stage, hstaged⟩ := ih
      exact hstaged.move hids hmove

/-- No two running requests are those of one task. -/
theorem Staged.running_ids_nodup (h : Staged settings outcome q stage floor)
    (hids : q.ids.Nodup) : (floor.running.map (·.taskId)).Nodup := by
  refine List.Nodup.map_on ?_ h.running_nodup
  intro first hfirst second hsecond hid
  obtain ⟨slot, hslot, rfl, -⟩ := (h.running first).mp hfirst
  obtain ⟨other, hother, rfl, -⟩ := (h.running second).mp hsecond
  rw [List.inj_on_of_nodup_map hids hslot hother hid]

/-! ## When the work is done -/

/-- When nothing is left to do, every task that was pending is settled by the end of its own run,
and every other slot is as it was. -/
theorem Staged.stage_of_atRest (h : Staged settings outcome q stage floor) (hrest : floor.AtRest)
    {slot : Slot} (hslot : slot ∈ q.slots) :
    (slot.task.status = .pending ∧
        ∃ ending, outcome slot.task.request ending ∧ stage slot.task.id = .settled ending) ∨
      slot.task.status ≠ .pending ∧ stage slot.task.id = .waiting := by
  cases hstage : stage slot.task.id with
  | waiting =>
      refine .inr ⟨fun hpending => ?_, rfl⟩
      have hmem := h.mem_slots hslot
      rw [hstage] at hmem
      have hid : slot.task.id ∈ floor.queue.pendingIds :=
        List.mem_map_of_mem (List.mem_filter.mpr ⟨hmem, decide_eq_true hpending⟩)
      rw [hrest.pending] at hid
      exact List.not_mem_nil hid
  | claimed =>
      have hmem := (h.unplanned _).mpr ⟨slot, hslot, rfl, hstage⟩
      rw [hrest.unplanned] at hmem
      exact absurd hmem List.not_mem_nil
  | planned =>
      have hmem := (h.running _).mpr ⟨slot, hslot, rfl, hstage⟩
      rw [hrest.running] at hmem
      exact absurd hmem List.not_mem_nil
  | settled ending =>
      refine .inl ⟨h.touched slot hslot (by rw [hstage]; exact Stage.noConfusion), ending, ?_, rfl⟩
      exact h.outcome slot hslot ending hstage

theorem Staged.claimed_of_atRest (h : Staged settings outcome q stage floor)
    (hrest : floor.AtRest) : floor.claimed = q.pendingIds := by
  rw [← h.order, hrest.pending, List.append_nil]

end Staged

end Floor

end Switchboard.Queue
