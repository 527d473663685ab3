import Mathlib.Data.List.Nodup
import Switchboard.Queue.Basic

/-!
# Slots of the queue

Whatever is done to a task by its id, or to the oldest pending one, replaces one slot by another and
leaves all others where they are. `Replaces` says so, and what follows for the ids, the serials and
the pending tasks of a queue is said here once, for claiming, planning, settling and cancelling
alike.

## Main results

* `change_replaces`, `claim_replaces` — the steps of a worker and a cancellation replace one slot.
* `Replaces.pendingIds_split` — what happens to the pending tasks.
* `slot?_eq_some_of_mem` — a task of a queue with distinct ids is found by its id.
-/

namespace Switchboard.Queue

/-- The ids of the tasks. -/
def ids (q : Queue) : List String := q.slots.map (·.task.id)

/-- The ids of the pending tasks. -/
def pendingIds (q : Queue) : List String :=
  (q.slots.filter (·.task.status = .pending)).map (·.task.id)

/-- The serials tell the slots apart, and those to come are free. -/
structure Numbered (q : Queue) : Prop where
  nodup : (q.slots.map (·.serial)).Nodup
  free : ∀ slot ∈ q.slots, slot.serial < q.nextSerial

/-- Slot `old` is replaced by `new`, and nothing else differs. -/
structure Replaces (old new : Slot) (q next : Queue) : Prop where
  split : ∃ before after, q.slots = before ++ old :: after ∧ next.slots = before ++ new :: after
  nextSerial : next.nextSerial = q.nextSerial

section Replaces

variable {old new : Slot} {q next : Queue}

namespace Replaces

theorem mem_old (h : Replaces old new q next) : old ∈ q.slots := by
  obtain ⟨before, after, hq, -⟩ := h.split
  rw [hq]
  exact List.mem_append_right _ List.mem_cons_self

theorem mem_new (h : Replaces old new q next) : new ∈ next.slots := by
  obtain ⟨before, after, -, hnext⟩ := h.split
  rw [hnext]
  exact List.mem_append_right _ List.mem_cons_self

/-- What is in the queue afterwards is the new slot or was there before. -/
theorem mem_cases (h : Replaces old new q next) {slot : Slot} (hslot : slot ∈ next.slots) :
    slot = new ∨ slot ∈ q.slots := by
  obtain ⟨before, after, hq, hnext⟩ := h.split
  rw [hnext, List.mem_append, List.mem_cons] at hslot
  rw [hq, List.mem_append, List.mem_cons]
  tauto

/-- What was in the queue is the old slot or still there. -/
theorem mem_or_eq (h : Replaces old new q next) {slot : Slot} (hslot : slot ∈ q.slots) :
    slot = old ∨ slot ∈ next.slots := by
  obtain ⟨before, after, hq, hnext⟩ := h.split
  rw [hq, List.mem_append, List.mem_cons] at hslot
  rw [hnext, List.mem_append, List.mem_cons]
  tauto

theorem ids_eq (h : Replaces old new q next) (hid : new.task.id = old.task.id) :
    next.ids = q.ids := by
  obtain ⟨before, after, hq, hnext⟩ := h.split
  rw [ids, ids, hq, hnext]
  simp only [List.map_append, List.map_cons, hid]

theorem numbered (h : Replaces old new q next) (hserial : new.serial = old.serial)
    (hq : q.Numbered) : next.Numbered := by
  constructor
  · obtain ⟨before, after, hslots, hnext⟩ := h.split
    have heq : next.slots.map (·.serial) = q.slots.map (·.serial) := by
      rw [hslots, hnext]
      simp only [List.map_append, List.map_cons, hserial]
    rw [heq]
    exact hq.nodup
  · intro slot hslot
    rw [h.nextSerial]
    rcases h.mem_cases hslot with rfl | hslot
    · rw [hserial]
      exact hq.free old h.mem_old
    · exact hq.free slot hslot

/-- A task that stays pending, or stays not pending, leaves the pending tasks as they were. -/
theorem pendingIds_eq (h : Replaces old new q next) (hid : new.task.id = old.task.id)
    (hstatus : new.task.status = .pending ↔ old.task.status = .pending) :
    next.pendingIds = q.pendingIds := by
  obtain ⟨before, after, hq, hnext⟩ := h.split
  rw [pendingIds, pendingIds, hq, hnext, List.filter_append, List.filter_append,
    List.map_append, List.map_append]
  congr 1
  by_cases hold : old.task.status = .pending
  · have hnew := hstatus.mpr hold
    simp only [List.filter_cons, hold, hnew, decide_true, if_true, List.map_cons, hid]
  · have hnew : ¬ new.task.status = .pending := fun hpending => hold (hstatus.mp hpending)
    simp only [List.filter_cons, hold, hnew, decide_false, Bool.false_eq_true, if_false]

/-- A task that is pending no longer is taken out of the pending tasks. -/
theorem pendingIds_split (h : Replaces old new q next) (hold : old.task.status = .pending)
    (hnew : new.task.status ≠ .pending) :
    ∃ before after, q.pendingIds = before ++ old.task.id :: after ∧
      next.pendingIds = before ++ after := by
  obtain ⟨before, after, hq, hnext⟩ := h.split
  refine ⟨(before.filter (·.task.status = .pending)).map (·.task.id),
    (after.filter (·.task.status = .pending)).map (·.task.id), ?_, ?_⟩
  · simp only [pendingIds, hq, List.filter_append, List.filter_cons, hold, decide_true, if_true,
      List.map_append, List.map_cons]
  · simp only [pendingIds, hnext, List.filter_append, List.filter_cons, hnew, decide_false,
      Bool.false_eq_true, if_false, List.map_append]

end Replaces

end Replaces

/-! ## Changing one slot -/

theorem changeFirst_append {α : Type} {p : α → Bool} {before : List α} {a : α} (after : List α)
    (change : α → α) (hbefore : ∀ b ∈ before, p b = false) (ha : p a) :
    changeFirst p change (before ++ a :: after) = before ++ change a :: after := by
  induction before with
  | nil => rw [List.nil_append, List.nil_append, changeFirst, if_pos ha]
  | cons b before ih =>
      rw [List.forall_mem_cons] at hbefore
      rw [List.cons_append, changeFirst, hbefore.1, ih hbefore.2]
      rfl

theorem changeFirst_of_forall {α : Type} {p : α → Bool} {items : List α} (change : α → α)
    (h : ∀ a ∈ items, p a = false) : changeFirst p change items = items := by
  induction items with
  | nil => rfl
  | cons a rest ih =>
      rw [List.forall_mem_cons] at h
      rw [changeFirst, h.1, ih h.2]
      rfl

/-- The first element with a property, and what is around it. -/
theorem find?_split {α : Type} {p : α → Bool} {items : List α} {a : α}
    (h : items.find? p = some a) :
    p a ∧ ∃ before after, items = before ++ a :: after ∧ ∀ b ∈ before, p b = false := by
  obtain ⟨ha, before, after, hitems, hbefore⟩ := List.find?_eq_some_iff_append.mp h
  refine ⟨ha, before, after, hitems, ?_⟩
  intro b hb
  simpa using hbefore b hb

section Change

variable {q : Queue} {id : String}

theorem slot?_mem {slot : Slot} (h : q.slot? id = some slot) : slot ∈ q.slots :=
  List.mem_of_find?_eq_some h

theorem slot?_id {slot : Slot} (h : q.slot? id = some slot) : slot.task.id = id := by
  rw [Queue.slot?] at h
  simpa using List.find?_some h

/-- Changing the slot of a task replaces it. -/
theorem change_replaces {slot : Slot} (h : q.slot? id = some slot) (change : Slot → Slot) :
    Replaces slot (change slot) q (q.change id change) := by
  obtain ⟨hid, before, after, hslots, hbefore⟩ := find?_split h
  refine ⟨⟨before, after, hslots, ?_⟩, rfl⟩
  rw [Queue.change, hslots]
  exact changeFirst_append after change hbefore hid

/-- Changing the slot of an unknown task changes nothing. -/
theorem change_of_slot?_eq_none (h : q.slot? id = none) (change : Slot → Slot) :
    q.change id change = q := by
  rw [Queue.slot?, List.find?_eq_none] at h
  rw [Queue.change, changeFirst_of_forall change fun slot hslot => by simpa using h slot hslot]

/-- A task of a queue with distinct ids is found by its id. -/
theorem slot?_eq_some_of_mem {slot : Slot} (hids : q.ids.Nodup) (h : slot ∈ q.slots) :
    q.slot? slot.task.id = some slot := by
  cases hfound : q.slot? slot.task.id with
  | none =>
      rw [Queue.slot?, List.find?_eq_none] at hfound
      exact absurd (decide_eq_true rfl) (hfound slot h)
  | some found =>
      rw [List.inj_on_of_nodup_map hids (slot?_mem hfound) h (slot?_id hfound)]

/-- A changed task is found changed. -/
theorem slot?_change {slot : Slot} {change : Slot → Slot} (hids : q.ids.Nodup)
    (h : q.slot? id = some slot) (hid : (change slot).task.id = slot.task.id) :
    (q.change id change).slot? id = some (change slot) := by
  have hreplaces := change_replaces h change
  have hnodup : (q.change id change).ids.Nodup := hreplaces.ids_eq hid ▸ hids
  have hfound := slot?_eq_some_of_mem hnodup hreplaces.mem_new
  rwa [hid, slot?_id h] at hfound

end Change

/-- No run ends with a pending task. -/
theorem endingStatus_ne_pending (ending : Route.Ending) : endingStatus ending ≠ .pending := by
  unfold endingStatus
  split <;> simp

/-! ## Claiming -/

/-- A slot whose task was claimed. -/
def Slot.claimed (slot : Slot) : Slot :=
  { slot with task := { slot.task with status := .inFlight } }

/-- Claiming replaces the slot of the first pending task. -/
theorem claim_replaces {q next : Queue} {slot : Slot} (h : q.claim = some (next, slot)) :
    ∃ old, old.task.status = .pending ∧ slot = old.claimed ∧ Replaces old slot q next ∧
      q.pendingIds = old.task.id :: next.pendingIds := by
  unfold Queue.claim at h
  split at h
  · cases h
  · rename_i old hfound
    obtain ⟨hpending, before, after, hslots, hbefore⟩ := find?_split hfound
    injection h with h
    injection h with hnext hslot
    subst hnext hslot
    have hpending : old.task.status = .pending := of_decide_eq_true hpending
    have hchanged : changeFirst (·.task.status = .pending) (fun _ => old.claimed) q.slots =
        before ++ old.claimed :: after := by
      rw [hslots]
      exact changeFirst_append after _ hbefore (decide_eq_true hpending)
    refine ⟨old, hpending, rfl, ⟨⟨before, after, hslots, hchanged⟩, rfl⟩, ?_⟩
    have hnone : before.filter (·.task.status = .pending) = [] :=
      List.filter_eq_nil_iff.mpr fun b hb => by simp [hbefore b hb]
    show pendingIds q = old.task.id ::
      ((changeFirst (·.task.status = .pending) (fun _ => old.claimed) q.slots).filter
        (·.task.status = .pending)).map (·.task.id)
    rw [hchanged, pendingIds, hslots]
    simp only [List.filter_append, List.filter_cons, hnone, hpending, Slot.claimed, decide_true,
      if_true, List.nil_append, List.map_cons]
    rfl

/-- Nothing can be claimed exactly when nothing is pending. -/
theorem claim_eq_none_iff {q : Queue} : q.claim = none ↔ q.pendingIds = [] := by
  rw [pendingIds, List.map_eq_nil_iff, List.filter_eq_nil_iff]
  unfold Queue.claim
  split
  · rename_i hnone
    exact ⟨fun _ => List.find?_eq_none.mp hnone, fun _ => rfl⟩
  · rename_i slot hslot
    constructor
    · intro h
      cases h
    · intro h
      exact absurd (List.find?_some hslot) (h slot (List.mem_of_find?_eq_some hslot))

end Switchboard.Queue
