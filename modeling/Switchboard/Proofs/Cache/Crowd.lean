import Mathlib.Data.List.Induction
import Switchboard.Proofs.Cache.Lookup

/-!
# Lookups at the same time

Any number of lookups may be under way at once. They take their steps in any order, and between two
steps the disk may be edited and a new index may be asked for. `Move` says once what one step of a
lookup can do; every invariant of a crowd of lookups is read off it.

## Main results

* `Lookup.move_step` — a step is one of the moves.
* `Crowd.exclusive_run` — at most one lookup holds the build lock.
-/

namespace Switchboard.Cache

open Switchboard.Source (Fingerprint Indexer Tree)

/-! ## The moves of a lookup -/

/-- The site with the build lock taken or released. -/
def Site.withLock (site : Site) (locked : Bool) : Site :=
  { site with cache := { site.cache with locked } }

/-- The site when the request for a new index was taken note of. -/
def Site.started (site : Site) : Site :=
  { site with cache := { site.cache with
      invalidated := false, builds := site.cache.builds + 1 } }

/-- The site when the indexer failed for a lookup. -/
def Site.abandoned (site : Site) (previous : Option Record) (wasInvalidated : Bool)
    (reason : String) : Site :=
  { site with cache := { site.cache with
      invalidated := site.cache.invalidated || wasInvalidated
      staleReason := if previous.isSome then some reason else site.cache.staleReason
      locked := false } }

/-- What one step of a lookup can do: the lookup before, the site it leaves, the lookup after. -/
inductive Move (indexer : Indexer) (now : Timestamp) (site : Site) :
    Lookup → Site → Lookup → Prop
  | unmeasured {report : Report}
      (measure : site.cache.tree.fingerprint site.disk = .error report) :
      Move indexer now site .fresh site (.done (.error report))
  | measured {fingerprint : Fingerprint}
      (measure : site.cache.tree.fingerprint site.disk = .ok fingerprint) :
      Move indexer now site .fresh site (.measured fingerprint)
  | hit {fingerprint : Fingerprint} {r : Record}
      (valid : site.cache.validRecord? fingerprint = some r) :
      Move indexer now site (.measured fingerprint) site (.done (.ok ⟨r, .hit⟩))
  | queued {fingerprint : Fingerprint}
      (invalid : site.cache.validRecord? fingerprint = none) :
      Move indexer now site (.measured fingerprint) site (.queued fingerprint)
  | waits {fingerprint : Fingerprint} (locked : site.cache.locked = true) :
      Move indexer now site (.queued fingerprint) site (.queued fingerprint)
  | holds {fingerprint : Fingerprint} (unlocked : site.cache.locked = false) :
      Move indexer now site (.queued fingerprint) (site.withLock true) (.holding fingerprint)
  | lateHit {fingerprint : Fingerprint} {r : Record}
      (valid : site.cache.validRecord? fingerprint = some r) :
      Move indexer now site (.holding fingerprint) (site.withLock false) (.done (.ok ⟨r, .hit⟩))
  | missed {fingerprint : Fingerprint}
      (invalid : site.cache.validRecord? fingerprint = none) :
      Move indexer now site (.holding fingerprint) site (.missed fingerprint)
  | starts {fingerprint : Fingerprint} :
      Move indexer now site (.missed fingerprint) site.started
        (.indexing fingerprint site.cache.record site.cache.invalidated)
  | indexed {fingerprint : Fingerprint} {previous : Option Record} {wasInvalidated : Bool} :
      Move indexer now site (.indexing fingerprint previous wasInvalidated) site
        (.indexed fingerprint previous wasInvalidated
          (indexer.index site.cache.tree site.disk now))
  | stores {fingerprint : Fingerprint} {previous : Option Record} {wasInvalidated : Bool}
      {document : Index.Document} {r : Record} (made : r = madeRecord fingerprint now document) :
      Move indexer now site (.indexed fingerprint previous wasInvalidated (.ok document))
        ((store site r).withLock false) (.done (.ok ⟨r, renewal previous⟩))
  | fails {fingerprint : Fingerprint} {previous : Option Record} {wasInvalidated : Bool}
      {report : Report} :
      Move indexer now site (.indexed fingerprint previous wasInvalidated (.error report))
        (site.abandoned previous wasInvalidated report.message)
        (.done (fallback previous report.message))
  | rests {answer : Except Report Found} :
      Move indexer now site (.done answer) site (.done answer)

/-- A step is one of the moves. -/
theorem Lookup.move_step (indexer : Indexer) (now : Timestamp) (site : Site) (lookup : Lookup) :
    Move indexer now site lookup (lookup.step indexer now site).1
      (lookup.step indexer now site).2 := by
  cases lookup with
  | fresh =>
      rw [Lookup.step]
      split
      · next measure => exact .unmeasured measure
      · next measure => exact .measured measure
  | measured fingerprint =>
      rw [Lookup.step]
      split
      · next valid => exact .hit valid
      · next invalid => exact .queued invalid
  | queued fingerprint =>
      rw [Lookup.step]
      split
      · next locked => exact .waits locked
      · next unlocked => exact .holds (Bool.eq_false_iff.mpr unlocked)
  | holding fingerprint =>
      rw [Lookup.step]
      split
      · next valid => exact .lateHit valid
      · next invalid => exact .missed invalid
  | missed fingerprint => exact .starts
  | indexing fingerprint previous wasInvalidated => exact .indexed
  | indexed fingerprint previous wasInvalidated result =>
      cases result with
      | ok document => exact .stores rfl
      | error report => cases previous <;> exact .fails
  | done answer => exact .rests

/-- A move leaves the tree and the path of the record as they are. -/
theorem Move.cache_keeps {indexer : Indexer} {now : Timestamp} {site last : Site}
    {lookup next : Lookup} (h : Move indexer now site lookup last next) :
    last.cache.tree = site.cache.tree ∧ last.cache.path = site.cache.path := by
  cases h <;> exact ⟨rfl, rfl⟩

/-! ## Crowds -/

/-- The lookups that have begun, in the order in which they began. -/
structure Crowd where
  site : Site
  lookups : List Lookup := []

/-- What can happen to a crowd. -/
inductive Event where
  /-- A lookup begins. -/
  | enter
  /-- The lookup with the given number takes a step. -/
  | advance (i : Nat) (indexer : Indexer) (now : Timestamp)
  /-- A new index is asked for. -/
  | invalidate
  /-- The disk is changed from outside. -/
  | edit (disk : Disk)

/-- What an event leaves behind. -/
def Event.perform (crowd : Crowd) : Event → Crowd
  | .enter => { crowd with lookups := crowd.lookups ++ [.fresh] }
  | .advance i indexer now =>
      match crowd.lookups[i]? with
      | none => crowd
      | some lookup =>
          let (site, next) := lookup.step indexer now crowd.site
          ⟨site, crowd.lookups.set i next⟩
  | .invalidate =>
      { crowd with site := { crowd.site with cache := crowd.site.cache.invalidate } }
  | .edit disk => { crowd with site := { crowd.site with disk } }

namespace Crowd

variable {crowd : Crowd} {event : Event} {events : List Event} {indexer : Indexer}
  {now : Timestamp} {i j : Nat} {lookup next : Lookup} {site : Site}

/-- What a run of events leaves behind. -/
def run (crowd : Crowd) (events : List Event) : Crowd :=
  events.foldl Event.perform crowd

theorem run_append (crowd : Crowd) (events later : List Event) :
    crowd.run (events ++ later) = (crowd.run events).run later :=
  List.foldl_append

/-- Nothing happens when a lookup that has not begun is to take a step. -/
theorem perform_advance_of_none (h : crowd.lookups[i]? = none) :
    (Event.advance i indexer now).perform crowd = crowd := by
  simp only [Event.perform, h]

theorem perform_advance (h : crowd.lookups[i]? = some lookup) :
    (Event.advance i indexer now).perform crowd =
      ⟨(lookup.step indexer now crowd.site).1,
        crowd.lookups.set i (lookup.step indexer now crowd.site).2⟩ := by
  simp only [Event.perform, h]

/-- What an event does: a lookup begins, a lookup moves, or the site alone changes. -/
inductive Shift (crowd : Crowd) : Event → Crowd → Prop
  | enters : Shift crowd .enter ⟨crowd.site, crowd.lookups ++ [.fresh]⟩
  | idles {i : Nat} {indexer : Indexer} {now : Timestamp} (absent : crowd.lookups[i]? = none) :
      Shift crowd (.advance i indexer now) crowd
  | moves {i : Nat} {indexer : Indexer} {now : Timestamp} {lookup next : Lookup} {site : Site}
      (present : crowd.lookups[i]? = some lookup)
      (move : Move indexer now crowd.site lookup site next) :
      Shift crowd (.advance i indexer now) ⟨site, crowd.lookups.set i next⟩
  | invalidates : Shift crowd .invalidate
      ⟨{ crowd.site with cache := crowd.site.cache.invalidate }, crowd.lookups⟩
  | edits {disk : Disk} : Shift crowd (.edit disk) ⟨{ crowd.site with disk }, crowd.lookups⟩

/-- Every event does one of these. -/
theorem shift_perform (crowd : Crowd) (event : Event) :
    Shift crowd event (event.perform crowd) := by
  cases event with
  | enter => exact .enters
  | advance i indexer now =>
      cases hlookup : crowd.lookups[i]? with
      | none =>
          rw [perform_advance_of_none hlookup]
          exact .idles hlookup
      | some lookup =>
          rw [perform_advance hlookup]
          exact .moves hlookup (lookup.move_step indexer now crowd.site)
  | invalidate => exact .invalidates
  | edit disk => exact .edits

/-- The tree of a cache stays the same. -/
theorem tree_run (crowd : Crowd) (events : List Event) :
    (crowd.run events).site.cache.tree = crowd.site.cache.tree := by
  induction events generalizing crowd with
  | nil => rfl
  | cons event events ih =>
      refine (ih (event.perform crowd)).trans ?_
      have hshift := shift_perform crowd event
      generalize event.perform crowd = after at hshift
      cases hshift with
      | moves present move => exact move.cache_keeps.1
      | _ => rfl

/-- After a lookup has moved, a lookup is that one or one of the others. -/
theorem getElem?_set_cases {lookups : List Lookup} (h : (lookups.set i next)[j]? = some lookup) :
    j = i ∧ lookup = next ∨ j ≠ i ∧ lookups[j]? = some lookup := by
  by_cases hij : j = i
  · subst hij
    rw [List.getElem?_set_self'] at h
    obtain ⟨_, _, rfl⟩ := Option.map_eq_some_iff.mp h
    exact .inl ⟨rfl, rfl⟩
  · rw [List.getElem?_set_ne (Ne.symm hij)] at h
    exact .inr ⟨hij, h⟩

/-- After a lookup has begun, a lookup is that one or one of the others. -/
theorem getElem?_enter_cases {lookups : List Lookup}
    (h : (lookups ++ [.fresh])[j]? = some lookup) :
    lookup = .fresh ∨ lookups[j]? = some lookup := by
  rcases Nat.lt_or_ge j lookups.length with hj | hj
  · rw [List.getElem?_append_left hj] at h
    exact .inr h
  · rw [List.getElem?_append_right hj] at h
    exact .inl (List.mem_singleton.mp (List.mem_of_getElem? h))

end Crowd

/-! ## The build lock -/

/-- Whether a lookup holds the build lock. -/
def Lookup.isHolder : Lookup → Bool
  | .holding _ | .missed _ | .indexing .. | .indexed .. => true
  | _ => false

/-- A move keeps the lock as it is, takes it when it is free, or releases it. -/
theorem Move.lock_cases {indexer : Indexer} {now : Timestamp} {site last : Site}
    {lookup next : Lookup} (h : Move indexer now site lookup last next) :
    (lookup.isHolder = next.isHolder ∧ last.cache.locked = site.cache.locked) ∨
    (lookup.isHolder = false ∧ next.isHolder = true ∧
      site.cache.locked = false ∧ last.cache.locked = true) ∨
    (lookup.isHolder = true ∧ next.isHolder = false ∧ last.cache.locked = false) := by
  cases h with
  | holds unlocked => exact .inr (.inl ⟨rfl, rfl, unlocked, rfl⟩)
  | lateHit | stores | fails => exact .inr (.inr ⟨rfl, rfl, rfl⟩)
  | _ => exact .inl ⟨rfl, rfl⟩

namespace Crowd

variable {crowd : Crowd} {event : Event} {events : List Event}

/-- The lookup with the given number satisfies `p`. -/
def Has (crowd : Crowd) (p : Lookup → Bool) (i : Nat) : Prop :=
  ∃ lookup, crowd.lookups[i]? = some lookup ∧ p lookup = true

section Has

variable {p : Lookup → Bool} {site : Site} {lookup next : Lookup} {i j : Nat}

theorem Has.of_set (h : Has ⟨site, crowd.lookups.set i next⟩ p j) :
    j = i ∧ p next = true ∨ j ≠ i ∧ crowd.Has p j := by
  obtain ⟨found, hfound, hp⟩ := h
  rcases getElem?_set_cases hfound with ⟨rfl, rfl⟩ | ⟨hne, hold⟩
  · exact .inl ⟨rfl, hp⟩
  · exact .inr ⟨hne, found, hold, hp⟩

theorem Has.of_enter (hfresh : p .fresh = false)
    (h : Has ⟨site, crowd.lookups ++ [.fresh]⟩ p j) : crowd.Has p j := by
  obtain ⟨found, hfound, hp⟩ := h
  rcases getElem?_enter_cases hfound with rfl | hold
  · cases hfresh.symm.trans hp
  · exact ⟨found, hold, hp⟩

theorem Has.enter (h : crowd.Has p j) : Has ⟨site, crowd.lookups ++ [.fresh]⟩ p j := by
  obtain ⟨found, hfound, hp⟩ := h
  have hj := (List.getElem?_eq_some_iff.mp hfound).1
  exact ⟨found, (List.getElem?_append_left hj).trans hfound, hp⟩

theorem Has.set_of_ne (h : crowd.Has p j) (hne : j ≠ i) :
    Has ⟨site, crowd.lookups.set i next⟩ p j := by
  obtain ⟨found, hfound, hp⟩ := h
  exact ⟨found, (List.getElem?_set_ne (Ne.symm hne)).trans hfound, hp⟩

theorem has_set_self (h : crowd.lookups[i]? = some lookup) (hp : p next = true) :
    Has ⟨site, crowd.lookups.set i next⟩ p i :=
  ⟨next, List.getElem?_set_self (List.getElem?_eq_some_iff.mp h).1, hp⟩

theorem Has.ne (h : crowd.Has p j) (hi : crowd.lookups[i]? = some lookup)
    (hp : p lookup = false) : j ≠ i := by
  rintro rfl
  obtain ⟨found, hfound, hfp⟩ := h
  obtain rfl : lookup = found := Option.some.inj (hi.symm.trans hfound)
  cases hp.symm.trans hfp

end Has

/-- At most one lookup holds the build lock, and it is locked as long as one does. -/
structure Exclusive (crowd : Crowd) : Prop where
  locked : ∀ {i}, crowd.Has Lookup.isHolder i → crowd.site.cache.locked = true
  unique : ∀ {i j}, crowd.Has Lookup.isHolder i → crowd.Has Lookup.isHolder j → i = j

theorem Exclusive.step (h : crowd.Exclusive) : (event.perform crowd).Exclusive := by
  have hshift := shift_perform crowd event
  generalize event.perform crowd = after at hshift
  cases hshift with
  | enters =>
      exact ⟨fun hi => h.locked (hi.of_enter rfl),
        fun hi hj => h.unique (hi.of_enter rfl) (hj.of_enter rfl)⟩
  | idles => exact h
  | invalidates => exact ⟨h.locked, h.unique⟩
  | edits => exact ⟨h.locked, h.unique⟩
  | @moves i indexer now lookup next site present move =>
      rcases move.lock_cases with ⟨hsame, hlock⟩ | ⟨-, -, hfree, hlock⟩ | ⟨hheld, hnext, -⟩
      · -- the holders are where they were
        have hold : ∀ {j}, Has ⟨site, crowd.lookups.set i next⟩ Lookup.isHolder j →
            crowd.Has Lookup.isHolder j := by
          intro j hj
          rcases hj.of_set with ⟨rfl, hholds⟩ | ⟨-, hold⟩
          · exact ⟨lookup, present, hsame.trans hholds⟩
          · exact hold
        exact ⟨fun hi => hlock.trans (h.locked (hold hi)),
          fun hi hj => h.unique (hold hi) (hold hj)⟩
      · -- nobody held the lock before
        have honly : ∀ {j}, Has ⟨site, crowd.lookups.set i next⟩ Lookup.isHolder j → j = i := by
          intro j hj
          rcases hj.of_set with ⟨rfl, -⟩ | ⟨-, hold⟩
          · rfl
          · cases hfree.symm.trans (h.locked hold)
        exact ⟨fun _ => hlock, fun hi hj => (honly hi).trans (honly hj).symm⟩
      · -- nobody holds the lock any more
        have hnone : ∀ {j}, ¬Has ⟨site, crowd.lookups.set i next⟩ Lookup.isHolder j := by
          intro j hj
          rcases hj.of_set with ⟨-, hholds⟩ | ⟨hne, hold⟩
          · cases hnext.symm.trans hholds
          · exact hne (h.unique hold ⟨lookup, present, hheld⟩)
        exact ⟨fun hi => (hnone hi).elim, fun hi => (hnone hi).elim⟩

theorem exclusive_of_nil (site : Site) : Exclusive ⟨site, []⟩ := by
  have hnone : ∀ {i}, ¬Has ⟨site, []⟩ Lookup.isHolder i := by
    rintro i ⟨lookup, hlookup, -⟩
    cases hlookup
  exact ⟨fun hi => (hnone hi).elim, fun hi => (hnone hi).elim⟩

/-- In every run at most one lookup holds the build lock. -/
theorem exclusive_run (site : Site) (events : List Event) :
    (Crowd.run ⟨site, []⟩ events).Exclusive := by
  induction events using List.reverseRecOn with
  | nil => exact exclusive_of_nil site
  | append_singleton past event ih =>
      rw [run_append]
      exact ih.step

end Crowd

end Switchboard.Cache
