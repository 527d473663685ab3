import Switchboard.Proofs.Cache.Crowd
import Switchboard.Proofs.Cache.Freshness

/-!
# Requests for a new index among concurrent lookups

A lookup that starts the indexer takes note of the request for a new index and withdraws it. Until
its record is stored, or the indexer has failed, nobody else can see that a new index was asked for,
and the old record may be valid for the tree. So a lookup that begins after the request can be
served from a record that was stored before it. This happens only in that window, and only to
lookups that never have to wait for the build lock.

## Main results

* `Crowd.record_run` — the record is the last one that was stored.
* `Crowd.Honours.run` — a request is visible or worked on until a record is stored.
* `hit_after_request` — what a lookup that is served from the record after a request was served.
* `hit_despite_request` — a lookup that is served from the record of before the request.
-/

namespace Switchboard.Cache

open Switchboard.Source (Fingerprint Indexer Tree)

variable {crowd : Crowd} {event : Event} {events : List Event} {indexer : Indexer}
  {now : Timestamp} {site last : Site} {lookup next : Lookup} {i j : Nat} {r : Record}

/-! ## Records that are stored -/

/-- The record that the next step of a lookup stores. -/
def Lookup.toStore? (now : Timestamp) : Lookup → Option Record
  | .indexed fingerprint _ _ (.ok document) => some (madeRecord fingerprint now document)
  | _ => none

/-- The record that an event stores. -/
def Event.stored? (crowd : Crowd) : Event → Option Record
  | .advance i _ now => crowd.lookups[i]?.bind (Lookup.toStore? now)
  | _ => none

/-- The record that is stored last in a run of events. -/
def Crowd.lastStored? : Crowd → List Event → Option Record
  | _, [] => none
  | crowd, event :: events =>
      ((event.perform crowd).lastStored? events).or (event.stored? crowd)

theorem Move.record (h : Move indexer now site lookup last next) :
    last.cache.record = (lookup.toStore? now).or site.cache.record := by
  cases h with
  | stores made => rw [made]; rfl
  | _ => rfl

theorem Event.record_perform (crowd : Crowd) (event : Event) :
    (event.perform crowd).site.cache.record =
      (event.stored? crowd).or crowd.site.cache.record := by
  have hshift := Crowd.shift_perform crowd event
  generalize event.perform crowd = after at hshift
  cases hshift with
  | idles absent => rw [Event.stored?, absent]; rfl
  | moves present move => rw [Event.stored?, present]; exact move.record
  | _ => rfl

/-- The record is the last one that was stored, or the one that was there at the beginning. -/
theorem Crowd.record_run (crowd : Crowd) (events : List Event) :
    (crowd.run events).site.cache.record =
      (crowd.lastStored? events).or crowd.site.cache.record := by
  induction events generalizing crowd with
  | nil => rfl
  | cons event events ih =>
      show ((event.perform crowd).run events).site.cache.record = _
      rw [ih, event.record_perform crowd, Crowd.lastStored?, Option.or_assoc]

/-! ## Requests -/

/-- Whether a lookup took note of a request, and its index is neither stored nor given up. -/
def Lookup.redeems : Lookup → Bool
  | .indexing _ _ wasInvalidated | .indexed _ _ wasInvalidated _ => wasInvalidated
  | _ => false

theorem Lookup.isHolder_of_redeems (h : lookup.redeems = true) : lookup.isHolder = true := by
  cases lookup with
  | indexing | indexed => rfl
  | _ => cases h

/-- A request is visible, or some lookup is working on it. -/
def Crowd.Honours (crowd : Crowd) : Prop :=
  crowd.site.cache.invalidated = true ∨ ∃ i, crowd.Has Lookup.redeems i

/-- A move that stores nothing keeps a request that is visible or worked on. -/
theorem Move.honours (h : Move indexer now site lookup last next)
    (hstores : lookup.toStore? now = none)
    (hopen : site.cache.invalidated = true ∨ lookup.redeems = true) :
    last.cache.invalidated = true ∨ next.redeems = true := by
  cases h with
  | starts =>
      -- the request is withdrawn, and noted
      rcases hopen with hvisible | hredeems
      · exact .inr hvisible
      · cases hredeems
  | indexed => exact hopen
  | stores => cases hstores
  | fails =>
      left
      show (_ || _) = true
      rw [Bool.or_eq_true]
      exact hopen
  | rests => exact hopen
  | _ => exact .inl (hopen.resolve_right nofun)

theorem Crowd.Honours.step (h : crowd.Honours) (hstores : event.stored? crowd = none) :
    (event.perform crowd).Honours := by
  have hshift := Crowd.shift_perform crowd event
  generalize event.perform crowd = after at hshift
  cases hshift with
  | enters => exact h.imp id fun ⟨k, hk⟩ => ⟨k, hk.enter⟩
  | idles => exact h
  | invalidates => exact .inl rfl
  | edits => exact h
  | @moves i indexer now lookup next site present move =>
      have hnone : lookup.toStore? now = none := by
        rw [Event.stored?, present] at hstores
        exact hstores
      have hmoved : crowd.site.cache.invalidated = true ∨ lookup.redeems = true →
          Crowd.Honours ⟨site, crowd.lookups.set i next⟩ := fun hopen =>
        (move.honours hnone hopen).imp id fun hredeems => ⟨i, Crowd.has_set_self present hredeems⟩
      rcases h with hvisible | ⟨k, hk⟩
      · exact hmoved (.inl hvisible)
      · by_cases hki : k = i
        · obtain ⟨redeemer, hredeemer, hredeems⟩ := hki ▸ hk
          cases present.symm.trans hredeemer
          exact hmoved (.inr hredeems)
        · exact .inr ⟨k, hk.set_of_ne hki⟩

/-- Until a record is stored, a request is visible or worked on. -/
theorem Crowd.Honours.run (h : crowd.Honours) (hstores : crowd.lastStored? events = none) :
    (crowd.run events).Honours := by
  induction events generalizing crowd with
  | nil => exact h
  | cons event events ih =>
      obtain ⟨hlater, hevent⟩ := Option.or_eq_none_iff.mp hstores
      exact ih (h.step hevent) hlater

/-! ## Hits after a request -/

/-- A lookup is served from the record in a step that finds it valid. -/
theorem Move.valid_of_hit (h : Move indexer now site lookup last (.done (.ok ⟨r, .hit⟩)))
    (hopen : lookup.isDone = false) :
    ∃ fingerprint, site.cache.validRecord? fingerprint = some r ∧
      (lookup = .measured fingerprint ∨ lookup = .holding fingerprint) := by
  generalize hanswer : Except.ok (Found.mk r .hit) = answer at h
  cases h with
  | unmeasured => cases hanswer
  | hit valid =>
      cases hanswer
      exact ⟨_, valid, .inl rfl⟩
  | lateHit valid =>
      cases hanswer
      exact ⟨_, valid, .inr rfl⟩
  | stores => exact absurd (congrArg isHit hanswer) (by simp)
  | fails => exact absurd (congrArg isHit hanswer) (by simp)
  | rests => cases hopen

/-- Whatever the order of events, a lookup that is served from the record after a new index was
asked for gets the record that was stored last since then. The one exception is a lookup that is
served before it needs the build lock, while the indexer works for another lookup that took note of
the request: as long as no record was stored since, it gets the one of before. -/
theorem hit_after_request (site : Site) (before after : List Event) (i : Nat) (indexer : Indexer)
    (now : Timestamp) {lookup : Lookup} {r : Record} :
    let asked := Crowd.run ⟨site, []⟩ (before ++ [.invalidate])
    let crowd := asked.run after
    crowd.lookups[i]? = some lookup → lookup.isDone = false →
    ((Event.advance i indexer now).perform crowd).lookups[i]? = some (.done (.ok ⟨r, .hit⟩)) →
      asked.lastStored? after = some r ∨
      asked.lastStored? after = none ∧ (∃ fingerprint, lookup = .measured fingerprint) ∧
        ∃ j, j ≠ i ∧ crowd.Has Lookup.redeems j := by
  intro asked crowd hlookup hopen hhit
  have hmove := lookup.move_step indexer now crowd.site
  rw [Crowd.perform_advance hlookup,
    List.getElem?_set_self (List.getElem?_eq_some_iff.mp hlookup).1] at hhit
  rw [Option.some.inj hhit] at hmove
  obtain ⟨fingerprint, hvalid, hstands⟩ := hmove.valid_of_hit hopen
  obtain ⟨hclear, hrecord, -⟩ := validRecord?_eq_some.mp hvalid
  have hlast : crowd.site.cache.record =
      (asked.lastStored? after).or asked.site.cache.record := asked.record_run after
  cases hstored : asked.lastStored? after with
  | some stored =>
      rw [hstored, hrecord] at hlast
      exact .inl hlast.symm
  | none =>
      right
      have hasked : asked.Honours := by
        left
        show (Crowd.run ⟨site, []⟩ (before ++ [.invalidate])).site.cache.invalidated = true
        rw [Crowd.run_append]
        rfl
      obtain ⟨j, hj⟩ := (hasked.run hstored).resolve_left (by rw [hclear]; exact nofun)
      rcases hstands with rfl | rfl
      · exact ⟨rfl, ⟨fingerprint, rfl⟩, j, hj.ne hlookup rfl, hj⟩
      · -- under the lock nobody else can be working on the request
        have hexclusive : crowd.Exclusive := by
          show (Crowd.run (Crowd.run _ _) after).Exclusive
          rw [← Crowd.run_append]
          exact Crowd.exclusive_run site _
        have hholds : crowd.Has Lookup.isHolder j :=
          hj.imp fun _ ⟨h, hredeems⟩ => ⟨h, Lookup.isHolder_of_redeems hredeems⟩
        exact absurd (hexclusive.unique hholds ⟨_, hlookup, rfl⟩) (hj.ne hlookup rfl)

/-! ### The window -/

/-- A lookup gets to start the indexer, and another one measures the tree. -/
def overtaking (indexer : Indexer) (now : Timestamp) : List Event :=
  [.enter] ++ List.replicate 5 (.advance 0 indexer now) ++ [.enter, .advance 1 indexer now]

section Window

variable {fingerprint : Fingerprint} (indexer : Indexer) (now : Timestamp)
  (hlocked : site.cache.locked = false)
  (hmeasure : site.cache.tree.fingerprint site.disk = .ok fingerprint)

include hlocked hmeasure

/-- The first lookup has withdrawn the request, and the second one has yet to look at the record. -/
theorem run_overtaking :
    (Crowd.run ⟨site, []⟩ [.invalidate]).run (overtaking indexer now) =
      ⟨site.indexing, [.indexing fingerprint site.cache.record true, .measured fingerprint]⟩ := by
  simp [Crowd.run, overtaking, List.replicate, Event.perform, Lookup.step, hmeasure, hlocked,
    Cache.invalidate, validRecord?, Site.indexing]

theorem lastStored?_overtaking :
    (Crowd.run ⟨site, []⟩ [.invalidate]).lastStored? (overtaking indexer now) = none := by
  simp [Crowd.run, Crowd.lastStored?, overtaking, List.replicate, Event.perform, Event.stored?,
    Lookup.toStore?, Lookup.step, hmeasure, hlocked, Cache.invalidate, validRecord?]

end Window

/-- The second lookup is served from the record that was there before the request. -/
theorem hit_overtaking (hfresh : Fresh r site) (hlocked : site.cache.locked = false)
    (indexer : Indexer) (now : Timestamp) :
    ((Event.advance 1 indexer now).perform ((Crowd.run ⟨site, []⟩ [.invalidate]).run
      (overtaking indexer now))).lookups[1]? = some (.done (.ok ⟨r, .hit⟩)) := by
  obtain ⟨fingerprint, hmeasure, hdigest⟩ := hfresh.measured
  have hvalid : site.indexing.cache.validRecord? fingerprint = some r :=
    validRecord?_eq_some.mpr ⟨rfl, hfresh.record, hdigest⟩
  rw [run_overtaking indexer now hlocked hmeasure, Crowd.perform_advance rfl]
  simp only [Lookup.step, hvalid]
  rfl

/-- A cache that is opened on a disk with a record of an empty tree. -/
def reopened : Site := .opened besides "/b" (published "b" (blankRecord []))

theorem files_reopened : reopened.cache.tree.files reopened.disk = .ok [] := by
  rw [reopened, Site.opened_tree, Site.opened_disk]
  exact files_published (blankRecord []) rfl (by decide +kernel)

theorem unlocked_reopened : reopened.cache.locked = false := Site.opened_locked ..

set_option maxRecDepth 100000 in
theorem record_reopened : reopened.cache.record = some (blankRecord []) := by
  have hloadable : (blankRecord []).isLoadable = true := by decide +kernel
  have hplace : (published "b" (blankRecord [])).resolve "/b" = .ok ["b"] := rfl
  rw [reopened, Site.opened_record, load_of_content hloadable hplace rfl]

theorem fresh_reopened : Fresh (blankRecord []) reopened :=
  fresh_blank (Site.opened_invalidated ..) record_reopened files_reopened

theorem measure_reopened :
    reopened.cache.tree.fingerprint reopened.disk = .ok (Source.fingerprintOf []) :=
  Source.fingerprint_eq_ok.mpr ⟨[], files_reopened, rfl⟩

/-- A lookup that begins after a new index was asked for is served from the record that the cache
was opened with: no record is stored before it is answered. -/
theorem hit_despite_request :
    let asked := Crowd.run ⟨reopened, []⟩ [.invalidate]
    let crowd := asked.run (overtaking blank ⟨0, 0⟩)
    asked.lookups = [] ∧ asked.lastStored? (overtaking blank ⟨0, 0⟩) = none ∧
    reopened.cache.record = some (blankRecord []) ∧
    ((Event.advance 1 blank ⟨0, 0⟩).perform crowd).lookups[1]? =
      some (.done (.ok ⟨blankRecord [], .hit⟩)) :=
  ⟨rfl, lastStored?_overtaking blank ⟨0, 0⟩ unlocked_reopened measure_reopened, record_reopened,
    hit_overtaking fresh_reopened unlocked_reopened blank ⟨0, 0⟩⟩

/-- While this lookup is served, the other one is the one that took note of the request. -/
theorem hit_after_request_reopened :
    let crowd := (Crowd.run ⟨reopened, []⟩ [.invalidate]).run (overtaking blank ⟨0, 0⟩)
    crowd.lookups[1]? = some (.measured (Source.fingerprintOf [])) ∧
    ((Event.advance 1 blank ⟨0, 0⟩).perform crowd).lookups[1]? =
      some (.done (.ok ⟨blankRecord [], .hit⟩)) ∧
    ∃ j, j ≠ 1 ∧ crowd.Has Lookup.redeems j := by
  have hnone := lastStored?_overtaking blank ⟨0, 0⟩ unlocked_reopened measure_reopened
  have hlookup : ((Crowd.run ⟨reopened, []⟩ [.invalidate]).run
      (overtaking blank ⟨0, 0⟩)).lookups[1]? = some (.measured (Source.fingerprintOf [])) := by
    rw [run_overtaking blank ⟨0, 0⟩ unlocked_reopened measure_reopened, List.getElem?_cons_succ,
      List.getElem?_cons_zero]
  have hhit := hit_overtaking fresh_reopened unlocked_reopened blank ⟨0, 0⟩
  refine ⟨hlookup, hhit, ?_⟩
  have hserved := hit_after_request reopened [] (overtaking blank ⟨0, 0⟩) 1 blank ⟨0, 0⟩ hlookup rfl
    hhit
  rcases hserved with hstored | ⟨-, -, hother⟩
  · cases hnone.symm.trans hstored
  · exact hother

end Switchboard.Cache
