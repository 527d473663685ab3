import Switchboard.Cache.Basic

/-!
# A lookup by itself

A lookup that nobody disturbs ends in one of four ways: the tree cannot be measured, the record is
valid, a new record is made, or the indexer fails. `Served` says what each way takes, what it leaves
behind and what is answered; nothing else about the steps of a lookup is needed for histories in
which one operation follows the other.

## Main results

* `getOrBuild_unmeasured`, `getOrBuild_hit`, `getOrBuild_renewed`, `getOrBuild_failed` — what each
  way takes and where it leads.
* `served_getOrBuild` — a lookup on an unlocked cache ends in one of these ways.
-/

namespace Switchboard.Cache

open Switchboard.Source (Fingerprint Indexer Tree)

variable {indexer : Indexer} {now : Timestamp} {site last : Site} {answer : Except Report Found}
  {fingerprint : Fingerprint} {r : Record}

/-! ## Valid records -/

theorem validRecord?_eq_some {cache : Cache} :
    cache.validRecord? fingerprint = some r ↔
      cache.invalidated = false ∧ cache.record = some r ∧ r.fingerprint = fingerprint.digest := by
  rw [validRecord?]
  cases cache.invalidated <;> simp [Option.filter_eq_some_iff]

theorem validRecord?_of_invalidated {cache : Cache} (h : cache.invalidated = true) :
    cache.validRecord? fingerprint = none :=
  if_pos h

theorem validRecord?_of_ne {cache : Cache} (hrecord : cache.record = some r)
    (h : r.fingerprint ≠ fingerprint.digest) : cache.validRecord? fingerprint = none := by
  rw [Option.eq_none_iff_forall_ne_some]
  intro other hvalid
  obtain ⟨-, hother, hdigest⟩ := validRecord?_eq_some.mp hvalid
  obtain rfl : r = other := Option.some.inj (hrecord.symm.trans hother)
  exact h hdigest

/-! ## The ways a lookup ends -/

/-- The record of an index that was just made. -/
def madeRecord (fingerprint : Fingerprint) (now : Timestamp) (document : Index.Document) : Record :=
  ⟨fingerprint.digest, now, fingerprint.inputs.length, document⟩

@[simp] theorem madeRecord_fingerprint (fingerprint : Fingerprint) (now : Timestamp)
    (document : Index.Document) :
    (madeRecord fingerprint now document).fingerprint = fingerprint.digest := rfl

/-- The site after a new record was made. -/
def Site.renewed (site : Site) (r : Record) : Site where
  disk := (persist site.disk site.cache.path r).1
  cache := { site.cache with
    record := some r
    invalidated := false
    staleReason := none
    locked := false
    builds := site.cache.builds + 1 }

/-- The site after the indexer failed. -/
def Site.failed (site : Site) (reason : String) : Site where
  disk := site.disk
  cache := { site.cache with
    staleReason := if site.cache.record.isSome then some reason else site.cache.staleReason
    locked := false
    builds := site.cache.builds + 1 }

/-- What is answered when the indexer failed. -/
def fallback (record : Option Record) (reason : String) : Except Report Found :=
  match record with
  | some r => .ok ⟨r, .stale reason⟩
  | none => .error (.ofError (.indexing reason))

/-- How a new record is announced. -/
def renewal (record : Option Record) : Origin :=
  if record.isSome then .rebuilt else .built

/-- The ways a lookup by itself ends: the site it leaves and the answer. -/
inductive Served (indexer : Indexer) (now : Timestamp) (site : Site) :
    Site → Except Report Found → Prop
  | unmeasured {report : Report}
      (measure : site.cache.tree.fingerprint site.disk = .error report) :
      Served indexer now site site (.error report)
  | hit {fingerprint : Fingerprint} {r : Record}
      (measure : site.cache.tree.fingerprint site.disk = .ok fingerprint)
      (valid : site.cache.validRecord? fingerprint = some r) :
      Served indexer now site site (.ok ⟨r, .hit⟩)
  | renewed {fingerprint : Fingerprint} {document : Index.Document} {r : Record}
      (measure : site.cache.tree.fingerprint site.disk = .ok fingerprint)
      (invalid : site.cache.validRecord? fingerprint = none)
      (index : indexer.index site.cache.tree site.disk now = .ok document)
      (made : r = madeRecord fingerprint now document) :
      Served indexer now site (site.renewed r) (.ok ⟨r, renewal site.cache.record⟩)
  | failed {fingerprint : Fingerprint} {report : Report}
      (measure : site.cache.tree.fingerprint site.disk = .ok fingerprint)
      (invalid : site.cache.validRecord? fingerprint = none)
      (index : indexer.index site.cache.tree site.disk now = .error report) :
      Served indexer now site (site.failed report.message)
        (fallback site.cache.record report.message)

/-! ## Step by step -/

theorem run_done (answer : Except Report Found) (fuel : Nat) :
    Lookup.run indexer now Lookup.isDone fuel site (.done answer) = (site, .done answer) := by
  cases fuel <;> rfl

/-- A lookup that is not done takes its next step. -/
theorem run_of_step {fuel : Nat} {lookup next : Lookup}
    (hstep : lookup.step indexer now site = (last, next)) (hopen : lookup.isDone = false) :
    lookup.run indexer now Lookup.isDone (fuel + 1) site =
      next.run indexer now Lookup.isDone fuel last := by
  rw [Lookup.run, hopen, hstep]
  rfl

/-- The steps up to the answer decide what a lookup by itself does. -/
theorem getOrBuild_of_run
    (h : Lookup.fresh.run indexer now Lookup.isDone Lookup.length site = (last, .done answer)) :
    getOrBuild indexer now site = (last, answer) := by
  rw [getOrBuild, Lookup.goOn, h]
  rfl

/-- The site while the indexer is at work. -/
def Site.indexing (site : Site) : Site :=
  { site with cache := { site.cache with
      locked := true, invalidated := false, builds := site.cache.builds + 1 } }

theorem step_fresh (hmeasure : site.cache.tree.fingerprint site.disk = .ok fingerprint) :
    Lookup.fresh.step indexer now site = (site, .measured fingerprint) := by
  simp only [Lookup.step, hmeasure]

/-- A lookup that finds no valid record on an unlocked cache gets to start the indexer. -/
theorem run_indexing (hlocked : site.cache.locked = false)
    (hmeasure : site.cache.tree.fingerprint site.disk = .ok fingerprint)
    (hinvalid : site.cache.validRecord? fingerprint = none) :
    Lookup.fresh.run indexer now Lookup.isDone Lookup.length site =
      (Lookup.indexing fingerprint site.cache.record site.cache.invalidated).run indexer now
        Lookup.isDone 2 site.indexing := by
  have hqueued : (Lookup.measured fingerprint).step indexer now site =
      (site, .queued fingerprint) := by
    simp only [Lookup.step, hinvalid]
  have hholding : (Lookup.queued fingerprint).step indexer now site =
      ({ site with cache := { site.cache with locked := true } }, .holding fingerprint) := by
    simp [Lookup.step, hlocked]
  have hmissed : (Lookup.holding fingerprint).step indexer now
      { site with cache := { site.cache with locked := true } } =
      ({ site with cache := { site.cache with locked := true } }, .missed fingerprint) := by
    have hstill : { site.cache with locked := true }.validRecord? fingerprint = none := hinvalid
    simp only [Lookup.step, hstill]
  rw [Lookup.length, run_of_step (step_fresh hmeasure) rfl, run_of_step hqueued rfl,
    run_of_step hholding rfl, run_of_step hmissed rfl, run_of_step rfl rfl]
  rfl

/-! ## Where each way leads -/

variable {report : Report} {document : Index.Document}

theorem getOrBuild_unmeasured
    (hmeasure : site.cache.tree.fingerprint site.disk = .error report) :
    getOrBuild indexer now site = (site, .error report) := by
  have hstep : Lookup.fresh.step indexer now site = (site, .done (.error report)) := by
    simp only [Lookup.step, hmeasure]
  exact getOrBuild_of_run ((run_of_step hstep rfl).trans (run_done _ _))

theorem getOrBuild_hit (hmeasure : site.cache.tree.fingerprint site.disk = .ok fingerprint)
    (hvalid : site.cache.validRecord? fingerprint = some r) :
    getOrBuild indexer now site = (site, .ok ⟨r, .hit⟩) := by
  have hstep : (Lookup.measured fingerprint).step indexer now site =
      (site, .done (.ok ⟨r, .hit⟩)) := by
    simp only [Lookup.step, hvalid]
  exact getOrBuild_of_run
    (((run_of_step (step_fresh hmeasure) rfl).trans (run_of_step hstep rfl)).trans (run_done _ _))

/-- The indexer works on the tree and the disk as they are. -/
theorem step_indexing {previous : Option Record} {wasInvalidated : Bool} :
    (Lookup.indexing fingerprint previous wasInvalidated).step indexer now site.indexing =
      (site.indexing, .indexed fingerprint previous wasInvalidated
        (indexer.index site.cache.tree site.disk now)) :=
  rfl

theorem getOrBuild_renewed (hlocked : site.cache.locked = false)
    (hmeasure : site.cache.tree.fingerprint site.disk = .ok fingerprint)
    (hinvalid : site.cache.validRecord? fingerprint = none)
    (hindex : indexer.index site.cache.tree site.disk now = .ok document) :
    getOrBuild indexer now site = (site.renewed (madeRecord fingerprint now document),
      .ok ⟨madeRecord fingerprint now document, renewal site.cache.record⟩) := by
  refine getOrBuild_of_run ((run_indexing hlocked hmeasure hinvalid).trans ?_)
  rw [run_of_step step_indexing rfl, hindex]
  rfl

theorem getOrBuild_failed (hlocked : site.cache.locked = false)
    (hmeasure : site.cache.tree.fingerprint site.disk = .ok fingerprint)
    (hinvalid : site.cache.validRecord? fingerprint = none)
    (hindex : indexer.index site.cache.tree site.disk now = .error report) :
    getOrBuild indexer now site =
      (site.failed report.message, fallback site.cache.record report.message) := by
  refine getOrBuild_of_run ((run_indexing hlocked hmeasure hinvalid).trans ?_)
  rw [run_of_step step_indexing rfl, hindex, run_of_step rfl rfl, run_done]
  cases hrecord : site.cache.record <;>
    simp [Site.indexing, Site.failed, serveStale, fallback, hrecord]

/-- Every lookup on an unlocked cache ends in one of the four ways. -/
theorem served_getOrBuild (indexer : Indexer) (now : Timestamp)
    (hlocked : site.cache.locked = false) :
    Served indexer now site (getOrBuild indexer now site).1 (getOrBuild indexer now site).2 := by
  cases hmeasure : site.cache.tree.fingerprint site.disk with
  | error report =>
      rw [getOrBuild_unmeasured hmeasure]
      exact .unmeasured hmeasure
  | ok fingerprint =>
      cases hvalid : site.cache.validRecord? fingerprint with
      | some r =>
          rw [getOrBuild_hit hmeasure hvalid]
          exact .hit hmeasure hvalid
      | none =>
          cases hindex : indexer.index site.cache.tree site.disk now with
          | ok document =>
              rw [getOrBuild_renewed hlocked hmeasure hvalid hindex]
              exact .renewed hmeasure hvalid hindex rfl
          | error report =>
              rw [getOrBuild_failed hlocked hmeasure hvalid hindex]
              exact .failed hmeasure hvalid hindex

end Switchboard.Cache
