import Switchboard.Proofs.Cache.History

/-!
# Unchanged trees are not indexed again

A lookup is served from the record exactly when nobody asked for a new index and the record has
the fingerprint of the tree as it is. Once a lookup was served from the record, or a new record was
made, every further lookup is served from that record until a file of the tree changes or a new
index is asked for. It makes no difference whether the cache is opened again in between.

Persisting writes to two places. When one of them belongs to the tree, the record that was just
made is out of date: the tree must stand apart from both.

## Main results

* `getOrBuild_eq_hit_iff` — when a lookup is served from the record.
* `hit_until_changed` — the whole history of a record that stays valid.
* `rebuilt_without_change` — the file that the record is first written to must not belong to the
  tree.
-/

namespace Switchboard.Cache

open Switchboard.Source (File Fingerprint Indexer Tree)

variable {tree : Tree} {path : String} {disk : Disk} {site last : Site} {act : Act}
  {acts : List Act} {indexer : Indexer} {now : Timestamp} {answer : Except Report Found}
  {r : Record}

/-! ## One lookup -/

/-- The record is valid for the tree as it is. -/
structure Fresh (r : Record) (site : Site) : Prop where
  clear : site.cache.invalidated = false
  record : site.cache.record = some r
  measured : ∃ fingerprint, site.cache.tree.fingerprint site.disk = .ok fingerprint ∧
    r.fingerprint = fingerprint.digest

/-- A fresh record is served, and nothing else happens. -/
theorem Fresh.getOrBuild_eq (h : Fresh r site) (indexer : Indexer) (now : Timestamp) :
    getOrBuild indexer now site = (site, .ok ⟨r, .hit⟩) := by
  obtain ⟨fingerprint, hmeasure, hdigest⟩ := h.measured
  exact getOrBuild_hit hmeasure (validRecord?_eq_some.mpr ⟨h.clear, h.record, hdigest⟩)

theorem Served.fresh (h : Served indexer now site last answer) (hanswer : answer = .ok ⟨r, .hit⟩) :
    Fresh r site := by
  cases h with
  | unmeasured => cases hanswer
  | hit measure valid =>
      cases hanswer
      obtain ⟨hclear, hrecord, hdigest⟩ := validRecord?_eq_some.mp valid
      exact ⟨hclear, hrecord, _, measure, hdigest⟩
  | renewed => exact absurd (congrArg isHit hanswer) (by simp)
  | failed => exact absurd (congrArg isHit hanswer) (by simp)

/-- A lookup is served from the record exactly when the record is fresh. -/
theorem getOrBuild_eq_hit_iff (hlocked : site.cache.locked = false) :
    (getOrBuild indexer now site).2 = .ok ⟨r, .hit⟩ ↔ Fresh r site :=
  ⟨(served_getOrBuild indexer now hlocked).fresh, fun h => by rw [h.getOrBuild_eq]⟩

/-- What it took to make the record of an answer. -/
def IsMade (indexer : Indexer) (now : Timestamp) (site : Site) (r : Record) : Prop :=
  ∃ fingerprint document, site.cache.tree.fingerprint site.disk = .ok fingerprint ∧
    site.cache.validRecord? fingerprint = none ∧
    indexer.index site.cache.tree site.disk now = .ok document ∧
    r = madeRecord fingerprint now document

theorem Served.isMade {origin : Origin} (h : Served indexer now site last answer)
    (hanswer : answer = .ok ⟨r, origin⟩) (horigin : isRenewal (.ok ⟨r, origin⟩) = true) :
    origin = renewal site.cache.record ∧ IsMade indexer now site r := by
  cases h with
  | unmeasured => cases hanswer
  | hit => exact absurd ((congrArg isRenewal hanswer).trans horigin) (by simp)
  | renewed measure invalid index made =>
      cases hanswer
      exact ⟨rfl, _, _, measure, invalid, index, made⟩
  | failed => exact absurd ((congrArg isRenewal hanswer).trans horigin) (by simp)

/-- A new record is announced by whether there was one before. -/
theorem getOrBuild_eq_renewal_iff {origin : Origin} (hlocked : site.cache.locked = false)
    (horigin : isRenewal (.ok ⟨r, origin⟩) = true) :
    (getOrBuild indexer now site).2 = .ok ⟨r, origin⟩ ↔
      origin = renewal site.cache.record ∧ IsMade indexer now site r := by
  refine ⟨fun hanswer => (served_getOrBuild indexer now hlocked).isMade hanswer horigin, ?_⟩
  rintro ⟨rfl, fingerprint, document, hmeasure, hinvalid, hindex, rfl⟩
  rw [getOrBuild_renewed hlocked hmeasure hinvalid hindex]

/-! ## Records that stay fresh -/

/-- Whether an act leaves the tree as it is and does not ask for a new index. -/
def Act.IsQuiet (site : Site) : Act → Prop
  | .edit disk => site.cache.tree.files disk = site.cache.tree.files site.disk
  | .invalidate => False
  | .look .. | .reopen => True

/-- A new record is fresh if the tree stands apart from where it is persisted. -/
theorem fresh_renewed {fingerprint : Fingerprint} {document : Index.Document}
    (hapart : standsApart site.cache.tree site.cache.path site.disk.current = true)
    (hmeasure : site.cache.tree.fingerprint site.disk = .ok fingerprint) :
    Fresh (madeRecord fingerprint now document)
      (site.renewed (madeRecord fingerprint now document)) := by
  obtain ⟨files, hfiles, rfl⟩ := Source.fingerprint_eq_ok.mp hmeasure
  exact ⟨rfl, rfl, _, Source.fingerprint_eq_ok.mpr ⟨files, files_persist _ hapart hfiles, rfl⟩, rfl⟩

/-- Whatever record is served without being stale is fresh afterwards. -/
theorem fresh_of_served {origin : Origin} (hlocked : site.cache.locked = false)
    (hapart : standsApart site.cache.tree site.cache.path site.disk.current = true)
    (hanswer : (getOrBuild indexer now site).2 = .ok ⟨r, origin⟩)
    (horigin : origin.isStale = false) : Fresh r (getOrBuild indexer now site).1 := by
  cases origin with
  | hit =>
      have hfresh := (getOrBuild_eq_hit_iff hlocked).mp hanswer
      rw [hfresh.getOrBuild_eq]
      exact hfresh
  | stale reason => cases horigin
  | built | rebuilt =>
      obtain ⟨-, fingerprint, document, hmeasure, hinvalid, hindex, rfl⟩ :=
        (getOrBuild_eq_renewal_iff hlocked rfl).mp hanswer
      rw [getOrBuild_renewed hlocked hmeasure hinvalid hindex]
      exact fresh_renewed hapart hmeasure

section Stays

variable {current : Place}

theorem fresh_of_answer {origin : Origin} (h : Settled tree path current site)
    (hapart : standsApart tree path current = true)
    (hanswer : (getOrBuild indexer now site).2 = .ok ⟨r, origin⟩)
    (horigin : origin.isStale = false) : Fresh r (getOrBuild indexer now site).1 := by
  rw [← h.tree, ← h.path, ← h.current] at hapart
  exact fresh_of_served h.unlocked hapart hanswer horigin

/-- A quiet act keeps a record fresh. -/
theorem Fresh.step (h : Fresh r site) (hsettled : Settled tree path current site)
    (hquiet : act.IsQuiet site) : Fresh r (act.perform site) := by
  obtain ⟨fingerprint, hmeasure, hdigest⟩ := h.measured
  cases act with
  | edit disk =>
      exact ⟨h.clear, h.record, fingerprint, (Source.fingerprint_congr hquiet).trans hmeasure,
        hdigest⟩
  | invalidate => cases hquiet
  | look indexer now =>
      show Fresh r (getOrBuild indexer now site).1
      rw [h.getOrBuild_eq]
      exact h
  | reopen => exact ⟨rfl, hsettled.loaded.trans h.record, fingerprint, hmeasure, hdigest⟩

/-- A quiet history keeps a record fresh. -/
theorem Fresh.perform (h : Fresh r site) (hsettled : Settled tree path current site)
    (hhonest : Along Act.IsHonest site acts) (hquiet : Along Act.IsQuiet site acts) :
    Fresh r (perform site acts) := by
  induction acts generalizing site with
  | nil => exact h
  | cons act acts ih =>
      exact ih (h.step hsettled hquiet.1) (hsettled.step hhonest.1) hhonest.2 hquiet.2

end Stays

/-! ## Whole histories -/

/-- In every history whose records can be persisted, of a tree that stands apart from where they
are persisted: a lookup is served from the record exactly when the record is fresh, and then
nothing changes and no indexer is started; a new record is announced as built exactly when there
was none before; and once a record was served that is not stale, every further lookup is served
from it until a file of the tree changes or a new index is asked for. -/
theorem hit_until_changed (hapart : standsApart tree path disk.current = true)
    (hhonest : Along Act.IsHonest (.opened tree path disk) acts) (indexer : Indexer)
    (now : Timestamp) :
    let site := perform (.opened tree path disk) acts
    let last := (getOrBuild indexer now site).1
    let answer := (getOrBuild indexer now site).2
    (∀ r, answer = .ok ⟨r, .hit⟩ ↔
      site.cache.invalidated = false ∧ site.cache.record = some r ∧
        ∃ fingerprint, tree.fingerprint site.disk = .ok fingerprint ∧
          r.fingerprint = fingerprint.digest) ∧
    (∀ r, answer = .ok ⟨r, .hit⟩ → last = site) ∧
    (∀ r origin, origin = .built ∨ origin = .rebuilt →
      (answer = .ok ⟨r, origin⟩ ↔
        origin = (if site.cache.record.isSome then .rebuilt else .built) ∧
        ∃ fingerprint document, tree.fingerprint site.disk = .ok fingerprint ∧
          site.cache.validRecord? fingerprint = none ∧
          indexer.index tree site.disk now = .ok document ∧
          r = ⟨fingerprint.digest, now, fingerprint.inputs.length, document⟩)) ∧
    (∀ r origin, answer = .ok ⟨r, origin⟩ → origin.isStale = false →
      Act.IsHonest site (.look indexer now) →
      ∀ later, Along Act.IsHonest last later → Along Act.IsQuiet last later →
        ∀ indexer' now', getOrBuild indexer' now' (perform last later) =
          (perform last later, .ok ⟨r, .hit⟩)) := by
  intro site last answer
  have hsettled : Settled tree path disk.current site :=
    (settled_opened tree path disk).perform hhonest
  have htree : site.cache.tree = tree := hsettled.tree
  have hhit : ∀ r, answer = .ok ⟨r, .hit⟩ ↔ Fresh r site := fun r =>
    getOrBuild_eq_hit_iff hsettled.unlocked
  refine ⟨fun r => ⟨fun h => ?_, fun ⟨hclear, hrecord, hmeasured⟩ => ?_⟩, fun r h => ?_,
    fun r origin horigin => ?_,
    fun r origin hanswer horigin hlook later hlater hquiet indexer' now' => ?_⟩
  · have hfresh := (hhit r).mp h
    exact ⟨hfresh.clear, hfresh.record, htree ▸ hfresh.measured⟩
  · exact (hhit r).mpr ⟨hclear, hrecord, htree.symm ▸ hmeasured⟩
  · exact congrArg Prod.fst (((hhit r).mp h).getOrBuild_eq indexer now)
  · have hrenewal : isRenewal (.ok ⟨r, origin⟩) = true := by
      rcases horigin with rfl | rfl <;> rfl
    have hiff : answer = .ok ⟨r, origin⟩ ↔
        origin = renewal site.cache.record ∧ IsMade indexer now site r :=
      getOrBuild_eq_renewal_iff hsettled.unlocked hrenewal
    rw [IsMade, htree] at hiff
    exact hiff
  · have hfresh := fresh_of_answer hsettled hapart hanswer horigin
    exact (hfresh.perform (hsettled.served hlook) hlater hquiet).getOrBuild_eq indexer' now'

/-! ### Two disks -/

/-- An indexer that finds no modules. -/
def blank : Indexer := ⟨"blank", false, fun _ _ _ => .ok { schemaVersion := 1 }⟩

/-- The record of a list of files that the blank indexer has looked at. -/
def blankRecord (files : List File) : Record :=
  madeRecord (Source.fingerprintOf files) ⟨0, 0⟩ { schemaVersion := 1 }

/-- What the blank indexer answers where no valid record is. -/
theorem getOrBuild_blank {files : List File} (hlocked : site.cache.locked = false)
    (hfiles : site.cache.tree.files site.disk = .ok files)
    (hinvalid : site.cache.validRecord? (Source.fingerprintOf files) = none) :
    getOrBuild blank ⟨0, 0⟩ site = (site.renewed (blankRecord files),
      .ok ⟨blankRecord files, renewal site.cache.record⟩) :=
  getOrBuild_renewed hlocked (Source.fingerprint_eq_ok.mpr ⟨files, hfiles, rfl⟩) hinvalid rfl

/-- A lookup with the blank indexer is honest if its record is persisted. -/
theorem isHonest_blank {files : List File} (hlocked : site.cache.locked = false)
    (hfiles : site.cache.tree.files site.disk = .ok files)
    (hinvalid : site.cache.validRecord? (Source.fingerprintOf files) = none)
    (hloadable : (blankRecord files).isLoadable = true)
    (hpersist : (persist site.disk site.cache.path (blankRecord files)).2 = .ok ()) :
    Act.IsHonest site (.look blank ⟨0, 0⟩) := by
  intro found hfound _
  rw [getOrBuild_blank hlocked hfiles hinvalid] at hfound
  rw [← Except.ok.inj hfound]
  exact ⟨hloadable, hpersist⟩

/-- The record is fresh as long as the files are those that the blank indexer has looked at. -/
theorem fresh_blank {files : List File} (hclear : site.cache.invalidated = false)
    (hrecord : site.cache.record = some (blankRecord files))
    (hfiles : site.cache.tree.files site.disk = .ok files) : Fresh (blankRecord files) site :=
  ⟨hclear, hrecord, _, Source.fingerprint_eq_ok.mpr ⟨files, hfiles, rfl⟩, rfl⟩

/-- A disk with nothing but a record. -/
def published (name : String) (r : Record) : Disk := { files := [([name], r.content)] }

/-- A tree that holds the whole disk is empty if it does not select the record. -/
theorem files_published {tree : Tree} {name : String} (r : Record) (hroot : tree.root = "/")
    (hname : tree.selects name = false) : tree.files (published name r) = .ok [] := by
  refine Tree.files_eq_ok.mpr ⟨[], by rw [hroot]; rfl, rfl, ?_⟩
  simp [Tree.select, Disk.filesBelow, published, Disk.below?, hname]

/-- All files below the root but those whose names begin with a `b`. -/
def besides : Tree := ⟨"/", [⟨[.star]⟩], [⟨[.byte 98, .star]⟩]⟩

theorem files_besides : besides.files {} = .ok [] :=
  Tree.files_eq_ok.mpr ⟨[], rfl, rfl, by decide +kernel⟩

set_option maxRecDepth 100000 in
/-- A record that is made on an empty disk is served after the cache was opened again. -/
theorem hit_after_reopening :
    standsApart besides "/b" [] = true ∧
    (getOrBuild blank ⟨0, 0⟩ (.opened besides "/b" {})).2 = .ok ⟨blankRecord [], .built⟩ ∧
    ∀ indexer now,
      let last := perform (getOrBuild blank ⟨0, 0⟩ (.opened besides "/b" {})).1 [.reopen]
      getOrBuild indexer now last = (last, .ok ⟨blankRecord [], .hit⟩) := by
  have hapart : standsApart besides "/b" [] = true := by decide +kernel
  have hanswer : (getOrBuild blank ⟨0, 0⟩ (.opened besides "/b" {})).2 =
      .ok ⟨blankRecord [], .built⟩ := by
    rw [getOrBuild_blank rfl files_besides rfl]
    rfl
  have hhonest : Act.IsHonest (.opened besides "/b" {}) (.look blank ⟨0, 0⟩) :=
    isHonest_blank rfl files_besides rfl (by decide +kernel) rfl
  have hhistory := @hit_until_changed besides "/b" {} [] hapart trivial blank ⟨0, 0⟩
  exact ⟨hapart, hanswer, hhistory.2.2.2 (blankRecord []) .built hanswer rfl hhonest [.reopen]
    ⟨trivial, trivial⟩ ⟨trivial, trivial⟩⟩

/-- All files below the root but `a`. -/
def allButOne : Tree := ⟨"/", [⟨[.star]⟩], [⟨[.byte 97]⟩]⟩

/-- A disk with a file where a record at `/a` is first written to. -/
def leftover : Disk := { files := [(["a.tmp"], [])] }

theorem files_leftover : allButOne.files leftover = .ok [⟨"a.tmp", []⟩] :=
  Tree.files_eq_ok.mpr ⟨[], rfl, rfl, by decide +kernel⟩

theorem persist_leftover (r : Record) :
    persist leftover "/a" r = (published "a" r, .ok ()) := rfl

theorem persist_published (r r' : Record) :
    persist (published "a" r) "/a" r' = (published "a" r', .ok ()) := rfl

set_option maxRecDepth 100000 in
/-- When only the record itself is kept out of the tree, a record that was just built need not be
valid: the file that the record was first written to belonged to the tree, and is gone. -/
theorem rebuilt_without_change :
    let site := Site.opened allButOne "/a" leftover
    let last := (getOrBuild blank ⟨0, 0⟩ site).1
    allButOne.owns (Disk.placeFrom leftover.current allButOne.root)
      (Disk.placeFrom leftover.current "/a") = false ∧
    Along Act.IsHonest site [.look blank ⟨0, 0⟩, .look blank ⟨0, 0⟩] ∧
    (getOrBuild blank ⟨0, 0⟩ site).2 = .ok ⟨blankRecord [⟨"a.tmp", []⟩], .built⟩ ∧
    (getOrBuild blank ⟨0, 0⟩ last).2 = .ok ⟨blankRecord [], .rebuilt⟩ := by
  intro site last
  have hfirst : getOrBuild blank ⟨0, 0⟩ site =
      (site.renewed (blankRecord [⟨"a.tmp", []⟩]), .ok ⟨blankRecord [⟨"a.tmp", []⟩], .built⟩) :=
    getOrBuild_blank rfl files_leftover rfl
  have hlast : last = site.renewed (blankRecord [⟨"a.tmp", []⟩]) := congrArg Prod.fst hfirst
  have hdisk : last.disk = published "a" (blankRecord [⟨"a.tmp", []⟩]) := by
    rw [hlast, Site.renewed, Site.opened_path, Site.opened_disk, persist_leftover]
  have hcache : last.cache.tree = allButOne ∧ last.cache.path = "/a" ∧
      last.cache.locked = false ∧ last.cache.record = some (blankRecord [⟨"a.tmp", []⟩]) := by
    rw [hlast]
    exact ⟨rfl, rfl, rfl, rfl⟩
  obtain ⟨htree, hpath, hlocked, hrecord⟩ := hcache
  have hfiles : last.cache.tree.files last.disk = .ok [] := by
    rw [hdisk, htree]
    exact files_published _ rfl (by decide +kernel)
  have hinvalid : last.cache.validRecord? (Source.fingerprintOf []) = none :=
    validRecord?_of_ne hrecord Source.digest_emptyFile_ne
  refine ⟨by decide +kernel, ⟨?_, ?_, trivial⟩, congrArg Prod.snd hfirst, ?_⟩
  · exact isHonest_blank rfl files_leftover rfl (by decide +kernel)
      (congrArg Prod.snd (persist_leftover _))
  · refine isHonest_blank hlocked hfiles hinvalid (by decide +kernel) ?_
    show (persist last.disk last.cache.path (blankRecord [])).2 = .ok ()
    rw [hdisk, hpath, persist_published]
  · rw [getOrBuild_blank hlocked hfiles hinvalid, hrecord]
    rfl

end Switchboard.Cache
