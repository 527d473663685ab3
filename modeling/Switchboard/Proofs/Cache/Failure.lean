import Switchboard.Proofs.Cache.Freshness

/-!
# Lookups that fail

A lookup whose tree cannot be measured, or whose indexer fails, leaves the record, its file and the
request for a new index as they were. A failure is therefore never mistaken for a valid record: the
next lookup on the same tree starts the indexer again, and a request for a new index stays open
until an index was made.

## Main results

* `invalidated_until_renewed` — what a request for a new index means for the answers after it.
* `failure_keeps_record` — what a failed lookup leaves behind, in every history.
-/

namespace Switchboard.Cache

open Switchboard.Source (File Fingerprint Indexer Tree)

variable {site last : Site} {act : Act} {acts : List Act} {indexer : Indexer} {now : Timestamp}
  {answer : Except Report Found} {fingerprint : Fingerprint}

/-! ## Starting the indexer -/

/-- Without a valid record a lookup starts the indexer, and is not served from the record. -/
theorem Served.builds (h : Served indexer now site last answer)
    (hmeasure : site.cache.tree.fingerprint site.disk = .ok fingerprint)
    (hinvalid : site.cache.validRecord? fingerprint = none) :
    last.cache.builds = site.cache.builds + 1 ∧ isHit answer = false := by
  cases h with
  | unmeasured measure => cases measure.symm.trans hmeasure
  | hit measure valid =>
      obtain rfl := Except.ok.inj (measure.symm.trans hmeasure)
      cases valid.symm.trans hinvalid
  | renewed => exact ⟨rfl, isHit_renewal _ _⟩
  | failed => exact ⟨rfl, isHit_fallback _ _⟩

/-! ## Open requests -/

/-- While a request for a new index is open, a lookup is not served from the record. -/
theorem Served.isHit_of_invalidated (h : Served indexer now site last answer)
    (hopen : site.cache.invalidated = true) : isHit answer = false := by
  cases h with
  | unmeasured => rfl
  | hit measure valid => cases valid.symm.trans (validRecord?_of_invalidated hopen)
  | renewed => exact isHit_renewal _ _
  | failed => exact isHit_fallback _ _

/-- The request stays open when no new record is made. -/
theorem Served.invalidated (h : Served indexer now site last answer)
    (hrenewal : isRenewal answer = false) :
    last.cache.invalidated = site.cache.invalidated := by
  cases h with
  | unmeasured => rfl
  | hit => rfl
  | renewed => cases hrenewal.symm.trans (isRenewal_renewal _ _)
  | failed => rfl

/-- No act but opening the cache again or making a new record closes a request. -/
theorem Act.invalidated_perform (hlocked : site.cache.locked = false)
    (hopen : site.cache.invalidated = true) (hreopen : act ≠ .reopen)
    (hrenewal : ∀ answer ∈ act.answer? site, isRenewal answer = false) :
    (act.perform site).cache.invalidated = true ∧
      ∀ answer ∈ act.answer? site, isHit answer = false := by
  cases act with
  | edit disk => exact ⟨hopen, nofun⟩
  | invalidate => exact ⟨rfl, nofun⟩
  | look indexer now =>
      have hserved := served_getOrBuild indexer now hlocked
      refine ⟨(hserved.invalidated (hrenewal _ rfl)).trans hopen, ?_⟩
      rintro answer ⟨⟩
      exact hserved.isHit_of_invalidated hopen
  | reopen => exact absurd rfl hreopen

/-- A request for a new index stays open, and no lookup is served from the record, until a new
record is made. -/
theorem invalidated_until_renewed (hlocked : site.cache.locked = false)
    (hopen : site.cache.invalidated = true) (hreopen : .reopen ∉ acts)
    (hrenewal : ∀ answer ∈ answers site acts, isRenewal answer = false) :
    (perform site acts).cache.invalidated = true ∧
      ∀ answer ∈ answers site acts, isHit answer = false := by
  induction acts generalizing site with
  | nil => exact ⟨hopen, nofun⟩
  | cons act acts ih =>
      obtain ⟨hact, hacts⟩ : act ≠ .reopen ∧ .reopen ∉ acts := by
        simpa [List.mem_cons, eq_comm] using hreopen
      obtain ⟨hstays, hfirst⟩ := act.invalidated_perform hlocked hopen hact
        fun answer h => hrenewal answer (mem_answers_cons.mpr (.inl h))
      obtain ⟨hlast, hrest⟩ := ih (act.unlocked_perform hlocked) hstays hacts
        fun answer h => hrenewal answer (mem_answers_cons.mpr (.inr h))
      exact ⟨hlast, fun answer h => (mem_answers_cons.mp h).elim (hfirst answer) (hrest answer)⟩

/-! ## Whole histories -/

/-- In every history: a lookup that cannot measure the tree changes nothing and reports why. One
whose indexer fails leaves the disk, the record and the request as they were; it answers with the
last record as a stale one, or with the failure where there is none; and the next lookup on the
same tree starts the indexer again. After a new index is asked for, no lookup is served from the
record until a new one is made, however many fail in between; only a cache that is opened again
knows nothing of the request. -/
theorem failure_keeps_record (tree : Tree) (path : String) (disk : Disk) (acts : List Act)
    (indexer : Indexer) (now : Timestamp) :
    let site := perform (.opened tree path disk) acts
    let last := (getOrBuild indexer now site).1
    let answer := (getOrBuild indexer now site).2
    (∀ report, site.cache.tree.fingerprint site.disk = .error report →
      last = site ∧ answer = .error report) ∧
    (∀ fingerprint report, site.cache.tree.fingerprint site.disk = .ok fingerprint →
      site.cache.validRecord? fingerprint = none →
      indexer.index site.cache.tree site.disk now = .error report →
        last.disk = site.disk ∧ last.cache.record = site.cache.record ∧
        last.cache.invalidated = site.cache.invalidated ∧
        answer = (match site.cache.record with
          | some r => .ok ⟨r, .stale report.message⟩
          | none => .error (.ofError (.indexing report.message))) ∧
        ∀ disk' indexer' now', site.cache.tree.files disk' = site.cache.tree.files site.disk →
          let again := getOrBuild indexer' now' { last with disk := disk' }
          again.1.cache.builds = last.cache.builds + 1 ∧ isHit again.2 = false) ∧
    (∀ later, .reopen ∉ later →
      (∀ answer ∈ answers ((Act.invalidate).perform site) later, isRenewal answer = false) →
        (perform ((Act.invalidate).perform site) later).cache.invalidated = true ∧
        ∀ answer ∈ answers ((Act.invalidate).perform site) later, isHit answer = false) := by
  intro site last answer
  have hlocked : site.cache.locked = false := unlocked_perform tree path disk acts
  refine ⟨fun report hmeasure => ?_, fun fingerprint report hmeasure hinvalid hindex => ?_,
    fun later hreopen hrenewal => ?_⟩
  · exact Prod.mk.inj (getOrBuild_unmeasured hmeasure)
  · obtain ⟨hlast, hanswer⟩ : last = site.failed report.message ∧
        answer = fallback site.cache.record report.message :=
      Prod.mk.inj (getOrBuild_failed hlocked hmeasure hinvalid hindex)
    rw [hlast]
    refine ⟨rfl, rfl, rfl, hanswer, fun disk' indexer' now' hfiles => ?_⟩
    exact (served_getOrBuild indexer' now' rfl).builds
      ((Source.fingerprint_congr hfiles).trans hmeasure) hinvalid
  · exact invalidated_until_renewed hlocked rfl hreopen hrenewal

/-! ### A tree that has grown -/

/-- A disk with a record and another file. -/
def grown (r : Record) : Disk := { files := [(["a.tmp"], []), (["b"], r.content)] }

theorem files_grown (r : Record) : besides.files (grown r) = .ok [⟨"a.tmp", []⟩] := by
  have hother : besides.selects "a.tmp" = true := by decide +kernel
  have hrecord : besides.selects "b" = false := by decide +kernel
  refine Tree.files_eq_ok.mpr ⟨[], rfl, rfl, ?_⟩
  simp [Tree.select, Disk.filesBelow, grown, Disk.below?, hother, hrecord]

/-- A record is made of an empty tree, and the tree grows. -/
def outgrown : List Act := [.look blank ⟨0, 0⟩, .edit (grown (blankRecord []))]

theorem perform_outgrown :
    perform (.opened besides "/b" {}) outgrown =
      { (Site.opened besides "/b" {}).renewed (blankRecord []) with
        disk := grown (blankRecord []) } := by
  show { (getOrBuild blank ⟨0, 0⟩ (.opened besides "/b" {})).1 with
    disk := grown (blankRecord []) } = _
  rw [getOrBuild_blank rfl files_besides rfl]

/-- An indexer that always fails makes no new record where one was asked for. -/
theorem answers_failing {files : List File} (hlocked : site.cache.locked = false)
    (hfiles : site.cache.tree.files site.disk = .ok files)
    (hopen : site.cache.invalidated = true) :
    ∀ answer ∈ answers site [.look (.failing "no") now], isRenewal answer = false := by
  have hfailed : getOrBuild (.failing "no") now site =
      (site.failed (Report.ofMessage "no").message,
        fallback site.cache.record (Report.ofMessage "no").message) :=
    getOrBuild_failed hlocked (Source.fingerprint_eq_ok.mpr ⟨files, hfiles, rfl⟩)
      (validRecord?_of_invalidated hopen) rfl
  simp [answers, Act.answer?, hfailed]

/-- The indexer fails for the tree that has grown. The record of the empty tree is served as a stale
one and kept as it is, and the indexer is started again by the next lookup. When a new index is
asked for, the request is still open after the failure. -/
theorem failure_keeps_stale_record :
    let site := perform (.opened besides "/b" {}) outgrown
    let last := (getOrBuild (.failing "no") ⟨0, 0⟩ site).1
    let asked := (Act.invalidate).perform site
    (last.disk = grown (blankRecord []) ∧ last.cache.record = some (blankRecord []) ∧
      last.cache.invalidated = false ∧
      (getOrBuild (.failing "no") ⟨0, 0⟩ site).2 = .ok ⟨blankRecord [], .stale "no"⟩ ∧
      ∀ indexer now, (getOrBuild indexer now last).1.cache.builds = last.cache.builds + 1 ∧
        isHit (getOrBuild indexer now last).2 = false) ∧
    (perform asked [.look (.failing "no") ⟨0, 0⟩]).cache.invalidated = true ∧
    ∀ answer ∈ answers asked [.look (.failing "no") ⟨0, 0⟩], isHit answer = false := by
  have hsite := perform_outgrown
  have hkeeps := failure_keeps_record besides "/b" {} outgrown (.failing "no") ⟨0, 0⟩
  generalize perform (.opened besides "/b" {}) outgrown = site at hsite hkeeps ⊢
  dsimp only
  obtain ⟨hdisk, htree, hrecord, hclear, hlocked⟩ : site.disk = grown (blankRecord []) ∧
      site.cache.tree = besides ∧ site.cache.record = some (blankRecord []) ∧
      site.cache.invalidated = false ∧ site.cache.locked = false := by
    rw [hsite]
    exact ⟨rfl, rfl, rfl, rfl, rfl⟩
  have hfiles : site.cache.tree.files site.disk = .ok [⟨"a.tmp", []⟩] := by
    rw [htree, hdisk, files_grown]
  have hmeasure : site.cache.tree.fingerprint site.disk =
      .ok (Source.fingerprintOf [⟨"a.tmp", []⟩]) :=
    Source.fingerprint_eq_ok.mpr ⟨_, hfiles, rfl⟩
  have hinvalid : site.cache.validRecord? (Source.fingerprintOf [⟨"a.tmp", []⟩]) = none :=
    validRecord?_of_ne hrecord Source.digest_emptyFile_ne.symm
  obtain ⟨-, hfails, hasks⟩ := hkeeps
  obtain ⟨hkept, hstays, hflag, hanswer, hagain⟩ := hfails _ (.ofMessage "no") hmeasure hinvalid rfl
  rw [hrecord] at hanswer
  -- What is known of the failed lookup is all that is needed of it: it is not run.
  generalize getOrBuild (.failing "no") ⟨0, 0⟩ site = served at hkept hstays hflag hanswer hagain ⊢
  obtain ⟨⟨lastDisk, lastCache⟩, answer⟩ := served
  refine ⟨⟨hkept.trans hdisk, hstays.trans hrecord, hflag.trans hclear, hanswer, ?_⟩, ?_⟩
  · exact fun indexer now => hagain _ indexer now (congrArg site.cache.tree.files hkept)
  · exact hasks [.look (.failing "no") ⟨0, 0⟩] (by simp) (answers_failing hlocked hfiles rfl)

end Switchboard.Cache
