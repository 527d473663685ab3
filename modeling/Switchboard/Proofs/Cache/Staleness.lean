import Switchboard.Proofs.Cache.Failure
import Switchboard.Proofs.Cache.Request

/-!
# What a cache says of its last failure

The report of a cache gives a reason why the record that it serves is stale. A lookup whose indexer
fails while there is a record sets the reason, and a lookup that makes a new record clears it. The
two other answers, a record that is valid and an error, do not touch it. So the reason is that of
the last lookup in which the indexer had a say.

A valid record is therefore reported as stale in one situation: a failed lookup met a tree that had
changed, and the change was undone before the next index was made.

## Main results

* `Served.staleReason` — what one lookup does to the reason.
* `staleReason_perform` — what a history does to it.
* `EndsStale.record` — until a new record is made, the one that was served as stale is kept.
* `reported_reason` — what is reported after each kind of answer.
* `hit_reported_as_stale` — a valid record that is reported as stale.
-/

namespace Switchboard.Cache

open Switchboard.Data (Node)
open Switchboard.Source (Fingerprint Indexer Tree)

variable {site last : Site} {act : Act} {acts : List Act} {indexer : Indexer} {now : Timestamp}
  {answer : Except Report Found} {r : Record} {reason : String}

/-! ## The report -/

/-- The report of a cache gives a reason for the record to be stale, or gives none. -/
def Reports (cache : Cache) (reason : Option String) : Prop :=
  cache.status.get? "stale_reason" = some (.opt .str reason)

theorem reports_iff {cache : Cache} {reason : Option String} :
    Reports cache reason ↔ cache.staleReason = reason := by
  have hmember : cache.status.get? "stale_reason" = some (.opt .str cache.staleReason) := rfl
  unfold Reports
  rw [hmember]
  constructor
  · intro h
    have hnode := Option.some.inj h
    cases hreason : cache.staleReason <;> cases reason <;> simp_all [Node.opt]
  · intro h
    rw [h]

/-! ## One lookup -/

/-- The reason after an answer. -/
def reasonAfter (reason : Option String) : Except Report Found → Option String
  | .ok ⟨_, .stale failure⟩ => some failure
  | .ok ⟨_, .built⟩ | .ok ⟨_, .rebuilt⟩ => none
  | .ok ⟨_, .hit⟩ | .error _ => reason

/-- Whether the indexer had a say in an answer that serves a record. -/
def isVerdict : Except Report Found → Bool
  | .ok ⟨_, .stale _⟩ | .ok ⟨_, .built⟩ | .ok ⟨_, .rebuilt⟩ => true
  | .ok ⟨_, .hit⟩ | .error _ => false

theorem reasonAfter_of_not_isVerdict {reason : Option String} (h : isVerdict answer = false) :
    reasonAfter reason answer = reason := by
  cases answer with
  | error report => rfl
  | ok found =>
      obtain ⟨r, origin⟩ := found
      cases origin with
      | hit => rfl
      | built | rebuilt | stale => cases h

theorem isRenewal_of_not_isVerdict (h : isVerdict answer = false) : isRenewal answer = false := by
  cases answer with
  | error report => rfl
  | ok found =>
      obtain ⟨r, origin⟩ := found
      cases origin with
      | hit | stale => rfl
      | built | rebuilt => cases h

/-- A reason comes from a failed lookup, or was there before. -/
theorem reasonAfter_eq_some {old : Option String} : reasonAfter old answer = some reason ↔
    (∃ r, answer = .ok ⟨r, .stale reason⟩) ∨ isVerdict answer = false ∧ old = some reason := by
  cases answer with
  | error report => simp [reasonAfter, isVerdict]
  | ok found =>
      obtain ⟨r, origin⟩ := found
      cases origin <;> simp [reasonAfter, isVerdict]

theorem foldl_reasonAfter {reason : Option String} {answers : List (Except Report Found)}
    (h : ∀ answer ∈ answers, isVerdict answer = false) :
    answers.foldl reasonAfter reason = reason := by
  induction answers with
  | nil => rfl
  | cons answer answers ih =>
      obtain ⟨hfirst, hrest⟩ := List.forall_mem_cons.mp h
      rw [List.foldl_cons, reasonAfter_of_not_isVerdict hfirst]
      exact ih hrest

/-- The reason that a lookup leaves is a matter of its answer. -/
theorem Served.staleReason (h : Served indexer now site last answer) :
    last.cache.staleReason = reasonAfter site.cache.staleReason answer := by
  cases h with
  | unmeasured => rfl
  | hit => rfl
  | renewed => cases hrecord : site.cache.record <;> rfl
  | failed =>
      cases hrecord : site.cache.record with
      | none => simp [Site.failed, fallback, reasonAfter, hrecord]
      | some r => simp [Site.failed, fallback, reasonAfter, hrecord]

/-- A lookup that makes no new record leaves the one there is. -/
theorem Served.record (h : Served indexer now site last answer)
    (hrenewal : isRenewal answer = false) : last.cache.record = site.cache.record := by
  cases h with
  | unmeasured => rfl
  | hit => rfl
  | renewed => cases hrenewal.symm.trans (isRenewal_renewal _ _)
  | failed => rfl

/-- A record that is served as stale is the one there is. The tree has another fingerprint, unless
a new index was asked for. -/
theorem Served.of_stale (h : Served indexer now site last answer)
    (hanswer : answer = .ok ⟨r, .stale reason⟩) :
    site.cache.record = some r ∧ (site.cache.invalidated = false →
      ∃ fingerprint, site.cache.tree.fingerprint site.disk = .ok fingerprint ∧
        fingerprint.digest ≠ r.fingerprint) := by
  cases h with
  | unmeasured => cases hanswer
  | hit => cases hanswer
  | renewed => cases hrecord : site.cache.record <;> simp [hrecord, renewal] at hanswer
  | @failed fingerprint report measure invalid =>
      have hrecord : site.cache.record = some r := by
        cases hfound : site.cache.record <;> simp_all [fallback]
      refine ⟨hrecord, fun hclear => ⟨fingerprint, measure, fun hsame => ?_⟩⟩
      have hvalid : site.cache.validRecord? fingerprint = some r :=
        validRecord?_eq_some.mpr ⟨hclear, hrecord, hsame.symm⟩
      rw [invalid] at hvalid
      cases hvalid

/-! ## Histories -/

theorem Act.staleReason_perform (hlocked : site.cache.locked = false) (hreopen : act ≠ .reopen) :
    (act.perform site).cache.staleReason =
      (act.answer? site).toList.foldl reasonAfter site.cache.staleReason := by
  cases act with
  | edit disk => rfl
  | invalidate => rfl
  | look indexer now => exact (served_getOrBuild indexer now hlocked).staleReason
  | reopen => exact absurd rfl hreopen

/-- As long as the cache is not opened again, the reason is a matter of the answers. -/
theorem staleReason_perform (hlocked : site.cache.locked = false) (hreopen : .reopen ∉ acts) :
    (perform site acts).cache.staleReason =
      (answers site acts).foldl reasonAfter site.cache.staleReason := by
  induction acts generalizing site with
  | nil => rfl
  | cons act acts ih =>
      obtain ⟨hact, hacts⟩ : act ≠ .reopen ∧ .reopen ∉ acts := by
        simpa [List.mem_cons, eq_comm] using hreopen
      show (perform (act.perform site) acts).cache.staleReason = _
      rw [ih (Act.unlocked_perform hlocked) hacts, Act.staleReason_perform hlocked hact]
      exact List.foldl_append.symm

theorem Act.record_perform (hlocked : site.cache.locked = false) (hreopen : act ≠ .reopen)
    (hrenewal : ∀ answer ∈ act.answer? site, isRenewal answer = false) :
    (act.perform site).cache.record = site.cache.record := by
  cases act with
  | edit disk => rfl
  | invalidate => rfl
  | look indexer now =>
      exact (served_getOrBuild indexer now hlocked).record (hrenewal _ rfl)
  | reopen => exact absurd rfl hreopen

/-- As long as no new record is made and the cache is not opened again, the record is kept. -/
theorem record_perform (hlocked : site.cache.locked = false) (hreopen : .reopen ∉ acts)
    (hrenewal : ∀ answer ∈ answers site acts, isRenewal answer = false) :
    (perform site acts).cache.record = site.cache.record := by
  induction acts generalizing site with
  | nil => rfl
  | cons act acts ih =>
      obtain ⟨hact, hacts⟩ : act ≠ .reopen ∧ .reopen ∉ acts := by
        simpa [List.mem_cons, eq_comm] using hreopen
      have hrest := ih (Act.unlocked_perform hlocked) hacts
        fun answer h => hrenewal answer (mem_answers_cons.mpr (.inr h))
      exact hrest.trans (Act.record_perform hlocked hact
        fun answer h => hrenewal answer (mem_answers_cons.mpr (.inl h)))

/-! ## Histories that end with a stale record -/

/-- The last lookup of a history in which the indexer had a say was answered with a stale record,
and the cache was not opened again since. -/
def EndsStale (start : Site) (acts : List Act) (r : Record) (reason : String) : Prop :=
  ∃ before indexer now after, acts = before ++ .look indexer now :: after ∧
    (getOrBuild indexer now (perform start before)).2 = .ok ⟨r, .stale reason⟩ ∧
    .reopen ∉ after ∧
    ∀ answer ∈ answers (perform start (before ++ [.look indexer now])) after,
      isVerdict answer = false

section EndsStale

variable {start : Site}

theorem endsStale_look
    (hanswer : (getOrBuild indexer now (perform start acts)).2 = .ok ⟨r, .stale reason⟩) :
    EndsStale start (acts ++ [.look indexer now]) r reason :=
  ⟨acts, indexer, now, [], rfl, hanswer, List.not_mem_nil, nofun⟩

/-- It stays so as long as the indexer has nothing to say. -/
theorem EndsStale.append_act (h : EndsStale start acts r reason) (hopen : act ≠ .reopen)
    (hsilent : ∀ answer ∈ act.answer? (perform start acts), isVerdict answer = false) :
    EndsStale start (acts ++ [act]) r reason := by
  obtain ⟨before, indexer, now, after, rfl, hanswer, hafter, hverdicts⟩ := h
  refine ⟨before, indexer, now, after ++ [act], by simp, hanswer, ?_, ?_⟩
  · simpa [eq_comm] using ⟨hafter, hopen⟩
  · intro answer hmem
    rw [answers_append, ← perform_append, List.append_assoc, List.mem_append] at hmem
    rcases hmem with hmem | hmem
    · exact hverdicts answer hmem
    · refine hsilent answer ?_
      simpa [answers] using hmem

/-- A reason is left by a lookup that was answered with a stale record. -/
theorem endsStale_of_staleReason (hlocked : start.cache.locked = false)
    (hnone : start.cache.staleReason = none)
    (hreason : (perform start acts).cache.staleReason = some reason) :
    ∃ r, EndsStale start acts r reason := by
  -- from the end of the history back to the lookup in question
  induction acts using List.reverseRecOn with
  | nil => cases hnone.symm.trans hreason
  | append_singleton acts act ih =>
      rw [perform_append] at hreason
      cases act with
      | edit disk => exact (ih hreason).imp fun r hr => hr.append_act nofun nofun
      | invalidate => exact (ih hreason).imp fun r hr => hr.append_act nofun nofun
      | look indexer now =>
          have hsite : (perform start acts).cache.locked = false := unlocked_perform_of hlocked
          have hserved := served_getOrBuild indexer now hsite
          rcases reasonAfter_eq_some.mp (hserved.staleReason.symm.trans hreason) with
            ⟨r, hanswer⟩ | ⟨hsilent, hkept⟩
          · exact ⟨r, endsStale_look hanswer⟩
          · refine (ih hkept).imp fun r hr => hr.append_act nofun ?_
            rintro _ ⟨⟩
            exact hsilent
      | reopen => cases hreason

/-- And such a lookup leaves its reason. -/
theorem EndsStale.staleReason (h : EndsStale start acts r reason)
    (hlocked : start.cache.locked = false) :
    (perform start acts).cache.staleReason = some reason := by
  obtain ⟨before, indexer, now, after, rfl, hanswer, hafter, hverdicts⟩ := h
  have hsite : (perform start before).cache.locked = false := unlocked_perform_of hlocked
  have hfailed := (served_getOrBuild indexer now hsite).staleReason
  rw [hanswer] at hfailed
  rw [List.append_cons, perform_append,
    staleReason_perform (unlocked_perform_of hlocked) hafter, foldl_reasonAfter hverdicts,
    perform_append]
  exact hfailed

/-- The record that was served as stale is still there. -/
theorem EndsStale.record (h : EndsStale start acts r reason)
    (hlocked : start.cache.locked = false) : (perform start acts).cache.record = some r := by
  obtain ⟨before, indexer, now, after, rfl, hanswer, hafter, hverdicts⟩ := h
  have hsite : (perform start before).cache.locked = false := unlocked_perform_of hlocked
  have hserved := served_getOrBuild indexer now hsite
  have hrenewals : ∀ answer ∈ answers (perform start (before ++ [.look indexer now])) after,
      isRenewal answer = false := fun answer hmem =>
    isRenewal_of_not_isVerdict (hverdicts answer hmem)
  calc (perform start (before ++ .look indexer now :: after)).cache.record
      = (perform (perform start (before ++ [.look indexer now])) after).cache.record := by
        rw [List.append_cons, perform_append]
    _ = (perform start (before ++ [.look indexer now])).cache.record :=
        record_perform (unlocked_perform_of hlocked) hafter hrenewals
    _ = (getOrBuild indexer now (perform start before)).1.cache.record := by
        rw [perform_append]
        rfl
    _ = (perform start before).cache.record := hserved.record (by rw [hanswer]; rfl)
    _ = some r := (hserved.of_stale hanswer).1

/-- When a lookup finds the record valid again, no new index had been asked for at the failed
lookup: a request would have stayed open. -/
theorem clear_of_hit {before after : List Act} {indexer' : Indexer} {now' : Timestamp}
    {found : Record} (hlocked : start.cache.locked = false)
    (hanswer : (getOrBuild indexer now (perform start before)).2 = .ok ⟨r, .stale reason⟩)
    (hafter : .reopen ∉ after)
    (hverdicts : ∀ answer ∈ answers (perform start (before ++ [.look indexer now])) after,
      isVerdict answer = false)
    (hhit : (getOrBuild indexer' now' (perform start (before ++ .look indexer now :: after))).2 =
      .ok ⟨found, .hit⟩) : (perform start before).cache.invalidated = false := by
  have hsite : (perform start before).cache.locked = false := unlocked_perform_of hlocked
  have hserved := served_getOrBuild indexer now hsite
  have hkept := hserved.invalidated (by rw [hanswer]; rfl)
  rw [List.append_cons, perform_append] at hhit
  have hlast : .ok ⟨found, .hit⟩ ∈ answers (perform start (before ++ [.look indexer now]))
      (after ++ [.look indexer' now']) := by
    rw [answers_append, List.mem_append]
    right
    simp [answers, Act.answer?, hhit]
  have hrenewals : ∀ answer ∈ answers (perform start (before ++ [.look indexer now]))
      (after ++ [.look indexer' now']), isRenewal answer = false := by
    intro answer hmem
    rw [answers_append, List.mem_append] at hmem
    rcases hmem with hmem | hmem
    · exact isRenewal_of_not_isVerdict (hverdicts answer hmem)
    · simp only [answers, Act.answer?, hhit, Option.toList_some, List.append_nil,
        List.mem_singleton] at hmem
      rw [hmem]
      rfl
  by_contra hopen
  rw [Bool.not_eq_false] at hopen
  have hasked : (perform start (before ++ [.look indexer now])).cache.invalidated = true := by
    rw [perform_append]
    exact hkept.trans hopen
  have hreopen : .reopen ∉ after ++ [.look indexer' now'] := by simpa using hafter
  have hnever := (invalidated_until_renewed (unlocked_perform_of hlocked) hasked hreopen
    hrenewals).2 _ hlast
  cases hnever

end EndsStale

/-- **What the report says of a stale record.** In every history, after a lookup that made a record
the report gives no reason, and after one that was answered with a stale record it gives the reason
of the answer. After a lookup that could not be answered it says what it said before. After a lookup
whose record was valid it gives a reason in one case: the last time that the indexer had a say it
failed, with this reason and this record; the tree had another fingerprint than the record then,
and has been changed back since. -/
theorem reported_reason (tree : Tree) (path : String) (disk : Disk) (acts : List Act)
    (indexer : Indexer) (now : Timestamp) :
    let start := Site.opened tree path disk
    let site := perform start acts
    let last := (getOrBuild indexer now site).1
    let answer := (getOrBuild indexer now site).2
    (∀ r origin, answer = .ok ⟨r, origin⟩ → origin = .built ∨ origin = .rebuilt →
      Reports last.cache none) ∧
    (∀ r reason, answer = .ok ⟨r, .stale reason⟩ → Reports last.cache (some reason)) ∧
    (∀ r, answer = .ok ⟨r, .hit⟩ → ∀ reason, Reports last.cache (some reason) ↔
      ∃ before indexer' now' after fingerprint, acts = before ++ .look indexer' now' :: after ∧
        (getOrBuild indexer' now' (perform start before)).2 = .ok ⟨r, .stale reason⟩ ∧
        tree.fingerprint (perform start before).disk = .ok fingerprint ∧
        fingerprint.digest ≠ r.fingerprint ∧ .reopen ∉ after ∧
        ∀ answer ∈ answers (perform start (before ++ [.look indexer' now'])) after,
          isVerdict answer = false) ∧
    (∀ report, answer = .error report → ∀ reason, Reports last.cache reason ↔
      Reports site.cache reason) := by
  intro start site last answer
  have hlocked : start.cache.locked = false := Site.opened_locked tree path disk
  have hserved : Served indexer now site last answer :=
    served_getOrBuild indexer now (unlocked_perform tree path disk acts)
  have hreason := hserved.staleReason
  refine ⟨fun r origin hanswer horigin => ?_, fun r reason hanswer => ?_,
    fun r hanswer reason => ?_, fun report hanswer reason => ?_⟩
  · rw [reports_iff, hreason, hanswer]
    rcases horigin with rfl | rfl <;> rfl
  · rw [reports_iff, hreason, hanswer]
    rfl
  · rw [reports_iff, hreason, hanswer]
    change site.cache.staleReason = some reason ↔ _
    constructor
    · intro hsome
      obtain ⟨r', hends⟩ := endsStale_of_staleReason hlocked rfl hsome
      obtain ⟨hclear, hrecord, -⟩ :=
        (getOrBuild_eq_hit_iff (unlocked_perform tree path disk acts)).mp hanswer
      obtain rfl : r = r' := Option.some.inj (hrecord.symm.trans (hends.record hlocked))
      obtain ⟨before, indexer', now', after, heq, hstale, hafter, hverdicts⟩ := hends
      have hthen := served_getOrBuild indexer' now' (unlocked_perform tree path disk before)
      obtain ⟨fingerprint, hmeasure, hother⟩ := (hthen.of_stale hstale).2
        (clear_of_hit hlocked hstale hafter hverdicts (by rw [← heq]; exact hanswer))
      rw [tree_perform hlocked] at hmeasure
      exact ⟨before, indexer', now', after, fingerprint, heq, hstale, hmeasure, hother, hafter,
        hverdicts⟩
    · rintro ⟨before, indexer', now', after, fingerprint, heq, hstale, -, -, hafter, hverdicts⟩
      exact EndsStale.staleReason ⟨before, indexer', now', after, heq, hstale, hafter, hverdicts⟩
        hlocked
  · rw [reports_iff, reports_iff, hreason, hanswer]
    rfl

/-! ### A change that is undone -/

section Undone

variable {other : Disk} {fingerprint : Fingerprint} {report : Report}
  (hfresh : Fresh r site) (hlocked : site.cache.locked = false)
  (hmeasure : site.cache.tree.fingerprint other = .ok fingerprint)
  (hother : fingerprint.digest ≠ r.fingerprint)
  (hindex : indexer.index site.cache.tree other now = .error report)

include hfresh hlocked hmeasure hother hindex

/-- Where the tree has changed, a failed lookup serves the record as a stale one. -/
theorem getOrBuild_changed : getOrBuild indexer now (perform site [.edit other]) =
    (Site.failed { site with disk := other } report.message,
      .ok ⟨r, .stale report.message⟩) := by
  have hinvalid : site.cache.validRecord? fingerprint = none :=
    validRecord?_of_ne hfresh.record hother.symm
  show getOrBuild indexer now { site with disk := other } = _
  rw [@getOrBuild_failed _ _ { site with disk := other } _ _ hlocked hmeasure hinvalid hindex]
  show (_, fallback site.cache.record _) = _
  rw [hfresh.record]
  rfl

/-- When the change is undone, the record is served as a valid one, and still reported as stale. -/
theorem getOrBuild_undone (indexer' : Indexer) (now' : Timestamp) :
    let undone := perform site [.edit other, .look indexer now, .edit site.disk]
    getOrBuild indexer' now' undone = (undone, .ok ⟨r, .hit⟩) ∧
      Reports undone.cache (some report.message) := by
  intro undone
  have hundone : undone = { Site.failed { site with disk := other } report.message with
      disk := site.disk } := by
    show { (getOrBuild indexer now (perform site [.edit other])).1 with disk := site.disk } = _
    rw [getOrBuild_changed hfresh hlocked hmeasure hother hindex]
  have hstill : Fresh r undone := by
    rw [hundone]
    exact ⟨hfresh.clear, hfresh.record, hfresh.measured⟩
  refine ⟨hstill.getOrBuild_eq indexer' now', ?_⟩
  rw [reports_iff, hundone]
  show (if site.cache.record.isSome then _ else _) = _
  rw [hfresh.record]
  rfl

end Undone

theorem measure_grown (r : Record) :
    reopened.cache.tree.fingerprint (grown r) = .ok (Source.fingerprintOf [⟨"a.tmp", []⟩]) := by
  rw [reopened, Site.opened_tree]
  exact Source.fingerprint_eq_ok.mpr ⟨_, files_grown r, rfl⟩

/-- The tree grows, the indexer fails, and the tree becomes what it was. -/
def grownAndBack : List Act :=
  [.edit (grown (blankRecord [])), .look (.failing "no") ⟨0, 0⟩, .edit reopened.disk]

/-- The lookup in between serves the record as a stale one. -/
theorem getOrBuild_grown :
    (getOrBuild (.failing "no") ⟨0, 0⟩ (perform reopened [.edit (grown (blankRecord []))])).2 =
      .ok ⟨blankRecord [], .stale "no"⟩ := by
  have hindex : (Indexer.failing "no").index reopened.cache.tree (grown (blankRecord [])) ⟨0, 0⟩ =
      .error (.ofMessage "no") := rfl
  rw [getOrBuild_changed fresh_reopened unlocked_reopened (measure_grown _)
    Source.digest_emptyFile_ne hindex]
  rfl

/-- A lookup after it finds the record valid, and leaves the reason. -/
theorem getOrBuild_grownAndBack (indexer : Indexer) (now : Timestamp) :
    getOrBuild indexer now (perform reopened grownAndBack) =
        (perform reopened grownAndBack, .ok ⟨blankRecord [], .hit⟩) ∧
      Reports (perform reopened grownAndBack).cache (some "no") := by
  have hindex : (Indexer.failing "no").index reopened.cache.tree (grown (blankRecord [])) ⟨0, 0⟩ =
      .error (.ofMessage "no") := rfl
  exact getOrBuild_undone fresh_reopened unlocked_reopened (measure_grown _)
    Source.digest_emptyFile_ne hindex indexer now

/-- A record that is valid is reported as stale, and the report gives the reason of a lookup for
another tree. -/
theorem hit_reported_as_stale :
    let site := perform reopened grownAndBack
    let last := (getOrBuild blank ⟨0, 0⟩ site).1
    (getOrBuild blank ⟨0, 0⟩ site).2 = .ok ⟨blankRecord [], .hit⟩ ∧
      Reports last.cache (some "no") := by
  intro site last
  obtain ⟨hhit, hreports⟩ := getOrBuild_grownAndBack blank ⟨0, 0⟩
  have hlast : last = site := congrArg Prod.fst hhit
  rw [hlast]
  exact ⟨congrArg Prod.snd hhit, hreports⟩

/-- The failed lookup is reported, and the valid record is reported as stale because of it. -/
theorem reported_reason_grownAndBack :
    Reports (getOrBuild (.failing "no") ⟨0, 0⟩
      (perform reopened [.edit (grown (blankRecord []))])).1.cache (some "no") ∧
    ∃ before indexer now after fingerprint, grownAndBack = before ++ .look indexer now :: after ∧
      (getOrBuild indexer now (perform reopened before)).2 = .ok ⟨blankRecord [], .stale "no"⟩ ∧
      besides.fingerprint (perform reopened before).disk = .ok fingerprint ∧
      fingerprint.digest ≠ (blankRecord []).fingerprint := by
  obtain ⟨hhit, hreports⟩ := getOrBuild_grownAndBack blank ⟨0, 0⟩
  have hgrown := (reported_reason besides "/b" (published "b" (blankRecord []))
    [.edit (grown (blankRecord []))] (.failing "no") ⟨0, 0⟩).2.1
  have hback := (reported_reason besides "/b" (published "b" (blankRecord [])) grownAndBack blank
    ⟨0, 0⟩).2.2.1 (blankRecord []) (congrArg Prod.snd hhit) "no"
  have hlast : Reports (getOrBuild blank ⟨0, 0⟩ (perform reopened grownAndBack)).1.cache
      (some "no") := by
    rw [hhit]
    exact hreports
  refine ⟨hgrown _ _ getOrBuild_grown, ?_⟩
  obtain ⟨before, indexer, now, after, fingerprint, heq, hstale, hmeasure, hother, -, -⟩ :=
    hback.mp hlast
  exact ⟨before, indexer, now, after, fingerprint, heq, hstale, hmeasure, hother⟩

end Switchboard.Cache
