import Switchboard.Proofs.Cache.Persistence

/-!
# Opening a cache

What is found in the file of a record when the cache is opened. There are three cases: no file is
there, its content decodes to a record of the current version, or it is discarded. They exclude
each other and leave nothing out, whatever the bytes of the file are, so that a cache whose
patterns compile can always be opened.

Every record that fits its words decodes from its own content.

## Main results

* `opened_load` — the three cases.
* `persisted_record_opens` — a record comes back as it was, and nothing but a record of the current
  version is ever loaded.
-/

namespace Switchboard

namespace Disk

variable {disk : Disk} {path : String}

/-- Whether there is no file at a path: nothing is there, or a directory on the way is missing. -/
def isMissing (disk : Disk) (path : String) : Bool :=
  match disk.resolve path with
  | .ok place => !disk.isTaken place
  | .error reason => reason = notFound

/-- A file that can be read is not missing. -/
theorem not_isMissing_of_read {content : Text.Utf8.Bytes} (h : disk.read path = .ok content) :
    ¬disk.isMissing path = true := by
  rw [read] at h
  rw [isMissing]
  cases hresolve : disk.resolve path with
  | error reason =>
      rw [hresolve] at h
      cases h
  | ok place =>
      cases hfile : disk.file? place with
      | none =>
          simp only [hresolve, hfile, bind, Except.bind] at h
          cases h
      | some content => simp [isTaken, hfile]

/-- A file cannot be read for want of it exactly where there is none. -/
theorem read_eq_notFound_iff :
    disk.read path = .error notFound ↔ disk.isMissing path = true := by
  rw [read, isMissing]
  cases hresolve : disk.resolve path with
  | error reason => simp [bind, Except.bind]
  | ok place =>
      cases hfile : disk.file? place with
      | none =>
          by_cases hdirectory : disk.isDirectory place = true
          · have hne : read.isDirectoryText ≠ notFound := by decide
            simp [isTaken, hfile, hdirectory, hne, bind, Except.bind]
          · simp [isTaken, hfile, hdirectory, bind, Except.bind]
      | some content => simp [isTaken, hfile, bind, Except.bind]

end Disk

namespace Cache

open Switchboard.Source (Tree)
open Switchboard.Text.Utf8 (Bytes)

variable {disk : Disk} {path : String} {content : Bytes} {r : Record}

/-! ## What a file holds -/

/-- Bytes are the text of a record of the current version. -/
def Decodes (content : Bytes) (r : Record) : Prop :=
  ∃ text, Text.Utf8.decode content = .ok text ∧ Json.decode Record.read text = .ok r ∧
    r.document.schemaVersion = Index.schemaVersion

/-- The file at a path holds a record of the current version. -/
def Holds (disk : Disk) (path : String) (r : Record) : Prop :=
  ∃ content, disk.read path = .ok content ∧ Decodes content r

theorem readRecord_eq_ok_iff {text : String} :
    readRecord text = .ok r ↔
      Json.decode Record.read text = .ok r ∧ r.document.schemaVersion = Index.schemaVersion := by
  rw [readRecord]
  cases hdecode : Json.decode Record.read text with
  | error fault =>
      constructor
      · intro h
        cases h
      · rintro ⟨h, -⟩
        cases h
  | ok found =>
      show (if found.document.schemaVersion = Index.schemaVersion then _ else _) = Except.ok r ↔ _
      split
      next hversion =>
        constructor
        · rintro ⟨⟩
          exact ⟨rfl, hversion⟩
        · rintro ⟨⟨⟩, -⟩
          rfl
      next hversion =>
        constructor
        · rintro ⟨⟩
        · rintro ⟨⟨⟩, h⟩
          exact absurd h hversion

/-- A record that can be loaded again is what its own content decodes to. -/
theorem decodes_content (h : r.isLoadable = true) : Decodes r.content r :=
  ⟨Json.compact r.toNode, Text.Utf8.decode_encode _,
    readRecord_eq_ok_iff.mp (readRecord_compact h)⟩

/-! ## The three cases -/

/-- What a file gives, by what is there. -/
inductive Opened (disk : Disk) (path : String) : Option Record → Persisted → Prop
  | missing (absent : disk.isMissing path = true) : Opened disk path none .notFound
  | loaded {r : Record} (holds : Holds disk path r)
      (unique : ∀ other, Holds disk path other → other = r) : Opened disk path (some r) .loaded
  | discarded {reason : String} (present : ¬disk.isMissing path = true)
      (unfit : ∀ r, ¬Holds disk path r) : Opened disk path none (.discarded reason)

theorem Holds.not_isMissing (h : Holds disk path r) : ¬disk.isMissing path = true := by
  obtain ⟨content, hread, -⟩ := h
  exact Disk.not_isMissing_of_read hread

/-- In a file that can be read as text, that text decides. -/
theorem holds_iff {text : String} (hread : disk.read path = .ok content)
    (htext : Text.Utf8.decode content = .ok text) :
    Holds disk path r ↔ readRecord text = .ok r := by
  rw [readRecord_eq_ok_iff]
  constructor
  · rintro ⟨content', hread', text', htext', hrecord⟩
    obtain rfl := Except.ok.inj (hread.symm.trans hread')
    obtain rfl := Except.ok.inj (htext.symm.trans htext')
    exact hrecord
  · exact fun hrecord => ⟨content, hread, text, htext, hrecord⟩

theorem opened_load (disk : Disk) (path : String) :
    Opened disk path (load disk path).1 (load disk path).2 := by
  rw [load, Disk.readText]
  cases hread : disk.read path with
  | error reason =>
      have hunfit : ∀ r, ¬Holds disk path r := by
        rintro r ⟨content, hcontent, -⟩
        cases hread.symm.trans hcontent
      show Opened disk path (if reason = notFound then _ else _ : Option Record × Persisted).1
        (if reason = notFound then _ else _ : Option Record × Persisted).2
      split
      next hreason => exact .missing (Disk.read_eq_notFound_iff.mp (hreason ▸ hread))
      next hreason =>
        refine .discarded (fun hmissing => hreason ?_) hunfit
        exact Except.error.inj (hread.symm.trans (Disk.read_eq_notFound_iff.mpr hmissing))
  | ok content =>
      have hpresent : ¬disk.isMissing path = true := Disk.not_isMissing_of_read hread
      cases htext : Text.Utf8.decode content with
      | error fault =>
          simp only [htext, bind, Except.bind]
          have hne : Disk.notText ≠ notFound := by decide
          rw [if_neg hne]
          refine .discarded hpresent ?_
          rintro r ⟨content', hread', text, htext', -⟩
          obtain rfl := Except.ok.inj (hread.symm.trans hread')
          cases htext.symm.trans htext'
      | ok text =>
          simp only [htext, bind, Except.bind]
          cases hrecord : readRecord text with
          | error reason =>
              refine .discarded hpresent fun r hholds => ?_
              cases hrecord.symm.trans ((holds_iff hread htext).mp hholds)
          | ok found =>
              refine .loaded ((holds_iff hread htext).mpr hrecord) fun other hother => ?_
              exact Except.ok.inj (((holds_iff hread htext).mp hother).symm.trans hrecord)

section Cases

variable {found : Option Record} {persisted : Persisted} (h : Opened disk path found persisted)

include h

theorem Opened.record_iff : found = some r ↔ Holds disk path r := by
  cases h with
  | missing absent => exact ⟨nofun, fun hholds => absurd absent hholds.not_isMissing⟩
  | loaded holds unique =>
      constructor
      · rintro ⟨⟩
        exact holds
      · exact fun hholds => congrArg some (unique r hholds).symm
  | discarded present unfit => exact ⟨nofun, fun hholds => absurd hholds (unfit r)⟩

theorem Opened.loaded_iff : persisted = .loaded ↔ ∃ r, Holds disk path r := by
  cases h with
  | missing absent => exact ⟨nofun, fun ⟨_, hholds⟩ => absurd absent hholds.not_isMissing⟩
  | loaded holds unique => exact ⟨fun _ => ⟨_, holds⟩, fun _ => rfl⟩
  | discarded present unfit => exact ⟨nofun, fun ⟨r, hholds⟩ => absurd hholds (unfit r)⟩

theorem Opened.notFound_iff : persisted = .notFound ↔ disk.isMissing path = true := by
  cases h with
  | missing absent => exact ⟨fun _ => absent, fun _ => rfl⟩
  | loaded holds unique => exact ⟨nofun, fun hmissing => absurd hmissing holds.not_isMissing⟩
  | discarded present unfit => exact ⟨nofun, fun hmissing => absurd hmissing present⟩

theorem Opened.discarded_iff :
    (∃ reason, persisted = .discarded reason) ↔
      ¬disk.isMissing path = true ∧ ∀ r, ¬Holds disk path r := by
  cases h with
  | missing absent => exact ⟨nofun, fun ⟨hpresent, _⟩ => absurd absent hpresent⟩
  | loaded holds unique => exact ⟨nofun, fun ⟨_, hunfit⟩ => absurd holds (hunfit _)⟩
  | discarded present unfit => exact ⟨fun _ => ⟨present, unfit⟩, fun _ => ⟨_, rfl⟩⟩

end Cases

/-! ## Round trips -/

/-- A record that was persisted is what its file contains. -/
theorem read_persist (hok : (persist disk path r).2 = .ok ()) :
    (persist disk path r).1.read path = .ok r.content :=
  (hok ▸ persisting_persist disk path r).read

/-- On every disk and for every path of the record file: a record of version 1 whose counts fit
their words and whose dates can be written is loaded as it was, from its text and after it was
persisted; no record of another version is ever loaded; and if its patterns compile, the cache
opens with the record that the content of the file decodes to, with none if there is no file, and
otherwise without a record and with what was there discarded. -/
theorem persisted_record_opens (disk : Disk) (path : String) :
    (∀ r : Record, r.fits = true → r.document.schemaVersion = 1 →
      (disk.read path = .ok r.content → load disk path = (some r, .loaded)) ∧
      ((persist disk path r).2 = .ok () →
        (persist disk path r).1.read path = .ok r.content ∧
        load (persist disk path r).1 path = (some r, .loaded))) ∧
    (∀ r, (load disk path).1 = some r → r.document.schemaVersion = 1) ∧
    (∀ root includeGlobs excludeGlobs tree,
      Tree.compile root includeGlobs excludeGlobs = .ok tree →
      ∃ cache, openAt path root includeGlobs excludeGlobs disk = .ok cache ∧
        (∀ r, cache.record = some r ↔ Holds disk path r) ∧
        (cache.persisted = .loaded ↔ ∃ r, Holds disk path r) ∧
        (cache.persisted = .notFound ↔ disk.isMissing path = true) ∧
        ((∃ reason, cache.persisted = .discarded reason ∧ cache.record = none) ↔
          ¬disk.isMissing path = true ∧ ∀ r, ¬Holds disk path r)) := by
  have hopened := opened_load disk path
  refine ⟨fun r hfits hversion => ?_, fun r hrecord => ?_, ?_⟩
  · have hloadable : r.isLoadable = true := by
      rw [Record.isLoadable, hfits, Bool.true_and]
      exact decide_eq_true hversion
    exact ⟨load_of_read hloadable, fun hok => ⟨read_persist hok, load_persist hloadable hok⟩⟩
  · obtain ⟨content, -, text, -, -, hversion⟩ := hopened.record_iff.mp hrecord
    exact hversion
  · intro root includeGlobs excludeGlobs tree htree
    refine ⟨ofTree tree path disk, ?_, fun r => hopened.record_iff, hopened.loaded_iff,
      hopened.notFound_iff, ?_⟩
    · rw [openAt, htree]
      rfl
    · rw [← hopened.discarded_iff]
      constructor
      · rintro ⟨reason, hpersisted, -⟩
        exact ⟨reason, hpersisted⟩
      · rintro ⟨reason, hpersisted⟩
        refine ⟨reason, hpersisted, Option.eq_none_iff_forall_ne_some.mpr fun r hrecord => ?_⟩
        exact (hopened.discarded_iff.mp ⟨reason, hpersisted⟩).2 r (hopened.record_iff.mp hrecord)

/-! ### A record that needs every escape -/

/-- A module with control characters, quotes and letters of several bytes in its texts. -/
def oddModule : Index.Module where
  path := "a\\b \"c\".rs"
  language := ""
  symbols := ["\n\t\r", "\x00\x1f", "λ→𝄞"]
  dependencies := ["", "\\u0041"]
  summary := "/* \x7f */"
  lineCount := Word.size64 - 1
  tags := ["Critical", "Critical"]

/-- A record with the last nanosecond of the last year of four digits, and a leap second. -/
def oddRecord : Record where
  fingerprint := "\"\""
  generatedAt := ⟨253402300799, 999999999⟩
  fileCount := Word.size64 - 1
  document := ⟨1, ⟨"", ⟨1483228799, 1500000000⟩, ["\x7b", "\x7d"]⟩, [oddModule, oddModule]⟩

/-- The record is persisted on an empty disk, and a cache that is opened there holds it. -/
theorem oddRecord_opens :
    oddRecord.fits = true ∧ (persist {} "/b" oddRecord).2 = .ok () ∧
      ∃ cache, openAt "/b" "/src" ["**/*.rs"] [] (persist {} "/b" oddRecord).1 = .ok cache ∧
        cache.record = some oddRecord ∧ cache.persisted = .loaded := by
  have hfits : oddRecord.fits = true := by decide +kernel
  have hok : (persist {} "/b" oddRecord).2 = .ok () := rfl
  have hcompiles : (Tree.compile "/src" ["**/*.rs"] []).toOption.isSome = true := by
    decide +kernel
  obtain ⟨hread, -⟩ := ((persisted_record_opens {} "/b").1 oddRecord hfits rfl).2 hok
  cases htree : Tree.compile "/src" ["**/*.rs"] [] with
  | error report =>
      rw [htree] at hcompiles
      cases hcompiles
  | ok tree =>
      obtain ⟨-, -, hopen⟩ := persisted_record_opens (persist {} "/b" oddRecord).1 "/b"
      obtain ⟨cache, hcache, hrecord, hloaded, -, -⟩ := hopen "/src" ["**/*.rs"] [] tree htree
      have hholds : Holds (persist {} "/b" oddRecord).1 "/b" oddRecord :=
        ⟨oddRecord.content, hread, decodes_content (by decide +kernel)⟩
      exact ⟨hfits, hok, cache, hcache, (hrecord oddRecord).mpr hholds, hloaded.mpr ⟨_, hholds⟩⟩

end Cache

end Switchboard
