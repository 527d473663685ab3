import Switchboard.Cache.Basic
import Switchboard.Proofs.Index.Document
import Switchboard.Proofs.Source.Tree
import Switchboard.Proofs.Text.Utf8

/-!
# Records on disk

A record that was moved into place is the one that is loaded again. Persisting touches two places
of the disk, that of the record and that of the file it is written to first, and makes
directories; a source tree to which neither place belongs is not changed by it.

## Main results

* `load_persist` — a persisted record is loaded as it was.
* `files_persist`, `fingerprint_persist` — persisting leaves a tree that stands apart alone.
-/

namespace Switchboard.Cache

open Switchboard.Data
open Switchboard.Source (File Tree)

variable {disk : Disk} {path : String} {r : Record}

/-! ## Records as data -/

namespace Record

/-- Whether all numbers of a record fit their words and its dates can be written. -/
def fits (r : Record) : Bool :=
  r.generatedAt.isValid && r.fileCount < Word.size64 && r.document.fits

/-- The values of a record in the order of its fields. -/
def values (r : Record) : List Node :=
  [.str r.fingerprint, r.generatedAt.toNode, .nat r.fileCount, r.document.toNode]

theorem toNode_eq (r : Record) : r.toNode = .obj ((fieldNames fields).zip r.values) := rfl

theorem nodup_fieldNames : (fieldNames fields).Nodup := by decide

theorem fits_parts (h : r.fits = true) :
    r.generatedAt.isValid = true ∧ r.fileCount < Word.size64 ∧ r.document.fits = true := by
  simpa [fits, and_assoc] using h

theorem isPlain_values (h : r.fits = true) : ∀ node ∈ r.values, node.isPlain = true := by
  obtain ⟨-, hcount, hdocument⟩ := fits_parts h
  simp [values, Timestamp.toNode, Node.isPlain, Index.isPlain_nat hcount,
    Index.Document.isPlain_toNode hdocument]

theorem isPlain_toNode (h : r.fits = true) : r.toNode.isPlain = true :=
  isPlain_obj_zip (fieldNames fields) (isPlain_values h)

/-- A record is read back from its data. -/
theorem read_toNode (h : r.fits = true) : read r.toNode = .ok r := by
  obtain ⟨hdate, hcount, hdocument⟩ := fits_parts h
  have hword : Reading.word (.nat r.fileCount) = .ok r.fileCount := Index.natBelow_nat hcount
  rw [read, toNode_eq, record_zip {} nodup_fieldNames rfl (isPlain_values h)]
  simp [storeInOrder, fields, values, RecordField.required, Reading.text, hword,
    Timestamp.read_toNode hdate, Index.Document.read_toNode hdocument, Except.map]

end Record

/-- Whether a record can be loaded again: it fits, and it is of the current version. -/
def Record.isLoadable (r : Record) : Bool :=
  r.fits && r.document.schemaVersion = Index.schemaVersion

theorem readRecord_compact (h : r.isLoadable = true) :
    readRecord (Json.compact r.toNode) = .ok r := by
  simp only [Record.isLoadable, Bool.and_eq_true, decide_eq_true_eq] at h
  obtain ⟨hfits, hversion⟩ := h
  rw [readRecord, Json.decode_compact (Record.isPlain_toNode hfits), Record.read_toNode hfits]
  exact if_pos hversion

/-- A file with the content of a record is loaded as that record. -/
theorem load_of_read (h : r.isLoadable = true) (hread : disk.read path = .ok r.content) :
    load disk path = (some r, .loaded) := by
  have htext : disk.readText path = .ok (Json.compact r.toNode) := by
    simp only [Disk.readText, hread, Record.content, Text.Utf8.decode_encode, bind, Except.bind]
  simp only [load, htext, readRecord_compact h]

theorem load_of_content {place : Place} (h : r.isLoadable = true)
    (hplace : disk.resolve path = .ok place) (hfile : disk.file? place = some r.content) :
    load disk path = (some r, .loaded) := by
  refine load_of_read h ?_
  simp only [Disk.read, hplace, hfile, bind, Except.bind]

/-- Only the text of the record file counts. -/
theorem load_congr {other : Disk} (h : other.readText path = disk.readText path) :
    load other path = load disk path := by
  rw [load, load, h]

/-! ## Persisting -/

/-- Where a record is written before it is moved into place. -/
def temporaryPlace (current : Place) (path : String) : Place :=
  Disk.placeFrom current (temporaryPath path)

/-- The steps that can have been taken when persisting ends. -/
inductive Persisting (disk : Disk) (path : String) (r : Record) : Disk → Except Report Unit → Prop
  /-- There may be room for the record, but it was not written. -/
  | unwritten {room : Disk} {report : Report} (furnishes : disk.Furnishes room) :
      Persisting disk path r room (.error report)
  /-- The record was written, but it could not be moved. -/
  | unmoved {room last : Disk} {report : Report} (furnishes : disk.Furnishes room)
      (written : last = room.putFile (temporaryPlace disk.current path) r.content) :
      Persisting disk path r last (.error report)
  /-- The record is in place. -/
  | published {room last : Disk} (furnishes : disk.Furnishes room)
      (free : room.isDirectory (Disk.placeFrom disk.current path) = false)
      (moved : last = (room.putFile (temporaryPlace disk.current path) r.content).moved
        (temporaryPlace disk.current path) (Disk.placeFrom disk.current path) r.content)
      (resolve : last.resolve path = .ok (Disk.placeFrom disk.current path)) :
      Persisting disk path r last (.ok ())

theorem mapError_eq_ok {α ε ε' : Type} {x : Except ε α} {f : ε → ε'} {a : α} :
    x.mapError f = .ok a ↔ x = .ok a := by
  cases x with
  | error e => exact ⟨nofun, nofun⟩
  | ok b =>
      show Except.ok b = Except.ok a ↔ Except.ok b = Except.ok a
      rw [Except.ok.injEq, Except.ok.injEq]

theorem makeRoom_furnishes (disk : Disk) (path : String) :
    disk.Furnishes (Disk.remaining (makeRoom disk path)) := by
  rw [makeRoom]
  split
  · exact .refl disk
  next parent _ =>
    have hmade := Disk.makeDirectories_furnishes disk parent
    rwa [Disk.remaining_mapError ?same]
    case same => exact fun _ => rfl

/-- A record that was written is moved to its place. -/
theorem publish_eq_ok {room last : Disk} {here : Place}
    (hwrite : room.resolve (temporaryPath path) = .ok here)
    (hslash : Text.endsWith "/" (temporaryPath path) = false)
    (h : publish (room.putFile here r.content) path = .ok last) :
    ∃ there, room.isDirectory there = false ∧ last.resolve path = .ok there ∧
      last = (room.putFile here r.content).moved here there r.content := by
  have hhere : (room.putFile here r.content).resolve (temporaryPath path) = .ok here :=
    Disk.resolve_of_extends (Disk.extends_putFile room here r.content) hwrite
      fun h => absurd (hslash.symm.trans h) nofun
  obtain ⟨there, hthere, hfree, hslash', rfl⟩ :=
    Disk.rename_eq_ok hhere Disk.file?_putFile_self (mapError_eq_ok.mp h)
  refine ⟨there, hfree, ?_, rfl⟩
  exact Disk.resolve_of_extends (Disk.extends_moved _ _ _ _) hthere
    fun h => absurd (hslash'.symm.trans h) nofun

/-- What persisting can do. -/
theorem persisting_persist (disk : Disk) (path : String) (r : Record) :
    Persisting disk path r (persist disk path r).1 (persist disk path r).2 := by
  have hfurnishes := makeRoom_furnishes disk path
  rw [persist]
  split
  · next hfailure =>
      rw [hfailure] at hfurnishes
      exact .unwritten hfurnishes
  next room hroom =>
    rw [hroom] at hfurnishes
    split
    · exact .unwritten hfurnishes
    next written hwritten =>
      obtain ⟨here, hhere, -, hslash, rfl⟩ := Disk.write_eq_ok (mapError_eq_ok.mp hwritten)
      have hplace : here = temporaryPlace disk.current path :=
        hfurnishes.current ▸ Disk.resolve_eq_place hhere
      split
      · exact .unmoved hfurnishes (hplace ▸ rfl)
      next last hlast =>
        obtain ⟨there, hfree, hresolve, hmoved⟩ := publish_eq_ok hhere hslash hlast
        have hplace' : there = Disk.placeFrom disk.current path := by
          have hcurrent : last.current = disk.current := by rw [hmoved]; exact hfurnishes.current
          exact hcurrent ▸ Disk.resolve_eq_place hresolve
        subst hplace hplace'
        exact .published hfurnishes hfree hmoved hresolve

section Outcome

variable {last : Disk} {outcome : Except Report Unit}

/-- A record that is in place is what its file contains. -/
theorem Persisting.read (h : Persisting disk path r last (.ok ())) :
    last.read path = .ok r.content := by
  cases h with
  | published _ _ moved resolve =>
      have hfile : last.file? (Disk.placeFrom disk.current path) = some r.content :=
        moved ▸ Disk.file?_moved_self
      simp only [Disk.read, resolve, hfile, bind, Except.bind]

theorem Persisting.load (h : Persisting disk path r last (.ok ()))
    (hloadable : r.isLoadable = true) : Cache.load last path = (some r, .loaded) :=
  load_of_read hloadable h.read

theorem Persisting.extends (h : Persisting disk path r last outcome) : disk.Extends last := by
  cases h with
  | unwritten furnishes => exact furnishes.toExtends
  | unmoved furnishes written =>
      exact written ▸ furnishes.toExtends.trans (Disk.extends_putFile _ _ _)
  | published furnishes free moved resolve =>
      subst moved
      exact (furnishes.toExtends.trans (Disk.extends_putFile _ _ _)).trans
        (Disk.extends_moved _ _ _ _)

/-- At a place that is taken a file stays, or there is none before and after. -/
theorem Persisting.isSome_file? {place : Place} (h : Persisting disk path r last outcome)
    (hne : place ≠ temporaryPlace disk.current path) (htaken : disk.isTaken place = true) :
    (last.file? place).isSome = (disk.file? place).isSome := by
  cases h with
  | unwritten furnishes => rw [furnishes.file?]
  | unmoved furnishes written => rw [written, Disk.file?_putFile_of_ne hne, furnishes.file?]
  | published furnishes free moved resolve =>
      subst moved
      by_cases hplace : place = Disk.placeFrom disk.current path
      · have hfile : (disk.file? place).isSome = true := by
          rw [← hplace] at free
          have hclear : ¬disk.isDirectory place = true := fun h =>
            absurd (free.symm.trans (furnishes.directory h)) nofun
          simpa [Disk.isTaken, hclear] using htaken
        rw [hplace, Disk.file?_moved_self, ← hplace, hfile]
        rfl
      · rw [Disk.file?_moved_of_ne hne hplace, Disk.file?_putFile_of_ne hne, furnishes.file?]

/-- Files of a tree to which neither place belongs are neither written nor moved. -/
theorem Persisting.filter_files {tree : Tree} {root : Place}
    (h : Persisting disk path r last outcome)
    (hhere : tree.owns root (temporaryPlace disk.current path) = false)
    (hthere : tree.owns root (Disk.placeFrom disk.current path) = false) :
    (last.files.filter fun file => tree.owns root file.1) =
      disk.files.filter fun file => tree.owns root file.1 := by
  cases h with
  | unwritten furnishes => rw [furnishes.files]
  | unmoved furnishes written => rw [written, Tree.filter_putFile hhere, furnishes.files]
  | published furnishes free moved resolve =>
      rw [moved, Tree.filter_moved hhere hthere, Tree.filter_putFile hhere, furnishes.files]

end Outcome

/-- A persisted record is loaded as it was. -/
theorem load_persist (h : r.isLoadable = true) (hok : (persist disk path r).2 = .ok ()) :
    load (persist disk path r).1 path = (some r, .loaded) :=
  (hok ▸ persisting_persist disk path r).load h

theorem current_persist (disk : Disk) (path : String) (r : Record) :
    (persist disk path r).1.current = disk.current :=
  (persisting_persist disk path r).extends.current

/-! ## Trees that stand apart -/

/-- Whether neither the record nor the file it is first written to belongs to a source tree, nor
the latter takes the place of its root. -/
def standsApart (tree : Tree) (path : String) (current : Place) : Bool :=
  let root := Disk.placeFrom current tree.root
  !tree.owns root (Disk.placeFrom current path) &&
    !tree.owns root (temporaryPlace current path) && temporaryPlace current path ≠ root

theorem standsApart_iff {tree : Tree} {current : Place} :
    standsApart tree path current = true ↔
      tree.owns (Disk.placeFrom current tree.root) (Disk.placeFrom current path) = false ∧
      tree.owns (Disk.placeFrom current tree.root) (temporaryPlace current path) = false ∧
      temporaryPlace current path ≠ Disk.placeFrom current tree.root := by
  simp [standsApart, and_assoc]

/-- Persisting leaves the files of a tree that stands apart alone. -/
theorem files_persist {tree : Tree} {files : List File} (r : Record)
    (hapart : standsApart tree path disk.current = true) (hfiles : tree.files disk = .ok files) :
    tree.files (persist disk path r).1 = .ok files := by
  obtain ⟨hthere, hhere, hroot⟩ := standsApart_iff.mp hapart
  have hsteps := persisting_persist disk path r
  refine Tree.files_of_extends hfiles hsteps.extends ?_
  rintro root rfl htaken
  exact ⟨hsteps.isSome_file? hroot.symm htaken, hsteps.filter_files hhere hthere⟩

/-- So the fingerprint of such a tree stays the same. -/
theorem fingerprint_persist {tree : Tree} {fingerprint : Source.Fingerprint} (r : Record)
    (hapart : standsApart tree path disk.current = true)
    (h : tree.fingerprint disk = .ok fingerprint) :
    tree.fingerprint (persist disk path r).1 = .ok fingerprint := by
  obtain ⟨files, hfiles, rfl⟩ := Source.fingerprint_eq_ok.mp h
  exact Source.fingerprint_eq_ok.mpr ⟨files, files_persist r hapart hfiles, rfl⟩

end Switchboard.Cache
