import Switchboard.Cache.Writer
import Switchboard.Proofs.Cache.Opening
import Switchboard.Proofs.Disk.Room
import Switchboard.Proofs.Disk.Sibling

/-!
# What a writer does to the disk

A writer touches two files, that of the record and the one next to it, and never writes to the first
one: only its last step changes what is found there. `Move` says once what a step can do.

What a disk stands for is `Standing`: either nothing was published since the start, and what is
found under the path of the record is what was found there at the start; or a record was published,
and the file holds it.

## Main results

* `Writer.move_step` — a step is one of the moves.
* `Standing.move` — a step leaves what was published as it is, or publishes the record of the writer.
* `Writer.run_fresh` — a writer that is left alone does what `persist` does.
-/

namespace Switchboard.Cache

open Switchboard.Disk (placeFrom)
open Switchboard.Text.Utf8 (Bytes)

variable {start disk other last : Disk} {path : String} {w next : Writer} {r : Record}
  {published : Option Record} {content : Bytes}

/-! ## The file next to the record file -/

theorem slash_suffix : '/' ∉ ".tmp".toList := by decide

theorem long_suffix : 2 < ".tmp".length := by decide

/-- The file next to the record file is another one. -/
theorem placeFrom_ne_temporaryPlace (current : Place) (path : String) :
    placeFrom current path ≠ temporaryPlace current path :=
  (Disk.placeFrom_append_ne slash_suffix long_suffix current path).symm

/-- The file next to the record file can be written. -/
def CanWrite (disk : Disk) (path : String) : Prop :=
  disk.Writable (temporaryPath path) (temporaryPlace disk.current path)

/-- The disk with a file next to the record file. -/
def putTemporary (disk : Disk) (path : String) (content : Bytes) : Disk :=
  disk.putFile (temporaryPlace disk.current path) content

theorem file?_putTemporary :
    (putTemporary disk path content).file? (temporaryPlace disk.current path) = some content :=
  Disk.file?_putFile_self

theorem CanWrite.putTemporary (h : CanWrite disk path) :
    CanWrite (putTemporary disk path content) path :=
  h.putFile _ content

theorem write_temporary_iff :
    disk.write (temporaryPath path) content = .ok other ↔
      CanWrite disk path ∧ other = putTemporary disk path content := by
  rw [Disk.write_iff]
  constructor
  · rintro ⟨here, hwritable, rfl⟩
    obtain rfl : here = temporaryPlace disk.current path := Disk.resolve_eq_place hwritable.resolve
    exact ⟨hwritable, rfl⟩
  · exact fun ⟨hwritable, hother⟩ => ⟨_, hwritable, hother⟩

/-- Room for the record is still there when the file next to it was written. -/
theorem hasRoom_putTemporary (h : disk.HasRoom path) (hwrite : CanWrite disk path) :
    (putTemporary disk path content).HasRoom path :=
  h.putFile hwrite.free

/-- A file that is missing is not there either when the one next to it was written. -/
theorem isMissing_putTemporary (hwrite : CanWrite disk path) (h : disk.isMissing path = true) :
    (putTemporary disk path content).isMissing path = true := by
  by_cases hempty : path.isEmpty = true
  · rw [Disk.isMissing, Disk.resolve, if_pos hempty]
    rfl
  · rw [Bool.not_eq_true] at hempty
    obtain ⟨place, hplace | hplace⟩ :=
      Disk.resolve_of_append slash_suffix long_suffix hwrite.resolve hempty
    · simp only [Disk.isMissing, hplace, Disk.isTaken, Bool.not_eq_true', Bool.or_eq_false_iff,
        Option.isSome_eq_false_iff, Option.isNone_iff_eq_none] at h
      obtain ⟨hdirectory, hfile⟩ := h
      have hne : place ≠ temporaryPlace disk.current path :=
        Disk.resolve_eq_place hplace ▸ placeFrom_ne_temporaryPlace disk.current path
      have hfile' : (putTemporary disk path content).file? place = none :=
        (Disk.file?_putFile_of_ne hne).trans hfile
      have hresolve : (putTemporary disk path content).resolve path = .ok place :=
        Disk.resolve_of_extends (Disk.extends_putFile _ _ _) hplace fun _ => hfile'
      have hdirectory' : (putTemporary disk path content).isDirectory place = false := hdirectory
      simp only [Disk.isMissing, hresolve, Disk.isTaken, hfile', hdirectory']
      rfl
    · rw [Disk.isMissing, hplace] at h
      exact absurd (of_decide_eq_true h) (by decide)

/-! ## Room for the record -/

theorem hasRoom_of_makeRoom {room : Disk} (h : makeRoom disk path = .ok room) :
    room.HasRoom path := by
  intro parent hparent
  simp only [makeRoom, hparent] at h
  exact Disk.hasDirectory_of_makeDirectories (mapError_eq_ok.mp h)

theorem makeRoom_of_hasRoom (h : disk.HasRoom path) : makeRoom disk path = .ok disk := by
  rw [makeRoom]
  split
  · rfl
  next parent hparent =>
    rw [Disk.makeDirectories_of_hasDirectory (h parent hparent)]
    rfl

/-- The disk after room for the record was made so many times. A path may lead somewhere else once
the directories on its way are there. -/
def roomAfter (path : String) : Nat → Disk → Disk
  | 0, disk => disk
  | count + 1, disk => Disk.remaining (makeRoom (roomAfter path count disk) path)

theorem roomAfter_furnishes (count : Nat) (disk : Disk) (path : String) :
    disk.Furnishes (roomAfter path count disk) := by
  induction count with
  | zero => exact .refl disk
  | succ count ih => exact ih.trans (makeRoom_furnishes _ path)

/-- There is no file at the path of the record, and making room for it does not change that. -/
def StaysMissing (disk : Disk) (path : String) : Prop :=
  ∀ count, (roomAfter path count disk).isMissing path = true

/-! ## The moves of a writer -/

/-- What one step of a writer can do: the writer before, the disk it leaves, the writer after. -/
inductive Writer.Move (path : String) (disk : Disk) : Writer → Disk → Writer → Prop
  | furnishes {r : Record} {handle : Option Place} {room : Disk}
      (made : makeRoom disk path = .ok room) :
      Move path disk ⟨r, .fresh, handle⟩ room ⟨r, .furnished, handle⟩
  | unfurnished {r : Record} {handle : Option Place} {report : Report} {left : Disk}
      (failed : makeRoom disk path = .error (report, left)) :
      Move path disk ⟨r, .fresh, handle⟩ left ⟨r, .done (.error report), handle⟩
  | opens {r : Record} {handle : Option Place} (writable : CanWrite disk path) :
      Move path disk ⟨r, .furnished, handle⟩ (putTemporary disk path [])
        ⟨r, .writing 0, some (temporaryPlace disk.current path)⟩
  | refused {r : Record} {handle : Option Place} {report : Report} :
      Move path disk ⟨r, .furnished, handle⟩ disk ⟨r, .done (.error report), handle⟩
  | writes {r : Record} {handle : Option Place} {count : Nat} {byte : UInt8}
      (following : r.content[count]? = some byte) :
      Move path disk ⟨r, .writing count, handle⟩ (writeThrough disk handle count byte)
        ⟨r, .writing (count + 1), handle⟩
  | publishes {r : Record} {handle : Option Place} {count : Nat} {last : Disk}
      (complete : r.content[count]? = none) (moved : publish disk path = .ok last) :
      Move path disk ⟨r, .writing count, handle⟩ last ⟨r, .done (.ok ()), none⟩
  | unpublished {r : Record} {handle : Option Place} {count : Nat} {report : Report} :
      Move path disk ⟨r, .writing count, handle⟩ disk ⟨r, .done (.error report), none⟩
  | rests {r : Record} {handle : Option Place} {outcome : Except Report Unit} :
      Move path disk ⟨r, .done outcome, handle⟩ disk ⟨r, .done outcome, handle⟩

/-- Every step is one of the moves. -/
theorem Writer.move_step (path : String) (disk : Disk) (w : Writer) :
    w.Move path disk (w.step path disk).1 (w.step path disk).2 := by
  obtain ⟨r, stage, handle⟩ := w
  cases stage with
  | fresh =>
      simp only [step]
      cases hmade : makeRoom disk path with
      | error failure => exact .unfurnished hmade
      | ok room => exact .furnishes hmade
  | furnished =>
      simp only [step]
      cases hopened : openTemporary disk path with
      | error report => exact .refused
      | ok opened =>
          obtain ⟨hwrite, rfl⟩ := write_temporary_iff.mp (mapError_eq_ok.mp hopened)
          have hresolve : (putTemporary disk path []).resolve (temporaryPath path) =
              .ok (temporaryPlace disk.current path) :=
            hwrite.putTemporary.resolve
          simp only [hresolve]
          exact .opens hwrite
  | writing count =>
      simp only [step]
      cases hbyte : r.content[count]? with
      | some byte => exact .writes hbyte
      | none =>
          cases hpublished : publish disk path with
          | error report => exact .unpublished
          | ok last => exact .publishes hbyte hpublished
  | done outcome => exact .rests

theorem Writer.Move.record (h : w.Move path disk last next) : next.record = w.record := by
  cases h <;> rfl

/-! ## What a disk stands for -/

/-- What has come of the disk since the start, given the last record that was published: as long as
there is none, room was made, or the file next to the record file was written too. -/
inductive Standing (start : Disk) (path : String) : Option Record → Disk → Prop
  | furnished (count : Nat) : Standing start path none (roomAfter path count start)
  | unpublished {disk : Disk} (directories : start.Extends disk)
      (file : disk.file? (placeFrom start.current path) = start.file? (placeFrom start.current path))
      (missing : StaysMissing start path → disk.isMissing path = true)
      (room : disk.HasRoom path) : Standing start path none disk
  | published {disk : Disk} {r : Record} (read : disk.read path = .ok r.content) :
      Standing start path (some r) disk

theorem Standing.refl (start : Disk) (path : String) : Standing start path none start :=
  .furnished 0

theorem Standing.extends (h : Standing start path none disk) : start.Extends disk := by
  cases h with
  | furnished count => exact (roomAfter_furnishes count start path).toExtends
  | unpublished directories file missing room => exact directories

theorem Standing.file? (h : Standing start path none disk) :
    disk.file? (placeFrom start.current path) = start.file? (placeFrom start.current path) := by
  cases h with
  | furnished count => exact (roomAfter_furnishes count start path).file? _
  | unpublished directories file missing room => exact file

theorem Standing.isMissing (h : Standing start path none disk) (hmissing : StaysMissing start path) :
    disk.isMissing path = true := by
  cases h with
  | furnished count => exact hmissing count
  | unpublished directories file missing room => exact missing hmissing

theorem Standing.makeRoom (h : Standing start path published disk) :
    Standing start path published (Disk.remaining (makeRoom disk path)) := by
  cases h with
  | furnished count => exact .furnished (count + 1)
  | unpublished directories file missing room =>
      rw [makeRoom_of_hasRoom room]
      exact .unpublished directories file missing room
  | published read =>
      have hfurnishes := makeRoom_furnishes disk path
      exact .published (Disk.read_of_extends hfurnishes.toExtends read (hfurnishes.file? _))

theorem Standing.putTemporary (h : Standing start path published disk) (hroom : disk.HasRoom path)
    (hwrite : CanWrite disk path) (content : Bytes) :
    Standing start path published (putTemporary disk path content) := by
  have hextends : disk.Extends (Cache.putTemporary disk path content) :=
    Disk.extends_putFile _ _ _
  have hfile : (Cache.putTemporary disk path content).file? (placeFrom disk.current path) =
      disk.file? (placeFrom disk.current path) :=
    Disk.file?_putFile_of_ne (placeFrom_ne_temporaryPlace _ _)
  cases published with
  | none =>
      have hcurrent : disk.current = start.current := h.extends.current
      refine .unpublished (h.extends.trans hextends) (hcurrent ▸ hfile |>.trans h.file?) ?_ ?_
      · exact fun hmissing => isMissing_putTemporary hwrite (h.isMissing hmissing)
      · exact hasRoom_putTemporary hroom hwrite
  | some r =>
      cases h with
      | published read => exact .published (Disk.read_of_extends hextends read hfile)

/-- What is loaded: the last record that was published, or what was there at the start. -/
theorem Standing.load (h : Standing start path published disk)
    (hstart : (∃ r, Holds start path r) ∨ StaysMissing start path)
    (hloadable : ∀ r ∈ published, r.isLoadable = true) :
    load disk path = published.elim (Cache.load start path) fun r => (some r, .loaded) := by
  cases published with
  | some r =>
      cases h with
      | published read => exact load_of_read (hloadable r rfl) read
  | none =>
      refine load_congr ?_
      have hread : disk.read path = start.read path := by
        obtain ⟨r, content, hcontent, -⟩ | hmissing := hstart
        · rw [hcontent, Disk.read_of_extends h.extends hcontent h.file?]
        · have habsent : start.isMissing path = true := hmissing 0
          rw [Disk.read_eq_notFound_iff.mpr (h.isMissing hmissing),
            Disk.read_eq_notFound_iff.mpr habsent]
      rw [Disk.readText, Disk.readText, hread]

/-! ## What a writer relies on -/

/-- What has to be true of the disk for a writer that is interrupted by nobody: once it has the file
next to the record file open, that file holds what the writer has written. -/
inductive Writer.Sound (path : String) (disk : Disk) : Writer → Prop
  | fresh {r : Record} {handle : Option Place} : Sound path disk ⟨r, .fresh, handle⟩
  | furnished {r : Record} {handle : Option Place} (room : disk.HasRoom path) :
      Sound path disk ⟨r, .furnished, handle⟩
  | writing {r : Record} {count : Nat} (room : disk.HasRoom path) (writable : CanWrite disk path)
      (content : disk.file? (temporaryPlace disk.current path) = some (r.content.take count)) :
      Sound path disk ⟨r, .writing count, some (temporaryPlace disk.current path)⟩
  | done {r : Record} {handle : Option Place} {outcome : Except Report Unit} :
      Sound path disk ⟨r, .done outcome, handle⟩

theorem overwrite_take {offset : Nat} {byte : UInt8} (h : content[offset]? = some byte) :
    overwrite (content.take offset) offset byte = content.take (offset + 1) := by
  obtain ⟨hoffset, rfl⟩ := List.getElem?_eq_some_iff.mp h
  have hlength : (content.take offset).length = offset :=
    List.length_take_of_le (Nat.le_of_lt hoffset)
  have hdrop : (content.take offset).drop (offset + 1) = [] :=
    List.drop_eq_nil_of_le (Nat.le_succ_of_le (Nat.le_of_eq hlength))
  rw [overwrite, hdrop, List.take_of_length_le (Nat.le_of_eq hlength), hlength, Nat.sub_self,
    List.replicate_zero, List.append_nil, List.take_succ_eq_append_getElem hoffset]

/-- The file of a writer that is interrupted by nobody grows by a byte. -/
theorem writeThrough_eq {count : Nat} {byte : UInt8}
    (hcontent : disk.file? (temporaryPlace disk.current path) = some (r.content.take count))
    (hbyte : r.content[count]? = some byte) :
    writeThrough disk (some (temporaryPlace disk.current path)) count byte =
      putTemporary disk path (r.content.take (count + 1)) := by
  rw [writeThrough, hcontent, Option.getD_some, overwrite_take hbyte]
  rfl

/-- A file with all bytes of a record becomes the file of the record. -/
theorem publish_eq_moved (hwrite : CanWrite disk path)
    (hcontent : disk.file? (temporaryPlace disk.current path) = some content)
    (h : publish disk path = .ok last) :
    disk.isDirectory (placeFrom disk.current path) = false ∧
      last = disk.moved (temporaryPlace disk.current path) (placeFrom disk.current path) content ∧
      last.read path = .ok content := by
  obtain ⟨there, hthere, hfree, hslash, rfl⟩ :=
    Disk.rename_eq_ok hwrite.resolve hcontent (mapError_eq_ok.mp h)
  have hplace := Disk.resolve_eq_place hthere
  refine ⟨hplace ▸ hfree, hplace ▸ rfl, Disk.read_eq_ok.mpr ⟨there, ?_, Disk.file?_moved_self⟩⟩
  exact Disk.resolve_of_extends (Disk.extends_moved _ _ _ _) hthere
    fun h => absurd (hslash.symm.trans h) nofun

/-- A step of a writer that is interrupted by nobody: it publishes its record, or what was published
stays. -/
theorem Standing.move (h : Standing start path published disk) (hsound : w.Sound path disk)
    (hmove : w.Move path disk last next) :
    next.hasPublished = w.hasPublished ∧ Standing start path published last ∨
      w.hasPublished = false ∧ next.hasPublished = true ∧
        Standing start path (some w.record) last := by
  cases hmove with
  | furnishes made =>
      have hroom := h.makeRoom
      rw [made] at hroom
      exact .inl ⟨rfl, hroom⟩
  | unfurnished failed =>
      have hroom := h.makeRoom
      rw [failed] at hroom
      exact .inl ⟨rfl, hroom⟩
  | opens writable =>
      cases hsound with
      | furnished room => exact .inl ⟨rfl, h.putTemporary room writable []⟩
  | refused => exact .inl ⟨rfl, h⟩
  | writes following =>
      cases hsound with
      | writing room writable content =>
          rw [writeThrough_eq content following]
          exact .inl ⟨rfl, h.putTemporary room writable _⟩
  | publishes complete moved =>
      cases hsound with
      | writing room writable content =>
          rw [List.take_of_length_le (List.getElem?_eq_none_iff.mp complete)] at content
          obtain ⟨-, -, hread⟩ := publish_eq_moved writable content moved
          exact .inr ⟨rfl, rfl, .published hread⟩
  | unpublished => exact .inl ⟨rfl, h⟩
  | rests => exact .inl ⟨rfl, h⟩

theorem Writer.Sound.move (h : w.Sound path disk) (hmove : w.Move path disk last next) :
    next.Sound path last := by
  cases hmove with
  | furnishes made => exact .furnished (hasRoom_of_makeRoom made)
  | opens writable =>
      cases h with
      | furnished room =>
          exact .writing (hasRoom_putTemporary room writable) writable.putTemporary
            file?_putTemporary
  | writes following =>
      cases h with
      | writing room writable content =>
          rw [writeThrough_eq content following]
          exact .writing (hasRoom_putTemporary room writable) writable.putTemporary
            file?_putTemporary
  | _ => exact .done

/-! ## Writers that are left alone -/

theorem Writer.hasPublished_iff : w.hasPublished = true ↔ w.stage = .done (.ok ()) := by
  obtain ⟨r, stage, handle⟩ := w
  rw [hasPublished]
  constructor
  · intro h
    split at h
    · next hstage => exact hstage
    · cases h
  · rintro h
    rw [h]

theorem Writer.run_succ (count : Nat) (disk : Disk) (w : Writer) :
    w.run path (count + 1) disk =
      (w.step path disk).2.run path count (w.step path disk).1 :=
  rfl

/-- A writer that is done stays as it is. -/
theorem Writer.run_of_done {outcome : Except Report Unit} (h : w.stage = .done outcome)
    (count : Nat) : w.run path count disk = (disk, w) := by
  have hstep : w.step path disk = (disk, w) := by simp only [step, h]
  induction count with
  | zero => rfl
  | succ count ih => rw [run_succ, hstep, ih]

/-- What is sound and stands stays so for any number of steps of a writer that is left alone. -/
theorem Standing.run (count : Nat) (h : Standing start path published disk)
    (hsound : w.Sound path disk) (hfresh : w.hasPublished = false) :
    Standing start path
      (if (w.run path count disk).2.hasPublished then some w.record else published)
      (w.run path count disk).1 := by
  induction count generalizing disk w with
  | zero =>
      rw [Writer.run, hfresh]
      exact h
  | succ count ih =>
      have hmove := w.move_step path disk
      rw [Writer.run_succ]
      obtain ⟨hsame, hstands⟩ | ⟨-, hpublished, hstands⟩ := h.move hsound hmove
      · rw [← hmove.record]
        exact ih hstands (hsound.move hmove) (hsame.trans hfresh)
      · rw [Writer.run_of_done (Writer.hasPublished_iff.mp hpublished), hpublished]
        exact hstands

theorem Writer.run_add (count more : Nat) (disk : Disk) (w : Writer) :
    w.run path (count + more) disk =
      (w.run path count disk).2.run path more (w.run path count disk).1 := by
  induction count generalizing disk w with
  | zero => rw [Nat.zero_add, run]
  | succ count ih => rw [Nat.succ_add, run_succ, run_succ, ih]

theorem putTemporary_putTemporary {content' : Bytes} :
    putTemporary (putTemporary disk path content) path content' =
      putTemporary disk path content' := by
  simp [putTemporary, Disk.putFile, List.filter_append, List.filter_filter]

/-- Bytes are written one by one. -/
theorem Writer.run_writing {count more : Nat} (h : count + more ≤ r.content.length) :
    run path more (putTemporary disk path (r.content.take count))
        ⟨r, .writing count, some (temporaryPlace disk.current path)⟩ =
      (putTemporary disk path (r.content.take (count + more)),
        ⟨r, .writing (count + more), some (temporaryPlace disk.current path)⟩) := by
  induction more generalizing count with
  | zero => rfl
  | succ more ih =>
      have hlength : count < r.content.length := by omega
      have hbyte : r.content[count]? = some r.content[count] := List.getElem?_eq_getElem hlength
      have hwritten : writeThrough (putTemporary disk path (r.content.take count))
          (some (temporaryPlace disk.current path)) count r.content[count] =
            putTemporary disk path (r.content.take (count + 1)) :=
        (writeThrough_eq file?_putTemporary hbyte).trans putTemporary_putTemporary
      rw [run_succ, step]
      simp only [hbyte, hwritten]
      rw [ih (by omega), Nat.add_right_comm count 1 more]
      rfl

/-- A file that cannot be opened cannot be written. -/
theorem writeTemporary_eq_error {report : Report} (h : openTemporary disk path = .error report) :
    writeTemporary disk path r = .error report := by
  rw [openTemporary] at h
  rw [writeTemporary]
  cases hwrite : disk.write (temporaryPath path) [] with
  | ok other =>
      rw [hwrite] at h
      cases h
  | error reason =>
      rw [hwrite] at h
      rw [Disk.write_eq_error hwrite]
      exact h

/-- A writer that is left alone long enough does what persisting does. -/
theorem Writer.run_fresh (disk : Disk) (path : String) (r : Record) :
    run path (r.content.length + 3) disk { record := r } =
      ((persist disk path r).1, { record := r, stage := .done (persist disk path r).2 }) := by
  rw [persist, run_succ, step]
  cases hmade : makeRoom disk path with
  | error failure => exact run_of_done rfl _
  | ok room =>
      show run path (r.content.length + 1 + 1) room ⟨r, .furnished, none⟩ = _
      rw [run_succ, step]
      cases hopened : openTemporary room path with
      | error report =>
          have hwritten : writeTemporary room path r = .error report :=
            writeTemporary_eq_error hopened
          simp only [hwritten]
          exact run_of_done rfl _
      | ok opened =>
          obtain ⟨hwrite, rfl⟩ := write_temporary_iff.mp (mapError_eq_ok.mp hopened)
          have hwritten : writeTemporary room path r = .ok (putTemporary room path r.content) :=
            mapError_eq_ok.mpr (write_temporary_iff.mpr ⟨hwrite, rfl⟩)
          have hresolve : (putTemporary room path []).resolve (temporaryPath path) =
              .ok (temporaryPlace room.current path) :=
            hwrite.putTemporary.resolve
          have hbytes : run path r.content.length (putTemporary room path (r.content.take 0))
              ⟨r, .writing 0, some (temporaryPlace room.current path)⟩ = _ :=
            run_writing (by omega)
          have hall : r.content[r.content.length]? = none := List.getElem?_eq_none (Nat.le_refl _)
          simp only [List.take_zero, Nat.zero_add, List.take_length] at hbytes
          simp only [hwritten, hresolve]
          rw [run_add, Except.toOption, hbytes, run_succ, step]
          simp only [hall]
          cases publish (putTemporary room path r.content) path <;> rfl

end Switchboard.Cache
