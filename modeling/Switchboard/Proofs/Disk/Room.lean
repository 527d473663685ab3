import Switchboard.Proofs.Disk.Place

/-!
# Room for files

What it takes to read a file and to write one, and what making the directories above a path leaves
behind: they are there, and making them once more changes nothing. All of it is kept when another
file is put on the disk.

## Main results

* `read_eq_ok`, `write_iff` — reading and writing, by the place a path leads to.
* `hasDirectory_of_makeDirectories` — directories that were made are there.
* `makeDirectories_of_hasDirectory` — directories that are there need not be made.
-/

namespace Switchboard.Disk

open Switchboard.Text.Utf8 (Bytes)

variable {disk other : Disk} {here place : Place} {path : String} {content : Bytes}

/-! ## Reading -/

theorem read_eq_ok :
    disk.read path = .ok content ↔
      ∃ place, disk.resolve path = .ok place ∧ disk.file? place = some content := by
  rw [read, bind_eq_ok]
  refine exists_congr fun place => and_congr_right fun _ => ?_
  cases disk.file? place with
  | none => exact ⟨nofun, nofun⟩
  | some found => exact ⟨fun h => congrArg some (Except.ok.inj h), fun h => h ▸ rfl⟩

/-- A file that can be read is read on every disk that has the same directories, and perhaps more,
and the same file. -/
theorem read_of_extends (h : Extends disk other) (hread : disk.read path = .ok content)
    (hfile : other.file? (placeFrom disk.current path) =
      disk.file? (placeFrom disk.current path)) :
    other.read path = .ok content := by
  obtain ⟨place, hplace, hcontent⟩ := read_eq_ok.mp hread
  obtain rfl := resolve_eq_place hplace
  have hslash : ¬Text.endsWith "/" path = true := fun hslash =>
    (resolve_eq_ok.mp hplace).2.2 ⟨hslash, by rw [hcontent]; rfl⟩
  exact read_eq_ok.mpr ⟨_, resolve_of_extends h hplace fun h => absurd h hslash,
    hfile.trans hcontent⟩

/-! ## Writing -/

/-- A file can be written at a path, and `here` is its place. -/
structure Writable (disk : Disk) (path : String) (here : Place) : Prop where
  resolve : disk.resolve path = .ok here
  free : disk.isDirectory here = false
  slash : Text.endsWith "/" path = false
  parent : disk.isDirectory here.dropLast = true

theorem checkParent_eq_ok : disk.checkParent here = .ok () ↔ disk.isDirectory here.dropLast = true := by
  rw [checkParent]
  split
  · next hparent => exact ⟨fun _ => hparent, fun _ => rfl⟩
  · next hparent =>
      refine ⟨fun h => ?_, fun h => absurd h hparent⟩
      split at h <;> cases h

theorem write_iff :
    disk.write path content = .ok other ↔
      ∃ here, Writable disk path here ∧ other = disk.putFile here content := by
  simp only [write, bind_eq_ok, refuse_eq_ok, Bool.not_eq_true]
  refine exists_congr fun here => ⟨?_, ?_⟩
  · rintro ⟨hresolve, hfree, hslash, _, hparent, hput⟩
    exact ⟨⟨hresolve, hfree, hslash, checkParent_eq_ok.mp hparent⟩, (Except.ok.inj hput).symm⟩
  · rintro ⟨⟨hresolve, hfree, hslash, hparent⟩, rfl⟩
    exact ⟨hresolve, hfree, hslash, (), checkParent_eq_ok.mpr hparent, rfl⟩

section Failure

variable {α β : Type} {reason : String}

theorem bind_eq_error {x : Except String α} {f : α → Except String β} :
    x >>= f = .error reason ↔ x = .error reason ∨ ∃ a, x = .ok a ∧ f a = .error reason := by
  cases x with
  | error reason' => simp [bind, Except.bind]
  | ok a => simp [bind, Except.bind]

theorem refuse_eq_error {p : Prop} [Decidable p] {refusal : String} {f : Unit → Except String β} :
    (if p then throw refusal >>= f else f ()) = .error reason ↔
      p ∧ refusal = reason ∨ ¬p ∧ f () = .error reason := by
  by_cases hp : p
  · simp [hp, bind, Except.bind, throw, throwThe, MonadExceptOf.throw]
  · simp [hp]

/-- Whether a file can be written, and why not, does not depend on what is to be written. -/
theorem write_eq_error {content' : Bytes} (h : disk.write path content = .error reason) :
    disk.write path content' = .error reason := by
  simp only [write, bind_eq_error, refuse_eq_error, pure, Except.pure, reduceCtorEq, and_false,
    exists_false, or_false] at h ⊢
  exact h

end Failure

theorem Writable.putFile (h : Writable disk path here) (place : Place) (content : Bytes) :
    Writable (disk.putFile place content) path here where
  resolve := resolve_of_extends (extends_putFile disk place content) h.resolve
    fun hslash => absurd (h.slash.symm.trans hslash) nofun
  free := h.free
  slash := h.slash
  parent := h.parent

theorem Writable.read (h : Writable disk path here) :
    (disk.putFile here content).read path = .ok content :=
  read_eq_ok.mpr ⟨here, (h.putFile here content).resolve, file?_putFile_self⟩

/-! ## Directories -/

/-- Whether a directory is at a path; the empty path stands for the current one. -/
def HasDirectory (disk : Disk) (path : String) : Prop :=
  path.isEmpty = true ∨ ∃ here, disk.resolve path = .ok here ∧ disk.isDirectory here = true

theorem isDirectoryAt_iff :
    makeDirectories.isDirectoryAt disk path = true ↔
      ∃ here, disk.resolve path = .ok here ∧ disk.isDirectory here = true := by
  rw [makeDirectories.isDirectoryAt]
  cases disk.resolve path with
  | error reason => exact ⟨nofun, nofun⟩
  | ok here =>
      constructor
      · exact fun h => ⟨here, rfl, h⟩
      · rintro ⟨place, ⟨⟩, h⟩
        exact h

theorem hasDirectory_of_makeDirectory (h : disk.makeDirectory path = .ok other) :
    HasDirectory other path := by
  simp only [makeDirectory, bind_eq_ok, refuse_eq_ok] at h
  obtain ⟨here, hresolve, hfree, -, -, hput⟩ := h
  obtain rfl := Except.ok.inj hput
  have hfurnishes := putDirectory_furnishes disk here
  have hnone : disk.file? here = none := by
    simp only [isTaken, Bool.or_eq_true, not_or, Bool.not_eq_true, Option.isSome_eq_false_iff,
      Option.isNone_iff_eq_none] at hfree
    exact hfree.2
  refine .inr ⟨here, resolve_of_extends hfurnishes.toExtends hresolve fun _ => ?_, ?_⟩
  · rw [hfurnishes.file?, hnone]
  · rw [putDirectory]
    split
    · next hdirectory => exact hdirectory
    · simp [isDirectory]

/-- Directories that were made are there. -/
theorem hasDirectory_of_go {fuel : Nat} (h : makeDirectories.go fuel disk path = .ok other) :
    HasDirectory other path := by
  cases fuel with
  | zero => cases h
  | succ fuel =>
      rw [makeDirectories.go] at h
      split at h
      · next hempty => exact .inl hempty
      split at h
      · next hmade => exact hasDirectory_of_makeDirectory (Except.ok.inj h ▸ hmade)
      split at h
      · split at h
        · cases h
        split at h
        · cases h
        split at h
        · next hmade => exact hasDirectory_of_makeDirectory (Except.ok.inj h ▸ hmade)
        split at h
        · next hthere => exact Except.ok.inj h ▸ .inr (isDirectoryAt_iff.mp hthere)
        · cases h
      split at h
      · next hthere => exact Except.ok.inj h ▸ .inr (isDirectoryAt_iff.mp hthere)
      · cases h

theorem hasDirectory_of_makeDirectories (h : disk.makeDirectories path = .ok other) :
    HasDirectory other path :=
  hasDirectory_of_go h

/-- Directories that are there need not be made. -/
theorem makeDirectories_of_hasDirectory (h : HasDirectory disk path) :
    disk.makeDirectories path = .ok disk := by
  rw [makeDirectories, makeDirectories.go]
  split
  · rfl
  next hempty =>
    obtain ⟨here, hresolve, hdirectory⟩ := h.resolve_left hempty
    have hmade : disk.makeDirectory path = .error fileExists := by
      simp [makeDirectory, hresolve, isTaken, hdirectory, bind, Except.bind, throw, throwThe,
        MonadExceptOf.throw]
    have hexists : fileExists ≠ notFound := by decide
    simp [hmade, hexists, isDirectoryAt_iff.mpr ⟨here, hresolve, hdirectory⟩]

/-- A directory stays where it is when a file is put somewhere else. -/
theorem HasDirectory.of_files (h : HasDirectory disk path) (hextends : Extends disk other)
    (hfiles : ∀ place, disk.isDirectory place = true → other.file? place = disk.file? place) :
    HasDirectory other path := by
  refine h.imp_right ?_
  rintro ⟨here, hresolve, hdirectory⟩
  refine ⟨here, resolve_of_extends hextends hresolve fun hslash => ?_, hextends.directory hdirectory⟩
  rw [hfiles here hdirectory, ← Option.not_isSome_iff_eq_none]
  exact fun hfile => (resolve_eq_ok.mp hresolve).2.2 ⟨hslash, hfile⟩

/-! ## The directory of a path -/

/-- The directory above a path is there. -/
def HasRoom (disk : Disk) (path : String) : Prop :=
  ∀ parent, Path.parent? path = some parent → HasDirectory disk parent

theorem HasRoom.putFile (h : HasRoom disk path) (hfree : disk.isDirectory here = false) :
    HasRoom (disk.putFile here content) path := by
  intro parent hparent
  refine (h parent hparent).of_files (extends_putFile disk here content) fun place hplace => ?_
  refine file?_putFile_of_ne ?_
  rintro rfl
  exact absurd (hfree.symm.trans hplace) nofun

theorem HasRoom.moved {there : Place} (h : HasRoom disk path)
    (hhere : disk.isDirectory here = false) (hthere : disk.isDirectory there = false) :
    HasRoom (disk.moved here there content) path := by
  intro parent hparent
  refine (h parent hparent).of_files (extends_moved disk here there content) fun place hplace => ?_
  refine file?_moved_of_ne ?_ ?_
  · rintro rfl
    exact absurd (hhere.symm.trans hplace) nofun
  · rintro rfl
    exact absurd (hthere.symm.trans hplace) nofun

end Switchboard.Disk
