import Switchboard.Disk.Basic

/-!
# Places of files

Where a path leads is read off its text, provided that it leads somewhere at all: the directories
on the way decide only whether it can be followed. A disk on which directories were added follows
the same paths to the same places.

## Main results

* `resolve_eq_place` — a path that can be followed leads to the place its text says.
* `resolve_of_extends` — it still does when directories were added.
* `makeDirectories_furnishes`, `write_eq_ok`, `rename_eq_ok` — what the operations do to a disk.
-/

namespace Switchboard.Disk

open Switchboard.Text.Utf8 (Bytes)

variable {disk other : Disk} {here there start : Place} {path : String} {content : Bytes}

/-! ## Places -/

/-- The place one part of a path leads to. -/
def enter (here : Place) (part : String) : Place :=
  if part = "." then here else if part = ".." then here.dropLast else here ++ [part]

/-- The place a path leads to from the current directory, whatever is on the way. -/
def placeFrom (current : Place) (path : String) : Place :=
  (Path.steps path).foldl enter (if Path.isAbsolute path then [] else current)

/-- What following one more part takes. -/
theorem follow_cons_eq_ok {part : String} {parts : List String} :
    disk.follow start (part :: parts) = .ok here ↔
      disk.isDirectory start = true ∧
      (part = "." ∨ part = ".." ∨ part.utf8ByteSize ≤ maxPartBytes) ∧
      disk.follow (enter start part) parts = .ok here := by
  rw [follow, enter]
  by_cases hdirectory : disk.isDirectory start = true
  · by_cases hdot : part = "."
    · simp [hdirectory, hdot]
    · by_cases hdots : part = ".."
      · simp [hdirectory, hdots]
      · by_cases hlong : part.utf8ByteSize ≤ maxPartBytes
        · simp [hdirectory, hdot, hdots, hlong, Nat.not_lt.mpr hlong]
        · simp [hdirectory, hdot, hdots, hlong, Nat.not_le.mp hlong]
  · simp [hdirectory]

theorem follow_eq_foldl {parts : List String} (h : disk.follow start parts = .ok here) :
    here = parts.foldl enter start := by
  induction parts generalizing start with
  | nil => exact (Except.ok.inj h).symm
  | cons part parts ih => exact ih (follow_cons_eq_ok.mp h).2.2

/-- What it takes to resolve a path. -/
theorem resolve_eq_ok :
    disk.resolve path = .ok here ↔
      (path.isEmpty = false ∧ path.toList.contains '\x00' = false ∧
        path.utf8ByteSize ≤ maxPathBytes) ∧
      disk.follow (if Path.isAbsolute path then [] else disk.current) (Path.steps path) =
        .ok here ∧
      ¬(Text.endsWith "/" path = true ∧ (disk.file? here).isSome = true) := by
  rw [resolve]
  by_cases hempty : path.isEmpty = true
  · rw [if_pos hempty]
    exact ⟨nofun, fun h => absurd (hempty.symm.trans h.1.1) nofun⟩
  by_cases hnul : path.toList.contains '\x00' = true
  · rw [if_neg hempty, if_pos hnul]
    exact ⟨nofun, fun h => absurd (hnul.symm.trans h.1.2.1) nofun⟩
  by_cases hlong : path.utf8ByteSize > maxPathBytes
  · rw [if_neg hempty, if_neg hnul, if_pos hlong]
    exact ⟨nofun, fun h => absurd h.1.2.2 (Nat.not_le.mpr hlong)⟩
  have hpath : path.isEmpty = false ∧ path.toList.contains '\x00' = false ∧
      path.utf8ByteSize ≤ maxPathBytes :=
    ⟨Bool.eq_false_iff.mpr hempty, Bool.eq_false_iff.mpr hnul, Nat.le_of_not_lt hlong⟩
  rw [if_neg hempty, if_neg hnul, if_neg hlong]
  cases disk.follow (if Path.isAbsolute path then [] else disk.current) (Path.steps path) with
  | error reason => exact ⟨nofun, fun h => nomatch h.2.1⟩
  | ok found =>
      show (if (Text.endsWith "/" path && (disk.file? found).isSome) = true then _ else _) = _ ↔ _
      simp only [Bool.and_eq_true]
      split
      · next hfile =>
          exact ⟨nofun, fun ⟨_, hfound, hnone⟩ => absurd (Except.ok.inj hfound ▸ hfile) hnone⟩
      · next hfile =>
          exact ⟨fun hfound => ⟨hpath, hfound, Except.ok.inj hfound ▸ hfile⟩, fun h => h.2.1⟩

/-- A path that can be followed leads to the place its text says. -/
theorem resolve_eq_place (h : disk.resolve path = .ok here) :
    here = placeFrom disk.current path :=
  follow_eq_foldl (resolve_eq_ok.mp h).2.1

/-! ## Added directories -/

/-- `other` has all directories of `disk` and the same current one. -/
structure Extends (disk other : Disk) : Prop where
  current : other.current = disk.current
  directory : ∀ {place : Place}, disk.isDirectory place = true → other.isDirectory place = true

theorem Extends.refl (disk : Disk) : Extends disk disk := ⟨rfl, id⟩

theorem Extends.trans {last : Disk} (h : Extends disk other) (h' : Extends other last) :
    Extends disk last :=
  ⟨h'.current.trans h.current, fun hplace => h'.directory (h.directory hplace)⟩

/-- Files do not count. -/
theorem extends_of_eq (hcurrent : other.current = disk.current)
    (hdirectories : other.directories = disk.directories) : Extends disk other :=
  ⟨hcurrent, fun h => by rw [isDirectory, hdirectories]; exact h⟩

theorem follow_of_extends {parts : List String} (h : Extends disk other)
    (hfollow : disk.follow start parts = .ok here) : other.follow start parts = .ok here := by
  induction parts generalizing start with
  | nil => exact hfollow
  | cons part parts ih =>
      obtain ⟨hdirectory, hpart, hrest⟩ := follow_cons_eq_ok.mp hfollow
      exact follow_cons_eq_ok.mpr ⟨h.directory hdirectory, hpart, ih hrest⟩

/-- A path still leads to its place, unless it asks for a directory where a file is now. -/
theorem resolve_of_extends (h : Extends disk other) (hresolve : disk.resolve path = .ok here)
    (hfile : Text.endsWith "/" path = true → other.file? here = none) :
    other.resolve path = .ok here := by
  obtain ⟨hpath, hfollow, -⟩ := resolve_eq_ok.mp hresolve
  rw [← h.current] at hfollow
  refine resolve_eq_ok.mpr ⟨hpath, follow_of_extends h hfollow, ?_⟩
  rintro ⟨hslash, hsome⟩
  rw [hfile hslash] at hsome
  cases hsome

/-! ## Files -/

/-- Only the files at a place decide what is found there. -/
theorem file?_eq_of_filter (h : other.files.filter (·.1 = here) = disk.files.filter (·.1 = here)) :
    other.file? here = disk.file? here := by
  rw [file?, file?, ← List.head?_filter, ← List.head?_filter, h]

@[simp] theorem file?_putFile_self : (disk.putFile here content).file? here = some content := by
  have hothers : (disk.files.filter (·.1 ≠ here)).find? (·.1 = here) = none := by
    simp [List.find?_eq_none]
  rw [file?, putFile, List.find?_append, hothers]
  simp

theorem file?_putFile_of_ne (h : there ≠ here) :
    (disk.putFile here content).file? there = disk.file? there := by
  apply file?_eq_of_filter
  simp only [putFile, List.filter_append, List.filter_filter, List.filter_cons, List.filter_nil,
    decide_eq_true_eq, if_neg (Ne.symm h), List.append_nil]
  apply List.filter_congr
  intro file _
  by_cases hplace : file.1 = there
  · simp [hplace, h]
  · simp [hplace]

theorem extends_putFile (disk : Disk) (here : Place) (content : Bytes) :
    Extends disk (disk.putFile here content) :=
  extends_of_eq rfl rfl

/-! ## Operations -/

/-- `other` has the files of `disk`, and perhaps more directories. -/
structure Furnishes (disk other : Disk) : Prop extends Extends disk other where
  files : other.files = disk.files

theorem Furnishes.refl (disk : Disk) : Furnishes disk disk := ⟨.refl disk, rfl⟩

theorem Furnishes.trans {last : Disk} (h : Furnishes disk other) (h' : Furnishes other last) :
    Furnishes disk last :=
  ⟨h.toExtends.trans h'.toExtends, h'.files.trans h.files⟩

theorem Furnishes.file? (h : Furnishes disk other) (place : Place) :
    other.file? place = disk.file? place := by
  rw [Disk.file?, Disk.file?, h.files]

theorem putDirectory_furnishes (disk : Disk) (here : Place) :
    Furnishes disk (disk.putDirectory here) := by
  rw [putDirectory]
  split
  · exact .refl disk
  · refine ⟨⟨rfl, fun {place} h => ?_⟩, rfl⟩
    simp only [isDirectory, Bool.or_eq_true, List.contains_eq_mem, List.mem_append,
      decide_eq_true_eq] at h ⊢
    exact h.imp id .inl

/-! ### Operations that can fail -/

section Failure

variable {α β : Type} {b : β}

theorem bind_eq_ok {x : Except String α} {f : α → Except String β} :
    x >>= f = .ok b ↔ ∃ a, x = .ok a ∧ f a = .ok b := by
  cases x with
  | error reason => exact ⟨nofun, nofun⟩
  | ok a => simp [bind, Except.bind]

theorem refuse_eq_ok {p : Prop} [Decidable p] {reason : String} {f : Unit → Except String β} :
    (if p then throw reason >>= f else f ()) = .ok b ↔ ¬p ∧ f () = .ok b := by
  split
  · next hp => exact ⟨nofun, fun h => absurd hp h.1⟩
  · next hp => simp [hp]

end Failure

theorem makeDirectory_furnishes (h : disk.makeDirectory path = .ok other) :
    Furnishes disk other := by
  simp only [makeDirectory, bind_eq_ok, refuse_eq_ok] at h
  obtain ⟨here, -, -, -, -, hput⟩ := h
  exact Except.ok.inj hput ▸ putDirectory_furnishes disk here

/-- The disk after directories were made, or as many of them as could be. -/
def remaining {ε : Type} : Except (ε × Disk) Disk → Disk
  | .ok disk => disk
  | .error (_, disk) => disk

theorem remaining_mapError {ε ε' : Type} {f : ε × Disk → ε' × Disk} (hf : ∀ x, (f x).2 = x.2)
    (made : Except (ε × Disk) Disk) : remaining (made.mapError f) = remaining made := by
  cases made with
  | ok disk => rfl
  | error failure => exact hf failure

theorem makeDirectories_go_furnishes (fuel : Nat) (disk : Disk) (path : String) :
    Furnishes disk (remaining (makeDirectories.go fuel disk path)) := by
  induction fuel generalizing disk path with
  | zero => exact .refl disk
  | succ fuel ih =>
      rw [makeDirectories.go]
      split
      · exact .refl disk
      split
      · next hmade => exact makeDirectory_furnishes hmade
      split
      · split
        · exact .refl disk
        next parent _ =>
          have hparent := ih disk parent
          split
          · next hfailure => exact hfailure ▸ hparent
          next room hroom =>
            rw [hroom] at hparent
            refine hparent.trans ?_
            split
            · next hmade => exact makeDirectory_furnishes hmade
            split <;> exact .refl room
      split <;> exact .refl disk

/-- Making directories leaves the files alone, also where it fails. -/
theorem makeDirectories_furnishes (disk : Disk) (path : String) :
    Furnishes disk (remaining (disk.makeDirectories path)) :=
  makeDirectories_go_furnishes _ disk path

/-- What writing a file takes and does. -/
theorem write_eq_ok (h : disk.write path content = .ok other) :
    ∃ here, disk.resolve path = .ok here ∧ disk.isDirectory here = false ∧
      Text.endsWith "/" path = false ∧ other = disk.putFile here content := by
  simp only [write, bind_eq_ok, refuse_eq_ok, Bool.not_eq_true] at h
  obtain ⟨here, hresolve, hdirectory, hslash, -, -, hput⟩ := h
  exact ⟨here, hresolve, hdirectory, hslash, (Except.ok.inj hput).symm⟩

/-- The disk after the file at `here` was moved. -/
def moved (disk : Disk) (here there : Place) (content : Bytes) : Disk :=
  { disk with files := disk.files.filter (·.1 ≠ here) }.putFile there content

theorem extends_moved (disk : Disk) (here there : Place) (content : Bytes) :
    Extends disk (disk.moved here there content) :=
  extends_of_eq rfl rfl

theorem file?_moved_self : (disk.moved here there content).file? there = some content :=
  file?_putFile_self

theorem file?_moved_of_ne {place : Place} (hhere : place ≠ here) (hthere : place ≠ there) :
    (disk.moved here there content).file? place = disk.file? place := by
  rw [moved, file?_putFile_of_ne hthere]
  apply file?_eq_of_filter
  rw [List.filter_filter]
  apply List.filter_congr
  intro file _
  by_cases hplace : file.1 = place
  · simp [hplace, hhere]
  · simp [hplace]

/-- What moving a file takes and does. -/
theorem rename_eq_ok {source target : String} (hsource : disk.resolve source = .ok here)
    (hfile : disk.file? here = some content) (h : disk.rename source target = .ok other) :
    ∃ there, disk.resolve target = .ok there ∧ disk.isDirectory there = false ∧
      Text.endsWith "/" target = false ∧ other = disk.moved here there content := by
  simp only [rename, bind_eq_ok] at h
  obtain ⟨here', hhere, there, hthere, hmove⟩ := h
  obtain rfl : here = here' := Except.ok.inj (hsource.symm.trans hhere)
  simp only [hfile, refuse_eq_ok, moveFile, bind_eq_ok, Bool.not_eq_true] at hmove
  obtain ⟨hslash, hdirectory, -, -, hput⟩ := hmove
  rw [hdirectory] at hslash
  exact ⟨there, hthere, hdirectory, by simpa using hslash, (Except.ok.inj hput).symm⟩

end Switchboard.Disk
