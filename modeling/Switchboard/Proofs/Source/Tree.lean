import Switchboard.Proofs.Disk.Place
import Switchboard.Source.Tree

/-!
# What a source tree sees of a disk

The files of a source tree are decided by the selected ones among the files of the disk. Whatever
else is written, moved or made leaves the tree as it is.

## Main results

* `Tree.files_of_extends` — a disk with the same selected files has the same tree.
-/

namespace Switchboard.Source

open Switchboard.Text.Utf8 (Bytes)

namespace Tree

variable {tree : Tree} {disk other : Disk} {root place : Place} {content : Bytes}

/-- Whether a file at a place belongs to the tree whose root is at `root`. -/
def owns (tree : Tree) (root place : Place) : Bool :=
  (Disk.below? root place).any fun parts => tree.selects ("/".intercalate parts)

theorem filter_filesBelow (tree : Tree) (disk : Disk) (root : Place) :
    ((disk.filesBelow root).filter fun file => tree.selects file.1) =
      (disk.files.filter fun file => tree.owns root file.1).filterMap fun (file, content) =>
        (Disk.below? root file).map fun parts => ("/".intercalate parts, content) := by
  rw [Disk.filesBelow, List.filter_filterMap, List.filterMap_filter]
  refine congrArg (List.filterMap · disk.files) (funext fun (place, content) => ?_)
  rcases hbelow : Disk.below? root place with _ | parts
  · simp [hbelow]
  · cases hselects : tree.selects ("/".intercalate parts) <;> simp [owns, hbelow, hselects]

/-- Only the files that belong to the tree are selected. -/
theorem select_filesBelow
    (h : (other.files.filter fun file => tree.owns root file.1) =
      disk.files.filter fun file => tree.owns root file.1) :
    tree.select (other.filesBelow root) = tree.select (disk.filesBelow root) := by
  rw [select, select, filter_filesBelow, filter_filesBelow, h]

/-- The root of a tree that has files. -/
theorem files_eq_ok {files : List File} :
    tree.files disk = .ok files ↔
      ∃ root, disk.resolve tree.root = .ok root ∧ disk.isTaken root = true ∧
        tree.select (disk.filesBelow root) = files := by
  rw [Tree.files]
  cases disk.resolve tree.root with
  | error reason => simp
  | ok root => by_cases htaken : disk.isTaken root = true <;> simp [htaken]

/-- A disk with the same selected files and a root of the same kind has the same tree. -/
theorem files_of_extends {files : List File} (hfiles : tree.files disk = .ok files)
    (hextends : Disk.Extends disk other)
    (hroot : ∀ root, root = Disk.placeFrom disk.current tree.root → disk.isTaken root = true →
      (other.file? root).isSome = (disk.file? root).isSome ∧
      (other.files.filter fun file => tree.owns root file.1) =
        disk.files.filter fun file => tree.owns root file.1) :
    tree.files other = .ok files := by
  obtain ⟨root, hresolve, htaken, rfl⟩ := files_eq_ok.mp hfiles
  obtain ⟨hkind, hsame⟩ := hroot root (Disk.resolve_eq_place hresolve) htaken
  refine files_eq_ok.mpr ⟨root, ?_, ?_, select_filesBelow hsame⟩
  · refine Disk.resolve_of_extends hextends hresolve fun hslash => ?_
    have hnone : ¬(disk.file? root).isSome = true := fun hfile =>
      (Disk.resolve_eq_ok.mp hresolve).2.2 ⟨hslash, hfile⟩
    rw [← hkind] at hnone
    simpa using hnone
  · simp only [Disk.isTaken, Bool.or_eq_true, hkind] at htaken ⊢
    exact htaken.imp hextends.directory id

/-! ## Files that do not belong -/

theorem filter_putFile (h : tree.owns root place = false) :
    ((disk.putFile place content).files.filter fun file => tree.owns root file.1) =
      disk.files.filter fun file => tree.owns root file.1 := by
  rw [Disk.putFile, List.filter_append, List.filter_filter]
  have hnew : ([(place, content)].filter fun file => tree.owns root file.1) = [] := by simp [h]
  rw [hnew, List.append_nil]
  apply List.filter_congr
  intro file _
  by_cases hplace : file.1 = place
  · simp [hplace, h]
  · simp [hplace]

theorem filter_moved {there : Place} (hhere : tree.owns root place = false)
    (hthere : tree.owns root there = false) :
    ((disk.moved place there content).files.filter fun file => tree.owns root file.1) =
      disk.files.filter fun file => tree.owns root file.1 := by
  rw [Disk.moved, filter_putFile hthere, List.filter_filter]
  apply List.filter_congr
  intro file _
  by_cases hplace : file.1 = place
  · simp [hplace, hhere]
  · simp [hplace]

end Tree

/-! ## Fingerprints -/

/-- Trees with the same files have the same fingerprint. -/
theorem fingerprint_congr {tree : Tree} {disk other : Disk}
    (h : tree.files other = tree.files disk) :
    tree.fingerprint other = tree.fingerprint disk := by
  rw [Tree.fingerprint, Tree.fingerprint, h]

theorem fingerprint_eq_ok {tree : Tree} {disk : Disk} {fingerprint : Fingerprint} :
    tree.fingerprint disk = .ok fingerprint ↔
      ∃ files, tree.files disk = .ok files ∧ fingerprintOf files = fingerprint := by
  rw [Tree.fingerprint]
  cases tree.files disk <;> simp [Except.map]

set_option maxRecDepth 100000 in
/-- An empty file is seen in the digest. -/
theorem digest_emptyFile_ne :
    (fingerprintOf [⟨"a.tmp", []⟩]).digest ≠ (fingerprintOf []).digest := by
  decide +kernel

end Switchboard.Source
