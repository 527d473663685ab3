import Mathlib.Data.List.Nodup
import Switchboard.Proofs.Number.Digits
import Switchboard.Proofs.Source.Tree
import Switchboard.Proofs.StableSort
import Switchboard.Proofs.Text.Utf8

/-!
# What a fingerprint tells

A file contributes its path, its length and its bytes to what is digested, with a zero byte behind
the path and one behind the length. The bytes of a file may look like anything, also like the path
and the length of another file. Whoever knows where a file begins finds its end all the same: there
is no zero in the path or in the length, and the length counts the bytes that follow.

So the digested bytes tell the files in their order. The order is that of the paths, and it tells
nothing about the walk that found the files.

## Main results

* `File.stream_append_inj` — the front of a stream tells the first file and where it ends.
* `stream_inj` — equal streams are made of equal files.
* `Tree.select_perm`, `Tree.select_inj` — the sorted files, by the walk and by what is selected.
* `stream_tells_files` — what is equal when streams or digests are equal.
-/

namespace Switchboard.Sha256

open Switchboard.Text.Utf8 (Bytes)

/-- Different byte strings with the same hash. -/
def Collide (a b : Bytes) : Prop :=
  a ≠ b ∧ hexDigest a = hexDigest b

theorem hexDigest_inj {a b : Bytes} (h : ¬Collide a b) : hexDigest a = hexDigest b ↔ a = b := by
  refine ⟨fun hdigest => ?_, congrArg hexDigest⟩
  exact Decidable.byContradiction fun hne => h ⟨hne, hdigest⟩

end Switchboard.Sha256

namespace Switchboard.Source

open Switchboard.Text.Utf8 (Bytes encode)

/-! ## Streams -/

section Stream

variable {a b : File} {files others : List File} {xs ys rest other : Bytes}

/-- The first zero ends what stands in front of it. -/
theorem append_zero_inj (hx : 0 ∉ xs) (hy : 0 ∉ ys) (h : xs ++ 0 :: rest = ys ++ 0 :: other) :
    xs = ys ∧ rest = other := by
  induction xs generalizing ys with
  | nil =>
      cases ys with
      | nil => exact ⟨rfl, (List.cons.inj h).2⟩
      | cons y ys =>
          have hzero : 0 = y := (List.cons.inj h).1
          exact absurd (hzero ▸ List.mem_cons_self) hy
  | cons x xs ih =>
      cases ys with
      | nil =>
          have hzero : x = 0 := (List.cons.inj h).1
          exact absurd (hzero ▸ List.mem_cons_self) hx
      | cons y ys =>
          obtain ⟨rfl, htail⟩ := List.cons.inj h
          obtain ⟨rfl, hrest⟩ := ih (fun hmem => hx (List.mem_cons_of_mem x hmem))
            (fun hmem => hy (List.mem_cons_of_mem x hmem)) htail
          exact ⟨rfl, hrest⟩

/-- A file whose path has no NUL. -/
def File.IsPlain (file : File) : Prop :=
  '\x00' ∉ file.path.toList

instance (file : File) : Decidable file.IsPlain :=
  inferInstanceAs (Decidable ('\x00' ∉ file.path.toList))

theorem zero_notMem_length (n : Nat) : (0 : UInt8) ∉ encode (toString n) := by
  refine Text.Utf8.zero_notMem_encode fun hmem => ?_
  rw [Decimal.toList_toString] at hmem
  exact absurd (Decimal.isDigit_of_mem_toDigits hmem) (by decide)

/-- The front of a stream tells the first file, and where it ends. -/
theorem File.stream_append_inj (ha : a.IsPlain) (hb : b.IsPlain)
    (h : a.stream ++ rest = b.stream ++ other) : a = b ∧ rest = other := by
  obtain ⟨path, content⟩ := a
  obtain ⟨path', content'⟩ := b
  simp only [File.stream, List.append_assoc, List.cons_append] at h
  obtain ⟨hpath, hbehind⟩ := append_zero_inj (Text.Utf8.zero_notMem_encode ha)
    (Text.Utf8.zero_notMem_encode hb) h
  -- From here on the length decides how many bytes are content, whatever they look like.
  obtain ⟨hsize, hbytes⟩ := append_zero_inj (zero_notMem_length _) (zero_notMem_length _) hbehind
  have hlength : content.length = content'.length :=
    Decimal.toString_inj.mp (Text.Utf8.encode_inj.mp hsize)
  obtain ⟨rfl, hrest⟩ := List.append_inj hbytes hlength
  obtain rfl : path = path' := Text.Utf8.encode_inj.mp hpath
  exact ⟨rfl, hrest⟩

theorem File.stream_ne_nil (file : File) : file.stream ≠ [] := by
  rw [File.stream]
  exact List.append_ne_nil_of_right_ne_nil _ (List.cons_ne_nil _ _)

/-- Equal streams are made of equal files. -/
theorem stream_inj (hfiles : ∀ file ∈ files, file.IsPlain) (hothers : ∀ file ∈ others, file.IsPlain) :
    stream files = stream others ↔ files = others := by
  refine ⟨fun h => ?_, congrArg stream⟩
  induction files generalizing others with
  | nil =>
      cases others with
      | nil => rfl
      | cons b others =>
          have hnil : b.stream = [] := (List.append_eq_nil_iff.mp h.symm).1
          exact absurd hnil b.stream_ne_nil
  | cons a files ih =>
      cases others with
      | nil =>
          have hnil : a.stream = [] := (List.append_eq_nil_iff.mp h).1
          exact absurd hnil a.stream_ne_nil
      | cons b others =>
          obtain ⟨ha, hbehind⟩ := List.forall_mem_cons.mp hfiles
          obtain ⟨hb, hbehind'⟩ := List.forall_mem_cons.mp hothers
          obtain ⟨rfl, hrest⟩ := File.stream_append_inj ha hb h
          rw [ih hbehind hbehind' hrest]

end Stream

/-! ## Selected files -/

namespace Tree

section Select

variable {tree tree' : Tree} {walk walk' : List (String × Bytes)} {file : File}

theorem mem_select :
    file ∈ tree.select walk ↔ (file.path, file.content) ∈ walk ∧ tree.selects file.path = true := by
  rw [select, List.mem_mergeSort, List.mem_map]
  constructor
  · rintro ⟨found, hfound, rfl⟩
    exact List.mem_filter.mp hfound
  · exact fun h => ⟨_, List.mem_filter.mpr h, rfl⟩

/-- The selected files are in the order of their paths. -/
theorem pairwise_select :
    (tree.select walk).Pairwise fun a b => Index.pathLe a.path b.path = true :=
  StableSort.pairwise_mergeSort_of File.path Index.pathLe (fun _ _ _ => Index.pathLe_trans)
    Index.pathLe_total _

/-- Files with distinct paths are sorted in one way only. -/
theorem select_eq_of_perm (hperm : (tree.select walk).Perm (tree'.select walk'))
    (hnodup : ((tree.select walk).map (·.path)).Nodup) :
    tree.select walk = tree'.select walk' :=
  StableSort.eq_of_perm_of_sorted File.path (fun _ _ => Index.pathLe_antisymm) hperm hnodup
    pairwise_select pairwise_select

/-- The order of the walk does not matter. -/
theorem select_perm (hnodup : ((tree.select walk).map (·.path)).Nodup) (hwalk : walk'.Perm walk) :
    tree.select walk' = tree.select walk := by
  refine (select_eq_of_perm ?_ hnodup).symm
  have hselected : (walk.filter fun file => tree.selects file.1).Perm
      (walk'.filter fun file => tree.selects file.1) := (hwalk.filter _).symm
  exact (List.mergeSort_perm _ _).trans
    ((hselected.map _).trans (List.mergeSort_perm _ _).symm)

/-- Trees that select the same files have the same list of them. -/
theorem select_inj (hnodup : ((tree.select walk).map (·.path)).Nodup)
    (hnodup' : ((tree'.select walk').map (·.path)).Nodup) :
    tree.select walk = tree'.select walk' ↔
      ∀ file, file ∈ tree.select walk ↔ file ∈ tree'.select walk' := by
  refine ⟨fun h file => by rw [h], fun h => select_eq_of_perm ?_ hnodup⟩
  exact (List.perm_ext_iff_of_nodup (hnodup.of_map _) (hnodup'.of_map _)).mpr h

end Select

/-- Whether a file on a disk belongs to a tree: it is found below the root with these bytes, and its
path is selected. -/
def Holds (tree : Tree) (disk : Disk) (file : File) : Prop :=
  ∃ root, disk.resolve tree.root = .ok root ∧
    (file.path, file.content) ∈ disk.filesBelow root ∧ tree.selects file.path = true

theorem mem_files {tree : Tree} {disk : Disk} {files : List File} {file : File}
    (h : tree.files disk = .ok files) : file ∈ files ↔ tree.Holds disk file := by
  obtain ⟨root, hroot, -, rfl⟩ := files_eq_ok.mp h
  rw [mem_select]
  constructor
  · exact fun hfound => ⟨root, hroot, hfound⟩
  · rintro ⟨root', hroot', hfound⟩
    cases hroot.symm.trans hroot'
    exact hfound

/-- Trees with distinct paths hold the same files just if they have the same list of them. -/
theorem files_inj {tree tree' : Tree} {disk disk' : Disk} {files files' : List File}
    (h : tree.files disk = .ok files) (h' : tree'.files disk' = .ok files')
    (hnodup : (files.map (·.path)).Nodup) (hnodup' : (files'.map (·.path)).Nodup) :
    files = files' ↔ ∀ file, tree.Holds disk file ↔ tree'.Holds disk' file := by
  simp only [← mem_files h, ← mem_files h']
  obtain ⟨root, -, -, rfl⟩ := files_eq_ok.mp h
  obtain ⟨root', -, -, rfl⟩ := files_eq_ok.mp h'
  exact select_inj hnodup hnodup'

end Tree

/-! ## Fingerprints -/

/-- Files that a stream can tell apart: no path has a NUL, and none occurs twice. -/
structure AreApart (files : List File) : Prop where
  plain : ∀ file ∈ files, file.IsPlain
  nodup : (files.map (·.path)).Nodup

/-- The digested bytes of two trees are equal just if the trees hold the same paths with the same
bytes, and they do not depend on the order in which a disk is walked. As long as the hash does not
collide on them, the digests of the two trees are equal in the same case. -/
theorem stream_tells_files {tree tree' : Tree} {disk disk' : Disk} {files files' : List File}
    (h : tree.files disk = .ok files) (h' : tree'.files disk' = .ok files')
    (hapart : AreApart files) (hapart' : AreApart files') :
    (stream files = stream files' ↔ ∀ file, tree.Holds disk file ↔ tree'.Holds disk' file) ∧
    (∀ root walk, disk.resolve tree.root = .ok root → walk.Perm (disk.filesBelow root) →
      stream (tree.select walk) = stream files) ∧
    (¬Sha256.Collide (stream files) (stream files') →
      ∃ fingerprint fingerprint', tree.fingerprint disk = .ok fingerprint ∧
        tree'.fingerprint disk' = .ok fingerprint' ∧
        (fingerprint.digest = fingerprint'.digest ↔
          ∀ file, tree.Holds disk file ↔ tree'.Holds disk' file)) := by
  have hstream : stream files = stream files' ↔
      ∀ file, tree.Holds disk file ↔ tree'.Holds disk' file :=
    (stream_inj hapart.plain hapart'.plain).trans (Tree.files_inj h h' hapart.nodup hapart'.nodup)
  refine ⟨hstream, fun root walk hroot hwalk => ?_, fun hcollide => ?_⟩
  · obtain ⟨root', hroot', -, rfl⟩ := Tree.files_eq_ok.mp h
    cases hroot.symm.trans hroot'
    rw [Tree.select_perm hapart.nodup hwalk]
  · refine ⟨_, _, fingerprint_eq_ok.mpr ⟨files, h, rfl⟩, fingerprint_eq_ok.mpr ⟨files', h', rfl⟩, ?_⟩
    exact (Sha256.hexDigest_inj hcollide).trans hstream

/-- The tree of all files. -/
def everything : Tree := ⟨"/", [⟨[.star]⟩], []⟩

/-- Two empty files. -/
def twoFiles : Disk := { files := [(["a"], []), (["b"], [])] }

/-- One file, with the bytes that the second one of `twoFiles` contributes. -/
def imitation : Disk := { files := [(["a"], [98, 0, 48, 0])] }

theorem files_twoFiles : everything.files twoFiles = .ok [⟨"a", []⟩, ⟨"b", []⟩] := by
  refine Tree.files_eq_ok.mpr ⟨[], by decide +kernel, by decide +kernel, ?_⟩
  have hfound : ((twoFiles.filesBelow []).filter fun file => everything.selects file.1).map
      (fun file => File.mk file.1 file.2) = [⟨"a", []⟩, ⟨"b", []⟩] := by decide +kernel
  rw [Tree.select, hfound]
  exact List.mergeSort_of_pairwise (by decide)

theorem files_imitation : everything.files imitation = .ok [⟨"a", [98, 0, 48, 0]⟩] :=
  Tree.files_eq_ok.mpr ⟨[], by decide +kernel, by decide +kernel, by decide +kernel⟩

set_option maxRecDepth 100000 in
/-- Bytes that look like a second file are not taken for one. -/
theorem stream_tells_imitation :
    ¬(∀ file, everything.Holds twoFiles file ↔ everything.Holds imitation file) ∧
    ∃ fingerprint fingerprint', everything.fingerprint twoFiles = .ok fingerprint ∧
      everything.fingerprint imitation = .ok fingerprint' ∧
      fingerprint.digest ≠ fingerprint'.digest := by
  have hapart : AreApart [⟨"a", []⟩, ⟨"b", []⟩] := ⟨by decide, by decide⟩
  have hapart' : AreApart [⟨"a", [98, 0, 48, 0]⟩] := ⟨by decide, by decide⟩
  have hne : stream [⟨"a", []⟩, ⟨"b", []⟩] ≠ stream [⟨"a", [98, 0, 48, 0]⟩] := by decide +kernel
  have hcollide : ¬Sha256.Collide (stream [⟨"a", []⟩, ⟨"b", []⟩])
      (stream [⟨"a", [98, 0, 48, 0]⟩]) := by
    rw [Sha256.Collide]
    decide +kernel
  obtain ⟨hstream, -, hdigest⟩ :=
    stream_tells_files files_twoFiles files_imitation hapart hapart'
  obtain ⟨fingerprint, fingerprint', hfirst, hsecond, htold⟩ := hdigest hcollide
  have hdiffer : ¬(∀ file, everything.Holds twoFiles file ↔ everything.Holds imitation file) :=
    fun hsame => hne (hstream.mpr hsame)
  exact ⟨hdiffer, fingerprint, fingerprint', hfirst, hsecond, fun h => hdiffer (htold.mp h)⟩

end Switchboard.Source
