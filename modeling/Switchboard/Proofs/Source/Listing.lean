import Switchboard.Proofs.Disk.Orderly
import Switchboard.Proofs.Source.Decoding
import Switchboard.Proofs.Source.Hidden
import Switchboard.Proofs.Text.Joined
import Switchboard.Source.Indexer

/-!
# The files of a source tree

A source tree lists the files that some pattern includes and none excludes, except those that are
below a hidden directory. What the pattern of a hidden directory matches is a matter of bytes, and
what is said of a file is a matter of names: a name is matched only where it is a whole part of the
path with another part behind it. A file of that name is not hidden, nor is what only has the name
in its own.

## Main results

* `goesThrough_iff` — the directories that a path goes through.
* `Tree.selects_iff` — which paths are selected.
* `files_listed` — the files of a tree, in its list, its fingerprint and its index.
-/

namespace Switchboard

/-! ## Patterns as they are written -/

namespace Glob

/-- The pattern, as it is written, matches the path. -/
def Matches (glob path : String) : Prop :=
  ∃ p, parse glob = .ok p ∧ p.matchesPath path = true

end Glob

namespace Source

open Switchboard.Glob (GoesThrough Matches directory slash)
open Switchboard.Text.Utf8 (encode)

/-- A set of patterns matches what one of them matches. -/
theorem matchesPath_iff {patterns : List String} {set : Glob.PatternSet} {path : String}
    (h : compileGlobs patterns = .ok set) :
    set.matchesPath path = true ↔ ∃ glob ∈ patterns, Matches glob path := by
  have hall := compileGlobs_eq_ok.mp h
  clear h
  induction hall with
  | nil => simp [Glob.PatternSet.matchesPath]
  | @cons glob p patterns set hparse hall ih =>
      have hfirst : p.matchesPath path = true ↔ Matches glob path := by
        constructor
        · exact fun hmatch => ⟨p, hparse, hmatch⟩
        · rintro ⟨q, hq, hmatch⟩
          exact Except.ok.inj (hparse.symm.trans hq) ▸ hmatch
      have hset : Glob.PatternSet.matchesPath (p :: set) path =
          (p.matchesPath path || Glob.PatternSet.matchesPath set path) := rfl
      simp only [hset, Bool.or_eq_true, hfirst, ih, List.mem_cons, or_and_right, exists_or,
        exists_eq_left]

/-! ## Directories of a path -/

section Paths

variable {name : String} {parts : List String}

theorem encode_intercalate (parts : List String) :
    encode ("/".intercalate parts) = [slash].intercalate (parts.map encode) := by
  induction parts with
  | nil => decide +kernel
  | cons part parts ih =>
      cases parts with
      | nil => simp
      | cons next parts =>
          rw [String.intercalate_cons_cons, encode_append_slash, ih]
          simp only [List.map_cons, List.intercalate_cons_cons, List.append_assoc,
            List.singleton_append]

/-- There is no slash in the bytes of a name. -/
theorem slash_notMem_encode (h : '/' ∉ name.toList) : slash ∉ encode name :=
  Text.Utf8.notMem_encode (by decide) (by decide) h

/-- A path goes through the directories that its parts before the last one name, and through no
other ones. -/
theorem goesThrough_iff (hname : '/' ∉ name.toList) (hparts : ∀ part ∈ parts, '/' ∉ part.toList) :
    GoesThrough (encode name) (encode ("/".intercalate parts)) ↔ name ∈ parts.dropLast := by
  have hmem : name ∈ parts.dropLast ↔ encode name ∈ (parts.map encode).dropLast := by
    rw [← List.map_dropLast]
    exact (List.mem_map_of_injective fun a b => Text.Utf8.encode_inj.mp).symm
  have hbytes : ∀ bytes ∈ parts.map encode, slash ∉ bytes :=
    List.forall_mem_map.mpr fun part hpart => slash_notMem_encode (hparts part hpart)
  rw [hmem, GoesThrough, encode_intercalate]
  by_cases hne : parts = []
  · subst hne
    simp
  · exact (Text.mem_dropLast_iff hbytes (by simpa using hne) (slash_notMem_encode hname)).symm

theorem slash_notMem_hidden : ∀ name ∈ hidden, '/' ∉ name.toList := by decide

/-- The pattern for a hidden directory matches what is below a directory of this name. -/
theorem matches_hidden (hname : name ∈ hidden) (hparts : ∀ part ∈ parts, '/' ∉ part.toList) :
    Matches ("**/" ++ name ++ "/**") ("/".intercalate parts) ↔ name ∈ parts.dropLast := by
  rw [← goesThrough_iff (slash_notMem_hidden name hname) hparts, ← Glob.directory_matchesBytes]
  have hparse := Glob.parse_directory (isPlain_hidden name hname)
  constructor
  · rintro ⟨p, hp, hmatch⟩
    exact Except.ok.inj (hparse.symm.trans hp) ▸ hmatch
  · exact fun hmatch => ⟨_, hparse, hmatch⟩

end Paths

/-! ## Selected paths -/

section Listing

variable {root : String} {includeGlobs excludeGlobs : List String} {tree : Tree} {disk : Disk}
  {place : Place}

/-- A path is listed with such patterns: one of the first matches it, none of the others does, and
it does not go through a hidden directory. -/
structure Listed (includeGlobs excludeGlobs : List String) (parts : List String) : Prop where
  included : ∃ glob ∈ includeGlobs, Matches glob ("/".intercalate parts)
  spared : ∀ glob ∈ excludeGlobs, ¬Matches glob ("/".intercalate parts)
  visible : ∀ name ∈ hidden, name ∉ parts.dropLast

/-- A tree selects the paths that are listed. -/
theorem Tree.selects_iff (h : Tree.compile root includeGlobs excludeGlobs = .ok tree)
    {parts : List String} (hparts : ∀ part ∈ parts, '/' ∉ part.toList) :
    tree.selects ("/".intercalate parts) = true ↔ Listed includeGlobs excludeGlobs parts := by
  obtain ⟨-, hincluded, hexcluded⟩ := Tree.compile_eq_ok.mp h
  have hstandard : (∃ glob ∈ standardExcludes, Matches glob ("/".intercalate parts)) ↔
      ∃ name ∈ hidden, name ∈ parts.dropLast := by
    rw [standardExcludes_eq]
    constructor
    · rintro ⟨glob, hglob, hmatch⟩
      obtain ⟨name, hname, rfl⟩ := List.mem_map.mp hglob
      exact ⟨name, hname, (matches_hidden hname hparts).mp hmatch⟩
    · rintro ⟨name, hname, hmem⟩
      exact ⟨_, List.mem_map_of_mem hname, (matches_hidden hname hparts).mpr hmem⟩
  have hexclude : tree.excluded.matchesPath ("/".intercalate parts) = false ↔
      (∀ name ∈ hidden, name ∉ parts.dropLast) ∧
        ∀ glob ∈ excludeGlobs, ¬Matches glob ("/".intercalate parts) := by
    rw [Bool.eq_false_iff, Ne, matchesPath_iff hexcluded]
    simp only [List.mem_append, or_and_right, exists_or, hstandard, not_or, not_exists, not_and]
  rw [Tree.selects, Bool.and_eq_true, Bool.not_eq_true', hexclude, matchesPath_iff hincluded]
  constructor
  · rintro ⟨⟨hvisible, hspared⟩, hincluded⟩
    exact ⟨hincluded, hspared, hvisible⟩
  · rintro ⟨hincluded, hspared, hvisible⟩
    exact ⟨⟨hvisible, hspared⟩, hincluded⟩

/-! ## Lists of files -/

/-- A tree lists the files below its root whose paths are listed. -/
theorem Tree.mem_select_filesBelow
    (h : Tree.compile root includeGlobs excludeGlobs = .ok tree) (horderly : disk.Orderly)
    {file : File} :
    file ∈ tree.select (disk.filesBelow place) ↔
      ∃ parts, disk.file? (place ++ parts) = some file.content ∧
        file.path = "/".intercalate parts ∧ Listed includeGlobs excludeGlobs parts := by
  have hslash : ∀ parts, (place ++ parts, file.content) ∈ disk.files →
      ∀ part ∈ parts, '/' ∉ part.toList := fun parts hmem part hpart =>
    (horderly.names _ hmem part (List.mem_append_right _ hpart)).2
  rw [Tree.mem_select, Disk.mem_filesBelow]
  constructor
  · rintro ⟨⟨parts, hmem, hpath⟩, hselects⟩
    rw [hpath, Tree.selects_iff h (hslash parts hmem)] at hselects
    exact ⟨parts, horderly.file?_eq_some.mpr hmem, hpath, hselects⟩
  · rintro ⟨parts, hfile, hpath, hlisted⟩
    have hmem := horderly.file?_eq_some.mp hfile
    rw [hpath, Tree.selects_iff h (hslash parts hmem)]
    exact ⟨⟨parts, hmem, rfl⟩, hlisted⟩

/-- The files of a tree are in strictly ascending order. -/
theorem Tree.select_strictly_sorted (horderly : disk.Orderly) :
    ((tree.select (disk.filesBelow place)).map (·.path)).Pairwise (· < ·) := by
  have hperm : ((tree.select (disk.filesBelow place)).map (·.path)).Perm
      (((disk.filesBelow place).filter fun file => tree.selects file.1).map (·.1)) := by
    refine ((List.mergeSort_perm _ _).map _).trans ?_
    rw [List.map_map]
    exact List.Perm.refl _
  have hnodup : ((tree.select (disk.filesBelow place)).map (·.path)).Nodup :=
    hperm.nodup_iff.mpr ((List.filter_sublist.map _).nodup (horderly.nodup_filesBelow place))
  rw [List.pairwise_map]
  refine (Tree.pairwise_select.and (List.pairwise_map.mp hnodup)).imp fun {a b} hab => ?_
  obtain ⟨hle, hne⟩ := hab
  have hle : a.path ≤ b.path := Index.pathLe_iff_le.mp hle
  exact String.not_le.mp fun hge => hne (String.le_antisymm hle hge)

/-- The scanner keeps the files of a tree and their order. -/
theorem index_eq_ok {files : List File} (hfiles : tree.files disk = .ok files)
    (hsorted : (files.map (·.path)).Pairwise (· < ·)) (now : Timestamp) :
    ∃ document, Indexer.scanner.index tree disk now = .ok document ∧
      document.modules = files.map File.scan := by
  have hle : (files.map File.scan).Pairwise
      fun a b => Index.pathLe a.path b.path = true := by
    rw [List.pairwise_map] at hsorted ⊢
    refine hsorted.imp fun {a b} hlt => ?_
    rw [Index.pathLe, Bool.not_eq_true', decide_eq_false_iff_not]
    exact String.lt_asymm hlt
  have hindex : (Indexer.scanner.index tree disk now).map (·.modules) =
      .ok ((files.map File.scan).mergeSort fun a b => Index.pathLe a.path b.path) := by
    simp only [Indexer.scanner, Tree.index, hfiles]
    rfl
  rw [List.mergeSort_of_pairwise hle] at hindex
  cases hmade : Indexer.scanner.index tree disk now with
  | error report =>
      rw [hmade] at hindex
      cases hindex
  | ok document =>
      rw [hmade] at hindex
      exact ⟨document, rfl, Except.ok.inj hindex⟩

/-- For all patterns that are well formed and all orderly disks: a tree whose root is there lists
in strictly ascending order exactly the files below its root that an include pattern matches, no
exclude pattern matches and no directory on the way to them hides. Its fingerprint and its index are
made of this list. -/
theorem files_listed (hcompile : Tree.compile root includeGlobs excludeGlobs = .ok tree)
    (horderly : disk.Orderly) (hroot : disk.resolve root = .ok place)
    (htaken : disk.isTaken place = true) :
    ∃ files, tree.files disk = .ok files ∧
      (files.map (·.path)).Pairwise (· < ·) ∧
      (∀ file, file ∈ files ↔ ∃ parts, disk.file? (place ++ parts) = some file.content ∧
        file.path = "/".intercalate parts ∧ Listed includeGlobs excludeGlobs parts) ∧
      (∃ fingerprint, tree.fingerprint disk = .ok fingerprint ∧
        fingerprint.inputs = files.map (·.path)) ∧
      ∀ now, ∃ document, Indexer.scanner.index tree disk now = .ok document ∧
        document.modules.map (·.path) = files.map (·.path) := by
  have hfiles : tree.files disk = .ok (tree.select (disk.filesBelow place)) := by
    refine Tree.files_eq_ok.mpr ⟨place, ?_, htaken, rfl⟩
    rw [(Tree.compile_eq_ok.mp hcompile).1, hroot]
  have hsorted : ((tree.select (disk.filesBelow place)).map (·.path)).Pairwise (· < ·) :=
    Tree.select_strictly_sorted horderly
  refine ⟨_, hfiles, hsorted, fun file => Tree.mem_select_filesBelow hcompile horderly,
    ⟨_, fingerprint_eq_ok.mpr ⟨_, hfiles, rfl⟩, rfl⟩, fun now => ?_⟩
  obtain ⟨document, hindex, hmodules⟩ := index_eq_ok hfiles hsorted now
  refine ⟨document, hindex, ?_⟩
  rw [hmodules, List.map_map]
  rfl

end Listing

/-- Hidden directories at the root and below it, and files that only have something of the name:
one is called so itself, one is in a directory whose name goes on. -/
def nearMisses : Disk where
  directories := [["lib"], ["src"], ["src", "target"], ["target"], ["targets"]]
  files := [["a.rs"], ["lib", "target"], ["lib", "x"], ["src", "target", "c.rs"],
    ["target", "d.rs"], ["targets", "b.rs"]].map fun place => (place, [])

theorem nearMisses_orderly : nearMisses.Orderly where
  current := nofun
  names := by
    have hnames : nearMisses.files.all
        (fun file => file.1.all fun part => part ≠ "" && !part.toList.contains '/') = true := by
      decide
    simpa [Disk.IsName] using hnames
  distinct := by decide

/-- The tree of the files on a disk that do not go by a single character. -/
def longNames : Tree where
  root := "/"
  included := [⟨[.leadingDirs]⟩]
  excluded := (hidden.map fun name => directory (encode name)) ++ [⟨[.leadingDirs, .any]⟩]

theorem compile_longNames : Tree.compile "/" ["**"] ["**/?"] = .ok longNames := by
  refine Tree.compile_eq_ok.mpr ⟨rfl, rfl, compileGlobs_eq_ok.mpr ?_⟩
  rw [standardExcludes_eq]
  refine List.rel_append ?_ (.cons rfl .nil)
  exact List.forall₂_map_left_iff.mpr (List.forall₂_map_right_iff.mpr
    (List.forall₂_same.mpr fun name hname => Glob.parse_directory (isPlain_hidden name hname)))

theorem files_nearMisses :
    longNames.files nearMisses = .ok [⟨"a.rs", []⟩, ⟨"lib/target", []⟩, ⟨"targets/b.rs", []⟩] := by
  refine Tree.files_eq_ok.mpr ⟨[], by decide +kernel, by decide +kernel, ?_⟩
  have hfound : ((nearMisses.filesBelow []).filter fun file => longNames.selects file.1).map
      (fun file => File.mk file.1 file.2) =
        [⟨"a.rs", []⟩, ⟨"lib/target", []⟩, ⟨"targets/b.rs", []⟩] := by decide +kernel
  rw [Tree.select, hfound]
  exact List.mergeSort_of_pairwise (by decide)

/-- Of these files, the three that are neither hidden nor excluded are listed. -/
theorem nearMisses_listed :
    Tree.compile "/" ["**"] ["**/?"] = .ok longNames ∧ nearMisses.Orderly ∧
      ∃ fingerprint, longNames.fingerprint nearMisses = .ok fingerprint ∧
        fingerprint.inputs = ["a.rs", "lib/target", "targets/b.rs"] := by
  obtain ⟨files, hfiles, -, -, ⟨fingerprint, hfingerprint, hinputs⟩, -⟩ :=
    files_listed compile_longNames nearMisses_orderly
      (by decide +kernel : nearMisses.resolve "/" = .ok []) (by decide)
  rw [files_nearMisses, Except.ok.injEq] at hfiles
  exact ⟨compile_longNames, nearMisses_orderly, fingerprint, hfingerprint,
    by rw [hinputs, ← hfiles]; rfl⟩

end Source

end Switchboard
