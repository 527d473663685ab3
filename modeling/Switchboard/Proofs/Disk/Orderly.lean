import Mathlib.Data.List.Nodup
import Switchboard.Proofs.Disk.Place
import Switchboard.Proofs.Text.Joined

/-!
# Orderly disks

A disk lists its files with their places, and nothing in the list keeps two files from having one
place, or a name from holding a slash. On an orderly disk they do not, so a file is known by the
path to it. Every disk that is made by writing files is orderly: paths are cut at their slashes, and
a file that is written replaces the one that was at its place.

## Main results

* `Orderly.write`, `Orderly.plant` — what is written leaves a disk orderly.
* `joinParts_inj` — a path tells its parts.
* `Orderly.nodup_filesBelow` — the files below a place have different paths from there.
-/

namespace Switchboard.Disk

open Switchboard.Text.Utf8 (Bytes)

/-! ## Names -/

/-- What a file or a directory can be called. -/
def IsName (part : String) : Prop := part ≠ "" ∧ '/' ∉ part.toList

theorem isName_of_mem_steps {path part : String} (h : part ∈ Path.steps path) : IsName part := by
  obtain ⟨hsplit, hfilled⟩ := List.mem_filter.mp h
  obtain ⟨piece, hpiece, rfl⟩ := List.mem_map.mp hsplit
  refine ⟨by simpa using hfilled, fun hslash => ?_⟩
  rw [String.toList_ofList] at hslash
  simpa using Text.sep_of_mem_splitChars hpiece '/' hslash

section Join

variable {parts others : List String}

theorem slash_notMem_toList (h : ∀ part ∈ parts, IsName part) :
    ∀ part ∈ parts.map String.toList, '/' ∉ part :=
  List.forall_mem_map.mpr fun part hpart => (h part hpart).2

/-- Only a path without parts is empty. -/
theorem joinParts_eq_empty (h : ∀ part ∈ parts, IsName part) :
    "/".intercalate parts = "" ↔ parts = [] := by
  constructor
  · intro hjoin
    cases parts with
    | nil => rfl
    | cons part parts =>
        refine absurd ?_ (h part List.mem_cons_self).1
        cases parts with
        | nil => simpa using hjoin
        | cons next parts =>
            have hslash := congrArg String.toList hjoin
            simp [String.toList_append] at hslash
  · rintro rfl
    rfl

/-- A path tells its parts. -/
theorem joinParts_inj (hparts : ∀ part ∈ parts, IsName part)
    (hothers : ∀ part ∈ others, IsName part) :
    "/".intercalate parts = "/".intercalate others ↔ parts = others := by
  refine ⟨fun h => ?_, congrArg _⟩
  by_cases hne : parts = []
  · subst hne
    exact ((joinParts_eq_empty hothers).mp h.symm).symm
  by_cases hne' : others = []
  · subst hne'
    exact (joinParts_eq_empty hparts).mp h
  · rw [← String.toList_inj, String.toList_intercalate, String.toList_intercalate] at h
    have hlists := (Text.intercalate_inj (slash_notMem_toList hparts) (by simpa using hne)
      (slash_notMem_toList hothers) (by simpa using hne')).mp h
    exact List.map_injective_iff.mpr (fun _ _ => String.toList_inj.mp) hlists

end Join

/-! ## Orderly disks -/

/-- Everything on the disk has a name, and no two files have one place. -/
structure Orderly (disk : Disk) : Prop where
  current : ∀ part ∈ disk.current, IsName part
  names : ∀ file ∈ disk.files, ∀ part ∈ file.1, IsName part
  distinct : (disk.files.map (·.1)).Nodup

variable {disk other : Disk} {here place : Place} {path : String} {content : Bytes}

/-- Parts that are names lead from a place with names to another one. -/
theorem isName_of_mem_foldl_enter {parts : List String} {start : Place}
    (hparts : ∀ part ∈ parts, IsName part) (hstart : ∀ part ∈ start, IsName part) :
    ∀ part ∈ parts.foldl enter start, IsName part := by
  induction parts generalizing start with
  | nil => exact hstart
  | cons part parts ih =>
      obtain ⟨hpart, hrest⟩ := List.forall_mem_cons.mp hparts
      refine ih hrest ?_
      rw [enter]
      split
      · exact hstart
      split
      · exact fun p hp => hstart p (List.dropLast_subset _ hp)
      · exact List.forall_mem_append.mpr ⟨hstart, List.forall_mem_singleton.mpr hpart⟩

/-- A path leads to a place with names. -/
theorem Orderly.resolve (h : disk.Orderly) (hresolve : disk.resolve path = .ok here) :
    ∀ part ∈ here, IsName part := by
  rw [resolve_eq_place hresolve, placeFrom]
  refine isName_of_mem_foldl_enter (fun part => isName_of_mem_steps) ?_
  split
  · exact List.forall_mem_nil _
  · exact h.current

theorem Orderly.putFile (h : disk.Orderly) (hhere : ∀ part ∈ here, IsName part) :
    (disk.putFile here content).Orderly where
  current := h.current
  names := by
    refine List.forall_mem_append.mpr ⟨fun file hfile => ?_, List.forall_mem_singleton.mpr hhere⟩
    exact h.names file (List.mem_filter.mp hfile).1
  distinct := by
    have hothers : here ∉ (disk.files.filter (·.1 ≠ here)).map (·.1) := by simp
    rw [Disk.putFile, List.map_append, List.map_singleton]
    refine List.nodup_append.mpr ⟨(List.filter_sublist.map _).nodup h.distinct, by simp, ?_⟩
    rintro there hthere _ hsingle rfl
    obtain rfl : there = here := List.mem_singleton.mp hsingle
    exact hothers hthere

/-- A file that is written leaves the disk orderly. -/
theorem Orderly.write (h : disk.Orderly) (hwrite : disk.write path content = .ok other) :
    other.Orderly := by
  obtain ⟨here, hresolve, -, -, rfl⟩ := write_eq_ok hwrite
  exact h.putFile (h.resolve hresolve)

/-- So do directories. -/
theorem Orderly.of_furnishes (h : disk.Orderly) (hfurnishes : Furnishes disk other) :
    other.Orderly where
  current := hfurnishes.current ▸ h.current
  names := hfurnishes.files ▸ h.names
  distinct := hfurnishes.files ▸ h.distinct

/-- So does a file that is written with the directories above it. -/
theorem Orderly.plant (h : disk.Orderly) (hplant : disk.plant path content = .ok other) :
    other.Orderly := by
  rw [Disk.plant] at hplant
  split at hplant
  next parent _ =>
    have hfurnishes := makeDirectories_furnishes disk parent
    rw [bind_eq_ok] at hplant
    obtain ⟨room, hroom, hwrite⟩ := hplant
    cases hmade : disk.makeDirectories parent with
    | error failure =>
        rw [hmade] at hroom
        cases hroom
    | ok made =>
        rw [hmade] at hroom hfurnishes
        cases hroom
        exact (h.of_furnishes hfurnishes).write hwrite
  · exact h.write hplant

/-! ## Files below a place -/

/-- On an orderly disk a place has one content. -/
theorem Orderly.file?_eq_some (h : disk.Orderly) :
    disk.file? here = some content ↔ (here, content) ∈ disk.files := by
  rw [file?, Option.map_eq_some_iff]
  constructor
  · rintro ⟨file, hfind, rfl⟩
    obtain rfl : file.1 = here := by simpa using List.find?_some hfind
    exact List.mem_of_find?_eq_some hfind
  · intro hmem
    obtain ⟨file, hfind⟩ := Option.isSome_iff_exists.mp
      (List.find?_isSome.mpr ⟨_, hmem, by simp⟩ : (disk.files.find? (·.1 = here)).isSome = true)
    have hfile : file.1 = here := by simpa using List.find?_some hfind
    have heq := List.inj_on_of_nodup_map h.distinct (List.mem_of_find?_eq_some hfind) hmem hfile
    exact ⟨file, hfind, congrArg Prod.snd heq⟩

/-- What is below a place has the parts of the place in front. -/
theorem below?_eq_some {base place parts : Place} :
    below? base place = some parts ↔ base ++ parts = place := by
  induction base generalizing place with
  | nil => simp [below?, eq_comm]
  | cons a base ih =>
      cases place with
      | nil => simp [below?]
      | cons b place => by_cases hab : a = b <;> simp [below?, hab, ih]

theorem mem_filesBelow :
    (path, content) ∈ disk.filesBelow place ↔
      ∃ parts, (place ++ parts, content) ∈ disk.files ∧ path = "/".intercalate parts := by
  rw [filesBelow, List.mem_filterMap]
  constructor
  · rintro ⟨⟨file, bytes⟩, hmem, hbelow⟩
    obtain ⟨parts, hparts, heq⟩ := Option.map_eq_some_iff.mp hbelow
    obtain ⟨rfl, rfl⟩ := Prod.mk.inj heq
    exact ⟨parts, below?_eq_some.mp hparts ▸ hmem, rfl⟩
  · rintro ⟨parts, hmem, rfl⟩
    have hbelow : below? place (place ++ parts) = some parts := below?_eq_some.mpr rfl
    exact ⟨_, hmem, by simp only [hbelow, Option.map_some]⟩

/-- The files below a place have different paths. -/
theorem Orderly.nodup_filesBelow (h : disk.Orderly) (place : Place) :
    ((disk.filesBelow place).map (·.1)).Nodup := by
  have hdistinct : disk.files.Pairwise (fun a b => a.1 ≠ b.1) := List.pairwise_map.mp h.distinct
  refine List.pairwise_map.mpr (List.pairwise_filterMap.mpr ?_)
  refine hdistinct.imp_of_mem fun {a b} ha hb hne => ?_
  intro found hfound found' hfound' hsame
  obtain ⟨parts, hparts, rfl⟩ := Option.map_eq_some_iff.mp hfound
  obtain ⟨parts', hparts', rfl⟩ := Option.map_eq_some_iff.mp hfound'
  rw [below?_eq_some] at hparts hparts'
  have hnames := h.names a ha
  have hnames' := h.names b hb
  rw [← hparts] at hnames
  rw [← hparts'] at hnames'
  have heq : parts = parts' :=
    (joinParts_inj (fun p hp => hnames p (List.mem_append_right _ hp))
      (fun p hp => hnames' p (List.mem_append_right _ hp))).mp hsame
  exact hne (by rw [← hparts, ← hparts', heq])

end Switchboard.Disk
