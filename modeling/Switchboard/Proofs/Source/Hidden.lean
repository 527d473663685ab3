import Switchboard.Proofs.Disk.Orderly
import Switchboard.Proofs.Glob.Directory
import Switchboard.Proofs.Source.Tree

/-!
# Hidden directories

Version control, build products, dependencies and the router's own data live in directories of
fixed names. Their patterns are excluded from every source tree before the patterns that were
asked for, and exclusion wins: whatever the patterns say, no file below such a directory is
selected.

## Main results

* `Tree.selects_of_hidden` — a path through a hidden directory is not selected.
* `Tree.owns_of_isHidden` — so a file at such a place does not belong to the tree.
-/

namespace Switchboard

namespace Source

open Switchboard.Glob (directory GoesThrough slash)
open Switchboard.Text.Utf8 (charBytes encode)

/-- The names of the directories that are never part of a source tree. -/
def hidden : List String := [".git", "target", "node_modules", ".relay"]

theorem standardExcludes_eq : standardExcludes = hidden.map fun name => "**/" ++ name ++ "/**" := by
  decide

theorem isPlain_hidden : ∀ name ∈ hidden, ∀ c ∈ name.toList, Glob.isPlain c = true := by
  have hall : hidden.all (·.toList.all Glob.isPlain) = true := by decide
  exact fun name hname => List.all_eq_true.mp (List.all_eq_true.mp hall name hname)

/-! ## Paths -/

section Paths

variable {name : String}

theorem encode_append_slash (part rest : String) :
    encode (part ++ "/" ++ rest) = encode part ++ slash :: encode rest := by
  have hslash : charBytes '/' = [slash] := by decide
  simp [Text.Utf8.encode_eq, String.toList_append, hslash]

/-- The parts of a path before its last one are directories that it goes through. -/
theorem goesThrough_of_mem_dropLast {parts : List String} (h : name ∈ parts.dropLast) :
    GoesThrough (encode name) (encode ("/".intercalate parts)) := by
  induction parts with
  | nil => cases h
  | cons part rest ih =>
      cases rest with
      | nil => cases h
      | cons next rest =>
          rw [String.intercalate_cons_cons, encode_append_slash]
          rw [List.dropLast_cons_cons, List.mem_cons] at h
          obtain rfl | h := h
          · exact ⟨[], encode ("/".intercalate (next :: rest)), rfl, .inl rfl⟩
          · obtain ⟨front, behind, hpath, hfront⟩ := ih h
            refine ⟨encode part ++ slash :: front, behind, by simp [hpath], .inr ?_⟩
            obtain rfl | ⟨above, rfl⟩ := hfront
            · exact ⟨encode part, rfl⟩
            · exact ⟨encode part ++ slash :: above, by simp⟩

end Paths

/-! ## Trees -/

/-- The patterns of a set are what the patterns of the list are parsed to, in order. -/
theorem compileGlobs_eq_ok {patterns : List String} {set : Glob.PatternSet} :
    compileGlobs patterns = .ok set ↔
      List.Forall₂ (fun pattern p => Glob.parse pattern = .ok p) patterns set := by
  have hparsed : compileGlobs patterns = .ok set ↔ Glob.parseAll patterns = .ok set := by
    rw [compileGlobs]
    cases Glob.parseAll patterns <;> simp
  rw [hparsed]
  clear hparsed
  induction patterns generalizing set with
  | nil => simp [Glob.parseAll, eq_comm]
  | cons pattern patterns ih =>
      rw [Glob.parseAll, List.forall₂_cons_left_iff]
      cases hfirst : Glob.parse pattern with
      | error refusal => simp
      | ok p =>
          cases hrest : Glob.parseAll patterns with
          | error refused =>
              have hnone : ∀ rest, ¬List.Forall₂ (fun pattern p => Glob.parse pattern = .ok p)
                  patterns rest := fun rest h => nomatch hrest.symm.trans (ih.mpr h)
              simp [Except.map, hnone]
          | ok rest =>
              have hall : ∀ rest', List.Forall₂ (fun pattern p => Glob.parse pattern = .ok p)
                  patterns rest' ↔ rest' = rest := fun rest' =>
                ih.symm.trans (by rw [hrest, Except.ok.injEq, eq_comm])
              simpa [Except.map, hall] using eq_comm

/-- A pattern of the list is in the set that the list is parsed to. -/
theorem mem_of_compileGlobs {patterns : List String} {set : Glob.PatternSet} {pattern : String}
    {p : Glob.Pattern} (hset : compileGlobs patterns = .ok set) (hmem : pattern ∈ patterns)
    (hparse : Glob.parse pattern = .ok p) : p ∈ set := by
  have hall := compileGlobs_eq_ok.mp hset
  clear hset
  induction hall with
  | nil => cases hmem
  | cons hfirst hrest ih =>
      obtain rfl | hmem := List.mem_cons.mp hmem
      · exact Except.ok.inj (hfirst.symm.trans hparse) ▸ List.mem_cons_self
      · exact List.mem_cons_of_mem _ (ih hmem)

namespace Tree

variable {root name : String} {includeGlobs excludeGlobs : List String} {tree : Tree}

theorem compile_eq_ok :
    compile root includeGlobs excludeGlobs = .ok tree ↔
      tree.root = root ∧ compileGlobs includeGlobs = .ok tree.included ∧
        compileGlobs (standardExcludes ++ excludeGlobs) = .ok tree.excluded := by
  rw [compile]
  cases compileGlobs includeGlobs with
  | error report => exact ⟨nofun, fun h => nomatch h.2.1⟩
  | ok included =>
      cases compileGlobs (standardExcludes ++ excludeGlobs) with
      | error report => exact ⟨nofun, fun h => nomatch h.2.2⟩
      | ok excluded =>
          simp only [bind, Except.bind, pure, Except.pure, Except.ok.injEq]
          constructor
          · rintro rfl
            exact ⟨rfl, rfl, rfl⟩
          · rintro ⟨rfl, rfl, rfl⟩
            rfl

/-- The patterns of the hidden directories are among the excluded ones. -/
theorem directory_mem_excluded (h : compile root includeGlobs excludeGlobs = .ok tree)
    (hname : name ∈ hidden) : directory (encode name) ∈ tree.excluded := by
  refine mem_of_compileGlobs (compile_eq_ok.mp h).2.2 ?_
    (Glob.parse_directory (isPlain_hidden name hname))
  rw [standardExcludes_eq]
  exact List.mem_append_left _ (List.mem_map_of_mem hname)

/-- A path through a hidden directory is not selected, whatever the patterns are. -/
theorem selects_of_hidden {parts : List String}
    (h : compile root includeGlobs excludeGlobs = .ok tree) (hname : name ∈ hidden)
    (hmem : name ∈ parts.dropLast) : tree.selects ("/".intercalate parts) = false := by
  have hexcluded : tree.excluded.matchesPath ("/".intercalate parts) = true :=
    List.any_eq_true.mpr ⟨_, directory_mem_excluded h hname,
      (Glob.directory_matchesBytes _ _).mpr (goesThrough_of_mem_dropLast hmem)⟩
  rw [selects, hexcluded]
  rfl

/-- Whether a path goes through a hidden directory, given by its parts. -/
def goesHidden (parts : List String) : Bool := hidden.any parts.dropLast.contains

/-- Whether a place is outside of a root, or below a hidden directory inside of it. -/
def isHidden (root place : Place) : Bool := (Disk.below? root place).all goesHidden

/-- A file at such a place does not belong to the tree. -/
theorem owns_of_isHidden {base place : Place}
    (h : compile root includeGlobs excludeGlobs = .ok tree) (hplace : isHidden base place = true) :
    tree.owns base place = false := by
  rw [isHidden] at hplace
  rw [owns]
  cases hbelow : Disk.below? base place with
  | none => rfl
  | some parts =>
      rw [hbelow] at hplace
      obtain ⟨name, hname, hmem⟩ := List.any_eq_true.mp hplace
      exact selects_of_hidden h hname (List.contains_iff_mem.mp hmem)

/-- The root itself is not hidden. -/
theorem ne_of_isHidden {base place : Place} (h : isHidden base place = true) : place ≠ base := by
  rintro rfl
  rw [isHidden, Disk.below?_eq_some.mpr (List.append_nil place)] at h
  exact absurd h (by decide)

end Tree

end Source

end Switchboard
