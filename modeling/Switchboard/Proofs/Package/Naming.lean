import Switchboard.Package.Dependency
import Switchboard.Proofs.Text.Joined

/-!
# Names of modules

A module name stands for the files whose paths end with its parts, in whatever directory and with
whatever extension. A module may also be a directory, which goes by a file `mod` or `__init__` in
it. A file is looked for at the root of the tree and behind a slash, a directory only behind a
slash. So the name of a module that is a directory at the root stands for no file there.

## Main results

* `asPath_moduleName` — the path that a module name is read as.
* `stem_extension` — what is left of a path without its extension.
* `names_file`, `names_entry` — when a name stands for a file, and for the file of a directory.
* `names_moduleName` — both, for all names, directories and extensions.
* `root_directory_missed` — the name of a directory at the root.
-/

namespace Switchboard.Dependency

/-! ## Module names -/

/-- Whether a text can be a part of a module name: it has characters, none of them separates parts,
and it is no word for the place where the name is used. -/
def isPart (part : String) : Bool :=
  !part.isEmpty && part.toList.all (· ∉ [':', '.', '/']) && part ≠ "crate" && part ≠ "self"

/-- The name of a module with the given parts. -/
def moduleName (parts : List String) : String :=
  "crate::" ++ "::".intercalate parts

/-- Pieces that a module name is made of. -/
structure Pieces (pieces : List (List Char)) : Prop where
  ne_nil : pieces ≠ []
  filled : ∀ piece ∈ pieces, piece ≠ []
  plain : ∀ piece ∈ pieces, ':' ∉ piece ∧ '.' ∉ piece ∧ '/' ∉ piece
  free : ∀ piece ∈ pieces, piece ≠ "crate".toList ∧ piece ≠ "self".toList

theorem pieces_of_isPart {parts : List String} (hparts : parts ≠ [])
    (h : ∀ part ∈ parts, isPart part = true) : Pieces (parts.map String.toList) := by
  have hpart : ∀ part ∈ parts, part ≠ "" ∧ (∀ c ∈ part.toList, c ∉ [':', '.', '/']) ∧
      part ≠ "crate" ∧ part ≠ "self" := by
    intro part hpart
    simpa [isPart, and_assoc] using h part hpart
  refine ⟨by simpa using hparts, ?_, ?_, ?_⟩ <;> intro piece hpiece <;>
    obtain ⟨part, hmem, rfl⟩ := List.mem_map.mp hpiece <;>
    obtain ⟨hfilled, hplain, hcrate, hself⟩ := hpart part hmem
  · simpa using hfilled
  · exact ⟨fun hc => hplain _ hc (by decide), fun hc => hplain _ hc (by decide),
      fun hc => hplain _ hc (by decide)⟩
  · exact ⟨fun heq => hcrate (String.toList_inj.mp heq), fun heq => hself (String.toList_inj.mp heq)⟩

section Pieces

variable {pieces : List (List Char)} (h : Pieces pieces)
include h

/-- A module name does not go on with a word that is none of its pieces. -/
theorem Pieces.not_prefix (word : List Char) (hword : ':' ∉ word)
    (hne : ∀ piece ∈ pieces, piece ≠ word) :
    ¬word ++ [':', ':'] <+: [':', ':'].intercalate pieces := by
  rintro ⟨rest, hrest⟩
  have hcut : Text.cutAt? [':', ':'] ([':', ':'].intercalate pieces) = some (word, rest) := by
    rw [← hrest, List.append_assoc]
    exact Text.cutAt?_append hword
  cases pieces with
  | nil => exact h.ne_nil rfl
  | cons piece pieces =>
      have hpiece : ':' ∉ piece := (h.plain piece List.mem_cons_self).1
      refine hne piece List.mem_cons_self ?_
      cases pieces with
      | nil =>
          rw [List.intercalate_singleton, Text.cutAt?_eq_none hpiece] at hcut
          cases hcut
      | cons next pieces =>
          rw [List.intercalate_cons_cons, List.append_assoc, Text.cutAt?_append hpiece] at hcut
          exact congrArg Prod.fst (Option.some.inj hcut)

/-- The path that a module name is read as has the same pieces. -/
theorem asPath_moduleName :
    asPath ("crate::".toList ++ "::".toList.intercalate pieces) = ['/'].intercalate pieces := by
  have hcrate : Text.dropLeads "crate::".toList
      ("crate::".toList ++ "::".toList.intercalate pieces) = "::".toList.intercalate pieces :=
    Text.dropLeads_append (by decide)
      (h.not_prefix "crate".toList (by decide) fun piece hpiece => (h.free piece hpiece).1)
  have hself : Text.dropLeads "self::".toList ("::".toList.intercalate pieces) =
      "::".toList.intercalate pieces :=
    Text.dropLeads_of_not_prefix
      (h.not_prefix "self".toList (by decide) fun piece hpiece => (h.free piece hpiece).2)
  have hsplit : Text.splitMark "::".toList ("::".toList.intercalate pieces) = pieces :=
    Text.splitMark_intercalate (fun piece hpiece => (h.plain piece hpiece).1) h.ne_nil
  have hdots : (['/'].intercalate pieces).map (fun c => if c = '.' then '/' else c) =
      ['/'].intercalate pieces := by
    refine (List.map_congr_left fun c hc => ?_).trans (List.map_id _)
    refine if_neg ?_
    rintro rfl
    obtain hslash | ⟨piece, hpiece, hdot⟩ := Text.mem_intercalate hc
    · exact absurd hslash (by decide)
    · exact (h.plain piece hpiece).2.1 hdot
  simp only [asPath, hcrate, hself, hsplit, hdots, ite_self]

/-- There is no slash in a module name. -/
theorem Pieces.slash_notMem_name : '/' ∉ "crate::".toList ++ "::".toList.intercalate pieces := by
  rw [List.mem_append, not_or]
  refine ⟨by decide, fun hslash => ?_⟩
  obtain hmark | ⟨piece, hpiece, hslash⟩ := Text.mem_intercalate hslash
  · exact absurd hmark (by decide)
  · exact (h.plain piece hpiece).2.2 hslash

end Pieces

/-! ## Stems -/

section Stem

variable {mark : Char} {front before after ext : List Char}

theorem cutLast?_append (hafter : mark ∉ after) :
    cutLast? mark (before ++ mark :: after) = some (before, after) := by
  have hback : (before ++ mark :: after).reverse = after.reverse ++ mark :: before.reverse := by
    simp
  have htake : (after.reverse ++ mark :: before.reverse).takeWhile (· ≠ mark) = after.reverse := by
    rw [List.takeWhile_append_of_pos fun c hc => ?_, List.takeWhile_cons_of_neg (by simp),
      List.append_nil]
    exact decide_eq_true fun heq => hafter (heq ▸ List.mem_reverse.mp hc)
  simp only [cutLast?, hback, htake, List.drop_left, List.reverse_reverse]

theorem cutLast?_eq_none (h : mark ∉ front) : cutLast? mark front = none := by
  have htake : front.reverse.takeWhile (· ≠ mark) = front.reverse := by
    refine List.takeWhile_eq_self_iff.mpr fun c hc => ?_
    exact decide_eq_true fun heq => h (heq ▸ List.mem_reverse.mp hc)
  simp only [cutLast?, htake, List.drop_length]

/-- The path ends with the name of a file. -/
def EndsInName (path : List Char) : Prop :=
  ∃ name, name ≠ [] ∧ '/' ∉ name ∧ (path = name ∨ ∃ directory, path = directory ++ '/' :: name)

/-- What is left of a path without its extension. -/
theorem stem_extension (hfront : EndsInName front) (hdot : '.' ∉ ext) (hslash : '/' ∉ ext) :
    stem (front ++ '.' :: ext) = front := by
  obtain ⟨name, hname, hplain, rfl | ⟨directory, rfl⟩⟩ := hfront
  · rw [stem, cutLast?_append hdot]
    simp [hslash, cutLast?_eq_none hplain, hname]
  · rw [stem, cutLast?_append hdot]
    simp [hslash, cutLast?_append hplain, hname]

/-- The pieces of a path end it with a name, in whatever directory they stand. -/
theorem Pieces.endsInName {pieces : List (List Char)} (h : Pieces pieces) {above : List Char}
    (habove : above = [] ∨ ∃ directory, above = directory ++ ['/']) :
    EndsInName (above ++ ['/'].intercalate pieces) := by
  obtain ⟨first, last, rfl⟩ : ∃ first last, pieces = first ++ [last] :=
    ⟨_, _, (List.dropLast_concat_getLast h.ne_nil).symm⟩
  have hlast : last ∈ first ++ [last] := by simp
  refine ⟨last, h.filled last hlast, (h.plain last hlast).2.2, ?_⟩
  by_cases hfirst : first = []
  · subst hfirst
    rw [List.nil_append, List.intercalate_singleton]
    obtain rfl | ⟨directory, rfl⟩ := habove
    · exact .inl rfl
    · exact .inr ⟨directory, by simp⟩
  · rw [Text.intercalate_append hfirst (List.cons_ne_nil _ _), List.intercalate_singleton,
      ← List.append_assoc]
    exact .inr ⟨_, rfl⟩

theorem Pieces.path_ne_nil {pieces : List (List Char)} (h : Pieces pieces) :
    ['/'].intercalate pieces ≠ [] := by
  obtain ⟨name, hname, -, heq | ⟨directory, heq⟩⟩ := h.endsInName (.inl rfl)
  · exact fun hnil => hname (heq.symm.trans hnil)
  · exact fun hnil => absurd (heq.symm.trans hnil) (by simp)

end Stem

/-! ## Names and paths -/

theorem hasTail_iff {tail chars : List Char} : hasTail tail chars = true ↔ tail <:+ chars := by
  rw [hasTail, Text.isSome_dropLead?_iff, List.reverse_prefix]

/-- A path ends with a slash and the pieces of another one just if it has these pieces at its end,
and others before them. -/
theorem slash_suffix_iff {pieces others : List (List Char)} (hpieces : ∀ piece ∈ pieces, '/' ∉ piece)
    (hothers : ∀ piece ∈ others, '/' ∉ piece) (hne : pieces ≠ []) :
    '/' :: ['/'].intercalate pieces <:+ ['/'].intercalate others ↔
      ∃ front ≠ [], others = front ++ pieces := by
  constructor
  · rintro ⟨front, hfront⟩
    have hne' : others ≠ [] := by
      rintro rfl
      simp at hfront
    obtain ⟨before, after, rfl, hbefore, hafter, -, hrest⟩ :=
      (Text.append_cons_eq_intercalate hothers hne').mp hfront
    have hlater : ∀ piece ∈ after, '/' ∉ piece := fun piece hpiece =>
      hothers piece (List.mem_append_right _ hpiece)
    obtain rfl := (Text.intercalate_inj hpieces hne hlater hafter).mp hrest
    exact ⟨before, hbefore, rfl⟩
  · rintro ⟨front, hfront, rfl⟩
    exact ⟨_, (Text.intercalate_append hfront hne).symm⟩

/-- A list that is moved on by one element at its end repeats this element. -/
theorem forall_eq_of_append_singleton {α : Type} {a b : α} {list : List α}
    (h : list ++ [a] = b :: list) : ∀ c ∈ list, c = a := by
  induction list generalizing b with
  | nil => exact nofun
  | cons c list ih =>
      have hlist := ih (List.cons.inj h).2
      refine List.forall_mem_cons.mpr ⟨?_, hlist⟩
      cases list with
      | nil => exact (List.cons.inj (List.cons.inj h).2).1.symm
      | cons d list =>
          rw [← hlist d List.mem_cons_self]
          exact (List.cons.inj (List.cons.inj h).2).1.symm

/-- A list has itself at its end, with one more element, just if it has this element only. -/
theorem append_singleton_eq_append_iff {α : Type} {a : α} {list : List α} :
    (∃ front ≠ [], list ++ [a] = front ++ list) ↔ ∀ b ∈ list, b = a := by
  constructor
  · rintro ⟨front, hfront, h⟩
    have hlength : front.length = 1 := by
      have := congrArg List.length h
      simp only [List.length_append, List.length_singleton] at this
      omega
    obtain ⟨b, rfl⟩ := List.length_eq_one_iff.mp hlength
    exact forall_eq_of_append_singleton h
  · intro h
    refine ⟨[a], by simp, ?_⟩
    rw [List.eq_replicate_iff.mpr ⟨rfl, h⟩, List.singleton_append, ← List.replicate_succ,
      ← List.replicate_succ']

/-- The files that a directory goes by. -/
def entries : List (List Char) := ["mod".toList, "__init__".toList]

/-- What it takes for a module name to stand for a path with a given stem. -/
theorem names_iff {dep path : String} :
    names dep path = true ↔ dep = path ∨ dep.toList = stem path.toList ∨
      asPath dep.toList ≠ [] ∧ (stem path.toList = asPath dep.toList ∨
        '/' :: asPath dep.toList <:+ stem path.toList ∨
        ∃ entry ∈ entries, '/' :: (asPath dep.toList ++ '/' :: entry) <:+ stem path.toList) := by
  have hmod : "/mod".toList = '/' :: "mod".toList := by decide
  have hinit : "/__init__".toList = '/' :: "__init__".toList := by decide
  simp only [names, entries, hmod, hinit, Bool.or_eq_true, Bool.and_eq_true, decide_eq_true_eq,
    Bool.not_eq_true', List.isEmpty_eq_false_iff, hasTail_iff, List.mem_cons, List.not_mem_nil,
    or_false, exists_eq_or_imp, exists_eq_left, List.cons_append, or_assoc]

section Names

variable {pieces : List (List Char)} {above ext : List Char} {dep path : String}
  (h : Pieces pieces) (habove : above = [] ∨ ∃ directory, above = directory ++ ['/'])
  (hext : '.' ∉ ext ∧ '/' ∉ ext)
  (hdep : dep.toList = "crate::".toList ++ "::".toList.intercalate pieces)
include h habove hext hdep

/-- A module name stands for a file with its pieces, in any directory. -/
theorem names_file (hpath : path.toList = above ++ ['/'].intercalate pieces ++ '.' :: ext) :
    names dep path = true := by
  have hstem : stem path.toList = above ++ ['/'].intercalate pieces := by
    rw [hpath, stem_extension (h.endsInName habove) hext.1 hext.2]
  rw [names_iff, hstem, hdep, asPath_moduleName h]
  refine .inr (.inr ⟨h.path_ne_nil, ?_⟩)
  obtain rfl | ⟨directory, rfl⟩ := habove
  · exact .inl rfl
  · exact .inr (.inl ⟨directory, by simp⟩)

/-- It stands for the file of a directory with its pieces that is not at the root. At the root it
does so only by accident, when all its pieces are the name of this file. -/
theorem names_entry {entry : List Char} (hentry : entry ∈ entries)
    (hpath : path.toList = above ++ (['/'].intercalate pieces ++ '/' :: entry) ++ '.' :: ext) :
    names dep path = true ↔ above ≠ [] ∨ ∀ piece ∈ pieces, piece = entry := by
  have hplain : ∀ entry ∈ entries, entry ≠ [] ∧ '/' ∉ entry := by decide
  have hstem : stem path.toList = above ++ (['/'].intercalate pieces ++ '/' :: entry) := by
    refine hpath ▸ stem_extension ⟨entry, (hplain entry hentry).1, (hplain entry hentry).2,
      .inr ⟨above ++ ['/'].intercalate pieces, ?_⟩⟩ hext.1 hext.2
    rw [List.append_assoc]
  have hjoin : ∀ entry : List Char, ['/'].intercalate pieces ++ '/' :: entry =
      ['/'].intercalate (pieces ++ [entry]) := fun entry => by
    rw [Text.intercalate_append h.ne_nil (List.cons_ne_nil _ _), List.intercalate_singleton]
  have hpieces : ∀ piece ∈ pieces, '/' ∉ piece := fun piece hpiece => (h.plain piece hpiece).2.2
  have hmore : ∀ entry ∈ entries, ∀ piece ∈ pieces ++ [entry], '/' ∉ piece := by
    intro entry hentry piece hpiece
    obtain hpiece | hpiece := List.mem_append.mp hpiece
    · exact hpieces piece hpiece
    · exact List.mem_singleton.mp hpiece ▸ (hplain entry hentry).2
  rw [names_iff, hstem, hdep, asPath_moduleName h]
  obtain rfl | ⟨directory, rfl⟩ := habove
  · have hnoslash : '/' ∉ dep.toList := hdep ▸ h.slash_notMem_name
    simp only [List.nil_append, ne_eq, not_true_eq_false, false_or]
    constructor
    · rintro (hsame | hsame | ⟨-, hsame | hsuffix | ⟨other, hother, hsuffix⟩⟩)
      · refine absurd ?_ hnoslash
        rw [hsame, hpath]
        simp
      · refine absurd ?_ hnoslash
        rw [hdep, hsame]
        simp
      · simpa using congrArg List.length hsame
      · rw [hjoin, slash_suffix_iff hpieces (hmore entry hentry) h.ne_nil] at hsuffix
        exact append_singleton_eq_append_iff.mp hsuffix
      · rw [hjoin, hjoin, slash_suffix_iff (hmore other hother) (hmore entry hentry) (by simp)]
          at hsuffix
        obtain ⟨front, hfront, hlist⟩ := hsuffix
        have hlength := congrArg List.length hlist
        have hpos := List.length_pos_iff.mpr hfront
        simp only [List.length_append, List.length_singleton] at hlength
        omega
    · intro hall
      refine .inr (.inr ⟨h.path_ne_nil, .inr (.inl ?_)⟩)
      rw [hjoin, slash_suffix_iff hpieces (hmore entry hentry) h.ne_nil]
      exact append_singleton_eq_append_iff.mpr hall
  · refine iff_of_true (.inr (.inr ⟨h.path_ne_nil, .inr (.inr ⟨entry, hentry, directory, ?_⟩)⟩))
      (.inl (by simp))
    simp

end Names

/-! ## All names -/

/-- The name of a module stands for each file whose path ends with its parts, in any directory and
with any extension. It stands for the file `mod.rs` or `__init__.py` in a directory with its parts
just if this directory is not at the root, unless all parts have the name of this file. -/
theorem names_moduleName {parts : List String} (hparts : parts ≠ [])
    (hnames : ∀ part ∈ parts, isPart part = true) (above : String)
    (habove : above = "" ∨ ∃ directory, above = directory ++ "/") :
    (∀ ext : String, '.' ∉ ext.toList → '/' ∉ ext.toList →
      names (moduleName parts) (above ++ "/".intercalate parts ++ "." ++ ext) = true) ∧
    (names (moduleName parts) (above ++ "/".intercalate parts ++ "/mod.rs") = true ↔
      above ≠ "" ∨ ∀ part ∈ parts, part = "mod") ∧
    (names (moduleName parts) (above ++ "/".intercalate parts ++ "/__init__.py") = true ↔
      above ≠ "" ∨ ∀ part ∈ parts, part = "__init__") := by
  have hpieces := pieces_of_isPart hparts hnames
  have hchars : above.toList = [] ∨ ∃ directory, above.toList = directory ++ ['/'] := by
    obtain rfl | ⟨directory, rfl⟩ := habove
    · exact .inl rfl
    · exact .inr ⟨directory.toList, String.toList_append⟩
  have hdep : (moduleName parts).toList =
      "crate::".toList ++ "::".toList.intercalate (parts.map String.toList) := by
    rw [moduleName, String.toList_append, String.toList_intercalate]
  have hentry : ∀ entry ext : String, entry.toList ∈ entries →
      '.' ∉ ext.toList ∧ '/' ∉ ext.toList → ∀ file : String,
      file.toList = '/' :: (entry.toList ++ '.' :: ext.toList) →
      (names (moduleName parts) (above ++ "/".intercalate parts ++ file) = true ↔
        above ≠ "" ∨ ∀ part ∈ parts, part = entry) := by
    intro entry ext hmem hext file hfile
    rw [names_entry hpieces hchars hext hdep hmem
      (by simp [String.toList_append, String.toList_intercalate, hfile])]
    simp [String.toList_inj]
  refine ⟨fun ext hdot hslash => ?_, ?_, ?_⟩
  · exact names_file hpieces hchars ⟨hdot, hslash⟩ hdep
      (by simp [String.toList_append, String.toList_intercalate])
  · exact hentry "mod" "rs" (by decide) (by decide) "/mod.rs" (by decide)
  · exact hentry "__init__" "py" (by decide) (by decide) "/__init__.py" (by decide)

/-- A module of two parts, as a file and as a directory. -/
theorem names_storeDisk :
    names (moduleName ["store", "disk"]) "src/store/disk.rs" = true ∧
      names (moduleName ["store", "disk"]) "src/store/disk/mod.rs" = true ∧
      names (moduleName ["store", "disk"]) "store/disk/mod.rs" = false := by
  have hnames : ∀ part ∈ ["store", "disk"], isPart part = true := by decide
  obtain ⟨hfile, -⟩ := names_moduleName (by decide) hnames "src/" (.inr ⟨"src", rfl⟩)
  obtain ⟨-, hbelow, -⟩ := names_moduleName (by decide) hnames "src/" (.inr ⟨"src", rfl⟩)
  obtain ⟨-, hroot, -⟩ := names_moduleName (by decide) hnames "" (.inl rfl)
  exact ⟨hfile "rs" (by decide) (by decide), hbelow.mpr (by decide),
    Bool.eq_false_iff.mpr fun h => absurd (hroot.mp h) (by decide)⟩

/-- A directory at the root is missed, and a file at the root is not. -/
theorem root_directory_missed :
    isPart "store" = true ∧ names (moduleName ["store"]) "store.rs" = true ∧
      names (moduleName ["store"]) "src/store/mod.rs" = true ∧
      names (moduleName ["store"]) "store/mod.rs" = false ∧
      names (moduleName ["store"]) "store/__init__.py" = false := by
  decide +kernel

end Switchboard.Dependency
