import Switchboard.Proofs.Index.Search
import Switchboard.Proofs.Text.Lowercase
import Switchboard.Proofs.Text.Pieces
import Switchboard.Source.Scan

/-!
# Declarations are found by their names

The index lists a declaration as a label and a name with a blank between them. Three parts of the
library have their own idea of a name: the scanner, which takes it from a line as far as letters,
digits and underscores go; a query, which is cut at other characters and trimmed at its ends; and
the score, which compares a term with the last word of a symbol, both in lower case. They agree. A
name is one term of a query, which neither cuts nor trims it. And its lower-case form is the same by
itself and as the last word of a symbol: the blank before it ends every look back.

## Main results

* `mem_symbols_scan` — what a declaration consists of.
* `queryTerms_name` — a name is a single term.
* `lastWord_lowercase_symbol` — it is the last word of its symbol, in lower case too.
* `isName_of_mem_symbols` — whatever follows the label of a symbol is a name.
* `declaration_found` — a search for the name of a declaration finds its module.
-/

namespace Switchboard.Source

open Switchboard.Index (Document Module lastWord queryTerms symbolPoints)

/-! ## Names -/

/-- A name of a declaration: characters of names, and at least one. -/
def IsName (name : String) : Prop :=
  name.toList ≠ [] ∧ ∀ c ∈ name.toList, isNameChar c = true

/-- A character of a name can stand in a term. -/
theorem isTermChar_of_isNameChar {c : Char} (h : isNameChar c = true) :
    Index.isTermChar c = true := by
  unfold isNameChar at h
  unfold Index.isTermChar
  rw [Bool.or_eq_true] at h
  rcases h with h | h <;> simp [h]

/-- A character that a name does not have is another one. -/
theorem ne_of_isNameChar {c other : Char} (h : isNameChar c = true)
    (hother : isNameChar other = false) : c ≠ other := by
  rintro rfl
  rw [h] at hother
  cases hother

/-- A character of a name is not trimmed from a term. -/
theorem isTermEdge_of_isNameChar {c : Char} (h : isNameChar c = true) :
    Index.isTermEdge c = false := by
  have hpoint : c ≠ '.' := ne_of_isNameChar h (by decide)
  have hdash : c ≠ '-' := ne_of_isNameChar h (by decide)
  have hcolon : c ≠ ':' := ne_of_isNameChar h (by decide)
  simp [Index.isTermEdge, hpoint, hdash, hcolon]

theorem IsName.blank_not_mem {name : String} (h : IsName name) : ' ' ∉ name.toList := fun hmem =>
  ne_of_isNameChar (h.2 ' ' hmem) (by decide) rfl

/-- A name is a single term of a query. -/
theorem queryTerms_name {name : String} (h : IsName name) :
    queryTerms name = [Text.lowercase name] := by
  have hwhole : Text.splitChars (!Index.isTermChar ·) name.toList = [name.toList] :=
    Text.splitChars_of_forall fun c hc => by rw [isTermChar_of_isNameChar (h.2 c hc)]; rfl
  have hkept : Text.trimChars Index.isTermEdge name.toList = name.toList :=
    Text.trimChars_of_forall fun c hc => isTermEdge_of_isNameChar (h.2 c hc)
  have hsome : name.toList.isEmpty = false := List.isEmpty_eq_false_iff.mpr h.1
  unfold queryTerms
  dsimp only
  rw [hwhole, List.map_singleton, hkept, List.filter_cons, hsome]
  simp only [Bool.not_false, if_true, List.filter_nil, List.map_singleton, String.ofList_toList]
  rfl

/-- The last word of a text is what follows its last blank. -/
theorem lastWord_append_blank (first : String) {last : String} (h : ' ' ∉ last.toList) :
    lastWord (first ++ " " ++ last) = last := by
  have hafter : ∀ c ∈ last.toList, decide (c = ' ') = false := fun c hc =>
    decide_eq_false fun hblank => h (hblank ▸ hc)
  obtain ⟨piece, pieces, hpieces⟩ := @Text.splitChars_append_cons (fun c => decide (c = ' ')) ' '
    rfl last.toList hafter first.toList
  unfold lastWord Text.splitAt
  rw [Text.toList_append_blank, hpieces, ← List.cons_append, List.map_append, List.map_singleton,
    List.getLast?_append, List.getLast?_singleton, Option.some_or, Option.getD_some,
    String.ofList_toList]

/-- So is the name of a symbol, in lower case too. -/
theorem lastWord_lowercase_symbol (label : String) {name : String} (h : IsName name) :
    lastWord (Text.lowercase s!"{label} {name}") = Text.lowercase name := by
  show lastWord (Text.lowercase (label ++ " " ++ name)) = _
  rw [Text.lowercase_blank]
  exact lastWord_append_blank _ (Text.blank_not_mem_lowercase h.blank_not_mem)

/-! ## Declarations -/

/-- The labels of declarations. -/
def labels : List String := declarations.map (·.2)

/-- A declaration is a label and a name. -/
theorem symbolOf?_eq_some {line : List Char} {symbol : String} (h : symbolOf? line = some symbol) :
    ∃ label ∈ labels, ∃ name, IsName name ∧ symbol = s!"{label} {name}" := by
  unfold symbolOf? at h
  split at h
  · cases h
  · rename_i label rest hmark
    dsimp only at h
    split at h
    · cases h
    · rename_i hsome
      injection h with h
      obtain ⟨⟨mark, found⟩, hmem, hrest⟩ := List.exists_of_findSome?_eq_some hmark
      obtain ⟨text, -, htext⟩ := Option.map_eq_some_iff.mp hrest
      cases htext
      refine ⟨label, List.mem_map_of_mem hmem, _, ⟨?_, ?_⟩, h.symm⟩
      · rw [String.toList_ofList]
        exact fun hnil => hsome (List.isEmpty_iff.mpr hnil)
      · rw [String.toList_ofList]
        exact fun c hc => List.mem_takeWhile_imp hc

/-- A symbol of a file is a label and a name. -/
theorem mem_symbols_scan {file : File} {symbol : String} (h : symbol ∈ file.scan.symbols) :
    ∃ label ∈ labels, ∃ name, IsName name ∧ symbol = s!"{label} {name}" := by
  obtain ⟨line, -, hline⟩ := List.mem_filterMap.mp h
  exact symbolOf?_eq_some hline

/-- The labels are single words. -/
theorem blank_not_mem_label : ∀ label ∈ labels, ' ' ∉ label.toList := by decide +kernel

/-- A symbol has one blank, so it can be taken apart in one way only. -/
theorem symbol_inj {label name first last : String} (hlabel : ' ' ∉ first.toList)
    (hname : ' ' ∉ last.toList) (h : s!"{label} {name}" = s!"{first} {last}") :
    name = last := by
  have hchars : label.toList ++ ' ' :: name.toList = first.toList ++ ' ' :: last.toList := by
    rw [← Text.toList_append_blank, ← Text.toList_append_blank]
    exact congrArg String.toList h
  rcases List.append_eq_append_iff.mp hchars with ⟨mid, hmid, hrest⟩ | ⟨mid, hmid, hrest⟩
  · cases mid with
    | nil => exact String.toList_inj.mp (List.cons.inj hrest).2
    | cons c mid =>
        -- The first blank would lie within the label.
        obtain ⟨rfl, -⟩ := List.cons.inj hrest
        exact absurd (hmid ▸ List.mem_append_right _ List.mem_cons_self) hlabel
  · cases mid with
    | nil => exact String.toList_inj.mp (List.cons.inj hrest).2.symm
    | cons c mid =>
        -- The second blank would lie within the name.
        obtain ⟨rfl, hlast⟩ := List.cons.inj hrest
        exact absurd (hlast.symm ▸ List.mem_append_right _ List.mem_cons_self) hname

/-- What follows the label of a symbol of a file is a name. -/
theorem isName_of_mem_symbols {file : File} {label name : String}
    (h : s!"{label} {name}" ∈ file.scan.symbols) : IsName name := by
  obtain ⟨first, hlabel, last, hname, hsymbol⟩ := mem_symbols_scan h
  rw [symbol_inj (blank_not_mem_label first hlabel) hname.blank_not_mem hsymbol]
  exact hname

/-- A module scores at least four points for the name of a symbol it lists. -/
theorem four_le_score {m : Module} {label name : String} (h : IsName name)
    (hsymbol : s!"{label} {name}" ∈ m.symbols) : 4 ≤ m.score (queryTerms name) := by
  have hpoints : symbolPoints (Text.lowercase name) (Text.lowercase s!"{label} {name}") = 4 := by
    unfold symbolPoints
    rw [lastWord_lowercase_symbol label h, decide_eq_true rfl, Bool.or_true, if_pos rfl]
  rw [queryTerms_name h]
  show 4 ≤ m.termPoints (Text.lowercase name) + 0
  rw [Nat.add_zero]
  calc 4 = symbolPoints (Text.lowercase name) (Text.lowercase s!"{label} {name}") := hpoints.symm
    _ ≤ m.termPoints (Text.lowercase name) := Index.le_termPoints_of_symbol hsymbol _

/-- **Declarations are found by their names.** Every symbol of a file is a label and a name with a
blank between them, and the name is a single term of a query. In every document with the module of
the file, a search for the name, with room for all modules, finds this module with a score of at
least four. -/
theorem declaration_found (file : File) :
    (∀ symbol ∈ file.scan.symbols,
      ∃ label ∈ labels, ∃ name : String, symbol = s!"{label} {name}") ∧
    ∀ label name : String, s!"{label} {name}" ∈ file.scan.symbols →
      queryTerms name = [Text.lowercase name] ∧
      ∀ (doc : Document) (limit : Nat) (estimator : Estimator), file.scan ∈ doc.modules →
        doc.modules.length ≤ limit →
          ∃ hit ∈ doc.search name limit estimator, hit.path = file.path ∧
            hit.lineCount = file.scan.lineCount ∧ hit.fragment.text = file.scan.render ∧
            4 ≤ hit.score := by
  constructor
  · intro symbol hsymbol
    obtain ⟨label, hlabel, name, -, rfl⟩ := mem_symbols_scan hsymbol
    exact ⟨label, hlabel, name, rfl⟩
  intro label name hsymbol
  have hname : IsName name := isName_of_mem_symbols hsymbol
  refine ⟨queryTerms_name hname, ?_⟩
  intro doc limit estimator hmem hlimit
  have hscore : 4 ≤ file.scan.score (queryTerms name) := four_le_score hname hsymbol
  have hterms : queryTerms name ≠ [] := by
    rw [queryTerms_name hname]
    exact List.cons_ne_nil _ _
  have hpositive : 0 < file.scan.score (queryTerms name) := Nat.lt_of_lt_of_le (by decide) hscore
  exact ⟨_, (Index.mem_search_iff hlimit).mpr ⟨hterms, file.scan, hmem,
    Index.hit?_eq_some_iff.mpr ⟨hpositive, rfl⟩⟩, rfl, rfl, rfl, hscore⟩

/-- A file with a name that ends in a sigma, which lower case writes in two ways. -/
def sigmaFile : File where
  path := "sigma.rs"
  content := [0x66, 0x6e, 0x20, 0xce, 0x91, 0xce, 0xa3, 0x28, 0x29, 0x0a]

/-- The module of the file behind another one. -/
def sigmaDocument : Document where
  schemaVersion := 1
  metadata := { projectName := "letters" }
  modules := [{ path := "a.rs", language := "rust", symbols := ["fn a"] }, sigmaFile.scan]

/-- The name is found, with the last letter of its lower case as in the symbol. -/
theorem sigmaFile_found :
    ∃ hit ∈ sigmaDocument.search "ΑΣ" 2 .standard, hit.path = "sigma.rs" ∧ 4 ≤ hit.score := by
  obtain ⟨-, hfound⟩ := (declaration_found sigmaFile).2 "fn" "ΑΣ" (by decide +kernel)
  have hmem : sigmaFile.scan ∈ sigmaDocument.modules :=
    List.mem_cons_of_mem _ List.mem_cons_self
  obtain ⟨hit, hhit, hpath, -, -, hscore⟩ := hfound sigmaDocument 2 .standard hmem (by decide)
  exact ⟨hit, hhit, hpath, hscore⟩

end Switchboard.Source
