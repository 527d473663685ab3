import Mathlib.Data.List.TakeWhile
import Switchboard.Text.Basic

/-!
# Pieces of a text

What cutting and trimming leave of a text of which something is known: a text without separators is
one piece, whatever follows the last separator is the last piece, and a text with nothing to trim
stays as it is.

A text occurs in another one when it is an infix of it, as every piece of a text is.

## Main results

* `splitChars_append_sep` — the pieces of two texts with a separator between them.
* `splitChars_append_cons` — the last piece of a text.
* `hasPart_iff` — what it means that a text occurs in another one.
* `infix_of_mem_splitChars`, `sep_of_mem_splitChars` — the pieces of a text occur in it, and have
  no separators.
-/

namespace Switchboard.Text

variable {sep p : Char → Bool}

/-- A text without separators is one piece. -/
theorem splitChars_of_forall {chars : List Char} (h : ∀ c ∈ chars, sep c = false) :
    splitChars sep chars = [chars] := by
  induction chars with
  | nil => rfl
  | cons c chars ih =>
      obtain ⟨hc, hrest⟩ := List.forall_mem_cons.mp h
      simp only [splitChars, hc, ih hrest, Bool.false_eq_true, if_false]

/-- The first piece stands at the start of a text, and the others occur behind it. -/
theorem splitChars_eq_cons (sep : Char → Bool) (chars : List Char) :
    ∃ first rest, splitChars sep chars = first :: rest ∧ first <+: chars ∧
      ∀ piece ∈ rest, piece <:+: chars := by
  induction chars with
  | nil => exact ⟨[], [], rfl, List.prefix_rfl, nofun⟩
  | cons c chars ih =>
      obtain ⟨first, rest, heq, hfirst, hrest⟩ := ih
      have hlater : ∀ piece ∈ rest, piece <:+: c :: chars := fun piece hpiece =>
        List.infix_cons (hrest piece hpiece)
      rw [splitChars, heq]
      split
      · refine ⟨[], first :: rest, rfl, List.nil_prefix, ?_⟩
        exact List.forall_mem_cons.mpr ⟨List.infix_cons hfirst.isInfix, hlater⟩
      · exact ⟨c :: first, rest, rfl, (List.prefix_cons_inj c).mpr hfirst, hlater⟩

/-- There is no separator in a piece. -/
theorem sep_of_mem_splitChars {chars piece : List Char} (h : piece ∈ splitChars sep chars) :
    ∀ c ∈ piece, sep c = false := by
  induction chars generalizing piece with
  | nil =>
      rw [splitChars, List.mem_singleton] at h
      rw [h]
      exact nofun
  | cons c chars ih =>
      obtain ⟨first, rest, heq, -⟩ := splitChars_eq_cons sep chars
      rw [heq] at ih
      rw [splitChars, heq] at h
      split at h
      · rcases List.mem_cons.mp h with rfl | h
        · exact nofun
        · exact ih h
      next hc =>
        rcases List.mem_cons.mp h with rfl | h
        · exact List.forall_mem_cons.mpr
            ⟨Bool.eq_false_iff.mpr hc, ih List.mem_cons_self⟩
        · exact ih (List.mem_cons_of_mem _ h)

/-- The pieces of a text occur in it. -/
theorem infix_of_mem_splitChars {chars piece : List Char} (h : piece ∈ splitChars sep chars) :
    piece <:+: chars := by
  obtain ⟨first, rest, heq, hfirst, hrest⟩ := splitChars_eq_cons sep chars
  rw [heq] at h
  rcases List.mem_cons.mp h with rfl | h
  · exact hfirst.isInfix
  · exact hrest piece h

/-- The pieces of two texts with a separator between them. -/
theorem splitChars_append_sep {s : Char} (hs : sep s = true) (before after : List Char) :
    splitChars sep (before ++ s :: after) = splitChars sep before ++ splitChars sep after := by
  induction before with
  | nil => simp only [List.nil_append, splitChars, hs, if_true, List.singleton_append]
  | cons c before ih =>
      obtain ⟨first, rest, heq, -⟩ := splitChars_eq_cons sep before
      rw [List.cons_append, splitChars, splitChars, ih, heq]
      split
      · rfl
      · rfl

/-- What follows the last separator is the last piece, and there is one before it. -/
theorem splitChars_append_cons {s : Char} (hs : sep s = true) {after : List Char}
    (hafter : ∀ c ∈ after, sep c = false) (before : List Char) :
    ∃ piece pieces, splitChars sep (before ++ s :: after) = piece :: (pieces ++ [after]) := by
  obtain ⟨first, rest, heq, -⟩ := splitChars_eq_cons sep before
  refine ⟨first, rest, ?_⟩
  rw [splitChars_append_sep hs, splitChars_of_forall hafter, heq, List.cons_append]

theorem toList_append_blank (first last : String) :
    (first ++ " " ++ last).toList = first.toList ++ ' ' :: last.toList := by
  rw [String.toList_append, String.toList_append, List.append_assoc]
  rfl

theorem dropWhile_of_forall {chars : List Char} (h : ∀ c ∈ chars, p c = false) :
    chars.dropWhile p = chars := by
  rw [List.dropWhile_eq_self_iff]
  intro hpos
  simp [h _ (List.getElem_mem hpos)]

/-- A text with nothing to trim stays as it is. -/
theorem trimChars_of_forall {chars : List Char} (h : ∀ c ∈ chars, p c = false) :
    trimChars p chars = chars := by
  have hreverse : ∀ c ∈ chars.reverse, p c = false := fun c hc => h c (List.mem_reverse.mp hc)
  rw [trimChars, dropWhile_of_forall h, dropWhile_of_forall hreverse, List.reverse_reverse]

/-! ## Occurrences -/

theorem isSome_dropLead?_iff {lead chars : List Char} :
    (dropLead? lead chars).isSome = true ↔ lead <+: chars := by
  induction lead generalizing chars with
  | nil => simp [dropLead?]
  | cons l lead ih =>
      cases chars with
      | nil => simp [dropLead?]
      | cons c chars =>
          rw [List.cons_prefix_cons, ← ih, dropLead?]
          by_cases h : l = c
          · simp [h]
          · simp [h]

/-- A text occurs in another one when it is an infix. -/
theorem hasPart_iff {part chars : List Char} : hasPart part chars = true ↔ part <:+: chars := by
  induction chars with
  | nil => simp [hasPart]
  | cons c chars ih =>
      rw [List.infix_cons_iff, ← ih, ← isSome_dropLead?_iff, hasPart, Bool.or_eq_true]

theorem contains_iff {part text : String} :
    contains part text = true ↔ part.toList <:+: text.toList :=
  hasPart_iff

end Switchboard.Text
