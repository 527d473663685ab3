import Mathlib.Data.Char
import Switchboard.Text.Basic
import Switchboard.Text.Lowercase

/-!
# Lower case and the words of a text

The lower-case form of a character depends on its neighbours in one case only: a capital sigma looks
back and ahead for the word it stands in. A blank ends this search on either side. So a text of
words with blanks between them has the lower-case forms of its words, and no word gets a blank by
it.

## Main results

* `lowercase_blank` — the lower-case form of two texts with a blank between them.
* `blank_not_mem_lowercase` — lower case makes no blanks.
-/

namespace Switchboard.Text

/-! ## Blanks end the search -/

/-- A blank is not passed over when a cased character is looked for, and is not cased. -/
theorem startsCased_append_blank (before after : List Char) :
    startsCased (before ++ ' ' :: after) = startsCased before := by
  induction before with
  | nil =>
      have hignored : caseIgnorableClass.contains ' '.toNat = false := by decide +kernel
      have hcased : casedClass.contains ' '.toNat = false := by decide +kernel
      simp only [List.nil_append, startsCased, hignored, hcased, Bool.false_eq_true, if_false]
  | cons c before ih => rw [List.cons_append, startsCased, startsCased, ih]

/-- What stands before a blank has no influence on what comes after it. -/
theorem lowerAfter_blank (before after chars : List Char) :
    lowerAfter (before ++ ' ' :: after) chars = lowerAfter before chars := by
  induction chars generalizing before with
  | nil => rfl
  | cons c chars ih =>
      rw [lowerAfter, lowerAfter, startsCased_append_blank, ← List.cons_append, ih]

/-- Nor has what comes after it on what stands before. -/
theorem lowerAfter_append_blank (before chars after : List Char) :
    lowerAfter before (chars ++ ' ' :: after) =
      lowerAfter before chars ++ ' ' :: lowerAfter [] after := by
  induction chars generalizing before with
  | nil =>
      show ' ' :: lowerAfter (' ' :: before) after = ' ' :: lowerAfter [] after
      rw [← lowerAfter_blank [] before after]
      rfl
  | cons c chars ih =>
      rw [List.cons_append, lowerAfter, lowerAfter, startsCased_append_blank, ih]
      exact (List.append_assoc _ _ _).symm

/-- Two texts with a blank between them have the lower-case forms of both, and the blank. -/
theorem lowercase_blank (first second : String) :
    lowercase (first ++ " " ++ second) = lowercase first ++ " " ++ lowercase second := by
  apply String.toList_injective
  simp only [lowercase, String.toList_append, String.toList_ofList]
  show lowerAfter [] (first.toList ++ [' '] ++ second.toList) = _ ++ [' '] ++ _
  rw [List.append_assoc, List.append_assoc]
  exact lowerAfter_append_blank [] first.toList second.toList

/-! ## No new blanks -/

/-- A code point beyond the blank is another character. -/
theorem ofNat_ne_blank {n : Nat} (h : 32 < n) : Char.ofNat n ≠ ' ' := by
  intro hblank
  have hnat : (Char.ofNat n).toNat = 32 := congrArg Char.toNat hblank
  by_cases hvalid : n.isValidChar
  · have hvalue : (Char.ofNat n).toNat = n := congrArg Char.toNat (dif_pos hvalid)
    omega
  · have hvalue : (Char.ofNat n).toNat = 0 := congrArg Char.toNat (dif_neg hvalid)
    omega

/-- The only character whose lower-case form has a blank is the blank. -/
theorem blank_not_mem_lowerChar {c : Char} (h : c ≠ ' ') : ' ' ∉ lowerChar c := by
  unfold lowerChar
  split
  · rename_i hsmall
    have hlower : ∀ n < 128, (Char.ofNat n).toLower = ' ' → Char.ofNat n = ' ' := by decide
    rw [List.mem_singleton]
    intro hblank
    refine h ?_
    have := hlower c.toNat hsmall
    rw [Char.ofNat_toNat] at this
    exact this hblank.symm
  · split
    · decide
    · split
      · rename_i point hrun
        -- The images of all capitals lie beyond the blank.
        have himages : ∀ run ∈ caseRuns, 32 < run.image := by decide +kernel
        obtain ⟨run, hmem, hpoint⟩ := List.exists_of_findSome?_eq_some hrun
        have himage := himages run hmem
        have hlarge : 32 < point := by
          unfold CaseRun.lower? at hpoint
          split at hpoint
          · injection hpoint with hpoint
            omega
          · cases hpoint
        rw [List.mem_singleton]
        exact (ofNat_ne_blank hlarge).symm
      · rw [List.mem_singleton]
        exact fun hblank => h hblank.symm

theorem blank_not_mem_lowerAfter {before chars : List Char} (h : ' ' ∉ chars) :
    ' ' ∉ lowerAfter before chars := by
  induction chars generalizing before with
  | nil => exact List.not_mem_nil
  | cons c chars ih =>
      obtain ⟨hc, hrest⟩ := not_or.mp (mt List.mem_cons.mpr h)
      rw [lowerAfter, List.mem_append, not_or]
      refine ⟨?_, ih hrest⟩
      split
      · split <;> decide
      · exact blank_not_mem_lowerChar (Ne.symm hc)

/-- A word has no blank in lower case either. -/
theorem blank_not_mem_lowercase {text : String} (h : ' ' ∉ text.toList) :
    ' ' ∉ (lowercase text).toList := by
  rw [lowercase, String.toList_ofList]
  exact blank_not_mem_lowerAfter h

end Switchboard.Text
