import Mathlib.Algebra.Group.Nat.Defs
import Switchboard.Number.Decimal

/-!
# Decimal digits

What readers of numbers rely on: a number is written with decimal digits alone, the digits give the
number back, and no zero stands in front of another digit unless a width was asked for.

## Main results

* `ofDigitChars_digits`, `isDigit_of_mem_digits`, `length_digits` — numbers of a given width.
* `toDigits_head` — a number without a width has no zero in front.
-/

namespace Switchboard.Decimal

/-- The ten decimal digits. -/
def digitChars : List Char := ['0', '1', '2', '3', '4', '5', '6', '7', '8', '9']

theorem mem_digitChars {c : Char} (h : c.isDigit = true) : c ∈ digitChars := by
  have hrange : '0'.val ≤ c.val ∧ c.val ≤ '9'.val := by
    simpa [Char.isDigit] using h
  have hlow : 48 ≤ c.toNat := UInt32.le_iff_toNat_le.mp hrange.1
  have hhigh : c.toNat ≤ 57 := UInt32.le_iff_toNat_le.mp hrange.2
  have hall : ∀ k < 10, Char.ofNat (48 + k) ∈ digitChars := by decide
  have hc := hall (c.toNat - 48) (by omega)
  rwa [Nat.add_sub_cancel' hlow, Char.ofNat_toNat] at hc

/-- What holds of the ten digits holds of every character that is one. -/
theorem of_isDigit {p : Char → Bool} {c : Char} (hall : digitChars.all p = true)
    (h : c.isDigit = true) : p c = true :=
  List.all_eq_true.mp hall c (mem_digitChars h)

/-! ## Numbers as they are -/

theorem toList_toString (n : Nat) : (toString n).toList = Nat.toDigits 10 n := by
  rw [Nat.toString_eq_ofList_toDigits, String.toList_ofList]

theorem isDigit_of_mem_toDigits {n : Nat} {c : Char} (h : c ∈ Nat.toDigits 10 n) :
    c.isDigit = true :=
  Nat.isDigit_of_mem_toDigits (by decide) (by decide) h

/-- Numbers with the same digits are the same. -/
theorem toString_inj {m n : Nat} : toString m = toString n ↔ m = n := by
  refine ⟨fun h => ?_, congrArg toString⟩
  have hdigits : Nat.toDigits 10 m = Nat.toDigits 10 n := by
    rw [← toList_toString, ← toList_toString, h]
  rw [← Nat.ofDigitChars_ten_toDigits (n := m), hdigits, Nat.ofDigitChars_ten_toDigits]

/-- A positive number does not start with a zero. -/
theorem toDigits_head_of_pos {n : Nat} (h : 0 < n) :
    ∃ c rest, Nat.toDigits 10 n = c :: rest ∧ c ≠ '0' := by
  induction n using Nat.strongRecOn with
  | ind n ih =>
      by_cases hlt : n < 10
      · have hne : ∀ d < 10, 0 < d → Nat.digitChar d ≠ '0' := by decide
        exact ⟨_, [], Nat.toDigits_of_lt_base hlt, hne n hlt h⟩
      · obtain ⟨c, rest, hdigits, hc⟩ := ih (n / 10) (by omega) (by omega)
        refine ⟨c, rest ++ [Nat.digitChar (n % 10)], ?_, hc⟩
        rw [Nat.toDigits_of_base_le (by decide) (by omega), hdigits]
        rfl

/-- A number is a single zero, or does not start with one. -/
theorem toDigits_head (n : Nat) :
    Nat.toDigits 10 n = ['0'] ∨ ∃ c rest, Nat.toDigits 10 n = c :: rest ∧ c ≠ '0' := by
  cases Nat.eq_zero_or_pos n with
  | inl h =>
      subst h
      exact .inl (Nat.toDigits_zero 10)
  | inr h => exact .inr (toDigits_head_of_pos h)

/-! ## Numbers of a given width -/

section Width

variable {width n : Nat}

theorem toList_digits (width n : Nat) :
    (digits width n).toList =
      List.replicate (width - (Nat.toDigits 10 n).length) '0' ++ Nat.toDigits 10 n := by
  have hlength : (toString n).length = (Nat.toDigits 10 n).length := by
    rw [← String.length_toList, toList_toString]
  rw [digits, String.toList_append, String.toList_ofList, toList_toString, hlength]

theorem isDigit_of_mem_digits {c : Char} (h : c ∈ (digits width n).toList) : c.isDigit = true := by
  rw [toList_digits, List.mem_append] at h
  cases h with
  | inl h =>
      rw [List.eq_of_mem_replicate h]
      rfl
  | inr h => exact isDigit_of_mem_toDigits h

theorem length_digits (hwidth : 0 < width) (hn : n < 10 ^ width) :
    (digits width n).toList.length = width := by
  have hle := (Nat.length_toDigits_le_iff (by decide) hwidth).mpr hn
  rw [toList_digits, List.length_append, List.length_replicate]
  omega

theorem digits_ne_nil : (digits width n).toList ≠ [] := by
  rw [toList_digits]
  exact List.append_ne_nil_of_right_ne_nil _ Nat.toDigits_ne_nil

theorem ofDigitChars_digits (width n : Nat) :
    Nat.ofDigitChars 10 (digits width n).toList 0 = n := by
  rw [toList_digits, Nat.ofDigitChars_append, Nat.ofDigitChars_replicate_zero, Nat.mul_zero,
    Nat.ofDigitChars_ten_toDigits]

end Width

end Switchboard.Decimal
