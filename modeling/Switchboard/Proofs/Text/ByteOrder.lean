import Mathlib.Data.String.Basic
import Switchboard.Proofs.Text.Utf8

/-!
# The order of texts is that of their bytes

Texts are compared character by character. Comparing their bytes comes to the same: the first byte
of a character tells how many there are, and of two characters the one with more bytes is the
greater one; among those with equally many, the bytes hold the digits of the number, the highest
ones first.

## Main results

* `charBytes_lt` — the bytes of two characters decide, whatever follows them.
* `encode_lt_encode` — texts are in the order of their bytes.
-/

namespace Switchboard.Text.Utf8

/-- Bytes are compared by their numbers, and then by what follows. -/
theorem ofNat_cons_lt {m n : Nat} {xs ys : Bytes} (hm : m < 256) (hn : n < 256) (hle : m ≤ n)
    (hrest : m = n → xs < ys) : UInt8.ofNat m :: xs < UInt8.ofNat n :: ys := by
  rw [List.cons_lt_cons_iff]
  obtain hlt | rfl := Nat.lt_or_eq_of_le hle
  · left
    rwa [UInt8.lt_iff_toNat_lt, toNat_ofNat_of_lt hm, toNat_ofNat_of_lt hn]
  · exact .inr ⟨rfl, hrest rfl⟩

/-- A smaller first byte decides. -/
theorem ofNat_cons_lt_of_lt {m n : Nat} (xs ys : Bytes) (hn : n < 256) (hlt : m < n) :
    UInt8.ofNat m :: xs < UInt8.ofNat n :: ys :=
  ofNat_cons_lt (Nat.lt_trans hlt hn) hn (Nat.le_of_lt hlt) fun h => absurd h (Nat.ne_of_lt hlt)

section Digits

variable {v w : Nat} (h : v < w) (xs ys : Bytes)

include h

/-- Of numbers with as many digits, the highest digit in which they differ decides. -/
theorem lastDigit_lt (hdigits : v / 64 = w / 64) :
    UInt8.ofNat (v % 64 + 0x80) :: xs < UInt8.ofNat (w % 64 + 0x80) :: ys :=
  ofNat_cons_lt_of_lt _ _ (by omega) (by omega)

theorem lastDigits_lt (hdigits : v / 4096 = w / 4096) :
    UInt8.ofNat (v / 64 % 64 + 0x80) :: UInt8.ofNat (v % 64 + 0x80) :: xs <
      UInt8.ofNat (w / 64 % 64 + 0x80) :: UInt8.ofNat (w % 64 + 0x80) :: ys :=
  ofNat_cons_lt (by omega) (by omega) (by omega) fun _ => lastDigit_lt h xs ys (by omega)

theorem laterDigits_lt (hdigits : v / 262144 = w / 262144) :
    UInt8.ofNat (v / 4096 % 64 + 0x80) :: UInt8.ofNat (v / 64 % 64 + 0x80) ::
        UInt8.ofNat (v % 64 + 0x80) :: xs <
      UInt8.ofNat (w / 4096 % 64 + 0x80) :: UInt8.ofNat (w / 64 % 64 + 0x80) ::
        UInt8.ofNat (w % 64 + 0x80) :: ys :=
  ofNat_cons_lt (by omega) (by omega) (by omega) fun _ => lastDigits_lt h xs ys (by omega)

end Digits

/-- The bytes of a smaller character come first, whatever follows. -/
theorem charBytes_lt {c d : Char} (h : c < d) (xs ys : Bytes) :
    charBytes c ++ xs < charBytes d ++ ys := by
  have hlt : c.val.toNat < d.val.toNat := UInt32.lt_iff_toNat_lt.mp h
  have hd : d.val.toNat < 0x110000 := by
    have := d.valid
    omega
  simp only [charBytes, String.utf8EncodeChar]
  generalize c.val.toNat = v at *
  generalize d.val.toNat = w at *
  -- A character that takes more bytes has the greater first byte.
  by_cases hv₁ : v ≤ 0x7f
  · rw [if_pos hv₁]
    split
    · exact ofNat_cons_lt_of_lt _ _ (by omega) (by omega)
    split
    · exact ofNat_cons_lt_of_lt _ _ (by omega) (by omega)
    split
    · exact ofNat_cons_lt_of_lt _ _ (by omega) (by omega)
    · exact ofNat_cons_lt_of_lt _ _ (by omega) (by omega)
  rw [if_neg hv₁, if_neg (show ¬w ≤ 0x7f by omega)]
  by_cases hv₂ : v ≤ 0x7ff
  · rw [if_pos hv₂]
    split
    · exact ofNat_cons_lt (by omega) (by omega) (by omega) fun _ => lastDigit_lt hlt _ _ (by omega)
    split
    · exact ofNat_cons_lt_of_lt _ _ (by omega) (by omega)
    · exact ofNat_cons_lt_of_lt _ _ (by omega) (by omega)
  rw [if_neg hv₂, if_neg (show ¬w ≤ 0x7ff by omega)]
  by_cases hv₃ : v ≤ 0xffff
  · rw [if_pos hv₃]
    split
    · exact ofNat_cons_lt (by omega) (by omega) (by omega) fun _ => lastDigits_lt hlt _ _ (by omega)
    · exact ofNat_cons_lt_of_lt _ _ (by omega) (by omega)
  rw [if_neg hv₃, if_neg (show ¬w ≤ 0xffff by omega)]
  exact ofNat_cons_lt (by omega) (by omega) (by omega) fun _ => laterDigits_lt hlt _ _ (by omega)

theorem encode_lt_of_lt {a b : String} (h : a < b) : encode a < encode b := by
  rw [encode_eq, encode_eq]
  have hchars : a.toList < b.toList := String.lt_iff_toList_lt.mp h
  clear h
  generalize a.toList = cs at *
  generalize b.toList = ds at *
  induction cs generalizing ds with
  | nil =>
      cases ds with
      | nil => exact absurd hchars (List.lt_irrefl _)
      | cons d ds =>
          obtain ⟨first, later, hbytes, -⟩ := front_charBytes [] d
          rw [List.flatMap_cons, hbytes]
          exact List.nil_lt_cons _ _
  | cons c cs ih =>
      cases ds with
      | nil => exact absurd hchars (List.not_lt_nil _)
      | cons d ds =>
          rw [List.flatMap_cons, List.flatMap_cons]
          obtain hhead | ⟨rfl, htail⟩ := List.cons_lt_cons_iff.mp hchars
          · exact charBytes_lt hhead _ _
          · exact List.append_left_lt (ih ds htail)

/-- Texts are in the order of their bytes. -/
theorem encode_lt_encode {a b : String} : encode a < encode b ↔ a < b := by
  refine ⟨fun h => ?_, encode_lt_of_lt⟩
  obtain hlt | rfl | hgt := lt_trichotomy a b
  · exact hlt
  · exact absurd h (List.lt_irrefl _)
  · exact absurd h (List.lt_asymm (encode_lt_of_lt hgt))

end Switchboard.Text.Utf8
