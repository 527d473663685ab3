import Switchboard.Proofs.Calendar
import Switchboard.Proofs.Number.Digits

/-!
# Timestamps survive their texts

The exact text of a timestamp is read back as the same timestamp, in every year that a timestamp may
have and to the nanosecond, leap seconds included.

## Main results

* `date?_dateText`, `clock?_clockText` — the two halves of a text.
* `ofText?_toText` — the text of a timestamp is read as the timestamp.
-/

namespace Switchboard.Timestamp

open Switchboard.Decimal (digits)

/-- A point in time: its year is in range, and only the last second of a minute is a leap second. -/
def isValid (t : Timestamp) : Bool :=
  t.inRange && (t.nanos < 1000000000 || (t.nanos < 2000000000 && t.seconds % 60 = 59))

/-! ## Digits -/

section Digits

variable {ds rest : List Char} {limit width n : Nat}

/-- No digit stands in front. -/
def NoDigit (chars : List Char) : Prop := ∀ c ∈ chars.head?, c.isDigit = false

theorem noDigit_cons {c : Char} (h : c.isDigit = false) : NoDigit (c :: rest) := by
  intro d hd
  cases hd
  exact h

theorem digitsValue_eq (ds : List Char) : digitsValue ds = Nat.ofDigitChars 10 ds 0 := by
  have hstep : (fun (n : Nat) (c : Char) => n * 10 + (c.toNat - 48)) =
      fun n c => 10 * n + (c.toNat - '0'.toNat) := by
    funext n c
    rw [Nat.mul_comm]
    rfl
  rw [digitsValue, hstep, Nat.ofDigitChars_eq_foldl]

theorem takeDigits_append (hds : ∀ c ∈ ds, c.isDigit = true) (hlimit : ds.length ≤ limit)
    (hrest : ds.length = limit ∨ NoDigit rest) : takeDigits limit (ds ++ rest) = (ds, rest) := by
  induction ds generalizing limit with
  | nil =>
      cases limit with
      | zero => cases rest <;> rfl
      | succ limit =>
          cases rest with
          | nil => rfl
          | cons c rest =>
              have hc : c.isDigit = false := (hrest.resolve_left nofun) c rfl
              rw [List.nil_append, takeDigits, hc]
              rfl
  | cons c ds ih =>
      cases limit with
      | zero => exact absurd hlimit (Nat.not_succ_le_zero _)
      | succ limit =>
          have hih := ih (fun d hd => hds d (List.mem_cons_of_mem _ hd))
            (Nat.le_of_succ_le_succ hlimit) (hrest.imp_left Nat.succ.inj)
          rw [List.cons_append, takeDigits, hds c List.mem_cons_self, hih]
          rfl

theorem isBlank_of_isDigit {c : Char} (h : c.isDigit = true) : Text.isBlank c = false := by
  simpa using Decimal.of_isDigit (p := fun c => !Text.isBlank c) (by decide) h

theorem skip_cons {c : Char} (h : Text.isBlank c = false) : skip (c :: rest) = c :: rest := by
  rw [skip, List.dropWhile_cons, h]
  rfl

/-- White space is not part of a number. -/
theorem skip_digits : skip ((digits width n).toList ++ rest) = (digits width n).toList ++ rest := by
  have hne : (digits width n).toList ≠ [] := Decimal.digits_ne_nil
  obtain ⟨c, ds, hdigits⟩ := List.exists_cons_of_ne_nil hne
  have hc : c.isDigit = true := Decimal.isDigit_of_mem_digits (hdigits ▸ List.mem_cons_self)
  rw [hdigits, List.cons_append, skip_cons (isBlank_of_isDigit hc)]

theorem digitsValue_digits (width n : Nat) : digitsValue (digits width n).toList = n := by
  rw [digitsValue_eq, Decimal.ofDigitChars_digits]

theorem takeDigits_digits (hlimit : (digits width n).toList.length ≤ limit)
    (hrest : (digits width n).toList.length = limit ∨ NoDigit rest) :
    takeDigits limit ((digits width n).toList ++ rest) = ((digits width n).toList, rest) :=
  takeDigits_append (fun _ => Decimal.isDigit_of_mem_digits) hlimit hrest

theorem number?_digits (hwidth : 0 < width) (hn : n < 10 ^ width) :
    number? width ((digits width n).toList ++ rest) = some (n, rest) := by
  have hlength := Decimal.length_digits hwidth hn
  rw [number?, skip_digits, takeDigits_digits (Nat.le_of_eq hlength) (.inl hlength)]
  have hvalue := digitsValue_digits width n
  cases hdigits : (digits width n).toList with
  | nil => exact absurd hdigits Decimal.digits_ne_nil
  | cons c ds =>
      rw [hdigits] at hvalue
      show some (digitsValue (c :: ds), rest) = _
      rw [hvalue]

theorem mark?_cons {mark : Char} (h : Text.isBlank mark = false) :
    mark? mark (mark :: rest) = some rest := by
  rw [mark?, skip_cons h]
  exact if_pos rfl

end Digits

/-! ## The date -/

section Date

variable {year : Int} {rest : List Char}

/-- Outside of four digits the sign says where the year ends: at the next dash. -/
theorem year?_signed {value : Int} (sign : Char) (n : Nat) (hsign : sign = '-' ∨ sign = '+')
    (hvalue : value = if sign = '-' then -(n : Int) else n) :
    year? (sign :: (digits 4 n).toList ++ '-' :: rest) = some (value, '-' :: rest) := by
  have hle : (digits 4 n).toList.length ≤ ((digits 4 n).toList ++ '-' :: rest).length := by
    rw [List.length_append]
    exact Nat.le_add_right _ _
  have htake := takeDigits_digits hle (.inr (show NoDigit ('-' :: rest) from noDigit_cons rfl))
  have hdigits := digitsValue_digits 4 n
  cases hchars : (digits 4 n).toList with
  | nil => exact absurd hchars Decimal.digits_ne_nil
  | cons c ds =>
      rw [hchars] at htake hdigits
      obtain rfl | rfl := hsign
      · rw [year?, List.cons_append, skip_cons (by decide)]
        simp only [htake]
        rw [hdigits, hvalue]
        rfl
      · rw [year?, List.cons_append, skip_cons (by decide)]
        simp only [htake]
        rw [hdigits, hvalue]
        rfl

/-- Four digits are a year. -/
theorem year?_plain {n : Nat} (hn : n < 10 ^ 4) :
    year? ((digits 4 n).toList ++ rest) = some ((n : Int), rest) := by
  have hlength := Decimal.length_digits (by decide) hn
  have htake : takeDigits 4 ((digits 4 n).toList ++ rest) = ((digits 4 n).toList, rest) :=
    takeDigits_digits (Nat.le_of_eq hlength) (.inl hlength)
  have hvalue := digitsValue_digits 4 n
  rw [year?, skip_digits]
  cases hchars : (digits 4 n).toList with
  | nil => exact absurd hchars Decimal.digits_ne_nil
  | cons c ds =>
      have hc : c.isDigit = true := Decimal.isDigit_of_mem_digits (hchars ▸ List.mem_cons_self)
      have hunsigned : c ≠ '-' ∧ c ≠ '+' := by
        simpa using Decimal.of_isDigit (p := fun c => c ≠ '-' && c ≠ '+') (by decide) hc
      rw [hchars] at htake hvalue
      rw [List.cons_append] at htake ⊢
      split
      · rename_i heq
        exact absurd (List.cons.inj heq).1 hunsigned.1
      · rename_i heq
        exact absurd (List.cons.inj heq).1 hunsigned.2
      · simp only [htake]
        rw [hvalue]

theorem year?_yearText (year : Int) (rest : List Char) :
    year? ((yearText year).toList ++ '-' :: rest) = some (year, '-' :: rest) := by
  unfold yearText
  split
  · rename_i hrange
    have hwidth : year.toNat < 10 ^ 4 := by
      show year.toNat < 10000
      omega
    rw [year?_plain hwidth, Int.toNat_of_nonneg hrange.1]
  · rw [String.toList_append]
    by_cases hneg : year < 0
    · rw [if_pos hneg]
      refine year?_signed '-' year.natAbs (.inl rfl) ?_
      rw [if_pos rfl]
      omega
    · rw [if_neg hneg]
      refine year?_signed '+' year.natAbs (.inr rfl) ?_
      rw [if_neg (by decide)]
      omega

/-- A date that the calendar has is read back. -/
theorem date?_dateText {t : Timestamp} (hproper : t.date.IsProper)
    (hyear : yearRange.1 ≤ t.date.year ∧ t.date.year ≤ yearRange.2) (rest : List Char) :
    date? (t.dateText.toList ++ rest) = some (t.date, rest) := by
  obtain ⟨hmonth, hday⟩ := hproper
  have hlength : monthLength t.date.year t.date.month ≤ 31 := by
    unfold monthLength
    (repeat' split) <;> decide
  have htext : t.dateText.toList ++ rest =
      (yearText t.date.year).toList ++ '-' :: ((digits 2 t.date.month).toList ++
        '-' :: ((digits 2 t.date.day).toList ++ rest)) := by
    simp [dateText, String.toList_append]
  have hdate : (yearRange.1 ≤ t.date.year ∧ t.date.year ≤ yearRange.2 ∧ 1 ≤ t.date.month ∧
      t.date.month ≤ 12 ∧ 1 ≤ t.date.day ∧
      t.date.day ≤ monthLength t.date.year t.date.month) :=
    ⟨hyear.1, hyear.2, hmonth.1, hmonth.2, hday.1, hday.2⟩
  have hdash : ∀ rest, mark? '-' ('-' :: rest) = some rest := fun _ => mark?_cons (by decide)
  have htwoDigits : ∀ n < 100, ∀ rest,
      number? 2 ((digits 2 n).toList ++ rest) = some (n, rest) :=
    fun n hn _ => number?_digits (by decide) hn
  simp only [htext, date?, year?_yearText, hdash, htwoDigits t.date.month (by omega),
    htwoDigits t.date.day (by omega), Option.bind_eq_bind, Option.bind_some, if_pos hdate]

end Date

/-! ## The time of day -/

section Clock

variable {t : Timestamp}

theorem fraction?_digits {width n : Nat} (hpos : 0 < width) (hwidth : width ≤ 9)
    (hn : n < 10 ^ width) :
    fraction? ('.' :: ((digits width n).toList ++ ['Z'])) =
      some (n * Nat.pow 10 (9 - width), ['Z']) := by
  have hlength := Decimal.length_digits hpos hn
  have hle : (digits width n).toList.length ≤ 9 := by omega
  have htake := takeDigits_digits hle (.inr (show NoDigit ['Z'] from noDigit_cons rfl))
  have hvalue := digitsValue_digits width n
  rw [fraction?, htake]
  cases hchars : (digits width n).toList with
  | nil => exact absurd hchars Decimal.digits_ne_nil
  | cons c ds =>
      rw [hchars] at hvalue hlength
      show some (digitsValue (c :: ds) * Nat.pow 10 (9 - (c :: ds).length), ['Z']) = _
      rw [hvalue, hlength]

/-- The fraction of a second is exact. -/
theorem fraction?_fractionText (t : Timestamp) :
    fraction? (t.fractionText.toList ++ ['Z']) = some (t.nanos % 1000000000, ['Z']) := by
  have hlimit : t.nanos % 1000000000 < 1000000000 := Nat.mod_lt _ (by decide)
  have hpoint : ∀ width n, ("." ++ digits width n).toList ++ ['Z'] =
      '.' :: ((digits width n).toList ++ ['Z']) := by
    intro width n
    rw [String.toList_append]
    rfl
  simp only [fractionText]
  generalize t.nanos % 1000000000 = n at hlimit
  split
  · rename_i hzero
    rw [hzero]
    rfl
  split
  · rename_i hmilli
    rw [hpoint, fraction?_digits (by decide) (by decide) (show n / 1000000 < 1000 by omega)]
    show some (n / 1000000 * 1000000, _) = _
    rw [Nat.div_mul_cancel (Nat.dvd_of_mod_eq_zero hmilli)]
  split
  · rename_i hmicro
    rw [hpoint, fraction?_digits (by decide) (by decide) (show n / 1000 < 1000000 by omega)]
    show some (n / 1000 * 1000, _) = _
    rw [Nat.div_mul_cancel (Nat.dvd_of_mod_eq_zero hmicro)]
  · rw [hpoint, fraction?_digits (by decide) (by decide) (show n < 1000000000 from hlimit)]
    show some (n * 1, _) = _
    rw [Nat.mul_one]

/-- The time of day is read back; the sixtieth second of a minute is a leap second. -/
theorem clock?_clockText
    (hnanos : t.nanos < 1000000000 ∨ t.nanos < 2000000000 ∧ t.seconds % 60 = 59) :
    clock? (t.clockText.toList ++ (t.fractionText.toList ++ ['Z'])) =
      some ((t.seconds % 86400).toNat, t.nanos, ['Z']) := by
  have hsecond : (t.seconds % 86400).toNat < 86400 := by omega
  have hleap : t.seconds % 60 = 59 → (t.seconds % 86400).toNat % 60 = 59 := by omega
  have htext : t.clockText.toList ++ (t.fractionText.toList ++ ['Z']) =
      (digits 2 ((t.seconds % 86400).toNat / 3600)).toList ++
        ':' :: ((digits 2 ((t.seconds % 86400).toNat / 60 % 60)).toList ++
          ':' :: ((digits 2 ((t.seconds % 86400).toNat % 60 + t.nanos / 1000000000)).toList ++
            (t.fractionText.toList ++ ['Z']))) := by
    simp [clockText, clock, String.toList_append]
  generalize (t.seconds % 86400).toNat = s at *
  have hcolon : ∀ rest, mark? ':' (':' :: rest) = some rest := fun _ => mark?_cons (by decide)
  have htwoDigits : ∀ n < 100, ∀ rest,
      number? 2 ((digits 2 n).toList ++ rest) = some (n, rest) :=
    fun n hn _ => number?_digits (by decide) hn
  simp only [htext, clock?, hcolon, htwoDigits (s / 3600) (by omega),
    htwoDigits (s / 60 % 60) (by omega), htwoDigits (s % 60 + t.nanos / 1000000000) (by omega),
    fraction?_fractionText, Option.bind_eq_bind, Option.bind_some]
  by_cases hplain : t.nanos < 1000000000
  · have hzero : t.nanos / 1000000000 = 0 := by omega
    have hsame : t.nanos % 1000000000 = t.nanos := Nat.mod_eq_of_lt hplain
    have hclock : s / 3600 * 3600 + s / 60 % 60 * 60 + (s % 60 + 0) = s := by omega
    rw [hzero, hsame, hclock, if_pos (by omega)]
  · obtain ⟨hlimit, hlast⟩ := hnanos.resolve_left hplain
    have hone : t.nanos / 1000000000 = 1 := by omega
    have hback : t.nanos % 1000000000 + 1000000000 = t.nanos := by omega
    have hclock : s / 3600 * 3600 + s / 60 % 60 * 60 + 59 = s := by
      have := hleap hlast
      omega
    have hsixty : s % 60 + 1 = 60 := by
      have := hleap hlast
      omega
    rw [hone, hback, hclock, hsixty, if_neg (by omega), if_pos (by omega)]

end Clock

/-! ## The whole text -/

/-- The text of a point in time is read as that point in time. -/
theorem ofText?_toText {t : Timestamp} (h : t.isValid = true) : ofText? t.toText = some t := by
  simp only [isValid, Bool.and_eq_true, Bool.or_eq_true, decide_eq_true_eq] at h
  obtain ⟨hrange, hnanos⟩ := h
  have hyears : yearRange.1 ≤ t.date.year ∧ t.date.year ≤ yearRange.2 := by
    simp only [inRange, Bool.and_eq_true, decide_eq_true_eq] at hrange
    exact Date.ofDays_year (by omega) (by omega)
  have htext : t.toText.toList = t.dateText.toList ++
      'T' :: (t.clockText.toList ++ (t.fractionText.toList ++ ['Z'])) := by
    simp [toText, String.toList_append]
  have hseconds : t.date.toDays * 86400 + ((t.seconds % 86400).toNat : Int) - 0 = t.seconds := by
    rw [date, Date.toDays_ofDays]
    omega
  have hoffset : offset? (skip ['Z']) = some (0, []) := by decide
  simp only [ofText?, htext, date?_dateText (Date.ofDays_isProper _) hyears, Option.bind_eq_bind,
    Option.bind_some, clock?_clockText hnanos]
  rw [if_pos (.inl trivial), hoffset]
  simp only [Option.bind_some, hseconds]
  exact if_pos ⟨rfl, by decide, by decide, hrange⟩

theorem read_toNode {t : Timestamp} (h : t.isValid = true) : read t.toNode = .ok t := by
  simp only [toNode, read, ofText?_toText h]

end Switchboard.Timestamp
