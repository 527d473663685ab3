import Switchboard.Number.Word

/-!
# Decimal texts of binary floating-point numbers

A finite double is exactly `mantissa · 2 ^ exponent`. Its shortest decimal is the one with the
fewest significant digits among those that lie in the interval of reals rounding to it; a text
with a fixed number of places rounds the exact value, and a tie goes to the even neighbour.
-/

namespace Switchboard.Decimal

/-- A finite double as sign, mantissa and binary exponent: `± mantissa · 2 ^ exponent`. -/
structure Binary where
  negative : Bool
  mantissa : Nat
  exponent : Int

/-- The bit of a mantissa that is not written, `2 ^ 52`. -/
def hiddenBit : Nat := 0x10000000000000

/-- The parts of a double, `none` for an infinity or a value that is not a number. -/
def binary? (x : Float) : Option Binary :=
  let bits := x.toBits.toNat
  let negative := bits / Word.half64 == 1
  let biased : Nat := bits / hiddenBit % 2048
  let fraction : Nat := bits % hiddenBit
  if biased = 2047 then none
  else if biased = 0 then some ⟨negative, fraction, -1074⟩
  else some ⟨negative, fraction + hiddenBit, (biased : Int) - 1075⟩

/-- The quotient rounded to the nearest whole number, a tie going to the even one. -/
def roundDiv (num den : Nat) : Nat :=
  let q := num / den
  let r := num % den
  if 2 * r < den then q
  else if den < 2 * r then q + 1
  else if q % 2 = 0 then q else q + 1

/-- The nearest whole number of units of `10 ^ (-places)`, a tie going to the even one. -/
def scaled (b : Binary) (places : Nat) : Nat :=
  if 0 ≤ b.exponent then b.mantissa * Nat.pow 2 b.exponent.toNat * Nat.pow 10 places
  else roundDiv (b.mantissa * Nat.pow 10 places) (Nat.pow 2 (-b.exponent).toNat)

/-- The decimal digits of a number, at least `width` of them. -/
def digits (width n : Nat) : String :=
  let text := toString n
  String.ofList (List.replicate (width - text.length) '0') ++ text

/-- The text of a double with a fixed number of places after the point. -/
def fixed (places : Nat) (x : Float) : String :=
  match binary? x with
  | none => if x.isNaN then "NaN" else if x < 0 then "-inf" else "inf"
  | some b =>
      let units := scaled b places
      let sign := if b.negative then "-" else ""
      let whole := toString (units / Nat.pow 10 places)
      if places = 0 then sign ++ whole
      else sign ++ whole ++ "." ++ digits places (units % Nat.pow 10 places)

/-- A decimal `digits · 10 ^ exponent`. -/
structure Scaled where
  digits : Nat
  exponent : Int

/-- The first of the two neighbours of the value on the grid `10 ^ place` that rounds back to it,
the nearer one first. The value is `4 · mantissa` quarter units of `2 ^ exponent / 4`; `low` and
`high` quarter units reach to the ends of its interval. -/
def onGrid? (b : Binary) (low high : Nat) (closed : Bool) (place : Int) : Option Scaled :=
  -- Both sides are brought to whole numbers: quarter units times `scale`, grid steps times `step`.
  let shift : Int := b.exponent - 2
  let scale := (if 0 ≤ shift then Nat.pow 2 shift.toNat else 1) *
    (if place < 0 then Nat.pow 10 (-place).toNat else 1)
  let step := (if shift < 0 then Nat.pow 2 (-shift).toNat else 1) *
    (if 0 ≤ place then Nat.pow 10 place.toNat else 1)
  let value := 4 * b.mantissa * scale
  let least := value - low * scale
  let most := value + high * scale
  let inside (k : Nat) : Bool :=
    let point := k * step
    if closed then least ≤ point && point ≤ most else least < point && point < most
  let below := value / step
  let above := below + 1
  let belowNearer : Bool := value - below * step ≤ above * step - value
  let first := if belowNearer then below else above
  let second := if belowNearer then above else below
  if inside first && first != 0 then some ⟨first, place⟩
  else if inside second && second != 0 then some ⟨second, place⟩
  else none

/-- The shortest decimal of a non-zero value, looking at finer and finer grids. -/
def shortestFrom (b : Binary) (low high : Nat) (closed : Bool) : Nat → Int → Scaled
  | 0, place => ⟨0, place⟩
  | fuel + 1, place =>
      match onGrid? b low high closed place with
      | some s => s
      | none => shortestFrom b low high closed fuel (place - 1)

/-- The shortest decimal that reads back as a non-zero finite double. -/
def shortest (b : Binary) : Scaled :=
  -- The gap below a power of two is half as wide, except at the bottom of the range.
  let narrow := b.mantissa = hiddenBit ∧ b.exponent > -1074
  let low := if narrow then 1 else 2
  shortestFrom b low 2 (b.mantissa % 2 = 0) 700 330

/-- Drops the zeros at the end of the digits. -/
def Scaled.strip (s : Scaled) : Scaled :=
  go 20 s
where
  /-- Drops at most the given number of zeros. -/
  go : Nat → Scaled → Scaled
    | 0, s => s
    | fuel + 1, s =>
        if s.digits % 10 = 0 ∧ s.digits ≠ 0 then go fuel ⟨s.digits / 10, s.exponent + 1⟩ else s

/-- The text of a finite double in data files: the shortest digits, positional while the point
falls within 16 digits or at most five places before them, otherwise with an exponent. Whole
numbers keep one zero after the point. -/
def text (x : Float) : String :=
  match binary? x with
  | none => "null"
  | some b =>
      let sign := if b.negative then "-" else ""
      if b.mantissa = 0 then sign ++ "0.0"
      else
        let s := (shortest b).strip
        let ds := toString s.digits
        let point : Int := ds.length + s.exponent
        if 0 ≤ s.exponent ∧ point ≤ 16 then
          sign ++ ds ++ String.ofList (List.replicate s.exponent.toNat '0') ++ ".0"
        else if 0 < point ∧ point ≤ 16 then
          sign ++ String.ofList (ds.toList.take point.toNat) ++ "." ++
            String.ofList (ds.toList.drop point.toNat)
        else if -5 < point ∧ point ≤ 0 then
          sign ++ "0." ++ String.ofList (List.replicate (-point).toNat '0') ++ ds
        else
          let lead := String.ofList (ds.toList.take 1)
          let rest := String.ofList (ds.toList.drop 1)
          sign ++ lead ++ (if rest.isEmpty then "" else "." ++ rest) ++ "e" ++ toString (point - 1)

/-- The sixteen hexadecimal digits of a word. -/
def hex16 (word : UInt64) : String :=
  let ds := String.ofList (Nat.toDigits 16 word.toNat)
  String.ofList (List.replicate (16 - ds.length) '0') ++ ds

/-- The bits of a double as sixteen hexadecimal digits after `0x`. -/
def bitText (x : Float) : String :=
  "0x" ++ hex16 x.toBits

end Switchboard.Decimal
