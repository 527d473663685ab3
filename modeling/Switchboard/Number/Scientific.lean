import Switchboard.Number.Decimal

/-!
# Scientific texts of numbers

The text of a double with a fixed number of significant digits, as a number between one and ten
times a power of ten, or positionally where the power is small. The exact value is rounded, and a
tie goes to the even neighbour.
-/

namespace Switchboard.Decimal

/-- The exact value of a double without its sign, as a quotient. -/
def Binary.quotient (b : Binary) : Nat × Nat :=
  if 0 ≤ b.exponent then (b.mantissa * Nat.pow 2 b.exponent.toNat, 1)
  else (b.mantissa, Nat.pow 2 (-b.exponent).toNat)

/-- The value of a quotient in units of a power of ten, rounded. -/
def unitsOf (num den : Nat) (power : Int) : Nat :=
  if 0 ≤ power then roundDiv num (den * Nat.pow 10 power.toNat)
  else roundDiv (num * Nat.pow 10 (-power).toNat) den

/-- The power of ten of the first digit of a quotient that is not zero. -/
def leadingPower (num den : Nat) : Int :=
  let guess : Int := (toString num).length - (toString den).length
  let reaches (power : Int) : Bool :=
    if 0 ≤ power then den * Nat.pow 10 power.toNat ≤ num else den ≤ num * Nat.pow 10 (-power).toNat
  if reaches guess then guess else guess - 1

/-- A number of significant digits of a double, and the power of ten of the first one. -/
def significant (count : Nat) (b : Binary) : Nat × Int :=
  if b.mantissa = 0 then (0, 0)
  else
    let (num, den) := b.quotient
    let power := leadingPower num den
    let digits := unitsOf num den (power - (count - 1 : Nat))
    if digits = Nat.pow 10 count then (Nat.pow 10 (count - 1), power + 1) else (digits, power)

/-- The text of a power of ten: its sign and at least two digits. -/
def powerText (power : Int) : String :=
  (if power < 0 then "e-" else "e+") ++ digits 2 power.natAbs

/-- Drops zeros at the end of the places after a point, and a point before nothing. -/
def dropZeros (text : String) : String :=
  if text.toList.contains '.' then
    let chars := text.toList.reverse.dropWhile (· = '0')
    String.ofList (match chars with
      | '.' :: rest => rest.reverse
      | chars => chars.reverse)
  else text

/-- A number between one and ten from its digits. -/
def mantissaText (count n : Nat) : String :=
  match (digits count n).toList with
  | [] => "0"
  | [d] => String.singleton d
  | d :: rest => String.ofList (d :: '.' :: rest)

/-- The text of a double without its sign, with so many places after the point and a power of
ten. -/
def scientific (places : Nat) (x : Float) : String :=
  match binary? x with
  | none => if x.isNaN then "nan" else "inf"
  | some b =>
      let (n, power) := significant (places + 1) b
      mantissaText (places + 1) n ++ powerText power

/-- The text of a double without its sign, with so many significant digits: positional where the
power of ten allows it, and without zeros at the end. -/
def general (count : Nat) (x : Float) : String :=
  match binary? x with
  | none => if x.isNaN then "nan" else "inf"
  | some b =>
      let count := max count 1
      let (n, power) := significant count b
      if power < -4 || power ≥ count then
        dropZeros (mantissaText count n) ++ powerText power
      else dropZeros (fixed ((count : Int) - 1 - power).toNat (if b.negative then -x else x))

end Switchboard.Decimal
