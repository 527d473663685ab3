import Switchboard.Data.Node

/-!
# Numbers of JSON texts

A number literal without fraction and exponent denotes a whole number as long as it fits a 64-bit
word, signed if it is negative. Every other literal denotes a double: its digits are gathered in a
64-bit word while they fit, and the word is scaled by a power of ten.
-/

namespace Switchboard.Json

open Switchboard.Data

/-- The parts of a number literal. -/
structure Literal where
  negative : Bool
  whole : List Nat
  fraction : List Nat
  /-- Whether the literal has a fraction or an exponent. -/
  isReal : Bool
  exponent : Int

/-- The value of a list of decimal digits. -/
def ofDigits (digits : List Nat) : Nat :=
  digits.foldl (fun n d => n * 10 + d) 0

/-- Gathers the digits before the point: the word, and how many digits no longer fitted. -/
def gatherWhole : Nat → Nat → List Nat → Nat × Nat
  | word, dropped, [] => (word, dropped)
  | word, dropped, d :: rest =>
      if dropped = 0 ∧ word * 10 + d < Word.size64 then gatherWhole (word * 10 + d) 0 rest
      else gatherWhole word (dropped + 1) rest

/-- Gathers the digits after the point until one no longer fits. -/
def gatherFraction : Nat → Int → List Nat → Nat × Int
  | word, exponent, [] => (word, exponent)
  | word, exponent, d :: rest =>
      if word * 10 + d < Word.size64 then gatherFraction (word * 10 + d) (exponent - 1) rest
      else (word, exponent)

/-- The double nearest to a power of ten, for exponents up to 308. -/
def tenTo (exponent : Nat) : Float :=
  Float.ofScientific 1 false exponent

/-- Scales a double by a power of ten, in steps of at most `10 ^ 308`. -/
def scale (x : Float) (exponent : Int) : Nat → Numeral
  | 0 => .real 0
  | fuel + 1 =>
      if 0 ≤ exponent then
        if exponent ≤ 308 then
          let y := x * tenTo exponent.toNat
          if y.isInf then .huge else .real y
        else if x == 0 then .real x else .huge
      else if -308 ≤ exponent then .real (x / tenTo (-exponent).toNat)
      else if x == 0 then .real x
      else scale (x / tenTo 308) (exponent + 308) fuel

/-- The number with the other sign. -/
def negate : Numeral → Numeral
  | .real x => .real (-x)
  | n => n

/-- The number a literal denotes. -/
def Literal.value (lit : Literal) : Numeral :=
  let n := ofDigits lit.whole
  if !lit.isReal && !lit.negative && n < Word.size64 then .nat n
  else if !lit.isReal && lit.negative && 0 < n && n ≤ Word.half64 then .neg n
  else
    let (word, dropped) := gatherWhole 0 0 lit.whole
    let (word, exponent) := gatherFraction word dropped lit.fraction
    let x := scale (UInt64.ofNat word).toFloat (exponent + lit.exponent) 8
    if lit.negative then negate x else x

end Switchboard.Json
