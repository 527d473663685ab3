import Switchboard.Text.Basic
import Switchboard.Json.Reader

/-!
# Numeric hosts

A host may be the number of a machine instead of its name. The shorter kind has four bytes,
written as up to four numbers with dots between them; the longer kind has eight pieces of sixteen
bits, written between brackets with colons between the pieces, where the longest row of zeros may
be left out.
-/

namespace Switchboard.Url

/-! ## Four bytes -/

/-- The value of digits in a base, if all of them are digits of that base. -/
def digitsValue? (base : Nat) (digits : List Char) : Option Nat :=
  digits.foldlM (fun n c => do
    let digit ← Json.hexValue? c
    if digit < base then some (base * n + digit) else none) 0

/-- A number of a numeric host: decimal, octal after a zero or hexadecimal. -/
def hostNumber? (part : List Char) : Option Nat :=
  match part with
  | [] => none
  | '0' :: 'x' :: digits | '0' :: 'X' :: digits => digitsValue? 16 digits
  | '0' :: digit :: digits => digitsValue? 8 (digit :: digits)
  | digits => digitsValue? 10 digits

/-- The value of a numeric host; its last number fills all the bytes that are left. -/
def hostValue? : Nat → List Nat → Option Nat
  | _, [] => none
  | bytes, [last] => if last < Nat.pow 256 bytes then some last else none
  | bytes + 1, n :: rest =>
      if n < 256 then (hostValue? bytes rest).map fun value => n * Nat.pow 256 bytes + value else none
  | 0, _ :: _ => none

/-- The four numbers of a numeric host. -/
def dotted (value : Nat) : String :=
  s!"{value / 0x1000000 % 256}.{value / 0x10000 % 256}.{value / 256 % 256}.{value % 256}"

/-- The parts of a host, without an empty one at the end. -/
def hostParts (host : List Char) : List (List Char) :=
  let parts := Text.splitChars (· = '.') host
  if parts.length > 1 && parts.getLast? = some [] then parts.dropLast else parts

/-- Whether a host ends in a number and so has to be numeric. -/
def endsInNumber (host : List Char) : Bool :=
  match (hostParts host).getLast? with
  | some part => (!part.isEmpty && part.all Char.isDigit) || (hostNumber? part).isSome
  | none => false

/-- The normal form of a numeric host. -/
def readDotted? (host : List Char) : Option String :=
  (((hostParts host).mapM hostNumber?).bind (hostValue? 4)).map dotted

/-! ## Eight pieces -/

/-- How many pieces there are. -/
def pieceCount : Nat := 8

/-- A decimal number below 256 without a zero before it. -/
def byteNumber? (part : List Char) : Option Nat :=
  match part with
  | [] | '0' :: _ :: _ => none
  | digits => (digitsValue? 10 digits).filter (· < 256)

/-- The two pieces of a tail that is written as four bytes. -/
def tailPieces? (chars : List Char) : Option (List Nat) := do
  match ← (Text.splitChars (· = '.') chars).mapM byteNumber? with
  | [a, b, c, d] => some [256 * a + b, 256 * c + d]
  | _ => none

/-- Reads pieces after those that are done. Where zeros are left out a single zero stands among
the pieces, and the gap is the number of pieces up to it. -/
def readPieces? : Nat → List Nat → Option Nat → List Char → Option (List Nat × Option Nat)
  | _, done, gap, [] => some (done, gap)
  | 0, _, _, _ => none
  | fuel + 1, done, gap, ':' :: rest =>
      if gap.isSome then none else readPieces? fuel (done ++ [0]) (some (done.length + 1)) rest
  | fuel + 1, done, gap, chars =>
      let digits := (chars.takeWhile fun c => (Json.hexValue? c).isSome).take 4
      match digitsValue? 16 digits, chars.drop digits.length with
      | some value, [] => some (done ++ [value], gap)
      | some value, ':' :: rest =>
          if rest.isEmpty then none else readPieces? fuel (done ++ [value]) gap rest
      | some _, '.' :: _ =>
          if digits.isEmpty || fuel = 0 then none
          else (tailPieces? chars).map fun pieces => (done ++ pieces, gap)
      | _, _ => none

/-- Fills the gap with zeros, so that there are as many pieces as there have to be. -/
def fillGap? (pieces : List Nat) : Option Nat → Option (List Nat)
  | none => if pieces.length = pieceCount then some pieces else none
  | some gap => some (pieces.take gap ++ List.replicate (pieceCount - pieces.length) 0 ++
      pieces.drop gap)

/-- The pieces of a host between brackets. -/
def pieces? (chars : List Char) : Option (List Nat) := do
  let (pieces, gap) ← match chars with
    | ':' :: ':' :: rest => readPieces? (pieceCount - 1) [0] (some 1) rest
    | ':' :: _ => none
    | chars => readPieces? pieceCount [] none chars
  fillGap? pieces gap

/-- Pieces with colons between them. -/
def piecesText (pieces : List Nat) : String :=
  ":".intercalate (pieces.map fun piece => String.ofList (Nat.toDigits 16 piece))

/-- The normal form of eight pieces: the first of the longest rows of two or more zeros is left
out. -/
def colonText (pieces : List Nat) : String :=
  let rows := (List.range pieces.length).map fun i => ((pieces.drop i).takeWhile (· = 0)).length
  let longest := rows.foldl max 0
  if longest < 2 then piecesText pieces
  else
    let start := (rows.takeWhile (· ≠ longest)).length
    piecesText (pieces.take start) ++ "::" ++ piecesText (pieces.drop (start + longest))

/-- The normal form of a host between brackets, after the opening one. -/
def readBracketed? (chars : List Char) : Option String :=
  if chars.getLast? = some ']' then
    (pieces? chars.dropLast).map fun pieces => "[" ++ colonText pieces ++ "]"
  else none

end Switchboard.Url
