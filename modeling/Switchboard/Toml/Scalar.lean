import Switchboard.Data.Node
import Switchboard.Text.Basic
import Switchboard.Timestamp

/-!
# Scalars of TOML documents

Texts, numbers, truth values and dates, as they are written in a TOML document. Each reader takes
the characters from its place on and gives back what it read with the characters after it, or
nothing if no such scalar stands there.
-/

namespace Switchboard.Toml

open Switchboard.Data

/-- A reader of something at the front of a text. -/
abbrev Parser (α : Type) := List Char → Option (α × List Char)

/-- Whether a character may stand in a line: tabs may, other control characters may not. -/
def isLineChar (c : Char) : Bool :=
  c = '\t' || (c.toNat ≥ 32 && c.toNat ≠ 127)

/-! ## Texts -/

/-- The value of hexadecimal digits. -/
def hexValue? (digits : List Char) : Option Nat :=
  digits.foldlM (fun n c =>
    if c.isDigit then some (16 * n + (c.toNat - 48))
    else if 'a' ≤ c.toLower ∧ c.toLower ≤ 'f' then some (16 * n + (c.toLower.toNat - 87))
    else none) 0

/-- The character with a number of so many hexadecimal digits. -/
def readCode (count : Nat) : Parser Char := fun chars =>
  if chars.length < count then none
  else
    match hexValue? (chars.take count) with
    | some n => if n.isValidChar then some (Char.ofNat n, chars.drop count) else none
    | none => none

/-- The character of an escape, after the backslash. -/
def readEscape : Parser Char
  | 'b' :: rest => some ('\x08', rest)
  | 't' :: rest => some ('\t', rest)
  | 'n' :: rest => some ('\n', rest)
  | 'f' :: rest => some ('\x0c', rest)
  | 'r' :: rest => some ('\x0d', rest)
  | '"' :: rest => some ('"', rest)
  | '\\' :: rest => some ('\\', rest)
  | 'u' :: rest => readCode 4 rest
  | 'U' :: rest => readCode 8 rest
  | _ => none

/-- The rest of a text between double quotes. -/
def readBasic : Nat → List Char → Parser String
  | 0, _, _ => none
  | _ + 1, _, [] => none
  | fuel + 1, out, c :: rest =>
      if c = '"' then some (String.ofList out.reverse, rest)
      else if c = '\\' then
        match readEscape rest with
        | some (image, rest) => readBasic fuel (image :: out) rest
        | none => none
      else if isLineChar c then readBasic fuel (c :: out) rest
      else none

/-- The rest of a text between single quotes. -/
def readLiteral (chars : List Char) : Option (String × List Char) :=
  let body := chars.takeWhile (· ≠ '\'')
  match chars.drop body.length with
  | '\'' :: rest => if body.all isLineChar then some (String.ofList body, rest) else none
  | _ => none

/-- The end of a line, if it is the next thing. -/
def newline? : List Char → Option (List Char)
  | '\n' :: rest => some rest
  | '\x0d' :: '\n' :: rest => some rest
  | _ => none

/-- What follows the blanks and line ends. -/
def skipLines (chars : List Char) : List Char :=
  chars.dropWhile fun c => c = ' ' || c = '\t' || c = '\n' || c = '\x0d'

/-- What follows a backslash that ends a line: all the white space, if a line ends in it. -/
def joinLines? (chars : List Char) : Option (List Char) :=
  match newline? (chars.dropWhile fun c => c = ' ' || c = '\t') with
  | some rest => some (skipLines rest)
  | none => none

/-- Quotes inside or at the end of a text of several lines: three of them end it, and up to two
more belong to it. -/
def readQuotes (quote : Char) (chars : List Char) : Nat × Bool × List Char :=
  let run := (chars.takeWhile (· = quote)).length
  if run < 3 then (run, false, chars.drop run)
  else if run ≤ 5 then (run - 3, true, chars.drop run)
  else (2, true, chars.drop 5)

/-- The rest of a text of several lines; escapes count between double quotes only. -/
def readLong (quote : Char) : Nat → List Char → Parser String
  | 0, _, _ => none
  | _ + 1, _, [] => none
  | fuel + 1, out, c :: rest =>
      if c = quote then
        let (count, ends, rest) := readQuotes quote (c :: rest)
        let out := List.replicate count quote ++ out
        if ends then some (String.ofList out.reverse, rest) else readLong quote fuel out rest
      else if c = '\\' && quote = '"' then
        match joinLines? rest, readEscape rest with
        | some rest, _ => readLong quote fuel out rest
        | none, some (image, rest) => readLong quote fuel (image :: out) rest
        | none, none => none
      else
        match newline? (c :: rest) with
        | some rest => readLong quote fuel ('\n' :: out) rest
        | none => if isLineChar c then readLong quote fuel (c :: out) rest else none

/-- A text of one line. -/
def readShortText : Parser String
  | '"' :: rest => readBasic (rest.length + 1) [] rest
  | '\'' :: rest => readLiteral rest
  | _ => none

/-- A text. A line end right after three opening quotes does not belong to it. -/
def readText (chars : List Char) : Option (String × List Char) :=
  match chars with
  | '"' :: '"' :: '"' :: rest => long '"' rest
  | '\'' :: '\'' :: '\'' :: rest => long '\'' rest
  | chars => readShortText chars
where
  /-- The rest of a text of several lines. -/
  long (quote : Char) (rest : List Char) : Option (String × List Char) :=
    let rest := (newline? rest).getD rest
    readLong quote (rest.length + 1) [] rest

/-! ## Numbers -/

/-- Digits with single underscores between them. -/
def readDigits (isDigit : Char → Bool) : List Char → List Char → Option (List Char × List Char)
  | out, c :: rest =>
      if isDigit c then readDigits isDigit (c :: out) rest
      else
        match c, rest with
        | '_', d :: rest' =>
            if out.isEmpty || !isDigit d then none else readDigits isDigit (d :: out) rest'
        | c, rest => if out.isEmpty then none else some (out.reverse, c :: rest)
  | out, [] => if out.isEmpty then none else some (out.reverse, [])

/-- The value of digits in a base. -/
def valueIn (base : Nat) (digits : List Char) : Nat :=
  digits.foldl (fun n c =>
    base * n + if c.isDigit then c.toNat - 48 else c.toLower.toNat - 87) 0

/-- A sign, and whether it is negative. -/
def readSign : List Char → Bool × List Char
  | '+' :: rest => (false, rest)
  | '-' :: rest => (true, rest)
  | chars => (false, chars)

/-- The digits of a whole number, which has no zero in front. -/
def readWhole (chars : List Char) : Option (List Char × List Char) :=
  match chars with
  | '0' :: rest => some (['0'], rest)
  | chars => readDigits Char.isDigit [] chars

/-- A whole number as a node, if it fits 64 bits with its sign. -/
def wholeNode? (negative : Bool) (n : Nat) : Option Node :=
  if negative && 0 < n then if n ≤ Word.half64 then some (.num (.neg n)) else none
  else if n < Word.half64 then some (.nat n) else none

/-- A whole number. -/
def readInteger (chars : List Char) : Option (Node × List Char) :=
  let based (base : Nat) (isDigit : Char → Bool) (rest : List Char) := do
    let (digits, rest) ← readDigits isDigit [] rest
    let node ← wholeNode? false (valueIn base digits)
    return (node, rest)
  match chars with
  | '0' :: 'x' :: rest =>
      based 16 (fun c => c.isDigit || ('a' ≤ c.toLower ∧ c.toLower ≤ 'f')) rest
  | '0' :: 'o' :: rest => based 8 (fun c => '0' ≤ c ∧ c ≤ '7') rest
  | '0' :: 'b' :: rest => based 2 (fun c => c = '0' || c = '1') rest
  | chars => do
      let (negative, rest) := readSign chars
      let (digits, rest) ← readWhole rest
      let node ← wholeNode? negative (valueIn 10 digits)
      return (node, rest)

/-- The double nearest to a decimal number. -/
def nearest (digits : List Char) (exponent : Int) : Float :=
  let n := valueIn 10 digits
  let size : Int := digits.length
  if n = 0 then 0
  else if exponent + size > 400 then Float.ofScientific 1 false 400
  else if exponent + size < -400 then 0
  else if 0 ≤ exponent then Float.ofScientific n false exponent.toNat
  else Float.ofScientific n true (-exponent).toNat

/-- The exponent of a number, if there is one. -/
def readExponent (chars : List Char) : Option (Option Int × List Char) :=
  match chars with
  | 'e' :: rest | 'E' :: rest => do
      let (negative, rest) := readSign rest
      let (digits, rest) ← readDigits Char.isDigit [] rest
      let n : Int := min (valueIn 10 digits) 100000
      return (some (if negative then -n else n), rest)
  | chars => some (none, chars)

/-- The digits after a point, if there is one. -/
def readFraction (chars : List Char) : Option (Option (List Char) × List Char) :=
  match chars with
  | '.' :: rest => do
      let (digits, rest) ← readDigits Char.isDigit [] rest
      return (some digits, rest)
  | chars => some (none, chars)

/-- A number with a fraction or an exponent. One that is too large is refused. -/
def readDecimal (chars : List Char) : Option (Node × List Char) := do
  let (negative, rest) := readSign chars
  let (whole, rest) ← readWhole rest
  let (fraction, rest) ← readFraction rest
  let (exponent, rest) ← readExponent rest
  if fraction.isNone && exponent.isNone then none
  else
    let digits := fraction.getD []
    let x := nearest (whole ++ digits) (exponent.getD 0 - digits.length)
    if x.isInf && !negative then none
    else return (.real (if negative then -x else x), rest)

/-- An infinity, or no number. -/
def readSpecial (chars : List Char) : Option (Node × List Char) :=
  let (negative, rest) := readSign chars
  let signed (x : Float) : Node := .real (if negative then -x else x)
  match rest with
  | 'i' :: 'n' :: 'f' :: rest => some (signed (1.0 / 0.0), rest)
  | 'n' :: 'a' :: 'n' :: rest => some (signed (0.0 / 0.0), rest)
  | _ => none

/-! ## Dates and times -/

/-- A number of exactly so many digits between two bounds. -/
def readField (count low high : Nat) : Parser Nat := fun chars =>
  let digits := chars.take count
  let n := valueIn 10 digits
  if digits.length = count && digits.all Char.isDigit && low ≤ n && n ≤ high then
    some (n, chars.drop count)
  else none

/-- One given character. -/
def readMark (mark : Char) : Parser Unit
  | c :: rest => if c = mark then some ((), rest) else none
  | [] => none

/-- A day of the calendar. -/
def readDate : Parser Unit := fun chars => do
  let (year, rest) ← readField 4 0 9999 chars
  let (_, rest) ← readMark '-' rest
  let (month, rest) ← readField 2 1 12 rest
  let (_, rest) ← readMark '-' rest
  let (_, rest) ← readField 2 1 (Timestamp.monthLength year month) rest
  return ((), rest)

/-- A time of day. -/
def readClock : Parser Unit := fun chars => do
  let (_, rest) ← readField 2 0 23 chars
  let (_, rest) ← readMark ':' rest
  let (_, rest) ← readField 2 0 59 rest
  let (_, rest) ← readMark ':' rest
  let (_, rest) ← readField 2 0 60 rest
  match rest with
  | '.' :: d :: rest =>
      if d.isDigit then return ((), rest.dropWhile Char.isDigit) else none
  | '.' :: [] => none
  | rest => return ((), rest)

/-- The distance of a clock from the common time, if it is given. -/
def readOffset : Parser Unit := fun chars =>
  match chars with
  | 'Z' :: rest | 'z' :: rest => some ((), rest)
  | '+' :: rest | '-' :: rest => do
      let (_, rest) ← readField 2 0 23 rest
      let (_, rest) ← readMark ':' rest
      let (_, rest) ← readField 2 0 59 rest
      return ((), rest)
  | chars => some ((), chars)

/-- What follows a date: a time of day, or nothing of it. -/
def readDayTime (chars : List Char) : Option (Unit × List Char) :=
  match chars with
  | c :: rest =>
      if c = 'T' || c = 't' || c = ' ' then
        match readClock rest with
        | some (_, rest) => readOffset rest
        | none => if c = ' ' then some ((), chars) else none
      else some ((), chars)
  | [] => some ((), [])

/-- A date, a time or both. Their place in the data is taken by a table of their text. -/
def readDateTime (chars : List Char) : Option (Node × List Char) :=
  let found := match readDate chars with
    | some (_, rest) => readDayTime rest
    | none => readClock chars
  found.map fun (_, rest) =>
    (.obj [("datetime", .str (String.ofList (chars.take (chars.length - rest.length))))], rest)

/-- A number, a date or a time. -/
def readNumber (chars : List Char) : Option (Node × List Char) :=
  (readDateTime chars).orElse fun _ =>
    (readDecimal chars).orElse fun _ =>
      (readSpecial chars).orElse fun _ => readInteger chars

end Switchboard.Toml
