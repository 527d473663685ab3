import Switchboard.Json.Number
import Switchboard.Data.Record

/-!
# Reading JSON

Strict JSON: one value, with blanks, tabs and line ends allowed between its tokens and nothing
after it. The reader builds the tree of the value up to the first defect, where it leaves a
`broken` leaf and stops.

Every function takes the characters still unread and answers with what it found and the
characters after it, or with no rest at all when the text is defective.
-/

namespace Switchboard.Json

open Switchboard.Data

/-- Drops the blanks allowed between tokens. -/
def skipBlanks : List Char → List Char
  | c :: rest =>
      if c = ' ' || c = '\n' || c = '\t' || c = '\r' then skipBlanks rest else c :: rest
  | [] => []

/-! ## Numbers -/

/-- Splits off the leading decimal digits. -/
def spanDigits (digits : List Nat) : List Char → List Nat × List Char
  | c :: rest =>
      if c.isDigit then spanDigits ((c.toNat - 48) :: digits) rest
      else (digits.reverse, c :: rest)
  | [] => (digits.reverse, [])

/-- The exponent of a number, if one follows. -/
def readExponent : List Char → Option (Option Int × List Char)
  | c :: rest =>
      if c = 'e' || c = 'E' then
        let (negative, rest) := match rest with
          | '-' :: r => (true, r)
          | '+' :: r => (false, r)
          | r => (false, r)
        match spanDigits [] rest with
        | ([], _) => none
        | (ds, rest) =>
            let n : Int := ofDigits ds
            some (some (if negative then -n else n), rest)
      else some (none, c :: rest)
  | [] => some (none, [])

/-- The fraction of a number, if one follows. -/
def readFraction : List Char → Option (Option (List Nat) × List Char)
  | '.' :: rest =>
      match spanDigits [] rest with
      | ([], _) => none
      | (ds, rest) => some (some ds, rest)
  | chars => some (none, chars)

/-- The digits before the point: no zero stands before another digit. -/
def readWhole (chars : List Char) : Option (List Nat × List Char) :=
  match spanDigits [] chars with
  | ([], _) => none
  | (0 :: _ :: _, _) => none
  | (ds, rest) => some (ds, rest)

/-- A number, after its sign. -/
def readNumber (negative : Bool) (chars : List Char) : Node × Option (List Char) :=
  let found : Option (Literal × List Char) := do
    let (whole, rest) ← readWhole chars
    let (fraction, rest) ← readFraction rest
    let (exponent, rest) ← readExponent rest
    return (⟨negative, whole, fraction.getD [], fraction.isSome || exponent.isSome,
      exponent.getD 0⟩, rest)
  match found with
  | some (lit, rest) => (.num lit.value, some rest)
  | none => (.broken, none)

/-! ## Strings -/

/-- The value of a hexadecimal digit. -/
def hexValue? (c : Char) : Option Nat :=
  if '0' ≤ c ∧ c ≤ '9' then some (c.toNat - 48)
  else if 'a' ≤ c ∧ c ≤ 'f' then some (c.toNat - 87)
  else if 'A' ≤ c ∧ c ≤ 'F' then some (c.toNat - 55)
  else none

/-- The value of four hexadecimal digits. -/
def hexValue4? (a b c d : Char) : Option Nat := do
  let a ← hexValue? a
  let b ← hexValue? b
  let c ← hexValue? c
  let d ← hexValue? d
  return ((a * 16 + b) * 16 + c) * 16 + d

/-- The character of a one-letter escape. -/
def escape? : Char → Option Char
  | '"' => some '"'
  | '\\' => some '\\'
  | '/' => some '/'
  | 'b' => some '\x08'
  | 'f' => some '\x0c'
  | 'n' => some '\n'
  | 'r' => some '\r'
  | 't' => some '\t'
  | _ => none

/-- What a string has brought so far. -/
structure Scanned where
  /-- Its characters in reverse. -/
  chars : List Char := []
  /-- Whether both halves of every surrogate pair were there. -/
  paired : Bool := true
  /-- The first half of a surrogate pair, right after it was read. -/
  half : Option Nat := none

namespace Scanned

/-- Adds a character. A half right before it has stood alone. -/
def push (s : Scanned) (c : Char) : Scanned :=
  ⟨c :: s.chars, s.paired && s.half.isNone, none⟩

/-- Adds a code unit that does not complete a pair. -/
def begin (s : Scanned) (unit : Nat) : Scanned :=
  if 0xD800 ≤ unit ∧ unit ≤ 0xDBFF then
    { s with paired := s.paired && s.half.isNone, half := some unit }
  else if 0xDC00 ≤ unit ∧ unit ≤ 0xDFFF then { s with paired := false, half := none }
  else s.push (Char.ofNat unit)

/-- Adds a code unit. -/
def pushUnit (s : Scanned) (unit : Nat) : Scanned :=
  match s.half with
  | none => s.begin unit
  | some half =>
      if 0xDC00 ≤ unit ∧ unit ≤ 0xDFFF then
        let point := 0x10000 + (half - 0xD800) * 0x400 + (unit - 0xDC00)
        ⟨Char.ofNat point :: s.chars, s.paired, none⟩
      else s.begin unit

/-- The text, unless half of a surrogate pair has stood alone. -/
def text? (s : Scanned) : Option String :=
  if s.paired && s.half.isNone then some (String.ofList s.chars.reverse) else none

end Scanned

/-- The rest of a string, after what it has brought so far. -/
def readStringFrom (s : Scanned) : List Char → Option (Option String × List Char)
  | [] => none
  | '"' :: rest => some (s.text?, rest)
  | '\\' :: 'u' :: a :: b :: c :: d :: rest =>
      match hexValue4? a b c d with
      | some unit => readStringFrom (s.pushUnit unit) rest
      | none => none
  | '\\' :: e :: rest =>
      match escape? e with
      | some c => readStringFrom (s.push c) rest
      | none => none
  | c :: rest => if c = '\\' || c.toNat < 0x20 then none else readStringFrom (s.push c) rest

/-- A string after its opening quote; no text when half of a surrogate pair stands alone. -/
def readString (chars : List Char) : Option (Option String × List Char) :=
  readStringFrom {} chars

/-! ## Values -/

/-- A word of the grammar, such as `null`, whose first letter is already read. -/
def readWord (word : List Char) (node : Node) : List Char → Node × Option (List Char)
  | chars =>
      match word, chars with
      | [], rest => (node, some rest)
      | w :: word, c :: rest => if w = c then readWord word node rest else (.broken, none)
      | _ :: _, [] => (.broken, none)
termination_by structural word

/-- A member of a table; its name may denote no text. -/
def member (name : Option String) (value : Node) : String × Node :=
  match name with
  | some name => (name, value)
  | none => ("", .misnamed value)

mutual

/-- One value. -/
def readValue : Nat → List Char → Node × Option (List Char)
  | 0, _ => (.broken, none)
  | fuel + 1, chars =>
      match skipBlanks chars with
      | 'n' :: rest => readWord ['u', 'l', 'l'] .null rest
      | 't' :: rest => readWord ['r', 'u', 'e'] (.bool true) rest
      | 'f' :: rest => readWord ['a', 'l', 's', 'e'] (.bool false) rest
      | '"' :: rest =>
          match readString rest with
          | some (some s, rest) => (.str s, some rest)
          | some (none, rest) => (.unpaired, some rest)
          | none => (.broken, none)
      | '-' :: rest => readNumber true rest
      | '[' :: rest =>
          match skipBlanks rest with
          | ']' :: rest => (.arr [], some rest)
          | rest => readItems fuel [] rest
      | '{' :: rest =>
          match skipBlanks rest with
          | '}' :: rest => (.obj [], some rest)
          | rest => readMembers fuel [] rest
      | c :: rest => if c.isDigit then readNumber false (c :: rest) else (.broken, none)
      | [] => (.broken, none)

/-- The items of a list from the next one on; `done` holds the earlier ones in reverse. -/
def readItems : Nat → List Node → List Char → Node × Option (List Char)
  | 0, done, _ => (.arr (.broken :: done).reverse, none)
  | fuel + 1, done, chars =>
      match readValue fuel chars with
      | (item, none) => (.arr (item :: done).reverse, none)
      | (item, some rest) =>
          match skipBlanks rest with
          | ']' :: rest => (.arr (item :: done).reverse, some rest)
          | ',' :: rest => readItems fuel (item :: done) rest
          | _ => (.arr (.broken :: item :: done).reverse, none)

/-- The members of a table from the next one on; `done` holds the earlier ones in reverse. -/
def readMembers : Nat → List (String × Node) → List Char → Node × Option (List Char)
  | 0, done, _ => (.obj (("", .broken) :: done).reverse, none)
  | fuel + 1, done, chars =>
      match skipBlanks chars with
      | '"' :: rest =>
          match readString rest with
          | some (name, rest) =>
              match skipBlanks rest with
              | ':' :: rest =>
                  match readValue fuel rest with
                  | (value, none) => (.obj (member name value :: done).reverse, none)
                  | (value, some rest) =>
                      match skipBlanks rest with
                      | '}' :: rest => (.obj (member name value :: done).reverse, some rest)
                      | ',' :: rest => readMembers fuel (member name value :: done) rest
                      | _ => (.obj (("", .broken) :: member name value :: done).reverse, none)
              | _ => (.obj (member name .broken :: done).reverse, none)
          | none => (.obj (("", .broken) :: done).reverse, none)
      | _ => (.obj (("", .broken) :: done).reverse, none)

end

/-- The tree of a text, and whether nothing but blanks follows its value. -/
def parse (text : String) : Node × Bool :=
  let chars := text.toList
  match readValue (chars.length + 1) chars with
  | (node, some rest) => (node, (skipBlanks rest).isEmpty)
  | (node, none) => (node, true)

/-- Reads a typed value from a text. Faults inside the value come before anything after it. -/
def decode (read : Reading α) (text : String) : Except Fault α :=
  let (node, ended) := parse text
  match read node with
  | .error fault => .error fault
  | .ok a => if ended then .ok a else .error .malformed

/-- How often lists and tables may stand in each other in a value that is kept as a whole. -/
def maxDepth : Nat := 127

/-- The value that a text denotes, if it is well formed as a whole. -/
def parse? (text : String) : Option Node :=
  match parse text with
  | (node, true) => if node.isSound && node.fitsDepth maxDepth then some node else none
  | (_, false) => none

end Switchboard.Json
