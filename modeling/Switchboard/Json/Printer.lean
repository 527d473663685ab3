import Switchboard.Data.Node
import Switchboard.Number.Decimal

/-!
# Writing JSON

A tree is written on one line without blanks, or over several lines with two blanks per level.
Strings escape the quote, the backslash and the control characters, and nothing else.
-/

namespace Switchboard.Json

open Switchboard.Data

/-- A hexadecimal digit. -/
def hexDigit (n : Nat) : Char :=
  if n < 10 then Char.ofNat (48 + n) else Char.ofNat (87 + n)

/-- One character inside a string literal. -/
def escapeChar (c : Char) : List Char :=
  if c = '"' then ['\\', '"']
  else if c = '\\' then ['\\', '\\']
  else if c.toNat < 0x20 then
    if c = '\x08' then ['\\', 'b']
    else if c = '\x0c' then ['\\', 'f']
    else if c = '\n' then ['\\', 'n']
    else if c = '\r' then ['\\', 'r']
    else if c = '\t' then ['\\', 't']
    else ['\\', 'u', '0', '0', hexDigit (c.toNat / 16), hexDigit (c.toNat % 16)]
  else [c]

/-- A string literal. -/
def quote (s : String) : String :=
  "\"" ++ String.ofList (s.toList.flatMap escapeChar) ++ "\""

/-- A number literal; a number beyond all doubles has none. -/
def numText : Numeral → String
  | .nat n => toString n
  | .neg n => "-" ++ toString n
  | .real x => Decimal.text x
  | .huge => "null"

mutual

/-- A tree on one line. -/
def compact : Node → String
  | .null => "null"
  | .bool true => "true"
  | .bool false => "false"
  | .num n => numText n
  | .str s => quote s
  | .arr items => "[" ++ ",".intercalate (compactItems items) ++ "]"
  | .obj members => "\x7b" ++ ",".intercalate (compactMembers members) ++ "\x7d"
  | .unpaired => "null"
  | .misnamed value => compact value
  | .broken => ""

/-- The items of a list, each on its own. -/
def compactItems : List Node → List String
  | [] => []
  | item :: items => compact item :: compactItems items

/-- The members of a table, each on its own. -/
def compactMembers : List (String × Node) → List String
  | [] => []
  | (name, value) :: members => (quote name ++ ":" ++ compact value) :: compactMembers members

end

/-- A line break and the blanks of a level. -/
def newline (level : Nat) : String :=
  "\n" ++ String.ofList (List.replicate (2 * level) ' ')

mutual

/-- A tree over several lines, its first line already indented. -/
def prettyAt (level : Nat) : Node → String
  | .arr [] => "[]"
  | .arr (item :: items) =>
      "[" ++ ",".intercalate (prettyItems (level + 1) (item :: items)) ++ newline level ++ "]"
  | .obj [] => "\x7b\x7d"
  | .obj (member :: members) =>
      "\x7b" ++ ",".intercalate (prettyMembers (level + 1) (member :: members)) ++
        newline level ++ "\x7d"
  | node => compact node

/-- The items of a list, each on lines of its own. -/
def prettyItems (level : Nat) : List Node → List String
  | [] => []
  | item :: items => (newline level ++ prettyAt level item) :: prettyItems level items

/-- The members of a table, each on lines of its own. -/
def prettyMembers (level : Nat) : List (String × Node) → List String
  | [] => []
  | (name, value) :: members =>
      (newline level ++ quote name ++ ": " ++ prettyAt level value) :: prettyMembers level members

end

/-- A tree over several lines. -/
def pretty (node : Node) : String :=
  prettyAt 0 node

end Switchboard.Json
