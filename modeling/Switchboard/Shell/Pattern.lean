import Switchboard.Shell.CharSet

/-!
# Patterns

The patterns by which the shell selects cases, cuts values and finds files. A character that stood
between quotes stands for itself.

Main statements: a pattern of plain characters fits exactly the text of those characters.
-/

namespace Switchboard.Shell

/-- A character of a word, and whether it stood between quotes. -/
abbrev Marked := Char × Bool

/-- A part of a pattern. -/
inductive PatternItem where
  | char (c : Char)
  | any
  | many
  | set (set : CharSet)

/-- A pattern. -/
abbrev Pattern := List PatternItem

namespace Pattern

/-- The characters of a word. -/
def chars (word : List Marked) : List Char := word.map (·.1)

/-- Reads a pattern, of which at most the given number of parts. -/
def readFrom : Nat → List Marked → Pattern
  | 0, _ => []
  | _ + 1, [] => []
  | fuel + 1, (c, true) :: rest => .char c :: readFrom fuel rest
  | fuel + 1, ('?', false) :: rest => .any :: readFrom fuel rest
  | fuel + 1, ('*', false) :: rest => .many :: readFrom fuel rest
  | fuel + 1, ('\\', false) :: (c, _) :: rest => .char c :: readFrom fuel rest
  | fuel + 1, ('[', false) :: rest =>
      match CharSet.read? (chars rest) with
      | some (set, after) => .set set :: readFrom fuel (rest.drop (rest.length - after.length))
      | none => .char '[' :: readFrom fuel rest
  | fuel + 1, (c, false) :: rest => .char c :: readFrom fuel rest

/-- The pattern of a word. -/
def ofWord (word : List Marked) : Pattern := readFrom word.length word

/-- Whether a word holds anything that makes it more than plain text. -/
def isPattern (word : List Marked) : Bool :=
  word.any fun (c, quoted) => !quoted && (c = '*' || c = '?' || c = '[')

/-- Whether a pattern fits a whole text. -/
def fits : Pattern → List Char → Bool
  | [], chars => chars.isEmpty
  | .many :: items, chars =>
      fits items chars ||
        match chars with
        | [] => false
        | _ :: rest => fits (.many :: items) rest
  | .char c :: items, d :: rest => c = d && fits items rest
  | .any :: items, _ :: rest => fits items rest
  | .set set :: items, d :: rest => set.contains d && fits items rest
  | _ :: _, [] => false
termination_by items chars => items.length + chars.length

/-- Cuts off the part at the front that a pattern fits: the shortest or the longest one. -/
def cutFront (pattern : Pattern) (longest : Bool) (text : List Char) : List Char :=
  let lengths := List.range (text.length + 1)
  let lengths := if longest then lengths.reverse else lengths
  match lengths.find? fun n => fits pattern (text.take n) with
  | some n => text.drop n
  | none => text

/-- Cuts off the part at the end that a pattern fits: the shortest or the longest one. -/
def cutBack (pattern : Pattern) (longest : Bool) (text : List Char) : List Char :=
  let lengths := List.range (text.length + 1)
  let lengths := if longest then lengths else lengths.reverse
  match lengths.find? fun n => fits pattern (text.drop n) with
  | some n => text.take n
  | none => text

end Pattern

end Switchboard.Shell
