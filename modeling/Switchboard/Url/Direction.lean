import Switchboard.Text.Alphanumeric
import Switchboard.Text.Mark

/-!
# Direction of labels

A host with a letter that is written from right to left has labels of one direction each: a label
begins with a letter, which sets its direction, holds no letter of the other direction, and ends in
a letter of its own or in a digit. A label from right to left keeps to one kind of digits.
-/

namespace Switchboard.Url

/-- What a character does to the direction of the text around it. -/
inductive Direction where
  | leftToRight
  | rightToLeft
  /-- A digit that is written from left to right in either text. -/
  | digit
  /-- A digit of a text from right to left. -/
  | arabicDigit
  | mark
  | neutral
  deriving DecidableEq

/-- Whether a character is in a block of scripts that are written from right to left. -/
def inLeftwardBlock (n : Nat) : Bool :=
  (0x590 ≤ n && n ≤ 0x8FF) || (0xFB1D ≤ n && n ≤ 0xFDFF) || (0xFE70 ≤ n && n ≤ 0xFEFF) ||
    (0x10800 ≤ n && n ≤ 0x10FFF) || (0x1E800 ≤ n && n ≤ 0x1EFFF)

/-- Whether a character is a digit of a text from right to left. -/
def isArabicDigit (n : Nat) : Bool :=
  (0x660 ≤ n && n ≤ 0x669) || (0x10D30 ≤ n && n ≤ 0x10D39) || (0x10D40 ≤ n && n ≤ 0x10D49) ||
    (0x10E60 ≤ n && n ≤ 0x10E7E)

/-- The direction of a character. -/
def Direction.ofChar (c : Char) : Direction :=
  let n := c.toNat
  if c.isDigit || (0x6F0 ≤ n && n ≤ 0x6F9) then .digit
  else if isArabicDigit n then .arabicDigit
  else if Text.isMark c then .mark
  else if !Text.isAlphanumeric c then .neutral
  else if inLeftwardBlock n then .rightToLeft
  else .leftToRight

/-- Whether a label keeps to one direction. -/
def keepsDirection (label : List Char) : Bool :=
  let directions := label.map Direction.ofChar
  let last := (directions.reverse.dropWhile (· = .mark)).head?.getD .neutral
  match directions with
  | [] => true
  | .rightToLeft :: _ =>
      !directions.contains .leftToRight && [.rightToLeft, .digit, .arabicDigit].contains last &&
        !(directions.contains .digit && directions.contains .arabicDigit)
  | .leftToRight :: _ =>
      !directions.contains .rightToLeft && !directions.contains .arabicDigit &&
        [.leftToRight, .digit].contains last
  | _ => false

/-- Whether the labels of a host may stand together. -/
def directionsFit (labels : List (List Char)) : Bool :=
  let isLeftward (c : Char) : Bool :=
    Direction.ofChar c = .rightToLeft || Direction.ofChar c = .arabicDigit
  labels.all keepsDirection || !labels.any (·.any isLeftward)

end Switchboard.Url
