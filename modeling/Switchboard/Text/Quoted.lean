import Switchboard.Text.Glyphless
import Switchboard.Text.Mark

/-!
# Quoted texts

A text between double quotes as a message shows it: quotes, backslashes and the usual control
characters have short escapes, and every other character that cannot be seen by itself (one
without a glyph, or a mark that combines with the character before it) is written by its code
point.
-/

namespace Switchboard.Text

/-- The digits of a code point in base sixteen. -/
def codeDigits (c : Char) : String :=
  String.ofList (Nat.toDigits 16 c.toNat)

/-- One character as it stands between double quotes. -/
def quotedChar (c : Char) : String :=
  match c with
  | '\x00' => "\\0"
  | '\t' => "\\t"
  | '\n' => "\\n"
  | '\r' => "\\r"
  | '"' => "\\\""
  | '\\' => "\\\\"
  | c =>
      if isGlyphless c || isMark c then "\\u\x7b" ++ codeDigits c ++ "\x7d" else c.toString

/-- A text between double quotes. -/
def quoted (text : String) : String :=
  "\"" ++ String.join (text.toList.map quotedChar) ++ "\""

end Switchboard.Text
