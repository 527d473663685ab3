import Switchboard.Text.Utf8
import Switchboard.Json.Printer
import Switchboard.Json.Reader

/-!
# Percent notation

A byte that may not stand as it is in an address is written as a percent sign and its two
hexadecimal digits.
-/

namespace Switchboard.Url

open Switchboard.Text.Utf8 (Bytes)

/-- A byte in percent notation. -/
def escapeByte (b : UInt8) : List Char :=
  let digit (n : Nat) := (Json.hexDigit n).toUpper
  ['%', digit (b.toNat / 16), digit (b.toNat % 16)]

/-- Replaces the characters that may not stand as they are: those beyond ASCII, control characters
and the listed ones. -/
def escape (listed : String) (chars : List Char) : List Char :=
  chars.flatMap fun c =>
    if c.toNat < 32 || c.toNat > 126 || listed.toList.contains c then
      (Text.Utf8.encode (String.singleton c)).flatMap escapeByte
    else [c]

/-- The byte that two hexadecimal digits stand for. -/
def byte? (a b : UInt8) : Option UInt8 := do
  let high ← Json.hexValue? (Char.ofNat a.toNat)
  let low ← Json.hexValue? (Char.ofNat b.toNat)
  return UInt8.ofNat (16 * high + low)

/-- Puts back the bytes in percent notation. A percent sign without digits stands for itself. -/
def unescape : Bytes → Bytes
  | 37 :: x :: y :: rest =>
      match byte? x y with
      | some byte => byte :: unescape rest
      | none => 37 :: unescape (x :: y :: rest)
  | b :: rest => b :: unescape rest
  | [] => []
termination_by bytes => bytes.length

end Switchboard.Url
