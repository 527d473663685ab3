import Switchboard.Text.Class

/-!
# White space

The characters with the Unicode property White_Space. The byte order mark and the zero width
space are not among them.
-/

namespace Switchboard.Text

/-- The white space characters of Unicode. -/
def blankClass : CharClass where
  boundaries := #[
    9, 14, 32, 33, 133, 134, 160, 161, 5760, 5761, 8192, 8203, 8232, 8234, 8239, 8240, 8287, 8288,
    12288, 12289]

/-- Whether a character is white space in any script. -/
def isBlank (c : Char) : Bool :=
  blankClass.contains c.toNat

end Switchboard.Text
