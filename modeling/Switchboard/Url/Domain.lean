import Switchboard.Text.Composition
import Switchboard.Text.Folding
import Switchboard.Text.Glyphless
import Switchboard.Text.Mark
import Switchboard.Url.Address
import Switchboard.Url.Direction
import Switchboard.Url.Escape
import Switchboard.Url.Punycode

/-!
# Hosts

The name of a host in its normal form, which has ASCII characters alone. Characters are folded and
composed, those that show nothing are dropped or refused, and a label with characters beyond ASCII
is replaced by its ASCII form. A label that already claims to be such a form has to be one.
-/

namespace Switchboard.Url

/-- What a label in ASCII form begins with. -/
def asciiMark : List Char := "xn--".toList

/-- The ASCII characters that no host has. -/
def deniedInHost : String := "%#/:<>?@[\\]^|"

/-- The characters that are dropped: hyphens and joiners that show nothing, and selectors of a
variant. -/
def isDropped (c : Char) : Bool :=
  let n := c.toNat
  n = 0xAD || n = 0x34F || (0x180B ≤ n && n ≤ 0x180F) || n = 0x200B || n = 0x2060 || n = 0x2064 ||
    (0xFE00 ≤ n && n ≤ 0xFE0F) || n = 0xFEFF || (0x1BCA0 ≤ n && n ≤ 0x1BCA3) ||
    (0xE0100 ≤ n && n ≤ 0xE01EF)

/-- Whether a character joins or parts its neighbours without being seen. -/
def isJoiner (c : Char) : Bool := c.toNat = 0x200C || c.toNat = 0x200D

/-- Whether a character may stand in a label. -/
def isAllowed (c : Char) : Bool :=
  let n := c.toNat
  if n < 128 then 32 < n && n ≠ 127 && !deniedInHost.toList.contains c
  else isJoiner c || !(Text.isGlyphless c || (0x2FF0 ≤ n && n ≤ 0x2FFF) || n = 0xFFFC || n = 0xFFFD)

/-- The class of the marks that take the vowel from a letter. -/
def viramaRank : Nat := 9

/-- Whether every joiner follows a letter without a vowel. -/
def joinersFit : List Char → Bool
  | a :: b :: rest => (!isJoiner b || Text.rankOf a = viramaRank) && joinersFit (b :: rest)
  | _ => true

/-- Whether a label with characters beyond ASCII is in its normal form. -/
def isNormalLabel (label : List Char) : Bool :=
  label.any (·.toNat ≥ 128) && label.all isAllowed &&
    !label.head?.any (fun c => Text.isMark c || isJoiner c) && joinersFit label &&
    label.flatMap Text.folded == label && Text.composed label == label

/-- The ASCII form of a label. -/
def asciiLabel? (label : List Char) : Option (List Char) :=
  match Text.dropLead? asciiMark label with
  | some form =>
      match Punycode.decode? form with
      | some plain =>
          if isNormalLabel plain && Punycode.encode plain == form then some label else none
      | none => none
  | none =>
      if label.all (·.toNat < 128) then if label.all isAllowed then some label else none
      else if isNormalLabel label then some (asciiMark ++ Punycode.encode label)
      else none

/-- The label that an ASCII form stands for, and any other label itself. -/
def plainLabel (label : List Char) : List Char :=
  ((Text.dropLead? asciiMark label).bind Punycode.decode?).getD label

/-- The ASCII form of the name of a host. -/
def asciiName? (name : List Char) : Option (List Char) :=
  let plain := if name.all (·.toNat < 128) then name.map Char.toLower
    else Text.composed ((name.filter (!isDropped ·)).flatMap Text.folded)
  let labels := Text.splitChars (· = '.') plain
  if directionsFit (labels.map plainLabel) then
    (labels.mapM asciiLabel?).map fun labels => ['.'].intercalate labels
  else none

/-- The host of an address on the web. -/
def readHost? : List Char → Option String
  | '[' :: rest => readBracketed? rest
  | chars =>
      match Text.Utf8.decode (unescape (Text.Utf8.encode (String.ofList chars))) with
      | .error _ => none
      | .ok name =>
          match asciiName? name.toList with
          | none | some [] => none
          | some host => if endsInNumber host then readDotted? host else some (String.ofList host)

/-- The characters that no host has in an address that is not one of the web. -/
def deniedInOpaqueHost : String := "\x00\t\n\r #/:<>?@[\\]^|"

/-- The host of any other address; it may be empty. -/
def readOpaqueHost? : List Char → Option String
  | '[' :: rest => readBracketed? rest
  | chars =>
      if chars.any fun c => deniedInOpaqueHost.toList.contains c then none
      else some (String.ofList (escape "" chars))

end Switchboard.Url
