/-!
# UTF-8

Reading bytes as UTF-8, strictly or with replacement. At a position that starts no character, the
longest run of bytes that could still have started one counts as a single bad sequence: the
strict reader reports it with its place, the lenient reader puts one replacement character in its
place.
-/

namespace Switchboard.Text.Utf8

/-- A byte string. -/
abbrev Bytes := List UInt8

/-- The bytes of a text. -/
def encode (text : String) : Bytes :=
  text.toUTF8.toList

/-- What stands at the front of a byte string: a character, or a bad sequence with the number of
its bytes, and whether the bytes ended before the sequence could be decided. -/
inductive Front where
  | char (c : Char) (size : Nat)
  | bad (size : Nat) (cutShort : Bool)

/-- The continuation bytes a first byte asks for, with the bits it contributes and the range of
the byte after it; `none` for a byte that starts no character. -/
def lead? (b : UInt8) : Option (Nat × Nat × UInt8 × UInt8) :=
  if b < 0xC2 then none
  else if b < 0xE0 then some (1, b.toNat % 32, 0x80, 0xBF)
  else if b = 0xE0 then some (2, b.toNat % 16, 0xA0, 0xBF)
  else if b = 0xED then some (2, b.toNat % 16, 0x80, 0x9F)
  else if b < 0xF0 then some (2, b.toNat % 16, 0x80, 0xBF)
  else if b = 0xF0 then some (3, b.toNat % 8, 0x90, 0xBF)
  else if b < 0xF4 then some (3, b.toNat % 8, 0x80, 0xBF)
  else if b = 0xF4 then some (3, b.toNat % 8, 0x80, 0x8F)
  else none

/-- Reads the continuation bytes still owed; `size` bytes of the character are already read. -/
def tail (owed value size : Nat) (lo hi : UInt8) : Bytes → Front
  | [] => match owed with
    | 0 => .char (Char.ofNat value) size
    | _ + 1 => .bad size true
  | b :: rest => match owed with
    | 0 => .char (Char.ofNat value) size
    | owed + 1 =>
        if lo ≤ b ∧ b ≤ hi then tail owed (value * 64 + b.toNat % 64) (size + 1) 0x80 0xBF rest
        else .bad size false

/-- What stands at the front of a non-empty byte string. -/
def front (b : UInt8) (rest : Bytes) : Front :=
  if b < 0x80 then .char (Char.ofNat b.toNat) 1
  else
    match lead? b with
    | none => .bad 1 false
    | some (owed, bits, lo, hi) => tail owed bits 1 lo hi rest

/-- The replacement for a bad sequence. -/
def replacement : Char := Char.ofNat 0xFFFD

/-- Reads with replacement; `skip` bytes are already accounted for. -/
def lossyFrom (out : List Char) : Nat → Bytes → List Char
  | _, [] => out.reverse
  | skip + 1, _ :: rest => lossyFrom out skip rest
  | 0, b :: rest =>
      match front b rest with
      | .char c size => lossyFrom (c :: out) (size - 1) rest
      | .bad size _ => lossyFrom (replacement :: out) (size - 1) rest

/-- The text of a byte string, every bad sequence replaced. -/
def decodeLossy (bytes : Bytes) : String :=
  String.ofList (lossyFrom [] 0 bytes)

/-- Where a byte string stops being UTF-8. -/
structure Fault where
  /-- The number of good bytes before the bad sequence. -/
  index : Nat
  /-- The length of the bad sequence, unless the bytes ended inside it. -/
  size? : Option Nat
  deriving DecidableEq, Repr

/-- The wording of a fault. -/
def Fault.message (fault : Fault) : String :=
  match fault.size? with
  | some size => s!"invalid utf-8 sequence of {size} bytes from index {fault.index}"
  | none => s!"incomplete utf-8 byte sequence from index {fault.index}"

/-- Reads strictly; `skip` bytes are already accounted for and `index` bytes are behind. -/
def strictFrom (out : List Char) (index : Nat) : Nat → Bytes → Except Fault (List Char)
  | _, [] => .ok out.reverse
  | skip + 1, _ :: rest => strictFrom out (index + 1) skip rest
  | 0, b :: rest =>
      match front b rest with
      | .char c size => strictFrom (c :: out) (index + 1) (size - 1) rest
      | .bad size cutShort => .error ⟨index, if cutShort then none else some size⟩

/-- The text of a byte string, or where it is not UTF-8. -/
def decode (bytes : Bytes) : Except Fault String :=
  (strictFrom [] 0 0 bytes).map String.ofList

end Switchboard.Text.Utf8
