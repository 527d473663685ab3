import Switchboard.Text.Utf8

/-!
# SHA-256

The hash of a byte string: the message is padded to whole blocks of 64 bytes, each block is
expanded to 64 words, and 64 rounds mix them into the eight words of the state.
-/

namespace Switchboard.Sha256

open Switchboard.Text.Utf8 (Bytes)

/-- The round constants: the first 32 bits of the fractions of the cube roots of the primes. -/
def roundConstants : Array UInt32 := #[
  0x428a2f98, 0x71374491, 0xb5c0fbcf, 0xe9b5dba5, 0x3956c25b, 0x59f111f1, 0x923f82a4, 0xab1c5ed5,
  0xd807aa98, 0x12835b01, 0x243185be, 0x550c7dc3, 0x72be5d74, 0x80deb1fe, 0x9bdc06a7, 0xc19bf174,
  0xe49b69c1, 0xefbe4786, 0x0fc19dc6, 0x240ca1cc, 0x2de92c6f, 0x4a7484aa, 0x5cb0a9dc, 0x76f988da,
  0x983e5152, 0xa831c66d, 0xb00327c8, 0xbf597fc7, 0xc6e00bf3, 0xd5a79147, 0x06ca6351, 0x14292967,
  0x27b70a85, 0x2e1b2138, 0x4d2c6dfc, 0x53380d13, 0x650a7354, 0x766a0abb, 0x81c2c92e, 0x92722c85,
  0xa2bfe8a1, 0xa81a664b, 0xc24b8b70, 0xc76c51a3, 0xd192e819, 0xd6990624, 0xf40e3585, 0x106aa070,
  0x19a4c116, 0x1e376c08, 0x2748774c, 0x34b0bcb5, 0x391c0cb3, 0x4ed8aa4a, 0x5b9cca4f, 0x682e6ff3,
  0x748f82ee, 0x78a5636f, 0x84c87814, 0x8cc70208, 0x90befffa, 0xa4506ceb, 0xbef9a3f7, 0xc67178f2]

/-- The eight words of the state. -/
structure State where
  a : UInt32
  b : UInt32
  c : UInt32
  d : UInt32
  e : UInt32
  f : UInt32
  g : UInt32
  h : UInt32

/-- The state before the first block. -/
def initial : State :=
  ⟨0x6a09e667, 0xbb67ae85, 0x3c6ef372, 0xa54ff53a, 0x510e527f, 0x9b05688c, 0x1f83d9ab, 0x5be0cd19⟩

/-- Rotation to the right. -/
def rotr (x : UInt32) (n : UInt32) : UInt32 := (x >>> n) ||| (x <<< (32 - n))

/-- A word of four bytes, the first one highest. -/
def word (b₀ b₁ b₂ b₃ : UInt8) : UInt32 :=
  (b₀.toUInt32 <<< 24) ||| (b₁.toUInt32 <<< 16) ||| (b₂.toUInt32 <<< 8) ||| b₃.toUInt32

/-- The next word of the schedule from the ones before it. -/
def expandWord (w : Array UInt32) (i : Nat) : UInt32 :=
  let x := w.getD (i - 15) 0
  let y := w.getD (i - 2) 0
  let s₀ := rotr x 7 ^^^ rotr x 18 ^^^ (x >>> 3)
  let s₁ := rotr y 17 ^^^ rotr y 19 ^^^ (y >>> 10)
  w.getD (i - 16) 0 + s₀ + w.getD (i - 7) 0 + s₁

/-- The 64 words of a block's schedule. -/
def schedule (block : Array UInt32) : Array UInt32 :=
  (List.range 48).foldl (fun w k => w.push (expandWord w (k + 16))) block

/-- One round. -/
def round (w : Array UInt32) (s : State) (i : Nat) : State :=
  let big₁ := rotr s.e 6 ^^^ rotr s.e 11 ^^^ rotr s.e 25
  let ch := (s.e &&& s.f) ^^^ ((~~~ s.e) &&& s.g)
  let t₁ := s.h + big₁ + ch + roundConstants.getD i 0 + w.getD i 0
  let big₀ := rotr s.a 2 ^^^ rotr s.a 13 ^^^ rotr s.a 22
  let maj := (s.a &&& s.b) ^^^ (s.a &&& s.c) ^^^ (s.b &&& s.c)
  ⟨t₁ + big₀ + maj, s.a, s.b, s.c, s.d + t₁, s.e, s.f, s.g⟩

/-- The state after one block. -/
def compress (s : State) (block : Array UInt32) : State :=
  let w := schedule block
  let r := (List.range 64).foldl (round w) s
  ⟨s.a + r.a, s.b + r.b, s.c + r.c, s.d + r.d, s.e + r.e, s.f + r.f, s.g + r.g, s.h + r.h⟩

/-- The state after all blocks; `block` holds the words of the block being filled. -/
def absorb (s : State) (block : Array UInt32) : Bytes → State
  | b₀ :: b₁ :: b₂ :: b₃ :: rest =>
      let block := block.push (word b₀ b₁ b₂ b₃)
      if block.size = 16 then absorb (compress s block) #[] rest else absorb s block rest
  | _ => s

/-- The padding of a message of the given length: a one bit, zeros, and the length in bits. -/
def padding (length : Nat) : Bytes :=
  let zeros := (119 - length % 64) % 64
  0x80 :: List.replicate zeros 0 ++
    (List.range 8).map fun k => UInt8.ofNat (length * 8 / Nat.pow 256 (7 - k) % 256)

/-- Eight hexadecimal digits of a word. -/
def hexWord (x : UInt32) : String :=
  let ds := Nat.toDigits 16 x.toNat
  String.ofList (List.replicate (8 - ds.length) '0' ++ ds)

/-- The hash of a byte string in hexadecimal. -/
def hexDigest (message : Bytes) : String :=
  let s := absorb initial #[] (message ++ padding message.length)
  hexWord s.a ++ hexWord s.b ++ hexWord s.c ++ hexWord s.d ++
    hexWord s.e ++ hexWord s.f ++ hexWord s.g ++ hexWord s.h

end Switchboard.Sha256
