/-!
# Punycode

A label with characters beyond ASCII is written with ASCII characters alone: first those it has,
then, after a dash, where the others go. The others come in the order of their code points; each is
given by the number of positions passed over since the one before, as digits in base 36 whose
thresholds adapt to the numbers already written.

Main statements: reading a number takes at least one digit, so that decoding ends.
-/

namespace Switchboard.Url.Punycode

/-- The digit with a value below 36. -/
def digitChar (d : Nat) : Char :=
  if d < 26 then Char.ofNat (97 + d) else Char.ofNat (48 + d - 26)

/-- The value of a digit. -/
def digitValue? (c : Char) : Option Nat :=
  if 'a' ≤ c ∧ c ≤ 'z' then some (c.toNat - 97)
  else if 'A' ≤ c ∧ c ≤ 'Z' then some (c.toNat - 65)
  else if c.isDigit then some (c.toNat - 48 + 26)
  else none

/-- The threshold of a digit: a digit below it is the last one of its number. -/
def threshold (position bias : Nat) : Nat :=
  if position ≤ bias then 1 else min 26 (position - bias)

theorem threshold_pos (position bias : Nat) : 1 ≤ threshold position bias := by
  unfold threshold
  split <;> omega

/-- Brings a number down to the range of one digit, counting the digits. -/
def scale (delta position : Nat) : Nat × Nat :=
  if 455 < delta then scale (delta / 35) (position + 36) else (delta, position)
termination_by delta
decreasing_by exact Nat.div_lt_self (by omega) (by omega)

/-- The bias after a number, which was the first one or a later one. -/
def adapt (delta points : Nat) (first : Bool) : Nat :=
  let delta := if first then delta / 700 else delta / 2
  let (delta, position) := scale (delta + delta / points) 0
  position + 36 * delta / (delta + 38)

/-! ## Writing -/

/-- The digits of a number, the lowest first. -/
def numberDigits (bias position n : Nat) : List Char :=
  let t := threshold position bias
  if n < t then [digitChar n]
  else
    digitChar (t + (n - t) % (36 - t)) ::
      numberDigits bias (position + 36) ((n - t) / (36 - t))
termination_by n
decreasing_by
  have := threshold_pos position bias
  have : (n - threshold position bias) / (36 - threshold position bias) ≤
      n - threshold position bias := Nat.div_le_self _ _
  omega

/-- What has been written, and the state of the numbers. -/
structure Writing where
  digits : List Char := []
  /-- The positions passed over since the last character. -/
  delta : Nat := 0
  bias : Nat := 72
  /-- The characters already placed. -/
  placed : Nat

/-- Passes over a character, or writes it if it is the one whose turn it is. -/
def Writing.see (basic point : Nat) (w : Writing) (c : Char) : Writing :=
  if c.toNat < point then { w with delta := w.delta + 1 }
  else if c.toNat = point then
    { digits := w.digits ++ numberDigits w.bias 36 w.delta
      delta := 0
      bias := adapt w.delta (w.placed + 1) (w.placed = basic)
      placed := w.placed + 1 }
  else w

/-- Writes the code points from `next` on, in increasing order. -/
def Writing.points (label : List Char) (basic : Nat) : List Nat → Nat → Writing → Writing
  | [], _, w => w
  | point :: points, next, w =>
      let w := { w with delta := w.delta + (point - next) * (w.placed + 1) }
      let w := label.foldl (Writing.see basic point) w
      Writing.points label basic points (point + 1) { w with delta := w.delta + 1 }

/-- The ASCII form of a label, without the mark that tells it from other labels. -/
def encode (label : List Char) : List Char :=
  let basic := label.filter (·.toNat < 128)
  let others := (label.filter (·.toNat ≥ 128)).map Char.toNat
  let points := (others.mergeSort fun a b => a ≤ b).eraseReps
  let w := Writing.points label basic.length points 128 { placed := basic.length }
  basic ++ (if basic.isEmpty then [] else ['-']) ++ w.digits

/-! ## Reading -/

/-- Reads a number on top of `sum`, and what follows it. -/
def readNumber? (bias : Nat) : List Char → Nat → Nat → Nat → Option (Nat × List Char)
  | [], _, _, _ => none
  | c :: rest, position, weight, sum =>
      match digitValue? c with
      | none => none
      | some d =>
          if d < threshold position bias then some (sum + d * weight, rest)
          else
            readNumber? bias rest (position + 36) (weight * (36 - threshold position bias))
              (sum + d * weight)

/-- A number has at least one digit. -/
theorem length_readNumber? (bias : Nat) (chars : List Char) (position weight sum : Nat)
    (found : Nat × List Char) (h : readNumber? bias chars position weight sum = some found) :
    found.2.length < chars.length := by
  induction chars generalizing position weight sum with
  | nil => simp [readNumber?] at h
  | cons c rest ih =>
      rw [readNumber?] at h
      split at h
      · simp at h
      · split at h
        · cases h
          simp
        · have := ih _ _ _ h
          simp only [List.length_cons]
          omega

/-- Whether a number is a code point of a character. -/
def isPoint (n : Nat) : Bool :=
  n < 0xD800 || (0xDFFF < n && n < 0x110000)

/-- Puts the characters into a label one after the other. -/
def place? (bias point sum : Nat) (label chars : List Char) : Option (List Char) :=
  if chars.isEmpty then some label
  else
    match _found : readNumber? bias chars 36 1 sum with
    | none => none
    | some (total, rest) =>
        let count := label.length + 1
        let next := point + total / count
        if isPoint next then
          place? (adapt (total - sum) count (sum = 0)) next (total % count + 1)
            (label.insertIdx (total % count) (Char.ofNat next)) rest
        else none
termination_by chars.length
decreasing_by exact length_readNumber? _ _ _ _ _ _ ‹_›

/-- The label of an ASCII form. -/
def decode? (chars : List Char) : Option (List Char) :=
  let back := chars.reverse
  let tail := (back.takeWhile (· ≠ '-')).reverse
  let basic := (back.drop (tail.length + 1)).reverse
  if basic.all (·.toNat < 128) then place? 72 128 0 basic tail else none

end Switchboard.Url.Punycode
