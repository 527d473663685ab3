import Switchboard.Text.Blank

/-!
# Cutting and joining texts

The operations on texts that the rest of the library shares. Each one is defined on the list of
characters, where it is structurally recursive, and lifted to `String`.

Counts are counts of characters. A line ends at a line feed; one carriage return right before
the line feed belongs to the line end, any other carriage return belongs to the line.
-/

namespace Switchboard.Text

/-! ## Lists of characters -/

/-- What remains of `chars` after `lead`, if `chars` starts with `lead`. -/
def dropLead? : List Char → List Char → Option (List Char)
  | [], chars => some chars
  | _ :: _, [] => none
  | l :: lead, c :: chars => if l = c then dropLead? lead chars else none

/-- Removes every leading copy of `lead`. -/
def dropLeads (lead : List Char) (chars : List Char) : List Char :=
  go chars.length chars
where
  /-- Removes at most the given number of leading copies. -/
  go : Nat → List Char → List Char
    | 0, chars => chars
    | fuel + 1, chars =>
        if lead.isEmpty then chars
        else
          match dropLead? lead chars with
          | some rest => go fuel rest
          | none => chars

/-- Cuts at the first occurrence of `mark`: what stands before it and what stands after it. -/
def cutAt? (mark : List Char) : List Char → Option (List Char × List Char)
  | [] => if mark.isEmpty then some ([], []) else none
  | c :: rest =>
      match dropLead? mark (c :: rest) with
      | some after => some ([], after)
      | none => (cutAt? mark rest).map fun (before, after) => (c :: before, after)

/-- Whether `part` occurs in the text. -/
def hasPart (part : List Char) : List Char → Bool
  | [] => part.isEmpty
  | c :: rest => (dropLead? part (c :: rest)).isSome || hasPart part rest

/-- The pieces between the characters that satisfy `sep`, empty ones included. -/
def splitChars (sep : Char → Bool) : List Char → List (List Char)
  | [] => [[]]
  | c :: rest =>
      if sep c then [] :: splitChars sep rest
      else
        match splitChars sep rest with
        | [] => [[c]]
        | piece :: pieces => (c :: piece) :: pieces

/-- The pieces between the occurrences of a non-empty `mark`, found from the left. -/
def splitMark (mark : List Char) (chars : List Char) : List (List Char) :=
  go chars.length chars
where
  /-- Cuts at most the given number of times. -/
  go : Nat → List Char → List (List Char)
    | 0, chars => [chars]
    | fuel + 1, chars =>
        match cutAt? mark chars with
        | some (before, after) => before :: go fuel after
        | none => [chars]

/-- Drops the characters satisfying `p` from both ends. -/
def trimChars (p : Char → Bool) (chars : List Char) : List Char :=
  ((chars.dropWhile p).reverse.dropWhile p).reverse

/-- Drops the characters satisfying `p` from the end. -/
def trimCharsEnd (p : Char → Bool) (chars : List Char) : List Char :=
  (chars.reverse.dropWhile p).reverse

/-- A finished line, given its characters in reverse: one carriage return at the end belongs to
the line end. -/
def closeLine : List Char → List Char
  | '\r' :: rest => rest.reverse
  | line => line.reverse

/-- The lines of a text, after the lines already finished and the characters already read of the
current one, both in reverse. -/
def linesFrom (done : List (List Char)) (current : List Char) : List Char → List (List Char)
  | [] => (if current.isEmpty then done else current.reverse :: done).reverse
  | c :: rest =>
      if c = '\n' then linesFrom (closeLine current :: done) [] rest
      else linesFrom done (c :: current) rest

/-! ## Texts -/

/-- The lines of a text; a line feed at the very end opens no further line. -/
def lines (text : String) : List String :=
  (linesFrom [] [] text.toList).map String.ofList

/-- Without the white space at both ends. -/
def trim (text : String) : String :=
  String.ofList (trimChars isBlank text.toList)

/-- Without the white space at the start. -/
def trimStart (text : String) : String :=
  String.ofList (text.toList.dropWhile isBlank)

/-- Without the white space at the end. -/
def trimEnd (text : String) : String :=
  String.ofList (trimCharsEnd isBlank text.toList)

/-- What follows `lead`, if the text starts with it. -/
def after? (lead text : String) : Option String :=
  (dropLead? lead.toList text.toList).map String.ofList

/-- Whether the text starts with `lead`. -/
def startsWith (lead text : String) : Bool :=
  (dropLead? lead.toList text.toList).isSome

/-- Whether the text ends with `tail`. -/
def endsWith (tail text : String) : Bool :=
  (dropLead? tail.toList.reverse text.toList.reverse).isSome

/-- Whether `part` occurs in the text. -/
def contains (part text : String) : Bool :=
  hasPart part.toList text.toList

/-- The pieces between occurrences of one character. -/
def splitAt (sep : Char) (text : String) : List String :=
  (splitChars (· = sep) text.toList).map String.ofList

/-- The words of a text: the non-empty pieces between white space. -/
def words (text : String) : List String :=
  ((splitChars isBlank text.toList).filter (!·.isEmpty)).map String.ofList

/-- Replaces every occurrence of `mark` by `image`, from the left. -/
def replaceAll (mark image text : String) : String :=
  image.intercalate ((splitMark mark.toList text.toList).map String.ofList)

/-- Joins texts with a separator. -/
def join (sep : String) (texts : List String) : String :=
  sep.intercalate texts

/-- The text, or its first `limit` characters followed by an ellipsis if it is longer. -/
def clip (limit : Nat) (text : String) : String :=
  if text.length > limit then String.ofList (text.toList.take limit) ++ "..." else text

/-- Pads with blanks on the right up to `width` characters; longer texts stay whole. -/
def padRight (width : Nat) (text : String) : String :=
  text ++ String.ofList (List.replicate (width - text.length) ' ')

/-- Pads with blanks on the left up to `width` characters; longer texts stay whole. -/
def padLeft (width : Nat) (text : String) : String :=
  String.ofList (List.replicate (width - text.length) ' ') ++ text

/-- Equality that does not tell apart the two cases of the letters `a` to `z`. -/
def sameIgnoringCase (a b : String) : Bool :=
  a.toList.map Char.toLower == b.toList.map Char.toLower

/-- The longest lead of at most `bytes` bytes of UTF-8, if it has exactly that many. -/
def leadBytes? : Nat → List Char → Option (List Char)
  | 0, _ => some []
  | _ + 1, [] => none
  | bytes + 1, c :: rest =>
      if c.utf8Size ≤ bytes + 1 then
        (leadBytes? (bytes + 1 - c.utf8Size) rest).map (c :: ·)
      else none
termination_by bytes => bytes
decreasing_by
  have := Char.utf8Size_pos c
  omega

/-- The short form of an identifier: its first eight bytes where they hold whole characters,
otherwise all of it. -/
def shortId (id : String) : String :=
  match leadBytes? 8 id.toList with
  | some lead => String.ofList lead
  | none => id

/-- The decimal digits of a number in groups of three. -/
def groupDigits (n : Nat) : String :=
  String.ofList (go 0 (toString n).toList.reverse [])
where
  /-- Walks the digits from the last one, putting a comma after every third. -/
  go : Nat → List Char → List Char → List Char
    | _, [], out => out
    | k, d :: rest, out =>
        go (k + 1) rest (d :: (if k > 0 ∧ k % 3 = 0 then ',' :: out else out))

end Switchboard.Text
