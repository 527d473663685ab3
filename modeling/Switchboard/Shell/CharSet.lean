/-!
# Sets of characters

What stands between brackets in a pattern: single characters, ranges and named classes, all of
them or none of them. Characters beyond ASCII belong to no class.
-/

namespace Switchboard.Shell

/-- A set of characters. -/
structure CharSet where
  /-- Whether it holds the characters that are not listed. -/
  negated : Bool := false
  ranges : List (Char × Char)

namespace CharSet

/-- Whether a character is in a set. -/
def contains (set : CharSet) (c : Char) : Bool :=
  (set.ranges.any fun (low, high) => low ≤ c && c ≤ high) != set.negated

/-- The ranges of a named class. -/
def classRanges? (name : String) : Option (List (Char × Char)) :=
  match name with
  | "upper" => some [('A', 'Z')]
  | "lower" => some [('a', 'z')]
  | "digit" => some [('0', '9')]
  | "alpha" => some [('A', 'Z'), ('a', 'z')]
  | "alnum" => some [('0', '9'), ('A', 'Z'), ('a', 'z')]
  | "space" => some [('\t', '\r'), (' ', ' ')]
  | "blank" => some [('\t', '\t'), (' ', ' ')]
  | "punct" => some [('!', '/'), (':', '@'), ('[', '\x60'), ('\x7b', '~')]
  | "print" => some [(' ', '~')]
  | "graph" => some [('!', '~')]
  | "cntrl" => some [('\x00', '\x1f'), ('\x7f', '\x7f')]
  | "xdigit" => some [('0', '9'), ('A', 'F'), ('a', 'f')]
  | _ => none

/-- The class that a text begins with, and what follows it. -/
def readClass? (chars : List Char) : Option (List (Char × Char) × List Char) :=
  match chars with
  | '[' :: ':' :: rest =>
      let name := rest.takeWhile Char.isAlpha
      match rest.drop name.length with
      | ':' :: ']' :: after => (classRanges? (String.ofList name)).map fun ranges => (ranges, after)
      | _ => none
  | _ => none

/-- The items of a set up to the bracket that closes it, and what follows that. A bracket that
comes first is an item. -/
def readItems : Nat → List (Char × Char) → List Char → Option (List (Char × Char) × List Char)
  | 0, _, _ => none
  | _ + 1, _, [] => none
  | fuel + 1, done, c :: rest =>
      if c = ']' && !done.isEmpty then some (done, rest)
      else
        match readClass? (c :: rest) with
        | some (ranges, after) => readItems fuel (done ++ ranges) after
        | none =>
            match rest with
            | '-' :: ']' :: _ => readItems fuel (done ++ [(c, c)]) rest
            | '-' :: high :: after => readItems fuel (done ++ [(c, high)]) after
            | rest => readItems fuel (done ++ [(c, c)]) rest

/-- A set after the bracket that opens it, and what follows it. -/
def read? (chars : List Char) : Option (CharSet × List Char) :=
  let (negated, chars) := match chars with
    | '!' :: rest | '^' :: rest => (true, rest)
    | chars => (false, chars)
  (readItems (chars.length + 1) [] chars).map fun (ranges, rest) => (⟨negated, ranges⟩, rest)

end CharSet

end Switchboard.Shell
