import Switchboard.Shell.CharSet

/-!
# Regular expressions

Expressions in the two usual notations, in which the operators are written with or without a
backslash. A match is the longest one at the first position where there is one; of several ways to
reach it the first one in the order of the expression counts.

Expressions are matched against lines, whose characters are their bytes.
-/

namespace Switchboard.Shell

/-- A regular expression. -/
inductive Regex where
  | empty
  | char (c : Char)
  | any
  | oneOf (set : CharSet)
  | lineStart
  | lineEnd
  /-- The edge of a word: its start, its end, or both. -/
  | edge (start finish : Bool)
  | noEdge
  /-- What a group matched before. -/
  | again (group : Nat)
  | group (number : Nat) (inner : Regex)
  | seq (first second : Regex)
  | either (first second : Regex)
  | repeated (inner : Regex) (least : Nat) (most : Option Nat)
  deriving Inhabited

namespace Regex

/-! ## Matching -/

/-- A position in a line, with the groups that were matched on the way there. -/
structure Reached where
  position : Nat
  groups : List (Nat × Nat × Nat) := []

/-- Whether a character belongs to words. -/
def isWordChar (c : Char) : Bool := c.isAlphanum || c = '_'

/-- Whether a word begins or ends at a position. -/
def edges (row : Array Char) (position : Nat) : Bool × Bool :=
  let inside (k : Nat) : Bool := row[k]?.any isWordChar
  let before := position > 0 && inside (position - 1)
  let after := inside position
  (!before && after, before && !after)

/-- Keeps the first of those that reached the same position. -/
def firsts (reached : List Reached) : List Reached :=
  reached.foldl (fun done r =>
    if done.any (·.position = r.position) then done else done ++ [r]) []

/-- Whether two characters are the same, perhaps but for their case. -/
def sameChar (ignoreCase : Bool) (a b : Char) : Bool :=
  a = b || (ignoreCase && a.toLower = b.toLower)

/-- Whether a set has a character, perhaps in another case. -/
def inSet (ignoreCase : Bool) (set : CharSet) (c : Char) : Bool :=
  if ignoreCase then
    let found (d : Char) : Bool := set.contains d != set.negated
    (found c || found c.toLower || found c.toUpper) != set.negated
  else set.contains c

/-- A step over one character, if it is fitting. -/
def stepOver (row : Array Char) (fitting : Char → Bool) (r : Reached) : List Reached :=
  match row[r.position]? with
  | some c => if fitting c then [{ r with position := r.position + 1 }] else []
  | none => []

/-- Goes on from each position by a step, up to `most` times, and keeps those who went on at least
`least` times; the ones who went on longest come first. -/
def iterate (step : Reached → List Reached) : Nat → Nat → Option Nat → Reached → List Reached
  | 0, least, _, r => if least = 0 then [r] else []
  | fuel + 1, least, most, r =>
      if most = some 0 then [r]
      else
        let farther := (step r).filter fun next => next.position > r.position || least > 0
        let most := most.map (· - 1)
        let reached := farther.flatMap fun next => iterate step fuel (least - 1) most next
        firsts (if least = 0 then reached ++ [r] else reached)

/-- The positions that an expression reaches from a position, in the order of preference. -/
def reach (row : Array Char) (ignoreCase : Bool) : Regex → Reached → List Reached
  | .empty, r => [r]
  | .char c, r => stepOver row (sameChar ignoreCase c) r
  | .any, r => stepOver row (fun _ => true) r
  | .oneOf set, r => stepOver row (inSet ignoreCase set) r
  | .lineStart, r => if r.position = 0 then [r] else []
  | .lineEnd, r => if r.position = row.size then [r] else []
  | .edge start finish, r =>
      let (starts, ends) := edges row r.position
      if (start && starts) || (finish && ends) then [r] else []
  | .noEdge, r =>
      let (starts, ends) := edges row r.position
      if starts || ends then [] else [r]
  | .again number, r =>
      match r.groups.find? (·.1 = number) with
      | none => []
      | some (_, start, stop) =>
          let size := stop - start
          let same := (List.range size).all fun k =>
            match row[start + k]?, row[r.position + k]? with
            | some a, some b => sameChar ignoreCase a b
            | _, _ => false
          if same then [{ r with position := r.position + size }] else []
  | .group number inner, r =>
      (reach row ignoreCase inner r).map fun next =>
        { next with groups := (number, r.position, next.position) :: next.groups }
  | .seq first second, r =>
      firsts ((reach row ignoreCase first r).flatMap (reach row ignoreCase second))
  | .either first second, r =>
      firsts (reach row ignoreCase first r ++ reach row ignoreCase second r)
  | .repeated inner least most, r =>
      iterate (reach row ignoreCase inner) (row.size + least + 1) least most r

/-- The longest match from a position. -/
def longest? (regex : Regex) (ignoreCase : Bool) (row : Array Char) (position : Nat) :
    Option Reached :=
  (reach row ignoreCase regex { position }).foldl (fun best r =>
    match best with
    | some b => if r.position > b.position then some r else best
    | none => some r) none

/-- A match: where it starts and what it reached. -/
structure Found where
  start : Nat
  reached : Reached

/-- The first match that starts at one of some positions. -/
def searchFrom (regex : Regex) (ignoreCase : Bool) (row : Array Char) :
    List Nat → Option Found
  | [] => none
  | position :: positions =>
      match regex.longest? ignoreCase row position with
      | some reached => some ⟨position, reached⟩
      | none => searchFrom regex ignoreCase row positions

/-- The first match from a position on. -/
def search? (regex : Regex) (ignoreCase : Bool) (row : Array Char) (start : Nat) : Option Found :=
  regex.searchFrom ignoreCase row ((List.range (row.size + 1 - start)).map (start + ·))

/-- All matches that do not overlap, from a position on. A match of nothing right after another
match does not count. -/
def searchAll (regex : Regex) (ignoreCase : Bool) (row : Array Char) :
    Nat → Nat → Option Nat → List Found
  | 0, _, _ => []
  | fuel + 1, start, last =>
      match regex.search? ignoreCase row start with
      | none => []
      | some found =>
          let stop := found.reached.position
          if stop = found.start then
            let more := searchAll regex ignoreCase row fuel (stop + 1) none
            if last = some stop then more else found :: more
          else found :: searchAll regex ignoreCase row fuel stop (some stop)

/-- The part of a line that a group matched; group zero is the whole match. -/
def Found.text (row : Array Char) (found : Found) (group : Nat) : List Char :=
  let part (start stop : Nat) := (row.toList.drop start).take (stop - start)
  if group = 0 then part found.start found.reached.position
  else
    match found.reached.groups.find? (·.1 = group) with
    | some (_, start, stop) => part start stop
    | none => []

/-! ## Reading -/

/-- The state of a reader: what is left, and the number of groups that were opened. -/
structure Reading where
  rest : List Char
  groups : Nat := 0
  depth : Nat := 0

/-- An expression that was read, or why it could not be. -/
abbrev ReadResult := Except String (Regex × Reading)

/-- The operators that a text can begin with. -/
inductive Operator where
  | opening
  | closing
  | alternative
  | star
  | plus
  | question
  | bound
  deriving DecidableEq

/-- The operator that a text begins with, and what follows it. -/
def operator? (extended : Bool) (chars : List Char) : Option (Operator × List Char) :=
  let named : Char → Option Operator
    | '(' => some .opening
    | ')' => some .closing
    | '|' => some .alternative
    | '+' => some .plus
    | '?' => some .question
    | '\x7b' => some .bound
    | _ => none
  match chars with
  | '*' :: rest => some (.star, rest)
  | '\\' :: c :: rest => if extended then none else (named c).map (·, rest)
  | c :: rest => if extended then (named c).map (·, rest) else none
  | [] => none

/-- The bounds of a repetition after the brace that opens them, and what follows. -/
def readBounds? (extended : Bool) (chars : List Char) : Option (Nat × Option Nat × List Char) :=
  let number (digits : List Char) : Nat := digits.foldl (fun n c => 10 * n + (c.toNat - 48)) 0
  let low := chars.takeWhile Char.isDigit
  let (least, most, rest) : Nat × Option Nat × List Char := match chars.drop low.length with
    | ',' :: rest =>
        let high := rest.takeWhile Char.isDigit
        (number low, if high.isEmpty then none else some (number high), rest.drop high.length)
    | rest => (number low, some (number low), rest)
  match extended, rest with
  | true, '\x7d' :: rest => some (least, most, rest)
  | false, '\\' :: '\x7d' :: rest => some (least, most, rest)
  | _, _ => none

/-- The expression of an escape. -/
def escaped (c : Char) : Regex :=
  let word : CharSet := ⟨false, [('0', '9'), ('A', 'Z'), ('a', 'z'), ('_', '_')]⟩
  let space : CharSet := ⟨false, [('\t', '\r'), (' ', ' ')]⟩
  match c with
  | 'w' => .oneOf word
  | 'W' => .oneOf { word with negated := true }
  | 's' => .oneOf space
  | 'S' => .oneOf { space with negated := true }
  | 'b' => .edge true true
  | '<' => .edge true false
  | '>' => .edge false true
  | 'B' => .noEdge
  | '\x60' => .lineStart
  | '\'' => .lineEnd
  | 'n' => .char '\n'
  | 't' => .char '\t'
  | c => if '1' ≤ c ∧ c ≤ '9' then .again (c.toNat - 48) else .char c

/-- What is said of a set that is not closed. -/
def unmatchedBracket : String := "Unmatched [, [^, [:, [., or [="

/-- Whether a dollar sign is at an end, where it stands for the end of the line. -/
def atEnd (extended : Bool) (rest : List Char) : Bool :=
  extended || rest.isEmpty ||
    match operator? extended rest with
    | some (.closing, _) | some (.alternative, _) => true
    | _ => false

mutual

/-- Alternatives. -/
def readAlternatives (extended : Bool) : Nat → Reading → ReadResult
  | 0, _ => .error "Regular expression too big"
  | fuel + 1, s => do
      let (first, s) ← readSequence extended fuel true .empty s
      match operator? extended s.rest with
      | some (.alternative, rest) =>
          let (second, s) ← readAlternatives extended fuel { s with rest }
          return (.either first second, s)
      | _ => return (first, s)

/-- Expressions one after the other; `atStart` says whether none has been read yet. -/
def readSequence (extended : Bool) : Nat → Bool → Regex → Reading → ReadResult
  | 0, _, _, _ => .error "Regular expression too big"
  | fuel + 1, atStart, done, s =>
      let goOn (regex : Regex) (s : Reading) : ReadResult := do
        let (regex, s) ← readRepetitions extended fuel regex s
        readSequence extended fuel false (.seq done regex) s
      match s.rest, operator? extended s.rest with
      | [], _ => .ok (done, s)
      | _, some (.alternative, _) => .ok (done, s)
      | _, some (.closing, rest) =>
          if s.depth > 0 then .ok (done, s)
          else if extended then goOn (.char ')') { s with rest }
          else .error "Unmatched ) or \\)"
      | _, some (.opening, rest) => do
          let number := s.groups + 1
          let (inner, s') ← readAlternatives extended fuel
            { rest, groups := number, depth := s.depth + 1 }
          match operator? extended s'.rest with
          | some (.closing, rest) =>
              goOn (.group number inner) { s' with rest, depth := s.depth }
          | _ => .error "Unmatched ( or \\("
      | _, some (.star, rest) =>
          if atStart then
            if extended then readSequence extended fuel true done { s with rest }
            else goOn (.char '*') { s with rest }
          else goOn (.char '*') { s with rest }
      | _, some (.plus, rest) => goOn (.char '+') { s with rest }
      | _, some (.question, rest) => goOn (.char '?') { s with rest }
      | _, some (.bound, rest) =>
          if extended then goOn (.char '\x7b') { s with rest }
          else .error "Invalid preceding regular expression"
      | '^' :: rest, none =>
          if extended || atStart then readSequence extended fuel atStart (.seq done .lineStart)
            { s with rest }
          else goOn (.char '^') { s with rest }
      | '$' :: rest, none =>
          if atEnd extended rest then goOn .lineEnd { s with rest }
          else goOn (.char '$') { s with rest }
      | '.' :: rest, none => goOn .any { s with rest }
      | '[' :: rest, none =>
          match readSet? rest with
          | some (set, rest) => goOn (.oneOf set) { s with rest }
          | none => .error unmatchedBracket
      | ['\\'], none => .error "Trailing backslash"
      | '\\' :: c :: rest, none =>
          match escaped c with
          | .again number =>
              if number > s.groups then .error "Invalid back reference"
              else goOn (.again number) { s with rest }
          | regex => goOn regex { s with rest }
      | c :: rest, none => goOn (.char c) { s with rest }

/-- The repetitions after an expression. -/
def readRepetitions (extended : Bool) : Nat → Regex → Reading → ReadResult
  | 0, _, _ => .error "Regular expression too big"
  | fuel + 1, regex, s =>
      match operator? extended s.rest with
      | some (.star, rest) =>
          readRepetitions extended fuel (.repeated regex 0 none) { s with rest }
      | some (.plus, rest) =>
          readRepetitions extended fuel (.repeated regex 1 none) { s with rest }
      | some (.question, rest) =>
          readRepetitions extended fuel (.repeated regex 0 (some 1)) { s with rest }
      | some (.bound, rest) =>
          match readBounds? extended rest with
          | some (least, most, rest) =>
              if most.any (· < least) then .error "Invalid content of \\\x7b\\\x7d"
              else readRepetitions extended fuel (.repeated regex least most) { s with rest }
          | none => if extended then .ok (regex, s) else .error "Unmatched \\\x7b"
      | _ => .ok (regex, s)

/-- A set after the bracket that opens it. An exclamation mark has no meaning here. -/
def readSet? (chars : List Char) : Option (CharSet × List Char) :=
  match chars with
  | '!' :: rest => (CharSet.read? ('^' :: '!' :: rest)).map fun (set, rest) =>
      ({ set with negated := false }, rest)
  | chars => CharSet.read? chars

end

/-- Reads an expression in the extended or in the basic notation. -/
def ofChars (extended : Bool) (chars : List Char) : Except String Regex :=
  (readAlternatives extended (4 * chars.length + 8) { rest := chars }).map (·.1)

/-- The expression that matches a text and nothing else. -/
def ofText (chars : List Char) : Regex :=
  chars.foldr (fun c regex => .seq (.char c) regex) .empty

end Regex

end Switchboard.Shell
