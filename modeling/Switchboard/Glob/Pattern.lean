import Switchboard.Text.Utf8

/-!
# Glob patterns

A glob is a pattern for paths, matched on their bytes and anchored at both ends.

* `?` is any one byte and `*` any number of bytes, the slash included.
* `[a-z]` is one byte of the class, `[!a-z]` or `[^a-z]` one byte outside it. A `]` or `-` that
  comes first, and a `-` that comes last, stand for themselves.
* `{a,b}` is one of its branches; branches may hold groups again, and empty ones are dropped.
* `**` between slashes, at the start before a slash, or at the end after one, spans whole
  directories.
* A backslash makes the next character stand for itself.

This module holds the parsed form and the parser; matching is in `Switchboard.Glob.Match`.
-/

namespace Switchboard.Glob

open Switchboard.Text.Utf8 (Bytes)

/-- One element of a pattern. -/
inductive Token where
  | byte (b : UInt8)
  | any
  | star
  /-- One byte inside the ranges, or outside all of them. -/
  | set (negated : Bool) (ranges : List (UInt8 × UInt8))
  /-- Directories at the start: nothing, one slash, or anything up to a slash. -/
  | leadingDirs
  /-- Everything below a directory: a slash and anything. -/
  | trailingPath
  /-- Directories in between: a slash, or anything between two slashes. -/
  | middleDirs
  | choice (branches : List (List Token))

/-- Why a pattern is refused. -/
inductive Refusal where
  | unclosedClass
  | invalidRange (first last : Char)
  | unopenedGroup
  | unclosedGroup
  | danglingEscape
  deriving DecidableEq, Repr

/-- The reason in words. -/
def Refusal.reason : Refusal → String
  | .unclosedClass => "unclosed character class; missing ']'"
  | .invalidRange first last => s!"invalid range; '{first}' > '{last}'"
  | .unopenedGroup =>
      "unopened alternate group; missing '\x7b' (maybe escape '\x7d' with '[\x7d]'?)"
  | .unclosedGroup =>
      "unclosed alternate group; missing '\x7d' (maybe escape '\x7b' with '[\x7b]'?)"
  | .danglingEscape => "dangling '\\'"

/-- The message for a refused pattern. -/
def Refusal.message (refusal : Refusal) (pattern : String) : String :=
  s!"error parsing glob '{pattern}': {refusal.reason}"

/-- The tokens of a literal character: its bytes. -/
def literal (c : Char) : List Token :=
  (Text.Utf8.encode (String.singleton c)).map .byte

/-- A group still open: the tokens before it, and its finished branches, both in reverse. -/
structure OpenGroup where
  before : List Token
  branches : List (List Token)

/-- The parser's state: the open groups from the inside out, the tokens of the current branch in
reverse, and the character before the one at hand. -/
structure State where
  groups : List OpenGroup := []
  current : List Token := []
  previous : Option Char := none

namespace State

/-- Appends a token to the current branch. -/
def push (st : State) (token : Token) : State :=
  { st with current := token :: st.current }

/-- Appends the bytes of a character to the current branch. -/
def pushChar (st : State) (c : Char) : State :=
  { st with current := (literal c).reverse ++ st.current }

/-- Opens a group. -/
def openGroup (st : State) : State :=
  { st with groups := ⟨st.current, []⟩ :: st.groups, current := [] }

/-- Ends a branch of the innermost group, or stands for itself outside all groups. -/
def comma (st : State) : State :=
  match st.groups with
  | [] => st.pushChar ','
  | group :: groups =>
      { st with
        groups := { group with branches := st.current.reverse :: group.branches } :: groups
        current := [] }

/-- Closes the innermost group. -/
def closeGroup? (st : State) : Option State :=
  match st.groups with
  | [] => none
  | group :: groups =>
      some { st with
        groups
        current := .choice (st.current.reverse :: group.branches).reverse :: group.before }

/-- Two stars that span no directories: any bytes, twice. -/
def plainStars (st : State) : State :=
  (st.push .star).push .star

/-- Replaces the last token by a token for directories, unless it already stands for leading
directories or for everything below one. -/
def spanDirs (st : State) (token : Token) : State :=
  match st.current with
  | .leadingDirs :: _ | .trailingPath :: _ => st
  | _ :: rest => { st with current := token :: rest }
  | [] => st

/-- Two stars, with the characters after them: the new state and the characters still unread. -/
def twoStars (st : State) (rest : List Char) : State × List Char :=
  let inGroup := !st.groups.isEmpty
  if st.current.isEmpty then
    match rest with
    | [] => (st.push .leadingDirs, [])
    | '/' :: rest => ({ st.push .leadingDirs with previous := some '/' }, rest)
    | _ => ({ st.plainStars with previous := some '*' }, rest)
  else if st.previous ≠ some '/' &&
      (!inGroup || (st.previous ≠ some ',' && st.previous ≠ some '{')) then
    ({ st.plainStars with previous := some '*' }, rest)
  else
    match rest with
    | [] => (st.spanDirs .trailingPath, [])
    | '/' :: rest => ({ st.spanDirs .middleDirs with previous := some '/' }, rest)
    | c :: _ =>
        if inGroup && (c = ',' || c = '}') then
          ({ st.spanDirs .trailingPath with previous := some '*' }, rest)
        else ({ st.plainStars with previous := some '*' }, rest)

end State

/-! ## Classes -/

/-- The byte ranges of a range of characters: bytes before the last one of its first character,
the range from there to the first byte of its last character, and the bytes after that. -/
def byteRanges (range : Char × Char) : List (UInt8 × UInt8) :=
  let first := Text.Utf8.encode (String.singleton range.1)
  let last := Text.Utf8.encode (String.singleton range.2)
  if range.1 = range.2 then first.map fun b => (b, b)
  else
    first.dropLast.map (fun b => (b, b)) ++
      [(first.getLast?.getD 0, last.head?.getD 0)] ++ last.tail.map fun b => (b, b)

/-- The rest of a class. `ranges` is in reverse; `isFirst` until a character is taken, `inRange`
after the dash of a range. -/
def readClass (negated : Bool) : List Char → List (Char × Char) → Bool → Bool →
    Except Refusal (Token × List Char)
  | [], _, _, _ => .error .unclosedClass
  | c :: rest, ranges, isFirst, inRange =>
      if c = ']' && !isFirst then
        let ranges := if inRange then ('-', '-') :: ranges else ranges
        .ok (.set negated (ranges.reverse.flatMap byteRanges), rest)
      else if c = '-' && !isFirst && !inRange then
        readClass negated rest ranges false true
      else if inRange then
        match ranges with
        | (first, _) :: ranges =>
            if c < first then .error (.invalidRange first c)
            else readClass negated rest ((first, c) :: ranges) false false
        | [] => readClass negated rest [(c, c)] false false
      else readClass negated rest ((c, c) :: ranges) false false

/-- A class after its opening bracket. -/
def readClassStart : List Char → Except Refusal (Token × List Char)
  | '!' :: rest => readClass true rest [] true false
  | '^' :: rest => readClass true rest [] true false
  | rest => readClass false rest [] true false

/-! ## Patterns -/

/-- Parses the characters of a pattern one after the other. -/
def parseFrom : Nat → State → List Char → Except Refusal State
  | 0, st, _ => .ok st
  | _ + 1, st, [] => .ok st
  | fuel + 1, st, c :: rest =>
      match c with
      | '?' => parseFrom fuel { st.push .any with previous := some c } rest
      | '*' =>
          match rest with
          | '*' :: rest =>
              let (st, rest) := st.twoStars rest
              parseFrom fuel st rest
          | _ => parseFrom fuel { st.push .star with previous := some c } rest
      | '[' =>
          match readClassStart rest with
          | .error refusal => .error refusal
          | .ok (token, rest) => parseFrom fuel { st.push token with previous := some ']' } rest
      | '{' => parseFrom fuel { st.openGroup with previous := some c } rest
      | '}' =>
          match st.closeGroup? with
          | none => .error .unopenedGroup
          | some st => parseFrom fuel { st with previous := some c } rest
      | ',' => parseFrom fuel { st.comma with previous := some c } rest
      | '\\' =>
          match rest with
          | [] => .error .danglingEscape
          | e :: rest => parseFrom fuel { st.pushChar e with previous := some e } rest
      | c => parseFrom fuel { st.pushChar c with previous := some c } rest

/-- A parsed pattern. -/
structure Pattern where
  tokens : List Token

/-- Parses a pattern. -/
def parse (pattern : String) : Except Refusal Pattern :=
  let chars := pattern.toList
  match parseFrom (chars.length + 1) {} chars with
  | .error refusal => .error refusal
  | .ok st => if st.groups.isEmpty then .ok ⟨st.current.reverse⟩ else .error .unclosedGroup

end Switchboard.Glob
