import Switchboard.Shell.Regex
import Switchboard.Shell.Utility.Stream

/-!
# Searching lines

Lines that match one of several patterns are selected, and written with what the options ask for.
-/

namespace Switchboard.Shell.Utility

open Switchboard.Text.Utf8 (Bytes)

/-- The characters of bytes, one for each. -/
def byteChars (bytes : Bytes) : List Char := bytes.map fun b => Char.ofNat b.toNat

/-- The bytes of characters that stand for one each. -/
def charsBytes (chars : List Char) : Bytes := chars.map fun c => UInt8.ofNat c.toNat

/-- The characters of a text, one for each of its bytes. -/
def textChars (text : String) : List Char := byteChars (Text.Utf8.encode text)

/-- How lines are searched. -/
structure Search where
  patterns : List Regex
  ignoreCase : Bool := false
  /-- Only whole words match. -/
  words : Bool := false
  /-- Only whole lines match. -/
  lines : Bool := false

/-- Whether a match from one position to another counts. -/
def Search.counts (search : Search) (row : Array Char) (start stop : Nat) : Bool :=
  let isWord (k : Nat) : Bool := row[k]?.any Regex.isWordChar
  (!search.lines || (start = 0 && stop = row.size)) &&
    (!search.words || (!(start > 0 && isWord (start - 1)) && !isWord stop))

/-- The end of the longest match from a position that counts. -/
def Search.stop? (search : Search) (line : Array Char) (start : Nat) : Option Nat :=
  let stops := search.patterns.flatMap fun regex =>
    (Regex.reach line search.ignoreCase regex { position := start }).map (·.position)
  (stops.filter (search.counts line start)).foldl (fun best stop =>
    match best with
    | some b => some (max b stop)
    | none => some stop) none

/-- The first match from a position on. -/
def Search.first? (search : Search) (line : Array Char) (start : Nat) : Option (Nat × Nat) :=
  ((List.range (line.size + 1 - start)).map (start + ·)).findSome? fun position =>
    (search.stop? line position).map fun stop => (position, stop)

/-- All matches that hold something, from a position on. -/
def Search.all (search : Search) (line : Array Char) : Nat → Nat → List (Nat × Nat)
  | 0, _ => []
  | fuel + 1, start =>
      match search.first? line start with
      | none => []
      | some (first, stop) =>
          if stop = first then search.all line fuel (first + 1)
          else (first, stop) :: search.all line fuel stop

/-- A line with what has been found out about it. -/
structure SearchedLine where
  number : Nat
  /-- The position of its first byte. -/
  offset : Nat
  text : Array Char
  selected : Bool

/-- Searches lines, given the number and the offset of the first one. -/
def searchLines (search : Search) (inverted : Bool) : Nat → Nat → List Bytes → List SearchedLine
  | _, _, [] => []
  | number, offset, line :: rest =>
      let text := (byteChars (bare line)).toArray
      let selected := (search.first? text 0).isSome != inverted
      ⟨number, offset, text, selected⟩ ::
        searchLines search inverted (number + 1) (offset + line.length) rest

/-- The options of the search. -/
def searchOptions : OptionTable where
  plain := "cviynoqswxEFGPhHlLbzraRIU"
  valued := "efmABCd"
  long := [("count", 'c'), ("invert-match", 'v'), ("ignore-case", 'i'), ("line-number", 'n'),
    ("only-matching", 'o'), ("quiet", 'q'), ("silent", 'q'), ("no-messages", 's'),
    ("word-regexp", 'w'), ("line-regexp", 'x'), ("extended-regexp", 'E'), ("fixed-strings", 'F'),
    ("basic-regexp", 'G'), ("no-filename", 'h'), ("with-filename", 'H'),
    ("files-with-matches", 'l'), ("files-without-match", 'L'), ("byte-offset", 'b'),
    ("regexp", 'e'), ("max-count", 'm'), ("after-context", 'A'), ("before-context", 'B'),
    ("context", 'C'), ("text", 'a'), ("recursive", 'r'), ("null-data", 'z')]

/-- The lines around the selected ones: whether each line is written. -/
def withContext (before after : Nat) (lines : List SearchedLine) : List Bool :=
  let numbers := (lines.filter (·.selected)).map (·.number)
  lines.map fun line => numbers.any fun n =>
    n - before ≤ line.number && line.number ≤ n + after

/-- Keeps the first so many selected lines. -/
def limitSelected : Nat → List SearchedLine → List SearchedLine
  | _, [] => []
  | 0, lines => lines.map fun line => { line with selected := false }
  | count + 1, line :: rest =>
      if line.selected then line :: limitSelected count rest
      else line :: limitSelected (count + 1) rest

/-- What is written about the lines of one file. -/
def searchReport (options : Options) (search : Search) (titled : Bool) (name : String)
    (lines : List SearchedLine) : String × Bytes :=
  let selected := lines.filter (·.selected)
  let title (mark : String) : String := if titled then name ++ mark else ""
  let lead (line : SearchedLine) (mark : String) (offset : Nat) : Bytes :=
    Text.Utf8.encode (title mark ++ (if options.has 'n' then toString line.number ++ mark else "") ++
      (if options.has 'b' then toString offset ++ mark else ""))
  if options.has 'q' then ("", [])
  else if options.has 'l' then ((if selected.isEmpty then "" else name ++ "\n"), [])
  else if options.has 'L' then ((if selected.isEmpty then name ++ "\n" else ""), [])
  else if options.has 'c' then (title ":" ++ toString selected.length ++ "\n", [])
  else if options.has 'o' then
    ("", if options.has 'v' then [] else selected.flatMap fun line =>
      (search.all line.text (line.text.size + 1) 0).flatMap fun (start, stop) =>
        lead line ":" (line.offset + start) ++
          ended (charsBytes ((line.text.toList.drop start).take (stop - start))))
  else
    let count (c : Char) : Nat :=
      (((options.value? c).orElse fun _ => options.value? 'C').bind String.toNat?).getD 0
    let contextual := "ABC".toList.any options.has
    let chosen := lines.zip (withContext (count 'B') (count 'A') lines)
    let (out, _) := chosen.foldl (fun ((out, last) : Bytes × Option Nat) (line, isChosen) =>
      if isChosen then
        let gap := last.any (· + 1 < line.number) && contextual
        let mark := if line.selected then ":" else "-"
        (out ++ (if gap then Text.Utf8.encode "--\n" else []) ++ lead line mark line.offset ++
          ended (charsBytes line.text.toList), some line.number)
      else (out, last)) ([], none)
    ("", out)

/-- How the program says that it was called in the wrong way. -/
def searchMisuse (call : Call) (reason : String) : Effect :=
  let lead := if reason.isEmpty then "" else s!"{call.name}: {reason}\n"
  .complaint 2 (lead ++ s!"Usage: {call.name} [OPTION]... PATTERNS [FILE]...\n" ++
    s!"Try '{call.name} --help' for more information.")

/-- Searches files or the input; `style` is the letter of the notation of the patterns. -/
def grepAs (style : Char) : Utility := fun call =>
  match searchOptions.read call.arguments with
  | .error reason => searchMisuse call reason
  | .ok options =>
      let named := options.values 'e'
      let (patterns, operands) := if named.isEmpty then
          (options.operands.take 1, options.operands.drop 1)
        else (named, options.operands)
      if patterns.isEmpty then searchMisuse call ""
      else
        let kind := ((options.given.reverse.find? fun o => "EFGP".toList.contains o.1).map
          (·.1)).getD style
        let texts := patterns.flatMap fun p => Text.splitChars (· = '\n') (textChars p)
        let compiled := texts.mapM fun chars =>
          if kind = 'F' then .ok (Regex.ofText chars) else Regex.ofChars (kind ≠ 'G') chars
        match compiled with
        | .error reason =>
            let reason := if reason = Regex.unmatchedBracket && texts = [['[']] then
                "Invalid regular expression" else reason
            call.complain 2 reason
        | .ok patterns =>
            let search : Search :=
              { patterns, ignoreCase := options.has 'i' || options.has 'y'
                words := options.has 'w', lines := options.has 'x' }
            let g := gatherAll call operands
            let titled := (operands.length > 1 || options.has 'H') && !options.has 'h'
            let limit := ((options.value? 'm').bind String.toNat?)
            let searched := g.parts.map fun (name, bytes) =>
              let lines := searchLines search (options.has 'v') 1 0 (linesOf bytes)
              let lines := match limit with
                | some limit => limitSelected limit lines
                | none => lines
              ((if name = "-" then "(standard input)" else name), lines)
            let out := searched.flatMap fun (name, lines) =>
              let (text, bytes) := searchReport options search titled name lines
              Text.Utf8.encode text ++ bytes
            let found := searched.any fun (_, lines) => lines.any (·.selected)
            let failed := !g.complaints.isEmpty && !(options.has 'q' && found)
            { g.effect call out with
              err := if options.has 's' then [] else g.err
              exit := .code (if failed then 2 else if found then 0 else 1) }

/-- Searches for expressions in the basic notation. -/
def grep : Utility := grepAs 'G'

/-- Searches for expressions in the extended notation. -/
def egrep : Utility := grepAs 'E'

/-- Searches for texts. -/
def fgrep : Utility := grepAs 'F'

end Switchboard.Shell.Utility
