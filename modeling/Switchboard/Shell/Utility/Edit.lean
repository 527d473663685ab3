import Switchboard.Shell.Utility.Search

/-!
# Editing streams

A script of editing commands is carried out on every line. Each command can be restricted to lines
by their numbers or by patterns. The line at hand is the pattern space; a second space keeps what is
put aside.
-/

namespace Switchboard.Shell.Utility

open Switchboard.Text.Utf8 (Bytes)

namespace Edit

/-! ## Scripts -/

/-- A line that a command is restricted to. -/
inductive Address where
  | number (line : Nat)
  | last
  | pattern (regex : Regex) (ignoreCase : Bool)
  /-- Every so many lines from a line on. -/
  | every (first step : Nat)
  /-- So many lines after the first one. -/
  | plus (count : Nat)

/-- The lines that a command is restricted to. -/
structure Selector where
  first : Option Address := none
  second : Option Address := none
  negated : Bool := false

/-- A part of what takes the place of a match. -/
inductive Part where
  | text (chars : List Char)
  | group (number : Nat)
  /-- From here on characters are changed to upper case, to lower case, or not at all. -/
  | letters (kind : Char)

/-- What a command does. -/
inductive Action where
  | substitute (regex : Regex) (ignoreCase : Bool) (parts : List Part) (all print : Bool)
      (which : Nat)
  | translate (source image : List Char)
  | insert (text : List Char)
  | append (text : List Char)
  | change (text : List Char)
  /-- A command that is given by its letter alone. -/
  | letter (c : Char)
  | quit (print : Bool) (code : Nat)
  | label (name : String)
  /-- Goes on at a label; if `substituted` says so only after a substitution. -/
  | branch (kind : Char) (name : String)
  | blockStart
  | blockEnd

/-- A command of a script. -/
structure Command where
  selector : Selector
  action : Action

/-- The state of a reader of scripts. -/
structure Reading where
  rest : List Char
  /-- The number of characters at the beginning. -/
  size : Nat
  extended : Bool
  commands : List Command := []
  depth : Nat := 0
  /-- The last expression, which an empty one stands for. -/
  last : Regex := .empty

/-- A reader that gave up, with the number of characters it has read. -/
abbrev Result := Except (Nat × String)

namespace Reading

/-- How many characters were read. -/
def count (s : Reading) : Nat := s.size - s.rest.length

/-- Gives up. -/
def fault (s : Reading) (reason : String) : Result α := .error (s.count, reason)

/-- The reader one character farther. -/
def advance (s : Reading) : Reading := { s with rest := s.rest.drop 1 }

/-- Passes over characters. -/
def skip (s : Reading) (p : Char → Bool) : Reading := { s with rest := s.rest.dropWhile p }

end Reading

/-- Whether a character is a blank. -/
def isBlank (c : Char) : Bool := c = ' ' || c = '\t'

/-- The text up to a delimiter that is not escaped, and what follows it. A delimiter between
brackets counts as an end only outside of expressions. -/
def delimited? (delimiter : Char) (isRegex : Bool) : Bool → List Char → List Char →
    Option (List Char × List Char)
  | _, _, [] => none
  | inSet, done, c :: rest =>
      if c = delimiter && !inSet then some (done.reverse, rest)
      else
        match c, rest with
        | '\\', d :: rest =>
            if inSet then delimited? delimiter isRegex inSet (c :: done) (d :: rest)
            else if d = delimiter then
              -- The escaped delimiter stands for itself.
              delimited? delimiter isRegex inSet (d :: done) rest
            else if d = 'n' && isRegex then delimited? delimiter isRegex inSet ('\n' :: done) rest
            else delimited? delimiter isRegex inSet (d :: '\\' :: done) rest
        | '\n', rest =>
            if isRegex then none else delimited? delimiter isRegex inSet ('\n' :: done) rest
        | c, rest =>
            let opens := isRegex && c = '[' && !inSet
            let closes := inSet && c = ']' && !(done.head? = some '[') &&
              !(done.take 2 = ['^', '['])
            delimited? delimiter isRegex (opens || (inSet && !closes)) (c :: done) rest
termination_by _ _ chars => chars.length

/-- The parts of a replacement. -/
def partsOf : Nat → List Char → List Part
  | 0, _ => []
  | _ + 1, [] => []
  | fuel + 1, '&' :: rest => .group 0 :: partsOf fuel rest
  | fuel + 1, '\\' :: c :: rest =>
      if c.isDigit then .group (c.toNat - 48) :: partsOf fuel rest
      else if "ULEul".toList.contains c then .letters c :: partsOf fuel rest
      else if c = 'n' then .text ['\n'] :: partsOf fuel rest
      else if c = 't' then .text ['\t'] :: partsOf fuel rest
      else .text [c] :: partsOf fuel rest
  | fuel + 1, c :: rest => .text [c] :: partsOf fuel rest

/-- The number at the front of a text, and what follows it. -/
def number? (chars : List Char) : Option (Nat × List Char) :=
  let digits := chars.takeWhile Char.isDigit
  (Arithmetic.digits? 10 digits).map fun n => (n, chars.drop digits.length)

/-- An expression; an empty one stands for the last one. -/
def Reading.regex (s : Reading) (chars : List Char) : Result (Regex × Reading) :=
  if chars.isEmpty then .ok (s.last, s)
  else
    match Regex.ofChars s.extended chars with
    | .ok regex => .ok (regex, { s with last := regex })
    | .error reason => s.fault reason

/-- The address at the front of a command. -/
def readAddress (s : Reading) : Result (Option Address × Reading) :=
  match s.rest with
  | '$' :: rest => .ok (some .last, { s with rest })
  | '+' :: rest =>
      match number? rest with
      | some (n, rest) => .ok (some (.plus n), { s with rest })
      | none => .ok (none, s)
  | '/' :: rest => readPattern s '/' rest
  | '\\' :: delimiter :: rest => readPattern s delimiter rest
  | chars =>
      match number? chars with
      | none => .ok (none, s)
      | some (first, '~' :: rest) =>
          match number? rest with
          | some (step, rest) => .ok (some (.every first step), { s with rest })
          | none => .ok (some (.every first 0), { s with rest })
      | some (n, rest) => .ok (some (.number n), { s with rest })
where
  /-- An expression up to a delimiter. -/
  readPattern (s : Reading) (delimiter : Char) (rest : List Char) :
      Result (Option Address × Reading) :=
    match delimited? delimiter true false [] rest with
    | none => ({ s with rest := [] } : Reading).fault "unterminated address regex"
    | some (chars, rest) => do
        let (regex, s) ← ({ s with rest } : Reading).regex chars
        match s.rest with
        | 'I' :: rest => return (some (.pattern regex true), { s with rest })
        | _ => return (some (.pattern regex false), s)

/-- The flags of a substitution: whether all matches count, whether the line is printed, whether
the case matters, and which match counts first, where zero stands for any. -/
def readFlags (all print ignoreCase : Bool) (which : Nat) : List Char →
    Except Nat (Bool × Bool × Bool × Nat × List Char)
  | [] => .ok (all, print, ignoreCase, which, [])
  | c :: rest =>
      if c = 'g' then readFlags true print ignoreCase which rest
      else if c = 'p' then readFlags all true ignoreCase which rest
      else if c = 'i' || c = 'I' then readFlags all print true which rest
      else if c = 'm' || c = 'M' then readFlags all print ignoreCase which rest
      else if c.isDigit then readFlags all print ignoreCase (10 * which + (c.toNat - 48)) rest
      else if isBlank c then readFlags all print ignoreCase which rest
      else if c = ';' || c = '\n' || c = '\x7d' || c = '#' then
        .ok (all, print, ignoreCase, which, c :: rest)
      else .error rest.length

/-- The text of a command that inserts one: the rest of the line, which a backslash carries over
to the next one. -/
def textArgument (chars : List Char) : List Char × List Char :=
  let chars := match chars.dropWhile isBlank with
    | '\\' :: '\n' :: rest => rest
    | '\\' :: rest => rest
    | rest => rest
  go [] chars
where
  /-- The text after what has been read of it in reverse. -/
  go (done : List Char) : List Char → List Char × List Char
    | [] => (done.reverse, [])
    | '\n' :: rest => (done.reverse, rest)
    | '\\' :: c :: rest => go (c :: done) rest
    | c :: rest => go (c :: done) rest

/-- A label up to the end of the command. -/
def labelArgument (chars : List Char) : String × List Char :=
  let chars := chars.dropWhile isBlank
  let name := chars.takeWhile fun c => c ≠ '\n' && c ≠ ';'
  (String.ofList (Text.trimCharsEnd isBlank name), chars.drop name.length)

/-- The commands that are given by their letter alone. -/
def plainLetters : String := "dDpPnNgGhHxzFl="

/-- What a command does, after its letter. -/
def readAction (s : Reading) (c : Char) (rest : List Char) : Result (Action × Reading) :=
  let s := { s with rest }
  match c with
  | '\x7b' => .ok (.blockStart, { s with depth := s.depth + 1 })
  | '\x7d' =>
      if s.depth = 0 then s.fault "unexpected `\x7d'"
      else .ok (.blockEnd, { s with depth := s.depth - 1 })
  | 's' =>
      match rest with
      | [] => s.fault "unterminated `s' command"
      | delimiter :: rest =>
          match delimited? delimiter true false [] rest with
          | none => ({ s with rest := [] } : Reading).fault "unterminated `s' command"
          | some (pattern, rest) =>
              match delimited? delimiter false false [] rest with
              | none => ({ s with rest := [] } : Reading).fault "unterminated `s' command"
              | some (image, rest) =>
                  match readFlags false false false 0 rest with
                  | .error left =>
                      .error (s.size - left, "unknown option to `s'")
                  | .ok (all, print, ignoreCase, which, rest) => do
                      let (regex, s) ← ({ s with rest } : Reading).regex pattern
                      return (.substitute regex ignoreCase (partsOf image.length image) all print
                        which, s)
  | 'y' =>
      match rest with
      | [] => s.fault "unterminated `y' command"
      | delimiter :: rest =>
          match delimited? delimiter false false [] rest with
          | none => ({ s with rest := [] } : Reading).fault "unterminated `y' command"
          | some (source, rest) =>
              match delimited? delimiter false false [] rest with
              | none => ({ s with rest := [] } : Reading).fault "unterminated `y' command"
              | some (image, rest) =>
                  let plain := fun chars => (partsOf chars.length chars).flatMap fun
                    | .text chars => chars
                    | _ => ['&']
                  if (plain source).length ≠ (plain image).length then
                    ({ s with rest } : Reading).fault
                      "strings for `y' command are different lengths"
                  else .ok (.translate (plain source) (plain image), { s with rest })
  | 'a' | 'i' | 'c' =>
      if rest.all isBlank then s.fault "expected \\ after `a', `c' or `i'"
      else
        let (text, rest) := textArgument rest
        let s := { s with rest }
        .ok (if c = 'a' then .append text else if c = 'i' then .insert text else .change text, s)
  | 'q' | 'Q' =>
      let (code, rest) := (number? (rest.dropWhile isBlank)).getD (0, rest)
      .ok (.quit (c = 'q') code, { s with rest })
  | ':' =>
      let (name, rest) := labelArgument rest
      if name.isEmpty then s.fault "\":\" lacks a label" else .ok (.label name, { s with rest })
  | 'b' | 't' | 'T' =>
      let (name, rest) := labelArgument rest
      let name := (Text.splitAt '\x7d' name).head?.getD ""
      .ok (.branch c (Text.trimEnd name), { s with rest })
  | c =>
      if plainLetters.toList.contains c then .ok (.letter c, s)
      else s.fault s!"unknown command: `{c}'"

/-- The commands of a script. -/
def readCommands : Nat → Reading → Result (List Command)
  | 0, s => .ok s.commands
  | fuel + 1, s => do
      let s := s.skip fun c => isBlank c || c = ';' || c = '\n'
      match s.rest with
      | [] =>
          if s.depth > 0 then .error (0, "unmatched `\x7b'") else return s.commands
      | '#' :: rest => readCommands fuel { s with rest := rest.dropWhile (· ≠ '\n') }
      | _ =>
          let (first, s) ← readAddress s
          let s := s.skip isBlank
          let (second, s) ← match first, s.rest with
            | some _, ',' :: rest => do
                let (second, s) ← readAddress (({ s with rest } : Reading).skip isBlank)
                match second with
                | some second => pure (some second, s)
                | none => s.advance.fault "unexpected `,'"
            | _, _ => pure (none, s)
          let s := s.skip isBlank
          let (negated, s) := match s.rest with
            | '!' :: rest => (true, (({ s with rest } : Reading).skip fun c => isBlank c || c = '!'))
            | _ => (false, s)
          match s.rest with
          | [] => s.fault "missing command"
          | c :: rest =>
              let (action, s) ← readAction s c rest
              let command : Command := ⟨⟨first, second, negated⟩, action⟩
              let s := { s with commands := s.commands ++ [command] }
              let isOpen := match action with
                | .blockStart | .blockEnd | .append _ | .insert _ | .change _ | .label _ => true
                | _ => false
              let s := s.skip isBlank
              match s.rest with
              | [] => readCommands fuel s
              | c :: _ =>
                  if isOpen || c = ';' || c = '\n' || c = '\x7d' || c = '#' then readCommands fuel s
                  else s.advance.fault "extra characters after command"

/-! ## Running -/

/-- The state of a run. -/
structure State where
  space : List Char := []
  hold : List Char := []
  /-- The number of the current line. -/
  line : Nat := 0
  /-- Whether the current line had an end. -/
  whole : Bool := true
  rest : List Bytes
  out : List Bytes := []
  /-- Whether the last line that was written lacks its end. -/
  lacking : Bool := false
  /-- What is written at the end of the cycle. -/
  later : List (List Char) := []
  substituted : Bool := false
  /-- The commands whose range has begun, with the line it ends on if that is known. -/
  ranges : List (Nat × Option Nat) := []
  code : Nat := 0
  /-- Whether the run is over. -/
  ended : Bool := false
  /-- Whether the next cycle goes on with the pattern space. -/
  again : Bool := false

namespace State

/-- Writes a line. -/
def put (s : State) (line : List Char) (whole : Bool := true) : State :=
  let lead : Bytes := if s.lacking then [lineFeed] else []
  let ending : Bytes := if whole then [lineFeed] else []
  { s with out := (lead ++ charsBytes line ++ ending) :: s.out, lacking := !whole }

/-- Writes what was kept for the end of the cycle. -/
def flush (s : State) : State :=
  { s.later.foldl (fun s line => s.put line) s with later := [] }

/-- Takes the next line; none at the end. -/
def take? (s : State) : Option (List Char × State) :=
  match s.rest with
  | [] => none
  | line :: rest =>
      let whole := line.getLast? = some lineFeed
      some (byteChars (bare line), { s with rest, line := s.line + 1, whole })

end State

/-- Whether an address is that of the current line. -/
def Address.holds (s : State) : Address → Bool
  | .number n => s.line = n
  | .last => s.rest.isEmpty
  | .pattern regex ignoreCase => (regex.search? ignoreCase s.space.toArray 0).isSome
  | .every first step =>
      if step = 0 then s.line = first else s.line ≥ first && (s.line - first) % step = 0
  | .plus _ => false

/-- The line on which a range ends that begins on the current one, if that is known; a range that
ends on this line is given by the line itself. -/
def rangeEnd (s : State) : Address → Option Nat
  | .number n => some (max n s.line)
  | .plus n => some (s.line + n)
  | .last => if s.rest.isEmpty then some s.line else none
  | _ => none

/-- Whether a command is carried out on the current line, with the ranges after that. -/
def Selector.holds (selector : Selector) (index : Nat) (s : State) : Bool × State :=
  let (chosen, s) : Bool × State := match selector.first, selector.second with
    | none, _ => (true, s)
    | some first, none => (first.holds s, s)
    | some first, some second =>
        match s.ranges.find? (·.1 = index) with
        | some (_, some stop) =>
            let ranges := s.ranges.filter (·.1 ≠ index)
            if s.line < stop then (true, s)
            else (s.line = stop, { s with ranges })
        | some (_, none) =>
            if second.holds s then (true, { s with ranges := s.ranges.filter (·.1 ≠ index) })
            else (true, s)
        | none =>
            let fromStart : Bool := match first with
              | .number 0 => decide (s.line = 1)
              | _ => false
            if fromStart then
              if second.holds s then (true, s)
              else (true, { s with ranges := (index, none) :: s.ranges })
            else if first.holds s then
              match rangeEnd s second with
              | some stop =>
                  if stop ≤ s.line then (true, s)
                  else (true, { s with ranges := (index, some stop) :: s.ranges })
              | none => (true, { s with ranges := (index, none) :: s.ranges })
            else (false, s)
  (chosen != selector.negated, s)

/-- The text of a replacement. Letters are changed as the parts ask for. -/
def replacementText (line : Array Char) (found : Regex.Found) (parts : List Part) : List Char :=
  (parts.foldl (fun ((done, mode, once) : List Char × Char × Char) part =>
    let write (chars : List Char) : List Char × Char × Char :=
      let changed := chars.map fun c =>
        if mode = 'U' then c.toUpper else if mode = 'L' then c.toLower else c
      match changed, once with
      | c :: rest, 'u' => (done ++ c.toUpper :: rest, mode, 'E')
      | c :: rest, 'l' => (done ++ c.toLower :: rest, mode, 'E')
      | changed, once => (done ++ changed, mode, once)
    match part with
    | .text chars => write chars
    | .group number => write (found.text line number)
    | .letters kind =>
        if kind = 'u' || kind = 'l' then (done, mode, kind) else (done, kind, 'E'))
    ([], 'E', 'E')).1

/-- The line with matches replaced, and whether there was any. -/
def substituted (regex : Regex) (ignoreCase : Bool) (parts : List Part) (all : Bool) (which : Nat)
    (space : List Char) : List Char × Bool :=
  let line := space.toArray
  let found := (regex.searchAll ignoreCase line (line.size + 2) 0 none).drop (which - 1)
  let found := if all then found else found.take 1
  let (done, position) := found.foldl (fun ((done, position) : List Char × Nat) match_ =>
    (done ++ (space.drop position).take (match_.start - position) ++
      replacementText line match_ parts, match_.reached.position)) ([], 0)
  (done ++ space.drop position, !found.isEmpty)

/-- What follows the block that starts at a position. -/
def afterBlock (commands : Array Command) : Nat → Nat → Nat → Nat
  | 0, _, index => index
  | fuel + 1, depth, index =>
      match commands[index]? with
      | none => index
      | some ⟨_, .blockStart⟩ => afterBlock commands fuel (depth + 1) (index + 1)
      | some ⟨_, .blockEnd⟩ =>
          if depth = 0 then index + 1 else afterBlock commands fuel (depth - 1) (index + 1)
      | some _ => afterBlock commands fuel depth (index + 1)

/-- The position of a label, or the end of the script where none is named. -/
def labelIndex (commands : Array Command) (name : String) : Nat :=
  (commands.findIdx? fun command => match command.action with
    | .label found => found = name
    | _ => false).getD commands.size

/-- A byte as it is shown. -/
def visibleChar (c : Char) : List Char :=
  match c with
  | '\\' => ['\\', '\\']
  | '\n' => ['\\', 'n']
  | '\t' => ['\\', 't']
  | '\r' => ['\\', 'r']
  | c =>
      match [('\x07', 'a'), ('\x08', 'b'), ('\x0b', 'v'), ('\x0c', 'f')].find? (·.1 = c) with
      | some (_, letter) => ['\\', letter]
      | none =>
          if 32 ≤ c.toNat && c.toNat < 127 then [c]
          else
            let octal := Nat.toDigits 8 c.toNat
            '\\' :: (List.replicate (3 - octal.length) '0' ++ octal)

/-- The lines in which characters are shown, none wider than a width but for the sign that the
line goes on. -/
def shownLines (width : Nat) (chars : List Char) : List (List Char) :=
  let (done, line) := chars.foldl (fun ((done, line) : List (List Char) × List Char) c =>
    let shown := visibleChar c
    if line.length + shown.length > width then (done ++ [line ++ ['\\']], shown)
    else (done, line ++ shown)) ([], [])
  done ++ [line ++ ['$']]

/-- Carries out the commands from a position on. -/
def runCommands (commands : Array Command) (quiet : Bool) : Nat → Nat → State → State
  | 0, _, s => { s with ended := true }
  | fuel + 1, index, s =>
      match commands[index]? with
      | none => if quiet then s else s.put s.space s.whole
      | some command =>
          let (chosen, s) := command.selector.holds index s
          let next := runCommands commands quiet fuel (index + 1)
          let autoprint (s : State) : State := if quiet then s else s.put s.space s.whole
          if !chosen then
            match command.action with
            | .blockStart =>
                runCommands commands quiet fuel (afterBlock commands commands.size 0 (index + 1)) s
            | _ => next s
          else
            match command.action with
            | .blockStart | .blockEnd | .label _ => next s
            | .substitute regex ignoreCase parts all print which =>
                let (space, changed) := substituted regex ignoreCase parts all which s.space
                let s := { s with space, substituted := s.substituted || changed }
                next (if changed && print then s.put s.space s.whole else s)
            | .translate source image =>
                next { s with space := s.space.map fun c =>
                  ((source.idxOf? c).bind fun k => image[k]?).getD c }
            | .insert text => next (s.put text)
            | .append text => next { s with later := s.later ++ [text] }
            | .change text =>
                let inRange := s.ranges.any (·.1 = index)
                if command.selector.second.isSome && !command.selector.negated && inRange then s
                else s.put text
            | .quit print code =>
                let s := if print then autoprint s else s
                { s with ended := true, code }
            | .branch kind name =>
                let jumps := match kind with
                  | 't' => s.substituted
                  | 'T' => !s.substituted
                  | _ => true
                let s := if kind = 'b' then s else { s with substituted := false }
                if jumps then runCommands commands quiet fuel (labelIndex commands name) s
                else next s
            | .letter 'd' => s
            | .letter 'D' =>
                match Text.cutAt? ['\n'] s.space with
                | some (_, rest) => { s with space := rest, again := true }
                | none => s
            | .letter 'p' => next (s.put s.space s.whole)
            | .letter 'P' => next (s.put (s.space.takeWhile (· ≠ '\n')))
            | .letter 'n' =>
                let s := if s.rest.isEmpty then s else autoprint s
                match s.flush.take? with
                | some (line, s) => next { s with space := line }
                | none => { autoprint s with ended := true }
            | .letter 'N' =>
                match s.flush.take? with
                | some (line, s) => next { s with space := s.space ++ '\n' :: line }
                | none => { autoprint s with ended := true }
            | .letter 'g' => next { s with space := s.hold }
            | .letter 'G' => next { s with space := s.space ++ '\n' :: s.hold }
            | .letter 'h' => next { s with hold := s.space }
            | .letter 'H' => next { s with hold := s.hold ++ '\n' :: s.space }
            | .letter 'x' => next { s with space := s.hold, hold := s.space }
            | .letter 'z' => next { s with space := [] }
            | .letter 'l' => next ((shownLines 69 s.space).foldl (fun s line => s.put line) s)
            | .letter '=' => next (s.put (toString s.line).toList)
            | .letter _ => next (s.put ['-'])

/-- The number of commands that one cycle carries out at most. -/
def cycleBound : Nat := 20000

/-- Goes through the lines. -/
def runCycles (commands : Array Command) (quiet : Bool) : Nat → State → State
  | 0, s => s
  | fuel + 1, s =>
      if s.ended then s
      else if s.again then
        runCycles commands quiet fuel
          (runCommands commands quiet cycleBound 0 { s with again := false }).flush
      else
        match s.take? with
        | none => s
        | some (line, s) =>
            runCycles commands quiet fuel
              (runCommands commands quiet cycleBound 0
                { s with space := line, substituted := false }).flush

end Edit

/-- The options of the editor. -/
def editOptions : OptionTable where
  plain := "nErsuz"
  valued := "ef"
  long := [("quiet", 'n'), ("silent", 'n'), ("expression", 'e'), ("regexp-extended", 'E'),
    ("separate", 's'), ("null-data", 'z'), ("unbuffered", 'u'), ("file", 'f')]

/-- Edits files or the input. -/
def sed : Utility := fun call =>
  match editOptions.read call.arguments with
  | .error reason => call.misuse 1 reason
  | .ok options =>
      let named := options.values 'e'
      let (scripts, operands) := if named.isEmpty then
          (options.operands.take 1, options.operands.drop 1)
        else (named, options.operands)
      if scripts.isEmpty then
        .complaint 1
          s!"Usage: {call.name} [OPTION]... \x7bscript-only-if-no-other-script\x7d [input-file]..."
      else
        let chars := textChars (Text.join "\n" scripts)
        let extended := options.has 'E' || options.has 'r'
        match Edit.readCommands (chars.length + 2)
            { rest := chars, size := chars.length, extended } with
        | .error (count, reason) =>
            call.complain 1 s!"-e expression #1, char {count}: {reason}"
        | .ok commands =>
            let g := gather call (fun path reason => s!"can't read {path}: {reason}")
              (if operands.isEmpty then ["-"] else operands)
            let lines := linesOf g.content
            let s := Edit.runCycles commands.toArray (options.has 'n') (4 * lines.length + 4)
              { rest := lines }
            let effect := g.effect call s.out.reverse.flatten 2
            if s.code = 0 then effect else { effect with exit := .code s.code }

end Switchboard.Shell.Utility
