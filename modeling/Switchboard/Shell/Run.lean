import Switchboard.Shell.Session

/-!
# Running scripts

A command changes the session in which it is run. Commands of a pipeline, substitutions and the like
are run in sessions below, which leave nothing behind but what they wrote. A script that comes to no
end is one that takes forever: how many commands follow each other inside another is bounded.
-/

namespace Switchboard.Shell

open Switchboard.Text.Utf8 (Bytes)

/-! ## Parts of the builtin commands -/

/-- The values of words that were expanded as a whole. -/
def Fields.whole (fields : Fields) : List Marked :=
  match fields.words with
  | [] => []
  | first :: rest => rest.foldl (fun done word => done ++ (' ', true) :: word) first

/-- The text of a word. -/
def textOf (word : List Marked) : String := String.ofList (Pattern.chars word)

/-- What a command wrote, without the line feeds at its end. -/
def outputText (bytes : Bytes) : String :=
  String.ofList (Text.trimCharsEnd (· = '\n')
    (Text.Utf8.decodeLossy (bytes.filter (· ≠ 0))).toList)

/-- Whether a segment is the list of all arguments between quotes. -/
def isAllArguments : Segment → Bool
  | .mk true (.parameter "@" .plain) => true
  | _ => false

/-- Whether a segment is an empty text. -/
def isEmptyText : Segment → Bool
  | .mk _ (.text []) => true
  | _ => false

/-- Reads a line of the input into variables. -/
def readLine (s : Session) (raw : Bool) (names : List String) : Session :=
  let (line, count, found) := readLogicalLine raw 0 [] s.input
  let chars := line.map fun (b, marked) => (Char.ofNat b.toNat, marked)
  let words := lineWords s.separators names.length chars
  let s := s.take count
  let s := (names.zip words).foldl (fun s (name, word) =>
    s.assign name (Text.Utf8.decodeLossy (Utility.charsBytes (Pattern.chars word)))) s
  s.done (if found then 0 else 1)

/-- Moves to another directory. -/
def changeDirectory (s : Session) (path : String) : Session :=
  let fault := s.complain 2 s!"can't cd to {path}"
  match s.disk.resolve path with
  | .ok place =>
      if s.disk.isDirectory place then
        let before := Path.ofParts s.disk.current
        let s := { s with disk := { s.disk with current := place } }
        ((s.assign "OLDPWD" before).assign "PWD" (Path.ofParts place)).done
      else fault
  | .error _ => fault

/-- The options that have a name, with their letters. -/
def namedFlags : List (String × Char) := [
  ("errexit", 'e'), ("noglob", 'f'), ("noexec", 'n'), ("xtrace", 'x'), ("verbose", 'v'),
  ("nounset", 'u'), ("allexport", 'a'), ("noclobber", 'C'), ("notify", 'b'), ("monitor", 'm'),
  ("ignoreeof", 'I'), ("stdin", 's'), ("interactive", 'i'), ("vi", 'V'), ("emacs", 'E')]

/-- The letters of the options. -/
def flagLetters : List Char := "efnxvuaCbmIsilVE".toList

/-- Switches an option. -/
def switchFlag (on : Bool) (flags : List Char) (c : Char) : List Char :=
  if on then if flags.contains c then flags else flags ++ [c] else flags.filter (· ≠ c)

/-- The options at the front of arguments: whether a script follows, the flags, and the other
arguments, which are set anew if two dashes say so; or the option that is not known. -/
structure ShellOptions where
  script : Bool := false
  flags : List Char
  rest : List String := []
  explicit : Bool := false

/-- Reads the options of a shell; `scripts` says whether a script may follow. -/
def readShellOptions (scripts : Bool) (options : ShellOptions) : List String →
    Except String ShellOptions
  | [] => .ok options
  | argument :: rest =>
      match argument.toList with
      | ['-'] => .ok { options with rest }
      | ['-', '-'] => .ok { options with rest, explicit := true }
      | sign :: letters =>
          if (sign = '-' || sign = '+') && !letters.isEmpty then
            let on := sign = '-'
            let known (c : Char) : Bool := flagLetters.contains c || (scripts && on && c = 'c')
            match letters.find? fun c => !known c && c ≠ 'o' with
            | some c => .error s!"Illegal option {sign}{c}"
            | none =>
                let options := letters.foldl (fun options c =>
                  if c = 'c' && scripts then { options with script := true }
                  else if c = 'o' then options
                  else { options with flags := switchFlag on options.flags c }) options
                if letters.contains 'o' then
                  match rest with
                  | [] => .ok { options with rest := [] }
                  | name :: rest =>
                      match namedFlags.find? (·.1 = name) with
                      | some (_, c) =>
                          readShellOptions scripts
                            { options with flags := switchFlag on options.flags c } rest
                      | none => .error s!"Illegal option {sign}o {name}"
                else readShellOptions scripts options rest
          else .ok { options with rest := argument :: rest, explicit := options.explicit || !scripts }
      | [] => .ok { options with rest := argument :: rest, explicit := options.explicit || !scripts }

/-- Carries out the settings of an export, a protection or a declaration. -/
def declare (s : Session) (change : Variable → Variable) (settings : List String) : Session :=
  settings.foldl (fun s setting =>
    if s.jump.isSome then s
    else
      let (name, value) := match Text.cutAt? ['='] setting.toList with
        | some (name, value) => (String.ofList name, some (String.ofList value))
        | none => (setting, none)
      if !isName name.toList then s.abort s!"{name}: bad variable name"
      else if value.isSome && s.isReadOnly name then s.abort s!"{name}: is read only"
      else
        let before := ((s.bindings.find? (·.1 = name)).map (·.2)).getD { value := none }
        s.put name (change { before with value := value.or before.value })) s.done

/-- Makes variables local to a function. -/
def declareLocal (s : Session) (settings : List String) : Session :=
  match s.locals with
  | none => s.abort "not in a function"
  | some saved =>
      let names := settings.map fun setting =>
        String.ofList (setting.toList.takeWhile (· ≠ '='))
      let saved := names.foldl (fun saved name =>
        if saved.any (·.1 = name) then saved
        else (name, (s.bindings.find? (·.1 = name)).map (·.2)) :: saved) saved
      declare { s with locals := some saved } id settings

/-- Restores variables. -/
def restore (s : Session) (saved : List (String × Option Variable)) : Session :=
  saved.foldl (fun s (name, entry) =>
    match entry with
    | some entry => s.put name entry
    | none => { s with bindings := s.bindings.filter (·.1 ≠ name) }) s

/-- The variables with some names as they are now. -/
def remember (s : Session) (names : List String) : List (String × Option Variable) :=
  names.map fun name => (name, (s.bindings.find? (·.1 = name)).map (·.2))

/-- The name under which a condition is trapped. -/
def trapName? (text : String) : Option String :=
  if text = "EXIT" || text = "0" then some "EXIT"
  else (Exit.signalOf? text).bind Exit.signalName?

/-- Sets or resets traps. -/
def setTraps (s : Session) (action : Option String) (names : List String) : Session :=
  names.foldl (fun s name =>
    match trapName? name with
    | none => { s.write 2 (Text.Utf8.encode s!"trap: {name}: bad trap\n") with last := .code 1 }
    | some name =>
        let others := s.traps.filter (·.1 ≠ name)
        { s with traps := match action with
            | some action => others ++ [(name, action)]
            | none => others }) s.done

/-- The traps as the shell shows them. -/
def trapText (s : Session) : String :=
  String.join (s.traps.map fun (name, action) =>
    let quotedAction := Text.replaceAll "'" "'\"'\"'" action
    s!"trap -- '{quotedAction}' {name}\n")

/-- The keywords and the names of the builtin commands. -/
def regularNames : List String :=
  ["alias", "bg", "cd", "command", "fg", "getopts", "hash", "jobs", "kill", "local", "read", "type",
    "ulimit", "umask", "unalias", "wait"]

/-- Whether a name is that of a builtin command. -/
def isBuiltin (name : String) : Bool :=
  specialNames.contains name || regularNames.contains name || (Utility.builtin? name).isSome

/-- What a name stands for, in words. -/
def describeName (s : Session) (name : String) : Option String :=
  if keywords.contains name then some "a shell keyword"
  else if s.functions.any (·.1 = name) then some "a shell function"
  else if specialNames.contains name then some "a special shell builtin"
  else if isBuiltin name then some "a shell builtin"
  else if Utility.names.contains name then some s!"/usr/bin/{name}"
  else none

/-- The usage of the command that sends signals. -/
def killUsage : String :=
  "Usage: kill [-s sigspec | -signum | -sigspec] [pid | job]... or\nkill -l [exitstatus]"

/-- The signal and the targets that the arguments of a kill name. -/
def killTargets (arguments : List String) : Except String (Nat × List String) :=
  match arguments with
  | [] => .error killUsage
  | ["-s"] => .error "No arg for -s option"
  | "-s" :: name :: targets =>
      match Exit.signalOf? name with
      | some signal => if targets.isEmpty then .error killUsage else .ok (signal, targets)
      | none => .error s!"invalid signal number or name: {name}"
  | "--" :: targets => .ok (15, targets)
  | first :: targets =>
      match first.toList with
      | '-' :: c :: letters =>
          match Exit.signalOf? (String.ofList (c :: letters)) with
          | some signal => if targets.isEmpty then .error killUsage else .ok (signal, targets)
          | none => .error s!"Illegal option -{c}"
      | _ => .ok (15, first :: targets)

/-- The numbers of an exit or a return. -/
def statusArgument (s : Session) (arguments : List String) : Except String Nat :=
  match arguments with
  | [] => .ok s.last.status
  | text :: _ =>
      match Arithmetic.digits? 10 text.toList with
      | some n => if n < Word.half32 then .ok (n % 256) else .error s!"Illegal number: {text}"
      | none => .error s!"Illegal number: {text}"

/-- Whether the text that is left has no command in it. -/
def endsHere (source : Source) : Bool :=
  source.rest.all fun c => c = ' ' || c = '\t' || c = '\n' || c = ';'

/-- The arguments that a text lists, with quotes and backslashes. -/
def listedArguments (text : List Char) : List String :=
  go none none [] text
where
  /-- The arguments after those that are done, given the quote and the argument that have begun. -/
  go (quote : Option Char) (current : Option (List Char)) (done : List String) :
      List Char → List String
    | [] => match current with
        | some word => done ++ [String.ofList word.reverse]
        | none => done
    | c :: rest =>
        let added (c : Char) : Option (List Char) := some (c :: current.getD [])
        match quote with
        | some '\\' => go none (added c) done rest
        | some q => if c = q then go none current done rest else go quote (added c) done rest
        | none =>
            if c = '\'' || c = '"' then go (some c) (some (current.getD [])) done rest
            else if c = '\\' then go (some '\\') current done rest
            else if c = ' ' || c = '\t' || c = '\n' then
              match current with
              | some word => go none none (done ++ [String.ofList word.reverse]) rest
              | none => go none none done rest
            else go none (added c) done rest

/-- Cuts a list into parts of a length. -/
def chunks (size : Nat) : Nat → List α → List (List α)
  | 0, _ => []
  | fuel + 1, items =>
      if items.isEmpty then [] else items.take size :: chunks size fuel (items.drop size)

/-- Whether a turn of a loop is followed by another one. -/
def afterTurn (s : Session) : Session × Bool :=
  match s.jump with
  | none => (s, true)
  | some (.leave n) => ({ s with jump := if n ≤ 1 then none else some (.leave (n - 1)) }, false)
  | some (.next n) =>
      if n ≤ 1 then ({ s with jump := none }, true)
      else ({ s with jump := some (.next (n - 1)) }, false)
  | some _ => (s, false)

/-- Ends the shell after a command that failed, if it was told to. -/
def checkFailure (tested : Bool) (s : Session) : Session :=
  if s.jump.isNone && !tested && s.has 'e' && !s.last.succeeded then
    s.finished (.code s.last.status)
  else s

/-- Shows a command before it is run, if the shell was told to. -/
def trace (s : Session) (settings : List (String × String)) (words : List String) : Session :=
  if s.has 'x' then
    let parts := settings.map (fun (name, value) => name ++ "=" ++ value) ++ words
    s.write 2 (Text.Utf8.encode ("+ " ++ Text.join " " parts ++ "\n"))
  else s

/-! ## Commands -/

mutual

/-- Expands the segments of a word. Without `split` no expansion is split into words. -/
def expandSegments : Nat → Bool → Session → Fields → Word → Session × Fields
  | 0, _, s, fields, _ => (s.stuck, fields)
  | _ + 1, _, s, fields, [] => (s, fields)
  | fuel + 1, split, s, fields, .mk quoted piece :: rest =>
      if s.jump.isSome then (s, fields)
      else
        let (s, fields) := expandPiece fuel split quoted s fields piece
        expandSegments fuel split s fields rest

/-- Expands a piece of a word. -/
def expandPiece : Nat → Bool → Bool → Session → Fields → Piece → Session × Fields
  | 0, _, _, s, fields, _ => (s.stuck, fields)
  | fuel + 1, split, quoted, s, fields, piece =>
      let put (s : Session) (text : String) : Session × Fields :=
        (s, if split then fields.expand s.separators quoted text
            else if text.isEmpty then fields else fields.write quoted text.toList)
      match piece with
      | .text chars => (s, fields.write quoted chars)
      | .sum expression =>
          let (s, text) := expandWhole fuel s expression
          if s.jump.isSome then (s, fields)
          else
            match Arithmetic.evaluate (fun name => (s.value? name).getD "") text with
            | .ok (value, changes) =>
                put (changes.foldl (fun s (name, value) => s.assign name value) s) (toString value)
            | .error fault => (s.abort (fault.message text), fields)
      | .output command =>
          let (number, s) := s.fresh []
          let inner := s.child.setStream 1 (some (.buffer number))
          let below := conclude fuel (run fuel false inner command)
          let after := { s.after below with substituted := some (.code below.exit.status) }
          let (_, fields) := put after (outputText (after.content number))
          ({ after.fill number [] with last := s.last }, fields)
      | .parameter name change =>
          let value := s.value? name
          let missing (orEmpty : Bool) : Bool := match value with
            | none => true
            | some text => orEmpty && text.isEmpty
          let isList := name = "@" || name = "*"
          match change with
          | .plain =>
              if isList && split && (!quoted || name = "@") then
                let arguments := s.arguments.drop 1
                (s, (arguments.zipIdx.foldl (fun fields (argument, k) =>
                  let fields := if k = 0 then fields else fields.close
                  fields.expand s.separators quoted argument) fields))
              else
                match value with
                | some text => put s text
                | none =>
                    if s.has 'u' && name ≠ "!" then (s.abort s!"{name}: parameter not set", fields)
                    else put s ""
          | .length =>
              match value with
              | none =>
                  if s.has 'u' then (s.abort s!"{name}: parameter not set", fields) else put s "0"
              | some text => put s (toString (if isList then s.arguments.length - 1
                  else text.utf8ByteSize))
          | .default orEmpty word =>
              if missing orEmpty then expandSegments fuel split s fields word
              else put s (value.getD "")
          | .alternative orEmpty word =>
              if missing orEmpty then (s, fields) else expandSegments fuel split s fields word
          | .assign orEmpty word =>
              if missing orEmpty then
                let (s, text) := expandWhole fuel s word
                if s.jump.isSome then (s, fields)
                else if !isName name.toList then (s.abort s!"{name}: bad variable name", fields)
                else put (s.assign name text) text
              else put s (value.getD "")
          | .demand orEmpty word =>
              if missing orEmpty then
                let (s, text) := expandWhole fuel s word
                let text := if text.isEmpty then
                    if orEmpty then "parameter not set or null" else "parameter not set"
                  else text
                (s.abort s!"{name}: {text}", fields)
              else put s (value.getD "")
          | .trim atEnd longest pattern =>
              let (s, fields') := expandSegments fuel false s {} pattern
              let pattern := Pattern.ofWord fields'.whole
              let cut := if atEnd then Pattern.cutBack pattern longest
                else Pattern.cutFront pattern longest
              if value.isNone && s.has 'u' then (s.abort s!"{name}: parameter not set", fields)
              else put s (String.ofList (cut (value.getD "").toList))
          | .bad => (s.abort "Bad substitution", fields)

/-- Expands a word that stays one word. -/
def expandWhole : Nat → Session → Word → Session × String
  | 0, s, _ => (s.stuck, "")
  | fuel + 1, s, word =>
      let (s, fields) := expandSegments fuel false s {} word
      (s, textOf fields.whole)

/-- Expands words. -/
def expandWords : Nat → Session → List String → List Word → Session × List String
  | 0, s, done, _ => (s.stuck, done)
  | _ + 1, s, done, [] => (s, done)
  | fuel + 1, s, done, word :: words =>
      if s.jump.isSome then (s, done)
      else
        -- No argument at all leaves no word behind, not even an empty one.
        let word := if s.arguments.length ≤ 1 && word.any isAllArguments then
            word.filter fun segment => !isEmptyText segment
          else word
        let (s, fields) := expandSegments fuel true s {} word
        let found := fields.words.flatMap fun word =>
          if s.has 'f' then [textOf word] else expandPaths s.disk word
        expandWords fuel s (done ++ found) words

/-- Expands the values of assignments. -/
def expandSettings : Nat → Session → List (String × Word) → Session × List (String × String)
  | 0, s, _ => (s.stuck, [])
  | _ + 1, s, [] => (s, [])
  | fuel + 1, s, (name, word) :: rest =>
      let (s, text) := expandWhole fuel s word
      if s.jump.isSome then (s, [])
      else
        let (s, settings) := expandSettings fuel s rest
        (s, (name, text) :: settings)

/-- Carries out redirections from left to right; the flag says whether all of them succeeded. -/
def redirect : Nat → Session → List Redirection → Session × Bool
  | 0, s, _ => (s.stuck, false)
  | _ + 1, s, [] => (s, true)
  | fuel + 1, s, redirection :: rest =>
      match redirection with
      | .here stream text =>
          let (s, text) := expandWhole fuel s text
          let (number, s) := s.fresh (Text.Utf8.encode text)
          redirect fuel (s.setStream stream (some (.buffer number))) rest
      | .copy stream source =>
          let (s, source) := expandWhole fuel s source
          if s.jump.isSome then (s, false)
          else if source = "-" then redirect fuel (s.setStream stream none) rest
          else
            match source.toNat? with
            | none => (s.abort s!"Syntax error: Bad fd number", false)
            | some number =>
                match s.channel number with
                | some channel => redirect fuel (s.setStream stream (some channel)) rest
                | none => (s.complain 2 s!"{number}: Bad file descriptor", false)
      | .fromFile stream path =>
          let (s, path) := expandWhole fuel s path
          if s.jump.isSome then (s, false)
          else
            match s.openInput path with
            | .ok (channel, s) => redirect fuel (s.setStream stream (some channel)) rest
            | .error reason => (s.complain 2 s!"cannot open {path}: {reason}", false)
      | .toFile stream append path =>
          let (s, path) := expandWhole fuel s path
          if s.jump.isSome then (s, false)
          else
            match s.openOutput path append with
            | .ok (channel, s) => redirect fuel (s.setStream stream (some channel)) rest
            | .error reason => (s.complain 2 s!"cannot create {path}: {reason}", false)

/-- Runs a command. After a command that is not `tested` a failure may end the shell. -/
def run : Nat → Bool → Session → Command → Session
  | 0, _, s, _ => s.stuck
  | fuel + 1, tested, s, command =>
      if s.jump.isSome then s
      else
        match command with
        | .nothing => s
        | .simple line assignments words redirections =>
            checkFailure tested (runSimple fuel { s with line, tested } assignments words redirections)
        | .redirected line command redirections =>
            let (opened, ok) := redirect fuel { s with line } redirections
            if ok then { run fuel tested opened command with streams := s.streams }
            else checkFailure tested { opened with streams := s.streams }
        | .pipeline negated [command] =>
            let after := run fuel (tested || negated) s command
            if negated && after.jump.isNone then after.done (if after.last.succeeded then 1 else 0)
            else after
        | .pipeline negated commands =>
            let after := runStages fuel { s with last := .code 0 } s.ms none commands
            if negated && after.jump.isNone then after.done (if after.last.succeeded then 1 else 0)
            else checkFailure tested after
        | .both first second =>
            let s := run fuel true s first
            if s.last.succeeded then run fuel tested s second else s
        | .either first second =>
            let s := run fuel true s first
            if s.last.succeeded then s else run fuel tested s second
        | .sequence first second => run fuel tested (run fuel tested s first) second
        | .background command =>
            let inner := { s.child.setStream 0 (some .nowhere) with ms := s.ms + 1 }
            let below := conclude fuel (run fuel false inner command)
            let number := s.process + s.jobs.length + 1
            { s.after below with
              ms := s.ms, last := .code 0, jump := s.jump
              jobs := s.jobs ++ [⟨number, below.ms, .code below.exit.status⟩] }
        | .subshell command =>
            checkFailure tested (s.after (conclude fuel (run fuel tested s.child command)))
        | .choice condition yes no =>
            let s := run fuel true s condition
            if s.jump.isSome then s
            else if s.last.succeeded then run fuel tested s yes
            else run fuel tested s.done no
        | .loop negated condition body =>
            let after := repeatLoop fuel tested negated (.code 0) { s with loops := s.loops + 1 }
              condition body
            { after with loops := s.loops }
        | .each name words body =>
            let (s, items) := expandWords fuel s [] words
            let after := eachLoop fuel tested name { s.done with loops := s.loops + 1 } body items
            { after with loops := s.loops }
        | .select subject cases =>
            let (s, text) := expandWhole fuel s subject
            runCases fuel tested s.done text.toList cases
        | .define name body =>
            { s with functions := (name, body) :: s.functions.filter (·.1 ≠ name) }.done

/-- Repeats a command while, or until, a condition holds; `status` is how the last turn ended. -/
def repeatLoop : Nat → Bool → Bool → Exit → Session → Command → Command → Session
  | 0, _, _, _, s, _, _ => s.stuck
  | fuel + 1, tested, negated, status, s, condition, body =>
      let s := run fuel true s condition
      match s.jump with
      | some _ =>
          match afterTurn s with
          | (s, true) => repeatLoop fuel tested negated s.last s condition body
          | (s, false) => s
      | none =>
          if s.last.succeeded = negated then { s with last := status }
          else
            match afterTurn (run fuel tested s body) with
            | (s, true) =>
                if s.ms ≥ Session.never then s.stuck
                else repeatLoop fuel tested negated s.last s condition body
            | (s, false) => s

/-- Runs a command for each of some words. -/
def eachLoop : Nat → Bool → String → Session → Command → List String → Session
  | 0, _, _, s, _, _ => s.stuck
  | _ + 1, _, _, s, _, [] => s
  | fuel + 1, tested, name, s, body, item :: items =>
      if s.jump.isSome then s
      else
        match afterTurn (run fuel tested (s.assign name item) body) with
        | (s, true) => eachLoop fuel tested name s body items
        | (s, false) => s

/-- Runs the first case whose pattern fits a text. -/
def runCases : Nat → Bool → Session → List Char → List (List Word × Command) → Session
  | 0, _, s, _, _ => s.stuck
  | _ + 1, _, s, _, [] => s
  | fuel + 1, tested, s, text, (patterns, body) :: cases =>
      if s.jump.isSome then s
      else
        let (s, found) := fitsAny fuel s text patterns
        if found then run fuel tested s body else runCases fuel tested s text cases

/-- Whether one of some patterns fits a text. -/
def fitsAny : Nat → Session → List Char → List Word → Session × Bool
  | 0, s, _, _ => (s.stuck, false)
  | _ + 1, s, _, [] => (s, false)
  | fuel + 1, s, text, pattern :: patterns =>
      let (s, fields) := expandSegments fuel false s {} pattern
      if Pattern.fits (Pattern.ofWord fields.whole) text then (s, true)
      else fitsAny fuel s text patterns

/-- Runs the commands of a pipeline, each in a shell of its own that reads what the one before it
wrote. All of them start at the same time. -/
def runStages : Nat → Session → Nat → Option Nat → List Command → Session
  | 0, s, _, _, _ => s.stuck
  | _ + 1, s, _, _, [] => s
  | fuel + 1, s, start, source, command :: rest =>
      let inner := { s.child with ms := start }
      let inner := match source with
        | some number => inner.setStream 0 (some (.buffer number))
        | none => inner
      match rest with
      | [] =>
          let below := conclude fuel (run fuel false inner command)
          let after := s.after below
          { after with ms := max s.ms below.ms }
      | rest =>
          let (number, inner) := inner.fresh []
          let below := conclude fuel (run fuel false (inner.setStream 1 (some (.buffer number)))
            command)
          let after := s.after below
          runStages fuel { after with ms := max s.ms below.ms } start (some number) rest

/-- Runs a simple command. -/
def runSimple : Nat → Session → List (String × Word) → List Word → List Redirection → Session
  | 0, s, _, _, _ => s.stuck
  | fuel + 1, s, assignments, words, redirections =>
      let before := s.streams
      let (s, expanded) := expandWords fuel { s with substituted := none } [] words
      if s.jump.isSome then s
      else
        match expanded with
        | [] =>
            let (s, ok) := redirect fuel s redirections
            let s := { s with streams := before }
            if !ok then s
            else
              let s := assignEach fuel s assignments
              if s.jump.isSome then s else { s with last := s.substituted.getD (.code 0) }
        | name :: arguments =>
            let (s, settings) := expandSettings fuel s assignments
            if s.jump.isSome then s
            else
              let s := trace s settings (name :: arguments)
              let (s, ok) := redirect fuel s redirections
              let isSpecial := specialNames.contains name
              if s.jump.isSome then { s with streams := before }
              else if !ok then
                let s := { s with streams := before }
                if isSpecial then s.finished (.code 2) else s
              else if let some (fixed, _) := settings.find? fun (name, _) => s.isReadOnly name then
                s.abort s!"{fixed}: is read only"
              else
                let saved := remember s (settings.map (·.1))
                let s := settings.foldl (fun s (name, value) =>
                  s.put name { value := some value, exported := true }) s
                let after := runNamed fuel s name arguments
                let after := if isSpecial then after else restore after saved
                if name = "exec" && arguments.isEmpty then after else { after with streams := before }

/-- Carries out assignments one after the other. -/
def assignEach : Nat → Session → List (String × Word) → Session
  | 0, s, _ => s.stuck
  | _ + 1, s, [] => s
  | fuel + 1, s, (name, word) :: rest =>
      let (s, text) := expandWhole fuel s word
      if s.jump.isSome then s
      else if s.isReadOnly name then s.abort s!"{name}: is read only"
      else
        let s := trace (s.assign name text) [(name, text)] []
        assignEach fuel s rest

/-- Runs the command with a name. -/
def runNamed : Nat → Session → String → List String → Session
  | 0, s, _, _ => s.stuck
  | fuel + 1, s, name, arguments =>
      if specialNames.contains name then
        { runSpecial fuel { s with about := some name } name arguments with about := s.about }
      else
        match s.functions.find? (·.1 = name) with
        | some (_, body) => callFunction fuel s body arguments
        | none => runBeyond fuel s name arguments

/-- Runs the builtin command or the program with a name, but no function. -/
def runBeyond : Nat → Session → String → List String → Session
  | 0, s, _, _ => s.stuck
  | fuel + 1, s, name, arguments =>
      if regularNames.contains name then
        { runRegular fuel { s with about := some name } name arguments with about := s.about }
      else
        match Utility.builtin? name with
        | some utility =>
            s.absorb (utility ⟨s.lead ++ name, arguments, s.input, s.disk, []⟩)
        | none =>
            let after := runProgram fuel s s.environment name arguments
            match after.last, after.jump with
            | .signal signal, none =>
                let silent := signal = 2 || signal = 13
                let after := if silent then after
                  else after.write 2 (Text.Utf8.encode (Exit.obituary signal ++ "\n"))
                { after with last := .code (128 + signal) }
            | _, _ => after

/-- Calls a function. -/
def callFunction : Nat → Session → Command → List String → Session
  | 0, s, _, _ => s.stuck
  | fuel + 1, s, body, arguments =>
      let inner := { s with arguments := s.name :: arguments, locals := some [], loops := 0 }
      let after := run fuel s.tested inner body
      let after := restore after (after.locals.getD [])
      { after with
        arguments := s.arguments, locals := s.locals, loops := s.loops
        jump := if after.jump = some .back then none else after.jump }

/-- Runs one of the special builtin commands. -/
def runSpecial : Nat → Session → String → List String → Session
  | 0, s, _, _ => s.stuck
  | fuel + 1, s, name, arguments =>
      match name, arguments with
      | ":", _ | "times", _ => s.done
      | "exit", arguments =>
          match statusArgument s arguments with
          | .ok code => s.finished (.code code)
          | .error reason => s.abort reason
      | "return", arguments =>
          match statusArgument s arguments with
          | .ok code =>
              if s.locals.isSome then { s.done code with jump := some .back }
              else s.finished (.code code)
          | .error reason => s.abort reason
      | "break", arguments | "continue", arguments =>
          match statusArgument { s with last := .code 1 } arguments with
          | .ok count =>
              if count = 0 then s.abort s!"Illegal number: {count}"
              else if s.loops = 0 then s.done
              else
                let count := min count s.loops
                { s.done with
                  jump := some (if name = "break" then .leave count else .next count) }
          | .error reason => s.abort reason
      | "eval", words => evaluate fuel s.done (Text.join " " words)
      | ".", path :: _ =>
          match s.openInput path with
          | .ok (.buffer number, s) =>
              let inner := { s.done with about := some path, locals := some (s.locals.getD []) }
              let after := evaluate fuel inner (Text.Utf8.decodeLossy (s.content number))
              { after with
                about := s.about, locals := s.locals
                jump := if after.jump = some .back then none else after.jump }
          | .ok _ => s.done
          | .error reason => s.abort s!"cannot open {path}: {reason}"
      | "exec", [] => s.done
      | "exec", name :: arguments =>
          let after := runProgram fuel s s.environment name arguments
          if after.jump.isSome then after else { after with jump := some (.finish after.last) }
      | "export", arguments =>
          declare s (fun entry => { entry with exported := true }) (arguments.filter (· ≠ "-p"))
      | "readonly", arguments =>
          declare s (fun entry => { entry with readOnly := true }) (arguments.filter (· ≠ "-p"))
      | "set", arguments =>
          match readShellOptions false { flags := s.flags } arguments with
          | .error reason => s.abort reason
          | .ok options =>
              let s := { s with flags := options.flags }.done
              if options.explicit || !options.rest.isEmpty then
                { s with arguments := s.name :: options.rest }
              else s
      | "shift", arguments =>
          match statusArgument { s with last := .code 1 } arguments with
          | .ok count =>
              if count > s.arguments.length - 1 then s.abort "can't shift that many"
              else { s with arguments := s.name :: s.arguments.drop (count + 1) }.done
          | .error reason => s.abort reason
      | "trap", [] => (s.write 1 (Text.Utf8.encode (trapText s))).done
      | "trap", [name] => setTraps s none [name]
      | "trap", "--" :: action :: names | "trap", action :: names =>
          if action = "-" then setTraps s none names
          else if (Arithmetic.digits? 10 action.toList).isSome then setTraps s none (action :: names)
          else setTraps s (some action) names
      | "unset", "-f" :: names =>
          { s with functions := s.functions.filter fun f => !names.contains f.1 }.done
      | "unset", "-v" :: names | "unset", names =>
          match names.find? s.isReadOnly, names.find? fun name => !isName name.toList with
          | some name, _ => s.abort s!"{name}: is read only"
          | none, some name => s.abort s!"{name}: bad variable name"
          | none, none => { s with bindings := s.bindings.filter fun v => !names.contains v.1 }.done
      | _, _ => s.done

/-- Runs one of the other builtin commands. -/
def runRegular : Nat → Session → String → List String → Session
  | 0, s, _, _ => s.stuck
  | fuel + 1, s, name, arguments =>
      match name, arguments with
      | "cd", "--" :: path :: _ | "cd", path :: _ =>
          if path.isEmpty then s.done
          else if path = "-" then
            let path := (s.value? "OLDPWD").getD (Path.ofParts s.disk.current)
            changeDirectory (s.write 1 (Text.Utf8.encode (path ++ "\n"))) path
          else changeDirectory s path
      | "cd", [] => changeDirectory s ((s.value? "HOME").getD "/")
      | "local", settings => declareLocal s settings
      | "read", arguments =>
          match ({ plain := "r", valued := "p", strict := true } : OptionTable).read arguments with
          | .error reason =>
              let letter := (reason.toList.reverse.drop 1).take 1
              s.complain 2 ("Illegal option -" ++ String.ofList letter)
          | .ok options =>
              if options.operands.isEmpty then s.complain 2 "arg count"
              else readLine (s.write 2 (Text.Utf8.encode ((options.value? 'p').getD "")))
                (options.has 'r') options.operands
      | "command", "-v" :: name :: _ =>
          match describeName s name with
          | some text =>
              let shown := if Text.startsWith "/" text then text else name
              (s.write 1 (Text.Utf8.encode (shown ++ "\n"))).done
          | none => s.done 127
      | "command", name :: arguments =>
          if specialNames.contains name then
            runSpecial fuel { s with about := some name } name arguments
          else runBeyond fuel { s with about := none } name arguments
      | "type", names =>
          names.foldl (fun s name =>
            let (text, code) := match describeName s name with
              | some text => (s!"{name} is {text}\n", s.last.status)
              | none => (s!"{name}: not found\n", 127)
            (s.write 1 (Text.Utf8.encode text)).done code) s.done
      | "umask", [] => (s.write 1 (Text.Utf8.encode "0022\n")).done
      | "wait", [] =>
          let now := (s.jobs.map (·.endMs)).foldl max s.ms
          { s with ms := now, jobs := [] }.done
      | "wait", number :: _ =>
          match s.jobs.find? fun job => toString job.number = number with
          | some job => { s with ms := max s.ms job.endMs, last := job.exit }
          | none => s.done 127
      | "kill", ["-l", text] =>
          match (Exit.signalOf? text).bind Exit.signalName? with
          | some name => (s.write 1 (Text.Utf8.encode (name ++ "\n"))).done
          | none => s.complain 2 s!"invalid signal number or exit status: {text}"
      | "kill", "-l" :: _ =>
          (s.write 1 (Text.Utf8.encode (String.join (Exit.signalNames.map (· ++ "\n"))))).done
      | "kill", arguments =>
          match killTargets arguments with
          | .error reason => s.complain 2 reason
          | .ok (signal, targets) => signalEach fuel s.done signal targets
      | _, _ => s.done

/-- Sends a signal to processes. -/
def signalEach : Nat → Session → Nat → List String → Session
  | 0, s, _, _ => s.stuck
  | _ + 1, s, _, [] => s
  | fuel + 1, s, signal, target :: targets =>
      if s.jump.isSome then s
      else
        match target.toNat? with
        | none => s.complain 2 s!"Illegal number: {target}"
        | some number =>
            if s.jobs.any (·.number = number) then signalEach fuel s signal targets
            else if number ≠ s.process then
              signalEach fuel (s.complain 1 "No such process\n") signal targets
            else
              let trapped := (Exit.signalName? signal).bind fun name => s.traps.find? (·.1 = name)
              match trapped with
              | some (_, action) =>
                  if signal = 9 then { s with jump := some (.killed number signal) }
                  else
                    let after := if action.isEmpty then s
                      else evaluate fuel { s with about := none } action
                    let after := { after with about := s.about }
                    if after.jump.isSome then after else signalEach fuel after.done signal targets
              | none =>
                  if Exit.harmless.contains signal then signalEach fuel s signal targets
                  else { s with jump := some (.killed number signal) }

/-- Runs the program with a name or at a path. -/
def runProgram : Nat → Session → List (String × String) → String → List String → Session
  | 0, s, _, _, _ => s.stuck
  | fuel + 1, s, environment, path, arguments =>
      let missing := s.complain 127 s!"{path}: not found"
      let denied := s.complain 126 s!"{path}: Permission denied"
      if path.isEmpty then s.complain 127 ": Permission denied"
      else if Text.contains "/" path then
        match Machine.locate s.disk Utility.names path with
        | .ok (.program name) => runKnown fuel s environment name path arguments
        | .ok _ => denied
        | .error _ => missing
      else if Utility.names.contains path then runKnown fuel s environment path path arguments
      else missing

/-- Runs a program that is known; `path` is what it was called by. -/
def runKnown : Nat → Session → List (String × String) → String → String → List String → Session
  | 0, s, _, _, _, _ => s.stuck
  | fuel + 1, s, environment, name, path, arguments =>
      let call : Call := ⟨path, arguments, s.input, s.disk, environment⟩
      match Utility.ofName? name with
      | some utility => s.absorb (utility call)
      | none =>
          match name with
          | "sh" | "dash" | "bash" => startShell fuel s environment path arguments
          | "printenv" =>
              match arguments with
              | [] => s.absorb (.ofText (listing environment))
              | wanted =>
                  let found := wanted.filterMap fun name => environment.find? (·.1 = name)
                  s.absorb { Effect.ofText (String.join (found.map (·.2 ++ "\n"))) with
                    exit := .code (if found.length = wanted.length then 0 else 1) }
          | "env" => runEnv fuel s environment call arguments
          | "timeout" =>
              match ({ plain := "vpf", valued := "ks", strict := true } : OptionTable).read
                  arguments with
              | .error reason => s.absorb (call.misuse 125 reason)
              | .ok options =>
                  match options.operands with
                  | limit :: program :: arguments =>
                      match Utility.duration? limit with
                      | none => s.absorb (call.misuse 125 s!"invalid time interval '{limit}'")
                      | some limit =>
                          if !Utility.names.contains program && !Text.contains "/" program then
                            let reason := s!"failed to run command '{program}'"
                            s.absorb (call.complain 127 s!"{reason}: No such file or directory")
                          else
                            let after := runProgram fuel s environment program arguments
                            if limit > 0 && after.ms ≥ s.ms + limit then
                              { after with
                                ms := s.ms + limit, heldMs := max s.heldMs (s.ms + limit)
                                jump := s.jump, last := .code 124 }
                            else after
                  | _ => s.absorb (.complaint 125 s!"Try '{path} --help' for more information.")
          | "xargs" => runArguments fuel s environment call arguments
          | _ =>
              match arguments with
              | program :: arguments => runProgram fuel s environment program arguments
              | [] => s.done
where
  /-- An environment as it is listed. -/
  listing (environment : List (String × String)) : String :=
    String.join (environment.map fun (name, value) => s!"{name}={value}\n")

/-- Runs a program in a changed environment, or shows the environment. -/
def runEnv : Nat → Session → List (String × String) → Call → List String → Session
  | 0, s, _, _, _ => s.stuck
  | fuel + 1, s, environment, call, arguments =>
      match arguments with
      | [] =>
          s.absorb (.ofText (String.join (environment.map fun (name, value) => s!"{name}={value}\n")))
      | "-i" :: rest | "-" :: rest => runEnv fuel s [] call rest
      | "-u" :: name :: rest => runEnv fuel s (environment.filter (·.1 ≠ name)) call rest
      | "--" :: rest => runEnv fuel s environment call rest
      | program :: rest =>
          match Text.cutAt? ['='] program.toList with
          | some (name, value) =>
              let name := String.ofList name
              let others := environment.filter (·.1 ≠ name)
              runEnv fuel s (others ++ [(name, String.ofList value)]) call rest
          | none =>
              let known := if Text.contains "/" program then
                  (Machine.locate s.disk Utility.names program).toBool
                else Utility.names.contains program
              if known then runProgram fuel s environment program rest
              else s.absorb (call.complain 127 s!"'{program}': No such file or directory")

/-- Runs a program on arguments that are read from the input. -/
def runArguments : Nat → Session → List (String × String) → Call → List String → Session
  | 0, s, _, _, _ => s.stuck
  | fuel + 1, s, environment, call, arguments =>
      match ({ plain := "0rtx", valued := "nILd", strict := true
               long := [("max-args", 'n'), ("no-run-if-empty", 'r'), ("null", '0')] } :
              OptionTable).read arguments with
      | .error reason => s.absorb (call.misuse 1 reason)
      | .ok options =>
          let text := (Text.Utf8.decodeLossy call.input).toList
          let s := s.take call.input.length
          let command := if options.operands.isEmpty then ["echo"] else options.operands
          let isTemplate := options.has 'I'
          let items := if isTemplate then
              (((Text.splitChars (· = '\n') text).map fun line =>
                String.ofList (line.dropWhile Text.isBlank)).filter (!·.isEmpty))
            else if options.has '0' then
              ((Text.splitChars (· = '\x00') text).filter (!·.isEmpty)).map String.ofList
            else listedArguments text
          let calls : List (List String) := if isTemplate then
              items.map fun item => command.map (Text.replaceAll ((options.value? 'I').getD "") item)
            else
              match (options.value? 'n').bind String.toNat? with
              | some size => (chunks size items.length items).map (command ++ ·)
              | none => if items.isEmpty && options.has 'r' then [] else [command ++ items]
          runCalls fuel s.done environment call calls

/-- Runs several programs; a failure of one of them is a failure of all. -/
def runCalls : Nat → Session → List (String × String) → Call → List (List String) → Session
  | 0, s, _, _, _ => s.stuck
  | _ + 1, s, _, _, [] => s
  | fuel + 1, s, environment, call, words :: rest =>
      if s.jump.isSome then s
      else
        match words with
        | [] => s
        | program :: arguments =>
            let known := Text.contains "/" program || Utility.names.contains program
            if !known then
              s.absorb (call.complain 127 s!"{program}: No such file or directory")
            else
              let inner := s.setStream 0 (some .nowhere)
              let after := { runProgram fuel inner environment program arguments with
                streams := s.streams }
              let failed := !after.last.succeeded
              let after := runCalls fuel after.done environment call rest
              if failed && after.last.succeeded then after.done 123 else after

/-- Starts a shell below. -/
def startShell : Nat → Session → List (String × String) → String → List String → Session
  | 0, s, _, _, _ => s.stuck
  | fuel + 1, s, environment, path, arguments =>
      let fresh : Session :=
        { disk := s.disk, buffers := s.buffers, streams := s.streams, ms := s.ms, heldMs := s.heldMs
          process := s.process + 100, line := 0, arguments := [path]
          bindings := environment.map fun (name, value) =>
            (name, { value := some value, exported := true }) }
      let below := match readShellOptions true { flags := [] } arguments with
        | .error reason => fresh.abort reason
        | .ok options =>
            let fresh := { fresh with flags := options.flags }
            match options.script, options.rest with
            | true, [] => fresh.abort "-c requires an argument"
            | true, script :: names =>
                evaluate fuel { fresh with arguments := if names.isEmpty then [path] else names }
                  script
            | false, file :: names =>
                if options.flags.contains 's' then
                  fromInput fuel { fresh with arguments := path :: file :: names }
                else
                  match fresh.openInput file with
                  | .ok (.buffer number, fresh) =>
                      evaluate fuel { fresh with arguments := file :: names }
                        (Text.Utf8.decodeLossy (fresh.content number))
                  | .ok _ => fresh
                  | .error reason => fresh.abort s!"cannot open {file}: {reason}"
            | false, [] => fromInput fuel fresh
      let below := conclude fuel below
      let after := s.after below
      match below.jump with
      | some (.killed process signal) =>
          if process = below.process then { after with jump := s.jump, last := .signal signal }
          else after
      | _ => { after with last := below.exit }

/-- Runs the script that is the input of a shell, all of which is read at once. -/
def fromInput : Nat → Session → Session
  | 0, s => s.stuck
  | fuel + 1, s =>
      let script := s.input
      evaluate fuel (s.take script.length) (Text.Utf8.decodeLossy script)

/-- Runs a text as a script. -/
def evaluate : Nat → Session → String → Session
  | 0, s, _ => s.stuck
  | fuel + 1, s, text => runSource fuel s { rest := text.toList }

/-- Runs what is left of a script, line by line. -/
def runSource : Nat → Session → Source → Session
  | 0, s, _ => s.stuck
  | fuel + 1, s, source =>
      if s.jump.isSome then s
      else
        match source.next with
        | .error fault => { s with line := fault.line }.abort ("Syntax error: " ++ fault.reason)
        | .ok none => s
        | .ok (some (command, rest)) =>
            if s.has 'n' then runSource fuel s rest
            else runSource fuel { run fuel s.tested s command with tested := s.tested } rest

/-- The end of a shell: what it was told to do at its end is done. -/
def conclude : Nat → Session → Session
  | 0, s => s.stuck
  | fuel + 1, s =>
      match s.jump, s.traps.find? (·.1 = "EXIT") with
      | some (.killed ..), _ | _, none => s
      | _, some (_, action) =>
          let exit := s.exit
          let inner := { s with
            jump := none, last := .code exit.status, loops := 0
            traps := s.traps.filter (·.1 ≠ "EXIT") }
          let after := evaluate fuel inner action
          if after.jump.isSome then after else { after with jump := some (.finish exit) }

end

/-! ## Starting programs -/

/-- How many commands may follow each other inside another. -/
def runBound : Nat := 100000

/-- What is said of a file that is no program. -/
def permissionDenied : String := "Permission denied (os error 13)"

/-- What is said of an argument that no program can be given. -/
def zeroByte : String := "nul byte found in provided data"

/-- What is said of arguments that are too long. -/
def tooLong : String := "Argument list too long (os error 7)"

/-- The length from which on an argument is too long. -/
def longestArgument : Nat := 131072

/-- The program that a command names, or why there is none. -/
def findProgram (disk : Disk) (path : String) : Except String String :=
  if path = "." || path = ".." then .error permissionDenied
  else if Text.contains "/" path then
    match Machine.locate disk Utility.names path with
    | .ok (.program name) => .ok name
    | .ok _ => .error permissionDenied
    | .error reason => .error reason
  else if path.utf8ByteSize > Disk.maxPartBytes then .error Disk.nameTooLong
  else if Utility.names.contains path then .ok path
  else .error notFound

/-- Starts a program with its arguments, its environment and its input, and waits for its end. If
it cannot be started the reason is given. -/
def spawn (disk : Disk) (environment : List (String × String)) (command : List String)
    (input : Bytes) : Except String (Disk × Effect) :=
  let settings := environment.map fun (name, value) => name ++ "=" ++ value
  if (command ++ settings).any fun text => text.toList.contains '\x00' then .error zeroByte
  else
    match command with
    | [] => .error notFound
    | path :: arguments => do
        let name ← findProgram disk path
        if (command ++ settings).any fun text => text.utf8ByteSize ≥ longestArgument then
          throw tooLong
        let s : Session :=
          { disk := Machine.furnish disk, buffers := #[[(0, input)], [], []], arguments := [path] }
        let s := runKnown runBound s environment name path arguments
        return (Machine.strip disk s.disk,
          { out := s.content 1, err := s.content 2, exit := s.exit, ms := max s.ms s.heldMs })

end Switchboard.Shell
