import Switchboard.Shell.Parser
import Switchboard.Shell.Pattern
import Switchboard.Shell.Utility

/-!
# Sessions of the shell

The state of a shell: variables, functions and options, where its streams lead, and how the last
command ended. What was written waits in numbered buffers, each part with the time at which it was
written; the first three are the input, the output and the complaints of the shell as a whole.
A command that is run on the side shares the buffers, and may write between other commands.
-/

namespace Switchboard.Shell

open Switchboard.Text.Utf8 (Bytes)

/-- Where a stream leads. -/
inductive Channel where
  | buffer (number : Nat)
  /-- The end of a file. -/
  | file (path : String)
  | nowhere
  deriving DecidableEq, Repr

/-- A variable. -/
structure Variable where
  value : Option String
  /-- Whether programs find it in their environment. -/
  exported : Bool := false
  readOnly : Bool := false

/-- Why the next command is not the one that follows. -/
inductive Jump where
  /-- The shell is over. -/
  | finish (exit : Exit)
  /-- A process was sent a signal that ends it. -/
  | killed (process signal : Nat)
  /-- So many loops are left. -/
  | leave (count : Nat)
  /-- The next turn of a loop begins, after so many loops are left. -/
  | next (count : Nat)
  /-- A function is left. -/
  | back
  deriving DecidableEq, Repr

/-- A command that was started on the side: its number, when it ends, and how. -/
structure Job where
  number : Nat
  endMs : Nat
  exit : Exit

/-- The state of a shell. -/
structure Session where
  disk : Disk
  /-- What waits in each buffer: the time and the bytes, the newest first. -/
  buffers : Array (List (Nat × Bytes))
  streams : List (Nat × Channel) := [(0, .buffer 0), (1, .buffer 1), (2, .buffer 2)]
  bindings : List (String × Variable) := []
  functions : List (String × Command) := []
  /-- The name of the script, and its arguments. -/
  arguments : List String := ["sh"]
  last : Exit := .code 0
  ms : Nat := 0
  /-- Until when a program holds the output or the complaints of the shell open. -/
  heldMs : Nat := 0
  line : Nat := 1
  /-- The command that complaints are about. -/
  about : Option String := none
  flags : List Char := []
  traps : List (String × String) := []
  jump : Option Jump := none
  /-- The loops around the current command. -/
  loops : Nat := 0
  /-- What the local variables of the current function were before, if there is a function. -/
  locals : Option (List (String × Option Variable)) := none
  jobs : List Job := []
  process : Nat := 4242
  /-- Whether a failure of the current command is taken into account by another one. -/
  tested : Bool := false
  /-- How the last substitution in the current command ended. -/
  substituted : Option Exit := none

namespace Session

/-! ## Variables -/

/-- The name a shell goes by in its complaints. -/
def name (s : Session) : String := s.arguments.head?.getD "sh"

/-- Whether an option is set. -/
def has (s : Session) (flag : Char) : Bool := s.flags.contains flag

/-- The characters that part words. -/
def separators (s : Session) : List Char :=
  match s.bindings.find? (·.1 = "IFS") with
  | some (_, { value := some text, .. }) => text.toList
  | _ => [' ', '\t', '\n']

/-- The value of a parameter, if it has one. -/
def value? (s : Session) (name : String) : Option String :=
  let joined := Text.join ((s.separators.head?.map String.singleton).getD "") (s.arguments.drop 1)
  match name with
  | "?" => some (toString s.last.status)
  | "$" => some (toString s.process)
  | "#" => some (toString (s.arguments.length - 1))
  | "@" | "*" => some joined
  | "-" => some (String.ofList s.flags)
  | "!" => (s.jobs.getLast?).map fun job => toString job.number
  | name =>
      if name.toList.all Char.isDigit then (name.toNat?).bind fun k => s.arguments[k]?
      else (s.bindings.find? (·.1 = name)).bind (·.2.value)

/-- Puts a variable. -/
def put (s : Session) (name : String) (new : Variable) : Session :=
  { s with bindings := (name, new) :: s.bindings.filter (·.1 ≠ name) }

/-- Whether a variable can be set no more. -/
def isReadOnly (s : Session) (name : String) : Bool :=
  (s.bindings.find? (·.1 = name)).any (·.2.readOnly)

/-- Sets a variable. -/
def assign (s : Session) (name value : String) : Session :=
  let exported := (s.bindings.find? (·.1 = name)).any (·.2.exported) || s.has 'a'
  s.put name { value := some value, exported }

/-- The variables that programs find in their environment. -/
def environment (s : Session) : List (String × String) :=
  s.bindings.filterMap fun (name, entry) =>
    if entry.exported then entry.value.map fun value => (name, value) else none

/-! ## Streams -/

/-- Where a stream leads. -/
def channel (s : Session) (stream : Nat) : Option Channel :=
  (s.streams.find? (·.1 = stream)).map (·.2)

/-- What waits in a buffer, the oldest first. -/
def content (s : Session) (number : Nat) : Bytes :=
  let parts := ((s.buffers[number]?).getD []).reverse
  (parts.mergeSort fun a b => a.1 ≤ b.1).flatMap (·.2)

/-- Fills a buffer anew. -/
def fill (s : Session) (number : Nat) (bytes : Bytes) : Session :=
  { s with buffers := s.buffers.setIfInBounds number [(s.ms, bytes)] }

/-- A new buffer. -/
def fresh (s : Session) (bytes : Bytes) : Nat × Session :=
  (s.buffers.size, { s with buffers := s.buffers.push (if bytes.isEmpty then [] else [(s.ms, bytes)]) })

/-- Writes to where a stream leads. -/
def send (s : Session) (bytes : Bytes) : Channel → Session
  | .buffer number =>
      if bytes.isEmpty then s
      else { s with buffers := s.buffers.modify number ((s.ms, bytes) :: ·) }
  | .file path =>
      let before := (s.disk.read path).toOption.getD []
      match s.disk.write path (before ++ bytes) with
      | .ok disk => { s with disk }
      | .error _ => s
  | .nowhere => s

/-- Writes to a stream. -/
def write (s : Session) (stream : Nat) (bytes : Bytes) : Session :=
  match s.channel stream with
  | some channel => s.send bytes channel
  | none => s

/-- What can be read from the input. -/
def input (s : Session) : Bytes :=
  match s.channel 0 with
  | some (.buffer number) => s.content number
  | _ => []

/-- Takes bytes from the input. -/
def take (s : Session) (count : Nat) : Session :=
  match s.channel 0 with
  | some (.buffer number) => if count = 0 then s else s.fill number ((s.content number).drop count)
  | _ => s

/-- Replaces a stream. -/
def setStream (s : Session) (stream : Nat) (channel : Option Channel) : Session :=
  let others := s.streams.filter (·.1 ≠ stream)
  { s with streams := match channel with
      | some channel => (stream, channel) :: others
      | none => others }

/-! ## Complaints -/

/-- What a complaint begins with. -/
def lead (s : Session) : String :=
  let about := (s.about.map (· ++ ": ")).getD ""
  s!"{s.name}: {s.line}: {about}"

/-- Complains, and ends the command with a code. -/
def complain (s : Session) (code : Nat) (text : String) : Session :=
  { s.write 2 (Text.Utf8.encode (s.lead ++ text ++ "\n")) with last := .code code }

/-- Complains, and ends the shell. -/
def abort (s : Session) (text : String) : Session :=
  { s.complain 2 text with jump := some (.finish (.code 2)) }

/-- Ends a command with a code. -/
def done (s : Session) (code : Nat := 0) : Session := { s with last := .code code }

/-- Ends the shell with a code. -/
def finished (s : Session) (exit : Exit) : Session :=
  { s with last := exit, jump := some (.finish exit) }

/-- When a command that never ends would end. -/
def never : Nat := 1000000000000

/-- A session that does not come to an end. -/
def stuck (s : Session) : Session :=
  { s with ms := never, heldMs := never, jump := some (.finish (.code 0)) }

/-- Lets time pass. The streams of the shell stay open meanwhile where they are in use. -/
def pass (s : Session) (ms : Nat) : Session :=
  let holds := s.channel 1 = some (.buffer 1) || s.channel 2 = some (.buffer 2)
  let now := s.ms + ms
  { s with ms := now, heldMs := if holds && ms > 0 then max s.heldMs now else s.heldMs }

/-- Lets a program run to its end. -/
def absorb (s : Session) (effect : Effect) : Session :=
  let s := (s.pass effect.ms).take effect.taken
  let s := match effect.disk with
    | some disk => { s with disk := { disk with current := s.disk.current } }
    | none => s
  let s := if effect.outFirst then (s.write 1 effect.out).write 2 effect.err
    else (s.write 2 effect.err).write 1 effect.out
  { s with last := effect.exit }

/-- How the session ends. -/
def exit (s : Session) : Exit :=
  match s.jump with
  | some (.finish exit) => exit
  | some (.killed _ signal) => .signal signal
  | _ => s.last

/-! ## Shells below -/

/-- A shell below this one: it knows the same, but is in no loop and has no traps. -/
def child (s : Session) : Session :=
  { s with
    traps := s.traps.filter fun trap => trap.2.isEmpty, loops := 0, jump := none, tested := false }

/-- This shell after one below it has ended: the world has changed, and the shell has not. -/
def after (s below : Session) : Session :=
  { s with
    disk := { below.disk with current := s.disk.current }, buffers := below.buffers, ms := below.ms
    heldMs := below.heldMs, last := .code below.exit.status
    jump := match below.jump with
      | some (.killed process signal) => some (.killed process signal)
      | _ => s.jump }

/-! ## Files -/

/-- The stream that the path of a device names. -/
def deviceStream? (path : String) : Option Nat :=
  match path with
  | "/dev/stdin" => some 0
  | "/dev/stdout" => some 1
  | "/dev/stderr" => some 2
  | path => (Text.after? "/dev/fd/" path).bind String.toNat?

/-- How the shell says why a file was not opened. -/
def openReason (missing reason : String) : String :=
  if reason = notFound || reason = notDirectory then missing else Utility.plainReason reason

/-- Opens a file for writing. -/
def openOutput (s : Session) (path : String) (append : Bool) : Except String (Channel × Session) :=
  match deviceStream? path, Utility.device? path with
  | some stream, _ =>
      match s.channel stream with
      | some channel => .ok (channel, s)
      | none => .error "Directory nonexistent"
  | none, some _ => .ok (.nowhere, s)
  | none, none =>
      let content := if append then (s.disk.read path).toOption.getD [] else []
      match s.disk.write path content with
      | .ok disk => .ok (.file path, { s with disk })
      | .error reason => .error (openReason "Directory nonexistent" reason)

/-- Opens a file for reading. -/
def openInput (s : Session) (path : String) : Except String (Channel × Session) :=
  match deviceStream? path, Utility.device? path with
  | some stream, _ =>
      match s.channel stream with
      | some channel => .ok (channel, s)
      | none => .error "No such file"
  | none, some content =>
      let (number, s) := s.fresh content
      .ok (.buffer number, s)
  | none, none =>
      match s.disk.read path with
      | .ok content =>
          let (number, s) := s.fresh content
          .ok (.buffer number, s)
      | .error reason => .error (openReason "No such file" reason)

end Session

/-! ## Words under construction -/

/-- Words that are being put together: those finished, the last one first, and the one that has
begun, with its characters in reverse. -/
structure Fields where
  done : List (List Marked) := []
  current : Option (List Marked) := none
  /-- Whether blanks have just ended a word. -/
  afterBlank : Bool := false

namespace Fields

/-- Continues the word that has begun, or begins one. -/
def write (fields : Fields) (quoted : Bool) (chars : List Char) : Fields :=
  { fields with
    current := some (chars.foldl (fun word c => (c, quoted) :: word) (fields.current.getD []))
    afterBlank := false }

/-- Ends the word that has begun. -/
def close (fields : Fields) : Fields :=
  match fields.current with
  | some word => { fields with done := word.reverse :: fields.done, current := none }
  | none => fields

/-- Takes one character of an expansion. A blank separator ends a word; any other separator ends
one even if it is empty. -/
def takeChar (separators : List Char) (fields : Fields) (c : Char) : Fields :=
  if !separators.contains c then fields.write false [c]
  else if c = ' ' || c = '\t' || c = '\n' then
    match fields.current with
    | some _ => { fields.close with afterBlank := true }
    | none => fields
  else
    match fields.current, fields.afterBlank with
    | some _, _ => fields.close
    | none, true => { fields with afterBlank := false }
    | none, false => { fields with done := [] :: fields.done }

/-- Writes an expansion, which is split into words unless it stands between quotes. -/
def expand (separators : List Char) (quoted : Bool) (fields : Fields) (text : String) : Fields :=
  if quoted then fields.write true text.toList
  else text.toList.foldl (takeChar separators) fields

/-- The words, in order. -/
def words (fields : Fields) : List (List Marked) := fields.close.done.reverse

end Fields

/-! ## Files that fit a pattern -/

/-- The places that fit the parts of a pattern, below a place that is written as given. -/
def fittingPaths (disk : Disk) : Place → String → List (List Marked) → List String
  | _, written, [] => [written]
  | place, written, part :: rest =>
      let extended (name : String) : String :=
        if written.isEmpty || Text.endsWith "/" written then written ++ name else written ++ "/" ++ name
      let plain := String.ofList (Pattern.chars part)
      if !Pattern.isPattern part then
        let next := if plain = ".." then place.dropLast else if plain = "." then place
          else place ++ [plain]
        if rest.isEmpty && !disk.isTaken next then [] else fittingPaths disk next (extended plain) rest
      else
        let pattern := Pattern.ofWord part
        let isHidden (name : String) : Bool := Text.startsWith "." name && part.head?.map (·.1) ≠ some '.'
        ((Utility.namesIn disk place).filter fun name =>
            !isHidden name && Pattern.fits pattern name.toList &&
              (rest.isEmpty || disk.isDirectory (place ++ [name]))).flatMap fun name =>
          fittingPaths disk (place ++ [name]) (extended name) rest

/-- Splits a word at its slashes. -/
def pathParts : List Marked → List (List Marked)
  | [] => [[]]
  | (c, quoted) :: rest =>
      if c = '/' then [] :: pathParts rest
      else
        match pathParts rest with
        | [] => [[(c, quoted)]]
        | part :: parts => ((c, quoted) :: part) :: parts

/-- The paths that fit a word, or the word itself if there are none. -/
def expandPaths (disk : Disk) (word : List Marked) : List String :=
  let text := String.ofList (Pattern.chars word)
  if !Pattern.isPattern word then [text]
  else
    let absolute := word.head?.map (·.1) = some '/'
    let parts := (pathParts word).filter (!·.isEmpty)
    match fittingPaths disk (if absolute then [] else disk.current) (if absolute then "/" else "")
        parts with
    | [] => [text]
    | paths => paths

/-! ## Reading lines -/

/-- The bytes of a line of the input and the number of bytes it takes, where a backslash carries the
line over unless `raw` says otherwise; marked are the bytes after a backslash. -/
def readLogicalLine (raw : Bool) : Nat → List (UInt8 × Bool) → Bytes →
    List (UInt8 × Bool) × Nat × Bool
  | count, done, [] => (done.reverse, count, false)
  | count, done, b :: rest =>
      if b = 10 then (done.reverse, count + 1, true)
      else if b = 92 && !raw then
        match rest with
        | [] => (done.reverse, count + 1, false)
        | 10 :: rest => readLogicalLine raw (count + 2) done rest
        | c :: rest => readLogicalLine raw (count + 2) ((c, true) :: done) rest
      else readLogicalLine raw (count + 1) ((b, false) :: done) rest

/-- The words of a line for so many names: the last name takes the rest. -/
def lineWords (separators : List Char) : Nat → List Marked → List (List Marked)
  | 0, _ => []
  | count + 1, chars =>
      let isSeparator (m : Marked) : Bool := !m.2 && separators.contains m.1
      let isBlank (m : Marked) : Bool := isSeparator m && (m.1 = ' ' || m.1 = '\t' || m.1 = '\n')
      let chars := chars.dropWhile isBlank
      if count = 0 then
        let trimmed := (chars.reverse.dropWhile isBlank).reverse
        -- One separator at the very end belongs to the last word only if there are others.
        let inner := trimmed.dropLast
        match trimmed.getLast? with
        | some m => if isSeparator m && !inner.any isSeparator then [inner] else [trimmed]
        | none => [trimmed]
      else
        let word := chars.takeWhile fun m => !isSeparator m
        let rest := (chars.drop word.length).dropWhile isBlank
        let rest := match rest with
          | m :: more => if isSeparator m then more else rest
          | [] => []
        word :: lineWords separators count rest

end Switchboard.Shell
