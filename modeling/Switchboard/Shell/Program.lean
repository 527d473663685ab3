import Switchboard.Disk.Basic

/-!
# Programs

What a program leaves behind when it has run: what it wrote, how long it took, and how it ended.
-/

namespace Switchboard.Shell

open Switchboard.Text.Utf8 (Bytes)

/-- How a program ended. -/
inductive Exit where
  | code (number : Nat)
  | signal (number : Nat)
  deriving DecidableEq, Repr, Inhabited

namespace Exit

/-- The names of the signals, from the first one on. -/
def signalNames : List String := [
  "HUP", "INT", "QUIT", "ILL", "TRAP", "ABRT", "BUS", "FPE", "KILL", "USR1", "SEGV", "USR2", "PIPE",
  "ALRM", "TERM", "STKFLT", "CHLD", "CONT", "STOP", "TSTP", "TTIN", "TTOU", "URG", "XCPU", "XFSZ",
  "VTALRM", "PROF", "WINCH", "POLL", "PWR", "SYS"]

/-- The name of a signal. -/
def signalName? (number : Nat) : Option String :=
  if number = 0 then none else signalNames[number - 1]?

/-- The signal with a name or with a number. -/
def signalOf? (name : String) : Option Nat :=
  match name.toNat? with
  | some number => if number ≤ 64 then some number else none
  | none => (signalNames.findIdx? fun known => Text.sameIgnoringCase known name).map (· + 1)

/-- The signals that end no program. -/
def harmless : List Nat := [0, 17, 18, 23, 28]

/-- What a shell says of a program that was ended by a signal. -/
def obituary (signal : Nat) : String :=
  match signal with
  | 1 => "Hangup"
  | 3 => "Quit"
  | 4 => "Illegal instruction"
  | 5 => "Trace/breakpoint trap"
  | 6 => "Aborted"
  | 7 => "Bus error"
  | 8 => "Floating point exception"
  | 9 => "Killed"
  | 10 => "User defined signal 1"
  | 11 => "Segmentation fault"
  | 12 => "User defined signal 2"
  | 14 => "Alarm clock"
  | 15 => "Terminated"
  | number => s!"Unknown signal {number}"

/-- Whether a program was successful. -/
def succeeded (exit : Exit) : Bool := exit = .code 0

/-- The number by which a shell knows the end of a program. -/
def status : Exit → Nat
  | .code number => number
  | .signal number => 128 + number

/-- The end of a program in words. -/
def message : Exit → String
  | .code number => s!"exit status: {number}"
  | .signal number =>
      match signalName? number with
      | some name => s!"signal: {number} (SIG{name})"
      | none => s!"signal: {number}"

end Exit

/-- What a program left behind. -/
structure Effect where
  out : Bytes := []
  err : Bytes := []
  exit : Exit := .code 0
  /-- How long it took. -/
  ms : Nat := 0
  /-- How many bytes of its input it took. -/
  taken : Nat := 0
  /-- The disk, where it was changed. -/
  disk : Option Disk := none
  /-- Whether the output was written before any complaint. -/
  outFirst : Bool := false

namespace Effect

/-- A program that wrote a text. -/
def ofText (text : String) : Effect := { out := Text.Utf8.encode text }

/-- A program that did nothing but end. -/
def ofCode (code : Nat) : Effect := { exit := .code code }

/-- A program that complained. -/
def complaint (code : Nat) (text : String) : Effect :=
  { err := Text.Utf8.encode (text ++ "\n"), exit := .code code }

end Effect

/-- A program that is called. -/
structure Call where
  /-- What the program was called by. -/
  name : String
  arguments : List String
  input : Bytes
  disk : Disk
  /-- The variables that are handed on to the program. -/
  environment : List (String × String) := []

namespace Call

/-- The end of a call with a complaint. -/
def complain (call : Call) (code : Nat) (text : String) : Effect :=
  .complaint code s!"{call.name}: {text}"

/-- What a program says that is called in the wrong way. -/
def misuse (call : Call) (code : Nat) (text : String) : Effect :=
  .complaint code s!"{call.name}: {text}\nTry '{call.name} --help' for more information."

end Call

/-- A program that needs no other program. -/
abbrev Utility := Call → Effect

end Switchboard.Shell
