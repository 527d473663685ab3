import Switchboard.Backend.Echo
import Switchboard.Queue.Shift

/-!
# Scripted backends

A script says what becomes of each call, for the rehearsal of a queue without models. The lines of
a script are grouped by a cue, which is a task with a model or a model alone; each call takes the
next line of the more precise cue that the script has.
-/

namespace Switchboard.Backend

open Switchboard.Data
open Switchboard.Queue (Backends Play Deed)

/-- What becomes of one call. -/
structure Line where
  delayMs : Nat := 0
  cancels : Option String := none
  hang : Bool := false
  crash : Option String := none
  transient : Option String := none
  capability : Option String := none
  text : Option String := none
  usage : Option Nat := none
  deriving Repr, Inhabited

/-- The lines still to come, by cue. -/
abbrev Script := List (String × List Line)

namespace Script

/-- Takes the next line of a cue, if the script has the cue at all. -/
def take? (cue : String) : Script → Option (Line × Script)
  | [] => none
  | (name, lines) :: rest =>
      if name = cue then
        match lines with
        | [] => some ({}, (name, []) :: rest)
        | line :: lines => some (line, (name, lines) :: rest)
      else (take? cue rest).map fun (line, rest) => (line, (name, lines) :: rest)

/-- The line for a call. -/
def next (script : Script) (request : Request) : Line × Script :=
  let model := request.profile.name
  match script.take? s!"{request.taskId}/{model}" with
  | some found => found
  | none => (script.take? model).getD ({}, script)

end Script

/-- How a call ends by its line. -/
def Line.deed (line : Line) (request : Request) : Deed :=
  if line.hang then .hang
  else
    match line.crash, line.transient, line.capability with
    | some message, _, _ => .crash message
    | none, some message, _ => .answer (Backend.transient message)
    | none, none, some message => .answer (Backend.capability message)
    | none, none, none =>
        .answer (.ok ⟨line.text.getD s!"{request.profile.name}:{request.chunk}", line.usage⟩)

/-- The provider whose calls follow the script. -/
def scriptedProvider : String := "scripted"

/-- The backends of a rehearsal: the scripted one, and the one that echoes. -/
def rehearsal : Backends Script := fun script _ request =>
  if request.provider = scriptedProvider then
    let (line, script) := script.next request
    (script, ⟨line.delayMs, line.cancels, line.deed request⟩)
  else (script, ⟨0, none, .answer (Echo.answer request)⟩)

/-- The fields of a line. -/
def Line.fields : List (RecordField Line) := [
  .optional "delay_ms" Reading.word fun l x => { l with delayMs := x.getD 0 },
  .optional "cancel" Reading.text fun l x => { l with cancels := x },
  .optional "hang" Reading.flag fun l x => { l with hang := x.getD false },
  .optional "panic" Reading.text fun l x => { l with crash := x },
  .optional "transient" Reading.text fun l x => { l with transient := x },
  .optional "capability" Reading.text fun l x => { l with capability := x },
  .optional "ok" Reading.text fun l x => { l with text := x },
  .optional "usage" Reading.word fun l x => { l with usage := x }]

/-- Reads a script. -/
def Script.read : Reading Script := Reading.map (Reading.list (record Line.fields {}))

end Switchboard.Backend
