import Switchboard.Data.Record
import Switchboard.Disk.Basic
import Switchboard.Toml.Reader

/-!
# Batch files

A batch file lists tasks, each with its description and with what its context is asked for.
-/

namespace Switchboard.Queue

open Switchboard.Data

/-- What a context package is asked for. -/
structure ContextQuery where
  /-- The name of the scenario; the default one if there is none. -/
  scenario : Option String := none
  query : Option String := none
  activeFile : Option String := none
  deriving DecidableEq, Repr, Inhabited

/-- A task of a batch file. -/
structure BatchEntry where
  description : String := ""
  context : ContextQuery := {}
  models : List String := []
  tags : List String := []
  deriving DecidableEq, Repr, Inhabited

/-- The fields of an entry. -/
def BatchEntry.fields : List (RecordField BatchEntry) := [
  .required "description" Reading.text fun e x => { e with description := x },
  .optional "scenario" Reading.text fun e x => { e with context := { e.context with scenario := x } },
  .optional "query" Reading.text fun e x => { e with context := { e.context with query := x } },
  .optional "active_file" Reading.text fun e x =>
    { e with context := { e.context with activeFile := x } },
  .defaulted "models" (Reading.list Reading.text) fun e x => { e with models := x },
  .defaulted "tags" (Reading.list Reading.text) fun e x => { e with tags := x }]

/-- Reads the entries of a batch file. -/
def readEntries : Reading (List BatchEntry) := recordIn .toml [
  .required "tasks" (Reading.list (recordIn .toml BatchEntry.fields {})) fun _ x => x] []

/-- An entry as data. -/
def BatchEntry.toNode (e : BatchEntry) : Node := .obj [
  ("description", .str e.description),
  ("scenario", .opt .str e.context.scenario),
  ("query", .opt .str e.context.query),
  ("active_file", .opt .str e.context.activeFile),
  ("models", .strs e.models),
  ("tags", .strs e.tags)]

/-- Loads the entries of a batch file. -/
def loadBatch (disk : Disk) (path : String) : Except Report (List BatchEntry) := do
  let text ← (disk.readText path).mapError fun reason =>
    Report.within s!"Failed to read batch file: {path}" (.ofMessage reason)
  let entries ← (Toml.decode readEntries text).mapError fun cause =>
    Report.within "Failed to parse batch file" ⟨[], cause⟩
  if entries.isEmpty then .error (.ofMessage s!"batch file {path} contains no [[tasks]]")
  else return entries

end Switchboard.Queue
