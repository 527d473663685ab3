import Switchboard.Index.Reading
import Switchboard.Shell.Run
import Switchboard.Source.Scan

/-!
# Indexers

An indexer turns a source tree into an index. The library has one that scans the files by itself,
and one that asks a command: the root of the tree is the command's last argument, and the index is
what the command writes.
-/

namespace Switchboard.Source

/-- A way to make an index of a source tree. -/
structure Indexer where
  name : String
  /-- Whether it leaves time for others while it works. -/
  waits : Bool
  index : Tree → Disk → Timestamp → Except Report Index.Document

namespace Indexer

/-- The indexer that scans the files. -/
def scanner : Indexer where
  name := "builtin"
  waits := true
  index := Tree.index

/-- The indexer that reads a given text, whatever the tree is. -/
def ofText (text : String) : Indexer where
  name := "text"
  waits := false
  index := fun _ _ _ => (Index.parseDocument text).mapError Report.ofError

/-- The indexer that always fails. -/
def failing (reason : String) : Indexer where
  name := "failing"
  waits := false
  index := fun _ _ _ => .error (.ofMessage reason)

/-- The index that a command wrote. -/
def readOutput (effect : Shell.Effect) : Except Report Index.Document :=
  if !effect.exit.succeeded then
    let complaint := Text.trim (Text.Utf8.decodeLossy effect.err)
    .error (.ofMessage s!"indexer exited with status {effect.exit.message}: {complaint}")
  else
    match Text.Utf8.decode effect.out with
    | .error fault =>
        .error (Report.within "indexer stdout is not UTF-8" (.ofMessage fault.message))
    | .ok text => (Index.parseDocument text).mapError Report.ofError

/-- Runs a command on the root of a tree. Only what it writes out is kept: whatever else it does to
the disk is not handed on. -/
def runCommand (words : List String) (timeoutMs : Nat) (environment : List (String × String))
    (tree : Tree) (disk : Disk) : Except Report Index.Document :=
  match Shell.spawn disk environment (words ++ [tree.root]) [] with
  | .error reason =>
      let program := words.head?.getD ""
      .error (Report.within s!"Failed to execute indexer: {program}" (.ofMessage reason))
  | .ok (_, effect) =>
      if timeoutMs ≤ effect.ms then
        .error (Report.within s!"indexer timed out after {timeoutMs / 1000}s"
          (.ofMessage "deadline has elapsed"))
      else readOutput effect

/-- The indexer that asks a command. -/
def ofCommand (words : List String) (timeoutMs : Nat) (environment : List (String × String)) :
    Except Report Indexer :=
  if words.isEmpty then .error (.ofMessage "indexer command is empty")
  else .ok {
    name := "command"
    waits := true
    index := fun tree disk _ => runCommand words timeoutMs environment tree disk }

/-- The indexer of a kind. -/
def create (kind : String) (words : List String) (timeoutMs : Nat)
    (environment : List (String × String)) : Except Report Indexer :=
  match kind with
  | "builtin" => .ok scanner
  | "command" => ofCommand words timeoutMs environment
  | kind => .error (.ofMessage s!"Unknown indexer kind: {kind}")

end Indexer

end Switchboard.Source
