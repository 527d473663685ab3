import Std.Time.DateTime.Timestamp
import Switchboard.CommandLine.Session

/-!
# The program

The outer layer of the command line. It loads the files that a call can reach into a disk in
memory, lets `CommandLine.run` answer the call, writes the changed files back and prints.
-/

namespace Switchboard.Program

open Switchboard.CommandLine (Command Request)

/-! ## Loading -/

/-- Adds a file to the disk in memory; a file that cannot be read is left out. -/
def loadFile (disk : Disk) (path : String) : IO Disk := do
  try
    let content ← IO.FS.readBinFile path
    return (disk.plant path content.toList).toOption.getD disk
  catch _ => return disk

/-- The directories that are never part of a source tree. -/
def passedDirectories : List String := [".git", "target", "node_modules", ".relay"]

/-- Adds a directory to the disk in memory, with what is in it down to the given depth. -/
def loadTree : Nat → Disk → String → IO Disk
  | 0, disk, _ => return disk
  | depth + 1, disk, path => do
      let here := (← IO.currentDir) / path
      if !(← here.isDir) then loadFile disk path
      else
        let mut disk := (disk.makeDirectories path).toOption.getD disk
        for entry in ← here.readDir do
          if !passedDirectories.contains entry.fileName then
            disk ← loadTree depth disk (Path.join path entry.fileName)
        return disk

/-- The deepest nesting of directories that is looked at. -/
def maxDepth : Nat := 64

/-- The files that a command names itself. -/
def namedFiles : Command → List String
  | .batch file .. => [file]
  | _ => []

/-- Adds the files that a configuration speaks of. -/
def loadConfigured (disk : Disk) (config : Config) : IO Disk := do
  let disk ← loadTree maxDepth disk config.cache.sourceRoot
  let disk ← loadFile disk config.cache.path
  match config.router.logPath with
  | some path => loadFile disk path
  | none => return disk

/-- The variables that a call may ask for. -/
def variableNames (models : List Model.Profile) : List String :=
  ["PATH", "HOME", "OPENAI_API_KEY"] ++ models.filterMap (·.apiKeyEnv)

/-- The variables with these names that are set. -/
def loadVariables (names : List String) : IO (List (String × String)) :=
  names.filterMapM fun name => return (← IO.getEnv name).map fun value => (name, value)

/-- The time of the clock. -/
def loadTime : IO Timestamp := do
  let now ← Std.Time.Timestamp.now
  let nanos := now.toNanosecondsSinceUnixEpoch.toInt
  return ⟨nanos / 1000000000, (nanos % 1000000000).toNat⟩

/-- The world as a call finds it. -/
def loadWorld (arguments : List String) : IO World := do
  let now ← loadTime
  let current := Path.parts (← IO.currentDir).toString
  let empty : Disk := {}
  let disk := { (empty.makeDirectories (Path.ofParts current)).toOption.getD empty with current }
  match CommandLine.readRequest arguments with
  | .run path command =>
      let disk ← (path :: namedFiles command).foldlM loadFile disk
      match Config.load disk path with
      | .error _ => return { disk, now }
      | .ok config =>
          let disk ← loadConfigured disk config
          return { disk, now, environment := ← loadVariables (variableNames config.models) }
  | _ => return { disk, now }

/-! ## Saving -/

/-- Writes the files back that a call has changed. -/
def saveFiles (before after : Disk) : IO Unit :=
  for (place, content) in after.files do
    if before.file? place ≠ some content then
      IO.FS.createDirAll (Path.ofParts place.dropLast)
      IO.FS.writeBinFile (Path.ofParts place) (ByteArray.mk content.toArray)

/-- The identifiers of tasks, in groups of hexadecimal digits, from a random seed. -/
def taskIds (seed : Text.Utf8.Bytes) (serial : Nat) : String :=
  let digits := (Sha256.hexDigest (seed ++ Text.Utf8.encode (toString serial))).toList
  let group (start length : Nat) := String.ofList ((digits.drop start).take length)
  Text.join "-" [group 0 8, group 8 4, "4" ++ group 12 3, "8" ++ group 15 3, group 18 12]

end Switchboard.Program

open Switchboard in
/-- Answers one call of the program. -/
def main (arguments : List String) : IO UInt32 := do
  let world ← Program.loadWorld arguments
  let seed ← IO.getRandomBytes 16
  let (after, output) := CommandLine.run (Program.taskIds seed.toList) world arguments
  Program.saveFiles world.disk after.disk
  (← IO.getStdout).putStr output.out
  (← IO.getStderr).putStr output.err
  return UInt32.ofNat output.code
