import Switchboard.Disk.Basic

/-!
# The machine

What is found on every machine besides the files of a project: the directories in which programs
lie, devices, and a directory for temporary files.
-/

namespace Switchboard.Shell.Machine

/-- The directories that are always there. -/
def directories : List Place := [
  ["bin"], ["boot"], ["dev"], ["etc"], ["home"], ["lib"], ["media"], ["mnt"], ["opt"], ["proc"],
  ["root"], ["run"], ["sbin"], ["srv"], ["sys"], ["tmp"], ["usr"], ["usr", "bin"],
  ["usr", "lib"], ["usr", "local"], ["usr", "local", "bin"], ["usr", "sbin"], ["usr", "share"],
  ["var"], ["var", "tmp"]]

/-- Files that are always there. -/
def files : List Place := [
  ["etc", "passwd"], ["etc", "group"], ["etc", "hosts"], ["etc", "hostname"], ["dev", "null"],
  ["dev", "zero"]]

/-- The directories in which programs are found. -/
def programDirectories : List Place := [["bin"], ["usr", "bin"]]

/-- A disk with the directories of the machine. -/
def furnish (disk : Disk) : Disk :=
  directories.foldl (fun disk place => disk.putDirectory place) disk

/-- A disk without those directories of the machine that it did not have before. -/
def strip (before after : Disk) : Disk :=
  { after with
    current := before.current
    directories := after.directories.filter fun place =>
      before.directories.contains place || !directories.contains place }

/-- What a path leads to. -/
inductive Kind where
  | directory
  | file
  /-- A program with a name. -/
  | program (name : String)
  deriving DecidableEq, Repr

/-- What a place of a disk holds, given the names of the programs. -/
def kindOf? (disk : Disk) (programs : List String) (place : Place) : Option Kind :=
  if disk.isDirectory place then some .directory
  else if (disk.file? place).isSome || files.contains place then some .file
  else
    match place.getLast? with
    | some name =>
        if programDirectories.contains place.dropLast && programs.contains name then
          some (.program name)
        else none
    | none => none

/-- What a path leads to, or why it leads nowhere. -/
def locate (disk : Disk) (programs : List String) (path : String) : Except String Kind := do
  let disk := furnish disk
  match disk.resolve path with
  | .error reason =>
      -- The way may lead through a program or a file of the machine, which is no directory.
      let steps := (Path.parts path).dropLast
      let passes := (List.range (steps.length + 1)).any fun k =>
        match kindOf? disk programs (steps.take k) with
        | some .file | some (.program _) => true
        | _ => false
      .error (if passes && reason = notFound then notDirectory else reason)
  | .ok place =>
      match kindOf? disk programs place with
      | some .directory => .ok .directory
      | some kind => if Text.endsWith "/" path then .error notDirectory else .ok kind
      | none => .error notFound

/-- Whether a path leads to a directory. -/
def isDirectory (disk : Disk) (path : String) : Bool :=
  match (furnish disk).resolve path with
  | .ok place => (furnish disk).isDirectory place
  | .error _ => false

/-- Whether a path leads to a file. -/
def isFile (disk : Disk) (path : String) : Bool :=
  match (furnish disk).resolve path with
  | .ok place => (disk.file? place).isSome || (files.contains place && place.head? ≠ some "dev")
  | .error _ => false

end Switchboard.Shell.Machine
