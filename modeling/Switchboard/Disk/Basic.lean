import Switchboard.Disk.Path
import Switchboard.Error
import Switchboard.Text.Utf8

/-!
# Disks

A disk holds directories and files. A place on it is given by the parts of its path from the root
on. Texts of paths are resolved against the current directory, and every directory on the way has
to exist, also one that is left again. There are no symbolic links: no path leads through one, and
none is found in a directory.

Operations that fail say why in the words of the operating system.
-/

namespace Switchboard

open Switchboard.Text.Utf8 (Bytes)

/-- A place on a disk: the parts of its path, the root having none. -/
abbrev Place := List String

/-- Directories and files. -/
structure Disk where
  /-- The directories below the root. -/
  directories : List Place := []
  files : List (Place × Bytes) := []
  /-- The current directory. -/
  current : Place := []

namespace Disk

/-- What is said of a directory to be made where a file stands. -/
def fileExists : String := "File exists (os error 17)"

/-- What is said of a path that is too long, or has a part that is. -/
def nameTooLong : String := "File name too long (os error 36)"

/-- What is said of a path that no disk can hold. -/
def nulByte : String := "file name contained an unexpected NUL byte"

/-- The largest number of bytes of a part of a path. -/
def maxPartBytes : Nat := 255

/-- The largest number of bytes of a path. -/
def maxPathBytes : Nat := 4095

/-- Whether a place is a directory. -/
def isDirectory (disk : Disk) (place : Place) : Bool :=
  place.isEmpty || disk.directories.contains place

/-- The content of the file at a place. -/
def file? (disk : Disk) (place : Place) : Option Bytes :=
  (disk.files.find? (·.1 = place)).map (·.2)

/-- Whether anything is at a place. -/
def isTaken (disk : Disk) (place : Place) : Bool :=
  disk.isDirectory place || (disk.file? place).isSome

/-- Follows the parts of a path from a directory. -/
def follow (disk : Disk) : Place → List String → Except String Place
  | place, [] => .ok place
  | place, part :: rest =>
      if !disk.isDirectory place then
        .error (if (disk.file? place).isSome then notDirectory else notFound)
      else if part = "." then follow disk place rest
      else if part = ".." then follow disk place.dropLast rest
      else if part.utf8ByteSize > maxPartBytes then .error nameTooLong
      else follow disk (place ++ [part]) rest

/-- The place a path leads to; the last part need not exist. -/
def resolve (disk : Disk) (path : String) : Except String Place :=
  if path.isEmpty then .error notFound
  else if path.toList.contains '\x00' then .error nulByte
  else if path.utf8ByteSize > maxPathBytes then .error nameTooLong
  else
    match disk.follow (if Path.isAbsolute path then [] else disk.current) (Path.steps path) with
    | .error reason => .error reason
    | .ok place =>
        if Text.endsWith "/" path && (disk.file? place).isSome then .error notDirectory
        else .ok place

/-- Whether a path leads to something. -/
def pathExists (disk : Disk) (path : String) : Bool :=
  match disk.resolve path with
  | .ok place => disk.isTaken place
  | .error _ => false

/-- The content of a file. -/
def read (disk : Disk) (path : String) : Except String Bytes := do
  let place ← disk.resolve path
  match disk.file? place with
  | some content => .ok content
  | none => .error (if disk.isDirectory place then isDirectoryText else notFound)
where
  /-- What is said of a directory that is read as a file. -/
  isDirectoryText : String := Switchboard.isDirectory

/-- What is said of a file that is read as text and is none. -/
def notText : String := "stream did not contain valid UTF-8"

/-- The content of a file as text. -/
def readText (disk : Disk) (path : String) : Except String String := do
  let content ← disk.read path
  match Text.Utf8.decode content with
  | .ok text => .ok text
  | .error _ => .error notText

/-- Puts a file at a place. -/
def putFile (disk : Disk) (place : Place) (content : Bytes) : Disk :=
  { disk with files := disk.files.filter (·.1 ≠ place) ++ [(place, content)] }

/-- Puts a directory at a place. -/
def putDirectory (disk : Disk) (place : Place) : Disk :=
  if disk.isDirectory place then disk
  else { disk with directories := disk.directories ++ [place] }

/-- Whether the directory of a place is there, and why not. -/
def checkParent (disk : Disk) (place : Place) : Except String Unit :=
  if disk.isDirectory place.dropLast then .ok ()
  else if (disk.file? place.dropLast).isSome then .error notDirectory
  else .error notFound

/-- Writes a file; its directory has to exist. -/
def write (disk : Disk) (path : String) (content : Bytes) : Except String Disk := do
  let place ← disk.resolve path
  if disk.isDirectory place then throw Switchboard.isDirectory
  if Text.endsWith "/" path then throw Switchboard.isDirectory
  disk.checkParent place
  return disk.putFile place content

/-- Makes a directory; the one above has to exist. -/
def makeDirectory (disk : Disk) (path : String) : Except String Disk := do
  let place ← disk.resolve path
  if disk.isTaken place then throw fileExists
  disk.checkParent place
  return disk.putDirectory place

/-- Makes a directory and those above it that are missing. A failure leaves the disk with those that
were made before it. -/
def makeDirectories (disk : Disk) (path : String) : Except (String × Disk) Disk :=
  go (path.length + 1) disk path
where
  /-- Makes at most the given number of directories. -/
  go : Nat → Disk → String → Except (String × Disk) Disk
    | 0, disk, _ => .error (notFound, disk)
    | fuel + 1, disk, path =>
        if path.isEmpty then .ok disk
        else
          match disk.makeDirectory path with
          | .ok disk => .ok disk
          | .error reason =>
              if reason = notFound then
                match Path.parent? path with
                | none => .error (notFound, disk)
                | some parent =>
                    match go fuel disk parent with
                    | .error failure => .error failure
                    | .ok disk =>
                        match disk.makeDirectory path with
                        | .ok disk => .ok disk
                        | .error reason =>
                            if isDirectoryAt disk path then .ok disk else .error (reason, disk)
              else if isDirectoryAt disk path then .ok disk
              else .error (reason, disk)
  /-- Whether a path leads to a directory. -/
  isDirectoryAt (disk : Disk) (path : String) : Bool :=
    match disk.resolve path with
    | .ok place => disk.isDirectory place
    | .error _ => false

/-- The parts by which a place lies below another one. -/
def below? : Place → Place → Option Place
  | [], place => some place
  | _ :: _, [] => none
  | a :: base, b :: place => if a = b then below? base place else none

/-- What is said of a directory to be moved into itself. -/
def invalidArgument : String := "Invalid argument (os error 22)"

/-- What is said of a directory to be replaced that holds something. -/
def notEmpty : String := "Directory not empty (os error 39)"

/-- Where a place is found after the directory above it was moved. -/
def movedPlace (here there place : Place) : Place :=
  match below? here place with
  | some parts => there ++ parts
  | none => place

/-- Whether a directory holds nothing. -/
def isEmptyDirectory (disk : Disk) (place : Place) : Bool :=
  let inside (other : Place) : Bool := other ≠ place && (below? place other).isSome
  !disk.directories.any inside && !disk.files.any fun file => inside file.1

/-- Moves a directory with all that is in it to a place where nothing or an empty directory is. -/
def moveDirectory (disk : Disk) (here there : Place) : Except String Disk := do
  if here = there then return disk
  if (below? here there).isSome then throw invalidArgument
  if (disk.file? there).isSome then throw notDirectory
  if disk.isDirectory there && !disk.isEmptyDirectory there then throw notEmpty
  disk.checkParent there
  return { disk with
    directories := (disk.directories.filter (· ≠ there)).map (movedPlace here there)
    files := disk.files.map fun (place, content) => (movedPlace here there place, content) }

/-- Moves a file onto another one. -/
def moveFile (disk : Disk) (here there : Place) (content : Bytes) : Except String Disk := do
  if disk.isDirectory there then throw Switchboard.isDirectory
  disk.checkParent there
  let disk := { disk with files := disk.files.filter (·.1 ≠ here) }
  return disk.putFile there content

/-- Moves a file onto a path, in place of a file that may be there, or a directory. -/
def rename (disk : Disk) (source target : String) : Except String Disk := do
  let here ← disk.resolve source
  let there ← disk.resolve target
  match disk.file? here with
  | some content =>
      if Text.endsWith "/" target && !disk.isDirectory there then throw notDirectory
      disk.moveFile here there content
  | none => if disk.isDirectory here then disk.moveDirectory here there else throw notFound

/-- Removes a file. -/
def remove (disk : Disk) (path : String) : Except String Disk := do
  let place ← disk.resolve path
  match disk.file? place with
  | none => throw (if disk.isDirectory place then Switchboard.isDirectory else notFound)
  | some _ => return { disk with files := disk.files.filter (·.1 ≠ place) }

/-- The files at a place and below it, each with its path from there. -/
def filesBelow (disk : Disk) (place : Place) : List (String × Bytes) :=
  disk.files.filterMap fun (file, content) =>
    (below? place file).map fun parts => ("/".intercalate parts, content)

/-- Removes a file, or a directory with all that is in it. -/
def removeAll (disk : Disk) (path : String) : Except String Disk := do
  let place ← disk.resolve path
  if !disk.isTaken place then throw notFound
  return { disk with
    directories := disk.directories.filter fun other => (below? place other).isNone
    files := disk.files.filter fun file => (below? place file.1).isNone }

/-- Puts a file on the disk with all the directories above it. -/
def plant (disk : Disk) (path : String) (content : Bytes) : Except String Disk := do
  let disk ← match Path.parent? path with
    | some parent => (disk.makeDirectories parent).mapError (·.1)
    | none => pure disk
  disk.write path content

end Disk

end Switchboard
