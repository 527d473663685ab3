import Switchboard.Text.Basic

/-!
# Paths

A path is a text with slashes between its parts. Joining and taking apart paths works on the text
alone; what a path leads to is a question for the disk.
-/

namespace Switchboard.Path

/-- Whether a path starts at the root. -/
def isAbsolute (path : String) : Bool :=
  Text.startsWith "/" path

/-- A path seen from a directory. An absolute path stays as it is. -/
def join (base path : String) : String :=
  if isAbsolute path then path
  else if base.isEmpty || Text.endsWith "/" base then base ++ path
  else base ++ "/" ++ path

/-- Drops the slashes at the front of a reversed path, and the parts that stand for the directory
itself. -/
def dropIdle : List Char → List Char
  | '/' :: rest => dropIdle rest
  | '.' :: '/' :: rest => dropIdle ('/' :: rest)
  | chars => chars

/-- The directory of a path, if it has one above it. -/
def parent? (path : String) : Option String :=
  let back := dropIdle path.toList.reverse
  if back.isEmpty then none
  else
    let rest := back.dropWhile (· ≠ '/')
    let trimmed := dropIdle rest
    if trimmed.isEmpty && !rest.isEmpty then some "/" else some (String.ofList trimmed.reverse)

/-- The parts of a path, those that stay in a directory included. -/
def steps (path : String) : List String :=
  (Text.splitAt '/' path).filter (!·.isEmpty)

/-- The parts of a path that lead somewhere. -/
def parts (path : String) : List String :=
  (steps path).filter (· ≠ ".")

/-- The text of a path given by its parts, from the root on. -/
def ofParts (parts : List String) : String :=
  "/" ++ "/".intercalate parts

end Switchboard.Path
