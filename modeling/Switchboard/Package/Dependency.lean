import Switchboard.Text.Basic

/-!
# Dependency names

A module names what it depends on by a path, by a path without extension, or by a module name with
`::` or `.` between its parts. `names` decides whether such a name stands for the module at a path.
-/

namespace Switchboard.Dependency

/-- The characters before and after the last occurrence of a character. -/
def cutLast? (mark : Char) (chars : List Char) : Option (List Char × List Char) :=
  let back := chars.reverse
  let after := back.takeWhile (· ≠ mark)
  match back.drop after.length with
  | [] => none
  | _ :: before => some (before.reverse, after.reverse)

/-- A path without the extension of its file name; a dot that starts the name starts no
extension. -/
def stem (path : List Char) : List Char :=
  match cutLast? '.' path with
  | none => path
  | some (before, after) =>
      if '/' ∈ after then path
      else
        match cutLast? '/' before with
        | some (_, name) => if name.isEmpty then path else before
        | none => if before.isEmpty then path else before

/-- A module name as a path: no leading `crate::` or `self::`, and slashes between the parts. Dots
separate parts only in a name without other separators. -/
def asPath (dep : List Char) : List Char :=
  let bare := Text.dropLeads "self::".toList (Text.dropLeads "crate::".toList dep)
  let path := ['/'].intercalate (Text.splitMark "::".toList bare)
  if '/' ∈ path then path else path.map fun c => if c = '.' then '/' else c

/-- Whether the characters end with a given tail. -/
def hasTail (tail chars : List Char) : Bool :=
  (Text.dropLead? tail.reverse chars.reverse).isSome

/-- Whether a dependency name stands for the module at a path: it is the path or its stem, or as a
path it is the stem or the last parts of it, where a module may be the directory of its `mod` or
`__init__` file. -/
def names (dep path : String) : Bool :=
  let stem := stem path.toList
  let target := asPath dep.toList
  dep = path || dep.toList = stem ||
    (!target.isEmpty &&
      (stem = target || hasTail ('/' :: target) stem ||
        hasTail ('/' :: target ++ "/mod".toList) stem ||
        hasTail ('/' :: target ++ "/__init__".toList) stem))

end Switchboard.Dependency
