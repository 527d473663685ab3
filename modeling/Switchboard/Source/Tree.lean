import Switchboard.Disk.Basic
import Switchboard.Glob.Match
import Switchboard.Index.Document
import Switchboard.Sha256

/-!
# Source trees

A source tree is a directory with the patterns that say which of its files belong to it. Some
directories never belong to a source tree, whatever the patterns say. The directory is walked
without following links, which is the setting where none is given: a link that is not followed is
no file and is passed over.

The fingerprint of a tree is the digest of its selected files: each contributes its path, its
length and its bytes, in the order of the paths. Modification times do not count.
-/

namespace Switchboard.Source

open Switchboard.Text.Utf8 (Bytes)

/-- Patterns for the directories that are never part of a source tree. -/
def standardExcludes : List String :=
  ["**/.git/**", "**/target/**", "**/node_modules/**", "**/.relay/**"]

/-- A directory, walked without following links, and the patterns for its files. -/
structure Tree where
  root : String
  included : Glob.PatternSet
  excluded : Glob.PatternSet

/-- A file of a source tree. -/
structure File where
  /-- The path from the root of the tree on. -/
  path : String
  content : Bytes
  deriving DecidableEq, Repr, Inhabited

/-- Parses patterns. -/
def compileGlobs (patterns : List String) : Except Report Glob.PatternSet :=
  match Glob.parseAll patterns with
  | .ok set => .ok set
  | .error (pattern, refusal) => .error (.ofMessage (refusal.message pattern))

namespace Tree

/-- The tree with a root and the given patterns. -/
def compile (root : String) (includeGlobs excludeGlobs : List String) : Except Report Tree := do
  let included ← compileGlobs includeGlobs
  let excluded ← compileGlobs (standardExcludes ++ excludeGlobs)
  return ⟨root, included, excluded⟩

/-- Whether a file belongs to the tree; exclusion wins. -/
def selects (tree : Tree) (path : String) : Bool :=
  !tree.excluded.matchesPath path && tree.included.matchesPath path

/-- The files that belong to the tree, sorted by path. -/
def select (tree : Tree) (files : List (String × Bytes)) : List File :=
  ((files.filter fun file => tree.selects file.1).map fun file => File.mk file.1 file.2).mergeSort
    fun a b => Index.pathLe a.path b.path

/-- The selected files on a disk. -/
def files (tree : Tree) (disk : Disk) : Except Report (List File) :=
  match disk.resolve tree.root with
  | .ok place =>
      if disk.isTaken place then .ok (tree.select (disk.filesBelow place)) else .error absent
  | .error _ => .error absent
where
  /-- The report on a root that is not there. -/
  absent : Report := .ofMessage s!"Source root does not exist: {tree.root}"

end Tree

/-- What a file contributes to the fingerprint. -/
def File.stream (file : File) : Bytes :=
  Text.Utf8.encode file.path ++ 0 :: Text.Utf8.encode (toString file.content.length) ++
    0 :: file.content

/-- The bytes that are digested for a list of files. -/
def stream (files : List File) : Bytes :=
  files.flatMap File.stream

/-- The digest of a source tree, with the paths it was made from. -/
structure Fingerprint where
  digest : String
  inputs : List String
  deriving DecidableEq, Repr, Inhabited

/-- The fingerprint of a list of files. -/
def fingerprintOf (files : List File) : Fingerprint :=
  ⟨Sha256.hexDigest (stream files), files.map (·.path)⟩

/-- The fingerprint of the tree on a disk. -/
def Tree.fingerprint (tree : Tree) (disk : Disk) : Except Report Fingerprint :=
  (tree.files disk).map fingerprintOf

/-- A fingerprint as data. -/
def Fingerprint.toNode (f : Fingerprint) : Data.Node := .obj [
  ("digest", .str f.digest),
  ("file_count", .nat f.inputs.length),
  ("inputs", .strs f.inputs)]

end Switchboard.Source
