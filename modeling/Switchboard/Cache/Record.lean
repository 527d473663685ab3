import Switchboard.Disk.Basic
import Switchboard.Index.Document
import Switchboard.Json.Printer
import Switchboard.Json.Reader

/-!
# Cache records

A record is an index together with the fingerprint of the tree it was made from. It is kept in a
file. A new record is first written next to that file and then moved into its place, in three
steps that can fail one by one. A file that holds no record of the current version is discarded.
-/

namespace Switchboard.Cache

open Switchboard.Data
open Switchboard.Text.Utf8 (Bytes)

/-- An index and what it is valid for. -/
structure Record where
  fingerprint : String := ""
  generatedAt : Timestamp := ⟨0, 0⟩
  fileCount : Nat := 0
  document : Index.Document := {}
  deriving DecidableEq, Repr, Inhabited

namespace Record

/-- The fields of a record. -/
def fields : List (RecordField Record) := [
  .required "fingerprint" Reading.text fun r x => { r with fingerprint := x },
  .required "generated_at" Timestamp.read fun r x => { r with generatedAt := x },
  .required "file_count" Reading.word fun r x => { r with fileCount := x },
  .required "document" Index.Document.read fun r x => { r with document := x }]

/-- Reads a record. -/
def read : Reading Record := record fields {}

/-- A record as data. -/
def toNode (r : Record) : Node := .obj [
  ("fingerprint", .str r.fingerprint),
  ("generated_at", r.generatedAt.toNode),
  ("file_count", .nat r.fileCount),
  ("document", r.document.toNode)]

/-- The content of the file of a record. -/
def content (r : Record) : Bytes :=
  Text.Utf8.encode (Json.compact r.toNode)

end Record

/-- What became of the record file when the cache was opened. -/
inductive Persisted where
  | notFound
  | loaded
  | discarded (reason : String)
  deriving DecidableEq, Repr, Inhabited

/-- The state of the record file as data. -/
def Persisted.toNode : Persisted → Node
  | .notFound => .obj [("state", .str "not_found")]
  | .loaded => .obj [("state", .str "loaded")]
  | .discarded reason => .obj [("state", .str "discarded_corrupt"), ("reason", .str reason)]

/-! ## Loading -/

/-- The record in the text of a file, or why there is none. -/
def readRecord (text : String) : Except String Record :=
  match Json.decode Record.read text with
  | .error fault => .error (Error.faultText fault)
  | .ok found =>
      if found.document.schemaVersion = Index.schemaVersion then .ok found
      else
        let version := found.document.schemaVersion
        .error s!"record holds schema_version {version}, expected {Index.schemaVersion}"

/-- Loads the record of a file, if there is one. -/
def load (disk : Disk) (path : String) : Option Record × Persisted :=
  match disk.readText path with
  | .error reason => if reason = notFound then (none, .notFound) else (none, discard reason)
  | .ok text =>
      match readRecord text with
      | .ok found => (some found, .loaded)
      | .error reason => (none, discard reason)
where
  /-- A file that cannot be used. -/
  discard (reason : String) : Persisted :=
    .discarded (Error.unreadableRecord path reason).message

/-! ## Persisting -/

/-- Where a record is written before it is moved into place. -/
def temporaryPath (path : String) : String := path ++ ".tmp"

/-- Makes the directory of the record file. -/
def makeRoom (disk : Disk) (path : String) : Except (Report × Disk) Disk :=
  match Path.parent? path with
  | none => .ok disk
  | some parent =>
      (disk.makeDirectories parent).mapError fun (reason, disk) =>
        (Report.within s!"Failed to create {parent}" (.ofMessage reason), disk)

/-- Writes a record next to its file. -/
def writeTemporary (disk : Disk) (path : String) (r : Record) : Except Report Disk :=
  (disk.write (temporaryPath path) r.content).mapError fun reason =>
    Report.within s!"Failed to write {temporaryPath path}" (.ofMessage reason)

/-- Moves the written record into place. -/
def publish (disk : Disk) (path : String) : Except Report Disk :=
  (disk.rename (temporaryPath path) path).mapError fun reason =>
    Report.within s!"Failed to move cache record into {path}" (.ofMessage reason)

/-- Persists a record. What the steps before a failed one did stays done. -/
def persist (disk : Disk) (path : String) (r : Record) : Disk × Except Report Unit :=
  match makeRoom disk path with
  | .error (report, disk) => (disk, .error report)
  | .ok disk =>
      match writeTemporary disk path r with
      | .error report => (disk, .error report)
      | .ok disk =>
          match publish disk path with
          | .error report => (disk, .error report)
          | .ok disk => (disk, .ok ())

end Switchboard.Cache
