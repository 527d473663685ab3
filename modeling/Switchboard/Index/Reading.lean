import Switchboard.Index.Document
import Switchboard.Json.Reader
import Switchboard.Error

/-!
# Reading index documents

The version of a document is read before anything else, over the whole text. A document of a later
format is then refused for its version, whatever else it holds.
-/

namespace Switchboard.Index

open Switchboard.Data

/-- The version a text declares, if it declares one. -/
def declaredVersion (text : String) : Except Fault (Option Nat) :=
  Json.decode (record [.nullable "schema_version" Reading.word32 fun _ x => x] none) text

/-- Reads an index document and sorts its modules by path. -/
def parseDocument (text : String) : Except Error Document :=
  match declaredVersion text with
  | .error fault => .error (.json fault)
  | .ok none =>
      .error (.indexing "indexer output is missing required field schema_version")
  | .ok (some version) =>
      if version ≠ schemaVersion then .error (.schemaVersion version schemaVersion)
      else
        match Json.decode Document.read text with
        | .error fault => .error (.json fault)
        | .ok doc => .ok doc.normalized

end Switchboard.Index
