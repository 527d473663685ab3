import Switchboard.Timestamp
import Switchboard.Data.Record

/-!
# Index documents

An index document describes a source tree: one entry per module (source file) with its language,
symbols, dependencies, summary, size and tags, and metadata about the whole. It is immutable once
made; a new index replaces the old one whole.
-/

namespace Switchboard.Index

open Switchboard.Data

/-- One source file of the index. -/
structure Module where
  path : String := ""
  language : String := ""
  symbols : List String := []
  dependencies : List String := []
  summary : String := ""
  lineCount : Nat := 0
  /-- Free labels; `critical` makes the module critical in every scenario. -/
  tags : List String := []
  deriving DecidableEq, Repr, Inhabited

/-- What an index says about the whole tree. -/
structure Metadata where
  projectName : String := ""
  generatedAt : Timestamp := ⟨0, 0⟩
  /-- What the index covered, for people. -/
  fingerprintInputs : List String := []
  deriving DecidableEq, Repr, Inhabited

/-- The index of a source tree. -/
structure Document where
  schemaVersion : Nat := 0
  metadata : Metadata := {}
  modules : List Module := []
  deriving DecidableEq, Repr, Inhabited

/-- The one version of the document format that is understood. -/
def schemaVersion : Nat := 1

/-- Whether a module has a tag, in any case of the letters `a` to `z`. -/
def Module.isTagged (m : Module) (tag : String) : Bool :=
  m.tags.any (Text.sameIgnoringCase · tag)

/-- The order of paths, by their bytes. -/
def pathLe (a b : String) : Bool := !(b < a)

theorem pathLe_iff_le {a b : String} : pathLe a b = true ↔ a ≤ b := by
  rw [pathLe, Bool.not_eq_true', decide_eq_false_iff_not, String.not_lt]

theorem pathLe_trans {a b c : String} (hab : pathLe a b = true) (hbc : pathLe b c = true) :
    pathLe a c = true := by
  rw [pathLe_iff_le] at *
  exact String.le_trans hab hbc

theorem pathLe_total (a b : String) : (pathLe a b || pathLe b a) = true := by
  rw [Bool.or_eq_true, pathLe_iff_le, pathLe_iff_le]
  exact String.le_total a b

theorem pathLe_antisymm {a b : String} (hab : pathLe a b = true) (hba : pathLe b a = true) :
    a = b := by
  rw [pathLe_iff_le] at *
  exact String.le_antisymm hab hba

namespace Document

/-- The document with its modules in path order; modules of one path keep their order. -/
def normalized (doc : Document) : Document :=
  { doc with modules := doc.modules.mergeSort fun a b => pathLe a.path b.path }

/-- The first module with the given path. -/
def find? (doc : Document) (path : String) : Option Module :=
  doc.modules.find? (·.path = path)

end Document

/-! ## As data -/

/-- The fields of a module. -/
def Module.fields : List (RecordField Module) := [
  .required "path" Reading.text fun m x => { m with path := x },
  .required "language" Reading.text fun m x => { m with language := x },
  .defaulted "symbols" (Reading.list Reading.text) fun m x => { m with symbols := x },
  .defaulted "dependencies" (Reading.list Reading.text) fun m x => { m with dependencies := x },
  .defaulted "summary" Reading.text fun m x => { m with summary := x },
  .defaulted "line_count" Reading.word fun m x => { m with lineCount := x },
  .defaulted "tags" (Reading.list Reading.text) fun m x => { m with tags := x }]

/-- Reads a module. -/
def Module.read : Reading Module := record Module.fields {}

/-- A module as data. -/
def Module.toNode (m : Module) : Node := .obj [
  ("path", .str m.path),
  ("language", .str m.language),
  ("symbols", .strs m.symbols),
  ("dependencies", .strs m.dependencies),
  ("summary", .str m.summary),
  ("line_count", .nat m.lineCount),
  ("tags", .strs m.tags)]

/-- The fields of the metadata. -/
def Metadata.fields : List (RecordField Metadata) := [
  .required "project_name" Reading.text fun m x => { m with projectName := x },
  .required "generated_at" Timestamp.read fun m x => { m with generatedAt := x },
  .defaulted "fingerprint_inputs" (Reading.list Reading.text) fun m x =>
    { m with fingerprintInputs := x }]

/-- Reads the metadata. -/
def Metadata.read : Reading Metadata := record Metadata.fields {}

/-- The metadata as data. -/
def Metadata.toNode (m : Metadata) : Node := .obj [
  ("project_name", .str m.projectName),
  ("generated_at", m.generatedAt.toNode),
  ("fingerprint_inputs", .strs m.fingerprintInputs)]

/-- The fields of a document. -/
def Document.fields : List (RecordField Document) := [
  .required "schema_version" Reading.word32 fun d x => { d with schemaVersion := x },
  .required "metadata" Metadata.read fun d x => { d with metadata := x },
  .required "modules" (Reading.list Module.read) fun d x => { d with modules := x }]

/-- Reads a document. -/
def Document.read : Reading Document := record Document.fields {}

/-- A document as data. -/
def Document.toNode (d : Document) : Node := .obj [
  ("schema_version", .nat d.schemaVersion),
  ("metadata", d.metadata.toNode),
  ("modules", .arr (d.modules.map Module.toNode))]

end Switchboard.Index
