import Switchboard.Index.Document
import Switchboard.Proofs.Data.Record
import Switchboard.Proofs.Timestamp

/-!
# Index documents survive as data

An index document that is written and read again is the same document. Its numbers have to fit
the words they are read into, and its date has to be one that can be written.

## Main results

* `Document.read_toNode` — a document that fits is read back as it is.
* `Document.isPlain_toNode` — its data has a JSON text that says the same.
-/

namespace Switchboard.Index

open Switchboard.Data

/-! ## Values -/

theorem isPlain_strs (texts : List String) : (Node.strs texts).isPlain = true :=
  Node.allPlain_iff.mpr (by simp [Node.isPlain])

theorem list_text_strs (texts : List String) :
    Reading.list Reading.text (.strs texts) = .ok texts :=
  listFrom_map fun _ _ => rfl

theorem natBelow_nat {n limit : Nat} (h : n < limit) : Reading.natBelow limit (.nat n) = .ok n :=
  if_pos h

theorem isPlain_nat {n : Nat} (h : n < Word.size64) : (Node.nat n).isPlain = true :=
  decide_eq_true h

/-! ## Modules -/

/-- Whether the line count fits a word. -/
def Module.fits (m : Module) : Bool := m.lineCount < Word.size64

/-- The values of a module in the order of its fields. -/
def Module.values (m : Module) : List Node :=
  [.str m.path, .str m.language, .strs m.symbols, .strs m.dependencies, .str m.summary,
    .nat m.lineCount, .strs m.tags]

theorem Module.toNode_eq (m : Module) :
    m.toNode = .obj ((fieldNames Module.fields).zip m.values) := rfl

theorem Module.nodup_fieldNames : (fieldNames Module.fields).Nodup := by decide

theorem Module.isPlain_values {m : Module} (h : m.fits = true) :
    ∀ node ∈ m.values, node.isPlain = true := by
  have hcount : (Node.nat m.lineCount).isPlain = true := isPlain_nat (of_decide_eq_true h)
  simp [Module.values, isPlain_strs, hcount, Node.isPlain]

theorem Module.isPlain_toNode {m : Module} (h : m.fits = true) : m.toNode.isPlain = true :=
  isPlain_obj_zip (fieldNames Module.fields) (m.isPlain_values h)

/-- A module is read back from its data. -/
theorem Module.read_toNode {m : Module} (h : m.fits = true) : Module.read m.toNode = .ok m := by
  have hcount : Reading.word (.nat m.lineCount) = .ok m.lineCount :=
    natBelow_nat (of_decide_eq_true h)
  rw [Module.read, Module.toNode_eq, record_zip {} Module.nodup_fieldNames rfl (m.isPlain_values h)]
  simp [storeInOrder, Module.fields, Module.values, RecordField.required, RecordField.defaulted,
    list_text_strs, hcount, Reading.text, Except.map]

/-! ## Metadata -/

/-- Whether the date can be written. -/
def Metadata.fits (m : Metadata) : Bool := m.generatedAt.isValid

/-- The values of the metadata in the order of its fields. -/
def Metadata.values (m : Metadata) : List Node :=
  [.str m.projectName, m.generatedAt.toNode, .strs m.fingerprintInputs]

theorem Metadata.toNode_eq (m : Metadata) :
    m.toNode = .obj ((fieldNames Metadata.fields).zip m.values) := rfl

theorem Metadata.nodup_fieldNames : (fieldNames Metadata.fields).Nodup := by decide

theorem Metadata.isPlain_values (m : Metadata) : ∀ node ∈ m.values, node.isPlain = true := by
  simp [Metadata.values, Timestamp.toNode, isPlain_strs, Node.isPlain]

theorem Metadata.isPlain_toNode (m : Metadata) : m.toNode.isPlain = true :=
  isPlain_obj_zip (fieldNames Metadata.fields) m.isPlain_values

/-- The metadata is read back from its data. -/
theorem Metadata.read_toNode {m : Metadata} (h : m.fits = true) :
    Metadata.read m.toNode = .ok m := by
  rw [Metadata.read, Metadata.toNode_eq,
    record_zip {} Metadata.nodup_fieldNames rfl m.isPlain_values]
  simp [storeInOrder, Metadata.fields, Metadata.values, RecordField.required,
    RecordField.defaulted, list_text_strs, Timestamp.read_toNode h, Reading.text, Except.map]

/-! ## Documents -/

/-- Whether all numbers of a document fit their words and its date can be written. -/
def Document.fits (d : Document) : Bool :=
  d.schemaVersion < Word.size32 && d.metadata.fits && d.modules.all Module.fits

/-- The values of a document in the order of its fields. -/
def Document.values (d : Document) : List Node :=
  [.nat d.schemaVersion, d.metadata.toNode, .arr (d.modules.map Module.toNode)]

theorem Document.toNode_eq (d : Document) :
    d.toNode = .obj ((fieldNames Document.fields).zip d.values) := rfl

theorem Document.nodup_fieldNames : (fieldNames Document.fields).Nodup := by decide

section Document

variable {d : Document} (h : d.fits = true)

include h

theorem Document.fits_parts :
    d.schemaVersion < Word.size32 ∧ d.metadata.fits = true ∧ ∀ m ∈ d.modules, m.fits = true := by
  simpa [Document.fits, and_assoc] using h

theorem Document.isPlain_values : ∀ node ∈ d.values, node.isPlain = true := by
  obtain ⟨hversion, -, hmodules⟩ := Document.fits_parts h
  have hword : (Node.nat d.schemaVersion).isPlain = true :=
    isPlain_nat (Nat.lt_trans hversion (by decide))
  have hlist : (Node.arr (d.modules.map Module.toNode)).isPlain = true := by
    refine Node.allPlain_iff.mpr fun node hnode => ?_
    obtain ⟨m, hm, rfl⟩ := List.mem_map.mp hnode
    exact m.isPlain_toNode (hmodules m hm)
  simp [Document.values, hword, hlist, d.metadata.isPlain_toNode]

theorem Document.isPlain_toNode : d.toNode.isPlain = true :=
  isPlain_obj_zip (fieldNames Document.fields) (Document.isPlain_values h)

/-- A document is read back from its data. -/
theorem Document.read_toNode : Document.read d.toNode = .ok d := by
  obtain ⟨hversion, hmetadata, hmodules⟩ := Document.fits_parts h
  have hword : Reading.word32 (.nat d.schemaVersion) = .ok d.schemaVersion := natBelow_nat hversion
  have hlist : Reading.list Module.read (.arr (d.modules.map Module.toNode)) = .ok d.modules :=
    listFrom_map fun m hm => Module.read_toNode (hmodules m hm)
  rw [Document.read, Document.toNode_eq,
    record_zip {} Document.nodup_fieldNames rfl (Document.isPlain_values h)]
  simp [storeInOrder, Document.fields, Document.values, RecordField.required, hword, hlist,
    Metadata.read_toNode hmetadata, Except.map]

end Document

end Switchboard.Index
