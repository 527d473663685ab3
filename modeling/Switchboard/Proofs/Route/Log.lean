import Mathlib.Data.List.Basic
import Mathlib.Data.List.TakeWhile
import Switchboard.Proofs.Index.Document
import Switchboard.Proofs.Json.SingleLine
import Switchboard.Proofs.Text.Utf8
import Switchboard.Route.Log

/-!
# The attempt log keeps its records

A record is written on one line, and its line is read back as the record, whatever its texts are.
So a file to which records were appended one after the other holds exactly these records, in this
order.

## Main results

* `Attempt.read_toNode` — a record that fits its words is read back from its data.
* `readLine?_compact` — it is read back from its line.
* `read_append` — a log file holds the records that were appended.
-/

namespace Switchboard.Route

open Switchboard.Data

/-! ## Records as data -/

namespace Attempt

/-- Whether all numbers of a record fit their words and its time can be written. -/
def fits (a : Attempt) : Bool :=
  a.number < Word.size32 && a.chunk.all (· < Word.size64) && a.tokenCost < Word.size64 &&
    a.latencyMs < Word.size64 && a.time.isValid

/-- The values of a record in the order of its fields. -/
def values (a : Attempt) : List Node :=
  [.str a.taskId, .str a.model, .nat a.number, .opt .nat a.chunk, .str a.outcome.name,
    .nat a.tokenCost, .nat a.latencyMs, .opt .str a.error, a.time.toNode]

theorem toNode_eq (a : Attempt) : a.toNode = .obj ((fieldNames fields).zip a.values) := rfl

theorem nodup_fieldNames : (fieldNames fields).Nodup := by decide

section Fits

variable {a : Attempt} (h : a.fits = true)

include h

theorem fits_parts :
    a.number < Word.size32 ∧ (∀ n ∈ a.chunk, n < Word.size64) ∧ a.tokenCost < Word.size64 ∧
      a.latencyMs < Word.size64 ∧ a.time.isValid = true := by
  simpa [fits, Option.all_eq_true, and_assoc] using h

theorem isPlain_values : ∀ node ∈ a.values, node.isPlain = true := by
  obtain ⟨hnumber, hchunk, hcost, hlatency, -⟩ := fits_parts h
  have hword : (Node.nat a.number).isPlain = true :=
    Index.isPlain_nat (Nat.lt_trans hnumber (by decide))
  have hoptional : (Node.opt Node.nat a.chunk).isPlain = true := by
    cases hcase : a.chunk with
    | none => rfl
    | some n => exact Index.isPlain_nat (hchunk n hcase)
  have herror : (Node.opt Node.str a.error).isPlain = true := by
    cases a.error <;> rfl
  simp [values, Timestamp.toNode, Node.isPlain, hword, hoptional, herror, Index.isPlain_nat hcost,
    Index.isPlain_nat hlatency]

theorem isPlain_toNode : a.toNode.isPlain = true :=
  isPlain_obj_zip (fieldNames fields) (isPlain_values h)

/-- A record is read back from its data. -/
theorem read_toNode : read a.toNode = .ok a := by
  obtain ⟨hnumber, hchunk, hcost, hlatency, htime⟩ := fits_parts h
  have hword : Reading.word32 (.nat a.number) = .ok a.number := Index.natBelow_nat hnumber
  have hcost' : Reading.word (.nat a.tokenCost) = .ok a.tokenCost := Index.natBelow_nat hcost
  have hlatency' : Reading.word (.nat a.latencyMs) = .ok a.latencyMs := Index.natBelow_nat hlatency
  have hoptional : Reading.nullable Reading.word (.opt .nat a.chunk) = .ok a.chunk := by
    cases hcase : a.chunk with
    | none => rfl
    | some n =>
        have hn : Reading.word (.nat n) = .ok n := Index.natBelow_nat (hchunk n hcase)
        show (Reading.word (.nat n)).map some = _
        rw [hn]
        rfl
  have herror : Reading.nullable Reading.text (.opt .str a.error) = .ok a.error := by
    cases a.error <;> rfl
  have houtcome : Reading.oneOf Outcome.ofName? (.str a.outcome.name) = .ok a.outcome := by
    cases a.outcome <;> rfl
  rw [read, toNode_eq, record_zip {} nodup_fieldNames rfl (isPlain_values h)]
  simp [storeInOrder, fields, values, RecordField.required, RecordField.nullable,
    RecordField.optional, Reading.text, hword, hoptional, houtcome, hcost', hlatency', herror,
    Timestamp.read_toNode htime, Except.map]

end Fits

end Attempt

/-! ## Records as lines -/

namespace Log

open Switchboard.Text.Utf8 (Bytes)

variable {attempts : List Attempt}

/-- A text is not blank if one of its characters is not. -/
theorem trim_isEmpty {text : String} {c : Char} (hmem : c ∈ text.toList)
    (hc : Text.isBlank c = false) : (Text.trim text).isEmpty = false := by
  have hne : Text.trimChars Text.isBlank text.toList ≠ [] := by
    rw [Text.trimChars, ne_eq, List.reverse_eq_nil_iff, List.dropWhile_eq_nil_iff]
    intro hdropped
    rw [← List.takeWhile_append_dropWhile (p := Text.isBlank) (l := text.toList),
      List.mem_append] at hmem
    have hblank : Text.isBlank c = true := by
      obtain hmem | hmem := hmem
      · exact List.mem_takeWhile_imp hmem
      · exact hdropped c (List.mem_reverse.mpr hmem)
    exact Bool.false_ne_true (hc.symm.trans hblank)
  rw [Text.trim, Bool.eq_false_iff, ne_eq, String.isEmpty_iff, String.ofList_eq_empty_iff]
  exact hne

/-- A line with the tree of a record is read as the record. -/
theorem readLine?_of_parse {a : Attempt} {text : String} (h : a.fits = true)
    (hbrace : '\x7b' ∈ text.toList) (hparse : Json.parse text = (a.toNode, true)) :
    readLine? text = some a := by
  have hblank : (Text.trim text).isEmpty = false := trim_isEmpty hbrace (by decide)
  rw [readLine?, hblank, Json.decode_of_parse hparse, Attempt.read_toNode h]
  rfl

theorem mem_compact (a : Attempt) : '\x7b' ∈ (Json.compact a.toNode).toList :=
  (Json.toList_compact_obj _).symm ▸ List.mem_cons_self

/-- The line of a record is read as the record. -/
theorem readLine?_compact {a : Attempt} (h : a.fits = true) :
    readLine? (Json.compact a.toNode) = some a :=
  readLine?_of_parse h (mem_compact a) (Json.parse_compact (Attempt.isPlain_toNode h))

/-- The text of a log file that holds the records. -/
def text (attempts : List Attempt) : String := String.join (attempts.map line)

theorem filterMap_lines_text (h : ∀ a ∈ attempts, a.fits = true) :
    (Text.lines (text attempts)).filterMap readLine? = attempts := by
  have htexts : attempts.map line =
      (attempts.map fun a => Json.compact a.toNode).map (· ++ "\n") := by
    simp [line]
  have hlines : ∀ line ∈ attempts.map (fun a => Json.compact a.toNode), Text.IsLine line := by
    refine List.forall_mem_map.mpr fun a ha => ?_
    exact Json.isLine_compact (Attempt.isPlain_toNode (h a ha))
  have hreads : ∀ a ∈ attempts, (readLine? ∘ fun a => Json.compact a.toNode) a = some a := by
    intro a ha
    rw [Function.comp_apply, readLine?_compact (h a ha)]
  rw [text, htexts, Text.lines_join hlines, List.filterMap_map, List.filterMap_congr hreads,
    List.filterMap_some]

/-! ## Files -/

theorem encode_append (a b : String) :
    Text.Utf8.encode (a ++ b) = Text.Utf8.encode a ++ Text.Utf8.encode b := by
  rw [Text.Utf8.encode_eq, Text.Utf8.encode_eq, Text.Utf8.encode_eq, String.toList_append,
    List.flatMap_append]

/-- Appending records one after the other is appending their text. -/
theorem foldl_append (content : Bytes) (attempts : List Attempt) :
    attempts.foldl append content = content ++ Text.Utf8.encode (text attempts) := by
  induction attempts generalizing content with
  | nil => simp [text, Text.Utf8.encode_eq]
  | cons a attempts ih =>
      have htext : text (a :: attempts) = line a ++ text attempts := by simp [text]
      rw [List.foldl_cons, ih, append, htext, encode_append, List.append_assoc]

/-- A log file holds the records that were appended. -/
theorem read_append (h : ∀ a ∈ attempts, a.fits = true) :
    read (attempts.foldl append []) = .ok attempts := by
  rw [foldl_append, List.nil_append, read, Text.Utf8.decode_encode]
  exact congrArg Except.ok (filterMap_lines_text h)

end Log

end Switchboard.Route
