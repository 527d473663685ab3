import Switchboard.Proofs.Data.Member
import Switchboard.Proofs.Json.Outcome
import Switchboard.Proofs.Route.Log

/-!
# Records behind an unfinished line

A record is appended to a log file without a look at what is there. If the file ends in the middle
of a line, the record becomes the end of that line, and the line is read as a whole. Unless there
were only blanks on it, it is no record any more, neither the old one nor the new one.

The lines that were finished are read as before. Only a file that is no text is never read again.

## Main results

* `readLine?_torn` — what an unfinished line is read as with a record behind it.
* `read_append_torn` — what a log file is read as after a record was appended.
* `read_append_of_error` — a file that is no text stays unreadable.
-/

namespace Switchboard.Route

open Switchboard.Data

namespace Attempt

theorem isWhole_fields : ∀ field ∈ fields, field.IsWhole := by
  simp only [fields, List.forall_mem_cons]
  exact ⟨whole_text.required _, whole_text.required _, (whole_natBelow _).required _,
    (whole_natBelow _).maybe _ _, (whole_oneOf _).required _, (whole_natBelow _).required _,
    (whole_natBelow _).required _, whole_text.maybe _ _, whole_timestamp.required _,
    List.forall_mem_nil _⟩

/-- No attempt is read from a tree with a defect. -/
theorem whole_read : Whole read := whole_record _ isWhole_fields

/-- The line of an attempt begins with the name of the first field. -/
theorem exists_opening (a : Attempt) :
    ∃ after, (Json.compact a.toNode).toList = Json.opening 't' after := by
  rw [toNode, Json.toList_compact_obj, Json.compactMembers, Json.compactMembers,
    Json.join_cons_cons, Json.toList_member]
  exact ⟨_, rfl⟩

end Attempt

namespace Log

open Switchboard.Text (finished unfinished)
open Switchboard.Text.Utf8 (Bytes)

variable {a : Attempt} {content : Bytes}

/-- A record is read behind blanks, and behind nothing else. -/
theorem readLine?_torn (h : a.fits = true) (torn : String) :
    readLine? (torn ++ Json.compact a.toNode) =
      if Json.Blank torn.toList then some a else none := by
  obtain ⟨after, hopening⟩ := a.exists_opening
  have hplain := Attempt.isPlain_toNode h
  split
  · next hblank =>
      have hbrace : '\x7b' ∈ (torn ++ Json.compact a.toNode).toList := by
        rw [String.toList_append]
        exact List.mem_append_right _ (mem_compact a)
      exact readLine?_of_parse h hbrace (Json.parse_append_compact hplain hblank)
  · next hblank =>
      have hfinal : Json.Final 't' after := Json.final_of_isPlain hplain hopening rfl rfl
      rw [readLine?]
      split
      · rfl
      split
      · next other hread =>
          obtain ⟨hnode, hended⟩ := Json.decode_eq_ok.mp hread
          have hwhole := Attempt.whole_read _ _ hnode
          exact absurd (hfinal.blank_of_parse hopening (Prod.ext rfl hended) hwhole) hblank
      · rfl

/-- What a log file is read as after a record was appended. -/
theorem read_append_torn (h : a.fits = true) {text : String}
    (htext : Text.Utf8.decode content = .ok text) :
    read (append content a) = .ok ((Text.lines (finished text)).filterMap readLine? ++
      if Json.Blank (unfinished text).toList then [a] else []) := by
  obtain ⟨after, hopening⟩ := a.exists_opening
  have hne : (Json.compact a.toNode).toList ≠ [] := hopening ▸ List.cons_ne_nil _ _
  have hline : Text.IsLine (Json.compact a.toNode) := Json.isLine_compact (Attempt.isPlain_toNode h)
  have hlast : [unfinished text ++ Json.compact a.toNode].filterMap readLine? =
      if Json.Blank (unfinished text).toList then [a] else [] := by
    rw [List.filterMap_cons, readLine?_torn h]
    by_cases hblank : Json.Blank (unfinished text).toList
    · rw [if_pos hblank, if_pos hblank]
      rfl
    · rw [if_neg hblank, if_neg hblank]
      rfl
  rw [read, append, Text.Utf8.decode_append htext, line]
  dsimp only
  rw [Text.lines_append text hline hne, List.filterMap_append, hlast]

theorem read_append_of_error (a : Attempt) {fault : Text.Utf8.Fault}
    (h : Text.Utf8.decode content = .error fault) :
    read (append content a) = .error (.ofMessage notText) := by
  obtain ⟨after, hopening⟩ := a.exists_opening
  obtain ⟨b, more, hbytes, hb⟩ :
      ∃ b more, Text.Utf8.encode (line a) = b :: more ∧ b < 0x80 := by
    rw [line, Text.Utf8.encode_eq, String.toList_append, hopening]
    exact ⟨_, _, rfl, by decide⟩
  obtain ⟨fault, hfault⟩ := Text.Utf8.decode_append_of_error hb h more
  rw [read, append, hbytes, hfault]

end Log

end Switchboard.Route
