import Mathlib.Data.List.DropRight
import Switchboard.Text.Basic

/-!
# Lines of a text

A text that is put together from lines, each with a line feed at its end, is cut into the same lines
again, provided that no line holds a line feed or a carriage return.

Any text is made of finished lines, each with its line feed, and of a rest without one. What is put
behind the text goes on where the rest ends, and leaves the finished lines as they are.

## Main results

* `lines_line` — the first line is cut off.
* `lines_join` — all lines come back.
* `lines_append` — what is put behind a text belongs to its unfinished line.
-/

namespace Switchboard.Text

section Cut

variable {finished : List (List Char)} {current line : List Char}

/-- The lines that are finished stay in front. -/
theorem linesFrom_eq (finished : List (List Char)) (current chars : List Char) :
    linesFrom finished current chars = finished.reverse ++ linesFrom [] current chars := by
  induction chars generalizing finished current with
  | nil =>
      rw [linesFrom, linesFrom]
      split <;> simp
  | cons c rest ih =>
      rw [linesFrom, linesFrom]
      split
      · rw [ih (closeLine current :: finished), ih [closeLine current], List.reverse_cons,
          List.append_assoc]
        rfl
      · exact ih finished (c :: current)

/-- A piece without a line feed belongs to the current line. -/
theorem linesFrom_append (h : '\n' ∉ line) (rest : List Char) :
    linesFrom finished current (line ++ rest) =
      linesFrom finished (line.reverse ++ current) rest := by
  induction line generalizing current with
  | nil => rfl
  | cons c line ih =>
      rw [List.mem_cons, not_or] at h
      rw [List.cons_append, linesFrom, if_neg (Ne.symm h.1), ih h.2, List.reverse_cons,
        List.append_assoc]
      rfl

theorem closeLine_reverse (h : line.getLast? ≠ some '\r') : closeLine line.reverse = line := by
  rw [closeLine.eq_def]
  split
  · next rest heq =>
      refine absurd ?_ h
      rw [← List.head?_reverse, heq]
      rfl
  · rw [List.reverse_reverse]

end Cut

/-- The text is on one line: it holds neither of the characters that end lines. -/
def IsLine (text : String) : Prop := '\n' ∉ text.toList ∧ '\r' ∉ text.toList

theorem IsLine.getLast?_ne {text : String} (h : IsLine text) :
    text.toList.getLast? ≠ some '\r' :=
  fun hlast => h.2 (List.mem_of_getLast? hlast)

/-- The first line is cut off. -/
theorem lines_line {text : String} (hfeed : '\n' ∉ text.toList)
    (hlast : text.toList.getLast? ≠ some '\r') (rest : String) :
    lines (text ++ "\n" ++ rest) = text :: lines rest := by
  have htext : (text ++ "\n" ++ rest).toList = text.toList ++ '\n' :: rest.toList := by
    simp [String.toList_append]
  rw [lines, htext, linesFrom_append hfeed, linesFrom, if_pos rfl, List.append_nil,
    closeLine_reverse hlast, linesFrom_eq]
  simp [lines]

/-- All lines come back. -/
theorem lines_join {texts : List String} (h : ∀ text ∈ texts, IsLine text) :
    lines (String.join (texts.map (· ++ "\n"))) = texts := by
  induction texts with
  | nil => rfl
  | cons text texts ih =>
      have hjoin : String.join ((text :: texts).map (· ++ "\n")) =
          text ++ "\n" ++ String.join (texts.map (· ++ "\n")) := by
        simp
      have hline := h text List.mem_cons_self
      rw [hjoin, lines_line hline.1 hline.getLast?_ne,
        ih fun other hother => h other (List.mem_cons_of_mem _ hother)]

/-! ## Unfinished lines -/

/-- The lines of a text up to its last line feed. -/
def finished (text : String) : String := String.ofList (text.toList.rdropWhile (· ≠ '\n'))

/-- What is behind the last line feed of a text. -/
def unfinished (text : String) : String := String.ofList (text.toList.rtakeWhile (· ≠ '\n'))

theorem finished_append_unfinished (text : String) : finished text ++ unfinished text = text := by
  rw [finished, unfinished, ← String.ofList_append, List.rdropWhile_append_rtakeWhile,
    String.ofList_toList]

theorem notMem_unfinished (text : String) : '\n' ∉ (unfinished text).toList := by
  rw [unfinished, String.toList_ofList]
  exact fun h => absurd (List.mem_rtakeWhile_imp h) (by decide)

/-- A text is cut into finished lines and a rest in one way only. -/
theorem finished_append {text rest : String} (htext : text.toList.getLast? = some '\n')
    (hrest : '\n' ∉ rest.toList) :
    finished (text ++ rest) = text ∧ unfinished (text ++ rest) = rest := by
  obtain ⟨chars, hchars⟩ := List.getLast?_eq_some_iff.mp htext
  have hblank : ∀ c ∈ rest.toList.reverse, decide (c ≠ '\n') = true := by
    intro c hc
    rw [decide_eq_true_eq]
    rintro rfl
    exact hrest (List.mem_reverse.mp hc)
  have hreverse : (text ++ rest).toList.reverse =
      rest.toList.reverse ++ '\n' :: chars.reverse := by
    simp [String.toList_append, hchars]
  constructor
  · rw [finished, List.rdropWhile, hreverse, List.dropWhile_append_of_pos hblank,
      List.dropWhile_cons, if_neg (by decide), List.reverse_cons, List.reverse_reverse, ← hchars,
      String.ofList_toList]
  · rw [unfinished, List.rtakeWhile, hreverse, List.takeWhile_append_of_pos hblank,
      List.takeWhile_cons, if_neg (by decide), List.append_nil, List.reverse_reverse,
      String.ofList_toList]

/-- Behind a line feed everything begins anew. -/
theorem linesFrom_lineFeed (current chars rest : List Char) :
    linesFrom [] current (chars ++ '\n' :: rest) =
      linesFrom [] current (chars ++ ['\n']) ++ linesFrom [] [] rest := by
  induction chars generalizing current with
  | nil =>
      rw [List.nil_append, List.nil_append, linesFrom, linesFrom, if_pos rfl, if_pos rfl,
        linesFrom_eq]
      rfl
  | cons c chars ih =>
      rw [List.cons_append, List.cons_append, linesFrom, linesFrom]
      split
      · rw [linesFrom_eq, ih, linesFrom_eq [closeLine current], List.append_assoc]
      · exact ih (c :: current)

theorem lines_finished_append (text rest : String) :
    lines (finished text ++ rest) = lines (finished text) ++ lines rest := by
  rw [lines, lines, lines, ← List.map_append, String.toList_append, finished, String.toList_ofList]
  congr 1
  have hlast := List.rdropWhile_last_not (· ≠ '\n') text.toList
  generalize text.toList.rdropWhile (· ≠ '\n') = front at hlast ⊢
  rcases List.eq_nil_or_concat' front with rfl | ⟨chars, c, rfl⟩
  · rfl
  · obtain rfl : c = '\n' := by simpa using hlast
    rw [List.append_assoc]
    exact linesFrom_lineFeed [] chars rest.toList

/-- What is put behind a text belongs to its unfinished line. -/
theorem lines_append (text : String) {added : String} (hadded : IsLine added)
    (hne : added.toList ≠ []) :
    lines (text ++ (added ++ "\n")) = lines (finished text) ++ [unfinished text ++ added] := by
  have hsplit : text ++ (added ++ "\n") =
      finished text ++ (unfinished text ++ added ++ "\n" ++ "") := by
    conv => lhs; rw [← finished_append_unfinished text]
    simp [String.append_assoc]
  have hfeed : '\n' ∉ (unfinished text ++ added).toList := by
    rw [String.toList_append, List.mem_append, not_or]
    exact ⟨notMem_unfinished text, hadded.1⟩
  have hlast : (unfinished text ++ added).toList.getLast? ≠ some '\r' := by
    rw [String.toList_append, List.getLast?_append_of_ne_nil _ hne]
    exact hadded.getLast?_ne
  rw [hsplit, lines_finished_append, lines_line hfeed hlast]
  rfl

end Switchboard.Text
