import Switchboard.Proofs.Engine.Log
import Switchboard.Proofs.Route.Torn

/-!
# Appending to a log of unknown content

Whoever opens the log does not look into the file, and neither does whoever appends to it. So
appending succeeds whatever is in the file, and what a reader finds afterwards depends on it.

A file that ends with a finished line, or has only blanks behind it, takes the record as its last
line. Behind anything else the record is lost, together with what it was written behind, while the
finished lines stay. In a file that is no text nothing can be read any more.

## Main results

* `append_read_back` — what is read after a record was appended, for every earlier content.
* `torn_append_lost` — a record that is lost, and a log that cannot be read.
-/

namespace Switchboard.Engine

open Switchboard.CommandLine (readLog)
open Switchboard.Disk (placeFrom)
open Switchboard.Route (Attempt)
open Switchboard.Text (finished unfinished)
open Switchboard.Text.Utf8 (Bytes)

variable {disk : Disk} {path : String}

/-- The records on the lines of a text. -/
def recordsOf (text : String) : List Attempt := (Text.lines text).filterMap Route.Log.readLine?

/-- The record of the first line comes first. -/
theorem recordsOf_line {a : Attempt} (h : a.fits = true) (rest : String) :
    recordsOf (Route.Log.line a ++ rest) = a :: recordsOf rest := by
  have hline : Text.IsLine (Json.compact a.toNode) := Json.isLine_compact (Attempt.isPlain_toNode h)
  rw [recordsOf, Route.Log.line, Text.lines_line hline.1 hline.getLast?_ne, List.filterMap_cons,
    Route.Log.readLine?_compact h]
  rfl

/-- Appending to a log that could be opened succeeds and touches nothing but the end of the file. -/
theorem append_of_opens {opened : Disk} (hopens : openLog disk (some path) = (opened, .ok ()))
    (a : Attempt) :
    ∃ last, appendLog (some path) a opened = .ok last ∧ readLog last path =
      Route.Log.read (Route.Log.append ((disk.file? (placeFrom disk.current path)).getD []) a) := by
  have hkept := kept_openLog hopens
  refine ⟨_, appendLog_of_kept hkept a, ?_⟩
  rw [readLog, (hkept.putFile _).read]

/-- What is read after a record was appended to a log that could be opened, for every content that
its file had before; a file that was absent has none. -/
theorem append_read_back (disk opened : Disk) (path : String) (a : Attempt)
    (hopens : openLog disk (some path) = (opened, .ok ())) (hfits : a.fits = true) :
    ∃ last, appendLog (some path) a opened = .ok last ∧
      match Text.Utf8.decode ((disk.file? (placeFrom disk.current path)).getD []) with
      | .error _ => readLog last path = .error (.ofMessage Route.Log.notText)
      | .ok text =>
          (Json.Blank (unfinished text).toList →
            readLog last path = .ok (recordsOf (finished text) ++ [a])) ∧
          (¬ Json.Blank (unfinished text).toList →
            readLog last path = .ok (recordsOf (finished text))) := by
  obtain ⟨last, happend, hread⟩ := append_of_opens hopens a
  refine ⟨last, happend, ?_⟩
  rw [hread]
  split
  · next hfault => exact Route.Log.read_append_of_error a hfault
  · next text htext =>
      rw [Route.Log.read_append_torn hfits htext]
      refine ⟨fun hblank => ?_, fun hblank => ?_⟩
      · rw [if_pos hblank]
        rfl
      · rw [if_neg hblank, List.append_nil]
        rfl

/-- A disk with a log file. -/
def logDisk (content : Bytes) : Disk := { files := [(["log"], content)] }

theorem opens_logDisk (content : Bytes) :
    openLog (logDisk content) (some "/log") = (logDisk content, .ok ()) := rfl

theorem file?_logDisk (content : Bytes) :
    ((logDisk content).file? (placeFrom (logDisk content).current "/log")).getD [] = content := rfl

/-- A log with a record, a line that is none, and blanks behind it. -/
def wornLog : String :=
  Route.Log.line { taskId := "t", outcome := .skipped } ++ "not json\r\n" ++ " \t"

theorem wornLog_read_back :
    ∃ opened last, openLog (logDisk (Text.Utf8.encode wornLog)) (some "/log") = (opened, .ok ()) ∧
      appendLog (some "/log") { taskId := "u" } opened = .ok last ∧
      readLog last "/log" = .ok [{ taskId := "t", outcome := .skipped }, { taskId := "u" }] := by
  have hopens := opens_logDisk (Text.Utf8.encode wornLog)
  obtain ⟨last, happend, hread⟩ :=
    append_read_back _ _ "/log" { taskId := "u" } hopens (by decide +kernel)
  obtain ⟨hfinished, hunfinished⟩ : finished wornLog =
      Route.Log.line { taskId := "t", outcome := .skipped } ++ "not json\r\n" ∧
      unfinished wornLog = " \t" := by
    refine Text.finished_append ?_ (by decide)
    rw [String.toList_append, List.getLast?_append_of_ne_nil _ (by decide)]
    rfl
  have hblank : Json.Blank (unfinished wornLog).toList := by
    rw [hunfinished]
    decide
  have hmalformed : recordsOf "not json\r\n" = [] := by decide +kernel
  refine ⟨_, last, hopens, happend, ?_⟩
  rw [file?_logDisk, Text.Utf8.decode_encode] at hread
  rw [hread.1 hblank, hfinished, recordsOf_line (by decide +kernel), hmalformed]
  rfl

/-- A line that breaks off. -/
def tornLine : String := "\x7b\"task_id\":\"t"

/-- A record that is lost behind a line that breaks off, and one that is lost because the log has a
line that is no text. -/
theorem torn_append_lost :
    (∃ opened last,
      openLog (logDisk (Text.Utf8.encode tornLine)) (some "/log") = (opened, .ok ()) ∧
      appendLog (some "/log") { taskId := "u" } opened = .ok last ∧ readLog last "/log" = .ok []) ∧
    (∃ opened last, openLog (logDisk [0xff, 0x0a]) (some "/log") = (opened, .ok ()) ∧
      appendLog (some "/log") { taskId := "u" } opened = .ok last ∧
      readLog last "/log" = .error (.ofMessage Route.Log.notText)) := by
  refine ⟨?_, ?_⟩
  · have hopens := opens_logDisk (Text.Utf8.encode tornLine)
    obtain ⟨last, happend, hread⟩ := append_of_opens hopens { taskId := "u" }
    have hfits : Attempt.fits { taskId := "u" } = true := by decide +kernel
    have hblank : ¬ Json.Blank (unfinished tornLine).toList := by decide +kernel
    have hrecords : recordsOf (finished tornLine) = [] := by decide +kernel
    refine ⟨_, last, hopens, happend, ?_⟩
    rw [hread, file?_logDisk, Route.Log.read_append_torn hfits (Text.Utf8.decode_encode tornLine),
      if_neg hblank, List.append_nil]
    exact congrArg Except.ok hrecords
  · have hopens := opens_logDisk [0xff, 0x0a]
    obtain ⟨last, happend, hread⟩ := append_of_opens hopens { taskId := "u" }
    have hfault : Text.Utf8.decode [0xff, 0x0a] = .error ⟨0, some 1⟩ := by decide +kernel
    refine ⟨_, last, hopens, happend, ?_⟩
    rw [hread, file?_logDisk]
    exact Route.Log.read_append_of_error _ hfault

end Switchboard.Engine
