import Switchboard.CommandLine.LogReport
import Switchboard.Engine
import Switchboard.Proofs.Disk.Room
import Switchboard.Proofs.Route.Log

/-!
# Sessions of the attempt log

The log of an engine lives in memory as long as the engine does, and its file outlives it. In a
session the file is opened and records are entered one after the other; the next session finds the
file as the last one left it.

Once the file could be opened, nothing fails any more: it can be read, written and opened again. So
sessions compose, and what the file holds in the end are the records of all sessions.

## Main results

* `kept_openLog`, `openLog_of_kept` — opening for the first time, and again.
* `foldl_enter_kept` — entering records, in memory and in the file.
* `log_survives_sessions` — what the file of any number of sessions is read as.
-/

namespace Switchboard.Engine

open Switchboard.CommandLine (readLog)
open Switchboard.Disk (placeFrom)
open Switchboard.Queue (Shift)
open Switchboard.Route (Attempt)
open Switchboard.Text.Utf8 (Bytes)

/-! ## Sessions -/

/-- A shift that has entered nothing yet and writes down what it enters. -/
def newShift (path : String) (disk : Disk) : Shift Disk where
  settings := {}
  queue := {}
  backends := disk
  start := ⟨0, 0⟩
  permits := 0
  writeDown := appendLog (some path)

/-- A session: the log is opened, and attempts are entered. What is left of it are the disk and, in
memory, the log. -/
def logSession (path : String) (disk : Disk) (attempts : List Attempt) :
    Except Report (Disk × List Attempt) :=
  match openLog disk (some path) with
  | (_, .error report) => .error report
  | (disk, .ok ()) =>
      let shift := attempts.foldl Shift.enter (newShift path disk)
      .ok (shift.backends, shift.log)

/-- Sessions one after the other, with the logs that each of them had in memory. -/
def logSessions (path : String) : Disk → List (List Attempt) →
    Except Report (Disk × List (List Attempt))
  | disk, [] => .ok (disk, [])
  | disk, attempts :: sessions =>
      match logSession path disk attempts with
      | .error report => .error report
      | .ok (disk, log) => (logSessions path disk sessions).map fun (disk, logs) => (disk, log :: logs)

variable {disk other : Disk} {path : String} {place : Place} {content : Bytes}
  {attempts : List Attempt} {sessions : List (List Attempt)}

/-! ## The file -/

/-- The log file is at its place and can be opened and written again. -/
structure Kept (disk : Disk) (path : String) (place : Place) (content : Bytes) : Prop where
  room : disk.HasRoom path
  writable : disk.Writable path place
  file : disk.file? place = some content

theorem Kept.putFile (h : Kept disk path place content) (content' : Bytes) :
    Kept (disk.putFile place content') path place content' where
  room := h.room.putFile h.writable.free
  writable := h.writable.putFile place content'
  file := Disk.file?_putFile_self

theorem Kept.read (h : Kept disk path place content) : disk.read path = .ok content :=
  Disk.read_eq_ok.mpr ⟨place, h.writable.resolve, h.file⟩

theorem Kept.write (h : Kept disk path place content) (content' : Bytes) :
    disk.write path content' = .ok (disk.putFile place content') :=
  Disk.write_iff.mpr ⟨place, h.writable, rfl⟩

/-- What is at a place where a file can be written is a file, or nothing. -/
theorem read_of_writable (h : disk.Writable path place) :
    (disk.read path).toOption.getD [] = (disk.file? place).getD [] := by
  cases hfile : disk.file? place with
  | none =>
      have hread : disk.read path = .error notFound := by
        simp [Disk.read, h.resolve, hfile, h.free, bind, Except.bind]
      rw [hread]
      rfl
  | some content =>
      rw [Disk.read_eq_ok.mpr ⟨place, h.resolve, hfile⟩]
      rfl

/-- What opening a log does: the directory above it is made, and its file is written once with what
was in it. -/
theorem room_of_openLog (h : openLog disk (some path) = (other, .ok ())) :
    ∃ room, disk.Furnishes room ∧ room.HasRoom path ∧
      room.write path ((room.read path).toOption.getD []) = .ok other := by
  rw [openLog] at h
  cases hparent : Path.parent? path with
  | none =>
      refine ⟨disk, .refl disk, fun parent h => absurd (hparent.symm.trans h) nofun, ?_⟩
      simp only [hparent] at h
      split at h <;> cases h
      next hwrite => exact hwrite
  | some parent =>
      simp only [hparent] at h
      have hfurnishes := Disk.makeDirectories_furnishes disk parent
      cases hmade : disk.makeDirectories parent with
      | error reason =>
          rw [hmade] at h
          cases h
      | ok room =>
          rw [hmade] at hfurnishes
          refine ⟨room, hfurnishes, ?_, ?_⟩
          · intro parent' hparent'
            obtain rfl := Option.some.inj (hparent.symm.trans hparent')
            exact Disk.hasDirectory_of_makeDirectories hmade
          · simp only [hmade, Except.mapError] at h
            split at h <;> cases h
            next hwrite => exact hwrite

/-- A log that could be opened is kept from then on, with what was in its file. -/
theorem kept_openLog (h : openLog disk (some path) = (other, .ok ())) :
    Kept other path (placeFrom disk.current path)
      ((disk.file? (placeFrom disk.current path)).getD []) := by
  obtain ⟨room, hfurnishes, hroom, hwrite⟩ := room_of_openLog h
  obtain ⟨place, hwritable, rfl⟩ := Disk.write_iff.mp hwrite
  obtain rfl : place = placeFrom disk.current path :=
    hfurnishes.current ▸ Disk.resolve_eq_place hwritable.resolve
  rw [read_of_writable hwritable, hfurnishes.file?]
  exact ⟨hroom.putFile hwritable.free, hwritable.putFile _ _, Disk.file?_putFile_self⟩

/-- A log that is kept can be opened again, and nothing is lost. -/
theorem openLog_of_kept (h : Kept disk path place content) :
    openLog disk (some path) = (disk.putFile place content, .ok ()) := by
  have hread : (disk.read path).toOption.getD [] = content := by
    rw [h.read]
    rfl
  rw [openLog]
  cases hparent : Path.parent? path with
  | none => simp only [hread, h.write]
  | some parent =>
      have hmade := Disk.makeDirectories_of_hasDirectory (h.room parent hparent)
      simp only [hmade, Except.mapError, hread, h.write]

theorem appendLog_of_kept (h : Kept disk path place content) (a : Attempt) :
    appendLog (some path) a disk = .ok (disk.putFile place (Route.Log.append content a)) := by
  simp [appendLog, h.read, h.write, bind, Except.bind]

/-! ## Entering records -/

/-- Records that are entered are at the end of the log, in memory and in the file. -/
theorem foldl_enter_kept {shift : Shift Disk} (hwrites : shift.writeDown = appendLog (some path))
    (h : Kept shift.backends path place content) (attempts : List Attempt) :
    (attempts.foldl Shift.enter shift).log = shift.log ++ attempts ∧
      Kept (attempts.foldl Shift.enter shift).backends path place
        (attempts.foldl Route.Log.append content) := by
  induction attempts generalizing shift content with
  | nil => exact ⟨(List.append_nil _).symm, h⟩
  | cons a attempts ih =>
      have hdisk : (shift.enter a).backends =
          shift.backends.putFile place (Route.Log.append content a) := by
        simp only [Shift.enter, hwrites, appendLog_of_kept h a]
      have hkept : Kept (shift.enter a).backends path place (Route.Log.append content a) :=
        hdisk ▸ h.putFile _
      have hwrites' : (shift.enter a).writeDown = appendLog (some path) := hwrites
      obtain ⟨hlog, hlast⟩ := ih hwrites' hkept
      refine ⟨?_, hlast⟩
      rw [List.foldl_cons, hlog, Shift.enter, List.append_assoc]
      rfl

/-! ## Sessions one after the other -/

/-- A session whose log could be opened enters all its records. -/
theorem logSession_of_opens (hopens : openLog disk (some path) = (other, .ok ()))
    (h : Kept other path place content) (attempts : List Attempt) :
    ∃ last, logSession path disk attempts = .ok (last, attempts) ∧
      Kept last path place (attempts.foldl Route.Log.append content) := by
  have hkept : Kept (newShift path other).backends path place content := h
  obtain ⟨hlog, hlast⟩ := foldl_enter_kept rfl hkept attempts
  refine ⟨_, ?_, hlast⟩
  rw [logSession, hopens]
  show Except.ok (_, _) = _
  rw [hlog]
  rfl

/-- Only the first session can fail to open the log: every later one finds it as the one before has
left it. -/
theorem logSessions_of_opens (hopens : openLog disk (some path) = (other, .ok ()))
    (h : Kept other path place content) (attempts : List Attempt) (later : List (List Attempt)) :
    ∃ last, logSessions path disk (attempts :: later) = .ok (last, attempts :: later) ∧
      Kept last path place ((attempts :: later).flatten.foldl Route.Log.append content) := by
  obtain ⟨next, hsession, hnext⟩ := logSession_of_opens hopens h attempts
  have hrun : logSessions path disk (attempts :: later) =
      (logSessions path next later).map fun (disk, logs) => (disk, attempts :: logs) := by
    rw [logSessions, hsession]
  rw [hrun, List.flatten_cons, List.foldl_append]
  induction later generalizing attempts disk other content next with
  | nil => exact ⟨next, rfl, hnext⟩
  | cons following later ih =>
      have hagain := openLog_of_kept hnext
      obtain ⟨after, hsession', hafter⟩ := logSession_of_opens hagain (hnext.putFile _) following
      have hrun' : logSessions path next (following :: later) =
          (logSessions path after later).map fun (disk, logs) => (disk, following :: logs) := by
        rw [logSessions, hsession']
      obtain ⟨last, hlater, hlast⟩ := ih hagain (hnext.putFile _) following after hsession' hafter hrun'
      refine ⟨last, ?_, ?_⟩
      · rw [hrun', hlater]
        rfl
      · rw [List.flatten_cons, List.foldl_append]
        exact hlast

/-- What the log file of sessions one after the other is read as: the records of all of them in
order, if the file was absent or empty and could be opened. Every session has exactly its own
records in memory. -/
theorem log_survives_sessions (disk : Disk) (path : String) (sessions : List (List Attempt))
    (hempty : ∀ content ∈ disk.file? (placeFrom disk.current path), content = [])
    (hopens : (openLog disk (some path)).2 = .ok ())
    (hfile : sessions = [] → disk.read path = .ok [])
    (hfits : ∀ attempts ∈ sessions, ∀ a ∈ attempts, a.fits = true) :
    ∃ last, logSessions path disk sessions = .ok (last, sessions) ∧
      readLog last path = .ok sessions.flatten := by
  cases sessions with
  | nil =>
      refine ⟨disk, rfl, ?_⟩
      rw [readLog, hfile rfl]
      rfl
  | cons attempts later =>
      have hopen : openLog disk (some path) = ((openLog disk (some path)).1, .ok ()) :=
        Prod.ext rfl hopens
      have hcontent : (disk.file? (placeFrom disk.current path)).getD [] = [] := by
        cases hfound : disk.file? (placeFrom disk.current path) with
        | none => rfl
        | some content => exact hempty content hfound
      obtain ⟨last, hrun, hlast⟩ :=
        logSessions_of_opens hopen (hcontent ▸ kept_openLog hopen) attempts later
      have hall : ∀ a ∈ (attempts :: later).flatten, a.fits = true := by
        intro a ha
        obtain ⟨session, hsession, hmem⟩ := List.mem_flatten.mp ha
        exact hfits session hsession a hmem
      refine ⟨last, hrun, ?_⟩
      rw [readLog, hlast.read]
      exact Route.Log.read_append hall

/-- Sessions with texts of every kind: line breaks, quotes, control characters, a backslash and
letters beyond ASCII. The second session enters nothing. -/
def oddSessions : List (List Attempt) := [
  [{ taskId := "t\n1", model := "\"quoted\"", number := 1, chunk := some 0, outcome := .transient,
     tokenCost := 18446744073709551615, error := some "\x7b\"at\":\r\n\x00\x1b\x7d", time := ⟨0, 1⟩ },
   { taskId := "", model := "größe😀", outcome := .skipped, error := some "" }],
  [],
  [{ taskId := "  ", model := "a\\b\u2028", number := 4294967295, chunk := some 7,
     latencyMs := 12, time := ⟨253402300799, 999999999⟩ }]]

theorem oddSessions_survive :
    ∃ last, logSessions "/logs/attempts.jsonl" {} oddSessions = .ok (last, oddSessions) ∧
      readLog last "/logs/attempts.jsonl" = .ok oddSessions.flatten :=
  log_survives_sessions {} "/logs/attempts.jsonl" oddSessions nofun (by decide +kernel) nofun
    (by decide +kernel)

end Switchboard.Engine
