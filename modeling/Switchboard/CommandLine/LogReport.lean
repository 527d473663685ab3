import Switchboard.Config.Basic
import Switchboard.Disk.Basic
import Switchboard.Route.Log
import Switchboard.Route.Statistics

/-!
# The report on the log

What the log of attempts says about the models: how often each was tried and with what success,
how long it took, what it cost, and when it was last used.
-/

namespace Switchboard.CommandLine

open Switchboard.Route (Attempt ModelStats)

/-- A number of bytes in words. -/
def sizeText (bytes : Nat) : String :=
  let share (unit : Float) := Decimal.fixed 1 ((UInt64.ofNat bytes).toFloat / unit)
  if bytes < 1024 then s!"{bytes} B"
  else if bytes < 1024 * 1024 then share 1024 ++ " KB"
  else share (1024 * 1024) ++ " MB"

/-- A number of things that passed. -/
def agoText (count : Int) (unit : String) : String :=
  let plural := if count = 1 then "" else "s"
  s!"{count} {unit}{plural} ago"

/-- A time as it is seen from now. -/
def relativeText (now moment : Timestamp) : String :=
  let delta := Timestamp.secondsBetween moment now
  if delta < 0 then moment.toMinuteText
  else if delta < 60 then "just now"
  else if delta < 3600 then agoText (delta / 60) "min"
  else if delta < 86400 then agoText (delta / 3600) "hour"
  else if delta < 86400 * 30 then agoText (delta / 86400) "day"
  else moment.toMinuteText

/-- When a model was last used. -/
def lastUsed? (attempts : List Attempt) (model : String) : Option Timestamp :=
  attempts.foldl (fun latest attempt =>
    if attempt.model ≠ model then latest
    else
      match latest with
      | some time => if time.le attempt.time then some attempt.time else some time
      | none => some attempt.time) none

/-- The line of a model. -/
def statsLine (now : Timestamp) (attempts : List Attempt) (stats : ModelStats) : String :=
  let used := match lastUsed? attempts stats.model with
    | some time => relativeText now time
    | none => "never"
  "  " ++ Text.padRight 20 stats.model ++
    " " ++ Text.padLeft 8 (toString stats.attempts) ++
    " " ++ Text.padLeft 6 (Decimal.fixed 0 (stats.successRate * 100)) ++ "%" ++
    " " ++ Text.padLeft 9 (toString stats.failed) ++
    " " ++ Text.padLeft 8 (Decimal.fixed 0 stats.meanLatencyMs) ++ "ms" ++
    " " ++ Text.padLeft 10 (toString stats.tokens) ++
    "   " ++ used ++ "\n"

/-- The lines above those of the models. -/
def statsHeader : String :=
  "\n  By model:\n  " ++ Text.padRight 20 "MODEL" ++ " " ++ Text.padLeft 8 "ATTEMPTS" ++ " " ++
    Text.padLeft 7 "OK" ++ " " ++ Text.padLeft 9 "FAILED" ++ " " ++ Text.padLeft 10 "LATENCY" ++
    " " ++ Text.padLeft 10 "TOKENS" ++ "   LAST USED\n  " ++
    String.ofList (List.replicate 86 '-') ++ "\n"

/-- How many different tasks there are. -/
def taskCount (attempts : List Attempt) : Nat :=
  let sorted := (attempts.map (·.taskId)).mergeSort fun a b => !(b < a)
  runs sorted
where
  /-- The number of runs of equal texts. -/
  runs : List String → Nat
    | [] => 0
    | [_] => 1
    | a :: b :: rest => if a = b then runs (b :: rest) else runs (b :: rest) + 1

/-- The report for people. -/
def logText (now : Timestamp) (path : String) (size : Nat) (attempts : List Attempt) : String :=
  let stats := Route.statistics attempts
  "Context Relay: Delegation Log\n=============================\n\n" ++
    s!"  Log:         {path}\n" ++
    s!"  Size:        {sizeText size}\n\n" ++
    s!"  Tasks:       {taskCount attempts}\n" ++
    s!"  Attempts:    {attempts.length}\n" ++
    s!"  Tokens:      {Word.sum (stats.map (·.tokens))}\n" ++
    (if stats.isEmpty then ""
      else statsHeader ++ String.join (stats.map (statsLine now attempts))) ++ "\n"

/-- The attempts in a log file. -/
def readLog (disk : Disk) (path : String) : Except Report (List Attempt) :=
  match disk.read path with
  | .ok content => Route.Log.read content
  | .error reason =>
      if reason = isDirectory then .error (.ofMessage reason)
      else .error (Report.within s!"Failed to open delegation log {path}" (.ofMessage reason))

/-- The report on the log of a configuration. -/
def logReport (disk : Disk) (now : Timestamp) (config : Config) (json : Bool) :
    Except Report String :=
  match config.router.logPath with
  | none => .error (.ofMessage "router.log_path is not set; no delegation log to read")
  | some path =>
      if !disk.pathExists path then .ok s!"No delegation log at {path} yet.\n"
      else do
        let attempts ← readLog disk path
        if json then
          let stats := (Route.statistics attempts).map ModelStats.toNode
          return Json.pretty (.arr stats) ++ "\n"
        else
          let size := ((disk.read path).toOption.getD []).length
          return logText now path size attempts

end Switchboard.CommandLine
