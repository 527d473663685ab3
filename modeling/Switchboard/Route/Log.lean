import Switchboard.Error
import Switchboard.Json.Printer
import Switchboard.Json.Reader
import Switchboard.Text.Utf8

/-!
# The attempt log

Attempt records are kept in a file of lines, one record a line, to which records are only ever
appended. Reading passes over blank lines and over lines that hold no record; a file that is not
UTF-8 cannot be read at all.
-/

namespace Switchboard.Route.Log

open Switchboard.Text.Utf8 (Bytes)

/-- The line of a record. -/
def line (attempt : Attempt) : String :=
  Json.compact attempt.toNode ++ "\n"

/-- The content of a log file after a record was appended. -/
def append (content : Bytes) (attempt : Attempt) : Bytes :=
  content ++ Text.Utf8.encode (line attempt)

/-- The record of a line, if it holds one. -/
def readLine? (text : String) : Option Attempt :=
  if (Text.trim text).isEmpty then none
  else
    match Json.decode Attempt.read text with
    | .ok attempt => some attempt
    | .error _ => none

/-- What is said of a file that is not UTF-8. -/
def notText : String := "stream did not contain valid UTF-8"

/-- The records of a log file. -/
def read (content : Bytes) : Except Report (List Attempt) :=
  match Text.Utf8.decode content with
  | .error _ => .error (.ofMessage notText)
  | .ok text => .ok ((Text.lines text).filterMap readLine?)

/-- The records of one task. -/
def ofTask (taskId : String) (attempts : List Attempt) : List Attempt :=
  attempts.filter (·.taskId = taskId)

end Switchboard.Route.Log
