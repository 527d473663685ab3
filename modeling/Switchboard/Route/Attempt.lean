import Switchboard.Timestamp
import Switchboard.Data.Record

/-!
# Attempts

Every attempt to have a model do a task leaves one record: which task and model, the number of
the attempt, the chunk if the call was one of several, how it ended and what it cost.

A backend fails in one of two ways. A transient failure (a timeout, a rate limit) is worth another
attempt on the same model; a capability failure (an overflow, a rejection) is not.
-/

namespace Switchboard.Route

open Switchboard.Data

/-- The two kinds of backend failure. -/
inductive FailureKind where
  | transient
  | capability
  deriving DecidableEq, Repr, Inhabited

/-- The name of a kind of failure. -/
def FailureKind.name : FailureKind → String
  | .transient => "transient"
  | .capability => "capability"

/-- A failed backend call. -/
structure Failure where
  kind : FailureKind
  message : String
  deriving DecidableEq, Repr, Inhabited

/-- A failure in words. -/
def Failure.text (f : Failure) : String :=
  f.kind.name ++ ": " ++ f.message

/-- A failure as data. -/
def Failure.toNode (f : Failure) : Node :=
  .obj [("kind", .str f.kind.name), ("message", .str f.message)]

/-- How an attempt ended. -/
inductive Outcome where
  | success
  | transient
  | capability
  /-- The model could not take the package, and no call was made. -/
  | skipped
  | cancelled
  deriving DecidableEq, Repr, Inhabited

namespace Outcome

/-- The name of an outcome. -/
def name : Outcome → String
  | .success => "success"
  | .transient => "transient"
  | .capability => "capability"
  | .skipped => "skipped"
  | .cancelled => "cancelled"

/-- All outcomes. -/
def all : List Outcome := [.success, .transient, .capability, .skipped, .cancelled]

/-- The outcome with a name. -/
def ofName? (name : String) : Option Outcome := all.find? (·.name = name)

/-- The outcome of a failed call. -/
def ofFailure : FailureKind → Outcome
  | .transient => .transient
  | .capability => .capability

/-- Whether the attempt reached a backend. -/
def wasCalled : Outcome → Bool
  | .success | .transient | .capability => true
  | .skipped | .cancelled => false

end Outcome

/-- The record of one attempt, written once and never changed. -/
structure Attempt where
  taskId : String := ""
  model : String := ""
  /-- From one on for calls, zero when no call was made. -/
  number : Nat := 0
  chunk : Option Nat := none
  outcome : Outcome := .success
  tokenCost : Nat := 0
  latencyMs : Nat := 0
  error : Option String := none
  time : Timestamp := ⟨0, 0⟩
  deriving DecidableEq, Repr, Inhabited

/-- The fields of an attempt record. -/
def Attempt.fields : List (RecordField Attempt) := [
  .required "task_id" Reading.text fun a x => { a with taskId := x },
  .required "model" Reading.text fun a x => { a with model := x },
  .required "attempt_number" Reading.word32 fun a x => { a with number := x },
  .nullable "chunk_index" Reading.word fun a x => { a with chunk := x },
  .required "outcome" (Reading.oneOf Outcome.ofName?) fun a x => { a with outcome := x },
  .required "token_cost" Reading.word fun a x => { a with tokenCost := x },
  .required "latency_ms" Reading.word fun a x => { a with latencyMs := x },
  .optional "error" Reading.text fun a x => { a with error := x },
  .required "at" Timestamp.read fun a x => { a with time := x }]

/-- Reads an attempt record. -/
def Attempt.read : Reading Attempt := record Attempt.fields {}

/-- An attempt record as data. -/
def Attempt.toNode (a : Attempt) : Node := .obj [
  ("task_id", .str a.taskId),
  ("model", .str a.model),
  ("attempt_number", .nat a.number),
  ("chunk_index", .opt .nat a.chunk),
  ("outcome", .str a.outcome.name),
  ("token_cost", .nat a.tokenCost),
  ("latency_ms", .nat a.latencyMs),
  ("error", .opt .str a.error),
  ("at", a.time.toNode)]

end Switchboard.Route
