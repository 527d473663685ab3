import Switchboard.Route.Attempt

/-!
# The routing state machine

A task starts pending, then walks the ranked candidates: it selects a model, calls it chunk by
chunk, retries a transient failure after a growing delay, and moves to the next model when a model
is unsuitable, fails for good or has used up its retries. It ends when a model has finished all
chunks or no candidate is left.

`transition` is total: an event that makes no sense in a state leaves the state as it is.
-/

namespace Switchboard.Route

open Switchboard.Data

/-- Bounded retries with a growing delay. -/
structure RetryPolicy where
  /-- The retries on one model after the first attempt. -/
  maxRetries : Nat := 3
  backoffBaseMs : Nat := 1000
  deriving DecidableEq, Repr, Inhabited

namespace RetryPolicy

/-- The delay after a failed attempt: the base doubled with every further attempt, at most five
times, and never above the largest word. -/
def backoffMs (p : RetryPolicy) (failedAttempt : Nat) : Nat :=
  Word.mulCapped p.backoffBaseMs (Nat.pow 2 (min (failedAttempt - 1) 5))

/-- The fields of a policy. -/
def fields : List (RecordField RetryPolicy) := [
  .required "max_retries" Reading.word32 fun p x => { p with maxRetries := x },
  .required "backoff_base_ms" Reading.word fun p x => { p with backoffBaseMs := x }]

/-- Reads a policy. -/
def read : Reading RetryPolicy := record fields {}

/-- A policy as data. -/
def toNode (p : RetryPolicy) : Node := .obj [
  ("max_retries", .nat p.maxRetries), ("backoff_base_ms", .nat p.backoffBaseMs)]

end RetryPolicy

/-- The state of a task on its way through the candidates. -/
inductive State where
  | pending
  | selecting (candidate : Nat)
  | calling (candidate chunk attempt : Nat)
  | retrying (candidate chunk attempt delayMs : Nat)
  | succeeded (candidate : Nat)
  | exhausted
  deriving DecidableEq, Repr, Inhabited

/-- Whether a state is final. -/
def State.isTerminal : State → Bool
  | .succeeded _ | .exhausted => true
  | _ => false

/-- What may happen to a task. -/
inductive Event where
  | begin
  /-- The selected model has a plan for the package. -/
  | planned
  /-- The selected model cannot take the package. -/
  | unsuitable
  /-- A chunk is done and others remain. -/
  | chunkDone
  /-- The last call is done. -/
  | finished
  | failed (kind : FailureKind)
  | backoffElapsed
  deriving DecidableEq, Repr, Inhabited

/-- The event of a name. -/
def Event.ofName? : String → Option Event
  | "begin" => some .begin
  | "planned" => some .planned
  | "unsuitable" => some .unsuitable
  | "chunk_done" => some .chunkDone
  | "finished" => some .finished
  | "transient" => some (.failed .transient)
  | "capability" => some (.failed .capability)
  | "backoff_elapsed" => some .backoffElapsed
  | _ => none

/-- The state after giving up on a candidate. -/
def advance (candidateCount candidate : Nat) : State :=
  if Word.add candidate 1 < candidateCount then .selecting (Word.add candidate 1) else .exhausted

/-- The state after an event. -/
def transition (policy : RetryPolicy) (candidateCount : Nat) : State → Event → State
  | .pending, .begin => if candidateCount = 0 then .exhausted else .selecting 0
  | .selecting candidate, .planned => .calling candidate 0 1
  | .selecting candidate, .unsuitable => advance candidateCount candidate
  | .calling candidate chunk _, .chunkDone => .calling candidate (Word.add chunk 1) 1
  | .calling candidate _ _, .finished => .succeeded candidate
  | .calling candidate chunk attempt, .failed .transient =>
      if attempt ≤ policy.maxRetries then
        .retrying candidate chunk attempt (policy.backoffMs attempt)
      else advance candidateCount candidate
  | .calling candidate _ _, .failed .capability => advance candidateCount candidate
  | .retrying candidate chunk attempt _, .backoffElapsed =>
      .calling candidate chunk (Word.add32 attempt 1)
  | state, _ => state

/-- A state as data. -/
def State.toNode : State → Node
  | .pending => .obj [("state", .str "pending")]
  | .selecting candidate => .obj [
      ("state", .str "selecting_model"), ("candidate", .nat candidate)]
  | .calling candidate chunk attempt => .obj [
      ("state", .str "calling"), ("candidate", .nat candidate), ("chunk", .nat chunk),
      ("attempt", .nat attempt)]
  | .retrying candidate chunk attempt delayMs => .obj [
      ("state", .str "retrying"), ("candidate", .nat candidate), ("chunk", .nat chunk),
      ("attempt", .nat attempt), ("delay_ms", .nat delayMs)]
  | .succeeded candidate => .obj [("state", .str "succeeded"), ("candidate", .nat candidate)]
  | .exhausted => .obj [("state", .str "fallback_exhausted")]

/-- The fields that states have besides their name. -/
structure StateFields where
  candidate : Option Nat := none
  chunk : Option Nat := none
  attempt : Option Nat := none
  delayMs : Option Nat := none

/-- Reads a state: its name decides which of the other members it needs. -/
def State.read : Reading State := fun node => do
  let name ← record [.required "state" Reading.text fun _ x => x] "" node
  let fields : List (RecordField StateFields) := [
    .required "candidate" Reading.word fun s x => { s with candidate := some x },
    .required "chunk" Reading.word fun s x => { s with chunk := some x },
    .required "attempt" Reading.word32 fun s x => { s with attempt := some x },
    .required "delay_ms" Reading.word fun s x => { s with delayMs := some x }]
  let count ← match name with
    | "pending" | "fallback_exhausted" => pure 0
    | "selecting_model" | "succeeded" => pure 1
    | "calling" => pure 3
    | "retrying" => pure 4
    | _ => throw .shape
  let s ← record (fields.take count) {} node
  let candidate := s.candidate.getD 0
  let chunk := s.chunk.getD 0
  let attempt := s.attempt.getD 0
  return match name with
    | "selecting_model" => .selecting candidate
    | "calling" => .calling candidate chunk attempt
    | "retrying" => .retrying candidate chunk attempt (s.delayMs.getD 0)
    | "succeeded" => .succeeded candidate
    | "fallback_exhausted" => .exhausted
    | _ => .pending

/-- The states a list of events leads through. -/
def trace (policy : RetryPolicy) (candidateCount : Nat) : State → List Event → List State
  | _, [] => []
  | state, event :: events =>
      let next := transition policy candidateCount state event
      next :: trace policy candidateCount next events

end Switchboard.Route
