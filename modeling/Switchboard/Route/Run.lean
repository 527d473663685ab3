import Switchboard.Backend.Basic
import Switchboard.Error
import Switchboard.Route.Machine
import Switchboard.Route.Plan

/-!
# Running a route plan

A run walks a route plan through the state machine of `transition`. It is written as a function
of one step: a run either goes on by itself, stops to wait for something outside (the answer of a
backend, the end of a delay), or ends with an outcome. What is outside answers with a `Signal`,
and the run goes on from there. So a run can be driven by a clock, by a script, or by any
sequence of signals a statement quantifies over.

Backends may report any word as the tokens of a call, and a run adds them up. A program can be built
with its sums checked or without, and this is the sum where it matters: unchecked, the cost of a run
wraps around; checked, an answer whose cost cannot be added takes the worker down that runs the
task. `Run.resume` is the unchecked way, and `Run.resumeIn` knows both.

The chunks of a task are sent one after the other. Whether the task was cancelled is looked at
before every choice of a model and before every call, and a cancellation ends every waiting.
-/

namespace Switchboard.Route

open Switchboard.Data

/-- What all runs of a program share. -/
structure Settings where
  policy : RetryPolicy := {}
  /-- The share of a window that is kept for the response. -/
  margin : Float := Call.standardMargin
  estimator : Estimator := .standard
  /-- The providers that have a backend. -/
  providers : List String := []

/-- A task with the plan it is run by. -/
structure Job where
  settings : Settings
  request : Request
  plan : Plan

/-- Plans a request and makes it a job. -/
def Request.job (request : Request) (settings : Settings) : Job :=
  ⟨settings, request, request.plan settings.estimator settings.margin⟩

/-- How far a run has come. -/
structure Run where
  state : State := .pending
  /-- The records written so far, in order. -/
  attempts : List Attempt := []
  /-- The models passed over or chosen so far. -/
  tried : List String := []
  lastError : String := ""
  /-- The prompts for the chosen model. -/
  prompts : List String := []
  /-- What the chosen model has answered so far, by chunk. -/
  outputs : List (Nat × String) := []
  tokenCost : Nat := 0
  /-- When the run began. -/
  started : Timestamp := ⟨0, 0⟩
  /-- When the current call began. -/
  called : Timestamp := ⟨0, 0⟩
  deriving Repr, Inhabited

/-- What a successful run brings. -/
structure Result where
  taskId : String
  model : String
  chunks : Nat
  output : String
  tokenCost : Nat
  wallTimeMs : Nat
  attempts : List Attempt
  deriving DecidableEq, Repr, Inhabited

/-- How a run ends. -/
abbrev Ending := Except Error Result

/-- What a run waits for. -/
inductive Need where
  | reply (request : Backend.Request)
  | delay (ms : Nat)
  deriving Repr

/-- What ends the waiting. -/
inductive Signal where
  | answered (answer : Backend.Answer)
  | elapsed
  | cancelled

/-- What becomes of a run whose cost would be no word any more. -/
inductive Overflow where
  /-- Sums are not checked: the cost wraps around. -/
  | wraps
  /-- Sums are checked: the worker goes down. -/
  | aborts
  deriving DecidableEq, Repr

/-- One step of a run. -/
inductive Step where
  /-- It goes on by itself. -/
  | next (run : Run)
  /-- It waits. -/
  | wait (run : Run) (need : Need)
  | stop (run : Run) (ending : Ending)

namespace Run

/-- The run after an event. -/
def fire (job : Job) (run : Run) (event : Event) : Run :=
  { run with
    state := transition job.settings.policy job.plan.candidates.length run.state event }

/-- Adds a record. -/
def note (run : Run) (attempt : Attempt) : Run :=
  { run with attempts := run.attempts ++ [attempt] }

/-- Passes over a model without a call. -/
def skip (job : Job) (now : Timestamp) (run : Run) (model reason : String) : Run :=
  { run.note {
      taskId := job.request.taskId, model, outcome := .skipped, error := some reason,
      time := now } with
    lastError := s!"{model}: {reason}" }

/-- Why a model is passed over that is too small and takes no chunks. -/
def tooSmall (plan : Plan) : String :=
  s!"window smaller than {plan.packageTokens} tokens and chunking unsupported"

/-- The start of a run: the models that are too small have been passed over. -/
def start (job : Job) (now : Timestamp) : Run :=
  job.plan.filteredOut.foldl
    (fun run name =>
      let run := run.skip job now name (tooSmall job.plan)
      { run with tried := run.tried ++ [name] })
    { started := now }

/-- Ends a cancelled run. A model that was being called leaves a record. -/
def cancel (job : Job) (now : Timestamp) (run : Run) (model : Option String) (chunks : Nat) :
    Step :=
  let run := match model with
    | some model => run.note {
        taskId := job.request.taskId, model, outcome := .cancelled, time := now }
    | none => run
  .stop run (.error (.cancelled job.request.taskId (0 < chunks) chunks))

/-- Why a candidate cannot be called, or else its prompts. -/
def prepare (job : Job) (candidate : Candidate) : Except String (List String) :=
  match candidate.plan, candidate.rejection with
  | some plan, _ =>
      if candidate.provider ∉ job.settings.providers then
        .error s!"no backend registered for provider '{candidate.provider}'"
      else
        match Call.prompts job.request.description job.request.package plan with
        | [] => .error "plan rendered no prompts"
        | prompts => .ok prompts
  | none, some rejection => .error rejection.message
  | none, none => .error "no plan"

/-- Chooses a model: it is called if it can be, and passed over otherwise. -/
def select (job : Job) (now : Timestamp) (run : Run) (candidate : Candidate) : Run :=
  let run := { run with tried := run.tried ++ [candidate.model], outputs := [] }
  match prepare job candidate with
  | .error reason => (run.skip job now candidate.model reason).fire job .unsuitable
  | .ok prompts => { run with prompts }.fire job .planned

/-- The call a run is about to make. -/
def request (job : Job) (run : Run) (candidate : Candidate) (chunk : Nat) :
    Except Error Backend.Request :=
  match job.request.candidates.find? (·.name = candidate.model) with
  | none => .error (.unknownModel candidate.model)
  | some profile =>
      if candidate.provider ∉ job.settings.providers then
        .error (.modelUnavailable candidate.model
          s!"no backend for provider '{candidate.provider}'")
      else
        match run.prompts[chunk]? with
        | none => .error (.modelUnavailable candidate.model
            s!"no prompt for chunk {chunk + 1} of {run.prompts.length}")
        | some prompt => .ok {
            taskId := job.request.taskId, profile, provider := candidate.provider, prompt, chunk,
            chunkCount := run.prompts.length }

/-- The outcome of a run whose state is final. -/
def finish (job : Job) (now : Timestamp) (run : Run) (candidate : Candidate) : Result where
  taskId := job.request.taskId
  model := candidate.model
  chunks := run.outputs.length
  output := Call.mergeOutputs run.outputs
  tokenCost := run.tokenCost
  wallTimeMs := run.started.millisBetween now
  attempts := run.attempts

/-- The error of a run that no model has finished. -/
def exhaustion (job : Job) (run : Run) : Error :=
  .exhausted job.request.taskId run.tried job.plan.fragments
    (if run.lastError.isEmpty then "no candidate models" else run.lastError) run.attempts

/-- The error of a run that names a candidate the plan does not have. -/
def astray (job : Job) (index : Nat) : Error :=
  .aborted job.request.taskId s!"no candidate at position {index}"

/-- One step; `cancelled` says whether the task was cancelled by now. -/
def step (job : Job) (now : Timestamp) (cancelled : Bool) (run : Run) : Step :=
  match run.state with
  | .pending => .next (run.fire job .begin)
  | .selecting index =>
      if cancelled then run.cancel job now none 0
      else
        match job.plan.candidates[index]? with
        | none => .stop run (.error (astray job index))
        | some candidate => .next (run.select job now candidate)
  | .calling index chunk _ =>
      match job.plan.candidates[index]? with
      | none => .stop run (.error (astray job index))
      | some candidate =>
          if cancelled then run.cancel job now (some candidate.model) run.outputs.length
          else
            match run.request job candidate chunk with
            | .error error => .stop run (.error error)
            | .ok request => .wait { run with called := now } (.reply request)
  | .retrying index _ _ delayMs =>
      match job.plan.candidates[index]? with
      | none => .stop run (.error (astray job index))
      | some candidate =>
          if cancelled then run.cancel job now (some candidate.model) run.outputs.length
          else .wait run (.delay delayMs)
  | .succeeded index =>
      match job.plan.candidates[index]? with
      | none => .stop run (.error (astray job index))
      | some candidate => .stop run (.ok (run.finish job now candidate))
  | .exhausted => .stop run (.error (run.exhaustion job))

/-! ## After waiting -/

/-- The chunk number of a record: none when the task is sent whole. -/
def chunkLabel (run : Run) (candidate : Candidate) (chunk : Nat) : Option Nat :=
  if run.prompts.length > 1 || (candidate.plan.map Call.Plan.isChunked).getD false then some chunk
  else none

/-- The tokens of a finished call: those reported, or else an estimate. -/
def cost (job : Job) (prompt : String) (reply : Backend.Reply) : Nat :=
  match reply.usage with
  | some usage => usage
  | none => Word.add (job.settings.estimator.estimate prompt)
      (job.settings.estimator.estimate reply.text)

/-- The run after the answer of a backend. -/
def receive (job : Job) (now : Timestamp) (run : Run) (candidate : Candidate)
    (chunk attempt : Nat) (answer : Backend.Answer) : Run :=
  let base : Attempt := {
    taskId := job.request.taskId
    model := candidate.model
    number := attempt
    chunk := run.chunkLabel candidate chunk
    latencyMs := run.called.millisBetween now
    time := now }
  match answer with
  | .ok reply =>
      let cost := cost job (run.prompts[chunk]?.getD "") reply
      let run := run.note { base with outcome := .success, tokenCost := cost }
      let run := { run with
        tokenCost := Word.add run.tokenCost cost
        outputs := run.outputs ++ [(chunk, reply.text)] }
      run.fire job (if chunk + 1 < run.prompts.length then .chunkDone else .finished)
  | .error failure =>
      let run := run.note {
        base with outcome := .ofFailure failure.kind, error := some failure.message }
      { run with lastError := s!"{candidate.model}: {failure.text}" }.fire job
        (.failed failure.kind)

/-- Goes on after waiting. A signal that answers nothing the run waits for leaves it waiting. -/
def resume (job : Job) (now : Timestamp) (run : Run) (signal : Signal) : Step :=
  match run.state, signal with
  | .calling index chunk attempt, .answered answer =>
      match job.plan.candidates[index]? with
      | none => .stop run (.error (astray job index))
      | some candidate => .next (run.receive job now candidate chunk attempt answer)
  | .calling index _ _, .cancelled =>
      match job.plan.candidates[index]? with
      | none => .stop run (.error (astray job index))
      | some candidate => run.cancel job now (some candidate.model) run.outputs.length
  | .retrying .., .elapsed => .next (run.fire job .backoffElapsed)
  | .retrying index _ _ _, .cancelled =>
      match job.plan.candidates[index]? with
      | none => .stop run (.error (astray job index))
      | some candidate => run.cancel job now (some candidate.model) run.outputs.length
  | _, _ => .next run

/-- What an answer adds to the cost of a run. -/
def charge (job : Job) (run : Run) (chunk : Nat) : Backend.Answer → Nat
  | .ok reply => cost job (run.prompts[chunk]?.getD "") reply
  | .error _ => 0

/-- Whether the cost of a run is no word any more with that of the answer it waits for. -/
def overflows (job : Job) (run : Run) (answer : Backend.Answer) : Bool :=
  match run.state with
  | .calling _ chunk _ => Word.size64 ≤ run.tokenCost + run.charge job chunk answer
  | _ => false

/-- What takes down a worker whose sums are checked. -/
def overflowMessage : String := "attempt to add with overflow"

/-- Goes on after waiting, with sums checked or not. Of an answer that takes the worker down nothing
is kept, neither its text nor a record. -/
def resumeIn (overflow : Overflow) (job : Job) (now : Timestamp) (run : Run) (signal : Signal) :
    Except String Step :=
  match overflow, signal with
  | .aborts, .answered answer =>
      if run.overflows job answer then .error overflowMessage
      else .ok (run.resume job now signal)
  | _, _ => .ok (run.resume job now signal)

/-- Goes on until the run waits or stops. Between two such moments it moves at most once out of
the start and once over every candidate. -/
def settle (job : Job) (now : Timestamp) (cancelled : Bool) : Nat → Run → Step
  | 0, run => .next run
  | fuel + 1, run =>
      match run.step job now cancelled with
      | .next run => settle job now cancelled fuel run
      | stopped => stopped

/-- Goes on until the run waits or stops. -/
def proceed (job : Job) (now : Timestamp) (cancelled : Bool) (run : Run) : Step :=
  settle job now cancelled (job.plan.candidates.length + 3) run

end Run

/-- A result as data. -/
def Result.toNode (r : Result) : Node := .obj [
  ("task_id", .str r.taskId),
  ("model_used", .str r.model),
  ("chunks_executed", .nat r.chunks),
  ("merged_output", .str r.output),
  ("token_cost", .nat r.tokenCost),
  ("wall_time_ms", .nat r.wallTimeMs),
  ("attempts", .arr (r.attempts.map Attempt.toNode))]

end Switchboard.Route
