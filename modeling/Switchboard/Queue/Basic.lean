import Switchboard.Route.Run

/-!
# The task queue

Tasks are held in the order in which they were enqueued. A worker claims the oldest pending task,
notes the plan it was given, and settles the task when its run has ended. Each of these steps is
one function on the queue, so that any interleaving of the steps of several workers is a sequence
of such functions.

A pending task that is cancelled is finished at once. A task in flight that is cancelled is only
signalled; it is finished when its run ends.
-/

namespace Switchboard

namespace Queue

open Switchboard.Data

/-- The status of a task. -/
inductive Status where
  | pending
  | inFlight
  | succeeded
  | failed
  | fallbackExhausted
  | cancelled
  deriving DecidableEq, Repr, Inhabited

namespace Status

/-- The name of a status. -/
def name : Status → String
  | .pending => "pending"
  | .inFlight => "in_flight"
  | .succeeded => "succeeded"
  | .failed => "failed"
  | .fallbackExhausted => "fallback_exhausted"
  | .cancelled => "cancelled"

/-- All statuses. -/
def all : List Status :=
  [.pending, .inFlight, .succeeded, .failed, .fallbackExhausted, .cancelled]

/-- The status with a name. -/
def ofName (name : String) : Except Report Status :=
  match all.find? (·.name = name) with
  | some status => .ok status
  | none => .error (.ofMessage s!"unknown task status '{name}'")

/-- Whether nothing more happens to a task. -/
def isFinished : Status → Bool
  | .pending | .inFlight => false
  | _ => true

end Status

/-- Why a task did not succeed. -/
structure TaskError where
  kind : ErrorKind
  message : String
  /-- Whether finished chunks were dropped. -/
  partly : Bool
  deriving DecidableEq, Repr, Inhabited

/-- A task error as data. -/
def TaskError.toNode (e : TaskError) : Node := .obj [
  ("kind", .str e.kind.name), ("message", .str e.message), ("partial", .bool e.partly)]

/-- A task of the queue. -/
structure Task where
  id : String
  description : String
  package : Package
  /-- The models as they were when the task was made. -/
  candidates : List Model.Profile
  tags : List String := []
  status : Status := .pending
  enqueuedAt : Timestamp := ⟨0, 0⟩
  plan : Option Route.Plan := none
  result : Option Route.Result := none
  error : Option TaskError := none
  deriving Repr, Inhabited

/-- What a task asks of the router. -/
def Task.request (task : Task) : Route.Request where
  taskId := task.id
  description := task.description
  package := task.package
  candidates := task.candidates
  tags := task.tags

/-- The place of a task in the queue. -/
structure Slot where
  /-- Tells the places apart, whatever the ids of their tasks. -/
  serial : Nat
  task : Task
  /-- Whether the task was told to stop. -/
  stopped : Bool := false
  deriving Repr, Inhabited

end Queue

open Queue in
/-- Tasks in the order in which they were enqueued. -/
structure Queue where
  slots : List Slot := []
  nextSerial : Nat := 0
  deriving Repr, Inhabited

namespace Queue

open Switchboard.Data

/-- Applies a change to the first element that satisfies `p`. -/
def changeFirst (p : α → Bool) (change : α → α) : List α → List α
  | [] => []
  | a :: rest => if p a then change a :: rest else a :: changeFirst p change rest

/-- Changes the first slot whose task has the id. -/
def change (q : Queue) (id : String) (change : Slot → Slot) : Queue :=
  { q with slots := changeFirst (·.task.id = id) change q.slots }

/-- The first slot whose task has the id. -/
def slot? (q : Queue) (id : String) : Option Slot :=
  q.slots.find? (·.task.id = id)

/-- Puts a task at the end. -/
def enqueue (q : Queue) (task : Task) : Queue :=
  ⟨q.slots ++ [⟨q.nextSerial, task, false⟩], q.nextSerial + 1⟩

/-- The tasks in order, all of them or those with a status. -/
def list (q : Queue) (status : Option Status) : List Task :=
  (q.slots.map (·.task)).filter fun task =>
    match status with
    | some status => task.status = status
    | none => true

/-- The first task with an id. -/
def get? (q : Queue) (id : String) : Option Task :=
  (q.slot? id).map (·.task)

/-- Cancels the task of a slot, if it is not finished. -/
def Slot.cancel (slot : Slot) : Slot :=
  match slot.task.status with
  | .pending => { slot with task := { slot.task with status := .cancelled }, stopped := true }
  | .inFlight => { slot with stopped := true }
  | _ => slot

/-- Cancels a task. The status is the one right after the request, none for an unknown id. -/
def cancel (q : Queue) (id : String) : Queue × Option Status :=
  let q := q.change id Slot.cancel
  (q, (q.get? id).map (·.status))

/-- Whether a purge for a status removes a task: it has to be finished. -/
def isPurged (status : Option Status) (task : Task) : Bool :=
  task.status.isFinished &&
    match status with
    | some status => task.status = status
    | none => true

/-- Removes finished tasks, all of them or those with a status, and tells how many. -/
def purge (q : Queue) (status : Option Status) : Queue × Nat :=
  let kept := q.slots.filter fun slot => !isPurged status slot.task
  ({ q with slots := kept }, q.slots.length - kept.length)

/-! ## The steps of a worker -/

/-- Claims the oldest pending task: it is in flight from now on. -/
def claim (q : Queue) : Option (Queue × Slot) :=
  match q.slots.find? (·.task.status = .pending) with
  | none => none
  | some slot =>
      let claimed := { slot with task := { slot.task with status := .inFlight } }
      some ({ q with slots := changeFirst (·.task.status = .pending) (fun _ => claimed) q.slots },
        claimed)

/-- Notes the plan of a task. -/
def setPlan (q : Queue) (id : String) (plan : Route.Plan) : Queue :=
  q.change id fun slot => { slot with task := { slot.task with plan := some plan } }

/-- The status of a task whose run has ended. -/
def endingStatus : Route.Ending → Status
  | .ok _ => .succeeded
  | .error (.exhausted ..) => .fallbackExhausted
  | .error (.cancelled _ false _) => .cancelled
  | .error _ => .failed

/-- The error of a task whose run has ended. -/
def endingError : Route.Ending → Option TaskError
  | .ok _ => none
  | .error error =>
      let partly := match error with
        | .cancelled _ partly _ => partly
        | _ => false
      some ⟨error.kind, error.message, partly⟩

/-- Settles a task by the end of its run. -/
def settle (q : Queue) (id : String) (ending : Route.Ending) : Queue :=
  q.change id fun slot => { slot with
    task := { slot.task with
      status := endingStatus ending
      result := ending.toOption
      error := endingError ending } }

/-- How many tasks are finished and how many are not. -/
def counts (q : Queue) : Nat × Nat :=
  let done := (q.slots.filter (·.task.status.isFinished)).length
  (done, q.slots.length - done)

/-! ## Reports -/

/-- What was done with a task, or would be. -/
structure TaskReport where
  taskId : String
  description : String
  status : Status
  selected : Option String
  chunks : Nat
  promptTokens : Nat
  plan : Route.Plan
  tokenCost : Option Nat
  error : Option TaskError
  deriving DecidableEq, Repr, Inhabited

/-- The tasks that were worked on, in the order in which they were claimed. -/
structure WorkReport where
  dryRun : Bool
  tasks : List TaskReport
  deriving DecidableEq, Repr, Inhabited

/-- The report on a task that has a plan. -/
def Task.report? (task : Task) : Option TaskReport :=
  task.plan.map fun plan => {
    taskId := task.id
    description := task.description
    status := task.status
    selected := plan.selected.map (·.model)
    chunks := plan.chunkCount
    promptTokens := (plan.selected.map (·.promptTokens)).getD 0
    plan
    tokenCost := task.result.map (·.tokenCost)
    error := task.error }

/-- The report on the tasks with the given ids. -/
def report (q : Queue) (ids : List String) : WorkReport where
  dryRun := false
  tasks := ids.filterMap fun id => (q.get? id).bind Task.report?

/-- The report on what would be done with the pending tasks. Nothing is changed. -/
def preview (q : Queue) (settings : Route.Settings) : WorkReport where
  dryRun := true
  tasks := (q.list (some .pending)).filterMap fun task =>
    Task.report? { task with plan := some (task.request.job settings).plan }

namespace WorkReport

/-- How many of the tasks have a status. -/
def count (report : WorkReport) (status : Status) : Nat :=
  (report.tasks.filter (·.status = status)).length

/-- The estimated tokens of all prompts. -/
def promptTokens (report : WorkReport) : Nat :=
  Word.sum (report.tasks.map (·.promptTokens))

end WorkReport

/-- A task as data. -/
def Task.toNode (t : Task) : Node := .obj [
  ("id", .str t.id),
  ("description", .str t.description),
  ("package", t.package.toNode),
  ("candidate_models", .arr (t.candidates.map Model.Profile.toNode)),
  ("tags", .strs t.tags),
  ("status", .str t.status.name),
  ("enqueued_at", t.enqueuedAt.toNode),
  ("plan", .opt Route.Plan.toNode t.plan),
  ("result", .opt Route.Result.toNode t.result),
  ("error", .opt TaskError.toNode t.error)]

/-- A task report as data. -/
def TaskReport.toNode (r : TaskReport) : Node := .obj [
  ("task_id", .str r.taskId),
  ("description", .str r.description),
  ("status", .str r.status.name),
  ("selected_model", .opt .str r.selected),
  ("chunk_count", .nat r.chunks),
  ("estimated_prompt_tokens", .nat r.promptTokens),
  ("plan", r.plan.toNode),
  ("token_cost", .opt .nat r.tokenCost),
  ("error", .opt TaskError.toNode r.error)]

/-- A report as data. -/
def WorkReport.toNode (r : WorkReport) : Node := .obj [
  ("dry_run", .bool r.dryRun), ("tasks", .arr (r.tasks.map TaskReport.toNode))]

end Queue

end Switchboard
