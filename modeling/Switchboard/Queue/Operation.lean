import Switchboard.Queue.Basic

/-!
# Operations on the queue

What can be asked of a queue from outside, also while workers are busy with it, and the answer to
each question as data.
-/

namespace Switchboard.Queue

open Switchboard.Data

/-- A request to the queue. Statuses are given by their names. -/
inductive Operation where
  | enqueue (task : Task)
  | list (status : Option String)
  | get (id : String)
  | cancel (id : String)
  | purge (status : Option String)
  /-- The attempts on record, all of them or those of a task. -/
  | log (id : Option String)
  deriving Inhabited

/-- The status with a name that may be absent. -/
def statusFilter : Option String → Except Report (Option Status)
  | none => .ok none
  | some name => (Status.ofName name).map some

/-- What is shown of a task. -/
def Task.summary (task : Task) : Node := .obj [
  ("id", .str task.id),
  ("description", .str task.description),
  ("status", .str task.status.name),
  ("tags", .strs task.tags),
  ("planned", .bool task.plan.isSome),
  ("result", .opt Route.Result.toNode task.result),
  ("error", .opt TaskError.toNode task.error)]

/-- The ids of tasks with their statuses. -/
def statusNode (tasks : List Task) : Node :=
  .arr (tasks.map fun task => .arr [.str task.id, .str task.status.name])

/-- Carries out an operation, given the attempts on record. -/
def Operation.run (q : Queue) (records : List Route.Attempt) :
    Operation → Queue × Except Report Node
  | .enqueue task => (q.enqueue task, .ok (.obj [("id", .str task.id)]))
  | .list status =>
      (q, (statusFilter status).map fun status => .obj [("tasks", statusNode (q.list status))])
  | .get id => (q, .ok (.opt Task.summary (q.get? id)))
  | .cancel id =>
      let (q, status) := q.cancel id
      (q, .ok (.obj [("status", .opt (fun s : Status => .str s.name) status)]))
  | .purge status =>
      match statusFilter status with
      | .error report => (q, .error report)
      | .ok status =>
          let (q, removed) := q.purge status
          (q, .ok (.obj [("removed", .nat removed)]))
  | .log id =>
      let entries := match id with
        | some id => records.filter fun r : Route.Attempt => r.taskId = id
        | none => records
      (q, .ok (.obj [("entries", .arr (entries.map Route.Attempt.toNode))]))

/-- Carries out operations one after the other. -/
def Operation.runAll (q : Queue) (records : List Route.Attempt) :
    List Operation → Queue × List (Except Report Node)
  | [] => (q, [])
  | operation :: operations =>
      let (q, answer) := operation.run q records
      let (q, answers) := runAll q records operations
      (q, answer :: answers)

end Switchboard.Queue
