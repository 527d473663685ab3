import Switchboard.Json.Printer
import Switchboard.Queue.Basic

/-!
# Progress of the queue

While the queue is worked off, an event is reported when a task is started and when it is
finished. Events are shown as lines for a reader, as lines of JSON, or not at all.
-/

namespace Switchboard.Queue

open Switchboard.Data

/-- What is reported while the queue is worked off. -/
inductive Progress where
  | started (taskId : String) (model : Option String) (chunks : Nat)
  | finished (taskId : String) (status : Status) (done remaining : Nat)
  deriving DecidableEq, Repr, Inhabited

/-- The start of a task, with the model and the calls its plan promises. -/
def Progress.ofPlan (taskId : String) (plan : Route.Plan) : Progress :=
  .started taskId (plan.selected.map (·.model)) plan.chunkCount

/-- The start of a task as data; nothing for another event. -/
def Progress.startNode? : Progress → Option Node
  | .started taskId model chunks => some (.obj [
      ("task", .str taskId),
      ("model", .opt .str model),
      ("chunks", .nat chunks)])
  | .finished .. => none

/-- The end of a task as data; nothing for another event. -/
def Progress.finishNode? : Progress → Option Node
  | .finished taskId status done remaining => some (.obj [
      ("task", .str taskId),
      ("status", .str status.name),
      ("done", .nat done),
      ("remaining", .nat remaining)])
  | .started .. => none

/-- How progress is shown. -/
inductive ProgressMode where
  | off
  | human
  | json
  deriving DecidableEq, Repr, Inhabited

namespace ProgressMode

/-- The mode with a name. The automatic mode shows nothing, because no terminal is attached. -/
def ofName? : String → Option ProgressMode
  | "auto" | "off" => some .off
  | "human" => some .human
  | "json" => some .json
  | _ => none

/-- The line of an event for a reader. -/
def humanLine : Progress → String
  | .started taskId model chunks =>
      let model := model.getD "-"
      s!"batch {Text.shortId taskId}  started  model={model} chunks={chunks}\n"
  | .finished taskId status done remaining =>
      s!"batch {Text.shortId taskId}  {status.name}  {Text.groupDigits done} done, " ++
        s!"{Text.groupDigits remaining} left\n"

/-- An event as data, the members in alphabetical order. -/
def eventNode : Progress → Node
  | .started taskId model chunks => .obj [
      ("chunks", .nat chunks),
      ("event", .str "progress"),
      ("model", .opt .str model),
      ("phase", .str "started"),
      ("task_id", .str taskId)]
  | .finished taskId status done remaining => .obj [
      ("done", .nat done),
      ("event", .str "progress"),
      ("phase", .str "finished"),
      ("remaining", .nat remaining),
      ("status", .str status.name),
      ("task_id", .str taskId)]

/-- What is shown of an event. -/
def render (mode : ProgressMode) (event : Progress) : String :=
  match mode with
  | .off => ""
  | .human => humanLine event
  | .json => Json.compact (eventNode event) ++ "\n"

end ProgressMode

end Switchboard.Queue
