import Switchboard.Queue.Operation
import Switchboard.Queue.Progress
import Switchboard.Text.Quoted

/-!
# Working off the queue

A shift works off the pending tasks of a queue with a bounded number of workers, in the time of a
clock that moves only while everybody waits. A task is claimed as soon as a permit is free; when
nothing is pending, the queue is looked at again only after a task was finished.

What the backends do is a parameter: for every call they say how long it takes and how it ends.
So a shift is one particular interleaving of the steps of its workers, the one in which things
happen in the order of the clock and, at the same moment, in the order of claiming. Operations
from outside come in one after the other, each at its time or as soon as those before it are done;
at the moment the shift begins they come right after the first tasks are claimed.
-/

namespace Switchboard.Queue

open Switchboard.Data

/-- How a call ends. -/
inductive Deed where
  | answer (answer : Backend.Answer)
  /-- It never ends. -/
  | hang
  /-- It takes the worker down with it. -/
  | crash (message : String)
  deriving Inhabited

/-- What a backend does with a call. -/
structure Play where
  delayMs : Nat := 0
  /-- The task that is cancelled after the delay. -/
  cancels : Option String := none
  deed : Deed

/-- The backends, with a state of their own: what is done with a call at a time. -/
abbrev Backends (σ : Type) := σ → Timestamp → Backend.Request → σ × Play

/-- A call, noted when it began. -/
structure CallRecord where
  /-- Since the shift began. -/
  clockMs : Nat
  request : Backend.Request
  /-- The calls under way at that moment, this one included. -/
  underWay : Nat

/-- The note of a call as data, with its prompt or only with the length of its prompt. -/
def CallRecord.toNode (withPrompt : Bool) (call : CallRecord) : Node := .obj ([
  ("t", .nat call.clockMs),
  ("task", .str call.request.taskId),
  ("model", .str call.request.profile.name),
  ("chunk", .nat call.request.chunk),
  ("of", .nat call.request.chunkCount),
  ("prompt_chars", .nat call.request.prompt.length)] ++
  if withPrompt then [("prompt", .str call.request.prompt)] else [])

/-- What is shown of a piece of work: the report, what was told on the way, the calls, the time it
took and the answers to the operations that came in. -/
def WorkReport.summary (report : WorkReport) (events : List Progress) (withPrompts : Bool)
    (calls : List CallRecord) (elapsedMs : Nat) (answers : List Node) : Node := .obj [
  ("report", report.toNode),
  ("succeeded", .nat (report.count .succeeded)),
  ("estimated_prompt_tokens", .nat report.promptTokens),
  ("started", .arr (events.filterMap Progress.startNode?)),
  ("finished", .arr (events.filterMap Progress.finishNode?)),
  ("calls", .arr (calls.map (CallRecord.toNode withPrompts))),
  ("max_in_flight", .nat ((calls.map (·.underWay)).foldl max 0)),
  ("elapsed_ms", .nat elapsedMs),
  ("during", .arr answers)]

/-- What a worker waits for. -/
inductive Waiting where
  /-- It has not begun. -/
  | nothing
  | call (dueMs : Nat) (play : Play)
  | forever
  | backoff (dueMs : Nat)

/-- A worker with a claimed task. -/
structure Worker where
  /-- The slot of the task. -/
  serial : Nat
  job : Route.Job
  run : Route.Run := {}
  waiting : Waiting := .nothing

/-- Whether a worker is in a call. -/
def Worker.inCall (worker : Worker) : Bool :=
  match worker.waiting with
  | .call .. | .forever => true
  | _ => false

/-- When a worker goes on by itself. -/
def Worker.due? (worker : Worker) : Option Nat :=
  match worker.waiting with
  | .call due _ | .backoff due => some due
  | _ => none

/-- The longest time a worker sleeps at once: thirty years. -/
def longestSleepMs : Nat := 30 * 365 * 86400 * 1000

/-- The largest number of workers. -/
def maxWorkers : Nat := 16

/-- The state of a shift. -/
structure Shift (σ : Type) where
  settings : Route.Settings
  queue : Queue
  backends : σ
  start : Timestamp
  clockMs : Nat := 0
  permits : Nat
  workers : List Worker := []
  /-- The tasks whose runs have ended and that are not settled yet. -/
  ended : List (String × Route.Ending) := []
  /-- The ends of all runs, in order. -/
  endings : List (String × Route.Ending) := []
  /-- Whether the queue has to be looked at. -/
  awake : Bool := true
  /-- The ids of the claimed tasks. -/
  claimed : List String := []
  /-- The attempts of this shift, after those already on record. -/
  log : List Route.Attempt := []
  /-- Writes a record down outside, which may fail. -/
  writeDown : Route.Attempt → σ → Except String σ := fun _ state => .ok state
  /-- What becomes of a worker that comes upon a cost that is no word. -/
  overflow : Route.Overflow := .wraps
  calls : List CallRecord := []
  events : List Progress := []
  /-- The operations that come in while the shift lasts, each with its time. -/
  incoming : List (Nat × Operation) := []
  /-- Whether operations come after what the workers do at the same moment. -/
  workersFirst : Bool := false
  /-- The answers to those carried out. -/
  answers : List (Except Report Node) := []
  /-- When the last task was finished. -/
  finishedMs : Option Nat := none

/-- The number of steps a run takes at most. -/
def stepBound (job : Route.Job) : Nat :=
  let calls := Word.total
    (job.plan.candidates.map fun c => (c.plan.map Call.Plan.chunkCount).getD 0)
  2 * (calls * (job.settings.policy.maxRetries + 1)) + 2

namespace Shift

variable {σ : Type}

/-- The time of the clock. -/
def now (shift : Shift σ) : Timestamp := shift.start.addMillis shift.clockMs

/-- Whether the task of a worker was told to stop. -/
def isStopped (shift : Shift σ) (worker : Worker) : Bool :=
  (shift.queue.slots.find? (·.serial = worker.serial)).any (·.stopped)

/-- Puts a record into the log and writes it down. One that cannot be written down stays in the
log all the same. -/
def enter (shift : Shift σ) (attempt : Route.Attempt) : Shift σ :=
  { shift with
    log := shift.log ++ [attempt]
    backends := match shift.writeDown attempt shift.backends with
      | .ok state => state
      | .error _ => shift.backends }

/-- Puts the new records of a run into the log, one after the other. -/
def record (shift : Shift σ) (before after : Route.Run) : Shift σ :=
  (after.attempts.drop before.attempts.length).foldl enter shift

/-- Replaces the worker with the same slot. -/
def putWorker (shift : Shift σ) (worker : Worker) : Shift σ :=
  { shift with
    workers := shift.workers.map fun w => if w.serial = worker.serial then worker else w }

/-- Takes a worker out whose run has ended. -/
def endWorker (shift : Shift σ) (worker : Worker) (ending : Route.Ending) : Shift σ :=
  { shift with
    workers := shift.workers.filter (·.serial ≠ worker.serial)
    ended := shift.ended ++ [(worker.job.request.taskId, ending)]
    endings := shift.endings ++ [(worker.job.request.taskId, ending)] }

/-- How a run ends that took its worker down. -/
def crashed (worker : Worker) (message : String) : Route.Ending :=
  .error (.aborted worker.job.request.taskId
    s!"task {worker.serial} panicked with message {Text.quoted message}")

/-- Notes the beginning of a call. -/
def noteCall (shift : Shift σ) (worker : Worker) (request : Backend.Request) : Shift σ :=
  let others := shift.workers.filter fun w => w.serial ≠ worker.serial && w.inCall
  { shift with
    calls := shift.calls ++ [⟨shift.clockMs, request, others.length + 1⟩] }

/-- Cancels the task that a call names. -/
def cancelNamed (shift : Shift σ) : Option String → Shift σ
  | some id => { shift with queue := (shift.queue.cancel id).1 }
  | none => shift

mutual

/-- Lets a worker go on until it waits or its run has ended. -/
def drive (backends : Backends σ) : Nat → Shift σ → Worker → Route.Step → Shift σ
  | 0, shift, _, _ => shift
  | fuel + 1, shift, worker, step =>
      match step with
      | .stop run ending =>
          (shift.record worker.run run).endWorker worker ending
      | .next run =>
          let shift := shift.record worker.run run
          let worker := { worker with run }
          drive backends fuel shift worker
            (run.proceed worker.job shift.now (shift.isStopped worker))
      | .wait run (.delay ms) =>
          let shift := shift.record worker.run run
          let worker := { worker with run }
          if ms = 0 then
            drive backends fuel shift worker (run.resume worker.job shift.now .elapsed)
          else shift.putWorker
            { worker with waiting := .backoff (shift.clockMs + min ms longestSleepMs) }
      | .wait run (.reply request) =>
          let shift := (shift.record worker.run run).noteCall worker request
          let worker := { worker with run }
          let (state, play) := backends shift.backends shift.now request
          let shift := { shift with backends := state }
          if play.delayMs = 0 then finishCall backends fuel shift worker play
          else shift.putWorker
            { worker with
              waiting := .call (shift.clockMs + min play.delayMs longestSleepMs) play }

/-- Ends a call whose delay is over. -/
def finishCall (backends : Backends σ) : Nat → Shift σ → Worker → Play → Shift σ
  | 0, shift, _, _ => shift
  | fuel + 1, shift, worker, play =>
      let shift := shift.cancelNamed play.cancels
      match play.deed with
      | .hang => shift.putWorker { worker with waiting := .forever }
      | .crash message => shift.endWorker worker (crashed worker message)
      | .answer answer =>
          match worker.run.resumeIn shift.overflow worker.job shift.now (.answered answer) with
          | .error message => shift.endWorker worker (crashed worker message)
          | .ok step => drive backends fuel shift worker step

end

/-- Lets a worker go on that has not begun, was told to stop, or whose time has come. -/
def advance (backends : Backends σ) (shift : Shift σ) (worker : Worker) : Shift σ :=
  let fuel := 3 * stepBound worker.job
  match worker.waiting with
  | .nothing =>
      drive backends fuel shift worker (.next (Route.Run.start worker.job shift.now))
  | .call _ play =>
      if shift.isStopped worker then
        drive backends fuel shift worker (worker.run.resume worker.job shift.now .cancelled)
      else finishCall backends fuel shift worker play
  | .forever =>
      drive backends fuel shift worker (worker.run.resume worker.job shift.now .cancelled)
  | .backoff _ =>
      drive backends fuel shift worker
        (worker.run.resume worker.job shift.now
          (if shift.isStopped worker then .cancelled else .elapsed))

/-- Whether a worker can go on now. -/
def isReady (shift : Shift σ) (worker : Worker) : Bool :=
  match worker.waiting with
  | .nothing => true
  | .call due _ | .backoff due => due ≤ shift.clockMs || shift.isStopped worker
  | .forever => shift.isStopped worker

/-- Settles a task whose run has ended, and frees its permit. -/
def settleOne (shift : Shift σ) (id : String) (ending : Route.Ending)
    (rest : List (String × Route.Ending)) : Shift σ :=
  let queue := shift.queue.settle id ending
  let (done, remaining) := queue.counts
  { shift with
    queue
    ended := rest
    permits := shift.permits + 1
    awake := true
    events := shift.events ++ [.finished id (endingStatus ending) done remaining] }

/-- Claims pending tasks, at most as many as the first argument says. -/
def claimTasks : Nat → Shift σ → Shift σ
  | 0, shift => shift
  | permits + 1, shift =>
      match shift.queue.claim with
      | none => shift
      | some (queue, slot) =>
          let job := slot.task.request.job shift.settings
          claimTasks permits { shift with
            queue := queue.setPlan slot.task.id job.plan
            permits
            claimed := shift.claimed ++ [slot.task.id]
            events := shift.events ++ [Progress.ofPlan slot.task.id job.plan]
            workers := shift.workers ++ [{ serial := slot.serial, job }] }

/-- Looks at the queue: claims what can be claimed, and ends the shift if nothing is left. -/
def lookAtQueue (shift : Shift σ) : Shift σ :=
  let shift := claimTasks shift.permits shift
  { shift with
    awake := false
    finishedMs := if shift.workers.isEmpty then some shift.clockMs else none }

/-- The next moment at which something happens. -/
def nextMs? (shift : Shift σ) : Option Nat :=
  (shift.workers.filterMap Worker.due? ++ (shift.incoming.head?.map (·.1)).toList).min?

/-- Carries out an operation that came in. -/
def operate (shift : Shift σ) (operation : Operation) (rest : List (Nat × Operation)) : Shift σ :=
  let (queue, answer) := operation.run shift.queue shift.log
  { shift with queue, incoming := rest, answers := shift.answers ++ [answer] }

/-- What the workers and the one who hands out their tasks do at this moment, if anything. -/
def work? (backends : Backends σ) (shift : Shift σ) : Option (Shift σ) :=
  match shift.workers.find? shift.isReady with
  | some worker => some (shift.advance backends worker)
  | none =>
      match shift.ended with
      | (id, ending) :: rest => some (shift.settleOne id ending rest)
      | [] => if shift.awake && shift.finishedMs.isNone then some shift.lookAtQueue else none

/-- Carries out the next operation if its time has come. -/
def operate? (shift : Shift σ) : Option (Shift σ) :=
  match shift.incoming with
  | (atMs, operation) :: rest =>
      if atMs ≤ shift.clockMs then some (shift.operate operation rest) else none
  | [] => none

/-- One step of a shift, none when nothing more can happen. An operation waits at most for the
queue to be looked at, unless the workers come first. -/
def step (backends : Backends σ) (shift : Shift σ) : Option (Shift σ) :=
  let now? := if shift.workersFirst || shift.awake then
      (shift.work? backends).or shift.operate?
    else shift.operate?.or (shift.work? backends)
  now?.or ((shift.nextMs?).map fun ms => { shift with clockMs := ms })

/-- Goes on until nothing more can happen. -/
def run (backends : Backends σ) : Nat → Shift σ → Shift σ
  | 0, shift => shift
  | fuel + 1, shift =>
      match shift.step backends with
      | none => shift
      | some shift => run backends fuel shift

/-- The number of steps a shift takes at most: those of the runs of all tasks it may claim. -/
def bound (shift : Shift σ) : Nat :=
  let jobs := shift.workers.map (·.job) ++ ((shift.queue.list none) ++
    shift.incoming.filterMap fun (_, operation) =>
      match operation with
      | .enqueue task => some task
      | _ => none).map fun task => task.request.job shift.settings
  Word.total (jobs.map fun job => 3 * stepBound job + 6) + 3 * shift.incoming.length + 3

/-- Goes on to the end. -/
def finish (backends : Backends σ) (shift : Shift σ) : Shift σ :=
  shift.run backends shift.bound

end Shift

/-- Works off the pending tasks of a queue, with sums checked, and writes down every attempt. -/
def workOffWritten (writeDown : Route.Attempt → σ → Except String σ) (backends : Backends σ)
    (state : σ) (settings : Route.Settings) (start : Timestamp) (q : Queue)
    (log : List Route.Attempt) (workers : Nat) (incoming : List (Nat × Operation)) : Shift σ :=
  Shift.finish backends {
    settings, queue := q, backends := state, start, log, writeDown, incoming
    overflow := .aborts, permits := min (max workers 1) maxWorkers }

/-- Works off the pending tasks of a queue. -/
def workOff (backends : Backends σ) (state : σ) (settings : Route.Settings) (start : Timestamp)
    (q : Queue) (log : List Route.Attempt) (workers : Nat) (incoming : List (Nat × Operation)) :
    Shift σ :=
  workOffWritten (fun _ state => .ok state) backends state settings start q log workers incoming

/-- What came of working off a queue, or of only saying what would be done. -/
structure Work (σ : Type) where
  queue : Queue
  backends : σ
  log : List Route.Attempt
  calls : List CallRecord := []
  report : WorkReport
  events : List Progress
  /-- When the work was over; none if it never is. -/
  finishedMs : Option Nat := some 0

/-- Works off the pending tasks of a queue, or only says what would be done. -/
def process (writeDown : Route.Attempt → σ → Except String σ) (backends : Backends σ) (state : σ)
    (settings : Route.Settings) (start : Timestamp) (q : Queue) (log : List Route.Attempt)
    (dryRun : Bool) (workers : Nat) : Work σ :=
  if dryRun then
    let report := q.preview settings
    { queue := q, backends := state, log, report
      events := report.tasks.map fun task => .ofPlan task.taskId task.plan }
  else
    let shift := workOffWritten writeDown backends state settings start q log workers []
    { queue := shift.queue, backends := shift.backends, log := shift.log, calls := shift.calls
      report := shift.queue.report shift.claimed
      events := shift.events
      finishedMs := shift.finishedMs }

/-- A shift for a single job, with sums not checked; `stopped` says whether it was told to stop
before it began, and `log` holds what is already on record. -/
def Shift.ofJob (writeDown : Route.Attempt → σ → Except String σ) (state : σ) (job : Route.Job)
    (start : Timestamp) (log : List Route.Attempt) (stopped : Bool)
    (incoming : List (Nat × Operation)) : Shift σ :=
  let task : Task := {
    id := job.request.taskId, description := job.request.description,
    package := job.request.package, candidates := job.request.candidates,
    tags := job.request.tags, status := .inFlight, plan := some job.plan }
  { settings := job.settings, queue := ⟨[⟨0, task, stopped⟩], 1⟩, backends := state, start
    permits := 0, workers := [{ serial := 0, job }], log, writeDown, incoming
    workersFirst := true }

/-- Runs a single job, with sums checked. -/
def workAlone (backends : Backends σ) (state : σ) (job : Route.Job) (start : Timestamp)
    (stopped : Bool) (incoming : List (Nat × Operation)) : Shift σ :=
  { Shift.ofJob (fun _ state => .ok state) state job start [] stopped incoming with
    overflow := .aborts }.finish backends

/-- The end of the run of a single job. -/
def Shift.endingOf (shift : Shift σ) (id : String) : Option Route.Ending :=
  (shift.endings.find? (·.1 = id)).map (·.2)

end Switchboard.Queue
