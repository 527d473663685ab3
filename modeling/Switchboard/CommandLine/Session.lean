import Switchboard.CommandLine.Arguments
import Switchboard.CommandLine.LogReport
import Switchboard.CommandLine.Tables
import Switchboard.Engine
import Switchboard.Queue.Progress

/-!
# One call of the program

A call reads its arguments, loads the configuration, starts the engine and carries out a command.
What it prints and how it exits is a function of the arguments and of the world it finds.
-/

namespace Switchboard.CommandLine

open Switchboard.Queue (BatchEntry ContextQuery ProgressMode)

/-- What a call printed and how it exited. -/
structure Output where
  code : Nat := 0
  out : String := ""
  err : String := ""
  deriving DecidableEq, Repr, Inhabited

/-- Lines of a text. -/
def linesText (lines : List String) : String :=
  String.join (lines.map (· ++ "\n"))

namespace Output

/-- A call that printed lines. -/
def ofLines (lines : List String) : Output := { out := linesText lines }

/-- A call that printed data. -/
def ofNode (node : Data.Node) : Output := { out := Json.pretty node ++ "\n" }

/-- The output of a call that failed in the end. -/
def failing (output : Output) (report : Report) : Output :=
  { output with code := 1, err := output.err ++ report.display }

/-- A call that failed. -/
def ofReport (report : Report) : Output := failing {} report

end Output

/-- The name and the version of the program. -/
def versionText : String := "relay 0.3.0\n"

/-- What is said to a call that makes no sense. -/
def usageText : String :=
  "Usage: relay [--config <PATH>] <index|status|search|context|delegate|batch|models|log>\n"

/-! ## Commands -/

/-- Builds the index, or keeps the one there is. -/
def runIndex (engine : Engine) (world : World) (force : Bool) : World × Output :=
  let engine := if force then { engine with cache := engine.cache.invalidate } else engine
  match engine.lookUp world with
  | (_, world, .error report) => (world, .ofReport report)
  | (_, world, .ok found) =>
      let label := originText found.origin
      let count := found.record.document.modules.length
      let warning := match found.origin with
        | .stale reason =>
            s!"warning: indexer failed, serving previous index: {reason}\n"
        | _ => ""
      (world, {
        out := s!"{label}: {count} modules, fingerprint " ++
          Text.shortId found.record.fingerprint ++ "\n"
        err := warning })

/-- Shows the state of the cache. -/
def runStatus (engine : Engine) (world : World) : Output :=
  match engine.cache.tree.fingerprint world.disk with
  | .error report => .ofReport report
  | .ok fingerprint => .ofLines (cacheLines engine.cache fingerprint)

/-- Searches the index. -/
def runSearch (engine : Engine) (world : World) (query : String) (limit : Nat) (json : Bool) :
    World × Output :=
  match engine.lookUp world with
  | (_, world, .error report) => (world, .ofReport report)
  | (_, world, .ok found) =>
      let hits := found.record.document.search query limit engine.config.estimator
      let output :=
        if json then Output.ofNode (.arr (hits.map Index.Hit.toNode))
        else if hits.isEmpty then .ofLines ["No modules match \"" ++ query ++ "\"."]
        else .ofLines (hits.map hitLine)
      (world, output)

/-- The lines on a package: how full it is, and what could be done about it. -/
def packageLines (p : Package) : List String :=
  let summary :=
    s!"{p.scenario}: {p.fragments.length} fragments, {p.tokensUsed} / {p.budget} tokens, " ++
      s!"{p.rejected.length} rejected ({p.rejectedTokens} tokens)"
  summary :: p.suggestions.map ("hint: " ++ ·)

/-- Assembles a package. -/
def runContext (engine : Engine) (world : World) (query : ContextQuery) (json : Bool) :
    World × Output :=
  match engine.context world query with
  | (_, world, .error report) => (world, .ofReport report)
  | (_, world, .ok outcome) =>
      let p := outcome.package
      let shown := if json then Json.pretty p.toNode else p.render
      (world, { out := shown ++ "\n", err := linesText (packageLines p) })

/-- What is shown of a task that was worked on. -/
def taskOutput (task : Queue.Task) (json : Bool) : Output :=
  let shown : Output :=
    if json then .ofNode task.toNode
    else
      match task.result with
      | some result => {
          out := result.output ++ "\n"
          err := s!"{result.model}: {result.chunks} chunk(s), {result.tokenCost} tokens, " ++
            s!"{result.wallTimeMs} ms\n" }
      | none => {}
  match task.error with
  | some error => shown.failing (.ofMessage error.message)
  | none =>
      if task.status = .succeeded then shown
      else
        shown.failing (.ofMessage
          s!"task {task.id} ended {task.status.name} without a result")

/-- Hands out a single task. -/
def runDelegate (engine : Engine) (world : World) (entry : BatchEntry) (dryRun json : Bool) :
    World × Output :=
  match engine.runBatch world [entry] dryRun 1 with
  | (_, world, .error report) => (world, .ofReport report)
  | (_, world, .ok (work, ids)) =>
      if dryRun then
        if json then (world, .ofNode work.report.toNode)
        else (world, .ofLines ((work.report.tasks.head?.map fun t => planLines t.plan).getD []))
      else
        let id := ids.head?.getD ""
        match work.queue.get? id with
        | none => (world, .ofReport (.ofMessage s!"task {id} vanished from the queue"))
        | some task => (world, taskOutput task json)

/-- The tasks of a batch that did not succeed. -/
def failedCount (report : Queue.WorkReport) : Nat :=
  if report.dryRun then 0 else report.tasks.length - report.count .succeeded

/-- Works off the tasks of a file. -/
def runBatch (engine : Engine) (world : World) (file : String) (dryRun : Bool)
    (concurrency : Option Nat) (progress : String) (json : Bool) : World × Output :=
  match ProgressMode.ofName? progress with
  | none => (world, .ofReport (.ofMessage "--progress must be one of auto, human, json, off"))
  | some mode =>
      match Queue.loadBatch world.disk file with
      | .error report => (world, .ofReport report)
      | .ok entries =>
          let workers := concurrency.getD engine.config.queue.concurrency
          match engine.runBatch world entries dryRun workers with
          | (_, world, .error report) => (world, .ofReport report)
          | (_, world, .ok (work, _)) =>
              let shown : Output :=
                if json then .ofNode work.report.toNode else .ofLines (batchLines work.report)
              let shown := { shown with err := String.join (work.events.map mode.render) }
              let failed := failedCount work.report
              if failed = 0 then (world, shown)
              else
                (world, shown.failing (.ofMessage
                  s!"{failed} of {work.report.tasks.length} task(s) did not succeed"))

/-- Lists the models. -/
def runModels (engine : Engine) : Output :=
  let models := Model.cheapestFirst engine.models.profiles
  if models.isEmpty then .ofLines ["No models configured."]
  else .ofLines (modelHeader :: models.map modelLine)

/-- Carries out a command that needs the engine. -/
def runCommand (engine : Engine) (world : World) : Command → World × Output
  | .index force => runIndex engine world force
  | .status => (world, runStatus engine world)
  | .search query limit json => runSearch engine world query limit json
  | .context query json => runContext engine world query json
  | .delegate entry dryRun json => runDelegate engine world entry dryRun json
  | .batch file dryRun concurrency progress json =>
      runBatch engine world file dryRun concurrency progress json
  | .models => (world, runModels engine)
  | .logStats _ => (world, {})

/-! ## Calls -/

/-- Carries out a command with the configuration at a path. -/
def runConfigured (taskId : Nat → String) (world : World) (path : String) (command : Command) :
    World × Output :=
  match Config.load world.disk path with
  | .error report => (world, .ofReport report)
  | .ok config =>
      match command with
      | .logStats json =>
          match logReport world.disk world.now config json with
          | .ok text => (world, { out := text })
          | .error report => (world, .ofReport report)
      | command =>
          match Engine.start config taskId world with
          | (world, .error report) => (world, .ofReport report)
          | (world, .ok engine) => runCommand engine world command

/-- One call of the program with its arguments. -/
def run (taskId : Nat → String) (world : World) (arguments : List String) : World × Output :=
  match readRequest arguments with
  | .version => (world, { out := versionText })
  | .help => (world, { out := usageText })
  | .misuse => (world, { code := 2, err := usageText })
  | .run path command => runConfigured taskId world path command

end Switchboard.CommandLine
