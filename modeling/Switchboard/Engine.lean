import Switchboard.Backend.Chat
import Switchboard.Backend.Command
import Switchboard.Backend.Echo
import Switchboard.Cache.Basic
import Switchboard.Config.Validation
import Switchboard.Model.Registry
import Switchboard.Package.Assembly
import Switchboard.Queue.Batch
import Switchboard.Queue.Shift
import Switchboard.Route.Log

/-!
# The engine

Everything that belongs to one configured project: its cache, its scenarios, its models and the
log of its attempts. The engine answers requests for context, prepares tasks and works them off.
-/

namespace Switchboard

open Switchboard.Queue (Backends ContextQuery BatchEntry Task Work)

/-- What is outside of the engine: the disk, the time and the variables of the environment. -/
structure World where
  disk : Disk
  now : Timestamp
  environment : List (String × String) := []

/-- The state of a project. -/
structure Engine where
  config : Config
  indexer : Source.Indexer
  scenarios : Scenario.Registry
  models : Model.Registry
  cache : Cache
  /-- The attempts since the engine was started. -/
  log : List Route.Attempt := []
  /-- The ids of the tasks it makes. -/
  taskId : Nat → String
  /-- How many tasks it has made. -/
  made : Nat := 0

namespace Engine

/-! ## Starting -/

/-- Opens the log file of a configuration: it and its directory are there afterwards. -/
def openLog (disk : Disk) : Option String → Disk × Except Report Unit
  | none => (disk, .ok ())
  | some path =>
      let made : Except (Report × Disk) Disk := match Path.parent? path with
        | none => .ok disk
        | some parent =>
            (disk.makeDirectories parent).mapError fun (reason, disk) =>
              (Report.within s!"Failed to create {parent}" (.ofMessage reason), disk)
      match made with
      | .error (report, disk) => (disk, .error report)
      | .ok disk =>
          match disk.write path ((disk.read path).toOption.getD []) with
          | .ok disk => (disk, .ok ())
          | .error reason =>
              (disk, .error (Report.within s!"Failed to open delegation log {path}"
                (.ofMessage reason)))

/-- The parts of an engine that do not depend on its log. -/
def assembleParts (config : Config) (indexer : Source.Indexer) (taskId : Nat → String)
    (disk : Disk) : Except Report Engine := do
  let scenarios ← config.registry.mapError Report.ofError
  let cache ← Cache.openAt config.cache.path config.cache.sourceRoot config.cache.includeGlobs
    config.cache.excludeGlobs disk
  return { config, indexer, scenarios, models := ⟨config.models⟩, cache, taskId }

/-- Starts an engine with a given indexer. -/
def startWith (config : Config) (indexer : Source.Indexer) (taskId : Nat → String)
    (world : World) : World × Except Report Engine :=
  match assembleParts config indexer taskId world.disk with
  | .error report => (world, .error report)
  | .ok engine =>
      let (disk, opened) := openLog world.disk config.router.logPath
      ({ world with disk }, opened.map fun _ => engine)

/-- The configured indexer. -/
def indexerOf (config : Config) (environment : List (String × String)) :
    Except Report Source.Indexer :=
  Source.Indexer.create config.indexer.kind config.indexer.command
    (1000 * config.indexer.timeoutSecs) environment

/-- Starts an engine with the configured indexer. -/
def start (config : Config) (taskId : Nat → String) (world : World) :
    World × Except Report Engine :=
  match indexerOf config world.environment with
  | .error report => (world, .error report)
  | .ok indexer => startWith config indexer taskId world

/-! ## Context -/

/-- A package, and how the index behind it was come by. -/
structure Outcome where
  package : Package
  origin : Cache.Origin

/-- The outcome of a request as data, with hints on how to do better. -/
def Outcome.toNode (outcome : Outcome) : Data.Node := .obj [
  ("cache", outcome.origin.toNode),
  ("package", outcome.package.toNode),
  ("suggestions", .strs outcome.package.suggestions)]

/-- An index that is valid now. -/
def lookUp (engine : Engine) (world : World) :
    Engine × World × Except Report Cache.Found :=
  let (site, found) := Cache.getOrBuild engine.indexer world.now ⟨world.disk, engine.cache⟩
  ({ engine with cache := site.cache }, { world with disk := site.disk }, found)

/-- Assembles a package from an index that is valid now. -/
def context (engine : Engine) (world : World) (query : ContextQuery) :
    Engine × World × Except Report Outcome :=
  let name := query.scenario.getD engine.config.assembly.defaultScenario
  match engine.scenarios.get name with
  | .error error => (engine, world, .error (.ofError error))
  | .ok scenario =>
      let (engine, world, found) := engine.lookUp world
      (engine, world, found.map fun found => {
        package := Package.assemble engine.config.estimator scenario found.record.document
          ⟨query.query, query.activeFile⟩
        origin := found.origin })

/-! ## Tasks -/

/-- Prepares a task: the models as they are now, and a context package. -/
def prepareTask (engine : Engine) (world : World) (entry : BatchEntry) :
    Engine × World × Except Report Task :=
  match engine.models.candidates entry.models with
  | .error error => (engine, world, .error (.ofError error))
  | .ok candidates =>
      match engine.context world entry.context with
      | (engine, world, .error report) => (engine, world, .error report)
      | (engine, world, .ok outcome) =>
          ({ engine with made := engine.made + 1 }, world, .ok {
            id := engine.taskId engine.made
            description := entry.description
            package := outcome.package
            candidates
            tags := entry.tags
            enqueuedAt := world.now })

/-- Puts a task into a queue for every entry, up to the first entry that fails. -/
def enqueueBatch (engine : Engine) (world : World) (queue : Queue) (ids : List String) :
    List BatchEntry → Engine × World × Queue × Except Report (List String)
  | [] => (engine, world, queue, .ok ids)
  | entry :: entries =>
      match engine.prepareTask world entry with
      | (engine, world, .error report) => (engine, world, queue, .error report)
      | (engine, world, .ok task) =>
          enqueueBatch engine world (queue.enqueue task) (ids ++ [task.id]) entries

/-- The settings under which tasks are routed. -/
def settings (engine : Engine) : Route.Settings where
  policy := engine.config.router.policy
  margin := engine.config.router.responseMargin
  estimator := engine.config.estimator
  providers := Backend.builtinProviders

/-- The backends, each under the name of its provider. -/
def backends (timeoutMs : Nat) (environment : List (String × String)) : Backends Disk :=
  fun disk _ request =>
    match request.provider with
    | "echo" => (disk, { deed := .answer (Backend.Echo.answer request) })
    | "command" =>
        let (disk, delayMs, answer) := Backend.Command.call timeoutMs environment disk request
        (disk, { delayMs, deed := .answer answer })
    | _ => (disk, { deed := .answer (Backend.Chat.answer environment request) })

/-- Adds the line of an attempt to the log file, if there is one. -/
def appendLog (path : Option String) (attempt : Route.Attempt) (disk : Disk) :
    Except String Disk :=
  match path with
  | none => .ok disk
  | some path => do
      let content ← disk.read path
      disk.write path (Route.Log.append content attempt)

/-- Works off a queue, or only says what would be done. -/
def process (engine : Engine) (world : World) (queue : Queue) (dryRun : Bool) (workers : Nat) :
    Engine × World × Work Disk :=
  let work := Queue.process (appendLog engine.config.router.logPath)
    (backends (1000 * engine.config.router.timeoutSecs) world.environment) world.disk
    engine.settings world.now queue engine.log dryRun workers
  ({ engine with log := work.log }, { world with disk := work.backends }, work)

/-- Works off the tasks of a batch in a queue of their own. Nothing is worked off when an entry
cannot be prepared. -/
def runBatch (engine : Engine) (world : World) (entries : List BatchEntry) (dryRun : Bool)
    (workers : Nat) : Engine × World × Except Report (Work Disk × List String) :=
  match engine.enqueueBatch world {} [] entries with
  | (engine, world, _, .error report) => (engine, world, .error report)
  | (engine, world, queue, .ok ids) =>
      let (engine, world, work) := engine.process world queue dryRun workers
      (engine, world, .ok (work, ids))

end Engine

end Switchboard
