import Switchboard.Call.Plan
import Switchboard.Error
import Switchboard.Model.Profile
import Switchboard.Route.Machine
import Switchboard.Scenario.Registry
import Switchboard.Tokens

/-!
# Configuration

The settings of one project, section by section, with the values they take when they are left out.
Only the place of the cache record and the root of the source tree have to be given.
-/

namespace Switchboard

namespace Config

open Switchboard.Data

/-- The patterns for the files of a source tree, where none are given. -/
def standardGlobs : List String := [
  "**/*.rs", "**/*.py", "**/*.ts", "**/*.tsx", "**/*.js", "**/*.go", "**/*.java", "**/*.kt",
  "**/*.c", "**/*.h", "**/*.cpp", "**/*.rb", "**/*.sh", "**/*.toml", "**/*.md"]

/-- Where the cache record is and what it is made from. -/
structure CacheSection where
  path : String := ""
  sourceRoot : String := ""
  includeGlobs : List String := standardGlobs
  excludeGlobs : List String := []
  /-- Whether links below the root are followed. A source tree is that of a section without. -/
  followSymlinks : Bool := false
  deriving DecidableEq, Repr, Inhabited

/-- The fields of the cache section. -/
def CacheSection.fields : List (RecordField CacheSection) := [
  .required "path" Reading.text fun s x => { s with path := x },
  .required "source_root" Reading.text fun s x => { s with sourceRoot := x },
  .defaulted "include_globs" (Reading.list Reading.text) fun s x => { s with includeGlobs := x },
  .defaulted "exclude_globs" (Reading.list Reading.text) fun s x => { s with excludeGlobs := x },
  .defaulted "follow_symlinks" Reading.flag fun s x => { s with followSymlinks := x }]

/-- The cache section as data. -/
def CacheSection.toNode (s : CacheSection) : Node := .obj [
  ("path", .str s.path),
  ("source_root", .str s.sourceRoot),
  ("include_globs", .strs s.includeGlobs),
  ("exclude_globs", .strs s.excludeGlobs),
  ("follow_symlinks", .bool s.followSymlinks)]

/-- How the source tree is indexed. -/
structure IndexerSection where
  kind : String := "builtin"
  command : List String := []
  timeoutSecs : Nat := 300
  deriving DecidableEq, Repr, Inhabited

/-- The fields of the indexer section. -/
def IndexerSection.fields : List (RecordField IndexerSection) := [
  .defaulted "kind" Reading.text fun s x => { s with kind := x },
  .defaulted "command" (Reading.list Reading.text) fun s x => { s with command := x },
  .defaulted "timeout_secs" Reading.word fun s x => { s with timeoutSecs := x }]

/-- The indexer section as data. -/
def IndexerSection.toNode (s : IndexerSection) : Node := .obj [
  ("kind", .str s.kind), ("command", .strs s.command), ("timeout_secs", .nat s.timeoutSecs)]

/-- How context packages are put together. -/
structure AssemblySection where
  charsPerToken : Nat := 4
  defaultScenario : String := "focused"
  deriving DecidableEq, Repr, Inhabited

/-- The fields of the assembly section. -/
def AssemblySection.fields : List (RecordField AssemblySection) := [
  .defaulted "chars_per_token" Reading.word fun s x => { s with charsPerToken := x },
  .defaulted "default_scenario" Reading.text fun s x => { s with defaultScenario := x }]

/-- The assembly section as data. -/
def AssemblySection.toNode (s : AssemblySection) : Node := .obj [
  ("chars_per_token", .nat s.charsPerToken), ("default_scenario", .str s.defaultScenario)]

/-- How tasks are routed. -/
structure RouterSection where
  policy : Route.RetryPolicy := {}
  responseMargin : Float := Call.standardMargin
  timeoutSecs : Nat := 120
  /-- Where attempts are logged, if they are. -/
  logPath : Option String := none
  deriving Repr, Inhabited

/-- The fields of the router section. -/
def RouterSection.fields : List (RecordField RouterSection) := [
  .defaulted "max_retries" Reading.word32 fun s x =>
    { s with policy := { s.policy with maxRetries := x } },
  .defaulted "backoff_base_ms" Reading.word fun s x =>
    { s with policy := { s.policy with backoffBaseMs := x } },
  .defaulted "response_margin" Reading.double fun s x => { s with responseMargin := x },
  .defaulted "timeout_secs" Reading.word fun s x => { s with timeoutSecs := x },
  .optional "log_path" Reading.text fun s x => { s with logPath := x }]

/-- The router section as data. -/
def RouterSection.toNode (s : RouterSection) : Node := .obj [
  ("max_retries", .nat s.policy.maxRetries),
  ("backoff_base_ms", .nat s.policy.backoffBaseMs),
  ("response_margin", .real s.responseMargin),
  ("timeout_secs", .nat s.timeoutSecs),
  ("log_path", .opt .str s.logPath)]

/-- How the queue is worked off. -/
structure QueueSection where
  concurrency : Nat := 1
  deriving DecidableEq, Repr, Inhabited

/-- The fields of the queue section. -/
def QueueSection.fields : List (RecordField QueueSection) := [
  .defaulted "concurrency" Reading.word fun s x => { s with concurrency := x }]

/-- The queue section as data. -/
def QueueSection.toNode (s : QueueSection) : Node := .obj [("concurrency", .nat s.concurrency)]

end Config

open Config in
/-- The configuration of a project. -/
structure Config where
  cache : CacheSection := {}
  indexer : IndexerSection := {}
  assembly : AssemblySection := {}
  /-- The configured scenarios in the order of their names. -/
  scenarios : List (String × Scenario.Spec) := []
  router : RouterSection := {}
  queue : QueueSection := {}
  models : List Model.Profile := []
  deriving Repr, Inhabited

namespace Config

open Switchboard.Data

/-- Puts named specs in the order of their names. -/
def sortedByName (specs : List (String × Scenario.Spec)) : List (String × Scenario.Spec) :=
  specs.foldl (fun sorted (name, spec) => Scenario.insertByName name spec sorted) []

/-- The fields of a configuration. -/
def fields : List (RecordField Config) := [
  .required "cache" (recordIn .toml CacheSection.fields {}) fun c x => { c with cache := x },
  .defaulted "indexer" (recordIn .toml IndexerSection.fields {}) fun c x => { c with indexer := x },
  .defaulted "assembly" (recordIn .toml AssemblySection.fields {}) fun c x => { c with assembly := x },
  .defaulted "scenarios" (Reading.map (Scenario.Spec.readIn .toml)) fun c x =>
    { c with scenarios := sortedByName x },
  .defaulted "router" (recordIn .toml RouterSection.fields {}) fun c x => { c with router := x },
  .defaulted "queue" (recordIn .toml QueueSection.fields {}) fun c x => { c with queue := x },
  .defaulted "models" (Reading.list (Model.Profile.readIn .toml)) fun c x => { c with models := x }]

/-- Reads a configuration. -/
def read : Reading Config := recordIn .toml fields {}

/-- The estimator of a configuration. -/
def estimator (c : Config) : Estimator := .ofRatio c.assembly.charsPerToken

/-- A configuration as data. -/
def toNode (c : Config) : Node := .obj [
  ("cache", c.cache.toNode),
  ("indexer", c.indexer.toNode),
  ("assembly", c.assembly.toNode),
  ("scenarios", .obj (c.scenarios.map fun (name, spec) => (name, spec.toNode))),
  ("router", c.router.toNode),
  ("queue", c.queue.toNode),
  ("models", .arr (c.models.map Model.Profile.toNode))]

/-- The scenarios of a configuration. -/
def registry (c : Config) : Except Error Scenario.Registry :=
  Scenario.Registry.withOverrides c.scenarios

end Config

end Switchboard
