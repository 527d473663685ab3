import Switchboard.Config.Basic
import Switchboard.Disk.Basic
import Switchboard.Toml.Reader

/-!
# Loading a configuration

A configuration is read from a file, the paths in it are taken from the directory of that file,
and then it is checked section by section. Of several mistakes the first one is reported.
-/

namespace Switchboard.Config

/-- The providers that models can have. -/
def knownProviders : List String := ["openai", "command", "echo"]

/-- A report of a mistake. -/
def mistake (message : String) : Except Report Unit := .error (.ofMessage message)

/-! ## Checks -/

/-- Checks the assembly of packages. -/
def checkAssembly (c : Config) : Except Report Unit :=
  if c.assembly.charsPerToken = 0 then mistake "assembly.chars_per_token must be > 0" else .ok ()

/-- Checks that the scenarios compile, and that the default one is among them. -/
def checkScenarios (c : Config) : Except Report Unit :=
  match c.registry with
  | .error error => .error (.ofError error)
  | .ok registry =>
      match registry.get c.assembly.defaultScenario with
      | .ok _ => .ok ()
      | .error error => .error (Report.within "assembly.default_scenario" (.ofError error))

/-- Checks the kind of the indexer. -/
def checkIndexer (c : Config) : Except Report Unit :=
  match c.indexer.kind with
  | "builtin" => .ok ()
  | "command" =>
      if c.indexer.command.isEmpty then
        mistake "indexer.command must be set when indexer.kind = \"command\""
      else .ok ()
  | kind => mistake s!"Unknown indexer kind: '{kind}'. Must be builtin or command."

/-- Checks the numbers of the router. -/
def checkRouter (c : Config) : Except Report Unit :=
  if !(0.0 ≤ c.router.responseMargin && c.router.responseMargin < 0.9) then
    mistake "router.response_margin must be in [0.0, 0.9)"
  else if c.router.timeoutSecs = 0 then mistake "router.timeout_secs must be > 0"
  else .ok ()

/-- Checks the number of workers. -/
def checkQueue (c : Config) : Except Report Unit :=
  if 1 ≤ c.queue.concurrency ∧ c.queue.concurrency ≤ 16 then .ok ()
  else mistake "queue.concurrency must be between 1 and 16"

/-- Checks one model, given the names of those before it. -/
def checkModel (seen : List String) (m : Model.Profile) : Except Report Unit :=
  if m.name ∈ seen then mistake s!"models: duplicate model name '{m.name}'"
  else if m.maxContextTokens = 0 then mistake s!"models.{m.name}.max_context_tokens must be > 0"
  else if m.provider ∉ knownProviders then
    let known := Text.join ", " knownProviders
    mistake s!"models.{m.name}: unknown provider '{m.provider}'. Must be one of: {known}"
  else if m.provider = "command" ∧ (m.command.getD []).isEmpty then
    mistake s!"models.{m.name}: provider 'command' requires command = [..]"
  else .ok ()

/-- Checks models one after the other. -/
def checkModels (seen : List String) : List Model.Profile → Except Report Unit
  | [] => .ok ()
  | m :: models => do
      checkModel seen m
      checkModels (m.name :: seen) models

/-- Checks a configuration. -/
def validate (c : Config) : Except Report Unit := do
  checkAssembly c
  checkScenarios c
  checkIndexer c
  checkRouter c
  checkQueue c
  checkModels [] c.models

/-! ## Loading -/

/-- The configuration with its paths seen from a directory. -/
def resolveAgainst (base : String) (c : Config) : Config :=
  { c with
    cache := { c.cache with
      path := Path.join base c.cache.path
      sourceRoot := Path.join base c.cache.sourceRoot }
    router := { c.router with logPath := c.router.logPath.map (Path.join base) } }

/-- Reads the text of a configuration that lies in a directory, and checks it. -/
def parse (base : Option String) (text : String) : Except Report Config := do
  let c ← (Toml.decode read text).mapError fun cause =>
    Report.within "Failed to parse config file" ⟨[], cause⟩
  let c := match base with
    | some base => resolveAgainst base c
    | none => c
  validate c
  return c

/-- Loads a configuration from a file. -/
def load (disk : Disk) (path : String) : Except Report Config := do
  let text ← (disk.readText path).mapError fun reason =>
    Report.within s!"Failed to read config file: {path}" (.ofMessage reason)
  parse (Path.parent? path) text

end Switchboard.Config
