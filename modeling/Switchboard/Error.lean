import Switchboard.Route.Attempt

/-!
# Errors

The causes of failure that the library tells apart, each with its wording and its stable kind, and
the reports that add context to a cause on its way to the user.

An empty context package is not an error, and neither is a failed call that a retry or another
model makes good.
-/

namespace Switchboard

/-- A cause of failure. -/
inductive Error where
  /-- The indexer gave no document. -/
  | indexing (reason : String)
  /-- The persisted cache record cannot be read. -/
  | unreadableRecord (path reason : String)
  /-- The indexer's document has a version that is not understood. -/
  | schemaVersion (found expected : Nat)
  /-- A model rejected the request or cannot serve it. -/
  | modelUnavailable (model reason : String)
  /-- A timeout or rate limit that outlived the retries. -/
  | delivery (model reason : String)
  /-- Every candidate model failed or was unsuitable. -/
  | exhausted (taskId : String) (tried : List String) (fragments : Nat) (lastError : String)
      (attempts : List Route.Attempt)
  /-- The task was cancelled; `partly` when finished chunks were dropped. -/
  | cancelled (taskId : String) (partly : Bool) (chunks : Nat)
  /-- The worker of a task stopped without an outcome. -/
  | aborted (taskId reason : String)
  | unknownScenario (name : String)
  | unknownModel (name : String)
  | config (reason : String)
  /-- An operation on a file failed. -/
  | io (reason : String)
  /-- A text is not JSON, or JSON of another shape. -/
  | json (fault : Data.Fault)
  deriving DecidableEq, Repr

/-- The stable kinds of causes. -/
inductive ErrorKind where
  | indexerFailure
  | cacheCorruption
  | modelUnavailable
  | transientDelivery
  | allModelsExhausted
  | cancelled
  | internal
  | config
  | io
  deriving DecidableEq, Repr, Inhabited

/-- The name of a kind. -/
def ErrorKind.name : ErrorKind → String
  | .indexerFailure => "indexer_failure"
  | .cacheCorruption => "cache_corruption"
  | .modelUnavailable => "model_unavailable"
  | .transientDelivery => "transient_delivery"
  | .allModelsExhausted => "all_models_exhausted"
  | .cancelled => "cancelled"
  | .internal => "internal"
  | .config => "config"
  | .io => "io"

namespace Error

/-- The kind of a cause. -/
def kind : Error → ErrorKind
  | .indexing _ => .indexerFailure
  | .unreadableRecord .. => .cacheCorruption
  | .schemaVersion .. => .config
  | .modelUnavailable .. => .modelUnavailable
  | .delivery .. => .transientDelivery
  | .exhausted .. => .allModelsExhausted
  | .cancelled .. => .cancelled
  | .aborted .. => .internal
  | .unknownScenario _ | .unknownModel _ | .config _ => .config
  | .io _ | .json _ => .io

/-- What a fault of a JSON text is called. -/
def faultText : Data.Fault → String
  | .malformed => "malformed text"
  | .shape => "unexpected shape"

/-- A cause in words. -/
def message : Error → String
  | .indexing reason => s!"indexer failure: {reason}"
  | .unreadableRecord path reason => s!"cache record at {path} is unreadable: {reason}"
  | .schemaVersion found expected =>
      s!"unsupported index schema_version {found} (expected {expected})"
  | .modelUnavailable model reason => s!"model '{model}' unavailable: {reason}"
  | .delivery model reason => s!"transient delivery error on '{model}': {reason}"
  | .exhausted taskId tried fragments lastError attempts =>
      s!"task {taskId}: all {tried.length} candidate model(s) exhausted after " ++
        s!"{attempts.length} attempt(s) ({fragments} fragments); last error: {lastError}"
  | .cancelled taskId partly _ => s!"task {taskId} cancelled (partial result: {partly})"
  | .aborted taskId reason => s!"task {taskId} worker aborted: {reason}"
  | .unknownScenario name => s!"unknown scenario '{name}'"
  | .unknownModel name => s!"unknown model '{name}'"
  | .config reason => s!"configuration error: {reason}"
  | .io reason => s!"IO error: {reason}"
  | .json fault => s!"JSON error: {faultText fault}"

/-- The attempts a cause carries. -/
def attempts : Error → List Route.Attempt
  | .exhausted _ _ _ _ attempts => attempts
  | _ => []

end Error

/-- What a report is finally about. -/
inductive Cause where
  | known (error : Error)
  /-- A document in TOML could not be read. -/
  | toml
  | other (message : String)
  deriving DecidableEq, Repr

/-- The wording of a cause by itself. -/
def Cause.message : Cause → String
  | .known error => error.message
  | .toml => "TOML parse error"
  | .other message => message

/-- A cause with the contexts it passed through, the outermost first. -/
structure Report where
  contexts : List String := []
  cause : Cause
  deriving DecidableEq, Repr

namespace Report

/-- A report of a message without further cause. -/
def ofMessage (message : String) : Report := ⟨[], .other message⟩

/-- A report of a known error. -/
def ofError (error : Error) : Report := ⟨[], .known error⟩

/-- The report inside a further context. -/
def within (context : String) (report : Report) : Report :=
  { report with contexts := context :: report.contexts }

/-- The texts of a report, the outermost context first and the cause last. -/
def chain (report : Report) : List String :=
  report.contexts ++ [report.cause.message]

/-- The whole report on one line. -/
def message (report : Report) : String :=
  ": ".intercalate report.chain

/-- The outermost text. -/
def headline (report : Report) : String :=
  report.chain.head?.getD ""

/-- A text whose further lines are indented. -/
def indented (indent text : String) : String :=
  ("\n" ++ indent).intercalate (text.splitOn "\n")

/-- The report as an error exit shows it: the outermost text, and the causes below it. -/
def display (report : Report) : String :=
  match report.chain with
  | [] => ""
  | [only] => s!"Error: {only}\n"
  | [outer, cause] => s!"Error: {outer}\n\nCaused by:\n    " ++ indented "    " cause ++ "\n"
  | outer :: causes =>
      s!"Error: {outer}\n\nCaused by:\n" ++ String.join (numbered 0 causes)
where
  /-- The causes with their numbers. -/
  numbered : Nat → List String → List String
    | _, [] => []
    | k, cause :: causes =>
        (s!"    {k}: " ++ indented "       " cause ++ "\n") :: numbered (k + 1) causes

end Report

/-- The missing file or directory of an operation on files. -/
def notFound : String := "No such file or directory (os error 2)"

/-- A file where a directory is needed. -/
def notDirectory : String := "Not a directory (os error 20)"

/-- A directory where a file is needed. -/
def isDirectory : String := "Is a directory (os error 21)"

end Switchboard
