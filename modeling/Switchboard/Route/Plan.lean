import Switchboard.Call.Plan
import Switchboard.Model.Ranking
import Switchboard.Tokens

/-!
# Route plans

A route plan says in advance how a task would be handed out: the candidate models in the order in
which they are tried, each with its call plan or the reason why it cannot take the package, and
the models that are passed over because their window is too small. Making a plan calls nobody.
-/

namespace Switchboard.Route

open Switchboard.Data
open Switchboard.Model (Profile Ranked)

/-- A task to be handed to one of several models. -/
structure Request where
  taskId : String
  description : String
  package : Package
  /-- The models the task may go to, as they were when the task was made. -/
  candidates : List Profile
  /-- Matched against the strengths of the models. -/
  tags : List String := []
  deriving Repr, Inhabited

/-- The decision about one ranked model. -/
structure Candidate where
  model : String := ""
  provider : String := ""
  strength : Nat := 0
  fitsWhole : Bool := true
  /-- How the package is sent, if the model can take it. -/
  plan : Option Call.Plan := none
  /-- Why the model cannot take it. -/
  rejection : Option Call.Rejection := none
  promptTokens : Nat := 0
  deriving DecidableEq, Repr, Inhabited

/-- The models of a task in the order in which they are tried. -/
structure Plan where
  taskId : String
  packageTokens : Nat
  descriptionTokens : Nat
  fragments : Nat
  candidates : List Candidate
  /-- The models whose window is too small and that take no chunks. -/
  filteredOut : List String
  deriving DecidableEq, Repr, Inhabited

namespace Plan

/-- The candidate that a run without failures uses. -/
def selected (plan : Plan) : Option Candidate :=
  plan.candidates.find? (·.plan.isSome)

/-- The number of calls that a run without failures makes. -/
def chunkCount (plan : Plan) : Nat :=
  ((plan.selected.bind (·.plan)).map Call.Plan.chunkCount).getD 0

end Plan

/-- The tokens charged to every prompt for the description of the task. -/
def descriptionTokens (estimator : Estimator) (description : String) : Nat :=
  estimator.estimate s!"# Task\n{description}\n\n# Context\n"

/-- The tokens of all prompts of a call plan. -/
def planTokens (descriptionTokens : Nat) : Call.Plan → Nat
  | .single promptTokens => promptTokens
  | .chunked chunks _ =>
      Word.sum (chunks.map fun chunk =>
        Word.add (Word.add chunk.tokens descriptionTokens) Call.headerTokens)

/-- The decision about one ranked model. -/
def Candidate.ofRanked (package : Package) (descriptionTokens : Nat) (margin : Float)
    (ranked : Ranked) : Candidate :=
  let base : Candidate := {
    model := ranked.profile.name
    provider := ranked.profile.provider
    strength := ranked.strength
    fitsWhole := ranked.fitsWhole }
  match Call.plan package ranked.profile descriptionTokens margin with
  | .ok plan => { base with plan := some plan, promptTokens := planTokens descriptionTokens plan }
  | .error rejection => { base with rejection := some rejection }

/-- Ranks the candidates of a request and plans the call of each. -/
def Request.plan (request : Request) (estimator : Estimator) (margin : Float) : Plan :=
  let package := request.package
  let description := descriptionTokens estimator request.description
  { taskId := request.taskId
    packageTokens := package.tokensUsed
    descriptionTokens := description
    fragments := package.fragments.length
    candidates := (Model.rank request.candidates package.tokensUsed request.tags).map
      (Candidate.ofRanked package description margin)
    filteredOut := (request.candidates.filter (!·.canTake package.tokensUsed)).map (·.name) }

/-! ## As data -/

/-- A candidate as data. -/
def Candidate.toNode (c : Candidate) : Node := .obj [
  ("model", .str c.model),
  ("provider", .str c.provider),
  ("strength_score", .nat c.strength),
  ("fits_whole", .bool c.fitsWhole),
  ("plan", .opt Call.Plan.toNode c.plan),
  ("rejection", .opt Call.Rejection.toNode c.rejection),
  ("estimated_prompt_tokens", .nat c.promptTokens)]

/-- A route plan as data. -/
def Plan.toNode (plan : Plan) : Node := .obj [
  ("task_id", .str plan.taskId),
  ("package_tokens", .nat plan.packageTokens),
  ("description_tokens", .nat plan.descriptionTokens),
  ("fragment_count", .nat plan.fragments),
  ("candidates", .arr (plan.candidates.map Candidate.toNode)),
  ("filtered_out", .strs plan.filteredOut)]

end Switchboard.Route
