import Switchboard.Model.Profile
import Switchboard.Route.Attempt

/-!
# Backends

A backend serves the models of one provider. It takes one prompt at a time and answers with a
text, or with a failure that says whether another attempt may help. It never retries by itself.
-/

namespace Switchboard.Backend

open Switchboard.Data

/-- One prompt for a model. -/
structure Request where
  taskId : String
  profile : Model.Profile
  /-- The provider whose backend is called. -/
  provider : String := profile.provider
  prompt : String
  /-- The position of the prompt among those of the task, from zero on. -/
  chunk : Nat := 0
  chunkCount : Nat := 1
  deriving Repr, Inhabited

/-- The answer of a model. -/
structure Reply where
  text : String
  /-- The tokens used, if the backend knows. -/
  usage : Option Nat := none
  deriving DecidableEq, Repr, Inhabited

/-- What comes of a call. -/
abbrev Answer := Except Route.Failure Reply

/-- A failure that another attempt may make good. -/
def transient (message : String) : Answer := .error ⟨.transient, message⟩

/-- A failure that another attempt will not make good. -/
def capability (message : String) : Answer := .error ⟨.capability, message⟩

/-- An answer as data. -/
def answerNode : Answer → Node
  | .ok reply => .obj [("text", .str reply.text), ("usage_tokens", .opt .nat reply.usage)]
  | .error failure => .obj [
      ("failure", .str failure.kind.name), ("message", .str failure.message)]

/-! ## Providers -/

/-- The providers served without further configuration, in alphabetical order. -/
def builtinProviders : List String := ["command", "echo", "openai"]

/-- Adds a provider to a list in alphabetical order. -/
def addProvider (provider : String) : List String → List String
  | [] => [provider]
  | p :: providers =>
      if provider = p then p :: providers
      else if provider < p then provider :: p :: providers
      else p :: addProvider provider providers

end Switchboard.Backend
