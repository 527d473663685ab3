import Switchboard.Backend.Basic
import Switchboard.Url.Basic

/-!
# Chat completions

How a chat completion service is reached, what it answers, and what its failures mean: a timeout,
a rate limit and a fault of the server may pass, any other refusal does not.

No service can be reached without a network, so a request that could be sent fails on its way.
-/

namespace Switchboard.Backend.Chat

open Switchboard.Data

/-- What a status other than success means. -/
def kindOfStatus (status : Nat) : Route.FailureKind :=
  if status = 408 ∨ status = 429 ∨ 500 ≤ status ∧ status ≤ 599 then .transient else .capability

/-- The first element of a list node. -/
def first? : Node → Option Node
  | .arr (item :: _) => some item
  | _ => none

/-- The text of a string node. -/
def text? : Node → Option String
  | .str s => some s
  | _ => none

/-- The number of a node, if it is a whole number. -/
def count? : Node → Option Nat
  | .num (.nat n) => some n
  | _ => none

/-- The answer in the body of a response: the content of its first choice, and the tokens used if
they are given. -/
def readBody (body : Node) : Answer :=
  let content := do
    let choice ← (← body.get? "choices") |> first?
    let message ← choice.get? "message"
    (← message.get? "content") |> text?
  match content with
  | none => capability "response has no choices[0].message.content"
  | some text =>
      .ok ⟨text, (body.get? "usage").bind fun usage => (usage.get? "total_tokens").bind count?⟩

/-! ## Requests -/

/-- The address used where a profile gives none. -/
def standardEndpoint : String := "https://api.openai.com/v1/chat/completions"

/-- The variable with the key, where a profile names none. -/
def standardKeyVariable : String := "OPENAI_API_KEY"

/-- Whether a text can be sent in the head of a request. -/
def isSendable (text : String) : Bool :=
  text.toList.all fun c => c = '\t' || (c.toNat ≥ 32 && c.toNat ≠ 127)

/-- Why a request to an address fails where no service can be reached. The address is checked for a
host before the key, and for what can be sent to after it. -/
def refusal (key address : String) : String :=
  match Url.parse? address with
  | none => "builder error"
  | some url =>
      let target := url.withoutUser
      if !url.hasHost then s!"builder error for url ({url.text})"
      else if !isSendable key then "builder error"
      else if (url.scheme = "http" || url.scheme = "https") && target.isSendable then
        s!"error sending request for url ({target.text})"
      else s!"builder error for url ({target.text})"

/-- The answer to a prompt, given the variables of the environment. -/
def answer (environment : List (String × String)) (request : Request) : Answer :=
  let name := request.profile.apiKeyEnv.getD standardKeyVariable
  match environment.find? (·.1 = name) with
  | none => capability s!"{name} not set"
  | some (_, key) =>
      transient ("request failed: " ++ refusal key (request.profile.endpoint.getD standardEndpoint))

end Switchboard.Backend.Chat
