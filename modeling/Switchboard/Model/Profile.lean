import Switchboard.Text.Basic
import Switchboard.Data.Record

/-!
# Model profiles

What is known of a model before it is called: where it runs, how much context it takes, what it
costs, what it is good at and whether a package may be split over several calls.
-/

namespace Switchboard.Model

open Switchboard.Data

/-- How expensive a model is. -/
inductive Cost where
  | low
  | medium
  | high
  deriving DecidableEq, Repr, Inhabited

namespace Cost

/-- The name of a cost class. -/
def name : Cost → String
  | .low => "low"
  | .medium => "medium"
  | .high => "high"

/-- The cost class with a name. -/
def ofName? (name : String) : Option Cost := [low, medium, high].find? (·.name = name)

/-- The position of a cost class, the cheapest first. -/
def level : Cost → Nat
  | .low => 0
  | .medium => 1
  | .high => 2

end Cost

/-- The profile of a model. -/
structure Profile where
  /-- The unique name under which tasks ask for the model. -/
  name : String := ""
  /-- The key of the backend that serves it. -/
  provider : String := ""
  /-- The name the backend knows it by. -/
  model : String := ""
  maxContextTokens : Nat := 0
  cost : Cost := .low
  strengths : List String := []
  averageLatencyMs : Nat := 0
  supportsChunking : Bool := false
  maxOutputTokens : Option Nat := none
  endpoint : Option String := none
  apiKeyEnv : Option String := none
  command : Option (List String) := none
  deriving DecidableEq, Repr, Inhabited

namespace Profile

/-- A share of the window, brought between zero and one. -/
def clampShare (share : Float) : Float :=
  if share < 0 then 0 else if share > 1 then 1 else share

/-- The least whole number that is not below a float of at most the size of a word. -/
def roundUp (x : Float) : Nat :=
  let whole := x.toUInt64
  if whole.toFloat < x then whole.toNat + 1 else whole.toNat

/-- The tokens kept free for the response: the given share of the window, rounded up. A share that
is a whole number of tokens but for rounding is not rounded up further. -/
def reservedTokens (p : Profile) (margin : Float) : Nat :=
  roundUp ((UInt64.ofNat p.maxContextTokens).toFloat * clampShare margin - 1e-9)

/-- The tokens left for the prompt. -/
def usableWindow (p : Profile) (margin : Float) : Nat :=
  p.maxContextTokens - p.reservedTokens margin

/-- How many of the tags are among the model's strengths. -/
def strengthScore (p : Profile) (tags : List String) : Nat :=
  (tags.filter fun tag => p.strengths.any (Text.sameIgnoringCase · tag)).length

/-- The fields of a profile. -/
def fields (dialect : Dialect) : List (RecordField Profile) := [
  .required "name" Reading.text fun p x => { p with name := x },
  .required "provider" Reading.text fun p x => { p with provider := x },
  .defaulted "model" Reading.text fun p x => { p with model := x },
  .required "max_context_tokens" Reading.word fun p x => { p with maxContextTokens := x },
  .required "cost_class" (Reading.oneOfIn dialect Cost.ofName?) fun p x => { p with cost := x },
  .defaulted "strengths" (Reading.list Reading.text) fun p x => { p with strengths := x },
  .defaulted "average_latency_ms" Reading.word fun p x => { p with averageLatencyMs := x },
  .defaulted "supports_chunking" Reading.flag fun p x => { p with supportsChunking := x },
  .optional "max_output_tokens" Reading.word fun p x => { p with maxOutputTokens := x },
  .optional "endpoint" Reading.text fun p x => { p with endpoint := x },
  .optional "api_key_env" Reading.text fun p x => { p with apiKeyEnv := x },
  .optional "command" (Reading.list Reading.text) fun p x => { p with command := x }]

/-- Reads a profile of a document in the given format. -/
def readIn (dialect : Dialect) : Reading Profile := recordIn dialect (fields dialect) {}

/-- Reads a profile of a JSON document. -/
def read : Reading Profile := readIn .json

/-- A profile as data. -/
def toNode (p : Profile) : Node := .obj [
  ("name", .str p.name),
  ("provider", .str p.provider),
  ("model", .str p.model),
  ("max_context_tokens", .nat p.maxContextTokens),
  ("cost_class", .str p.cost.name),
  ("strengths", .strs p.strengths),
  ("average_latency_ms", .nat p.averageLatencyMs),
  ("supports_chunking", .bool p.supportsChunking),
  ("max_output_tokens", .opt .nat p.maxOutputTokens),
  ("endpoint", .opt .str p.endpoint),
  ("api_key_env", .opt .str p.apiKeyEnv),
  ("command", .opt .strs p.command)]

end Profile

end Switchboard.Model
