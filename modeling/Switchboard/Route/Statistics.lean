import Switchboard.Route.Attempt

/-!
# Statistics of attempts

A summary of attempt records by model: how the attempts ended, how often a called model succeeded
and how long it took, and the tokens it used.
-/

namespace Switchboard.Route

open Switchboard.Data

/-- The attempts on one model. -/
structure ModelStats where
  model : String
  attempts : Nat := 0
  successes : Nat := 0
  transientFailures : Nat := 0
  capabilityFailures : Nat := 0
  skipped : Nat := 0
  cancelled : Nat := 0
  /-- The latencies of all attempts that reached a backend. -/
  latencyMs : Nat := 0
  tokens : Nat := 0
  deriving DecidableEq, Repr, Inhabited

namespace ModelStats

/-- Counts an attempt. -/
def add (stats : ModelStats) (attempt : Attempt) : ModelStats :=
  let stats := { stats with
    attempts := stats.attempts + 1
    tokens := Word.add stats.tokens attempt.tokenCost
    latencyMs := if attempt.outcome.wasCalled then Word.add stats.latencyMs attempt.latencyMs
      else stats.latencyMs }
  match attempt.outcome with
  | .success => { stats with successes := stats.successes + 1 }
  | .transient => { stats with transientFailures := stats.transientFailures + 1 }
  | .capability => { stats with capabilityFailures := stats.capabilityFailures + 1 }
  | .skipped => { stats with skipped := stats.skipped + 1 }
  | .cancelled => { stats with cancelled := stats.cancelled + 1 }

/-- The attempts that reached a backend. -/
def called (stats : ModelStats) : Nat :=
  stats.successes + stats.transientFailures + stats.capabilityFailures

/-- The attempts that failed. -/
def failed (stats : ModelStats) : Nat :=
  stats.transientFailures + stats.capabilityFailures

/-- A mean over the attempts that reached a backend; zero if there is none. -/
def perCall (stats : ModelStats) (total : Nat) : Float :=
  if stats.called = 0 then 0
  else (UInt64.ofNat total).toFloat / (UInt64.ofNat stats.called).toFloat

/-- The share of successes among the attempts that reached a backend. -/
def successRate (stats : ModelStats) : Float := stats.perCall stats.successes

/-- The mean latency of the attempts that reached a backend. -/
def meanLatencyMs (stats : ModelStats) : Float := stats.perCall stats.latencyMs

/-- Statistics as data. -/
def toNode (stats : ModelStats) : Node := .obj [
  ("model", .str stats.model),
  ("attempts", .nat stats.attempts),
  ("successes", .nat stats.successes),
  ("transient_failures", .nat stats.transientFailures),
  ("capability_failures", .nat stats.capabilityFailures),
  ("skipped", .nat stats.skipped),
  ("cancelled", .nat stats.cancelled),
  ("success_rate", .real stats.successRate),
  ("mean_latency_ms", .real stats.meanLatencyMs),
  ("total_tokens", .nat stats.tokens)]

end ModelStats

/-- Counts an attempt for its model in a list sorted by the names of models. -/
def countAttempt (attempt : Attempt) : List ModelStats → List ModelStats
  | [] => [ModelStats.add { model := attempt.model } attempt]
  | stats :: rest =>
      if attempt.model = stats.model then stats.add attempt :: rest
      else if attempt.model < stats.model then
        ModelStats.add { model := attempt.model } attempt :: stats :: rest
      else stats :: countAttempt attempt rest

/-- The statistics of a log, sorted by the names of the models. -/
def statistics (attempts : List Attempt) : List ModelStats :=
  attempts.foldl (fun stats attempt => countAttempt attempt stats) []

end Switchboard.Route
