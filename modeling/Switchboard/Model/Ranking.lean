import Switchboard.Model.Profile

/-!
# Ranking models

For a package of a given size, the models that can take it, whole or in chunks, in the order in
which they are tried: the most matching strengths first, then the cheaper, then the faster, then
the caller's order.
-/

namespace Switchboard.Model

/-- A candidate in routing order. -/
structure Ranked where
  /-- The position among the caller's candidates. -/
  index : Nat
  profile : Profile
  strength : Nat
  /-- Whether the whole package fits the window. -/
  fitsWhole : Bool
  deriving DecidableEq, Repr

/-- Whether a model can take a package at all. -/
def Profile.canTake (p : Profile) (packageTokens : Nat) : Bool :=
  packageTokens ≤ p.maxContextTokens || p.supportsChunking

/-- The order of models by cost, then by latency. -/
def cheaperLe (a b : Profile) : Bool :=
  a.cost.level < b.cost.level ||
    (a.cost.level = b.cost.level && a.averageLatencyMs ≤ b.averageLatencyMs)

/-- The models by cost and latency; equals keep their order. -/
def cheapestFirst (profiles : List Profile) : List Profile :=
  profiles.mergeSort cheaperLe

/-- The routing order: strength, then cost, then latency, then the caller's order. -/
def Ranked.le (a b : Ranked) : Bool :=
  b.strength < a.strength ||
    (a.strength = b.strength &&
      (a.profile.cost.level < b.profile.cost.level ||
        (a.profile.cost.level = b.profile.cost.level &&
          (a.profile.averageLatencyMs < b.profile.averageLatencyMs ||
            (a.profile.averageLatencyMs = b.profile.averageLatencyMs && a.index ≤ b.index)))))

/-- The candidate at a position, ranked by itself. -/
def rankOne (packageTokens : Nat) (tags : List String) (index : Nat) (p : Profile) : Ranked :=
  ⟨index, p, p.strengthScore tags, packageTokens ≤ p.maxContextTokens⟩

/-- The candidates that can take a package, in routing order. -/
def rank (candidates : List Profile) (packageTokens : Nat) (tags : List String) : List Ranked :=
  ((candidates.zipIdx.filter fun (p, _) => p.canTake packageTokens).map fun (p, i) =>
    rankOne packageTokens tags i p).mergeSort Ranked.le

/-- A ranked candidate as data. -/
def Ranked.toNode (r : Ranked) : Data.Node := .obj [
  ("registry_index", .nat r.index),
  ("name", .str r.profile.name),
  ("strength_score", .nat r.strength),
  ("fits_whole", .bool r.fitsWhole)]

end Switchboard.Model
