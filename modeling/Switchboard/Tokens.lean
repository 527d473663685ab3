/-!
# Token estimates

The cost of a text is not counted by a tokenizer but estimated from its length: one token for
every started group of a fixed number of characters. Assembly and chunk planning share one
estimator, so their numbers agree.
-/

namespace Switchboard

/-- An estimator with a fixed number of characters per token, at least one. -/
structure Estimator where
  charsPerToken : Nat
  pos : 0 < charsPerToken

namespace Estimator

/-- The estimator for a ratio; zero counts as one. -/
def ofRatio (ratio : Nat) : Estimator :=
  ⟨max ratio 1, by omega⟩

/-- Four characters per token. -/
def standard : Estimator := ofRatio 4

instance : Inhabited Estimator := ⟨standard⟩

/-- The tokens of a number of characters: the quotient rounded up. -/
def ofLength (e : Estimator) (chars : Nat) : Nat :=
  (chars + (e.charsPerToken - 1)) / e.charsPerToken

/-- The estimated tokens of a text. -/
def estimate (e : Estimator) (text : String) : Nat :=
  e.ofLength text.length

end Estimator

end Switchboard
