import Switchboard.Index.Rendering
import Switchboard.Package.Basic
import Switchboard.Text.Alphanumeric
import Switchboard.Text.Lowercase
import Switchboard.Tokens

/-!
# Keyword search

A query is split into lower-case terms. Each term scores a module: four points if a symbol or its
last word is the term, three if a symbol only contains it, two if the path contains it, one if the
summary does. Hits are ordered by score, then smaller modules first, then by path.
-/

namespace Switchboard.Index

open Switchboard.Package (Fragment)

/-! ## Terms -/

/-- Whether a character may stand inside a term: letters, digits and the marks of names and
paths. -/
def isTermChar (c : Char) : Bool :=
  Text.isAlphanumeric c || c = '_' || c = '.' || c = '/' || c = '-' || c = ':'

/-- Whether a character is dropped at the ends of a term. -/
def isTermEdge (c : Char) : Bool :=
  c = '.' || c = '-' || c = ':'

/-- Drops every element that equals the one before it. -/
def dropRepeats [DecidableEq α] : List α → List α
  | [] => []
  | [a] => [a]
  | a :: b :: rest => if a = b then dropRepeats (b :: rest) else a :: dropRepeats (b :: rest)

/-- The terms of a query. -/
def queryTerms (query : String) : List String :=
  let pieces := Text.splitChars (!isTermChar ·) query.toList
  let terms := (pieces.map (Text.trimChars isTermEdge)).filter (!·.isEmpty)
  dropRepeats (terms.map fun term => Text.lowercase (String.ofList term))

/-! ## Scores -/

/-- The last of the words of a text that single blanks separate. -/
def lastWord (text : String) : String :=
  (Text.splitAt ' ' text).getLast?.getD ""

/-- The points of a symbol for a term, both in lower case. -/
def symbolPoints (term symbol : String) : Nat :=
  if symbol = term || lastWord symbol = term then 4
  else if Text.contains term symbol then 3
  else 0

/-- The points of a module for one term: only its best symbol counts. -/
def Module.termPoints (m : Module) (term : String) : Nat :=
  let symbols := m.symbols.map fun s => symbolPoints term (Text.lowercase s)
  symbols.foldl max 0 +
    (if Text.contains term (Text.lowercase m.path) then 2 else 0) +
    (if Text.contains term (Text.lowercase m.summary) then 1 else 0)

/-- The score of a module for a list of terms. -/
def Module.score (m : Module) (terms : List String) : Nat :=
  Word.total (terms.map m.termPoints)

/-- Whether a module matches at all. -/
def Module.matchesTerms (m : Module) (terms : List String) : Bool :=
  !terms.isEmpty && 0 < m.score terms

/-! ## Hits -/

/-- A module found by a search. -/
structure Hit where
  path : String
  score : Nat
  lineCount : Nat
  fragment : Fragment
  deriving DecidableEq, Repr

/-- The order of hits: higher score, then fewer lines, then path. -/
def Hit.le (a b : Hit) : Bool :=
  b.score < a.score ||
    (a.score = b.score && (a.lineCount < b.lineCount ||
      (a.lineCount = b.lineCount && pathLe a.path b.path)))

/-- The hit of a module, if it has a score. -/
def Module.hit? (estimator : Estimator) (terms : List String) (m : Module) : Option Hit :=
  let score := m.score terms
  if score = 0 then none
  else
    let text := m.render
    some ⟨m.path, score, m.lineCount,
      { source := m.path, kind := .module, text, tokens := estimator.estimate text,
        rank := 0, rule := some .queryMatch }⟩

/-- The first `limit` hits of a query. -/
def Document.search (doc : Document) (query : String) (limit : Nat) (estimator : Estimator) :
    List Hit :=
  let terms := queryTerms query
  if terms.isEmpty || limit = 0 then []
  else ((doc.modules.filterMap (Module.hit? estimator terms)).mergeSort Hit.le).take limit

/-- A hit as data. -/
def Hit.toNode (h : Hit) : Data.Node := .obj [
  ("path", .str h.path),
  ("score", .nat h.score),
  ("line_count", .nat h.lineCount),
  ("fragment", h.fragment.toNode)]

end Switchboard.Index
