import Switchboard.Index.Document

/-!
# Rendering an index

The text of one module, and the overview of the whole document.
-/

namespace Switchboard.Index

/-- A module as text: a heading, then its summary, symbols and dependencies where it has them. -/
def Module.render (m : Module) : String :=
  let summary := Text.trim m.summary
  s!"## {m.path} ({m.language}, {m.lineCount} lines)" ++
    (if summary.isEmpty then "" else "\n" ++ summary) ++
    (if m.symbols.isEmpty then "" else "\nsymbols: " ++ ", ".intercalate m.symbols) ++
    (if m.dependencies.isEmpty then "" else "\ndepends on: " ++ ", ".intercalate m.dependencies)

/-- Counts one more module of a language; a new language goes last. -/
def countLanguage (counts : List (String × Nat)) (language : String) : List (String × Nat) :=
  match counts with
  | [] => [(language, 1)]
  | (other, n) :: counts =>
      if other = language then (other, n + 1) :: counts
      else (other, n) :: countLanguage counts language

/-- The order of languages in the overview: the most frequent first, then by name. -/
def languageLe (a b : String × Nat) : Bool :=
  b.2 < a.2 || (a.2 = b.2 && pathLe a.1 b.1)

/-- The languages of a document with the number of modules of each. -/
def Document.languages (doc : Document) : List (String × Nat) :=
  ((doc.modules.map (·.language)).foldl countLanguage []).mergeSort languageLe

/-- The overview of a document. -/
def Document.renderOverview (doc : Document) : String :=
  let languages := doc.languages.map fun (language, n) => s!"{language} ({n})"
  let lineTotal := Word.sum (doc.modules.map (·.lineCount))
  s!"# Project {doc.metadata.projectName}\nmodules: {doc.modules.length}, lines: {lineTotal}, " ++
    s!"indexed: {doc.metadata.generatedAt.toSecondsText}\nlanguages: " ++
    ", ".intercalate languages

end Switchboard.Index
