import Switchboard.Source.Tree
import Switchboard.Text.Alphanumeric

/-!
# Scanning source files

A file is scanned line by line for what an index says about it: its language by its name, the
comment it opens with, the declarations that start at the left margin, and the imports. Nothing is
parsed; a line counts by the way it begins.
-/

namespace Switchboard.Source

/-! ## Languages -/

/-- The languages by the ending of a file name. -/
def languages : List (String × String) := [
  ("rs", "rust"), ("py", "python"), ("ts", "typescript"), ("tsx", "typescript"),
  ("js", "javascript"), ("jsx", "javascript"), ("mjs", "javascript"), ("cjs", "javascript"),
  ("go", "go"), ("java", "java"), ("kt", "kotlin"), ("kts", "kotlin"), ("c", "c"), ("h", "c"),
  ("cc", "cpp"), ("cpp", "cpp"), ("hpp", "cpp"), ("cxx", "cpp"), ("rb", "ruby"),
  ("sh", "shell"), ("bash", "shell"), ("toml", "toml"), ("md", "markdown")]

/-- What follows the last point of a path, empty without one. -/
def ending (path : String) : String :=
  let back := path.toList.reverse
  if back.contains '.' then String.ofList (back.takeWhile (· ≠ '.')).reverse else ""

/-- The language of a file. -/
def languageOf (path : String) : String :=
  ((languages.find? (·.1 = ending path)).map (·.2)).getD "text"

/-! ## The opening comment -/

/-- The mark around a block of documentation. -/
def docMark : List Char := ['"', '"', '"']

/-- The marks of a comment line, the longer ones first. -/
def commentMarks : List (List Char) :=
  ["//!", "///", "//", "/**", "/*", "*/", "*", "#"].map String.toList

/-- The marks of lines that neither belong to the opening comment nor end it. -/
def passedMarks : List (List Char) := ["#!", "#["].map String.toList

/-- What remains without any copies of the mark at the end. -/
def dropTails (mark chars : List Char) : List Char :=
  (Text.dropLeads mark.reverse chars.reverse).reverse

/-- The text of a comment line, if the line is one. -/
def commentText? (line : List Char) : Option (List Char) :=
  (commentMarks.findSome? fun mark => Text.dropLead? mark line).map fun text =>
    Text.trimChars Text.isBlank
      (dropTails "*/".toList (Text.trimChars Text.isBlank text))

/-- Puts a part before others unless it is empty. -/
def keepPart (part : List Char) (parts : List (List Char)) : List (List Char) :=
  if part.isEmpty then parts else part :: parts

/-- The parts of a block of documentation that is open, up to its end. -/
def docParts : List (List Char) → List (List Char)
  | [] => []
  | line :: lines =>
      let line := Text.trimChars Text.isBlank line
      match Text.cutAt? docMark line with
      | some (before, _) => keepPart before []
      | none => keepPart line (docParts lines)

/-- The parts of the opening comment. A blank line ends it once it has `begun`, which is when it
has a part. -/
def summaryParts (begun : Bool) : List (List Char) → List (List Char)
  | [] => []
  | line :: lines =>
      let line := Text.trimChars Text.isBlank line
      if line.isEmpty then
        if begun then [] else summaryParts false lines
      else if passedMarks.any fun mark => (Text.dropLead? mark line).isSome then
        summaryParts begun lines
      else
        match Text.dropLead? docMark line with
        | some rest =>
            match Text.cutAt? docMark rest with
            | some (before, _) => [before]
            | none => keepPart rest (docParts lines)
        | none =>
            match commentText? line with
            | some text => keepPart text (summaryParts (begun || !text.isEmpty) lines)
            | none => []

/-- The longest summary that is kept whole. -/
def summaryLimit : Nat := 240

/-- The opening comment on one line. -/
def summaryOf (lines : List (List Char)) : String :=
  Text.clip summaryLimit (Text.join " " ((summaryParts false lines).map String.ofList))

/-! ## Declarations -/

/-- How declarations begin, and the label under which they are listed. -/
def declarations : List (List Char × String) := [
  ("pub(crate) fn ", "fn"), ("pub async fn ", "fn"), ("pub fn ", "fn"), ("async fn ", "fn"),
  ("fn ", "fn"), ("pub struct ", "struct"), ("struct ", "struct"), ("pub enum ", "enum"),
  ("enum ", "enum"), ("pub trait ", "trait"), ("trait ", "trait"), ("pub mod ", "mod"),
  ("pub type ", "type"), ("async def ", "def"), ("def ", "def"), ("class ", "class"),
  ("export default function ", "function"), ("export async function ", "function"),
  ("export function ", "function"), ("async function ", "function"), ("function ", "function"),
  ("export class ", "class"), ("export interface ", "interface"), ("interface ", "interface"),
  ("export type ", "type"), ("func ", "func")].map fun (mark, label) => (mark.toList, label)

/-- Whether a character may stand in a name. -/
def isNameChar (c : Char) : Bool := Text.isAlphanumeric c || c = '_'

/-- A declaration without the receiver that stands before the name of a method. -/
def dropReceiver (label : String) (rest : List Char) : List Char :=
  match label, rest with
  | "func", '(' :: _ =>
      match Text.cutAt? [')'] rest with
      | some (_, after) => after.dropWhile Text.isBlank
      | none => rest
  | _, _ => rest

/-- The declaration a line begins with. -/
def symbolOf? (line : List Char) : Option String :=
  match declarations.findSome? fun (mark, label) =>
      (Text.dropLead? mark line).map fun rest => (label, rest) with
  | none => none
  | some (label, rest) =>
      let name := (dropReceiver label rest).takeWhile isNameChar
      if name.isEmpty then none else some s!"{label} {String.ofList name}"

/-- The declarations at the left margin. -/
def symbolsOf (lines : List (List Char)) : List String :=
  lines.filterMap symbolOf?

/-! ## Imports -/

/-- The first two parts of a module path, as far as they are names. -/
def modulePath (path : List Char) : List Char :=
  let parts := (Text.splitMark "::".toList path).takeWhile fun part => part.all isNameChar
  [':', ':'].intercalate (parts.take 2)

/-- The last quoted text of a line. -/
def lastQuoted? (line : List Char) : Option (List Char) :=
  let mark := if line.contains '"' then '"' else '\''
  match line.reverse.dropWhile (· ≠ mark) with
  | [] => none
  | _ :: back =>
      if back.contains mark then some (back.takeWhile (· ≠ mark)).reverse else none

/-- Whether a character ends the name of an import. -/
def endsImport (c : Char) : Bool := Text.isBlank c || c = ',' || c = ';'

/-- The import a trimmed line makes. -/
def importOf? (line : List Char) : Option (List Char) :=
  let after (lead : String) := Text.dropLead? lead.toList line
  match (after "pub use ").orElse fun _ => after "use " with
  | some rest =>
      if (Text.dropLead? "crate::".toList rest).isSome then
        some (modulePath (dropTails [';'] rest))
      else none
  | none =>
      match after "mod " with
      | some rest =>
          let name := Text.trimChars Text.isBlank (dropTails [';'] rest)
          if name.contains '{' then none else some ("self::".toList ++ name)
      | none =>
          match after "from " with
          | some rest => (Text.splitChars Text.isBlank rest).find? (!·.isEmpty)
          | none =>
              match after "import " with
              | some rest =>
                  match lastQuoted? rest with
                  | some name => some name
                  | none =>
                      let name := rest.takeWhile (!endsImport ·)
                      if name.isEmpty then none else some name
              | none =>
                  if (after "#include \"").isSome then lastQuoted? line else none

/-- Adds an import that is not empty and not listed yet. -/
def addImport (deps : List String) (dep : List Char) : List String :=
  let dep := String.ofList (Text.dropLeads "./".toList dep)
  if dep.isEmpty || deps.contains dep then deps else deps ++ [dep]

/-- The imports of a file, each once. -/
def importsOf (lines : List (List Char)) : List String :=
  (lines.filterMap fun line => importOf? (Text.trimChars Text.isBlank line)).foldl addImport []

/-! ## The index -/

/-- What the index says about a file. Bytes that are not UTF-8 are read with replacement. -/
def File.scan (file : File) : Index.Module :=
  let lines := Text.linesFrom [] [] (Text.Utf8.decodeLossy file.content).toList
  { path := file.path
    language := languageOf file.path
    symbols := symbolsOf lines
    dependencies := importsOf lines
    summary := summaryOf lines
    lineCount := lines.length
    tags := [] }

/-- The name of the project whose sources are at a place. -/
def projectName (place : Place) : String :=
  place.getLast?.getD "project"

/-- The index of the tree on a disk. -/
def Tree.index (tree : Tree) (disk : Disk) (now : Timestamp) : Except Report Index.Document := do
  let files ← tree.files disk
  let place := (disk.resolve tree.root).toOption.getD []
  return Index.Document.normalized {
    schemaVersion := Index.schemaVersion
    metadata := {
      projectName := projectName place
      generatedAt := now
      fingerprintInputs := [s!"root: {tree.root}", s!"files: {files.length}"] }
    modules := files.map File.scan }

end Switchboard.Source
