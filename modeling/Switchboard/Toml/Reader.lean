import Switchboard.Error
import Switchboard.Toml.Scalar

/-!
# TOML documents

A document is read into a data tree. It is a list of lines: headers open a table or a further
element of a list of tables, and the lines below a header put values into what it opened.

No key is given a value twice, and no table is opened twice. A table that only came into being on
the way to another one can still be opened. Dotted keys build tables that no header opens, and they
do not reach into tables that a header has opened.
-/

namespace Switchboard.Toml

open Switchboard.Data

/-! ## Tables under construction -/

/-- What stands under a key while the document is read. -/
inductive Item where
  /-- A finished value. -/
  | value (node : Node)
  /-- A table; whether it came into being on the way to something else, and whether by a dotted
  key. -/
  | table (implicit dotted : Bool) (entries : List (String × Item))
  /-- A list of tables, the newest one first. -/
  | tables (newest : List (String × Item)) (older : List (List (String × Item)))

/-- A table by its entries. -/
abbrev Entries := List (String × Item)

mutual

/-- An item as data. -/
def Item.toNode : Item → Node
  | .value node => node
  | .table _ _ entries => .obj (entriesToNodes entries)
  | .tables newest older =>
      .arr ((tablesToNodes older).reverse ++ [.obj (entriesToNodes newest)])

/-- The entries of a table as data. -/
def entriesToNodes : List (String × Item) → List (String × Node)
  | [] => []
  | (key, item) :: rest => (key, item.toNode) :: entriesToNodes rest

/-- Tables as data. -/
def tablesToNodes : List (List (String × Item)) → List Node
  | [] => []
  | entries :: rest => .obj (entriesToNodes entries) :: tablesToNodes rest

end

/-- The item under a key. -/
def find? (key : String) (entries : Entries) : Option Item :=
  (entries.find? (·.1 = key)).map (·.2)

/-- Replaces the item under a key, or adds it. -/
def set (key : String) (item : Item) : Entries → Entries
  | [] => [(key, item)]
  | (k, old) :: rest => if k = key then (k, item) :: rest else (k, old) :: set key item rest

/-- Follows a path of headers and changes the table it leads to. -/
def within (change : Entries → Option Entries) : List String → Entries → Option Entries
  | [], entries => change entries
  | key :: path, entries =>
      match find? key entries with
      | none => do
          let inner ← within change path []
          return set key (.table true false inner) entries
      | some (.table implicit dotted inner) => do
          let inner ← within change path inner
          return set key (.table implicit dotted inner) entries
      | some (.tables newest older) => do
          let newest ← within change path newest
          return set key (.tables newest older) entries
      | some (.value _) => none

/-- Opens the table under a key. -/
def openTable (key : String) (entries : Entries) : Option Entries :=
  match find? key entries with
  | none => some (set key (.table false false []) entries)
  | some (.table true false inner) => some (set key (.table false false inner) entries)
  | some _ => none

/-- Opens a further table of the list under a key. -/
def openElement (key : String) (entries : Entries) : Option Entries :=
  match find? key entries with
  | none => some (set key (.tables [] []) entries)
  | some (.tables newest older) => some (set key (.tables [] (newest :: older)) entries)
  | some _ => none

/-- Puts a value under a dotted key; `dotted` says whether the table at hand was built by one. -/
def put (node : Node) (dotted : Bool) : Bool → List String → Entries → Option Entries
  | _, [], _ => none
  | isFirst, [key], entries =>
      if dotted = isFirst then none
      else
        match find? key entries with
        | none => some (set key (.value node) entries)
        | some _ => none
  | _, key :: path, entries =>
      match find? key entries with
      | none => do
          let inner ← put node true false path []
          return set key (.table true true inner) entries
      | some (.table true dotted inner) => do
          let inner ← put node dotted false path inner
          return set key (.table true dotted inner) entries
      | some (.tables newest older) => do
          let newest ← put node false false path newest
          return set key (.tables newest older) entries
      | some _ => none

/-! ## Keys and values -/

/-- What follows blanks. -/
def skipBlanks (chars : List Char) : List Char :=
  chars.dropWhile fun c => c = ' ' || c = '\t'

/-- Whether a character may stand in a key without quotes. -/
def isKeyChar (c : Char) : Bool := c.isAlphanum || c = '_' || c = '-'

/-- One part of a key. -/
def readKeyPart (chars : List Char) : Option (String × List Char) :=
  (readShortText chars).orElse fun _ =>
    let key := chars.takeWhile isKeyChar
    if key.isEmpty then none else some (String.ofList key, chars.drop key.length)

/-- A key with the parts between its dots. -/
def readKey : Nat → List Char → Option (List String × List Char)
  | 0, _ => none
  | fuel + 1, chars => do
      let (part, rest) ← readKeyPart (skipBlanks chars)
      match skipBlanks rest with
      | '.' :: rest =>
          let (parts, rest) ← readKey fuel rest
          return (part :: parts, rest)
      | rest => return ([part], rest)

/-- How deep values can be nested, and how many parts a key can have. -/
def maxDepth : Nat := 80

/-- A key of a bounded number of parts. -/
def readBoundedKey (chars : List Char) : Option (List String × List Char) := do
  let (key, rest) ← readKey (chars.length + 1) chars
  if key.length < maxDepth then return (key, rest) else none

/-- What follows a comment. Control characters are refused. -/
def skipComment? (chars : List Char) : Option (List Char) :=
  match chars with
  | '#' :: rest =>
      let body := rest.takeWhile fun c => c ≠ '\n' && c ≠ '\x0d'
      if body.all isLineChar then some (rest.drop body.length) else none
  | chars => some chars

/-- What follows blanks, comments and line ends. -/
def skipFiller : Nat → List Char → Option (List Char)
  | 0, chars => some chars
  | fuel + 1, chars => do
      let rest ← skipComment? (skipBlanks chars)
      match newline? rest with
      | some rest => skipFiller fuel rest
      | none => return rest

mutual

/-- A value; the first argument bounds the steps and the second one the depth. -/
def readValue : Nat → Nat → List Char → Option (Node × List Char)
  | 0, _, _ => none
  | fuel + 1, depth, chars =>
      match chars with
      | '"' :: _ | '\'' :: _ => (readText chars).map fun (text, rest) => (.str text, rest)
      | '[' :: rest =>
          if depth ≤ 1 then none else readElements fuel (depth - 1) [] rest
      | '\x7b' :: rest =>
          if depth ≤ 1 then none
          else
            match skipBlanks rest with
            | '\x7d' :: rest => some (.obj [], rest)
            | rest => readPairs fuel (depth - 1) [] rest
      | 't' :: 'r' :: 'u' :: 'e' :: rest => some (.bool true, rest)
      | 'f' :: 'a' :: 'l' :: 's' :: 'e' :: rest => some (.bool false, rest)
      | c :: _ =>
          if c.isDigit || c = '+' || c = '-' then readNumber chars
          else readSpecial chars
      | [] => none

/-- The elements of a list up to its end; those already read are given in reverse. -/
def readElements : Nat → Nat → List Node → List Char → Option (Node × List Char)
  | 0, _, _, _ => none
  | fuel + 1, depth, items, chars => do
      match ← skipFiller (chars.length + 1) chars with
      | ']' :: rest => return (.arr items.reverse, rest)
      | chars =>
          let (item, rest) ← readValue fuel depth chars
          match ← skipFiller (rest.length + 1) rest with
          | ',' :: rest => readElements fuel depth (item :: items) rest
          | ']' :: rest => return (.arr (item :: items).reverse, rest)
          | _ => none

/-- The pairs of a table written on one line. -/
def readPairs : Nat → Nat → Entries → List Char → Option (Node × List Char)
  | 0, _, _, _ => none
  | fuel + 1, depth, entries, chars => do
      let (key, rest) ← readBoundedKey chars
      match rest with
      | '=' :: rest =>
          let (node, rest) ← readValue fuel depth (skipBlanks rest)
          let entries ← put node false true key entries
          match skipBlanks rest with
          | ',' :: rest => readPairs fuel depth entries rest
          | '\x7d' :: rest => return (.obj (entriesToNodes entries), rest)
          | _ => none
      | _ => none

end

/-! ## Documents -/

/-- What follows the end of a line with nothing but a comment before it. -/
def endLine? (chars : List Char) : Option (List Char) := do
  match ← skipComment? (skipBlanks chars) with
  | [] => return []
  | rest => newline? rest

/-- Reads the lines of a document. The path leads to the table that is open. -/
def readLines : Nat → List String → Entries → List Char → Option Entries
  | 0, _, _, _ => none
  | fuel + 1, path, root, chars =>
      match skipBlanks chars with
      | [] => some root
      | '[' :: '[' :: rest => do
          let (key, rest) ← readBoundedKey rest
          match rest with
          | ']' :: ']' :: rest =>
              let last ← key.getLast?
              let root ← within (openElement last) key.dropLast root
              readLines fuel key root (← endLine? rest)
          | _ => none
      | '[' :: rest => do
          let (key, rest) ← readBoundedKey rest
          match rest with
          | ']' :: rest =>
              let last ← key.getLast?
              let root ← within (openTable last) key.dropLast root
              readLines fuel key root (← endLine? rest)
          | _ => none
      | c :: rest =>
          if c = '#' || c = '\n' || c = '\x0d' then do
            readLines fuel path root (← endLine? (c :: rest))
          else do
            let (key, rest) ← readBoundedKey (c :: rest)
            match rest with
            | '=' :: rest =>
                let (node, rest) ← readValue (rest.length + 1) maxDepth (skipBlanks rest)
                let root ← within (put node false true key) path root
                readLines fuel path root (← endLine? rest)
            | _ => none

/-- The data of a document; none if it is malformed. -/
def parse? (text : String) : Option Node :=
  let chars := match text.toList with
    | '\ufeff' :: rest => rest
    | chars => chars
  (readLines (chars.length + 1) [] [] chars).map fun root => .obj (entriesToNodes root)

/-- Reads a document of a type; every defect of the text or of its shape is the same failure. -/
def decode (read : Reading α) (text : String) : Except Cause α :=
  match (parse? text).map read with
  | some (.ok a) => .ok a
  | _ => .error .toml

end Switchboard.Toml
