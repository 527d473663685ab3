import Switchboard.Url.Domain

/-!
# Addresses

The address of a service as a URL. Reading an address also brings it into its normal form: the
scheme and the host in lower case, the path without detours, the port only where it is not the
usual one, and every character that may not stand in a URL replaced by its bytes.

Addresses of the web have a host and a path; in them a backslash is as good as a slash. Addresses
of files may leave the host out, and all others are read as they are written.
-/

namespace Switchboard

/-- Where a service is found. -/
structure Url.Authority where
  /-- The name of a user, and the password after a colon. -/
  user : String := ""
  /-- Empty where there is none. -/
  host : String
  port : Option Nat := none
  deriving DecidableEq, Repr, Inhabited

/-- The address of a service. -/
structure Url where
  scheme : String
  authority : Option Url.Authority
  /-- The path with its query and its fragment. -/
  path : String
  deriving DecidableEq, Repr, Inhabited

namespace Url

/-! ## Characters -/

/-- The characters replaced in a path. -/
def pathEscapes : String := " \"<>`#?\x7b\x7d"

/-- The characters replaced in a query. -/
def queryEscapes : String := " \"#<>"

/-- The characters replaced in a query of the web. -/
def webQueryEscapes : String := queryEscapes ++ "'"

/-- The characters replaced in a fragment. -/
def fragmentEscapes : String := " \"<>`"

/-- The characters replaced in the name of a user. -/
def userEscapes : String := pathEscapes ++ "/:;=@[\\]^|"

/-! ## Schemes -/

/-- How an address goes on after its scheme. -/
inductive Kind where
  /-- An address of the web, with its usual port. -/
  | web (usualPort : Nat)
  | file
  | other
  deriving DecidableEq, Repr

/-- The schemes of the web, with their usual ports. -/
def webSchemes : List (String × Nat) :=
  [("http", 80), ("https", 443), ("ws", 80), ("wss", 443), ("ftp", 21)]

/-- The kind of the addresses with a scheme. -/
def Kind.ofScheme (scheme : String) : Kind :=
  match webSchemes.find? (·.1 = scheme) with
  | some (_, port) => .web port
  | none => if scheme = "file" then .file else .other

/-- Whether a backslash is as good as a slash. -/
def Kind.isSpecial : Kind → Bool
  | .other => false
  | _ => true

/-- Whether a character parts the path. -/
def Kind.isSlash (kind : Kind) (c : Char) : Bool :=
  c = '/' || (kind.isSpecial && c = '\\')

/-- The scheme of an address and what follows it. -/
def readScheme? (chars : List Char) : Option (String × List Char) :=
  match Text.cutAt? [':'] chars with
  | some (scheme, rest) =>
      let isSchemeChar (c : Char) : Bool := c.isAlphanum || c = '+' || c = '-' || c = '.'
      if scheme.head?.any Char.isAlpha && scheme.all isSchemeChar then
        some (String.ofList (scheme.map Char.toLower), rest)
      else none
  | none => none

/-! ## Authorities -/

/-- The name of a user and the password in their normal form. A colon before nothing is left
out. -/
def readUser (chars : List Char) : String :=
  match Text.cutAt? [':'] chars with
  | some (name, password) =>
      let tail := if password.isEmpty then [] else ':' :: escape userEscapes password
      String.ofList (escape userEscapes name ++ tail)
  | none => String.ofList (escape userEscapes chars)

/-- The characters of a host, up to a colon that does not stand in brackets. -/
def hostChars : Bool → List Char → List Char
  | _, [] => []
  | inBrackets, c :: rest =>
      if c = ':' && !inBrackets then []
      else c :: hostChars (c = '[' || (inBrackets && c ≠ ']')) rest

/-- The port after a host, unless it is the usual one, and what follows it. A colon without a number
is left out. -/
def readPort? (kind : Kind) : List Char → Option (Option Nat × List Char)
  | ':' :: rest =>
      let digits := rest.takeWhile Char.isDigit
      let after := rest.drop digits.length
      let port := ((digits.foldl fun n c => 10 * n + (c.toNat - 48)) 0)
      if port ≥ 65536 || (after.head?.any (· ≠ '\\')) then none
      else
        let isUsual := match kind with
          | .web usual => port = usual
          | _ => false
        some (if digits.isEmpty || isUsual then none else some port, after)
  | rest => some (none, rest)

/-- Reads an authority, and the part of it that belongs to the path. -/
def readAuthority? (kind : Kind) (chars : List Char) : Option (Authority × List Char) := do
  let named := (chars.reverse.takeWhile (· ≠ '@')).reverse
  let user := readUser (chars.take (chars.length - named.length - 1))
  let host := hostChars false named
  let rest := named.drop host.length
  let text ← if kind.isSpecial then readHost? host else readOpaqueHost? host
  if text.isEmpty && (!user.isEmpty || !rest.isEmpty) then none
  else
    let (port, rest) ← readPort? kind rest
    some (⟨user, text, port⟩, rest)

/-! ## Paths -/

/-- Whether a part of the path of a file names a drive. -/
def isDrive : List Char → Bool
  | [letter, mark] => letter.isAlpha && (mark = ':' || mark = '|')
  | _ => false

/-- Adds a part to the parts of a path: some parts stand for the same directory or for the one
above. -/
def addPart (isLast : Bool) (parts : List (List Char)) (part : List Char) : List (List Char) :=
  let plain := String.ofList (part.map Char.toLower)
  if plain ∈ [".", "%2e"] then if isLast then parts ++ [[]] else parts
  else if plain ∈ ["..", ".%2e", "%2e.", "%2e%2e"] then
    if isLast then parts.dropLast ++ [[]] else parts.dropLast
  else parts ++ [part]

/-- The parts of a path without detours. -/
def straighten (done : List (List Char)) : List (List Char) → List (List Char)
  | [] => done
  | [part] => addPart true done part
  | part :: parts => straighten (addPart false done part) parts

/-- A path in its normal form, from its parts. The path of a file never leaves its drive and has no
empty parts at the beginning. -/
def pathOf (kind : Kind) (parts : List (List Char)) : List Char :=
  match kind, parts with
  | .file, drive :: parts =>
      if isDrive drive then
        '/' :: drive.take 1 ++ ':' :: (straighten [] parts).flatMap ('/' :: ·)
      else
        '/' :: (['/'].intercalate (straighten [] (drive :: parts))).dropWhile (· = '/')
  | _, parts => '/' :: ['/'].intercalate (straighten [] parts)

/-- The path, the query and the fragment of an address. -/
def splitPath (chars : List Char) : List Char × Option (List Char) × Option (List Char) :=
  let (chars, fragment) := match Text.cutAt? ['#'] chars with
    | some (front, fragment) => (front, some fragment)
    | none => (chars, none)
  match Text.cutAt? ['?'] chars with
  | some (front, query) => (front, some query, fragment)
  | none => (chars, none, fragment)

/-- The query and the fragment in their normal forms. -/
def tailText (kind : Kind) (query fragment : Option (List Char)) : List Char :=
  let listed := if kind.isSpecial then webQueryEscapes else queryEscapes
  let query := match query with
    | some query => '?' :: escape listed query
    | none => []
  let fragment := match fragment with
    | some fragment => '#' :: escape fragmentEscapes fragment
    | none => []
  query ++ fragment

/-- The path with what follows it, from its first part on. -/
def readParts (kind : Kind) (chars : List Char) : String :=
  let (chars, query, fragment) := splitPath chars
  let parts := (Text.splitChars kind.isSlash chars).map (escape pathEscapes)
  String.ofList (pathOf kind parts ++ tailText kind query fragment)

/-- Drops one slash. -/
def dropSlash (kind : Kind) : List Char → List Char
  | c :: rest => if kind.isSlash c then rest else c :: rest
  | [] => []

/-- The path after an authority. Only addresses of the web and of files always have one. -/
def readPath (kind : Kind) (chars : List Char) : String :=
  let (path, query, fragment) := splitPath chars
  if path.isEmpty && !kind.isSpecial then String.ofList (tailText kind query fragment)
  else readParts kind (dropSlash kind chars)

/-- The path of an address without an authority. One that would look like an authority is set off
from the scheme. -/
def readBarePath (chars : List Char) : String :=
  match chars with
  | '/' :: rest =>
      let path := readParts .other rest
      if Text.startsWith "//" path then "/." ++ path else path
  | chars =>
      let (path, query, fragment) := splitPath chars
      String.ofList (escape "" path ++ tailText .other query fragment)

/-! ## Addresses -/

/-- Whether a character ends an authority. -/
def endsAuthority (kind : Kind) (c : Char) : Bool :=
  kind.isSlash c || c = '?' || c = '#'

/-- Reads what follows two slashes. -/
def readAfterSlashes? (scheme : String) (kind : Kind) (chars : List Char) : Option Url := do
  let front := chars.takeWhile (!endsAuthority kind ·)
  let (authority, rest) ← readAuthority? kind front
  return ⟨scheme, some authority, readPath kind (rest ++ chars.drop front.length)⟩

/-- Reads the address of a file. The machine itself needs no name, and a drive is no host. -/
def readFile? (chars : List Char) : Option Url :=
  let isSlash := Kind.file.isSlash
  let noHost : Option Authority := some ⟨"", "", none⟩
  match chars with
  | a :: b :: rest =>
      if isSlash a && isSlash b then
        let front := rest.takeWhile (!endsAuthority .file ·)
        if front.isEmpty || isDrive front then
          some ⟨"file", noHost, readPath .file rest⟩
        else
          (readHost? front).map fun host =>
            let host := if host = "localhost" then "" else host
            ⟨"file", some ⟨"", host, none⟩, readPath .file (rest.drop front.length)⟩
      else some ⟨"file", noHost, readPath .file chars⟩
  | chars => some ⟨"file", noHost, readPath .file chars⟩

/-- Reads an address; none for a text that is not one. -/
def parse? (text : String) : Option Url :=
  let chars := Text.trimChars (·.toNat ≤ 32) text.toList
  let chars := chars.filter fun c => c ≠ '\t' && c ≠ '\n' && c ≠ '\x0d'
  match readScheme? chars with
  | none => none
  | some (scheme, rest) =>
      match Kind.ofScheme scheme with
      | .web port =>
          let kind := Kind.web port
          readAfterSlashes? scheme kind (rest.dropWhile kind.isSlash)
      | .file => readFile? rest
      | .other =>
          match Text.dropLead? "//".toList rest with
          | some rest => readAfterSlashes? scheme .other rest
          | none => some ⟨scheme, none, readBarePath rest⟩

/-- The text of an authority. -/
def Authority.text (a : Authority) : String :=
  let user := if a.user.isEmpty then "" else a.user ++ "@"
  let port := match a.port with
    | some port => s!":{port}"
    | none => ""
  user ++ a.host ++ port

/-- The text of an address. -/
def text (url : Url) : String :=
  match url.authority with
  | none => url.scheme ++ ":" ++ url.path
  | some authority => url.scheme ++ "://" ++ authority.text ++ url.path

/-- Whether an address names a host. -/
def hasHost (url : Url) : Bool :=
  url.authority.any (!·.host.isEmpty)

/-- Whether a text in percent notation is the notation of a text. -/
def isText (chars : List Char) : Bool :=
  match Text.Utf8.decode (unescape (Text.Utf8.encode (String.ofList chars))) with
  | .ok _ => true
  | .error _ => false

/-- An address without its user, whose name and password go elsewhere. A user that cannot be read
stays. -/
def withoutUser (url : Url) : Url :=
  match url.authority with
  | none => url
  | some authority =>
      let (name, password) := match Text.cutAt? [':'] authority.user.toList with
        | some (name, password) => (name, some password)
        | none => (authority.user.toList, none)
      if isText name && (!name.isEmpty || password.any isText) then
        { url with authority := some { authority with user := "" } }
      else url

/-- The characters of a host that cannot be sent. -/
def unsendable : String := "\"`\x7b\x7d"

/-- The longest address that can be sent. -/
def longestSendable : Nat := 65534

/-- Whether an address can stand in a request. -/
def isSendable (url : Url) : Bool :=
  let host := (url.authority.map (·.host)).getD ""
  !host.toList.any (fun c => unsendable.toList.contains c) && url.text.utf8ByteSize ≤ longestSendable

end Url

end Switchboard
