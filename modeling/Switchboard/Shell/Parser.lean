import Switchboard.Shell.Syntax
import Switchboard.Text.Basic

/-!
# Reading scripts

A script is read line by line: a line gives a command, which is run before the next line is read.
A command goes on over as many lines as it has to. The text of a here-document is taken out of the
script as soon as the sign for it is read, so that what follows the sign can be read on.

The readers of words and of commands need each other, because a word can hold a command. They are
bounded by a number that the length of the text gives and that no script exhausts.
-/

namespace Switchboard.Shell

/-- What is left of a script. -/
structure Source where
  rest : List Char
  /-- The number of the current line. -/
  line : Nat := 1
  /-- The lines that were taken out of the text after the current one. -/
  ahead : Nat := 0
  /-- A token that was read and not used. -/
  kept : Option Token := none

/-- Why a script cannot be read, and on which line. -/
structure ScriptFault where
  line : Nat
  reason : String

/-- A reader of scripts. -/
abbrev Reading := StateT Source (Except ScriptFault)

namespace Reading

/-- Gives up. -/
def fault (reason : String) : Reading α := do
  throw ⟨(← get).line, reason⟩

/-- Gives up at a token, where a certain mark may have been expected. -/
def unexpected (token : Token) (expected : Option String := none) : Reading α :=
  match expected with
  | some mark => fault s!"{token.describe} unexpected (expecting \"{mark}\")"
  | none => fault s!"{token.describe} unexpected"

/-- Goes on with a text. -/
def setRest (rest : List Char) : Reading Unit :=
  modify ({ · with rest })

/-- Goes on with a text after the end of a line. -/
def nextLine (rest : List Char) : Reading Unit :=
  modify fun s => { s with rest, line := s.line + 1 + s.ahead, ahead := 0 }

/-- Keeps a token for the next reader. -/
def keep (token : Token) : Reading Unit :=
  modify ({ · with kept := some token })

/-- Goes on with a text after characters that were passed over. -/
def passOver (passed rest : List Char) : Reading Unit :=
  modify fun s => { s with rest, line := s.line + (passed.filter (· = '\n')).length }

end Reading

open Reading

/-! ## Here-documents -/

/-- The rest of the current line, where a line feed between quotes does not end it, and what
follows. -/
def restOfLine : Option Char → List Char → List Char → List Char × List Char
  | _, done, [] => (done.reverse, [])
  | none, done, '\n' :: rest => (done.reverse, rest)
  | none, done, '\\' :: c :: rest => restOfLine none (c :: '\\' :: done) rest
  | some '"', done, '\\' :: c :: rest => restOfLine (some '"') (c :: '\\' :: done) rest
  | quote, done, c :: rest =>
      let next := match quote with
        | none => if c = '"' || c = '\'' then some c else none
        | some q => if c = q then none else some q
      restOfLine next (c :: done) rest

/-- The lines of a here-document up to the one that ends it, and what follows that; none if it goes
on to the end of the script. -/
def hereLines (tabs : Bool) (ending : List Char) : List (List Char) →
    List (List Char) × Option (List (List Char))
  | [] => ([], none)
  | line :: rest =>
      let line := if tabs then line.dropWhile (· = '\t') else line
      if line = ending then ([], some rest)
      else
        let (body, after) := hereLines tabs ending rest
        (line :: body, after)

/-- The text of a here-document, the script without it, and the number of its lines. -/
def takeHere (tabs : Bool) (ending : List Char) (chars : List Char) : List Char × List Char × Nat :=
  let (line, after) := restOfLine none [] chars
  if after.isEmpty then ([], chars, 0)
  else
    match hereLines tabs ending (Text.splitChars (· = '\n') after) with
    | (body, some rest) =>
        (body.flatMap (· ++ ['\n']), line ++ '\n' :: ['\n'].intercalate rest, body.length + 1)
    | (body, none) => (['\n'].intercalate body, line ++ ['\n'], body.length)

/-! ## Words -/

/-- Where the characters of a word are read, which says what ends them. -/
inductive Surroundings where
  | word
  /-- Between braces, which may stand between quotes themselves. -/
  | braces (inQuotes : Bool)
  /-- The text of a here-document. -/
  | here
  /-- An arithmetic expression with so many open parentheses. -/
  | sum (depth : Nat)

/-- Whether quotes have no meaning. -/
def Surroundings.isQuoted : Surroundings → Bool
  | .word | .braces false => false
  | _ => true

/-- The characters that a backslash between quotes takes the meaning from. -/
def Surroundings.escapable : Surroundings → String
  | .here => "$`\\"
  | .braces _ => "$`\"\\\x7d"
  | _ => "$`\"\\"

/-- A text between back quotes, and what follows it. -/
def untilBackQuote (inQuotes : Bool) : List Char → List Char → Option (List Char × List Char)
  | _, [] => none
  | done, '\x60' :: rest => some (done.reverse, rest)
  | done, '\\' :: c :: rest =>
      let isEscaped := "$`\\".toList.contains c || (inQuotes && c = '"')
      untilBackQuote inQuotes (if isEscaped then c :: done else c :: '\\' :: done) rest
  | done, c :: rest => untilBackQuote inQuotes (c :: done) rest

/-- The signs of redirections, the longer ones first. -/
def redirectionSigns : List String := ["<<-", "<<", "<&", "<>", ">>", ">&", ">|", "<", ">"]

/-- The other signs, the longer ones first. -/
def operators : List String := ["&&", "||", ";;", "&", "|", ";", "(", ")"]

/-- The first of some signs that a text begins with, and what follows it. -/
def readSign? (signs : List String) (chars : List Char) : Option (String × List Char) :=
  signs.findSome? fun sign => (Text.dropLead? sign.toList chars).map fun rest => (sign, rest)

/-- The name and the value of a word that is an assignment. -/
def assignment? (word : Word) : Option (String × Word) :=
  let isPlain (p : Char → Bool) : Segment → Bool
    | .mk false (.text [c]) => p c
    | _ => false
  let name := word.takeWhile (isPlain isNameChar)
  match plainText? name, word.drop name.length with
  | some text, sign :: value =>
      if isPlain (· = '=') sign && isName text.toList then some (text, value) else none
  | _, _ => none

/-- Adds a command to those of a line. -/
def Command.andThen : Command → Command → Command
  | .nothing, second => second
  | first, second => .sequence first second

/-- The builtin commands whose names no function can take. -/
def specialNames : List String :=
  [".", ":", "break", "continue", "eval", "exec", "exit", "export", "readonly", "return", "set",
    "shift", "times", "trap", "unset"]

mutual

/-- The segments of a word up to its end; `quoted` says whether the characters stand between
quotes, and `done` has the segments so far in reverse. -/
def readSegments : Nat → Surroundings → Bool → Word → Reading Word
  | 0, _, _, _ => fault "Word too long"
  | fuel + 1, place, quoted, done => do
      let isQuoted := quoted || place.isQuoted
      match (← get).rest with
      | [] =>
          match place, quoted with
          | .word, false | .here, _ => return done.reverse
          | .braces _, false => fault "Missing '\x7d'"
          | .sum _, _ => fault "Missing '))'"
          | _, true => fault "Unterminated quoted string"
      | '\\' :: '\n' :: rest =>
          nextLine rest
          readSegments fuel place quoted done
      | '\\' :: c :: rest =>
          setRest rest
          if !isQuoted then readSegments fuel place quoted (.mk true (.text [c]) :: done)
          else if place.escapable.toList.contains c then
            readSegments fuel place quoted (.mk true (.text [c]) :: done)
          else readSegments fuel place quoted (.mk true (.text ['\\', c]) :: done)
      | '$' :: rest =>
          setRest rest
          let piece ← readDollar fuel isQuoted
          readSegments fuel place quoted (.mk isQuoted piece :: done)
      | '\x60' :: rest =>
          match untilBackQuote isQuoted [] rest with
          | none => fault "EOF in backquote substitution"
          | some (script, after) =>
              let line := (← get).line
              let inner ← readWhole fuel ⟨script, line, 0, none⟩
              passOver script after
              readSegments fuel place quoted (.mk isQuoted (.output inner) :: done)
      | '\n' :: rest =>
          match place, quoted with
          | .word, false => return done.reverse
          | _, _ =>
              nextLine rest
              readSegments fuel place quoted (.mk isQuoted (.text ['\n']) :: done)
      | c :: rest =>
          match place, c with
          | .word, '"' | .braces _, '"' =>
              setRest rest
              readSegments fuel place (!quoted) (.mk true (.text []) :: done)
          | .sum depth, '(' =>
              setRest rest
              readSegments fuel (.sum (depth + 1)) quoted (.mk isQuoted (.text [c]) :: done)
          | .sum (depth + 1), ')' =>
              setRest rest
              readSegments fuel (.sum depth) quoted (.mk isQuoted (.text [c]) :: done)
          | .sum 0, ')' =>
              match rest with
              | ')' :: rest =>
                  setRest rest
                  return done.reverse
              | _ => fault "Missing '))'"
          | place, c =>
              if c = '\'' && !isQuoted then
                let text := rest.takeWhile (· ≠ '\'')
                match rest.drop text.length with
                | [] => fault "Unterminated quoted string"
                | _ :: after =>
                    passOver text after
                    readSegments fuel place quoted (.mk true (.text text) :: done)
              else if c = '\x7d' && !quoted && place matches .braces _ then
                setRest rest
                return done.reverse
              else if endsWord c && !isQuoted && place matches .word then return done.reverse
              else
                setRest rest
                readSegments fuel place quoted (.mk isQuoted (.text [c]) :: done)

/-- What follows a dollar sign. -/
def readDollar : Nat → Bool → Reading Piece
  | 0, _ => fault "Word too long"
  | fuel + 1, isQuoted => do
      match (← get).rest with
      | '(' :: '(' :: rest =>
          setRest rest
          return .sum (← readSegments fuel (.sum 0) false [])
      | '(' :: rest =>
          setRest rest
          let command ← readList fuel 2 .nothing
          let token ← readToken fuel true true
          if token.isMark ")" then return .output command
          else unexpected token (some ")")
      | '\x7b' :: rest =>
          setRest rest
          readBraced fuel isQuoted
      | c :: rest =>
          if isSpecial c then
            setRest rest
            return .parameter (String.singleton c) .plain
          else if isNameChar c then
            setRest ((c :: rest).dropWhile isNameChar)
            return .parameter (String.ofList ((c :: rest).takeWhile isNameChar)) .plain
          else return .text ['$']
      | [] => return .text ['$']

/-- A parameter between braces. -/
def readBraced : Nat → Bool → Reading Piece
  | 0, _ => fault "Word too long"
  | fuel + 1, isQuoted => do
      let chars := (← get).rest
      match chars with
      | '#' :: '\x7d' :: rest =>
          setRest rest
          return .parameter "#" .plain
      | '#' :: c :: rest =>
          if isNameChar c || isSpecial c then
            let name := if isSpecial c && !c.isDigit then [c] else (c :: rest).takeWhile isNameChar
            match (c :: rest).drop name.length with
            | '\x7d' :: after =>
                setRest after
                return .parameter (String.ofList name) .length
            | after =>
                setRest after
                let _ ← readSegments fuel (.braces isQuoted) false []
                return .parameter "" .bad
          else
            setRest (c :: rest)
            readChange fuel isQuoted "#"
      | c :: rest =>
          if isSpecial c && !c.isDigit then
            setRest rest
            readChange fuel isQuoted (String.singleton c)
          else
            let name := if c.isDigit then chars.takeWhile Char.isDigit
              else chars.takeWhile isNameChar
            setRest (chars.drop name.length)
            if name.isEmpty then
              let _ ← readSegments fuel (.braces isQuoted) false []
              return .parameter "" .bad
            else readChange fuel isQuoted (String.ofList name)
      | [] => fault "Missing '\x7d'"

/-- What happens to a parameter between braces. -/
def readChange : Nat → Bool → String → Reading Piece
  | 0, _, _ => fault "Word too long"
  | fuel + 1, isQuoted, name => do
      let chars := (← get).rest
      let (orEmpty, chars) := match chars with
        | ':' :: rest => (true, rest)
        | chars => (false, chars)
      let (change, rest) : (Word → Change) × List Char := match orEmpty, chars with
        | false, '\x7d' :: _ => (fun _ => .plain, chars)
        | _, '-' :: rest => (.default orEmpty, rest)
        | _, '=' :: rest => (.assign orEmpty, rest)
        | _, '?' :: rest => (.demand orEmpty, rest)
        | _, '+' :: rest => (.alternative orEmpty, rest)
        | false, '#' :: '#' :: rest => (.trim false true, rest)
        | false, '#' :: rest => (.trim false false, rest)
        | false, '%' :: '%' :: rest => (.trim true true, rest)
        | false, '%' :: rest => (.trim true false, rest)
        | _, rest => (fun _ => .bad, rest)
      setRest rest
      let isTrim := change [] matches .trim ..
      let word ← readSegments fuel (.braces (isQuoted && !isTrim)) false []
      return .parameter name (change word)

/-- The next token. Lines are passed over if `lines` says so, and words with a meaning are marks if
`meanings` says so. -/
def readToken : Nat → Bool → Bool → Reading Token
  | 0, _, _ => fault "Script too long"
  | fuel + 1, lines, meanings => do
      let token ← match (← get).kept with
        | some token =>
            modify ({ · with kept := none })
            pure token
        | none => readFresh fuel
      match token with
      | .newline => if lines then readToken fuel lines meanings else return token
      | token => return if meanings then token.toKeyword else token

/-- The next token of the text. -/
def readFresh : Nat → Reading Token
  | 0 => fault "Script too long"
  | fuel + 1 => do
      let chars := (← get).rest
      match chars with
      | [] => return .endOfFile
      | '\\' :: '\n' :: rest =>
          nextLine rest
          readFresh fuel
      | '\n' :: rest =>
          nextLine rest
          return .newline
      | c :: rest =>
          if c = ' ' || c = '\t' then
            setRest rest
            readFresh fuel
          else if c = '#' then
            setRest (rest.dropWhile (· ≠ '\n'))
            readFresh fuel
          else
            match readSign? redirectionSigns chars, readSign? operators chars with
            | some (sign, rest), _ =>
                setRest rest
                return .redirection none sign
            | none, some (sign, rest) =>
                setRest rest
                return .mark sign
            | none, none =>
                match readSign? redirectionSigns rest with
                | some (sign, after) =>
                    if c.isDigit then
                      setRest after
                      return .redirection (some (c.toNat - 48)) sign
                    else return .word (← readSegments fuel .word false [])
                | none => return .word (← readSegments fuel .word false [])

/-- The redirection that a sign introduces. -/
def readRedirection : Nat → Option Nat → String → Reading Redirection
  | 0, _, _ => fault "Script too long"
  | fuel + 1, stream, sign => do
      match ← readToken fuel false false with
      | .word word =>
          match sign with
          | "<" | "<>" => return .fromFile (stream.getD 0) word
          | ">>" => return .toFile (stream.getD 1) true word
          | ">&" => return .copy (stream.getD 1) word
          | "<&" => return .copy (stream.getD 0) word
          | "<<" | "<<-" =>
              let isQuoted := word.any Segment.isQuoted
              let ending := ((plainText? word).getD "").toList
              let source ← get
              let (body, rest, count) := takeHere (sign = "<<-") ending source.rest
              let text ← if isQuoted then pure (quotedWord body) else
                match (readSegments fuel .here false []).run ⟨body, source.line, 0, none⟩ with
                | .ok (text, _) => pure text
                | .error reason => throw reason
              set { source with rest, ahead := source.ahead + count }
              return .here (stream.getD 0) text
          | _ => return .toFile (stream.getD 1) false word
      | token => unexpected token

/-- The redirections after a command. -/
def readRedirections : Nat → List Redirection → Reading (List Redirection)
  | 0, _ => fault "Script too long"
  | fuel + 1, done => do
      match ← readToken fuel false true with
      | .redirection stream sign =>
          let redirection ← readRedirection fuel stream sign
          readRedirections fuel (done ++ [redirection])
      | token =>
          keep token
          return done

/-- A list of commands. Of the kinds, 0 ends at a mark and is not empty, 1 ends with the line, and
2 ends at a mark and may be empty. -/
def readList : Nat → Nat → Command → Reading Command
  | 0, _, _ => fault "Script too long"
  | fuel + 1, kind, done => do
      let token ← readToken fuel (kind ≠ 1) true
      match token with
      | .newline => return done
      | .endOfFile =>
          keep token
          return done
      | token =>
          keep token
          let atEnd := match token with
            | .mark text => kind = 2 && listEnds.contains text
            | _ => false
          if atEnd then return done
          else
            let command ← readAndOr fuel
            let next ← readToken fuel false true
            let isBackground := next.isMark "&"
            let done := done.andThen (if isBackground then .background command else command)
            let kind := if kind = 0 then 2 else kind
            match next with
            | .endOfFile | .newline =>
                keep next
                readList fuel kind done
            | next =>
                if isBackground || next.isMark ";" then readList fuel kind done
                else if kind = 1 then unexpected next
                else
                  keep next
                  return done

/-- Pipelines joined by conditions. -/
def readAndOr : Nat → Reading Command
  | 0 => fault "Script too long"
  | fuel + 1 => do
      let first ← readPipeline fuel false
      readMore fuel first

/-- What follows a pipeline. -/
def readMore : Nat → Command → Reading Command
  | 0, _ => fault "Script too long"
  | fuel + 1, first => do
      let token ← readToken fuel false true
      if token.isMark "&&" then readMore fuel (.both first (← readPipeline fuel true))
      else if token.isMark "||" then readMore fuel (.either first (← readPipeline fuel true))
      else
        keep token
        return first

/-- A pipeline. -/
def readPipeline : Nat → Bool → Reading Command
  | 0, _ => fault "Script too long"
  | fuel + 1, lines => do
      let token ← readToken fuel lines true
      let negated := token.isMark "!"
      if !negated then keep token
      let first ← readCommand fuel false
      let commands ← readStages fuel [first]
      match negated, commands with
      | false, [command] => return command
      | negated, commands => return .pipeline negated commands

/-- The commands of a pipeline after those that are done. -/
def readStages : Nat → List Command → Reading (List Command)
  | 0, _ => fault "Script too long"
  | fuel + 1, done => do
      let token ← readToken fuel false true
      if token.isMark "|" then
        let command ← readCommand fuel true
        readStages fuel (done ++ [command])
      else
        keep token
        return done

/-- A mark that has to follow. -/
def readMark : Nat → Bool → String → Reading Unit
  | 0, _, _ => fault "Script too long"
  | fuel + 1, lines, text => do
      let token ← readToken fuel lines true
      if token.isMark text then return () else unexpected token (some text)

/-- A command. -/
def readCommand : Nat → Bool → Reading Command
  | 0, _ => fault "Script too long"
  | fuel + 1, lines => do
      let token ← readToken fuel lines true
      let line := (← get).line
      match token with
      | .word _ | .redirection .. =>
          keep token
          readSimple fuel line [] [] []
      | .mark "if" => readTail fuel line (← readChoice fuel)
      | .mark "while" | .mark "until" =>
          let condition ← readList fuel 0 .nothing
          readMark fuel false "do"
          let body ← readList fuel 0 .nothing
          readMark fuel false "done"
          readTail fuel line (.loop (token.isMark "until") condition body)
      | .mark "for" =>
          match ← readToken fuel false false with
          | .word word =>
              match bareText? word with
              | some name =>
                  if isName name.toList then readTail fuel line (← readEach fuel name)
                  else fault "Bad for loop variable"
              | none => fault "Bad for loop variable"
          | _ => fault "Bad for loop variable"
      | .mark "case" =>
          match ← readToken fuel false false with
          | .word subject =>
              readMark fuel true "in"
              let cases ← readCases fuel []
              readTail fuel line (.select subject cases)
          | token => fault s!"{token.describe} unexpected (expecting word)"
      | .mark "(" =>
          let command ← readList fuel 0 .nothing
          readMark fuel false ")"
          readTail fuel line (.subshell command)
      | .mark "\x7b" =>
          let command ← readList fuel 0 .nothing
          readMark fuel false "\x7d"
          readTail fuel line command
      | token => unexpected token

/-- The redirections of a command that is put together from others. -/
def readTail : Nat → Nat → Command → Reading Command
  | 0, _, _ => fault "Script too long"
  | fuel + 1, line, command => do
      match ← readRedirections fuel [] with
      | [] => return command
      | redirections => return .redirected line command redirections

/-- A choice after its first word. -/
def readChoice : Nat → Reading Command
  | 0 => fault "Script too long"
  | fuel + 1 => do
      let condition ← readList fuel 0 .nothing
      readMark fuel false "then"
      let yes ← readList fuel 0 .nothing
      match ← readToken fuel false true with
      | .mark "elif" => return .choice condition yes (← readChoice fuel)
      | .mark "else" =>
          let no ← readList fuel 0 .nothing
          readMark fuel false "fi"
          return .choice condition yes no
      | .mark "fi" => return .choice condition yes .nothing
      | token => unexpected token (some "fi")

/-- The words of a loop and its body. -/
def readEach : Nat → String → Reading Command
  | 0, _ => fault "Script too long"
  | fuel + 1, name => do
      let token ← readToken fuel true true
      let words ← if token.isMark "in" then readItems fuel [] else do
        if !token.isMark ";" then keep token
        pure [[.mk true (.parameter "@" .plain)]]
      readMark fuel true "do"
      let body ← readList fuel 0 .nothing
      readMark fuel false "done"
      return .each name words body

/-- The words that a loop goes through. -/
def readItems : Nat → List Word → Reading (List Word)
  | 0, _ => fault "Script too long"
  | fuel + 1, done => do
      match ← readToken fuel false false with
      | .word word => readItems fuel (done ++ [word])
      | .newline | .mark ";" => return done
      | token => unexpected token

/-- The cases of a selection. -/
def readCases : Nat → List (List Word × Command) → Reading (List (List Word × Command))
  | 0, _ => fault "Script too long"
  | fuel + 1, done => do
      let token ← readToken fuel true true
      if token.isMark "esac" then return done
      else
        if !token.isMark "(" then keep token
        let patterns ← readPatterns fuel []
        let body ← readList fuel 2 .nothing
        let done := done ++ [(patterns, body)]
        let token ← readToken fuel true true
        if token.isMark "esac" then return done
        else if token.isMark ";;" then readCases fuel done
        else unexpected token (some ";;")

/-- The patterns of a case. -/
def readPatterns : Nat → List Word → Reading (List Word)
  | 0, _ => fault "Script too long"
  | fuel + 1, done => do
      match ← readToken fuel false false with
      | .word word =>
          let token ← readToken fuel false false
          if token.isMark "|" then readPatterns fuel (done ++ [word])
          else if token.isMark ")" then return done ++ [word]
          else unexpected token (some ")")
      | token => unexpected token (some ")")

/-- A simple command or the definition of a function. -/
def readSimple : Nat → Nat → List (String × Word) → List Word → List Redirection → Reading Command
  | 0, _, _, _, _ => fault "Script too long"
  | fuel + 1, line, assignments, words, redirections => do
      match ← readToken fuel false false with
      | .word word =>
          match words, assignment? word with
          | [], some assignment =>
              readSimple fuel line (assignments ++ [assignment]) words redirections
          | words, _ => readSimple fuel line assignments (words ++ [word]) redirections
      | .redirection stream sign =>
          let redirection ← readRedirection fuel stream sign
          readSimple fuel line assignments words (redirections ++ [redirection])
      | token =>
          match token.isMark "(", assignments, words, redirections with
          | true, [], [word], [] =>
              readMark fuel false ")"
              match bareText? word with
              | some name =>
                  if isName name.toList && !specialNames.contains name then
                    return .define name (← readCommand fuel true)
                  else fault "Bad function name"
              | none => fault "Bad function name"
          | _, _, _, _ =>
              keep token
              return .simple line assignments words redirections

/-- All commands of a text of its own. -/
def readWhole : Nat → Source → Reading Command
  | 0, _ => fault "Script too long"
  | fuel + 1, source =>
      match (do
          let command ← readList fuel 2 .nothing
          match ← readToken fuel true true with
          | .endOfFile => return command
          | token => unexpected token : Reading Command).run source with
      | .ok (command, _) => return command
      | .error reason => throw reason

end

/-- Enough to read a script. -/
def Source.bound (source : Source) : Nat := 32 * source.rest.length + 64

/-- The commands of the next line, and what is left; nothing at the end of the script. -/
def Source.next (source : Source) : Except ScriptFault (Option (Command × Source)) :=
  match (readList source.bound 1 .nothing).run source with
  | .error reason => .error reason
  | .ok (command, rest) =>
      match command, rest.rest, rest.kept with
      | .nothing, [], some .endOfFile => .ok none
      | command, _, some .endOfFile => .ok (some (command, { rest with kept := none }))
      | command, _, _ => .ok (some (command, rest))

end Switchboard.Shell
