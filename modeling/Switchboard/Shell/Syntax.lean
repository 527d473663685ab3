/-!
# Shell scripts

The language of the shell as data: words with quotes, parameters, sums and substitutions in them,
redirections, and commands that are simple or put together from others.
-/

namespace Switchboard.Shell

mutual

/-- A piece of a word. -/
inductive Piece where
  | text (chars : List Char)
  /-- The value of a parameter. -/
  | parameter (name : String) (change : Change)
  /-- What a command writes. -/
  | output (command : Command)
  /-- The value of an arithmetic expression. -/
  | sum (expression : List Segment)

/-- A piece, and whether it stands between quotes. -/
inductive Segment where
  | mk (quoted : Bool) (piece : Piece)

/-- What happens to the value of a parameter on its way into a word. -/
inductive Change where
  | plain
  /-- Its length is taken. -/
  | length
  /-- A word stands in for a value that is missing, or also for an empty one. -/
  | default (orEmpty : Bool) (word : List Segment)
  /-- As before, and the parameter keeps the value. -/
  | assign (orEmpty : Bool) (word : List Segment)
  /-- A missing value is a fault, with a word that says so. -/
  | demand (orEmpty : Bool) (word : List Segment)
  /-- A word takes the place of a value. -/
  | alternative (orEmpty : Bool) (word : List Segment)
  /-- The shortest or the longest part that a pattern matches is cut off at an end. -/
  | trim (atEnd longest : Bool) (pattern : List Segment)
  /-- Nothing that is understood. -/
  | bad

/-- A redirection of a stream. -/
inductive Redirection where
  | toFile (stream : Nat) (append : Bool) (path : List Segment)
  | fromFile (stream : Nat) (path : List Segment)
  /-- The stream goes where another one goes, or nowhere. -/
  | copy (stream : Nat) (source : List Segment)
  /-- The stream is a text of the script. -/
  | here (stream : Nat) (text : List Segment)

/-- A command. -/
inductive Command where
  | nothing
  /-- Words, after assignments and with redirections among them. -/
  | simple (line : Nat) (assignments : List (String × List Segment))
      (words : List (List Segment)) (redirections : List Redirection)
  | redirected (line : Nat) (command : Command) (redirections : List Redirection)
  | pipeline (negated : Bool) (commands : List Command)
  /-- The second one only if the first one succeeds. -/
  | both (first second : Command)
  /-- The second one only if the first one fails. -/
  | either (first second : Command)
  | sequence (first second : Command)
  | background (command : Command)
  | subshell (command : Command)
  | choice (condition yes no : Command)
  | loop (negated : Bool) (condition body : Command)
  | each (name : String) (words : List (List Segment)) (body : Command)
  | select (subject : List Segment) (cases : List (List (List Segment) × Command))
  | define (name : String) (body : Command)

end

/-- A word before its expansion. -/
abbrev Word := List Segment

instance : Inhabited Command := ⟨.nothing⟩

/-! ## Characters -/

/-- Whether a character can stand in a name. -/
def isNameChar (c : Char) : Bool := c.isAlphanum || c = '_'

/-- Whether a text is a name. -/
def isName (chars : List Char) : Bool :=
  !chars.isEmpty && chars.all isNameChar && !chars.head?.any Char.isDigit

/-- Whether a character names a special parameter. -/
def isSpecial (c : Char) : Bool := "?$#@*!-0123456789".toList.contains c

/-- Whether a character ends a word. -/
def endsWord (c : Char) : Bool := " \t\n;&|<>()".toList.contains c

/-- The characters of a segment that is written without expansions. -/
def Segment.chars? : Segment → Option (List Char)
  | .mk _ (.text chars) => some chars
  | _ => none

/-- Whether a segment stands between quotes. -/
def Segment.isQuoted : Segment → Bool
  | .mk quoted _ => quoted

/-- The text of a word that is written without expansions. -/
def plainText? (word : Word) : Option String :=
  (word.mapM Segment.chars?).map fun parts => String.ofList parts.flatten

/-- The text of a word that is written without expansions and without quotes. -/
def bareText? (word : Word) : Option String :=
  if word.any Segment.isQuoted then none else plainText? word

/-- The word with a text, as if between quotes. -/
def quotedWord (text : List Char) : Word := [.mk true (.text text)]

/-! ## Tokens -/

/-- A token of a script. -/
inductive Token where
  | endOfFile
  | newline
  | word (word : Word)
  /-- The sign of a redirection, after the stream it names. -/
  | redirection (stream : Option Nat) (sign : String)
  /-- A sign or a word with a meaning of its own. -/
  | mark (text : String)

/-- The words with a meaning of their own. -/
def keywords : List String :=
  ["!", "case", "do", "done", "elif", "else", "esac", "fi", "for", "if", "in", "then", "until",
    "while", "\x7b", "\x7d"]

/-- The marks before which a list of commands ends. -/
def listEnds : List String := [")", ";;", "do", "done", "elif", "else", "esac", "fi", "then", "\x7d"]

/-- How a token is called in a complaint. -/
def Token.describe : Token → String
  | .endOfFile => "end of file"
  | .newline => "newline"
  | .word _ => "word"
  | .redirection .. => "redirection"
  | .mark text => "\"" ++ text ++ "\""

/-- The mark that a token is, a word without quotes counting as one if it has a meaning. -/
def Token.toKeyword (token : Token) : Token :=
  match token with
  | .word written =>
      match bareText? written with
      | some text => if keywords.contains text then .mark text else token
      | none => token
  | token => token

/-- Whether a token is a mark with a text. -/
def Token.isMark (token : Token) (text : String) : Bool :=
  match token with
  | .mark found => found = text
  | _ => false

end Switchboard.Shell
