import Switchboard.Number.Scientific
import Switchboard.Shell.Format
import Switchboard.Shell.Regex
import Switchboard.Shell.Utility.Search

/-!
# Programs on records

The programs of patterns and actions, and how they are read: a text is cut into tokens, and the
tokens are read into items, each of which says when an action is carried out.
-/

namespace Switchboard.Shell.Utility.Record

/-! ## Programs -/

/-- An expression. -/
inductive Expr where
  | number (value : Float)
  | text (value : String)
  | regex (regex : Regex)
  | name (name : String)
  | field (index : Expr)
  | element (array : String) (index : List Expr)
  | member (index : List Expr) (array : String)
  | assign (operator : String) (target value : Expr)
  /-- A step by one, before or after the value is taken. -/
  | step (first : Bool) (by_ : Float) (target : Expr)
  | choice (condition yes no : Expr)
  | binary (operator : String) (left right : Expr)
  | unary (operator : String) (value : Expr)
  | call (function : String) (arguments : List Expr)
  /-- Expressions in parentheses. -/
  | group (values : List Expr)
  deriving Inhabited

/-- A statement. -/
inductive Stmt where
  | expr (value : Expr)
  | print (formatted : Bool) (values : List Expr) (target : Option Expr)
  | block (body : List Stmt)
  | choice (condition : Expr) (yes no : Stmt)
  | loop (condition : Expr) (body : Stmt) (step : Stmt)
  /-- A loop that runs its body before it asks. -/
  | lateLoop (body : Stmt) (condition : Expr)
  | each (name array : String) (body : Stmt)
  | delete (array : String) (index : Option (List Expr))
  | skip
  | next
  | exit (code : Option Expr)
  | leave
  | again
  deriving Inhabited

/-- When an action is carried out. -/
inductive Rule where
  | start
  | finish
  | always
  | when (condition : Expr)
  | between (first last : Expr)

/-- A rule and its action. -/
structure Item where
  rule : Rule
  action : Stmt

/-! ## Tokens -/

/-- A token of a program. -/
inductive Token where
  | number (value : Float)
  | text (value : String)
  | regex (chars : List Char)
  | name (name : String)
  /-- The name of a function, right before its arguments. -/
  | function (name : String)
  | sign (text : String)
  | newline
  deriving Inhabited

/-- The signs, the longer ones first. -/
def signs : List String :=
  ["&&", "||", "==", "!=", "<=", ">=", "!~", "++", "--", "+=", "-=", "*=", "/=", "%=", "^=",
    ">>", "\x7b", "\x7d", "(", ")", "[", "]", ";", ",", "+", "-", "*", "/", "%", "^", "!", ">",
    "<", "|", "?", ":", "~", "$", "="]

/-- Whether an operand may end with a token, so that a slash after it divides. -/
def Token.endsOperand : Token → Bool
  | .number _ | .text _ | .name _ | .regex _ => true
  | .sign written => [")", "]", "$", "++", "--"].contains written
  | _ => false

/-- The words that are no names. -/
def keywords : List String :=
  ["BEGIN", "END", "if", "else", "while", "for", "do", "in", "print", "printf", "next", "exit",
    "break", "continue", "delete", "function", "func", "getline", "return"]

/-- A text between quotes, after the opening one, and what follows it. -/
def readText : Nat → List Char → List Char → Option (List Char × List Char)
  | 0, _, _ => none
  | _ + 1, _, [] => none
  | fuel + 1, done, c :: rest =>
      if c = '"' then some (done.reverse, rest)
      else if c = '\\' then
        match rest with
        | '"' :: rest => readText fuel ('"' :: done) rest
        | '/' :: rest => readText fuel ('/' :: done) rest
        | rest =>
            match ({} : EscapeRules).read rest with
            | some (bytes, rest) => readText fuel ((byteChars bytes).reverse ++ done) rest
            | none => none
      else readText fuel (c :: done) rest

/-- An expression between slashes, after the opening one, and what follows it. -/
def readRegex : List Char → List Char → Option (List Char × List Char)
  | _, [] => none
  | done, '/' :: rest => some (done.reverse, rest)
  | done, '\\' :: '/' :: rest => readRegex ('/' :: done) rest
  | done, '\\' :: c :: rest => readRegex (c :: '\\' :: done) rest
  | done, c :: rest => if c = '\n' then none else readRegex (c :: done) rest

/-- The number at the front of a text, and what follows it. -/
def readNumber (chars : List Char) : Float × List Char :=
  let whole := chars.takeWhile Char.isDigit
  let rest := chars.drop whole.length
  let (fraction, rest) := match rest with
    | '.' :: rest => (rest.takeWhile Char.isDigit, rest.dropWhile Char.isDigit)
    | rest => ([], rest)
  let power : Option (Bool × List Char × List Char) := match rest with
    | e :: sign :: more =>
        if e = 'e' || e = 'E' then
          let (negative, digits) := if sign = '-' then (true, more)
            else if sign = '+' then (false, more) else (false, sign :: more)
          let digits' := digits.takeWhile Char.isDigit
          if digits'.isEmpty then none else some (negative, digits', digits.drop digits'.length)
        else none
    | _ => none
  let value (digits : List Char) : Nat := digits.foldl (fun n c => 10 * n + (c.toNat - 48)) 0
  let mantissa := value (whole ++ fraction)
  let (power, rest) : Int × List Char := match power with
    | some (negative, digits, rest) =>
        (if negative then -(value digits : Int) else (value digits : Int), rest)
    | none => (0, rest)
  let shift := power - fraction.length
  (if shift < 0 then Float.ofScientific mantissa true (-shift).toNat
    else Float.ofScientific mantissa false shift.toNat, rest)

/-- The tokens of a program after those that are done, the last one first. -/
def tokens : Nat → List Token → List Char → Except String (List Token)
  | 0, done, _ => .ok done.reverse
  | _ + 1, done, [] => .ok done.reverse
  | fuel + 1, done, c :: rest =>
      if c = ' ' || c = '\t' || c = '\r' then tokens fuel done rest
      else if c = '\n' then tokens fuel (.newline :: done) rest
      else if c = '#' then tokens fuel done (rest.dropWhile (· ≠ '\n'))
      else if c = '\\' && rest.head? = some '\n' then tokens fuel done (rest.drop 1)
      else if c = '"' then
        match readText (rest.length + 1) [] rest with
        | some (text, rest) => tokens fuel (.text (String.ofList text) :: done) rest
        | none => .error "runaway string constant \""
      else if c.isDigit || (c = '.' && rest.head?.any Char.isDigit) then
        let (value, rest) := readNumber (c :: rest)
        tokens fuel (.number value :: done) rest
      else if isNameChar c then
        let chars := (c :: rest).takeWhile isNameChar
        let rest := (c :: rest).drop chars.length
        let name := String.ofList chars
        let isCall := rest.head? = some '(' && !keywords.contains name
        tokens fuel ((if isCall then .function name else .name name) :: done) rest
      else if c = '/' && !done.head?.any Token.endsOperand then
        match readRegex [] rest with
        | some (chars, rest) => tokens fuel (.regex chars :: done) rest
        | none => .error "regular expression compile failed"
      else
        match signs.findSome? fun s => (Text.dropLead? s.toList (c :: rest)).map fun r => (s, r) with
        | some (sign, rest) => tokens fuel (.sign sign :: done) rest
        | none => .error s!"syntax error at or near {c}"

/-! ## Reading -/

/-- A reader of programs. -/
abbrev Reading := StateT (List Token) (Except String)

/-- How a token is called in a complaint. -/
def Token.describe : Token → String
  | .number value => Decimal.general 6 value
  | .text value => value
  | .regex chars => "/" ++ String.ofList chars ++ "/"
  | .name found | .function found => found
  | .sign found => found
  | .newline => "end of line"

/-- Gives up at the next token. -/
def unexpected : Reading α := do
  match ← get with
  | token :: _ => throw s!"syntax error at or near {token.describe}"
  | [] => throw "syntax error at or near end of line"

/-- Passes over the next token if it is a certain sign. -/
def sign? (text : String) : Reading Bool := do
  match ← get with
  | .sign found :: rest => if found = text then set rest; return true else return false
  | _ => return false

/-- Passes over a certain sign. -/
def expect (text : String) : Reading Unit := do
  if !(← sign? text) then unexpected

/-- Passes over a certain word, if it comes next. -/
def word? (text : String) : Reading Bool := do
  match ← get with
  | .name found :: rest => if found = text then set rest; return true else return false
  | _ => return false

/-- Passes over the ends of lines, and over semicolons if `semicolons` says so. -/
def skipLines (semicolons : Bool) : Reading Unit :=
  modify fun tokens => tokens.dropWhile fun
    | .newline => true
    | .sign ";" => semicolons
    | _ => false

/-- Whether the next token can begin an operand. -/
def startsOperand : Token → Bool
  | .number _ | .text _ | .regex _ | .function _ => true
  | .name name => !keywords.contains name
  | .sign text => ["(", "$", "!", "-", "+", "++", "--"].contains text
  | .newline => false

/-- The operators by rank, of which a higher one binds closer. Signs of comparison are not understood
as such where output may be redirected. -/
def rankOf? (redirects : Bool) (text : String) : Option Nat :=
  match text with
  | "||" => some 2
  | "&&" => some 3
  | "~" | "!~" => some 5
  | ">" => if redirects then none else some 6
  | "<" | "<=" | "==" | "!=" | ">=" => some 6
  | "+" | "-" => some 8
  | "*" | "/" | "%" => some 9
  | _ => none

/-- The operators of assignments. -/
def assignmentSigns : List String := ["=", "+=", "-=", "*=", "/=", "%=", "^="]

/-- Whether a value can be assigned to an expression. -/
def Expr.isTarget : Expr → Bool
  | .name _ | .field _ | .element .. => true
  | _ => false

mutual

/-- An expression; `redirects` says whether a sign of comparison may redirect the output. -/
def readExpr : Nat → Bool → Reading Expr
  | 0, _ => throw "program too long"
  | fuel + 1, redirects => do
      let left ← readRanked fuel redirects 2
      match ← get with
      | .sign "?" :: rest =>
          set rest
          let yes ← readExpr fuel redirects
          expect ":"
          let no ← readExpr fuel redirects
          return .choice left yes no
      | .sign operator :: rest =>
          if assignmentSigns.contains operator && left.isTarget then
            set rest
            let value ← readExpr fuel redirects
            return .assign (String.ofList operator.toList.dropLast) left value
          else return left
      | _ => return left

/-- Operations from a rank on. -/
def readRanked : Nat → Bool → Nat → Reading Expr
  | 0, _, _ => throw "program too long"
  | fuel + 1, redirects, least => do
      let left ← readUnary fuel redirects
      readMore fuel redirects least left

/-- The operations that follow a value. -/
def readMore : Nat → Bool → Nat → Expr → Reading Expr
  | 0, _, _, _ => throw "program too long"
  | fuel + 1, redirects, least, left => do
      match ← get with
      | .sign operator :: rest =>
          match rankOf? redirects operator with
          | some rank =>
              if rank < least then return left
              else
                set rest
                if rank ≤ 3 then skipLines false
                let right ← readRanked fuel redirects (rank + 1)
                readMore fuel redirects least (.binary operator left right)
          | none => concatenation fuel redirects least left
      | .name "in" :: .name array :: rest =>
          if least ≤ 4 then
            set rest
            readMore fuel redirects least (.member [left] array)
          else return left
      | _ => concatenation fuel redirects least left

/-- A value that follows without an operator. -/
def concatenation : Nat → Bool → Nat → Expr → Reading Expr
  | 0, _, _, _ => throw "program too long"
  | fuel + 1, redirects, least, left => do
      match ← get with
      | token :: _ =>
          if least ≤ 7 && startsOperand token then
            let right ← readRanked fuel redirects 8
            readMore fuel redirects least (.binary "" left right)
          else return left
      | [] => return left

/-- A value with operators before it. -/
def readUnary : Nat → Bool → Reading Expr
  | 0, _ => throw "program too long"
  | fuel + 1, redirects => do
      match ← get with
      | .sign "!" :: rest =>
          set rest
          return .unary "!" (← readUnary fuel redirects)
      | .sign "-" :: rest =>
          set rest
          return .unary "-" (← readUnary fuel redirects)
      | .sign "+" :: rest =>
          set rest
          return .unary "+" (← readUnary fuel redirects)
      | _ =>
          let base ← readPostfix fuel
          if ← sign? "^" then
            return .binary "^" base (← readUnary fuel redirects)
          else return base

/-- A value with steps around it. -/
def readPostfix : Nat → Reading Expr
  | 0 => throw "program too long"
  | fuel + 1 => do
      match ← get with
      | .sign "++" :: rest =>
          set rest
          return .step true 1 (← readPrimary fuel)
      | .sign "--" :: rest =>
          set rest
          return .step true (-1) (← readPrimary fuel)
      | _ =>
          let value ← readPrimary fuel
          if value.isTarget then
            if ← sign? "++" then return .step false 1 value
            else if ← sign? "--" then return .step false (-1) value
            else return value
          else return value

/-- A value without operators. -/
def readPrimary : Nat → Reading Expr
  | 0 => throw "program too long"
  | fuel + 1 => do
      match ← get with
      | .number value :: rest =>
          set rest
          return .number value
      | .text value :: rest =>
          set rest
          return .text value
      | .regex chars :: rest =>
          set rest
          match Regex.ofChars true chars with
          | .ok regex => return .regex regex
          | .error reason => throw s!"regular expression compile failed ({reason})"
      | .sign "$" :: rest =>
          set rest
          match ← get with
          | .sign "++" :: rest =>
              set rest
              return .field (.step true 1 (← readPrimary fuel))
          | .sign "-" :: rest =>
              set rest
              return .field (.unary "-" (← readPrimary fuel))
          | _ => return .field (← readPrimary fuel)
      | .sign "(" :: rest =>
          set rest
          let values ← readList fuel
          expect ")"
          match values, ← get with
          | [value], _ => return .group [value]
          | values, .name "in" :: .name array :: rest =>
              set rest
              return .member values array
          | values, _ => return .group values
      | .function name :: .sign "(" :: rest =>
          set rest
          let values ← if ← sign? ")" then pure [] else do
            let values ← readList fuel
            expect ")"
            pure values
          return .call name values
      | .name name :: rest =>
          if keywords.contains name then unexpected
          else
            set rest
            if name = "length" then return .call "length" []
            else if ← sign? "[" then
              let index ← readList fuel
              expect "]"
              return .element name index
            else return .name name
      | _ => unexpected

/-- Expressions with commas between them. -/
def readList : Nat → Reading (List Expr)
  | 0 => throw "program too long"
  | fuel + 1 => do
      let first ← readExpr fuel false
      if ← sign? "," then
        skipLines false
        return first :: (← readList fuel)
      else return [first]

end

/-- The values of a print statement. -/
def readPrinted : Nat → Reading (List Expr)
  | 0 => throw "program too long"
  | fuel + 1 => do
      let first ← readExpr (fuel + 1) true
      if ← sign? "," then
        skipLines false
        return first :: (← readPrinted fuel)
      else return [first]

/-- Whether a statement ends here. -/
def atStatementEnd : Reading Bool := do
  match ← get with
  | [] | .newline :: _ | .sign ";" :: _ | .sign "\x7d" :: _ => return true
  | _ => return false

/-- Passes over the end of a simple statement. -/
def endStatement : Reading Unit := do
  match ← get with
  | .newline :: rest | .sign ";" :: rest => set rest
  | .sign "\x7d" :: _ | [] => return ()
  | _ => unexpected

mutual

/-- A simple statement without its end. -/
def readSimple : Nat → Reading Stmt
  | 0 => throw "program too long"
  | fuel + 1 => do
      match ← get with
      | .name "print" :: rest | .name "printf" :: rest =>
          let formatted := (← get).head?.any fun | .name "printf" => true | _ => false
          set rest
          let isOver := (← atStatementEnd) || (← get).head?.any fun | .sign ">" => true | _ => false
          let values ← if isOver then pure [] else readPrinted fuel
          let values := match values with
            | [.group values] => values
            | values => values
          if (← sign? ">") || (← sign? ">>") then
            return .print formatted values (some (← readRanked fuel true 8))
          else return .print formatted values none
      | .name "delete" :: .name array :: rest =>
          set rest
          if ← sign? "[" then
            let index ← readList fuel
            expect "]"
            return .delete array (some index)
          else return .delete array none
      | .name "next" :: rest =>
          set rest
          return .next
      | .name "break" :: rest =>
          set rest
          return .leave
      | .name "continue" :: rest =>
          set rest
          return .again
      | .name "exit" :: rest =>
          set rest
          if ← atStatementEnd then return .exit none
          else return .exit (some (← readExpr fuel false))
      | _ => return .expr (← readExpr fuel false)

/-- A statement. -/
def readStmt : Nat → Reading Stmt
  | 0 => throw "program too long"
  | fuel + 1 => do
      skipLines false
      match ← get with
      | .sign "\x7b" :: rest =>
          set rest
          readBlock fuel []
      | .sign ";" :: rest =>
          set rest
          return .skip
      | .name "if" :: rest =>
          set rest
          expect "("
          let condition ← readExpr fuel false
          expect ")"
          let yes ← readStmt fuel
          let before ← get
          skipLines true
          if ← word? "else" then return .choice condition yes (← readStmt fuel)
          else
            set before
            return .choice condition yes .skip
      | .name "while" :: rest =>
          set rest
          expect "("
          let condition ← readExpr fuel false
          expect ")"
          return .loop condition (← readStmt fuel) .skip
      | .name "do" :: rest =>
          set rest
          let body ← readStmt fuel
          skipLines true
          if ← word? "while" then
            expect "("
            let condition ← readExpr fuel false
            expect ")"
            endStatement
            return .lateLoop body condition
          else unexpected
      | .name "for" :: .sign "(" :: .name name :: .name "in" :: .name array :: .sign ")" :: rest =>
          set rest
          return .each name array (← readStmt fuel)
      | .name "for" :: rest =>
          set rest
          expect "("
          let first ← if ← sign? ";" then pure .skip else do
            let first ← readSimple fuel
            expect ";"
            pure first
          let condition ← if ← sign? ";" then pure (.number 1) else do
            let condition ← readExpr fuel false
            expect ";"
            pure condition
          let step ← if ← sign? ")" then pure .skip else do
            let step ← readSimple fuel
            expect ")"
            pure step
          return .block [first, .loop condition (← readStmt fuel) step]
      | _ =>
          let statement ← readSimple fuel
          endStatement
          return statement

/-- The statements of a block up to its end. -/
def readBlock : Nat → List Stmt → Reading Stmt
  | 0, _ => throw "program too long"
  | fuel + 1, done => do
      skipLines true
      if ← sign? "\x7d" then return .block done
      else
        let statement ← readStmt fuel
        readBlock fuel (done ++ [statement])

end

/-- The items of a program. -/
def readItems : Nat → List Item → Reading (List Item)
  | 0, _ => throw "program too long"
  | fuel + 1, done => do
      skipLines true
      match ← get with
      | [] => return done
      | _ =>
          let rule ← if ← word? "BEGIN" then pure Rule.start
            else if ← word? "END" then pure .finish
            else
              match ← get with
              | .sign "\x7b" :: _ => pure .always
              | _ =>
                  let first ← readExpr (fuel + 1000) false
                  if ← sign? "," then
                    skipLines false
                    pure (.between first (← readExpr (fuel + 1000) false))
                  else pure (.when first)
          let action ← if ← sign? "\x7b" then readBlock (fuel + 1000) [] else
            match rule with
            | .start | .finish => unexpected
            | _ => pure (.print false [] none)
          readItems fuel (done ++ [⟨rule, action⟩])

/-- Reads a program. -/
def parse (chars : List Char) : Except String (List Item) := do
  let tokens ← tokens (chars.length + 1) [] chars
  let (items, _) ← (readItems (8 * tokens.length + 64) []).run tokens
  return items

end Switchboard.Shell.Utility.Record
