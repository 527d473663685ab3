import Switchboard.Sha256
import Switchboard.Shell.Machine
import Switchboard.Shell.Utility.Search

/-!
# Small programs

The utilities that write texts and numbers, test conditions, calculate, wait, and change the files
of a disk.
-/

namespace Switchboard.Shell.Utility

open Switchboard.Text.Utf8 (Bytes)

/-! ## Texts -/

/-- Writes its arguments as the shell does: escapes are replaced. -/
def shellEcho : Utility := fun call =>
  let (newline, arguments) := match call.arguments with
    | "-n" :: rest => (false, rest)
    | arguments => (true, arguments)
  let (bytes, goesOn) := echoEscapes.unescape (Text.join " " arguments)
  { out := if newline && goesOn then ended bytes else bytes }

/-- The options at the front of the arguments of an echo. -/
def echoOptions (newline escapes : Bool) : List String → Bool × Bool × List String
  | [] => (newline, escapes, [])
  | argument :: rest =>
      match argument.toList with
      | '-' :: c :: letters =>
          if (c :: letters).all "neE".toList.contains then
            let escapes := (c :: letters).foldl (fun e c =>
              if c = 'e' then true else if c = 'E' then false else e) escapes
            echoOptions (newline && !(c :: letters).contains 'n') escapes rest
          else (newline, escapes, argument :: rest)
      | _ => (newline, escapes, argument :: rest)

/-- Writes its arguments; escapes are replaced only where an option asks for it. -/
def echo : Utility := fun call =>
  let (newline, escapes, arguments) := echoOptions true false call.arguments
  let text := Text.join " " arguments
  let rules : EscapeRules := { echoEscapes with hexadecimal := true }
  let (bytes, goesOn) := if escapes then rules.unescape text else (Text.Utf8.encode text, true)
  { out := if newline && goesOn then ended bytes else bytes }

/-- Writes its arguments by a format, as the shell does. -/
def shellPrintf : Utility := fun call =>
  let usage := "usage: printf format [arg ...]"
  match call.arguments with
  | [] | ["--"] => call.complain 2 usage
  | "--" :: format :: rest => printFormat shellPrinter call format rest
  | format :: rest =>
      match format.toList with
      | '-' :: c :: _ => call.complain 2 s!"Illegal option -{c}"
      | _ => printFormat shellPrinter call format rest

/-- Writes its arguments by a format. -/
def printf : Utility := fun call =>
  match call.arguments with
  | [] | ["--"] => call.misuse 1 "missing operand"
  | "--" :: format :: rest | format :: rest =>
      let effect := printFormat programPrinter call format rest
      match rest, format.toList.contains '%' with
      | extra :: _, false =>
          let warning := s!"warning: ignoring excess arguments, starting with '{extra}'"
          { effect with err := effect.err ++ Text.Utf8.encode s!"{call.name}: {warning}\n" }
      | _, _ => effect

/-- The last part of a path, without an ending. -/
def basename : Utility := OptionTable.run { plain := "az", valued := "s" } 1 fun call options =>
  let last (path : String) : String :=
    let chars := Text.trimCharsEnd (· = '/') path.toList
    if chars.isEmpty then (if path.isEmpty then "" else "/")
    else String.ofList (chars.reverse.takeWhile (· ≠ '/')).reverse
  let without (ending name : String) : String :=
    if Text.endsWith ending name && name ≠ ending then
      String.ofList (name.toList.take (name.length - ending.length))
    else name
  let ending := (options.value? 's').getD ""
  if options.has 'a' || options.has 's' then
    .ofText (String.join (options.operands.map fun path => without ending (last path) ++ "\n"))
  else
    match options.operands with
    | [] => call.misuse 1 "missing operand"
    | [path] => .ofText (last path ++ "\n")
    | [path, ending] => .ofText (without ending (last path) ++ "\n")
    | _ :: _ :: extra :: _ => call.misuse 1 s!"extra operand '{extra}'"

/-- A path without its last part. -/
def dirname : Utility := OptionTable.run { plain := "z" } 1 fun call options =>
  let front (path : String) : String :=
    let chars := Text.trimCharsEnd (· = '/') path.toList
    if chars.isEmpty then (if path.isEmpty then "." else "/")
    else
      let rest := chars.reverse.dropWhile (· ≠ '/')
      if rest.isEmpty then "."
      else
        let rest := rest.dropWhile (· = '/')
        if rest.isEmpty then "/" else String.ofList rest.reverse
  if options.operands.isEmpty then call.misuse 1 "missing operand"
  else .ofText (String.join (options.operands.map fun path => front path ++ "\n"))

/-- Writes one line over and over, as long as anybody reads it. -/
def yes : Utility := fun call =>
  let line := if call.arguments.isEmpty then "y\n" else Text.join " " call.arguments ++ "\n"
  let bytes := Text.Utf8.encode line
  { out := (List.replicate (65536 / bytes.length + 1) bytes).flatten, exit := .signal 13 }

/-! ## Notations -/

/-- The digits of the notation with 64 of them. -/
def digit64 (n : Nat) : UInt8 :=
  ((Text.Utf8.encode "ABCDEFGHIJKLMNOPQRSTUVWXYZabcdefghijklmnopqrstuvwxyz0123456789+/")[n]?).getD 0

/-- Bytes in the notation with 64 digits. -/
def encode64 : Bytes → Bytes
  | [] => []
  | [a] => [digit64 (a.toNat / 4), digit64 (a.toNat % 4 * 16), 61, 61]
  | [a, b] =>
      [digit64 (a.toNat / 4), digit64 (a.toNat % 4 * 16 + b.toNat / 16),
        digit64 (b.toNat % 16 * 4), 61]
  | a :: b :: c :: rest =>
      digit64 (a.toNat / 4) :: digit64 (a.toNat % 4 * 16 + b.toNat / 16) ::
        digit64 (b.toNat % 16 * 4 + c.toNat / 64) :: digit64 (c.toNat % 64) :: encode64 rest

/-- The value of a digit of the notation with 64 of them. -/
def value64? (b : UInt8) : Option Nat :=
  (List.range 64).find? fun n => digit64 n = b

/-- The bytes that digits stand for; none if there are other characters. -/
def decode64? : Bytes → Option Bytes
  | [] => some []
  | a :: b :: 61 :: [61] => do
      let x ← value64? a
      let y ← value64? b
      return [UInt8.ofNat (x * 4 + y / 16)]
  | a :: b :: c :: [61] => do
      let x ← value64? a
      let y ← value64? b
      let z ← value64? c
      return [UInt8.ofNat (x * 4 + y / 16), UInt8.ofNat (y % 16 * 16 + z / 4)]
  | a :: b :: c :: d :: rest => do
      let x ← value64? a
      let y ← value64? b
      let z ← value64? c
      let w ← value64? d
      let more ← decode64? rest
      return UInt8.ofNat (x * 4 + y / 16) :: UInt8.ofNat (y % 16 * 16 + z / 4) ::
        UInt8.ofNat (z % 4 * 64 + w) :: more
  | _ => none

/-- Cuts bytes into rows of a length. -/
def rows (width : Nat) : Nat → Bytes → List Bytes
  | 0, _ => []
  | fuel + 1, bytes =>
      if bytes.isEmpty then [] else bytes.take width :: rows width fuel (bytes.drop width)

/-- Writes files or the input in the notation with 64 digits, or reads it. -/
def base64 : Utility :=
  OptionTable.run
    { plain := "di", valued := "w"
      long := [("decode", 'd'), ("wrap", 'w'), ("ignore-garbage", 'i')] }
    1 fun call options =>
      let g := gatherAll call options.operands
      if options.has 'd' then
        match decode64? (g.content.filter (· ≠ lineFeed)) with
        | some bytes => g.effect call bytes
        | none => { call.complain 1 "invalid input" with taken := call.input.length }
      else
        let digits := encode64 g.content
        let width := ((options.value? 'w').bind String.toNat?).getD 76
        g.effect call (if width = 0 then digits else joinLines (rows width digits.length digits))

/-- The sums of files or of the input. -/
def sha256sum : Utility := OptionTable.run { plain := "bt" } 1 fun call options =>
  let g := gatherAll call options.operands
  g.effect call (Text.Utf8.encode (String.join (g.parts.map fun (name, bytes) =>
    s!"{Sha256.hexDigest bytes}  {name}\n")))

/-! ## Time -/

/-- The duration that a text gives, in milliseconds; a letter stands for the unit. -/
def duration? (text : String) : Option Nat :=
  let (chars, unit) := match text.toList.reverse with
    | 's' :: rest => (rest.reverse, 1000)
    | 'm' :: rest => (rest.reverse, 60000)
    | 'h' :: rest => (rest.reverse, 3600000)
    | 'd' :: rest => (rest.reverse, 86400000)
    | _ => (text.toList, 1000)
  if text = "infinity" || text = "inf" then some (1000 * 1000 * 1000 * 1000)
  else
    match Text.splitChars (· = '.') chars with
    | [whole] => (Arithmetic.digits? 10 whole).map (unit * ·)
    | [whole, fraction] =>
        (Arithmetic.digits? 10 (whole ++ fraction)).map fun n => n * unit / Nat.pow 10 fraction.length
    | _ => none

/-- Waits. -/
def sleep : Utility := OptionTable.run {} 1 fun call options =>
  match options.operands with
  | [] => call.misuse 1 "missing operand"
  | operands =>
      match operands.find? fun text => (duration? text).isNone with
      | some bad => call.misuse 1 s!"invalid time interval '{bad}'"
      | none => { ms := Word.total (operands.filterMap duration?) }

/-! ## Conditions -/

/-- The words of a test: what is said of a text that is no number, and of an operator that is not
understood. -/
structure TestWords where
  noNumber : String → String
  badOperator : String → String

/-- The words of the shell. -/
def shellTestWords : TestWords :=
  ⟨fun text => s!"Illegal number: {text}", fun text => s!"{text}: unexpected operator"⟩

/-- The words of the program. -/
def programTestWords : TestWords :=
  ⟨fun text => s!"invalid integer '{text}'", fun text => s!"extra argument '{text}'"⟩

/-- The whole number of a text, with blanks around it if need be. -/
def testNumber? (text : String) : Option Int :=
  let chars := Text.trimChars Text.isBlank text.toList
  match chars with
  | '-' :: rest => (Arithmetic.digits? 10 rest).map fun n => -(n : Int)
  | '+' :: rest => (Arithmetic.digits? 10 rest).map Int.ofNat
  | chars => (Arithmetic.digits? 10 chars).map Int.ofNat

/-- Whether a text is an operator on two operands. -/
def isBinary (text : String) : Bool :=
  ["=", "==", "!=", "<", ">", "-eq", "-ne", "-lt", "-le", "-gt", "-ge", "-nt", "-ot", "-ef"].contains
    text

/-- Whether a text is an operator on one operand. -/
def isUnary (text : String) : Bool :=
  match text.toList with
  | ['-', c] => "nzefdsrwxLhtbcpSugkOG".toList.contains c
  | _ => false

/-- The value of an operator on two operands. -/
def binaryValue (words : TestWords) (a operator b : String) : Except String Bool :=
  let numbers (relation : Int → Int → Bool) : Except String Bool :=
    match testNumber? a, testNumber? b with
    | some x, some y => .ok (relation x y)
    | none, _ => .error (words.noNumber a)
    | _, none => .error (words.noNumber b)
  match operator with
  | "=" | "==" => .ok (a = b)
  | "!=" => .ok (a ≠ b)
  | "<" => .ok (a < b)
  | ">" => .ok (b < a)
  | "-eq" => numbers fun x y => x = y
  | "-ne" => numbers fun x y => x ≠ y
  | "-lt" => numbers fun x y => x < y
  | "-le" => numbers fun x y => x ≤ y
  | "-gt" => numbers fun x y => x > y
  | "-ge" => numbers fun x y => x ≥ y
  | _ => .ok false

/-- The value of an operator on one operand. -/
def unaryValue (disk : Disk) (operator : Char) (a : String) : Bool :=
  match operator with
  | 'n' => a ≠ ""
  | 'z' => a = ""
  | 'd' => Machine.isDirectory disk a
  | 'f' => Machine.isFile disk a
  | 's' => (disk.read a).toOption.any (!·.isEmpty) || (Machine.isFile disk a && !disk.pathExists a)
  | 'e' | 'r' | 'w' => (Machine.locate disk ["sh", "cat"] a).toBool
  | 'x' => match Machine.locate disk ["sh", "cat"] a with
      | .ok .directory | .ok (.program _) => true
      | _ => false
  | 'c' => a = "/dev/null" || a = "/dev/zero"
  | _ => false

mutual

/-- Conditions of which one has to hold. -/
def anyOf (words : TestWords) (disk : Disk) : Nat → List String → Except String (Bool × List String)
  | 0, rest => .ok (false, rest)
  | fuel + 1, arguments => do
      let (value, rest) ← allOf words disk fuel arguments
      match rest with
      | "-o" :: rest =>
          let (other, rest) ← anyOf words disk fuel rest
          return (value || other, rest)
      | rest => return (value, rest)

/-- Conditions that all have to hold. -/
def allOf (words : TestWords) (disk : Disk) : Nat → List String → Except String (Bool × List String)
  | 0, rest => .ok (false, rest)
  | fuel + 1, arguments => do
      let (value, rest) ← single words disk fuel arguments
      match rest with
      | "-a" :: rest =>
          let (other, rest) ← allOf words disk fuel rest
          return (value && other, rest)
      | rest => return (value, rest)

/-- A single condition. -/
def single (words : TestWords) (disk : Disk) : Nat → List String →
    Except String (Bool × List String)
  | 0, rest => .ok (false, rest)
  | fuel + 1, arguments =>
      match arguments with
      | [] => .ok (false, [])
      | [a] => .ok (a ≠ "", [])
      | [a, operator] =>
          if isBinary operator && !isUnary a && a ≠ "!" then .error s!"{operator}: argument expected"
          else prefixed fuel a [operator]
      | a :: operator :: b :: rest =>
          if isBinary operator then (binaryValue words a operator b).map fun value => (value, rest)
          else prefixed fuel a (operator :: b :: rest)
where
  /-- A condition with an operator before it. -/
  prefixed (fuel : Nat) (a : String) (rest : List String) : Except String (Bool × List String) :=
    if a = "!" then (single words disk fuel rest).map fun (value, rest) => (!value, rest)
    else if a = "(" then do
      let (value, rest) ← if rest.head? = some ")" then pure (false, rest)
        else anyOf words disk fuel rest
      return (value, if rest.head? = some ")" then rest.drop 1 else rest)
    else if isUnary a then
      match a.toList, rest with
      | [_, c], operand :: rest => .ok (unaryValue disk c operand, rest)
      | _, rest => .ok (a ≠ "", rest)
    else .ok (a ≠ "", rest)

end

/-- Tests a condition. -/
def testWith (words : TestWords) : Utility := fun call =>
  match anyOf words call.disk (4 * call.arguments.length + 4) call.arguments with
  | .error reason => call.complain 2 reason
  | .ok (value, []) => .ofCode (if value then 0 else 1)
  | .ok (_, rest) =>
      -- The operand before the one that is left over is the one at fault.
      let culprit := call.arguments[call.arguments.length - rest.length - 1]?
      call.complain 2 (words.badOperator (culprit.getD ""))

/-- Tests a condition between brackets; the complaint is about a missing one. -/
def bracketWith (words : TestWords) (missing : String) : Utility := fun call =>
  if call.arguments.getLast? = some "]" then
    testWith words { call with arguments := call.arguments.dropLast }
  else call.complain 2 missing

/-! ## Numbers -/

/-- A number with places after the point, as a whole number of units of the last place. -/
def decimal? (text : String) : Option (Int × Nat) :=
  let (negative, chars) := match text.toList with
    | '-' :: rest => (true, rest)
    | '+' :: rest => (false, rest)
    | chars => (false, chars)
  let whole := chars.takeWhile Char.isDigit
  let (fraction, rest) := match chars.drop whole.length with
    | '.' :: rest => (rest.takeWhile Char.isDigit, rest.dropWhile Char.isDigit)
    | rest => ([], rest)
  let sign (n : Nat) : Int := if negative then -(n : Int) else n
  match Arithmetic.digits? 10 (whole ++ fraction), rest with
  | some n, [] => some (sign n, fraction.length)
  | some n, 'e' :: digits =>
      (Arithmetic.digits? 10 digits).map fun power => (sign (n * Nat.pow 10 power), fraction.length)
  | _, _ => none

/-- The text of a number of units of a place. -/
def decimalText (places : Nat) (n : Int) : String :=
  let digits := Decimal.digits (places + 1) n.natAbs
  let whole := digits.toList.take (digits.length - places)
  let fraction := digits.toList.drop (digits.length - places)
  (if n < 0 then "-" else "") ++ String.ofList whole ++
    (if places = 0 then "" else "." ++ String.ofList fraction)

/-- The numbers from one to another by a step, of which at most the given number. -/
def progression (step last : Int) : Nat → Int → List Int
  | 0, _ => []
  | fuel + 1, n =>
      if (step > 0 && n > last) || (step < 0 && n < last) then []
      else n :: progression step last fuel (n + step)

/-- The number of numbers that are written at most. -/
def progressionBound : Nat := 200000

/-- The options of a sequence and its operands, which may begin with a dash. -/
def sequenceOptions (separator : String) (equal : Bool) : List String →
    String × Bool × List String
  | "-s" :: text :: rest => sequenceOptions text equal rest
  | "-w" :: rest => sequenceOptions separator true rest
  | "-f" :: _ :: rest => sequenceOptions separator equal rest
  | argument :: rest =>
      match Text.after? "-s" argument with
      | some text => sequenceOptions text equal rest
      | none => (separator, equal, argument :: rest)
  | [] => (separator, equal, [])

/-- Writes a sequence of numbers. -/
def seq : Utility := fun call =>
  let (separator, equal, operands) := sequenceOptions "\n" false call.arguments
  let bounds : Except Effect (String × String × String) := match operands with
    | [] => .error (call.misuse 1 "missing operand")
    | [last] => .ok ("1", "1", last)
    | [first, last] => .ok (first, "1", last)
    | [first, step, last] => .ok (first, step, last)
    | _ :: _ :: _ :: extra :: _ => .error (call.misuse 1 s!"extra operand '{extra}'")
  match bounds with
  | .error effect => effect
  | .ok (first, step, last) =>
      match operands.find? fun text => (decimal? text).isNone with
      | some bad => call.misuse 1 s!"invalid floating point argument: '{bad}'"
      | none =>
          let read (text : String) : Int × Nat := (decimal? text).getD (0, 0)
          let shown := max (read first).2 (read step).2
          let places := max shown (read last).2
          let units (text : String) : Int := (read text).1 * (Nat.pow 10 (places - (read text).2) : Int)
          if units step = 0 then call.misuse 1 s!"invalid Zero increment value: '{step}'"
          else
            let numbers := progression (units step) (units last) progressionBound (units first)
            let texts := numbers.map fun n => decimalText shown (n / (Nat.pow 10 (places - shown) : Int))
            let width := (texts.map String.length).foldl max 0
            let texts := if equal then texts.map fun text =>
                if Text.startsWith "-" text then
                  "-" ++ String.ofList (List.replicate (width - text.length) '0' ++
                    text.toList.drop 1)
                else String.ofList (List.replicate (width - text.length) '0') ++ text
              else texts
            if texts.isEmpty then {} else .ofText (Text.join separator texts ++ "\n")

/-- A value of an expression: its text, which may be that of a number. -/
def exprNumber? (text : String) : Option Int :=
  match text.toList with
  | '-' :: rest => (Arithmetic.digits? 10 rest).map fun n => -(n : Int)
  | chars => (Arithmetic.digits? 10 chars).map Int.ofNat

/-- Whether a value counts as false. -/
def exprFalse (text : String) : Bool := text.isEmpty || exprNumber? text = some 0

/-- What an expression matches at the front of a text: the part of its first group, or the number
of characters. -/
def exprMatch (text pattern : String) : Except String String :=
  match Regex.ofChars false (textChars pattern) with
  | .error reason => .error reason
  | .ok regex =>
      let line := (textChars text).toArray
      let hasGroup := Text.contains "\\(" pattern
      match regex.longest? false line 0 with
      | none => .ok (if hasGroup then "" else "0")
      | some reached =>
          let found : Regex.Found := ⟨0, reached⟩
          if hasGroup then .ok (Text.Utf8.decodeLossy (charsBytes (found.text line 1)))
          else .ok (toString reached.position)

/-- The ranks of the operators of expressions. -/
def exprRank? : String → Option Nat
  | "|" => some 1
  | "&" => some 2
  | "<" | "<=" | "=" | "==" | "!=" | ">=" | ">" => some 3
  | "+" | "-" => some 4
  | "*" | "/" | "%" => some 5
  | ":" => some 6
  | _ => none

/-- The value of an operation. -/
def exprOperate (operator a b : String) : Except String String :=
  let numbers (f : Int → Int → Except String Int) : Except String String :=
    match exprNumber? a, exprNumber? b with
    | some x, some y => (f x y).map toString
    | _, _ => .error "non-integer argument"
  let compared (f : Ordering → Bool) : Except String String :=
    let order := match exprNumber? a, exprNumber? b with
      | some x, some y => compare x y
      | _, _ => compare a b
    .ok (if f order then "1" else "0")
  match operator with
  | "|" => .ok (if !exprFalse a then a else if !exprFalse b then b else "0")
  | "&" => .ok (if exprFalse a || exprFalse b then "0" else a)
  | "<" => compared (· = .lt)
  | "<=" => compared (· ≠ .gt)
  | "=" | "==" => compared (· = .eq)
  | "!=" => compared (· ≠ .eq)
  | ">=" => compared (· ≠ .lt)
  | ">" => compared (· = .gt)
  | "+" => numbers fun x y => .ok (x + y)
  | "-" => numbers fun x y => .ok (x - y)
  | "*" => numbers fun x y => .ok (x * y)
  | "/" => numbers fun x y => if y = 0 then .error "division by zero" else .ok (Int.tdiv x y)
  | "%" => numbers fun x y => if y = 0 then .error "division by zero" else .ok (Int.tmod x y)
  | _ => exprMatch a b

mutual

/-- An expression of operators from a rank on; `before` is the last argument that was read. -/
def exprFrom : Nat → Nat → String → List String → Except String (String × List String)
  | 0, _, _, _ => .error "syntax error"
  | fuel + 1, least, before, arguments => do
      let (value, rest) ← exprPrimary fuel before arguments
      exprMore fuel least value rest

/-- The operations that follow a value. -/
def exprMore : Nat → Nat → String → List String → Except String (String × List String)
  | 0, _, _, _ => .error "syntax error"
  | fuel + 1, least, value, arguments =>
      match arguments with
      | operator :: rest =>
          match exprRank? operator with
          | some rank =>
              if rank < least then .ok (value, arguments)
              else do
                let (other, rest) ← exprFrom fuel (rank + 1) operator rest
                exprMore fuel least (← exprOperate operator value other) rest
          | none => .ok (value, arguments)
      | [] => .ok (value, [])

/-- A value without operators around it. -/
def exprPrimary : Nat → String → List String → Except String (String × List String)
  | 0, _, _ => .error "syntax error"
  | fuel + 1, before, arguments =>
      match arguments with
      | [] => .error s!"syntax error: missing argument after '{before}'"
      | "(" :: rest => do
          let (value, rest) ← exprFrom fuel 1 "(" rest
          match rest with
          | ")" :: rest => return (value, rest)
          | _ => .error "syntax error: expecting ')' instead of end of input"
      | "length" :: rest => do
          let (value, rest) ← exprPrimary fuel "length" rest
          return (toString value.length, rest)
      | "match" :: rest => do
          let (text, rest) ← exprPrimary fuel "match" rest
          let (pattern, rest) ← exprPrimary fuel text rest
          return (← exprMatch text pattern, rest)
      | "index" :: rest => do
          let (text, rest) ← exprPrimary fuel "index" rest
          let (chars, rest) ← exprPrimary fuel text rest
          let found := text.toList.findIdx? chars.toList.contains
          return (toString ((found.map (· + 1)).getD 0), rest)
      | "substr" :: rest => do
          let (text, rest) ← exprPrimary fuel "substr" rest
          let (start, rest) ← exprPrimary fuel text rest
          let (count, rest) ← exprPrimary fuel start rest
          match exprNumber? start, exprNumber? count with
          | some start, some count =>
              if start < 1 || count < 1 then return ("", rest)
              return (String.ofList ((text.toList.drop (start - 1).toNat).take count.toNat), rest)
          | _, _ => return ("", rest)
      | value :: rest => .ok (value, rest)

end

/-- Calculates. -/
def expr : Utility := fun call =>
  match call.arguments with
  | [] => call.misuse 2 "missing operand"
  | arguments =>
      match exprFrom (8 * arguments.length + 8) 1 "" arguments with
      | .error reason => call.complain 2 reason
      | .ok (_, extra :: _) => call.complain 2 s!"syntax error: unexpected argument '{extra}'"
      | .ok (value, []) =>
          { Effect.ofText (value ++ "\n") with exit := .code (if exprFalse value then 1 else 0) }

/-! ## Files -/

/-- Changes the disk for each operand, and collects the complaints. A change that fails may leave
another disk. -/
def forEachPathLeaving (call : Call) (operands : List String)
    (complaint : String → String → String)
    (change : Disk → String → Except (String × Disk) Disk) : Effect :=
  let (disk, complaints) := operands.foldl (fun ((disk, complaints) : Disk × List String) path =>
    match change disk path with
    | .ok disk => (disk, complaints)
    | .error (reason, disk) =>
        (disk, complaints ++ [s!"{call.name}: {complaint path (plainReason reason)}\n"]))
    (call.disk, [])
  { err := Text.Utf8.encode (String.join complaints), disk := some disk
    exit := .code (if complaints.isEmpty then 0 else 1) }

/-- Changes the disk for each operand where the change does not fail, and collects the
complaints. -/
def forEachPath (call : Call) (operands : List String) (complaint : String → String → String)
    (change : Disk → String → Except String Disk) : Effect :=
  forEachPathLeaving call operands complaint fun disk path =>
    (change disk path).mapError (·, disk)

/-- Makes directories. -/
def mkdir : Utility := OptionTable.run { plain := "pv", valued := "m" } 1 fun call options =>
  if options.operands.isEmpty then call.misuse 1 "missing operand"
  else
    forEachPathLeaving call options.operands
      (fun path reason => s!"cannot create directory '{path}': {reason}")
      fun disk path =>
        if options.has 'p' then disk.makeDirectories path
        else (disk.makeDirectory path).mapError (·, disk)

/-- Makes files where there are none. -/
def touch : Utility := OptionTable.run { plain := "acm" } 1 fun call options =>
  if options.operands.isEmpty then call.misuse 1 "missing file operand"
  else
    forEachPath call options.operands (fun path reason => s!"cannot touch '{path}': {reason}")
      fun disk path => if disk.pathExists path then .ok disk else disk.write path []

/-- Removes files. -/
def rm : Utility := OptionTable.run { plain := "rRfvid" } 1 fun call options =>
  if options.operands.isEmpty then
    if options.has 'f' then {} else call.misuse 1 "missing operand"
  else
    forEachPath call options.operands (fun path reason => s!"cannot remove '{path}': {reason}")
      fun disk path =>
        match (if options.has 'r' || options.has 'R' then disk.removeAll path else disk.remove path) with
        | .ok disk => .ok disk
        | .error reason => if options.has 'f' && reason = notFound then .ok disk else .error reason

/-- Removes empty directories. -/
def rmdir : Utility := OptionTable.run { plain := "pv" } 1 fun call options =>
  if options.operands.isEmpty then call.misuse 1 "missing operand"
  else
    forEachPath call options.operands (fun path reason => s!"failed to remove '{path}': {reason}")
      fun disk path => do
        let place ← disk.resolve path
        if !disk.isTaken place then throw notFound
        if !disk.isDirectory place then throw notDirectory
        if !disk.isEmptyDirectory place then throw Disk.notEmpty
        disk.removeAll path

/-- Where a file goes: the path itself, or a path in the directory that it leads to. -/
def destination (disk : Disk) (source target : String) : String :=
  match disk.resolve target with
  | .ok place =>
      if disk.isDirectory place then Path.join target ((Path.steps source).getLast?.getD "") else target
  | .error _ => target

/-- Copies or moves a file. -/
def transfer (moves : Bool) : Utility :=
  OptionTable.run { plain := "fRrapvin", valued := "t" } 1 fun call options =>
    match options.operands with
    | [] => call.misuse 1 "missing file operand"
    | [source] => call.misuse 1 s!"missing destination file operand after '{source}'"
    | operands =>
        let target := operands.getLast?.getD ""
        let verb := if moves then "move" else "copy"
        forEachPath call operands.dropLast
          (fun path reason =>
            if reason = "No such file or directory" && !call.disk.pathExists path then
              s!"cannot stat '{path}': {reason}"
            else s!"cannot {verb} '{path}' to '{destination call.disk path target}': {reason}")
          fun disk path => do
            let there := destination disk path target
            if moves then disk.rename path there
            else disk.write there (← disk.read path)

/-- The names in a directory, in the order of their bytes. -/
def namesIn (disk : Disk) (place : Place) : List String :=
  let below := disk.directories ++ disk.files.map (·.1)
  let names := (below.filterMap fun other =>
    match Disk.below? place other with
    | some (name :: _) => some name
    | _ => none).eraseDups
  names.mergeSort fun a b => compareBytes (Text.Utf8.encode a) (Text.Utf8.encode b) ≠ .gt

/-- Lists directories. -/
def ls : Utility := OptionTable.run { plain := "1aAFd" } 2 fun call options =>
  let operands := if options.operands.isEmpty then ["."] else options.operands
  let shown (names : List String) : List String :=
    let names := if options.has 'a' || options.has 'A' then names
      else names.filter fun name => !Text.startsWith "." name
    if options.has 'a' then "." :: ".." :: names else names
  let sorted := operands.mergeSort fun a b =>
    compareBytes (Text.Utf8.encode a) (Text.Utf8.encode b) ≠ .gt
  let missing := sorted.filter fun path => !(Machine.locate call.disk [] path).toBool
  let present := sorted.filter fun path => (Machine.locate call.disk [] path).toBool
  let isFolder (path : String) : Bool := Machine.isDirectory call.disk path && !options.has 'd'
  let plain := present.filter fun path => !isFolder path
  let folders := present.filter isFolder
  let sections := folders.map fun path =>
    let names := match call.disk.resolve path with
      | .ok place => shown (namesIn call.disk place)
      | .error _ => []
    (if operands.length > 1 then path ++ ":\n" else "") ++ String.join (names.map (· ++ "\n"))
  let blocks := (if plain.isEmpty then [] else [String.join (plain.map (· ++ "\n"))]) ++ sections
  { out := Text.Utf8.encode (Text.join "\n" blocks)
    err := Text.Utf8.encode (String.join (missing.map fun path =>
      s!"{call.name}: cannot access '{path}': No such file or directory\n"))
    exit := .code (if missing.isEmpty then 0 else 2) }

/-- Writes the current directory. -/
def pwd : Utility := fun call => .ofText (Path.ofParts call.disk.current ++ "\n")

/-- Writes the name of the system. -/
def uname : Utility := OptionTable.run { plain := "so" } 1 fun _ options =>
  .ofText (if options.has 'o' then "GNU/Linux\n" else "Linux\n")

end Switchboard.Shell.Utility
