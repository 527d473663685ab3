import Switchboard.Shell.Utility.Record.Program

/-!
# Records and values

A record is a line cut into fields. A value is a text and a number at once: a text of the input that
looks like a number is compared as one. Characters are bytes.
-/

namespace Switchboard.Shell.Utility.Record

open Switchboard.Text.Utf8 (Bytes)

/-! ## Values -/

/-- A value. -/
inductive Value where
  | number (value : Float)
  | text (value : String)
  /-- A text of the input, which counts as a number if it looks like one. -/
  | input (value : String)
  | nothing
  deriving Inhabited

/-- Whether a text looks like a number, blanks around it apart. -/
def looksNumeric (text : String) : Bool :=
  let chars := Text.trimChars Text.isBlank text.toList
  let chars := match chars with
    | '-' :: rest | '+' :: rest => rest
    | chars => chars
  (chars.head?.any fun c => c.isDigit || c = '.') && chars.any Char.isDigit &&
    (readNumber chars).2.isEmpty

/-- The number at the front of a text. -/
def numberAt (text : String) : Float :=
  match text.toList.dropWhile Text.isBlank with
  | '-' :: rest => -(readNumber rest).1
  | '+' :: rest => (readNumber rest).1
  | chars => (readNumber chars).1

/-- A value as a number. -/
def Value.toFloat : Value → Float
  | .number value => value
  | .text value | .input value => numberAt value
  | .nothing => 0

/-- Whether a double is a whole number that is written without a power of ten. -/
def isWhole (x : Float) : Bool := x == x.floor && x.abs < 1e16

/-- A whole double as an integer. -/
def wholeOf (x : Float) : Int :=
  if x < 0 then -((-x).toUInt64.toNat : Int) else x.toUInt64.toNat

/-- The text of a number. -/
def numberText (x : Float) : String :=
  if isWhole x then toString (wholeOf x)
  else if x < 0 then "-" ++ Decimal.general 6 (-x)
  else Decimal.general 6 x

/-- A value as a text. -/
def Value.toText : Value → String
  | .number value => numberText value
  | .text value | .input value => value
  | .nothing => ""

/-- Whether a value counts as a number in comparisons. -/
def Value.isNumeric : Value → Bool
  | .number _ | .nothing => true
  | .text _ => false
  | .input value => looksNumeric value

/-- Whether a value counts as true. -/
def Value.isTrue : Value → Bool
  | .number value => value != 0
  | .text value => value ≠ ""
  | .input value => if looksNumeric value then numberAt value != 0 else value ≠ ""
  | .nothing => false

/-- The value of a condition. -/
def ofBool (b : Bool) : Value := .number (if b then 1 else 0)

/-- The order of two values: as numbers if both look like that, and as texts otherwise. -/
def compareValues (a b : Value) : Ordering :=
  if a.isNumeric && b.isNumeric then
    if a.toFloat < b.toFloat then .lt else if b.toFloat < a.toFloat then .gt else .eq
  else compare a.toText b.toText

/-! ## State -/

/-- Why the next statement is not the one that follows. -/
inductive Jump where
  | next
  | exit
  | leave
  | again
  deriving DecidableEq

/-- The state of a run. -/
structure State where
  bindings : List (String × Value) := []
  arrays : List (String × List (String × Value)) := []
  /-- The current record, and its fields. -/
  record : String := ""
  fields : List String := []
  /-- What was written, the last part first. -/
  out : List Bytes := []
  err : List Bytes := []
  jump : Option Jump := none
  code : Nat := 0
  fault : Option String := none
  /-- The rules whose range has begun. -/
  open_ : List Nat := []

namespace State

/-- The value of a variable. -/
def get (s : State) (name : String) : Value :=
  if name = "NF" then .number (Float.ofNat s.fields.length)
  else ((s.bindings.find? (·.1 = name)).map (·.2)).getD .nothing

/-- The text of a variable. -/
def textOf (s : State) (name : String) : String := (s.get name).toText

/-- The elements of an array. -/
def array (s : State) (name : String) : List (String × Value) :=
  ((s.arrays.find? (·.1 = name)).map (·.2)).getD []

/-- Puts an array. -/
def setArray (s : State) (name : String) (elements : List (String × Value)) : State :=
  { s with arrays := (name, elements) :: s.arrays.filter (·.1 ≠ name) }

/-- Puts an element of an array. -/
def setElement (s : State) (name index : String) (value : Value) : State :=
  let elements := s.array name
  s.setArray name (if elements.any (·.1 = index) then
      elements.map fun (key, old) => if key = index then (key, value) else (key, old)
    else elements ++ [(index, value)])

/-- The record put together from its fields. -/
def rebuild (s : State) : State :=
  { s with record := Text.join (s.textOf "OFS") s.fields }

end State

/-- The pieces of a text between the matches of an expression. -/
def splitByRegex (regex : Regex) (text : String) : List String :=
  let chars := text.toList
  let line := chars.toArray
  let found := (regex.searchAll false line (line.size + 2) 0 none).filter fun f =>
    f.reached.position > f.start
  let (pieces, position) := found.foldl
    (fun ((pieces, position) : List String × Nat) (f : Regex.Found) =>
      (pieces ++ [String.ofList ((chars.drop position).take (f.start - position))],
        f.reached.position)) ([], 0)
  if text.isEmpty then [] else pieces ++ [String.ofList (chars.drop position)]

/-- The pieces of a text between separators: blanks, single characters or an expression. -/
def splitText (separator text : String) : List String :=
  if text.isEmpty then []
  else if separator = " " then
    ((Text.splitChars (fun c => c = ' ' || c = '\t' || c = '\n') text.toList).filter
      (!·.isEmpty)).map String.ofList
  else if separator.isEmpty then text.toList.map String.singleton
  else
    match separator.toList with
    | [c] => Text.splitAt c text
    | chars =>
        match Regex.ofChars true chars with
        | .error _ => [text]
        | .ok regex => splitByRegex regex text

/-- Puts a record. -/
def State.setRecord (s : State) (record : String) : State :=
  { s with record, fields := splitText (s.textOf "FS") record }

/-- Puts a variable. Setting the number of fields changes the record. -/
def State.put (s : State) (name : String) (value : Value) : State :=
  if name = "NF" then
    let count := (wholeOf value.toFloat).toNat
    let fields := s.fields.take count ++ List.replicate (count - s.fields.length) ""
    ({ s with fields }).rebuild
  else { s with bindings := (name, value) :: s.bindings.filter (·.1 ≠ name) }

/-- The value of a field. -/
def State.field (s : State) (index : Nat) : Value :=
  if index = 0 then .input s.record
  else
    match s.fields[index - 1]? with
    | some text => .input text
    | none => .nothing

/-- Puts a field. -/
def State.setField (s : State) (index : Nat) (value : Value) : State :=
  if index = 0 then s.setRecord value.toText
  else
    let fields := s.fields ++ List.replicate (index - s.fields.length) ""
    ({ s with fields := fields.set (index - 1) value.toText }).rebuild

/-- The value of an operation. -/
def operate (operator : String) (a b : Value) : Value :=
  let x := a.toFloat
  let y := b.toFloat
  match operator with
  | "+" => .number (x + y)
  | "-" => .number (x - y)
  | "*" => .number (x * y)
  | "/" => .number (x / y)
  | "%" =>
      let quotient := x / y
      .number (x - (if quotient < 0 then -(-quotient).floor else quotient.floor) * y)
  | "^" => .number (Float.pow x y)
  | "<" => ofBool (compareValues a b = .lt)
  | "<=" => ofBool (compareValues a b ≠ .gt)
  | "==" => ofBool (compareValues a b = .eq)
  | "!=" => ofBool (compareValues a b ≠ .eq)
  | ">" => ofBool (compareValues a b = .gt)
  | ">=" => ofBool (compareValues a b ≠ .lt)
  | _ => .text (a.toText ++ b.toText)

/-- The expression that a value stands for. -/
def regexOf (value : Value) : Regex :=
  ((Regex.ofChars true value.toText.toList).toOption).getD .empty

/-- Whether an expression matches somewhere in a text. -/
def matchesText (regex : Regex) (text : String) : Bool :=
  (regex.search? false text.toList.toArray 0).isSome

/-- A replacement in which a sign stands for the match. -/
def replacementOf (matched : List Char) : List Char → List Char
  | '\\' :: '&' :: rest => '&' :: replacementOf matched rest
  | '\\' :: '\\' :: rest => '\\' :: replacementOf matched rest
  | '&' :: rest => matched ++ replacementOf matched rest
  | c :: rest => c :: replacementOf matched rest
  | [] => []

/-- A text with matches replaced, and how many there were. -/
def substitute (regex : Regex) (image text : String) (all : Bool) : String × Nat :=
  let line := text.toList.toArray
  let found := regex.searchAll false line (line.size + 2) 0 none
  let found := if all then found else found.take 1
  let (done, position) := found.foldl (fun ((done, position) : List Char × Nat) f =>
    (done ++ (text.toList.drop position).take (f.start - position) ++
      replacementOf (f.text line 0) image.toList, f.reached.position)) ([], 0)
  (String.ofList (done ++ text.toList.drop position), found.length)

/-- The text of a format with its values. Numbers are whole where the format asks for that. -/
def formatted (format : String) (values : List Value) : String :=
  String.ofList (byteChars (go (format.length + 1) [] values format.toList))
where
  /-- Writes what is left of a format. -/
  go : Nat → Bytes → List Value → List Char → Bytes
    | 0, out, _, _ => out
    | _ + 1, out, _, [] => out
    | fuel + 1, out, values, '%' :: '%' :: rest => go fuel (out ++ [37]) values rest
    | fuel + 1, out, values, '%' :: rest =>
        let flags := rest.takeWhile "-0+ #".toList.contains
        let rest := rest.drop flags.length
        let (width, rest, values) : Nat × List Char × List Value := match rest with
          | '*' :: rest =>
              ((wholeOf (values.head?.getD .nothing).toFloat).toNat, rest, values.drop 1)
          | rest =>
              let digits := rest.takeWhile Char.isDigit
              ((Arithmetic.digits? 10 digits).getD 0, rest.drop digits.length, values)
        let (limit, rest) : Option Nat × List Char := match rest with
          | '.' :: rest =>
              let digits := rest.takeWhile Char.isDigit
              (some ((Arithmetic.digits? 10 digits).getD 0), rest.drop digits.length)
          | rest => (none, rest)
        match rest with
        | [] => out
        | kind :: rest =>
            let value := values.head?.getD .nothing
            let place : FormatPlace := ⟨"", flags, width, limit, kind⟩
            let left := flags.contains '-'
            let zeros := flags.contains '0'
            let bytes := match kind with
              | 's' =>
                  let chars := value.toText.toList
                  padBytes left false width (charsBytes (chars.take (limit.getD chars.length)))
              | 'c' =>
                  let chars := match value with
                    | .number n => [Char.ofNat (wholeOf n).toNat]
                    | value => value.toText.toList.take 1
                  padBytes left false width (charsBytes chars)
              | 'd' | 'i' | 'o' | 'x' | 'X' | 'u' =>
                  let x := value.toFloat
                  let whole := if x < 0 then -(-x).floor else x.floor
                  padBytes left (zeros && limit.isNone) width
                    (Text.Utf8.encode (place.whole (wholeOf whole)))
              | _ => padBytes left zeros width (Text.Utf8.encode (place.double value.toFloat))
            go fuel (out ++ bytes) (values.drop 1) rest
    | fuel + 1, out, values, c :: rest => go fuel (out ++ charsBytes [c]) values rest

/-- Notes a fault and ends the run. -/
def State.fail (s : State) (reason : String) : State :=
  { s with fault := some reason, jump := some .exit, code := 2 }

end Switchboard.Shell.Utility.Record
