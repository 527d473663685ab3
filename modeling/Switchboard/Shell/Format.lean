import Switchboard.Number.Scientific
import Switchboard.Shell.Arithmetic
import Switchboard.Shell.Program

/-!
# Escapes and formats

Backslash escapes, and the formats that say how arguments are written. The shell has a printer of
its own, whose rules differ in small things from those of the program with the same name.
-/

namespace Switchboard.Shell

open Switchboard.Text.Utf8 (Bytes)

/-- The bytes of one character. -/
def charBytes (c : Char) : Bytes := Text.Utf8.encode (String.singleton c)

/-- The value of an octal digit. -/
def octal? (c : Char) : Option Nat :=
  if '0' ≤ c ∧ c ≤ '7' then some (c.toNat - '0'.toNat) else none

/-- Reads at most the given number of digits. -/
def readDigits (base : Nat) (value? : Char → Option Nat) : Nat → Nat → List Char → Nat × List Char
  | 0, value, chars => (value, chars)
  | _ + 1, value, [] => (value, [])
  | count + 1, value, c :: rest =>
      match value? c with
      | some digit => readDigits base value? count (base * value + digit) rest
      | none => (value, c :: rest)

/-- The character of a one-letter escape. -/
def simpleEscape? : Char → Option Char
  | 'n' => some '\n'
  | 't' => some '\t'
  | 'r' => some '\r'
  | 'a' => some '\x07'
  | 'b' => some '\x08'
  | 'e' => some '\x1b'
  | 'f' => some '\x0c'
  | 'v' => some '\x0b'
  | '\\' => some '\\'
  | _ => none

/-- Which escapes are understood. -/
structure EscapeRules where
  /-- A zero may stand before three octal digits. -/
  zeroFirst : Bool := false
  /-- A sign ends all output. -/
  stops : Bool := false
  /-- A quotation mark may be escaped. -/
  quotes : Bool := false
  /-- Hexadecimal digits follow an `x`. -/
  hexadecimal : Bool := false

/-- The bytes of the escape after a backslash, and what follows it; none where the output ends. -/
def EscapeRules.read (rules : EscapeRules) (chars : List Char) : Option (Bytes × List Char) :=
  match chars with
  | [] => some (charBytes '\\', [])
  | c :: rest =>
      let itself : Option (Bytes × List Char) := some (charBytes '\\' ++ charBytes c, rest)
      match simpleEscape? c, octal? c with
      | some image, _ => some (charBytes image, rest)
      | none, some _ =>
          if rules.zeroFirst && c = '0' then
            let (value, rest) := readDigits 8 octal? 3 0 rest
            some ([UInt8.ofNat value], rest)
          else
            let (value, rest) := readDigits 8 octal? 3 0 (c :: rest)
            some ([UInt8.ofNat value], rest)
      | none, none =>
          if c = 'c' && rules.stops then none
          else if c = '"' && rules.quotes then some (charBytes c, rest)
          else if c = 'x' && rules.hexadecimal && (rest.head?.bind Json.hexValue?).isSome then
            let (value, rest) := readDigits 16 Json.hexValue? 2 0 rest
            some ([UInt8.ofNat value], rest)
          else itself

/-- Replaces the escapes in a text; the flag says whether the output goes on after it. -/
def EscapeRules.apply (rules : EscapeRules) : Nat → Bytes → List Char → Bytes × Bool
  | 0, out, _ => (out, true)
  | _ + 1, out, [] => (out, true)
  | fuel + 1, out, '\\' :: rest =>
      match rules.read rest with
      | some (bytes, rest) => rules.apply fuel (out ++ bytes) rest
      | none => (out, false)
  | fuel + 1, out, c :: rest => rules.apply fuel (out ++ charBytes c) rest

/-- Replaces the escapes in a text. -/
def EscapeRules.unescape (rules : EscapeRules) (text : String) : Bytes × Bool :=
  rules.apply (text.length + 1) [] text.toList

/-- The escapes in what the shell echoes. -/
def echoEscapes : EscapeRules := { zeroFirst := true, stops := true }

/-- The escapes in arguments that are written with their escapes replaced. -/
def argumentEscapes : EscapeRules := { zeroFirst := true, stops := true }

/-! ## Formats -/

/-- A place for an argument. -/
structure FormatPlace where
  /-- How the place is written in the format. -/
  text : String
  flags : List Char
  width : Nat
  /-- The places after the point, or the greatest length. -/
  limit : Option Nat
  kind : Char

/-- The flavour of a printer. -/
structure PrinterRules where
  escapes : EscapeRules
  /-- What is said of an argument that is no number. -/
  noNumber : String → String
  /-- What is said of an argument that is a number only at first. -/
  partNumber : String → String
  /-- What is said of a number that is too large. -/
  largeNumber : String → String
  /-- What is said of a place that is not understood. -/
  badPlace : String → String
  /-- What is said of a percent sign at the end. -/
  noPlace : String
  /-- The code that stands for a place that is not understood. -/
  badCode : Nat

/-- The printer of the shell. -/
def shellPrinter : PrinterRules where
  escapes := {}
  noNumber text := s!"{text}: expected numeric value"
  partNumber text := s!"{text}: not completely converted"
  largeNumber text := s!"{text}: Numerical result out of range"
  badPlace text := s!"{text}: invalid directive"
  noPlace := "missing format character"
  badCode := 2

/-- The printer that is a program. -/
def programPrinter : PrinterRules where
  escapes := { stops := true, quotes := true, hexadecimal := true }
  noNumber text := s!"'{text}': expected a numeric value"
  partNumber text := s!"'{text}': value not completely converted"
  largeNumber text := s!"'{text}': Numerical result out of range"
  badPlace text := s!"{text}: invalid conversion specification"
  noPlace := "%: invalid conversion specification"
  badCode := 1

/-- What has been written, and what is left to write. -/
structure Printing where
  out : Bytes := []
  complaints : List String := []
  code : Nat := 0
  arguments : List String
  /-- Whether an argument had its place. -/
  used : Bool := false
  /-- Whether the output is over. -/
  ended : Bool := false

/-- Notes a complaint. -/
def Printing.complain (p : Printing) (code : Nat) (text : String) : Printing :=
  { p with complaints := p.complaints ++ [text], code }

/-- The next argument, empty where there is none. -/
def Printing.next (p : Printing) : String × Printing :=
  (p.arguments.head?.getD "", { p with arguments := p.arguments.drop 1, used := true })

/-- Pads to a width. -/
def padBytes (left zeros : Bool) (width : Nat) (bytes : Bytes) : Bytes :=
  let padding (b : UInt8) := List.replicate (width - bytes.length) b
  if left then bytes ++ padding 32
  else if zeros then
    match bytes with
    | 45 :: rest => 45 :: padding 48 ++ rest
    | 43 :: rest => 43 :: padding 48 ++ rest
    | bytes => padding 48 ++ bytes
  else padding 32 ++ bytes

/-- What a number in an argument is. -/
inductive NumberKind where
  | whole
  /-- Something follows it. -/
  | part
  /-- It is too large, and the largest one stands for it. -/
  | large

/-- The longest number at the front of an argument. A quotation mark stands for the code of the
character after it. -/
def wholeNumber? (argument : String) : Option (Int × NumberKind) :=
  match argument.toList with
  | '\'' :: c :: rest | '"' :: c :: rest => some (c.toNat, if rest.isEmpty then .whole else .part)
  | chars =>
      let chars := chars.dropWhile Text.isBlank
      let (negative, digits) := match chars with
        | '-' :: rest => (true, rest)
        | '+' :: rest => (false, rest)
        | chars => (false, chars)
      let lengths := (List.range (digits.length + 1)).reverse
      match lengths.findSome? fun n => (Arithmetic.number? (digits.take n)).map fun v => (v, n) with
      | some (value, n) =>
          let kind : NumberKind := if n < digits.length then .part
            else if value ≥ (Word.half64 : Int) - 1 && toString value ≠ String.ofList digits then .large
            else .whole
          some (if negative then -value else value, kind)
      | none => none

/-- The double that a text in decimal notation stands for. -/
def double? (argument : String) : Option Float :=
  let (negative, chars) := match argument.toList with
    | '-' :: rest => (true, rest)
    | '+' :: rest => (false, rest)
    | chars => (false, chars)
  let whole := chars.takeWhile Char.isDigit
  let (fraction, rest) := match chars.drop whole.length with
    | '.' :: rest => (rest.takeWhile Char.isDigit, rest.dropWhile Char.isDigit)
    | rest => ([], rest)
  let power : Option Int := match rest with
    | [] => some 0
    | 'e' :: '-' :: digits | 'E' :: '-' :: digits =>
        (Arithmetic.digits? 10 digits).map fun n => -(n : Int)
    | 'e' :: '+' :: digits | 'E' :: '+' :: digits | 'e' :: digits | 'E' :: digits =>
        (Arithmetic.digits? 10 digits).map Int.ofNat
    | _ => none
  match Arithmetic.digits? 10 (whole ++ fraction), power with
  | some mantissa, some power =>
      let shift := power - fraction.length
      let value := if shift < 0 then Float.ofScientific mantissa true (-shift).toNat
        else Float.ofScientific mantissa false shift.toNat
      some (if negative then -value else value)
  | _, _ => none

/-- A number with its sign as the flags ask for it. -/
def signedText (flags : List Char) (negative : Bool) (digits : String) : String :=
  let sign := if negative then "-"
    else if flags.contains '+' then "+"
    else if flags.contains ' ' then " "
    else ""
  sign ++ digits

/-- Writes a whole number in a place. -/
def FormatPlace.whole (place : FormatPlace) (value : Int) : String :=
  let atLeast (digits : String) : String :=
    String.ofList (List.replicate ((place.limit.getD 1) - digits.length) '0') ++ digits
  let unsigned := (value % (Word.size64 : Int)).toNat
  let inBase (base : Nat) : String := atLeast (String.ofList (Nat.toDigits base unsigned))
  let lead (mark : String) : String := if place.flags.contains '#' && unsigned ≠ 0 then mark else ""
  match place.kind with
  | 'x' => lead "0x" ++ inBase 16
  | 'X' => lead "0X" ++ String.ofList ((inBase 16).toList.map Char.toUpper)
  | 'o' => lead "0" ++ inBase 8
  | 'u' => inBase 10
  | _ => signedText place.flags (value < 0) (atLeast (toString value.natAbs))

/-- Writes a double in a place. -/
def FormatPlace.double (place : FormatPlace) (value : Float) : String :=
  let size := if value < 0 then -value else value
  let limit := place.limit.getD 6
  let text := match place.kind.toLower with
    | 'e' => Decimal.scientific limit size
    | 'g' => Decimal.general limit size
    | _ => Decimal.fixed limit size
  let text := if place.kind.isUpper then String.ofList (text.toList.map Char.toUpper) else text
  signedText place.flags (value < 0) text

/-- Writes the next argument in a place. -/
def FormatPlace.write (rules : PrinterRules) (place : FormatPlace) (p : Printing) : Printing :=
  let (argument, p) := p.next
  let left := place.flags.contains '-'
  let zeros := place.flags.contains '0'
  let clipped (bytes : Bytes) : Bytes := match place.limit with
    | some limit => bytes.take limit
    | none => bytes
  let put (zeros : Bool) (bytes : Bytes) (p : Printing) : Printing :=
    { p with out := p.out ++ padBytes left zeros place.width bytes }
  if place.kind = 's' then put false (clipped (Text.Utf8.encode argument)) p
  else if place.kind = 'c' then put false ((Text.Utf8.encode argument).take 1) p
  else if place.kind = 'b' then
    let (bytes, goesOn) := argumentEscapes.unescape argument
    { put false (clipped bytes) p with ended := !goesOn }
  else if "diouxX".toList.contains place.kind then
    let (value, p) := match wholeNumber? argument with
      | some (value, .whole) => (value, p)
      | some (value, .part) => (value, p.complain 1 (rules.partNumber argument))
      | some (value, .large) => (value, p.complain 1 (rules.largeNumber argument))
      | none => (0, if argument.isEmpty then p else p.complain 1 (rules.noNumber argument))
    put (zeros && place.limit.isNone) (Text.Utf8.encode (place.whole value)) p
  else if "fFeEgG".toList.contains place.kind then
    let (value, p) := match double? argument with
      | some value => (value, p)
      | none => (0, if argument.isEmpty then p else p.complain 1 (rules.noNumber argument))
    put zeros (Text.Utf8.encode (place.double value)) p
  else { p.complain rules.badCode (rules.badPlace place.text) with ended := true }

/-- The number at the front of a text, or the next argument where a star stands for it. -/
def readCount (p : Printing) (chars : List Char) : Option Int × List Char × Printing :=
  match chars with
  | '*' :: rest =>
      let (argument, p) := p.next
      (some ((wholeNumber? argument).elim 0 (·.1)), rest, p)
  | chars =>
      let digits := chars.takeWhile Char.isDigit
      ((Arithmetic.digits? 10 digits).map Int.ofNat, chars.drop digits.length, p)

/-- Writes what a percent sign asks for, and gives what follows it in the format. -/
def readPlace (rules : PrinterRules) (p : Printing) (chars : List Char) : Printing × List Char :=
  match chars with
  | '%' :: rest => ({ p with out := p.out ++ charBytes '%' }, rest)
  | chars =>
      let flags := chars.takeWhile "-0+ #".toList.contains
      let (width, rest, p) := readCount p (chars.drop flags.length)
      let (limit, rest, p) := match rest with
        | '.' :: rest =>
            let (limit, rest, p) := readCount p rest
            (some (limit.getD 0).toNat, rest, p)
        | rest => (none, rest, p)
      match rest with
      | [] => ({ p.complain rules.badCode rules.noPlace with ended := true }, [])
      | kind :: rest =>
          let width := width.getD 0
          let flags := if width < 0 then '-' :: flags else flags
          let text := "%" ++ String.ofList (chars.take (chars.length - rest.length))
          (FormatPlace.write rules ⟨text, flags, width.natAbs, limit, kind⟩ p, rest)

/-- Writes a format once. -/
def formatOnce (rules : PrinterRules) : Nat → Printing → List Char → Printing
  | 0, p, _ => p
  | _ + 1, p, [] => p
  | fuel + 1, p, c :: rest =>
      if p.ended then p
      else
        match c with
        | '\\' =>
            match rules.escapes.read rest with
            | some (bytes, rest) => formatOnce rules fuel { p with out := p.out ++ bytes } rest
            | none => { p with ended := true }
        | '%' =>
            let (p, rest) := readPlace rules p rest
            formatOnce rules fuel p rest
        | c => formatOnce rules fuel { p with out := p.out ++ charBytes c } rest

/-- Writes a format as often as the arguments ask for. -/
def formatAll (rules : PrinterRules) (format : List Char) : Nat → Printing → Printing
  | 0, p => p
  | fuel + 1, p =>
      let p := formatOnce rules (format.length + 1) { p with used := false } format
      if p.ended || !p.used || p.arguments.isEmpty then p else formatAll rules format fuel p

/-- Writes arguments by a format. -/
def printFormat (rules : PrinterRules) (call : Call) (format : String) (arguments : List String) :
    Effect :=
  let p := formatAll rules format.toList (arguments.length + 1) { arguments }
  { out := p.out
    err := Text.Utf8.encode (String.join (p.complaints.map fun text => s!"{call.name}: {text}\n"))
    exit := .code p.code }

end Switchboard.Shell
