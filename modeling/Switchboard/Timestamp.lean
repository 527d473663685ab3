import Switchboard.Data.Node
import Switchboard.Text.Basic
import Switchboard.Number.Decimal

/-!
# Points in time

A `Timestamp` counts the seconds since the start of 1970 in universal time, and the nanoseconds
within the second. A leap second is the second before it with a billion nanoseconds more.

Times are written in the profile of RFC 3339 with the offset `Z`, and with no fraction or the
shortest exact one of three, six or nine digits. They are read with any offset, with a blank or
either case of `T` between date and time, and with blanks between the parts.
-/

namespace Switchboard

/-- A point in universal time. -/
structure Timestamp where
  seconds : Int
  nanos : Nat
  deriving DecidableEq, Repr, Inhabited

namespace Timestamp

/-! ## The calendar -/

/-- A day of the proleptic Gregorian calendar. -/
structure Date where
  year : Int
  month : Nat
  day : Nat
  deriving DecidableEq, Repr

/-- Whether a year has 366 days. -/
def isLeap (year : Int) : Bool :=
  year % 4 = 0 && (year % 100 ≠ 0 || year % 400 = 0)

/-- The number of days of a month. -/
def monthLength (year : Int) (month : Nat) : Nat :=
  if month = 2 then (if isLeap year then 29 else 28)
  else if month = 4 ∨ month = 6 ∨ month = 9 ∨ month = 11 then 30
  else 31

/-- The days from the start of 1970 to a date, counted through years that start in March. -/
def Date.toDays (d : Date) : Int :=
  let y := if d.month ≤ 2 then d.year - 1 else d.year
  let era := y / 400
  let yearOfEra := y % 400
  let m : Int := ((d.month : Int) + 9) % 12
  let dayOfYear := (153 * m + 2) / 5 + d.day - 1
  let dayOfEra := yearOfEra * 365 + yearOfEra / 4 - yearOfEra / 100 + dayOfYear
  era * 146097 + dayOfEra - 719468

/-- The date a number of days after the start of 1970. -/
def Date.ofDays (days : Int) : Date :=
  let z := days + 719468
  let era := z / 146097
  let dayOfEra := z % 146097
  let yearOfEra := (dayOfEra - dayOfEra / 1460 + dayOfEra / 36524 - dayOfEra / 146096) / 365
  let dayOfYear := dayOfEra - (365 * yearOfEra + yearOfEra / 4 - yearOfEra / 100)
  let mp := (5 * dayOfYear + 2) / 153
  let day := dayOfYear - (153 * mp + 2) / 5 + 1
  let month := if mp < 10 then mp + 3 else mp - 9
  let year := yearOfEra + era * 400
  ⟨if month ≤ 2 then year + 1 else year, month.toNat, day.toNat⟩

/-- The earliest and the latest year a timestamp may have. -/
def yearRange : Int × Int := (-262143, 262142)

/-! ## Writing -/

/-- The date of a timestamp. -/
def date (t : Timestamp) : Date := Date.ofDays (t.seconds / 86400)

/-- The hour, minute and second of a timestamp; a leap second is the sixtieth second. -/
def clock (t : Timestamp) : Nat × Nat × Nat :=
  let s := (t.seconds % 86400).toNat
  (s / 3600, s / 60 % 60, s % 60 + t.nanos / 1000000000)

/-- A year: four digits, or a sign and at least four digits outside the years 0 to 9999. -/
def yearText (year : Int) : String :=
  if 0 ≤ year ∧ year ≤ 9999 then Decimal.digits 4 year.toNat
  else (if year < 0 then "-" else "+") ++ Decimal.digits 4 year.natAbs

/-- The date as year, month and day with dashes. -/
def dateText (t : Timestamp) : String :=
  let d := t.date
  yearText d.year ++ "-" ++ Decimal.digits 2 d.month ++ "-" ++ Decimal.digits 2 d.day

/-- Hours, minutes and seconds with colons. -/
def clockText (t : Timestamp) : String :=
  let (h, m, s) := t.clock
  Decimal.digits 2 h ++ ":" ++ Decimal.digits 2 m ++ ":" ++ Decimal.digits 2 s

/-- The fraction of the second: nothing, or a point and three, six or nine digits. -/
def fractionText (t : Timestamp) : String :=
  let n := t.nanos % 1000000000
  if n = 0 then ""
  else if n % 1000000 = 0 then "." ++ Decimal.digits 3 (n / 1000000)
  else if n % 1000 = 0 then "." ++ Decimal.digits 6 (n / 1000)
  else "." ++ Decimal.digits 9 n

/-- The exact text of a timestamp. -/
def toText (t : Timestamp) : String :=
  t.dateText ++ "T" ++ t.clockText ++ t.fractionText ++ "Z"

/-- The text of a timestamp to the second. -/
def toSecondsText (t : Timestamp) : String :=
  t.dateText ++ "T" ++ t.clockText ++ "Z"

/-- The text of a timestamp to the second, for people. -/
def toReportText (t : Timestamp) : String :=
  t.dateText ++ " " ++ t.clockText ++ " UTC"

/-- The text of a timestamp to the minute. -/
def toMinuteText (t : Timestamp) : String :=
  let (h, m, _) := t.clock
  t.dateText ++ " " ++ Decimal.digits 2 h ++ ":" ++ Decimal.digits 2 m

/-! ## Reading -/

/-- Drops white space. -/
def skip (chars : List Char) : List Char := chars.dropWhile Text.isBlank

/-- The leading decimal digits, at most `limit` of them. -/
def takeDigits : Nat → List Char → List Char × List Char
  | limit + 1, c :: rest =>
      if c.isDigit then
        let (ds, rest) := takeDigits limit rest
        (c :: ds, rest)
      else ([], c :: rest)
  | _, chars => ([], chars)

/-- The value of decimal digits. -/
def digitsValue (ds : List Char) : Nat :=
  ds.foldl (fun n c => n * 10 + (c.toNat - 48)) 0

/-- A number of one to `limit` digits after optional white space. -/
def number? (limit : Nat) (chars : List Char) : Option (Nat × List Char) :=
  match takeDigits limit (skip chars) with
  | ([], _) => none
  | (ds, rest) => some (digitsValue ds, rest)

/-- A year: up to four digits, or a sign and any number of digits. -/
def year? (chars : List Char) : Option (Int × List Char) :=
  match skip chars with
  | '-' :: rest => match takeDigits rest.length rest with
    | ([], _) => none
    | (ds, rest) => some (-(digitsValue ds : Int), rest)
  | '+' :: rest => match takeDigits rest.length rest with
    | ([], _) => none
    | (ds, rest) => some (digitsValue ds, rest)
  | chars => match takeDigits 4 chars with
    | ([], _) => none
    | (ds, rest) => some (digitsValue ds, rest)

/-- A given character after optional white space. -/
def mark? (mark : Char) (chars : List Char) : Option (List Char) :=
  match skip chars with
  | c :: rest => if c = mark then some rest else none
  | [] => none

/-- The fraction of a second in nanoseconds, if a point follows; digits after the ninth are
dropped. -/
def fraction? : List Char → Option (Nat × List Char)
  | '.' :: rest =>
      match takeDigits 9 rest with
      | ([], _) => none
      | (ds, rest) => some (digitsValue ds * Nat.pow 10 (9 - ds.length), rest.dropWhile Char.isDigit)
  | chars => some (0, chars)

/-- Two decimal digits. -/
def twoDigits? : List Char → Option (Nat × List Char)
  | a :: b :: rest => if a.isDigit && b.isDigit then some (digitsValue [a, b], rest) else none
  | _ => none

/-- Drops colons and white space. -/
def skipColons (chars : List Char) : List Char :=
  chars.dropWhile fun c => c = ':' || Text.isBlank c

/-- The offset from universal time in seconds, and what follows it. -/
def offset? (chars : List Char) : Option (Int × List Char) :=
  match chars with
  | [] => none
  | c :: rest =>
      if c = 'Z' ∨ c = 'z' then some (0, rest)
      else if ((chars.take 3).map Char.toUpper) = ['U', 'T', 'C'] then some (0, chars.drop 3)
      else if c = '+' ∨ c = '-' ∨ c = Char.ofNat 0x2212 then do
        let (hours, rest) ← twoDigits? rest
        let (minutes, rest) ← twoDigits? (skipColons rest)
        if minutes ≥ 60 then none
        else
          let total : Int := hours * 3600 + minutes * 60
          some (if c = '+' then total else -total, rest)
      else none

/-- The date part. -/
def date? (chars : List Char) : Option (Date × List Char) := do
  let (year, rest) ← year? chars
  let rest ← mark? '-' rest
  let (month, rest) ← number? 2 rest
  let rest ← mark? '-' rest
  let (day, rest) ← number? 2 rest
  if yearRange.1 ≤ year ∧ year ≤ yearRange.2 ∧ 1 ≤ month ∧ month ≤ 12 ∧ 1 ≤ day ∧
      day ≤ monthLength year month then
    some (⟨year, month, day⟩, rest)
  else none

/-- The time of day in seconds and nanoseconds. -/
def clock? (chars : List Char) : Option (Nat × Nat × List Char) := do
  let (hour, rest) ← number? 2 chars
  let rest ← mark? ':' rest
  let (minute, rest) ← number? 2 rest
  let rest ← mark? ':' rest
  let (second, rest) ← number? 2 rest
  let (nanos, rest) ← fraction? rest
  if hour ≤ 23 ∧ minute ≤ 59 ∧ second ≤ 59 then
    some (hour * 3600 + minute * 60 + second, nanos, rest)
  else if hour ≤ 23 ∧ minute ≤ 59 ∧ second = 60 then
    some (hour * 3600 + minute * 60 + 59, nanos + 1000000000, rest)
  else none

/-- Whether a timestamp is in the range of years in universal time. -/
def inRange (t : Timestamp) : Bool :=
  (Date.toDays ⟨yearRange.1, 1, 1⟩) * 86400 ≤ t.seconds &&
    t.seconds < (Date.toDays ⟨yearRange.2 + 1, 1, 1⟩) * 86400

/-- Reads a timestamp. Both the time that is written and the universal time have to be in range. -/
def ofText? (text : String) : Option Timestamp := do
  let (date, rest) ← date? text.toList
  let rest ← match rest with
    | c :: rest => if c = 'T' ∨ c = 't' ∨ c = ' ' then some rest else none
    | [] => none
  let (second, nanos, rest) ← clock? rest
  let (offset, rest) ← offset? (skip rest)
  let t : Timestamp := ⟨date.toDays * 86400 + second - offset, nanos⟩
  if (skip rest).isEmpty ∧ -86400 < offset ∧ offset < 86400 ∧ t.inRange then some t else none

/-- Reads a timestamp from a data tree. -/
def read : Data.Reading Timestamp
  | .str s => match ofText? s with
    | some t => .ok t
    | none => .error .shape
  | node => Data.Reading.mismatch node

/-- A timestamp in a data tree. -/
def toNode (t : Timestamp) : Data.Node := .str t.toText

/-- Whether one timestamp is at or before another. -/
def le (a b : Timestamp) : Bool :=
  a.seconds < b.seconds || (a.seconds = b.seconds && a.nanos ≤ b.nanos)

/-- The whole seconds from `a` to `b`, toward zero. -/
def secondsBetween (a b : Timestamp) : Int :=
  Int.tdiv ((b.seconds * 1000000000 + b.nanos) - (a.seconds * 1000000000 + a.nanos)) 1000000000

/-- The time a number of milliseconds later. -/
def addMillis (t : Timestamp) (ms : Nat) : Timestamp :=
  let nanos := t.nanos + ms % 1000 * 1000000
  ⟨t.seconds + (ms / 1000 : Nat) + (nanos / 1000000000 : Nat), nanos % 1000000000⟩

/-- The whole milliseconds from `a` to a later time `b`. -/
def millisBetween (a b : Timestamp) : Nat :=
  (((b.seconds - a.seconds) * 1000000000 + b.nanos - a.nanos) / 1000000).toNat

end Timestamp

end Switchboard
