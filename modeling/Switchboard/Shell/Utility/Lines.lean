import Switchboard.Shell.Utility.Stream

/-!
# Lines

The utilities that order, select and rearrange the lines of files and of their input. Lines are
compared by their bytes.
-/

namespace Switchboard.Shell.Utility

open Switchboard.Text.Utf8 (Bytes)

/-- A byte without its case. -/
def foldByte (b : UInt8) : UInt8 := if 97 ≤ b && b ≤ 122 then b - 32 else b

/-! ## Sorting -/

/-- The number at the front of a text as a fraction over a power of ten. -/
def leadingNumber (bytes : Bytes) : Int × Nat :=
  let bytes := bytes.dropWhile isBlankByte
  let (negative, bytes) := match bytes with
    | 45 :: rest => (true, rest)
    | bytes => (false, bytes)
  let isDigit (b : UInt8) : Bool := 48 ≤ b && b ≤ 57
  let whole := bytes.takeWhile isDigit
  let fraction := match bytes.drop whole.length with
    | 46 :: rest => rest.takeWhile isDigit
    | _ => []
  let value : Nat := (whole ++ fraction).foldl (fun n b => 10 * n + (b.toNat - 48)) 0
  (if negative then -(value : Int) else value, fraction.length)

/-- The order of two texts by the numbers at their fronts. -/
def compareNumbers (a b : Bytes) : Ordering :=
  let (x, p) := leadingNumber a
  let (y, q) := leadingNumber b
  compare (x * (Nat.pow 10 q : Int)) (y * (Nat.pow 10 p : Int))

/-- A part of the lines by which they are sorted. -/
structure SortKey where
  /-- The first field and the first character in it. -/
  start : Nat × Nat
  /-- The last field and the last character in it, where zero stands for its end. -/
  stop : Option (Nat × Nat) := none
  flags : List Char := []

/-- A position of a key: a field and perhaps a character in it, and the letters after it. -/
def keyPosition? (text : List Char) : Option (Nat × Option Nat × List Char) :=
  let field := text.takeWhile Char.isDigit
  match Arithmetic.digits? 10 field, text.drop field.length with
  | some n, '.' :: rest =>
      let digits := rest.takeWhile Char.isDigit
      some (n, Arithmetic.digits? 10 digits, rest.drop digits.length)
  | some n, rest => some (n, none, rest)
  | none, _ => none

/-- A key given as an argument. -/
def sortKey? (text : String) : Option SortKey := do
  match Text.cutAt? [','] text.toList with
  | none =>
      let (field, char, flags) ← keyPosition? text.toList
      return { start := (field, char.getD 1), flags }
  | some (first, last) =>
      let (field, char, flags) ← keyPosition? first
      let (lastField, lastChar, more) ← keyPosition? last
      return { start := (field, char.getD 1), stop := some (lastField, lastChar.getD 0)
               flags := flags ++ more }

/-- The fields of a line. Without a separator a field begins with the blanks before it. -/
def fieldsOf (separator : Option UInt8) (line : Bytes) : List Bytes :=
  match separator with
  | some s => (Text.splitChars (· = Char.ofNat s.toNat) (line.map fun b => Char.ofNat b.toNat)).map
      fun field => field.map fun c => UInt8.ofNat c.toNat
  | none => blankFields [] [] line
where
  /-- The fields after those that are done and the one that has begun, all in reverse. -/
  blankFields (done : List Bytes) (current : Bytes) : Bytes → List Bytes
    | [] => (current.reverse :: done).reverse
    | b :: rest =>
        let isBlank (b : UInt8) : Bool := b = 32 || b = 9
        if isBlank b && current.head?.any (!isBlank ·) then
          blankFields (current.reverse :: done) [b] rest
        else blankFields done (b :: current) rest

/-- The part of a line that a key names. -/
def SortKey.part (key : SortKey) (separator : Option UInt8) (line : Bytes) : Bytes :=
  let fields := fieldsOf separator line
  let glue : Bytes := separator.toList
  let trimmed (field : Bytes) : Bytes :=
    if key.flags.contains 'b' then field.dropWhile isBlankByte else field
  match fields.drop (key.start.1 - 1) with
  | [] => []
  | first :: more =>
      let first := (trimmed first).drop (key.start.2 - 1)
      match key.stop with
      | none => glue.intercalate (first :: more)
      | some (field, char) =>
          let count := field - key.start.1
          if field < key.start.1 then []
          else
            let chosen := first :: more.take count
            if char = 0 then glue.intercalate chosen
            else if count = 0 then first.take (char + 1 - key.start.2)
            else glue.intercalate (chosen.dropLast ++ [(chosen.getLast?.getD []).take char])

/-- The order of two parts of lines by the letters of a key. -/
def compareBy (flags : List Char) (a b : Bytes) : Ordering :=
  let clean (bytes : Bytes) : Bytes :=
    let bytes := if flags.contains 'b' then bytes.dropWhile isBlankByte else bytes
    let bytes := if flags.contains 'd' then bytes.filter fun b =>
        isBlankByte b || (Char.ofNat b.toNat).isAlphanum else bytes
    if flags.contains 'f' then bytes.map foldByte else bytes
  let order := if flags.contains 'n' || flags.contains 'g' || flags.contains 'h' then
      compareNumbers a b
    else compareBytes (clean a) (clean b)
  if flags.contains 'r' then order.swap else order

/-- The order of two lines by keys: the first one that tells them apart decides. -/
def compareLines (keys : List SortKey) (letters : List Char) (separator : Option UInt8)
    (a b : Bytes) : Ordering :=
  match keys with
  | [] => compareBy letters a b
  | keys => keys.foldl (fun order key =>
      if order = .eq then
        let flags := if key.flags.isEmpty then letters else key.flags
        compareBy flags (key.part separator a) (key.part separator b)
      else order) .eq

/-- Keeps the first of several equal elements in a row. -/
def firstsBy (same : α → α → Bool) : List α → List α
  | a :: b :: rest => if same a b then firstsBy same (a :: rest) else a :: firstsBy same (b :: rest)
  | items => items
termination_by items => items.length

/-- The first element that may not follow the one before it, and its number; the second one has the
number `n`. -/
def firstMisplaced (follows : α → α → Bool) (n : Nat) : List α → Option (Nat × α)
  | a :: b :: rest => if follows a b then firstMisplaced follows (n + 1) (b :: rest) else some (n, b)
  | _ => none

/-- Sorts the lines of files or of the input, or checks that they are sorted. -/
def sort : Utility :=
  OptionTable.run
    { plain := "rnufbdghscCzVM", valued := "kto"
      long := [("reverse", 'r'), ("numeric-sort", 'n'), ("unique", 'u'), ("ignore-case", 'f'),
        ("key", 'k'), ("field-separator", 't'), ("stable", 's'), ("check", 'c')] }
    2 fun call options =>
      let complaint (path reason : String) : String :=
        if reason = "Is a directory" then s!"read failed: {path}: {reason}"
        else s!"cannot read: {path}: {reason}"
      let g := gather call complaint (if options.operands.isEmpty then ["-"] else options.operands)
      if !g.complaints.isEmpty then g.effect call [] 2
      else
        let letters := "rnfbdgh".toList.filter options.has
        let keys := (options.values 'k').filterMap sortKey?
        let separator := (options.value? 't').bind fun t => (Text.Utf8.encode t).head?
        let order := compareLines keys letters separator
        -- Lines that the keys do not tell apart are ordered as a whole.
        let full (a b : Bytes) : Ordering :=
          match order a b with
          | .eq =>
              if options.has 's' || options.has 'u' then .eq
              else if options.has 'r' then (compareBytes a b).swap
              else compareBytes a b
          | order => order
        let lines := bareLines g.content
        if options.has 'c' || options.has 'C' then
          let follows (a b : Bytes) : Bool :=
            if options.has 'u' then order a b = .lt else full a b ≠ .gt
          match firstMisplaced follows 2 lines with
          | none => g.effect call []
          | some (number, line) =>
              let path := options.operands.head?.getD "-"
              let text := Text.Utf8.decodeLossy line
              let complaint := s!"{call.name}: {path}:{number}: disorder: {text}\n"
              { g.effect call [] with
                err := if options.has 'C' then [] else Text.Utf8.encode complaint
                exit := .code 1 }
        else
          let lines := lines.mergeSort fun a b => full a b ≠ .gt
          g.effect call (joinLines
            (if options.has 'u' then firstsBy (fun a b => order a b = .eq) lines else lines))

/-! ## Repeated lines -/

/-- Runs of equal lines: the first line of each and how many there are. -/
def runsOf (same : Bytes → Bytes → Bool) : List Bytes → List (Bytes × Nat)
  | [] => []
  | line :: rest =>
      match runsOf same rest with
      | (other, count) :: runs =>
          if same line other then (line, count + 1) :: runs else (line, 1) :: (other, count) :: runs
      | [] => [(line, 1)]

/-- Selects one line of each run. -/
def uniq : Utility :=
  OptionTable.run
    { plain := "cduiz", valued := "fsw"
      long := [("count", 'c'), ("repeated", 'd'), ("unique", 'u'), ("ignore-case", 'i')] }
    1 fun call options =>
      let g := gatherAll call (options.operands.take 1)
      let same (a b : Bytes) : Bool :=
        if options.has 'i' then a.map foldByte == b.map foldByte else a == b
      let runs := (runsOf same (bareLines g.content)).filter fun (_, count) =>
        (!options.has 'd' || count > 1) && (!options.has 'u' || count = 1)
      g.effect call (joinLines (runs.map fun (line, count) =>
        if options.has 'c' then Text.Utf8.encode (Text.padLeft 7 (toString count) ++ " ") ++ line
        else line))

/-! ## Columns -/

/-- The ranges of a list such as `1,3-5,7-`; a range without an end has none. -/
def columnRanges? (text : String) : Option (List (Nat × Option Nat)) :=
  (Text.splitChars (fun c => c = ',' || c = ' ') text.toList).mapM fun item =>
    match Text.cutAt? ['-'] item with
    | none => (Arithmetic.digits? 10 item).map fun n => (n, some n)
    | some ([], []) => none
    | some (low, high) => do
        let low ← if low.isEmpty then some 1 else Arithmetic.digits? 10 low
        if high.isEmpty then return (low, none)
        return (low, some (← Arithmetic.digits? 10 high))

/-- The elements at the positions of ranges, or at all others. -/
def pick (ranges : List (Nat × Option Nat)) (others : Bool) (items : List α) : List α :=
  (items.zipIdx 1).filterMap fun (item, n) =>
    let inside := ranges.any fun (low, high) => low ≤ n && high.all (n ≤ ·)
    if inside != others then some item else none

/-- Cuts columns or fields out of lines. -/
def cut : Utility :=
  OptionTable.run
    { plain := "snzC", valued := "bcfdO"
      long := [("bytes", 'b'), ("characters", 'c'), ("fields", 'f'), ("delimiter", 'd'),
        ("only-delimited", 's'), ("complement", 'C'), ("output-delimiter", 'O')] }
    1 fun call options =>
      let lists := options.given.filter fun o => "bcf".toList.contains o.1
      match lists with
      | [] => call.misuse 1 "you must specify a list of bytes, characters, or fields"
      | [(kind, list)] =>
          let delimiter := (Text.Utf8.encode ((options.value? 'd').getD "\t"))
          if delimiter.length > 1 then call.misuse 1 "the delimiter must be a single character"
          else if kind ≠ 'f' && options.has 'd' then
            call.misuse 1 "an input delimiter may be specified only when operating on fields"
          else
            match columnRanges? list with
            | none =>
                if kind = 'f' then call.misuse 1 s!"invalid field value '{list}'"
                else call.misuse 1 "invalid byte or character range"
            | some ranges =>
                if ranges.any (·.1 = 0) then
                  let nouns := if kind = 'f' then "fields" else "byte/character positions"
                  call.misuse 1 s!"{nouns} are numbered from 1"
                else if ranges.any fun (low, high) => high.any (· < low) then
                  call.misuse 1 "invalid decreasing range"
                else
                  let g := gatherAll call options.operands
                  let others := options.has 'C'
                  let glue := ((options.value? 'O').map Text.Utf8.encode).getD delimiter
                  let cutLine (line : Bytes) : Option Bytes :=
                    if kind ≠ 'f' then some (pick ranges others line)
                    else
                      let fields := fieldsOf (some (delimiter.head?.getD 0)) line
                      if fields.length = 1 then if options.has 's' then none else some line
                      else some (glue.intercalate (pick ranges others fields))
                  g.effect call (joinLines ((bareLines g.content).filterMap cutLine))
      | _ => call.misuse 1 "only one list may be specified"

/-- Joins lines one after the other, the delimiters taking turns. -/
def joinWith (delimiters : List Bytes) : Nat → List Bytes → Bytes
  | _, [] => []
  | _, [line] => line
  | n, line :: rest =>
      line ++ (delimiters[n % delimiters.length]?.getD []) ++ joinWith delimiters (n + 1) rest

/-- The delimiters that a text lists. -/
def delimitersOf (text : String) : List Bytes :=
  go text.toList
where
  /-- The delimiters of characters. -/
  go : List Char → List Bytes
    | '\\' :: 'n' :: rest => [lineFeed] :: go rest
    | '\\' :: 't' :: rest => [9] :: go rest
    | '\\' :: '0' :: rest => [] :: go rest
    | '\\' :: c :: rest => charBytes c :: go rest
    | c :: rest => charBytes c :: go rest
    | [] => []

/-- Deals lines out to so many operands that take turns. -/
def deal (count : Nat) (lines : List Bytes) : List (List Bytes) :=
  (List.range count).map fun k =>
    (lines.zipIdx.filter fun (_, n) => n % count = k).map (·.1)

/-- Puts the lines of files side by side, or those of each file in one line. -/
def paste : Utility :=
  OptionTable.run
    { plain := "sz", valued := "d", long := [("serial", 's'), ("delimiters", 'd')] }
    1 fun call options =>
      let operands := if options.operands.isEmpty then ["-"] else options.operands
      let delimiters := delimitersOf ((options.value? 'd').getD "\t")
      let dashes := (operands.filter (· = "-")).length
      let g := gather call usualComplaint operands
      if !g.complaints.isEmpty then g.effect call []
      else
        let columns := g.parts.map fun (_, bytes) => bareLines bytes
        if options.has 's' then
          g.effect call (joinLines (columns.map (joinWith delimiters 0)))
        else
          let columns := if dashes > 1 then
              let shares := deal dashes (bareLines call.input)
              (operands.foldl (fun (done, shares) operand =>
                  if operand = "-" then (done ++ shares.take 1, shares.drop 1)
                  else (done ++ (columns.drop done.length).take 1, shares))
                (([], shares) : List (List Bytes) × List (List Bytes))).1
            else columns
          let rows := (columns.map List.length).foldl max 0
          g.effect call (joinLines ((List.range rows).map fun k =>
            joinWith delimiters 0 (columns.map fun column => column[k]?.getD [])))

/-! ## Other orders -/

/-- The lines of files or of the input, the last one first. -/
def tac : Utility := OptionTable.run {} 1 fun call options =>
  let g := gather call (fun path reason => s!"failed to open '{path}' for reading: {reason}")
    (if options.operands.isEmpty then ["-"] else options.operands)
  g.effect call (g.parts.flatMap fun (_, bytes) => (linesOf bytes).reverse.flatten)

/-- The lines of files or of the input, each one backwards. -/
def rev : Utility := OptionTable.run {} 1 fun call options =>
  let complaint (path reason : String) : String := s!"cannot open {path}: {reason}"
  let g := gather call complaint (if options.operands.isEmpty then ["-"] else options.operands)
  let backwards (line : Bytes) : Bytes :=
    let chars := (Text.Utf8.decodeLossy (bare line)).toList.reverse
    Text.Utf8.encode (String.ofList chars) ++ (if line.getLast? = some lineFeed then [lineFeed] else [])
  g.effect call ((linesOf g.content).flatMap backwards)

/-- Numbers the lines of files or of the input. -/
def nl : Utility :=
  OptionTable.run { plain := "p", valued := "bwsnvil" } 1 fun call options =>
    let g := gatherAll call options.operands
    let style := (options.value? 'b').getD "t"
    let width := ((options.value? 'w').bind String.toNat?).getD 6
    let separator := (options.value? 's').getD "\t"
    let start := ((options.value? 'v').bind String.toInt?).getD 1
    let step := ((options.value? 'i').bind String.toInt?).getD 1
    let written (n : Int) : String := match options.value? 'n' with
      | some "ln" => Text.padRight width (toString n)
      | some "rz" => String.ofList (List.replicate (width - (toString n).length) '0') ++ toString n
      | _ => Text.padLeft width (toString n)
    let (lines, _) := (bareLines g.content).foldl (fun ((done, n) : List Bytes × Int) line =>
      if style = "a" || (style = "t" && !line.isEmpty) then
        (done ++ [Text.Utf8.encode (written n ++ separator) ++ line], n + step)
      else
        let blank := String.ofList (List.replicate (width + separator.length) ' ')
        (done ++ [Text.Utf8.encode blank ++ line], n)) ([], start)
    g.effect call (joinLines lines)

/-- Cuts a line into pieces of a width, after blanks where `blanks` says so and there are any. -/
def pieces (width : Nat) (blanks : Bool) : Nat → Bytes → List Bytes
  | 0, line => [line]
  | fuel + 1, line =>
      if line.length ≤ width then [line]
      else
        let front := line.take width
        let upToBlank := (front.reverse.dropWhile fun b => b ≠ 32 && b ≠ 9).reverse
        let piece := if blanks && !upToBlank.isEmpty then upToBlank else front
        piece :: pieces width blanks fuel (line.drop piece.length)

/-- Breaks long lines. -/
def fold : Utility :=
  OptionTable.run
    { plain := "bs", valued := "w", long := [("width", 'w'), ("bytes", 'b'), ("spaces", 's')] } 1
    fun call options =>
      let g := gatherAll call options.operands
      let width := ((options.value? 'w').bind String.toNat?).getD 80
      let broken (line : Bytes) : Bytes :=
        let ending : Bytes := if line.getLast? = some lineFeed then [lineFeed] else []
        [lineFeed].intercalate (pieces width (options.has 's') line.length (bare line)) ++ ending
      g.effect call ((linesOf g.content).flatMap broken)

end Switchboard.Shell.Utility
