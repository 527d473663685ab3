import Switchboard.Shell.CharSet
import Switchboard.Shell.Format
import Switchboard.Shell.Options

/-!
# Streams of bytes

The utilities that copy, cut, count and replace the bytes of files and of their input.
-/

namespace Switchboard.Shell.Utility

open Switchboard.Text.Utf8 (Bytes)

/-- The line feed. -/
def lineFeed : UInt8 := 10

/-- The lines of a stream, each with its end. The current line and those before it are given in
reverse. -/
def linesFrom (done : List Bytes) (current : Bytes) : Bytes → List Bytes
  | [] => (if current.isEmpty then done else current.reverse :: done).reverse
  | b :: rest =>
      if b = lineFeed then linesFrom ((b :: current).reverse :: done) [] rest
      else linesFrom done (b :: current) rest

/-- The lines of a stream, each with its end. -/
def linesOf (bytes : Bytes) : List Bytes := linesFrom [] [] bytes

/-- A line without its end. -/
def bare (line : Bytes) : Bytes :=
  if line.getLast? = some lineFeed then line.dropLast else line

/-- The lines of a stream without their ends. -/
def bareLines (bytes : Bytes) : List Bytes := (linesOf bytes).map bare

/-- A line with an end. -/
def ended (line : Bytes) : Bytes := line ++ [lineFeed]

/-- Lines with an end each. -/
def joinLines (lines : List Bytes) : Bytes := lines.flatMap ended

/-- The order of two texts by their bytes. -/
def compareBytes : Bytes → Bytes → Ordering
  | [], [] => .eq
  | [], _ :: _ => .lt
  | _ :: _, [] => .gt
  | a :: as, b :: bs => if a < b then .lt else if b < a then .gt else compareBytes as bs

/-- The words of the operating system without the number. -/
def plainReason (reason : String) : String :=
  String.ofList ((Text.splitMark " (os error".toList reason.toList).head?.getD [])

/-- What was read: the content of each operand, what is left of the input, and the complaints. -/
structure Gathered where
  parts : List (String × Bytes) := []
  left : Bytes
  complaints : List String := []

/-- All that was read. -/
def Gathered.content (g : Gathered) : Bytes := g.parts.flatMap (·.2)

/-- The complaints as bytes. -/
def Gathered.err (g : Gathered) : Bytes :=
  Text.Utf8.encode (String.join (g.complaints.map (· ++ "\n")))

/-- The content of a device. -/
def device? (path : String) : Option Bytes :=
  if path = "/dev/null" then some []
  else if path = "/dev/zero" then some (List.replicate 65536 0)
  else none

/-- Reads operands; a dash stands for the input. -/
def gather (call : Call) (complaint : String → String → String) (operands : List String) :
    Gathered :=
  operands.foldl (fun g operand =>
    if operand = "-" || operand = "/dev/stdin" then
      { g with parts := g.parts ++ [(operand, g.left)], left := [] }
    else
      match device? operand, call.disk.read operand with
      | some content, _ | none, .ok content => { g with parts := g.parts ++ [(operand, content)] }
      | none, .error reason =>
          { g with complaints := g.complaints ++
              [s!"{call.name}: {complaint operand (plainReason reason)}"] })
    { left := call.input }

/-- How most programs complain about a file. -/
def usualComplaint (path reason : String) : String := s!"{path}: {reason}"

/-- Reads operands, or the input where there are none. -/
def gatherAll (call : Call) (operands : List String) : Gathered :=
  gather call usualComplaint (if operands.isEmpty then ["-"] else operands)

/-- The end of a program that read its operands and wrote. -/
def Gathered.effect (g : Gathered) (call : Call) (out : Bytes) (code : Nat := 1) : Effect :=
  { out
    err := g.err
    exit := .code (if g.complaints.isEmpty then 0 else code)
    taken := call.input.length - g.left.length }

/-! ## Copying -/

/-- Numbers lines, all of them or those that hold something. -/
def numberLines (all : Bool) : Nat → List Bytes → List Bytes
  | _, [] => []
  | n, line :: rest =>
      if all || line ≠ [lineFeed] then
        (Text.Utf8.encode (Text.padLeft 6 (toString n) ++ "\t") ++ line) ::
          numberLines all (n + 1) rest
      else line :: numberLines all n rest

/-- Keeps one of several empty lines in a row. -/
def squeezeLines : List Bytes → List Bytes
  | a :: b :: rest =>
      if a = [lineFeed] && b = [lineFeed] then squeezeLines (b :: rest)
      else a :: squeezeLines (b :: rest)
  | lines => lines

/-- A byte in a notation that can be seen. -/
def visibleByte (b : UInt8) : Bytes :=
  let low (b : UInt8) : Bytes :=
    if b < 32 then [94, b + 64] else if b = 127 then [94, 63] else [b]
  if b = 9 || b = lineFeed then [b]
  else if b < 128 then low b
  else [77, 45] ++ low (b - 128)

/-- Copies files or the input. -/
def cat : Utility :=
  OptionTable.run
    { plain := "nbsETAvetu"
      long := [("number", 'n'), ("number-nonblank", 'b'), ("squeeze-blank", 's'),
        ("show-ends", 'E'), ("show-tabs", 'T'), ("show-all", 'A'), ("show-nonprinting", 'v')] }
    1 fun call options =>
      let g := gatherAll call options.operands
      let asked (letters : String) : Bool := letters.toList.any options.has
      let plain := options.given.isEmpty
      let lines := linesOf g.content
      let lines := if options.has 's' then squeezeLines lines else lines
      let show_ (line : Bytes) : Bytes :=
        let (body, ending) := if line.getLast? = some lineFeed then (line.dropLast, [lineFeed])
          else (line, [])
        let body := if asked "vAet" then body.flatMap visibleByte else body
        let body := if asked "TAt" then body.flatMap fun b => if b = 9 then [94, 73] else [b]
          else body
        body ++ (if asked "EAe" && !ending.isEmpty then [36] else []) ++ ending
      let lines := if options.has 'b' then numberLines false 1 (lines.map show_)
        else if options.has 'n' then numberLines true 1 (lines.map show_)
        else lines.map show_
      { g.effect call (if plain then g.content else lines.flatten) with outFirst := plain }

/-- Copies the input to files as well. -/
def tee : Utility := OptionTable.run { plain := "aip" } 1 fun call options =>
  let (disk, err) := options.operands.foldl (fun (disk, err) path =>
    if (device? path).isSome then (disk, err)
    else
      let before := if options.has 'a' then (disk.read path).toOption.getD [] else []
      match disk.write path (before ++ call.input) with
      | .ok disk => (disk, err)
      | .error reason =>
          (disk, err ++ Text.Utf8.encode s!"{call.name}: {path}: {plainReason reason}\n"))
    (call.disk, [])
  { out := call.input, err, exit := .code (if err.isEmpty then 0 else 1)
    taken := call.input.length, disk := some disk }

/-! ## Parts -/

/-- What is counted when a part of a stream is taken. -/
inductive Measure where
  | bytes
  | lines
  deriving DecidableEq

/-- The letters that multiply a count. -/
def countUnit? : List Char → Option Nat
  | [] => some 1
  | ['b'] => some 512
  | ['k'] | ['K'] => some 1024
  | ['k', 'B'] | ['K', 'B'] => some 1000
  | ['M'] => some (1024 * 1024)
  | ['M', 'B'] => some (1000 * 1000)
  | ['G'] => some (1024 * 1024 * 1024)
  | _ => none

/-- A count with a sign before it. -/
def signedCount? (text : String) : Option (Option Char × Nat) :=
  let (sign, chars) := match text.toList with
    | '-' :: rest => (some '-', rest)
    | '+' :: rest => (some '+', rest)
    | chars => (none, chars)
  let digits := chars.takeWhile Char.isDigit
  match Arithmetic.digits? 10 digits, countUnit? (chars.drop digits.length) with
  | some n, some unit => some (sign, n * unit)
  | _, _ => none

/-- The beginning of a list: so many elements, or all but so many. -/
def takeFront (count : Option Char × Nat) (items : List α) : List α :=
  match count with
  | (some '-', n) => items.take (items.length - n)
  | (_, n) => items.take n

/-- The end of a list: so many elements, or those from a position on. -/
def takeBack (count : Option Char × Nat) (items : List α) : List α :=
  match count with
  | (some '+', n) => items.drop (n - 1)
  | (_, n) => items.drop (items.length - n)

/-- The old way to write a count: digits after a dash. -/
def modernCount (arguments : List String) : List String :=
  match arguments with
  | first :: rest =>
      match first.toList with
      | '-' :: digits =>
          if !digits.isEmpty && digits.all Char.isDigit then
            "-n" :: String.ofList digits :: rest
          else arguments
      | _ => arguments
  | [] => []

/-- How many bytes are read at once. -/
def blockSize : Nat := 8192

/-- Takes a part of files or of the input. The flag says whether no more is read than needed. -/
def part (frugal : Bool) (take : {α : Type} → Option Char × Nat → List α → List α) : Utility :=
  fun call =>
    OptionTable.run
      { plain := "qvz", valued := "nc"
        long := [("lines", 'n'), ("bytes", 'c'), ("quiet", 'q'), ("silent", 'q'),
          ("verbose", 'v')] }
      1 (fun call options =>
        let (measure, text) := match options.given.reverse.find? fun o => o.1 = 'n' || o.1 = 'c' with
          | some ('c', text) => (Measure.bytes, text)
          | some (_, text) => (.lines, text)
          | none => (.lines, "10")
        match signedCount? text with
        | none =>
            let kind := if measure = .bytes then "bytes" else "lines"
            call.complain 1 s!"invalid number of {kind}: '{text}'"
        | some count =>
            let complaint (path reason : String) : String :=
              if reason = "Is a directory" then s!"error reading '{path}': {reason}"
              else s!"cannot open '{path}' for reading: {reason}"
            let operands := if options.operands.isEmpty then ["-"] else options.operands
            let g := gather call complaint operands
            let partOf (bytes : Bytes) : Bytes := match measure with
              | .bytes => take count bytes
              | .lines => (take count (linesOf bytes)).flatten
            let titled := (operands.length > 1 && !options.has 'q') || options.has 'v'
            let sections := g.parts.map fun (name, bytes) =>
              let name := if name = "-" then "standard input" else name
              let title := if titled then Text.Utf8.encode s!"==> {name} <==\n" else []
              title ++ partOf bytes
            let separator : Bytes := if titled then [lineFeed] else []
            let effect := g.effect call (separator.intercalate sections)
            let needed := effect.out.length
            let blocks := (needed + blockSize - 1) / blockSize * blockSize
            let taken := if !frugal then effect.taken
              else min effect.taken (if measure = .bytes then needed else max blockSize blocks)
            { effect with taken })
      { call with arguments := modernCount call.arguments }

/-- The beginning of files or of the input. -/
def head : Utility := part true takeFront

/-- The end of files or of the input. -/
def tail : Utility := part false takeBack

/-! ## Counting -/

/-- Whether a byte parts words. -/
def isBlankByte (b : UInt8) : Bool := b = 32 || (9 ≤ b && b ≤ 13)

/-- How many words there are, given whether the byte before belongs to one. -/
def countWords (inside : Bool) (count : Nat) : Bytes → Nat
  | [] => count
  | b :: rest =>
      if isBlankByte b then countWords false count rest
      else countWords true (if inside then count else count + 1) rest

/-- The counts of a stream that the options ask for: lines, words, characters, bytes and the
longest line. -/
def countsOf (options : Options) (bytes : Bytes) : List Nat :=
  let asked (c : Char) : Bool :=
    options.has c || (!("lwmcL".toList.any options.has) && "lwc".toList.contains c)
  [('l', fun _ => (bytes.filter (· = lineFeed)).length), ('w', fun _ => countWords false 0 bytes),
    ('m', fun _ => bytes.length), ('c', fun _ => bytes.length),
    ('L', fun _ => ((bareLines bytes).map List.length).foldl max 0)].filterMap
    fun ((c, count) : Char × (Unit → Nat)) => if asked c then some (count ()) else none

/-- Counts what files or the input hold. -/
def wc : Utility :=
  OptionTable.run
    { plain := "lwmcL"
      long := [("lines", 'l'), ("words", 'w'), ("chars", 'm'), ("bytes", 'c'),
        ("max-line-length", 'L')] }
    1 fun call options =>
      let g := gatherAll call options.operands
      let rows := g.parts.map fun (name, bytes) => (countsOf options bytes, name)
      let kinds := (countsOf options []).length
      let total := rows.foldl (fun sums (counts, _) => List.zipWith (· + ·) sums counts)
        (List.replicate kinds 0)
      let single := kinds = 1 && options.operands.length ≤ 1
      let fromInput := options.operands.isEmpty || options.operands.contains "-"
      let bytes := (g.content.length : Nat)
      let width := if single then 1 else if fromInput then 7 else (toString bytes).length
      let row (counts : List Nat) (name : String) : String :=
        let texts := counts.map fun count => Text.padLeft width (toString count)
        Text.join " " (texts ++ if name.isEmpty then [] else [name]) ++ "\n"
      let lines := rows.map fun (counts, name) =>
        row counts (if options.operands.isEmpty then "" else name)
      let sum := if options.operands.length > 1 then row total "total" else ""
      g.effect call (Text.Utf8.encode (String.join lines ++ sum))

/-! ## Replacing -/

/-- One byte of a set, with the rest of the set. -/
def setByte? : List Char → Option (UInt8 × List Char)
  | [] => none
  | '\\' :: rest =>
      match ({} : EscapeRules).read rest with
      | some ([b], rest) => some (b, rest)
      | some (_ :: b :: _, rest) => some (b, rest)
      | _ => some (92, rest)
  | c :: rest => (charBytes c).head?.map fun b => (b, rest)

/-- The bytes from one to another. -/
def byteRange (low high : Nat) : Bytes :=
  (List.range (high + 1 - low)).map fun k => UInt8.ofNat (low + k)

/-- The bytes of a set. -/
def readSet : Nat → List Char → Except String Bytes
  | 0, _ => .ok []
  | fuel + 1, chars =>
      match CharSet.readClass? chars with
      | some (ranges, rest) =>
          (readSet fuel rest).map fun more =>
            ranges.flatMap (fun (low, high) => byteRange low.toNat high.toNat) ++ more
      | none =>
          match setByte? chars with
          | none => .ok []
          | some (low, '-' :: rest) =>
              match setByte? rest with
              | some (high, after) =>
                  if high < low then
                    let text := String.ofList (chars.take (chars.length - after.length))
                    .error s!"range-endpoints of '{text}' are in reverse collating sequence order"
                  else (readSet fuel after).map (byteRange low.toNat high.toNat ++ ·)
              | none => .ok [low, 45]
          | some (b, rest) => (readSet fuel rest).map (b :: ·)

/-- The bytes of a set given as an argument. A character of several bytes counts as those. -/
def setOf (text : String) : Except String Bytes :=
  let chars := text.toList.flatMap fun c =>
    if c.toNat < 128 then [c] else (charBytes c).map fun b => Char.ofNat b.toNat
  readSet (chars.length + 1) chars

/-- What a byte is replaced by: the byte at the same position of the second set, whose last byte
stands for all that are missing. -/
def replacement (source image : Bytes) (b : UInt8) : UInt8 :=
  match source.reverse.idxOf? b with
  | none => b
  | some k => (image[source.length - 1 - k]?.orElse fun _ => image.getLast?).getD b

/-- Keeps one byte of each run of equal bytes of a set. -/
def squeeze (set : Bytes) : Bytes → Bytes
  | a :: b :: rest =>
      if a = b && set.contains a then squeeze set (b :: rest) else a :: squeeze set (b :: rest)
  | bytes => bytes

/-- All bytes that are not in a set. -/
def complement (set : Bytes) : Bytes := (byteRange 0 255).filter fun b => !set.contains b

/-- Replaces, deletes or squeezes bytes of the input. -/
def tr : Utility :=
  OptionTable.run
    { plain := "dscCt"
      long := [("delete", 'd'), ("squeeze-repeats", 's'), ("complement", 'c'),
        ("truncate-set1", 't')]
      strict := true }
    1 fun call options =>
      let deletes := options.has 'd'
      let squeezes := options.has 's'
      let first (text : String) : Except String Bytes :=
        (setOf text).map fun set => if options.has 'c' || options.has 'C' then complement set else set
      let finish (result : Except String Bytes) : Effect := match result with
        | .ok out => { out, taken := call.input.length }
        | .error reason => call.complain 1 reason
      match options.operands with
      | [] => call.misuse 1 "missing operand"
      | [a] =>
          if deletes && !squeezes then
            finish ((first a).map fun set => call.input.filter fun b => !set.contains b)
          else if squeezes && !deletes then
            finish ((first a).map fun set => squeeze set call.input)
          else
            let need := if deletes then
                "Two strings must be given when both deleting and squeezing repeats."
              else "Two strings must be given when translating."
            call.misuse 1 s!"missing operand after '{a}'\n{need}"
      | [a, b] =>
          if deletes && squeezes then
            finish do
              let set ← first a
              let other ← setOf b
              return squeeze other (call.input.filter fun b => !set.contains b)
          else if deletes then
            call.misuse 1 (s!"extra operand '{b}'\n" ++
              "Only one string may be given when deleting without squeezing repeats.")
          else
            finish do
              let source ← first a
              let image ← setOf b
              if image.isEmpty && !options.has 't' then
                throw "when not truncating set1, string2 must be non-empty"
              let source := if options.has 't' then source.take image.length else source
              let out := call.input.map (replacement source image)
              return if squeezes then squeeze image out else out
      | _ :: _ :: c :: _ => call.misuse 1 s!"extra operand '{c}'"

end Switchboard.Shell.Utility
