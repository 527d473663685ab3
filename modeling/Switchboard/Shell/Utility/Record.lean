import Switchboard.Shell.Utility.Record.State
import Switchboard.Shell.Utility.Search

/-!
# Runs on records

A program of patterns and actions is carried out on every record of the input.
-/

namespace Switchboard.Shell.Utility.Record

open Switchboard.Text.Utf8 (Bytes)

mutual

/-- The value of an expression. -/
def eval : Nat → Expr → State → Value × State
  | 0, _, s => (.nothing, s.fail "program too long")
  | fuel + 1, expr, s =>
      match expr with
      | .number value => (.number value, s)
      | .text value => (.text value, s)
      | .regex regex => (ofBool (matchesText regex s.record), s)
      | .name name => (s.get name, s)
      | .field index =>
          let (index, s) := eval fuel index s
          (s.field (wholeOf index.toFloat).toNat, s)
      | .element array index =>
          let (key, s) := keyOf fuel index s
          match (s.array array).find? (·.1 = key) with
          | some (_, value) => (value, s)
          | none => (.nothing, s.setElement array key .nothing)
      | .member index array =>
          let (key, s) := keyOf fuel index s
          (ofBool ((s.array array).any (·.1 = key)), s)
      | .assign operator target value =>
          let (value, s) := eval fuel value s
          if operator.isEmpty then store fuel target value s
          else
            let (before, s) := eval fuel target s
            store fuel target (operate operator before value) s
      | .step first by_ target =>
          let (before, s) := eval fuel target s
          let after := before.toFloat + by_
          let (_, s) := store fuel target (.number after) s
          (.number (if first then after else before.toFloat), s)
      | .choice condition yes no =>
          let (condition, s) := eval fuel condition s
          if condition.isTrue then eval fuel yes s else eval fuel no s
      | .unary operator value =>
          let (value, s) := eval fuel value s
          match operator with
          | "!" => (ofBool (!value.isTrue), s)
          | "-" => (.number (-value.toFloat), s)
          | _ => (.number value.toFloat, s)
      | .group values =>
          let (values, s) := evalAll fuel values s
          (values.getLast?.getD .nothing, s)
      | .binary "&&" left right =>
          let (left, s) := eval fuel left s
          if left.isTrue then
            let (right, s) := eval fuel right s
            (ofBool right.isTrue, s)
          else (ofBool false, s)
      | .binary "||" left right =>
          let (left, s) := eval fuel left s
          if left.isTrue then (ofBool true, s)
          else
            let (right, s) := eval fuel right s
            (ofBool right.isTrue, s)
      | .binary operator left right =>
          let (left, s) := eval fuel left s
          if operator = "~" || operator = "!~" then
            let (regex, s) := pattern fuel right s
            (ofBool (matchesText regex left.toText != (operator = "!~")), s)
          else
            let (right, s) := eval fuel right s
            (operate operator left right, s)
      | .call name arguments => evalCall fuel name arguments s

/-- The expression that a pattern stands for. -/
def pattern : Nat → Expr → State → Regex × State
  | 0, _, s => (.empty, s)
  | fuel + 1, expr, s =>
      match expr with
      | .regex regex => (regex, s)
      | expr =>
          let (value, s) := eval fuel expr s
          (regexOf value, s)

/-- The key of an element. -/
def keyOf : Nat → List Expr → State → String × State
  | 0, _, s => ("", s)
  | _ + 1, [], s => ("", s)
  | fuel + 1, [index], s =>
      let (value, s) := eval fuel index s
      (value.toText, s)
  | fuel + 1, index :: rest, s =>
      let (value, s) := eval fuel index s
      let (key, s) := keyOf fuel rest s
      (value.toText ++ "\x1c" ++ key, s)

/-- Stores a value. -/
def store : Nat → Expr → Value → State → Value × State
  | 0, _, value, s => (value, s)
  | fuel + 1, target, value, s =>
      match target with
      | .name name => (value, s.put name value)
      | .field index =>
          let (index, s) := eval fuel index s
          (value, s.setField (wholeOf index.toFloat).toNat value)
      | .element array index =>
          let (key, s) := keyOf fuel index s
          (value, s.setElement array key value)
      | .group [target] => store fuel target value s
      | _ => (value, s)

/-- The values of expressions. -/
def evalAll : Nat → List Expr → State → List Value × State
  | 0, _, s => ([], s)
  | _ + 1, [], s => ([], s)
  | fuel + 1, expr :: rest, s =>
      let (value, s) := eval fuel expr s
      let (values, s) := evalAll fuel rest s
      (value :: values, s)

/-- The value of a function. -/
def evalCall : Nat → String → List Expr → State → Value × State
  | 0, _, _, s => (.nothing, s)
  | fuel + 1, name, arguments, s =>
      match name, arguments with
      | "length", [] => (.number (Float.ofNat s.record.length), s)
      | "length", [.name array] =>
          if s.arrays.any (·.1 = array) then
            (.number (Float.ofNat (s.array array).length), s)
          else (.number (Float.ofNat (s.textOf array).length), s)
      | "sub", regex :: image :: rest | "gsub", regex :: image :: rest =>
          let target := rest.head?.getD (.field (.number 0))
          let (regex, s) := pattern fuel regex s
          let (image, s) := eval fuel image s
          let (before, s) := eval fuel target s
          let (text, count) := substitute regex image.toText before.toText (name = "gsub")
          let s := if count = 0 then s else (store fuel target (.text text) s).2
          (.number (Float.ofNat count), s)
      | "match", [text, regex] =>
          let (text, s) := eval fuel text s
          let (regex, s) := pattern fuel regex s
          let (start, size) : Float × Float :=
            match regex.search? false text.toText.toList.toArray 0 with
            | some found =>
                (Float.ofNat (found.start + 1), Float.ofNat (found.reached.position - found.start))
            | none => (0, -1)
          (.number start, (s.put "RSTART" (.number start)).put "RLENGTH" (.number size))
      | "split", text :: .name array :: rest =>
          let (text, s) := eval fuel text s
          let (pieces, s) := match rest with
            | .regex regex :: _ => (splitByRegex regex text.toText, s)
            | separator :: _ =>
                let (separator, s) := eval fuel separator s
                (splitText separator.toText text.toText, s)
            | [] => (splitText (s.textOf "FS") text.toText, s)
          let elements := (pieces.zipIdx 1).map fun (piece, k) => (toString k, Value.input piece)
          (.number (Float.ofNat pieces.length), s.setArray array elements)
      | name, arguments =>
          let (values, s) := evalAll fuel arguments s
          let text (k : Nat) : String := (values[k]?.getD .nothing).toText
          let number (k : Nat) : Float := (values[k]?.getD .nothing).toFloat
          match name with
          | "length" => (.number (Float.ofNat (text 0).length), s)
          | "toupper" => (.text (String.ofList ((text 0).toList.map Char.toUpper)), s)
          | "tolower" => (.text (String.ofList ((text 0).toList.map Char.toLower)), s)
          | "int" =>
              let x := number 0
              (.number (if x < 0 then -(-x).floor else x.floor), s)
          | "sqrt" => (.number (number 0).sqrt, s)
          | "exp" => (.number (number 0).exp, s)
          | "log" => (.number (number 0).log, s)
          | "sin" => (.number (number 0).sin, s)
          | "cos" => (.number (number 0).cos, s)
          | "atan2" => (.number (Float.atan2 (number 0) (number 1)), s)
          | "index" =>
              let position := match Text.cutAt? (text 1).toList (text 0).toList with
                | some (before, _) => before.length + 1
                | none => 0
              (.number (Float.ofNat position), s)
          | "substr" =>
              let size := (text 0).length
              let start := wholeOf (number 1 + 0.5).floor
              let stop : Int := if values.length > 2 then start + wholeOf (number 2 + 0.5).floor
                else size + 1
              let first := max start 1
              let count := (min stop (size + 1) - first).toNat
              (.text (String.ofList (((text 0).toList.drop (first - 1).toNat).take count)), s)
          | "sprintf" => (.text (formatted (text 0) (values.drop 1)), s)
          | name => (.nothing, s.fail s!"function {name} never defined")

end

mutual

/-- Carries out a statement. -/
def exec : Nat → Stmt → State → State
  | 0, _, s => s.fail "program too long"
  | fuel + 1, stmt, s =>
      if s.jump.isSome then s
      else
        match stmt with
        | .skip => s
        | .expr expr => (eval fuel expr s).2
        | .print isFormat values target =>
            let (values, s) := evalAll fuel values s
            let text := if isFormat then
                formatted ((values.head?.map Value.toText).getD "") (values.drop 1)
              else if values.isEmpty then s.record ++ s.textOf "ORS"
              else Text.join (s.textOf "OFS") (values.map Value.toText) ++ s.textOf "ORS"
            let bytes := charsBytes text.toList
            let (target, s) := match target with
              | some target =>
                  let (target, s) := eval fuel target s
                  (target.toText, s)
              | none => ("", s)
            if target = "/dev/stderr" then { s with err := bytes :: s.err }
            else if target = "" || target = "/dev/stdout" || target = "-" then
              { s with out := bytes :: s.out }
            else s
        | .block body => execAll fuel body s
        | .choice condition yes no =>
            let (condition, s) := eval fuel condition s
            if condition.isTrue then exec fuel yes s else exec fuel no s
        | .loop condition body step =>
            let (condition', s) := eval fuel condition s
            if condition'.isTrue && s.jump.isNone then
              let s := exec fuel body s
              match s.jump with
              | some .leave => { s with jump := none }
              | some .again | none => exec fuel stmt (exec fuel step { s with jump := none })
              | some _ => s
            else s
        | .lateLoop body condition =>
            let s := exec fuel body s
            match s.jump with
            | some .leave => { s with jump := none }
            | some .again | none =>
                let (value, s) := eval fuel condition { s with jump := none }
                if value.isTrue then exec fuel stmt s else s
            | some _ => s
        | .each name array body => execEach fuel name body ((s.array array).map (·.1)) s
        | .delete array none => s.setArray array []
        | .delete array (some index) =>
            let (key, s) := keyOf fuel index s
            s.setArray array ((s.array array).filter (·.1 ≠ key))
        | .next => { s with jump := some .next }
        | .leave => { s with jump := some .leave }
        | .again => { s with jump := some .again }
        | .exit code =>
            match code with
            | some code =>
                let (code, s) := eval fuel code s
                { s with jump := some .exit, code := (wholeOf code.toFloat % 256).toNat }
            | none => { s with jump := some .exit }

/-- Carries out statements. -/
def execAll : Nat → List Stmt → State → State
  | 0, _, s => s.fail "program too long"
  | _ + 1, [], s => s
  | fuel + 1, stmt :: rest, s =>
      let s := exec fuel stmt s
      if s.jump.isSome then s else execAll fuel rest s

/-- Carries out a statement for each key of an array. -/
def execEach : Nat → String → Stmt → List String → State → State
  | 0, _, _, _, s => s.fail "program too long"
  | _ + 1, _, _, [], s => s
  | fuel + 1, name, body, key :: keys, s =>
      let s := exec fuel body (s.put name (.input key))
      match s.jump with
      | some .leave => { s with jump := none }
      | some .again | none => execEach fuel name body keys { s with jump := none }
      | some _ => s

end

/-- How many steps follow each other inside another at most. -/
def runBound : Nat := 100000

/-- Carries out the rules on the current record. -/
def runRules (s : State) (items : List (Item × Nat)) : State :=
  items.foldl (fun s (item, index) =>
    if s.jump.isSome then s
    else
      match item.rule with
      | .start | .finish => s
      | .always => exec runBound item.action s
      | .when condition =>
          let (value, s) := eval runBound condition s
          if value.isTrue && s.jump.isNone then exec runBound item.action s else s
      | .between first last =>
          let (begins, s) := if s.open_.contains index then (true, s) else
            let (value, s) := eval runBound first s
            (value.isTrue, s)
          if begins then
            let (ends, s) := eval runBound last s
            let others := s.open_.filter (· ≠ index)
            exec runBound item.action { s with open_ := if ends.isTrue then others else index :: others }
          else s) s

/-- Carries out the actions before or after all records. -/
def runEdge (s : State) (items : List Item) (atStart : Bool) : State :=
  items.foldl (fun s item =>
    match item.rule, atStart with
    | .start, true | .finish, false =>
        if s.jump = some .exit then s
        else
          let s := exec runBound item.action s
          { s with jump := s.jump.filter (· = .exit) }
    | _, _ => s) s

/-- The records of an input: its lines, its paragraphs if there is no separator, and the pieces
between separators otherwise. -/
def records (separator : String) (content : Bytes) : List Bytes :=
  match separator.toList with
  | ['\n'] => bareLines content
  | [] =>
      let groups := (bareLines content).splitBy fun a b => a.isEmpty == b.isEmpty
      let paragraphs := groups.filter fun lines => lines.any (!·.isEmpty)
      paragraphs.map fun lines => (joinLines lines).dropLast
  | c :: _ =>
      let pieces := Text.splitChars (· = c) (byteChars content)
      let pieces := if pieces.getLast? = some [] then pieces.dropLast else pieces
      pieces.map charsBytes

/-- Goes through the records. -/
def runRecords (items : List (Item × Nat)) (s : State) : List Bytes → State
  | [] => s
  | line :: rest =>
      if s.jump = some .exit then s
      else
        let number := (s.get "NR").toFloat + 1
        let s := ((s.put "NR" (.number number)).put "FNR" (.number number)).setRecord
          (String.ofList (byteChars line))
        let s := runRules s items
        runRecords items { s with jump := s.jump.filter (· = .exit) } rest

end Record

/-- Sets the variables that arguments assign. -/
def recordSettings (s : Record.State) (settings : List String) : Record.State :=
  settings.foldl (fun s setting =>
    match Text.cutAt? ['='] (textChars setting) with
    | some (name, value) =>
        let value := ((Record.readText (value.length + 2) [] (value ++ ['"'])).map (·.1)).getD value
        s.put (String.ofList name) (.input (String.ofList value))
    | none => s) s

/-- Runs a program on the records of files or of the input. -/
def awk : Utility := fun call =>
  match ({ valued := "Fvf", strict := true } : OptionTable).read call.arguments with
  | .error reason => call.complain 2 reason
  | .ok options =>
      match options.operands with
      | [] => .complaint 2 s!"usage: {call.name} [-F fs][-v var=value][prog | -f progfile][file ...]"
      | program :: operands =>
          match Record.parse (textChars program) with
          | .error reason => call.complain 2 s!"line 1: {reason}"
          | .ok items =>
              let separator := match options.value? 'F' with
                | some "t" => "\t"
                | some text =>
                    let chars := textChars text
                    String.ofList (((Record.readText (chars.length + 2) []
                      (chars ++ ['"'])).map (·.1)).getD chars)
                | none => " "
              let defaults : List (String × Record.Value) := [("FS", .text separator),
                ("OFS", .text " "), ("ORS", .text "\n"), ("RS", .text "\n"), ("NR", .number 0),
                ("SUBSEP", .text "\x1c")]
              let environment := call.environment.map fun (name, value) =>
                (name, Record.Value.input (String.ofList (textChars value)))
              let s := recordSettings { bindings := defaults, arrays := [("ENVIRON", environment)] }
                (options.values 'v')
              let s := Record.runEdge s items true
              let isSetting (operand : String) : Bool :=
                match Text.cutAt? ['='] operand.toList with
                | some (name, _) => isName name
                | none => false
              let s := recordSettings s (operands.filter isSetting)
              let files := operands.filter fun operand => !isSetting operand
              let onlyStart := items.all fun item => match item.rule with
                | .start => true
                | _ => false
              let complaint (path reason : String) : String := s!"cannot open \"{path}\" ({reason})"
              let g := gather call complaint
                (if onlyStart || s.jump.isSome then [] else if files.isEmpty then ["-"] else files)
              let s := Record.runRecords items.zipIdx s 
                (Record.records (s.textOf "RS") g.content)
              let s := if s.fault.isSome then s
                else Record.runEdge { s with jump := none } items false
              let err := match s.fault with
                | some reason => Text.Utf8.encode s!"{call.name}: {reason}\n"
                | none => []
              let effect := g.effect call s.out.reverse.flatten 2
              { effect with
                err := effect.err ++ s.err.reverse.flatten ++ err
                exit := if s.code ≠ 0 then .code s.code else effect.exit }

end Switchboard.Shell.Utility
