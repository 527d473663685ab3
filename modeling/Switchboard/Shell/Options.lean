import Switchboard.Shell.Program

/-!
# Options

How the arguments of a program fall into options and operands. Options are single letters after a
dash, several of them together if need be, or longer names after two dashes; some of them take a
value. Two dashes alone end the options.
-/

namespace Switchboard.Shell

/-- The options that a program knows. -/
structure OptionTable where
  /-- The letters without a value. -/
  plain : String := ""
  /-- The letters with a value. -/
  valued : String := ""
  /-- The longer names, with the letters they stand for. -/
  long : List (String × Char) := []
  /-- Whether the first operand ends the options. -/
  strict : Bool := false

/-- What was asked for: options with their values, and operands. -/
structure Options where
  given : List (Char × String) := []
  operands : List String := []

namespace Options

/-- Whether an option was given. -/
def has (options : Options) (c : Char) : Bool := options.given.any (·.1 = c)

/-- The last value of an option. -/
def value? (options : Options) (c : Char) : Option String :=
  (options.given.reverse.find? (·.1 = c)).map (·.2)

/-- All values of an option. -/
def values (options : Options) (c : Char) : List String :=
  options.given.filterMap fun (d, value) => if d = c then some value else none

/-- Notes an option. -/
def give (options : Options) (c : Char) (value : String := "") : Options :=
  { options with given := options.given ++ [(c, value)] }

end Options

namespace OptionTable

/-- Reads letters after a dash. The value of an option is the rest of the letters or the next
argument, which is then used up. -/
def readLetters (table : OptionTable) (options : Options) (next : Option String) :
    List Char → Except String (Options × Bool)
  | [] => .ok (options, false)
  | c :: rest =>
      if table.plain.toList.contains c then readLetters table (options.give c) next rest
      else if table.valued.toList.contains c then
        if rest.isEmpty then
          match next with
          | some value => .ok (options.give c value, true)
          | none => .error s!"option requires an argument -- '{c}'"
        else .ok (options.give c (String.ofList rest), false)
      else .error s!"invalid option -- '{c}'"

/-- Reads a longer name. -/
def readLong (table : OptionTable) (options : Options) (next : Option String) (text : String) :
    Except String (Options × Bool) :=
  let (name, value) := match Text.cutAt? ['='] text.toList with
    | some (name, value) => (String.ofList name, some (String.ofList value))
    | none => (text, none)
  match table.long.filter fun (long, _) => Text.startsWith name long with
  | [] => .error s!"unrecognized option '--{text}'"
  | (long, c) :: _ =>
      if table.valued.toList.contains c then
        match value, next with
        | some value, _ => .ok (options.give c value, false)
        | none, some value => .ok (options.give c value, true)
        | none, none => .error s!"option '--{long}' requires an argument"
      else .ok (options.give c, false)

/-- Reads arguments. -/
def readFrom (table : OptionTable) (options : Options) : List String → Except String Options
  | [] => .ok options
  | argument :: rest =>
      let operand (options : Options) : Options :=
        { options with operands := options.operands ++ [argument] }
      match argument.toList with
      | ['-', '-'] => .ok { options with operands := options.operands ++ rest }
      | ['-'] => if table.strict then .ok { options with operands := argument :: rest }
          else readFrom table (operand options) rest
      | '-' :: '-' :: name => do
          let (options, used) ← table.readLong options rest.head? (String.ofList name)
          if used then
            match rest with
            | _ :: rest => readFrom table options rest
            | [] => return options
          else readFrom table options rest
      | '-' :: letters => do
          let (options, used) ← table.readLetters options rest.head? letters
          if used then
            match rest with
            | _ :: rest => readFrom table options rest
            | [] => return options
          else readFrom table options rest
      | _ => if table.strict then .ok { options with operands := argument :: rest }
          else readFrom table (operand options) rest

/-- The options and the operands of a call. -/
def read (table : OptionTable) (arguments : List String) : Except String Options :=
  table.readFrom {} arguments

/-- Runs a program on the options and the operands of a call; `code` stands for a call that is not
understood. -/
def run (table : OptionTable) (code : Nat) (body : Call → Options → Effect) : Utility := fun call =>
  match table.read call.arguments with
  | .error reason => call.misuse code reason
  | .ok options => body call options

end OptionTable

end Switchboard.Shell
