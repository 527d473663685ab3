import Switchboard.Queue.Batch

/-!
# Arguments of the command line

The arguments name a command, after options that hold for all commands. A command has flags,
options with a value and operands, in any order; after two dashes everything is an operand. An
option is given at most once, unless it collects values.
-/

namespace Switchboard.CommandLine

open Switchboard.Queue (BatchEntry ContextQuery)

/-- What the program is asked to do. -/
inductive Command where
  | index (force : Bool)
  | status
  | search (query : String) (limit : Nat) (json : Bool)
  | context (query : ContextQuery) (json : Bool)
  | delegate (entry : BatchEntry) (dryRun json : Bool)
  | batch (file : String) (dryRun : Bool) (concurrency : Option Nat) (progress : String)
      (json : Bool)
  | models
  | logStats (json : Bool)
  deriving DecidableEq, Repr, Inhabited

/-- What the arguments come to. -/
inductive Request where
  | run (config : String) (command : Command)
  | version
  | help
  /-- The arguments make no sense. -/
  | misuse
  deriving DecidableEq, Repr, Inhabited

/-- What a command takes. -/
structure Shape where
  flags : List String := []
  options : List String := []
  /-- The options whose value is a number. -/
  numbers : List String := []
  /-- The options that collect values. -/
  lists : List String := []
  operands : Nat := 0

/-- What a command was given. -/
structure Given where
  flags : List String := []
  values : List (String × String) := []
  operands : List String := []
  help : Bool := false

namespace Given

/-- Whether a flag was given. -/
def flag (given : Given) (name : String) : Bool := given.flags.contains name

/-- The value of an option. -/
def value? (given : Given) (name : String) : Option String :=
  (given.values.find? (·.1 = name)).map (·.2)

/-- The values of an option that collects them. -/
def all (given : Given) (name : String) : List String :=
  (given.values.filter (·.1 = name)).map (·.2)

end Given

/-- A number of an option. -/
def number? (text : String) : Option Nat :=
  let digits := match text.toList with
    | '+' :: digits => digits
    | digits => digits
  if digits.isEmpty || !digits.all Char.isDigit then none
  else ((String.ofList digits).toNat?).filter (· < Word.size64)

/-- The number of an option, if it was given. -/
def Given.number? (given : Given) (name : String) : Option Nat :=
  (given.value? name).bind CommandLine.number?

/-- The option that holds for all commands: where the configuration is. -/
def configOption : String := "config"

/-- Where the configuration is, unless it is said. -/
def standardConfig : String := "./config/relay.toml"

/-- Whether an argument is no value by itself. -/
def isDashed (argument : String) : Bool :=
  Text.startsWith "-" argument && argument ≠ "-"

/-- Whether an argument asks for help. Of letters after one dash the first one decides. -/
def asksHelp (argument : String) : Bool :=
  argument = "--help" || Text.startsWith "-h" argument

/-- Whether an argument before the command asks for the version. -/
def asksVersion (argument : String) : Bool :=
  argument = "--version" || Text.startsWith "-V" argument

/-- Whether an option of a command takes a value. -/
def accepts (shape : Shape) (name value : String) : Bool :=
  if shape.numbers.contains name then (number? value).isSome
  else if name = configOption then !value.isEmpty
  else shape.options.contains name

/-- Adds the value of an option, unless it was given before. -/
def addValue (shape : Shape) (given : Given) (name value : String) : Option Given :=
  if shape.lists.contains name || (accepts shape name value && (given.value? name).isNone) then
    some { given with values := given.values ++ [(name, value)] }
  else none

/-- Adds a flag, unless it was given before. -/
def addFlag (shape : Shape) (given : Given) (name : String) : Option Given :=
  if shape.flags.contains name && !given.flag name then
    some { given with flags := given.flags ++ [name] }
  else none

/-- Adds an operand, if there is room for it. -/
def addOperand (shape : Shape) (given : Given) (operand : String) : Option Given :=
  if given.operands.length < shape.operands then
    some { given with operands := given.operands ++ [operand] }
  else none

/-- Reads the arguments of a command; none if they do not fit. -/
def readGiven (shape : Shape) : Given → List String → Option Given
  | given, [] => if given.operands.length = shape.operands then some given else none
  | given, argument :: rest =>
      if given.help then some given
      else if argument = "--" then
        (rest.foldlM (addOperand shape) given).bind fun given =>
          if given.operands.length = shape.operands then some given else none
      else if asksHelp argument then some { given with help := true }
      else
        match Text.after? "--" argument with
        | none =>
            if isDashed argument then none
            else (addOperand shape given argument).bind (readGiven shape · rest)
        | some body =>
            match Text.cutAt? ['='] body.toList with
            | some (name, value) =>
                (addValue shape given (String.ofList name) (String.ofList value)).bind
                  (readGiven shape · rest)
            | none =>
                match addFlag shape given body, rest with
                | some given, rest => readGiven shape given rest
                | none, value :: rest =>
                    if isDashed value then none
                    else (addValue shape given body value).bind (readGiven shape · rest)
                | none, [] => none

/-- The options that say which context is wanted. -/
def contextOptions : List String := ["scenario", "query", "active-file"]

/-- The context that is wanted. -/
def contextOf (given : Given) : ContextQuery where
  scenario := given.value? "scenario"
  query := given.value? "query"
  activeFile := given.value? "active-file"

/-- What the commands take. The commands on the log have a second word. -/
def shapes : List (List String × Shape) := [
  (["index"], { flags := ["force"] }),
  (["status"], {}),
  (["search"], { flags := ["json"], numbers := ["limit"], operands := 1 }),
  (["context"], { flags := ["json"], options := contextOptions }),
  (["delegate"], {
    flags := ["dry-run", "json"], options := contextOptions, lists := ["model", "tag"]
    operands := 1 }),
  (["batch"], {
    flags := ["dry-run", "json"], options := ["progress"], numbers := ["concurrency"]
    operands := 1 }),
  (["models"], {}),
  (["log", "stats"], { flags := ["json"] })]

/-- The command with a name and what it was given. -/
def commandOf? (name : List String) (given : Given) : Option Command :=
  let json := given.flag "json"
  let dryRun := given.flag "dry-run"
  let operand := given.operands.head?.getD ""
  match name with
  | ["index"] => some (.index (given.flag "force"))
  | ["status"] => some .status
  | ["search"] => some (.search operand ((given.number? "limit").getD 10) json)
  | ["context"] => some (.context (contextOf given) json)
  | ["delegate"] =>
      some (.delegate ⟨operand, contextOf given, given.all "model", given.all "tag"⟩ dryRun json)
  | ["batch"] =>
      if operand.isEmpty then none
      else some (.batch operand dryRun (given.number? "concurrency")
        ((given.value? "progress").getD "auto") json)
  | ["models"] => some .models
  | ["log", "stats"] => some (.logStats json)
  | _ => none

/-- Reads the arguments after the name of a command; a configuration named among them counts more
than one named before. -/
def readCommand (config : Option String) (name : List String) (arguments : List String) :
    Request :=
  match (shapes.find? (·.1 = name)).bind fun (_, shape) => readGiven shape {} arguments with
  | none => .misuse
  | some given =>
      if given.help then .help
      else
        match commandOf? name given with
        | none => .misuse
        | some command =>
            .run (((given.value? configOption).orElse fun _ => config).getD standardConfig) command

/-- Takes a leading option that names the configuration off the arguments. -/
def leadingConfig? : List String → Option (String × List String)
  | "--config" :: path :: rest => if isDashed path then none else some (path, rest)
  | argument :: rest => (Text.after? "--config=" argument).map (·, rest)
  | [] => none

/-- Asks for help on what the words name: the first words of a command, all of them or none, or
help itself where another word of a command is due. -/
def helpOn (words : List String) : Request :=
  let stem := words.dropLast
  let named := shapes.any fun (name, _) =>
    words.isPrefixOf name ||
      (words.getLast? = some "help" && stem.isPrefixOf name && stem ≠ name)
  if named then .help else .misuse

/-- Reads the words of a command that has a second word, after the first one. -/
def readSecondWord (config : Option String) (first : String) : List String → Request
  | "help" :: words => helpOn (first :: words)
  | word :: rest => if asksHelp word then .help else readCommand config [first, word] rest
  | [] => .misuse

/-- Reads the name of a command and what follows it. -/
def readFirstWord (config : Option String) : List String → Request
  | "help" :: words => helpOn words
  | "log" :: rest =>
      match leadingConfig? rest with
      | some (path, rest) =>
          if path.isEmpty then .misuse else readSecondWord (some path) "log" rest
      | none => readSecondWord config "log" rest
  | word :: rest =>
      if asksVersion word then .version
      else if asksHelp word then .help
      else readCommand config [word] rest
  | [] => .misuse

/-- Reads the arguments of the program. -/
def readRequest (arguments : List String) : Request :=
  match leadingConfig? arguments with
  | some (path, rest) => if path.isEmpty then .misuse else readFirstWord (some path) rest
  | none => readFirstWord none arguments

end Switchboard.CommandLine
