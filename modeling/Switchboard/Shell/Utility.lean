import Switchboard.Shell.Utility.Basic
import Switchboard.Shell.Utility.Edit
import Switchboard.Shell.Utility.Lines
import Switchboard.Shell.Utility.Record

/-!
# Utilities

The programs that commands are made of, by their names.
-/

namespace Switchboard.Shell.Utility

/-- The programs by name. -/
def all : List (String × Utility) := [
  ("[", bracketWith programTestWords "missing ']'"), ("awk", awk), ("base64", base64),
  ("basename", basename), ("cat", cat), ("cp", transfer false), ("cut", cut), ("dirname", dirname), ("echo", echo),
  ("egrep", egrep), ("expr", expr), ("false", fun _ => .ofCode 1), ("fgrep", fgrep), ("fold", fold),
  ("grep", grep), ("head", head), ("ls", ls), ("mawk", awk), ("mkdir", mkdir), ("mv", transfer true), ("nl", nl),
  ("paste", paste), ("printf", printf), ("pwd", pwd), ("rev", rev), ("rm", rm), ("rmdir", rmdir),
  ("sed", sed), ("seq", seq), ("sha256sum", sha256sum), ("sleep", sleep), ("sort", sort),
  ("sync", fun _ => .ofCode 0), ("tac", tac), ("tail", tail), ("tee", tee),
  ("test", testWith programTestWords), ("touch", touch), ("tr", tr), ("true", fun _ => .ofCode 0),
  ("uname", uname), ("uniq", uniq), ("wc", wc), ("yes", yes)]

/-- The program with a name. -/
def ofName? (name : String) : Option Utility :=
  (all.find? (·.1 = name)).map (·.2)

/-- The programs that the shell has built in, by name. -/
def builtins : List (String × Utility) := [
  ("echo", shellEcho), ("printf", shellPrintf), ("test", testWith shellTestWords),
  ("[", bracketWith shellTestWords "missing ]"), ("pwd", pwd), ("true", fun _ => .ofCode 0),
  ("false", fun _ => .ofCode 1)]

/-- The built-in program with a name. -/
def builtin? (name : String) : Option Utility :=
  (builtins.find? (·.1 = name)).map (·.2)

/-- The programs that run other programs. -/
def runners : List String := ["sh", "dash", "bash", "env", "printenv", "nice", "nohup", "timeout", "xargs"]

/-- The names of all programs. -/
def names : List String := all.map (·.1) ++ runners

end Switchboard.Shell.Utility
