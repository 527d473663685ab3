import Switchboard.Backend.Basic
import Switchboard.Shell.Run

/-!
# Models behind a command

The prompt is the input of a command, and what the command writes is the answer. A command that
takes too long may be faster the next time; one that cannot be started or that fails will fail
again.
-/

namespace Switchboard.Backend.Command

open Switchboard.Text.Utf8 (Bytes)

/-- The variables a command finds in its environment. -/
def environment (inherited : List (String × String)) (request : Request) :
    List (String × String) :=
  let own := [("RELAY_MODEL", request.profile.model), ("RELAY_TASK_ID", request.taskId)]
  own ++ inherited.filter fun (name, _) => !(own.map (·.1)).contains name

/-- Whether a program was still busy when its time was over. Starting it takes time, too. -/
def isLate (timeoutMs : Nat) (effect : Shell.Effect) : Bool := timeoutMs ≤ effect.ms

/-- What a command that ended has to say. -/
def answerOf (effect : Shell.Effect) : Answer :=
  if effect.exit.succeeded then .ok ⟨Text.trimEnd (Text.Utf8.decodeLossy effect.out), none⟩
  else
    let complaint := Text.trim (Text.Utf8.decodeLossy effect.err)
    capability s!"command exited with {effect.exit.message}: {complaint}"

/-- Runs the command of a model on a prompt: the disk afterwards, how long it took and the
answer. -/
def call (timeoutMs : Nat) (inherited : List (String × String)) (disk : Disk) (request : Request) :
    Disk × Nat × Answer :=
  match request.profile.command.getD [] with
  | [] => (disk, 0, capability s!"model '{request.profile.name}' has no command")
  | path :: arguments =>
      match Shell.spawn disk (environment inherited request) (path :: arguments)
          (Text.Utf8.encode request.prompt) with
      | .error reason => (disk, 0, capability s!"failed to spawn {path}: {reason}")
      | .ok (changed, effect) =>
          if isLate timeoutMs effect then
            (disk, timeoutMs, transient s!"command timed out after {timeoutMs / 1000}s")
          else (changed, effect.ms, answerOf effect)

end Switchboard.Backend.Command
