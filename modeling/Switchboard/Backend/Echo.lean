import Switchboard.Backend.Basic

/-!
# The echoing backend

It works without a network and without a model: the answer is a summary of the prompt, which
names the modules whose headings it finds there.
-/

namespace Switchboard.Backend.Echo

/-- The first word of a heading, if a line is one. -/
def heading? (line : String) : Option String :=
  (Text.after? "## " line).map fun rest => ((Text.splitAt ' ' rest).head?).getD rest

/-- The modules named by the headings of a prompt. -/
def modules (prompt : String) : List String :=
  (Text.lines prompt).filterMap heading?

/-- The answer to a prompt. -/
def answer (request : Request) : Answer :=
  let modules := modules request.prompt
  let listed := if modules.isEmpty then "-" else Text.join ", " modules
  .ok {
    text := s!"[{request.profile.name}] part {Word.add request.chunk 1} of " ++
      s!"{request.chunkCount}: {request.prompt.length} chars, modules: {listed}" }

end Switchboard.Backend.Echo
