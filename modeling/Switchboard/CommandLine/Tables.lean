import Switchboard.Cache.Basic
import Switchboard.Index.Search
import Switchboard.Queue.Basic
import Switchboard.Text.Quoted

/-!
# Tables for people

What the commands print: the state of the cache, search hits, models, route plans and the report
on a batch, line by line.
-/

namespace Switchboard.CommandLine

/-- What became of the record file, in one word or with its reason. -/
def persistedText : Cache.Persisted → String
  | .notFound => "NotFound"
  | .loaded => "Loaded"
  | .discarded reason =>
      "DiscardedCorrupt \x7b reason: " ++ Text.quoted reason ++ " \x7d"

/-- How a lookup was served, in words. -/
def originText : Cache.Origin → String
  | .hit => "up to date"
  | .built => "built"
  | .rebuilt => "rebuilt"
  | .stale _ => "stale"

/-- The lines on the record of the cache, given the fingerprint of the tree as it is. -/
def recordLines (cache : Cache) (digest : String) : List String :=
  match cache.record with
  | none => ["Fingerprint:  none (run `relay index`)"]
  | some r =>
      let fresh := r.fingerprint = digest && !cache.invalidated
      let state := if fresh then "fresh" else "stale"
      [ s!"Fingerprint:  {Text.shortId r.fingerprint} ({state})",
        s!"Generated:    {r.generatedAt.toReportText}",
        s!"Modules:      {r.document.modules.length}"]

/-- The lines on the cache. -/
def cacheLines (cache : Cache) (fingerprint : Source.Fingerprint) : List String :=
  [ s!"Cache:        {cache.path}",
    s!"Source root:  {cache.tree.root}",
    s!"Persisted:    {persistedText cache.persisted}"] ++
  recordLines cache fingerprint.digest ++
  [s!"Tree files:   {fingerprint.inputs.length}"]

/-- The line of a search hit. -/
def hitLine (hit : Index.Hit) : String :=
  s!"{Text.padLeft 4 (toString hit.score)}  {hit.path}  ({hit.lineCount} lines, " ++
    s!"~{hit.fragment.tokens} tokens)"

/-- The line above those of the models. -/
def modelHeader : String :=
  Text.join " " [
    Text.padRight 20 "NAME", Text.padRight 10 "PROVIDER", Text.padLeft 10 "WINDOW",
    Text.padRight 8 "COST", Text.padLeft 9 "LATENCY", Text.padRight 8 "CHUNKS", " STRENGTHS"]

/-- The line of a model. -/
def modelLine (m : Model.Profile) : String :=
  let chunks := if m.supportsChunking then "yes" else "no"
  Text.join " " [
    Text.padRight 20 m.name, Text.padRight 10 m.provider,
    Text.padLeft 10 (toString m.maxContextTokens), Text.padRight 8 m.cost.name,
    Text.padLeft 7 (toString m.averageLatencyMs) ++ "ms", Text.padRight 8 chunks,
    " " ++ Text.join ", " m.strengths]

/-- The line of a candidate of a plan. -/
def candidateLine? (c : Route.Candidate) : Option String :=
  let name := Text.padRight 20 c.model
  match c.plan, c.rejection with
  | some plan, _ =>
      some s!"  ok      {name} {plan.chunkCount} call(s), ~{c.promptTokens} prompt tokens"
  | none, some rejection => some s!"  reject  {name} {rejection.message}"
  | none, none => none

/-- The lines of a route plan. -/
def planLines (plan : Route.Plan) : List String :=
  let skipped := plan.filteredOut.map fun name =>
    s!"  skip    {Text.padRight 20 name} window too small, no chunking"
  let selected := match plan.selected with
    | some c => s!"Selected: {c.model}"
    | none => "Selected: none (every candidate is unsuitable)"
  [s!"Package: {plan.fragments} fragments, {plan.packageTokens} tokens " ++
    s!"(+{plan.descriptionTokens} for the task description)"] ++
  skipped ++ plan.candidates.filterMap candidateLine? ++ [selected]

/-- The cells of one line of the report on a batch. -/
def batchLine (task status model chunks tokens description : String) : String :=
  Text.join " " [
    Text.padRight 10 task, Text.padRight 20 status, Text.padRight 20 model,
    Text.padLeft 6 chunks, Text.padLeft 9 tokens, " " ++ description]

/-- The lines of a task of a batch. -/
def taskLines (t : Queue.TaskReport) : List String :=
  batchLine (Text.shortId t.taskId) t.status.name (t.selected.getD "-") (toString t.chunks)
      (toString (t.tokenCost.getD t.promptTokens)) t.description ::
    match t.error with
    | some error => ["           " ++ error.message]
    | none => []

/-- The lines of the report on a batch. -/
def batchLines (report : Queue.WorkReport) : List String :=
  let summary := if report.dryRun then
      [ "",
        s!"Dry run: {report.tasks.length} task(s), ~{report.promptTokens} prompt tokens, " ++
          "no models called."]
    else []
  batchLine "TASK" "STATUS" "MODEL" "CHUNKS" "TOKENS" "DESCRIPTION" ::
    report.tasks.flatMap taskLines ++ summary

end Switchboard.CommandLine
