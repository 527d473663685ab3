import Switchboard.Model.Profile
import Switchboard.Package.Basic

/-!
# Call plans

How a package is sent to one model: in a single call if it fits the usable window together with
the task description, otherwise in chunks if the model allows it. The description and a header are
charged to every chunk.

Chunks are filled one after the other with the overview fragments first and then the others in
package order. A fragment is never split.
-/

namespace Switchboard.Call

open Switchboard.Data
open Switchboard.Model (Profile)
open Switchboard.Package (Fragment)

/-- The tokens charged for the header of a chunk. -/
def headerTokens : Nat := 8

/-- The share of a window kept for the response unless configured otherwise. -/
def standardMargin : Float := 0.10

/-- One call of a chunked plan. -/
structure Chunk where
  index : Nat := 0
  /-- The positions of its fragments in the package, in the order they are sent. -/
  fragments : List Nat := []
  /-- The tokens of its fragments. -/
  tokens : Nat := 0
  deriving DecidableEq, Repr, Inhabited

/-- How a package is sent to a model. -/
inductive Plan where
  | single (promptTokens : Nat)
  | chunked (chunks : List Chunk) (capacity : Nat)
  deriving DecidableEq, Repr, Inhabited

/-- The number of calls of a plan. -/
def Plan.chunkCount : Plan → Nat
  | .single _ => 1
  | .chunked chunks _ => chunks.length

/-- Whether a plan is chunked. -/
def Plan.isChunked : Plan → Bool
  | .single _ => false
  | .chunked .. => true

/-- Why a model cannot take a package. -/
inductive Rejection where
  /-- The package exceeds the usable window and the model takes no chunks. -/
  | overflow (needed usable : Nat)
  /-- A fragment is larger than a chunk. -/
  | fragmentTooLarge (source : String) (tokens capacity : Nat)
  /-- The description leaves no room for context. -/
  | descriptionTooLarge (descriptionTokens usable : Nat)
  deriving DecidableEq, Repr, Inhabited

/-- A rejection in words. -/
def Rejection.message : Rejection → String
  | .overflow needed usable =>
      s!"context overflow: {needed} tokens needed, {usable} usable and chunking unsupported"
  | .fragmentTooLarge source tokens capacity =>
      s!"fragment '{source}' ({tokens} tokens) exceeds chunk capacity of {capacity} tokens"
  | .descriptionTooLarge descriptionTokens usable =>
      s!"task description ({descriptionTokens} tokens) leaves no room for context in " ++
        s!"{usable} usable tokens"

/-- The fragments in sending order, each with its position: overviews first, then the others. -/
def sendOrder (fragments : List Fragment) : List (Fragment × Nat) :=
  let indexed := fragments.zipIdx
  indexed.filter (fun (f, _) => f.kind = .overview) ++
    indexed.filter (fun (f, _) => f.kind ≠ .overview)

/-- Appends a fragment to a chunk. -/
def Chunk.push (chunk : Chunk) (f : Fragment) (i : Nat) : Chunk :=
  { chunk with fragments := chunk.fragments ++ [i], tokens := Word.add chunk.tokens f.tokens }

/-- Fills chunks from the current one on; the first fragment larger than a chunk ends it. -/
def fillChunks (capacity : Nat) : Chunk → List (Fragment × Nat) → Except Rejection (List Chunk)
  | current, [] => .ok (if current.fragments.isEmpty then [] else [current])
  | current, (f, i) :: rest =>
      if capacity < f.tokens then .error (.fragmentTooLarge f.source f.tokens capacity)
      else if capacity < Word.add current.tokens f.tokens then
        match fillChunks capacity (Chunk.push { index := current.index + 1 } f i) rest with
        | .error rejection => .error rejection
        | .ok chunks => .ok (current :: chunks)
      else fillChunks capacity (current.push f i) rest

/-- Plans the call of a package on a model. -/
def plan (package : Package) (profile : Profile) (descriptionTokens : Nat) (margin : Float) :
    Except Rejection Plan :=
  let usable := profile.usableWindow margin
  let needed := Word.add package.tokensUsed descriptionTokens
  if needed ≤ usable then .ok (.single needed)
  else if !profile.supportsChunking then .error (.overflow needed usable)
  else
    let capacity := usable - Word.add descriptionTokens headerTokens
    if capacity = 0 || package.fragments.isEmpty then
      .error (.descriptionTooLarge descriptionTokens usable)
    else
      match fillChunks capacity {} (sendOrder package.fragments) with
      | .error rejection => .error rejection
      | .ok [] => .error (.descriptionTooLarge descriptionTokens usable)
      | .ok chunks => .ok (.chunked chunks capacity)

/-! ## Prompts -/

/-- The texts of a chunk's fragments. -/
def Chunk.body (package : Package) (chunk : Chunk) : String :=
  "\n\n".intercalate (chunk.fragments.map fun i => (package.fragments[i]?.map (·.text)).getD "")

/-- The prompts of a plan, one for each call. -/
def prompts (description : String) (package : Package) : Plan → List String
  | .single _ =>
      let context := package.render
      if context.isEmpty then [s!"# Task\n{description}"]
      else [s!"# Task\n{description}\n\n# Context\n{context}"]
  | .chunked chunks _ =>
      chunks.map fun chunk =>
        s!"# Task\n{description}\n\n# Context (part {chunk.index + 1} of {chunks.length})\n" ++
          chunk.body package

/-- Joins the outputs of chunks in the order of their positions. -/
def mergeOutputs (outputs : List (Nat × String)) : String :=
  "\n\n".intercalate ((outputs.mergeSort fun a b => a.1 ≤ b.1).map (·.2))

/-! ## As data -/

/-- The fields of a chunk. -/
def Chunk.fields : List (RecordField Chunk) := [
  .required "index" Reading.word fun c x => { c with index := x },
  .required "fragment_indices" (Reading.list Reading.word) fun c x => { c with fragments := x },
  .required "fragment_tokens" Reading.word fun c x => { c with tokens := x }]

/-- Reads a chunk. -/
def Chunk.read : Reading Chunk := record Chunk.fields {}

/-- A chunk as data. -/
def Chunk.toNode (c : Chunk) : Node := .obj [
  ("index", .nat c.index),
  ("fragment_indices", .arr (c.fragments.map .nat)),
  ("fragment_tokens", .nat c.tokens)]

/-- Reads a plan: its mode decides which of the other members it needs. -/
def Plan.read : Reading Plan := fun node => do
  let (mode, node) ← tagged "mode" node
  if mode = "single" then
    record [.required "prompt_tokens" Reading.word fun _ x => .single x] default node
  else if mode = "chunked" then
    let (chunks, capacity) ← record [
      .required "chunks" (Reading.list Chunk.read) fun s x => (x, s.2),
      .required "capacity" Reading.word fun s x => (s.1, x)] ([], 0) node
    return .chunked chunks capacity
  else throw .shape

/-- A plan as data. -/
def Plan.toNode : Plan → Node
  | .single promptTokens => .obj [("mode", .str "single"), ("prompt_tokens", .nat promptTokens)]
  | .chunked chunks capacity => .obj [
      ("mode", .str "chunked"),
      ("chunks", .arr (chunks.map Chunk.toNode)),
      ("capacity", .nat capacity)]

/-- A rejection as data. -/
def Rejection.toNode : Rejection → Node
  | .overflow needed usable => .obj [
      ("reason", .str "overflow"), ("needed", .nat needed), ("usable", .nat usable)]
  | .fragmentTooLarge source tokens capacity => .obj [
      ("reason", .str "fragment_too_large"), ("source", .str source),
      ("tokens", .nat tokens), ("capacity", .nat capacity)]
  | .descriptionTooLarge descriptionTokens usable => .obj [
      ("reason", .str "description_too_large"),
      ("description_tokens", .nat descriptionTokens), ("usable", .nat usable)]

end Switchboard.Call
