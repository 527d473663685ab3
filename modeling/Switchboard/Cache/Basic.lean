import Switchboard.Cache.Record
import Switchboard.Source.Indexer

/-!
# The validity cache

The cache holds at most one record. A lookup trusts the record only if its fingerprint is that of
the tree as it is now and nobody asked for a new one; otherwise the tree is indexed again. When
indexing fails, the last good record is served as a stale one.

A lookup is a sequence of steps, and several lookups may be under way at once: `Lookup.step` says
what one of them does next. Only the holder of the build lock indexes; a lookup that had to wait
for the lock looks at the record once more.
-/

namespace Switchboard

open Cache in
/-- The state shared by all lookups. -/
structure Cache where
  tree : Source.Tree
  /-- The file of the record. -/
  path : String
  record : Option Record := none
  /-- Whether a new index was asked for. -/
  invalidated : Bool := false
  persisted : Persisted := .notFound
  /-- Why the record that is served is stale. -/
  staleReason : Option String := none
  /-- Whether a lookup holds the build lock. -/
  locked : Bool := false
  /-- How often the indexer was started. -/
  builds : Nat := 0

namespace Cache

open Switchboard.Data
open Switchboard.Source (Fingerprint Indexer Tree)

/-- Opens the cache of a tree with the record that its file holds. -/
def ofTree (tree : Tree) (path : String) (disk : Disk) : Cache :=
  let (record, persisted) := load disk path
  { tree, path, record, persisted }

/-- Opens a cache, given the patterns of its source tree. -/
def openAt (path root : String) (includeGlobs excludeGlobs : List String) (disk : Disk) :
    Except Report Cache :=
  (Tree.compile root includeGlobs excludeGlobs).map fun tree => ofTree tree path disk

/-- Asks for a new index. -/
def invalidate (cache : Cache) : Cache := { cache with invalidated := true }

/-- The record, if it is valid for a fingerprint. -/
def validRecord? (cache : Cache) (fingerprint : Fingerprint) : Option Record :=
  if cache.invalidated then none
  else cache.record.filter (·.fingerprint = fingerprint.digest)

/-! ## Lookups -/

/-- How a lookup was served. -/
inductive Origin where
  /-- The record was valid. -/
  | hit
  /-- There was no record, and one was made. -/
  | built
  /-- The record was replaced. -/
  | rebuilt
  /-- The indexer failed, and the last good record is served. -/
  | stale (reason : String)
  deriving DecidableEq, Repr, Inhabited

/-- Whether the served record may be out of date. -/
def Origin.isStale : Origin → Bool
  | .stale _ => true
  | _ => false

/-- The origin as data. -/
def Origin.toNode : Origin → Node
  | .hit => .obj [("status", .str "hit")]
  | .built => .obj [("status", .str "built")]
  | .rebuilt => .obj [("status", .str "rebuilt")]
  | .stale reason => .obj [("status", .str "stale_but_available"), ("reason", .str reason)]

/-- The outcome of a lookup. -/
structure Found where
  record : Record
  origin : Origin
  deriving DecidableEq, Repr, Inhabited

/-- What is shown of a lookup. -/
def Found.summary (found : Found) : Node := .obj [
  ("lookup", found.origin.toNode),
  ("fingerprint", .str found.record.fingerprint),
  ("file_count", .nat found.record.fileCount),
  ("stale", .bool found.origin.isStale),
  ("modules", .strs (found.record.document.modules.map (·.path)))]

/-- Where a lookup stands. -/
inductive Lookup where
  | fresh
  /-- The fingerprint of the tree is known. -/
  | measured (fingerprint : Fingerprint)
  /-- There was no valid record; the build lock is needed. -/
  | queued (fingerprint : Fingerprint)
  /-- The build lock is held. -/
  | holding (fingerprint : Fingerprint)
  /-- There is still no valid record. -/
  | missed (fingerprint : Fingerprint)
  /-- The request for a new index was taken note of, and the indexer is at work. -/
  | indexing (fingerprint : Fingerprint) (previous : Option Record) (wasInvalidated : Bool)
  /-- The indexer is done. -/
  | indexed (fingerprint : Fingerprint) (previous : Option Record) (wasInvalidated : Bool)
      (result : Except Report Index.Document)
  | done (answer : Except Report Found)

/-- What the lookups act on. -/
structure Site where
  disk : Disk
  cache : Cache

/-- Stores a new record in memory and in its file. That the file cannot be written is no reason to
fail. -/
def store (site : Site) (r : Record) : Site where
  disk := (persist site.disk site.cache.path r).1
  cache := { site.cache with record := some r, staleReason := none }

/-- What becomes of a lookup whose indexer failed. -/
def serveStale (cache : Cache) (previous : Option Record) (wasInvalidated : Bool) (reason : String) :
    Cache × Except Report Found :=
  let cache := { cache with invalidated := cache.invalidated || wasInvalidated }
  match previous with
  | some r => ({ cache with staleReason := some reason }, .ok ⟨r, .stale reason⟩)
  | none => (cache, .error (.ofError (.indexing reason)))

/-- What a lookup does next. -/
def Lookup.step (indexer : Indexer) (now : Timestamp) (site : Site) : Lookup → Site × Lookup
  | .fresh =>
      match site.cache.tree.fingerprint site.disk with
      | .error report => (site, .done (.error report))
      | .ok fingerprint => (site, .measured fingerprint)
  | .measured fingerprint =>
      match site.cache.validRecord? fingerprint with
      | some r => (site, .done (.ok ⟨r, .hit⟩))
      | none => (site, .queued fingerprint)
  | .queued fingerprint =>
      if site.cache.locked then (site, .queued fingerprint)
      else ({ site with cache := { site.cache with locked := true } }, .holding fingerprint)
  | .holding fingerprint =>
      match site.cache.validRecord? fingerprint with
      | some r =>
          ({ site with cache := { site.cache with locked := false } }, .done (.ok ⟨r, .hit⟩))
      | none => (site, .missed fingerprint)
  | .missed fingerprint =>
      ({ site with cache := {
          site.cache with invalidated := false, builds := site.cache.builds + 1 } },
        .indexing fingerprint site.cache.record site.cache.invalidated)
  | .indexing fingerprint previous wasInvalidated =>
      (site, .indexed fingerprint previous wasInvalidated
        (indexer.index site.cache.tree site.disk now))
  | .indexed fingerprint previous _ (.ok document) =>
      let r : Record := ⟨fingerprint.digest, now, fingerprint.inputs.length, document⟩
      let site := store site r
      ({ site with cache := { site.cache with locked := false } },
        .done (.ok ⟨r, if previous.isSome then .rebuilt else .built⟩))
  | .indexed _ previous wasInvalidated (.error report) =>
      let (cache, answer) := serveStale site.cache previous wasInvalidated report.message
      ({ site with cache := { cache with locked := false } }, .done answer)
  | .done answer => (site, .done answer)

/-- Whether a lookup has its answer. -/
def Lookup.isDone : Lookup → Bool
  | .done _ => true
  | _ => false

/-- Whether the indexer is at work for a lookup. -/
def Lookup.isIndexing : Lookup → Bool
  | .indexing .. => true
  | _ => false

/-- Whether the indexer has worked for a lookup and its result is not stored yet. -/
def Lookup.isIndexed : Lookup → Bool
  | .indexed .. => true
  | _ => false

/-- The number of steps from the beginning of a lookup to its answer. -/
def Lookup.length : Nat := 7

/-- Lets a lookup go on until it satisfies `stop`, for at most the given number of steps. -/
def Lookup.run (indexer : Indexer) (now : Timestamp) (stop : Lookup → Bool) :
    Nat → Site → Lookup → Site × Lookup
  | 0, site, lookup => (site, lookup)
  | fuel + 1, site, lookup =>
      if stop lookup then (site, lookup)
      else
        let (site, lookup) := lookup.step indexer now site
        run indexer now stop fuel site lookup

/-- Lets a lookup go on until it satisfies `stop`. -/
def Lookup.goOn (indexer : Indexer) (now : Timestamp) (stop : Lookup → Bool) (site : Site)
    (lookup : Lookup) : Site × Lookup :=
  lookup.run indexer now stop Lookup.length site

/-- The answer of a lookup. One that waits for a lock that is never released has none. -/
def Lookup.answer : Lookup → Except Report Found
  | .done answer => answer
  | _ => .error (.ofMessage "the lookup was not finished")

/-- A lookup by itself: an index that is valid for the tree as it is now. -/
def getOrBuild (indexer : Indexer) (now : Timestamp) (site : Site) : Site × Except Report Found :=
  let (site, lookup) := Lookup.goOn indexer now Lookup.isDone site .fresh
  (site, lookup.answer)

/-- A lookup during which a new index is asked for: while the indexer works, or right after the
lookup where it does not. -/
def getWhileInvalidated (indexer : Indexer) (now : Timestamp) (site : Site) :
    Site × Except Report Found :=
  let (site, lookup) :=
    Lookup.goOn indexer now (fun l => l.isDone || l.isIndexed) site .fresh
  let site := { site with cache := site.cache.invalidate }
  let (site, lookup) := lookup.goOn indexer now Lookup.isDone site
  (site, lookup.answer)

/-- Two lookups at once. The second one begins when the first one waits for the indexer, or when it
is done. -/
def getTwice (indexer : Indexer) (now : Timestamp) (site : Site) :
    Site × Except Report Found × Except Report Found :=
  let (site, first) :=
    Lookup.goOn indexer now (fun l => l.isDone || (indexer.waits && l.isIndexing)) site .fresh
  let (site, second) := Lookup.goOn indexer now Lookup.isDone site .fresh
  let (site, first) := first.goOn indexer now Lookup.isDone site
  let (site, second) := second.goOn indexer now Lookup.isDone site
  (site, first.answer, second.answer)

/-! ## Reports -/

/-- The state of the cache as data. -/
def status (cache : Cache) : Node := .obj [
  ("path", .str cache.path),
  ("source_root", .str cache.tree.root),
  ("fingerprint", .opt (fun r : Record => .str r.fingerprint) cache.record),
  ("generated_at", .opt (fun r : Record => r.generatedAt.toNode) cache.record),
  ("module_count", .nat ((cache.record.map fun r => r.document.modules.length).getD 0)),
  ("persisted", cache.persisted.toNode),
  ("invalidated", .bool cache.invalidated),
  ("stale_reason", .opt .str cache.staleReason)]

end Cache

end Switchboard
