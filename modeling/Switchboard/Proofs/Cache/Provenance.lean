import Switchboard.Proofs.Cache.Request

/-!
# Where served records come from

A lookup measures the tree first and has it indexed later. Its record joins the fingerprint of the
one moment with the index of the other, and when the tree is edited in between, the two belong to
different trees: the record is then served as a valid one whenever the tree has its fingerprint
again. If files of the tree change only while no lookup is between the two moments, every record
belongs to one tree.

## Main results

* `Crowd.sourced_run` — every record of a run was measured and indexed by one lookup.
* `Crowd.steady_run` — in a quiet run the tree is what each lookup has measured, up to the
  indexing.
* `answer_provenance` — where the record of an answer comes from.
* `hit_on_other_contents` — a record whose document was made from another tree than its fingerprint.
-/

namespace Switchboard.Cache

open Switchboard.Source (File Fingerprint Indexer Tree)

/-! ## The two moments -/

namespace Crowd

/-- After the events `past`, the next step of the lookup with number `i` measures the tree. -/
def MeasuresAt (start : Crowd) (past : List Event) (i : Nat) (fingerprint : Fingerprint) : Prop :=
  (start.run past).lookups[i]? = some .fresh ∧
    start.site.cache.tree.fingerprint (start.run past).site.disk = .ok fingerprint

/-- After the events `past`, the next step of the lookup with number `i` has the tree indexed. -/
def IndexesAt (start : Crowd) (past : List Event) (i : Nat) (fingerprint : Fingerprint)
    (indexer : Indexer) (now : Timestamp) (document : Index.Document) : Prop :=
  (∃ previous wasInvalidated,
    (start.run past).lookups[i]? = some (.indexing fingerprint previous wasInvalidated)) ∧
  indexer.index start.site.cache.tree (start.run past).site.disk now = .ok document

/-- In a run, the lookup with number `i` has measured the tree. -/
def Measured (start : Crowd) (events : List Event) (i : Nat) (fingerprint : Fingerprint) : Prop :=
  ∃ past indexer now, past ++ [.advance i indexer now] <+: events ∧
    start.MeasuresAt past i fingerprint

/-- In a run, the lookup with number `i` has measured the tree and had it indexed later. -/
def Indexed (start : Crowd) (events : List Event) (i : Nat) (fingerprint : Fingerprint)
    (document : Index.Document) : Prop :=
  ∃ past indexer now, past ++ [.advance i indexer now] <+: events ∧
    start.Measured past i fingerprint ∧
    start.IndexesAt past i fingerprint indexer now document

/-- A record that was there at the beginning, or that a lookup has made in a run. -/
def Known (start : Crowd) (events : List Event) (r : Record) : Prop :=
  start.site.cache.record = some r ∨
  ∃ i fingerprint, start.Indexed events i fingerprint r.document ∧
    r.fingerprint = fingerprint.digest ∧ r.fileCount = fingerprint.inputs.length

section Mono

variable {start : Crowd} {events later : List Event} {i : Nat} {fingerprint : Fingerprint}
  {document : Index.Document} {r : Record}

theorem Measured.mono (h : start.Measured events i fingerprint) (hlater : events <+: later) :
    start.Measured later i fingerprint := by
  obtain ⟨past, indexer, now, hpast, hmeasures⟩ := h
  exact ⟨past, indexer, now, hpast.trans hlater, hmeasures⟩

theorem Indexed.mono (h : start.Indexed events i fingerprint document) (hlater : events <+: later) :
    start.Indexed later i fingerprint document := by
  obtain ⟨past, indexer, now, hpast, hindexes⟩ := h
  exact ⟨past, indexer, now, hpast.trans hlater, hindexes⟩

theorem Known.mono (h : start.Known events r) (hlater : events <+: later) :
    start.Known later r :=
  h.imp id fun ⟨i, fingerprint, hindexed, hrecord⟩ =>
    ⟨i, fingerprint, hindexed.mono hlater, hrecord⟩

end Mono

end Crowd

/-! ## Sources -/

/-- All that a lookup carries was measured or indexed by itself, or comes from a known record. -/
def Lookup.Sourced (start : Crowd) (events : List Event) (i : Nat) : Lookup → Prop
  | .fresh => True
  | .measured fingerprint | .queued fingerprint | .holding fingerprint | .missed fingerprint =>
      start.Measured events i fingerprint
  | .indexing fingerprint previous _ =>
      start.Measured events i fingerprint ∧ ∀ r ∈ previous, start.Known events r
  | .indexed fingerprint previous _ result =>
      (∀ document, result = .ok document → start.Indexed events i fingerprint document) ∧
        ∀ r ∈ previous, start.Known events r
  | .done answer => ∀ found, answer = .ok found → start.Known events found.record

theorem Lookup.Sourced.mono {start : Crowd} {events later : List Event} {i : Nat} {lookup : Lookup}
    (h : lookup.Sourced start events i) (hlater : events <+: later) :
    lookup.Sourced start later i := by
  cases lookup with
  | fresh => trivial
  | measured | queued | holding | missed => exact Crowd.Measured.mono h hlater
  | indexing => exact ⟨h.1.mono hlater, fun r hr => (h.2 r hr).mono hlater⟩
  | indexed =>
      exact ⟨fun document hdocument => (h.1 document hdocument).mono hlater,
        fun r hr => (h.2 r hr).mono hlater⟩
  | done => exact fun found hfound => (h found hfound).mono hlater

/-- A move keeps the sources of its lookup. -/
theorem Move.sourced {start : Crowd} {past : List Event} {i : Nat} {indexer : Indexer}
    {now : Timestamp} {last : Site} {lookup next : Lookup}
    (h : Move indexer now (start.run past).site lookup last next)
    (hlookup : (start.run past).lookups[i]? = some lookup)
    (hsourced : lookup.Sourced start past i)
    (hrecord : ∀ r ∈ (start.run past).site.cache.record, start.Known past r) :
    next.Sourced start (past ++ [.advance i indexer now]) i := by
  have hlater : past <+: past ++ [.advance i indexer now] := List.prefix_append _ _
  have hkept := hsourced.mono hlater
  have htree := start.tree_run past
  cases h with
  | unmeasured => exact nofun
  | measured measure => exact ⟨past, indexer, now, List.prefix_rfl, hlookup, htree ▸ measure⟩
  | hit valid | lateHit valid =>
      rintro found ⟨⟩
      exact (hrecord _ (validRecord?_eq_some.mp valid).2.1).mono hlater
  | queued | waits | holds | missed => exact hkept
  | starts => exact ⟨hkept, fun r hr => (hrecord r hr).mono hlater⟩
  | indexed =>
      refine ⟨fun document hdocument => ?_, hkept.2⟩
      exact ⟨past, indexer, now, List.prefix_rfl, hsourced.1, ⟨_, _, hlookup⟩, htree ▸ hdocument⟩
  | stores made =>
      intro found hfound
      rw [← Except.ok.inj hfound, made]
      exact .inr ⟨i, _, hkept.1 _ rfl, rfl, rfl⟩
  | @fails _ previous =>
      cases previous with
      | none => exact nofun
      | some r =>
          rintro found ⟨⟩
          exact hkept.2 r rfl
  | rests => exact hkept

namespace Crowd

/-- All records and lookups of a run have their sources in it. -/
structure Sourced (start : Crowd) (events : List Event) : Prop where
  lookups : ∀ {i : Nat} {lookup : Lookup}, (start.run events).lookups[i]? = some lookup →
    lookup.Sourced start events i
  record : ∀ r ∈ (start.run events).site.cache.record, start.Known events r

section Sourced

variable {start : Crowd} {past : List Event} {event : Event}

/-- A record that is stored was made by the lookup that stores it. -/
theorem Sourced.stored {r : Record} (h : start.Sourced past)
    (hstored : event.stored? (start.run past) = some r) : start.Known past r := by
  cases event with
  | advance i indexer now =>
      obtain ⟨lookup, hlookup, hstores⟩ := Option.bind_eq_some_iff.mp hstored
      have hsourced := h.lookups hlookup
      cases lookup with
      | indexed fingerprint previous wasInvalidated result =>
          cases result with
          | ok document =>
              rw [← Option.some.inj hstores]
              exact .inr ⟨i, fingerprint, hsourced.1 document rfl, rfl, rfl⟩
          | error => cases hstores
      | _ => cases hstores
  | _ => cases hstored

theorem Sourced.lookups_step {j : Nat} {lookup : Lookup} (h : start.Sourced past)
    (hlookup : (event.perform (start.run past)).lookups[j]? = some lookup) :
    lookup.Sourced start (past ++ [event]) j := by
  have hkept : ∀ {i : Nat} {lookup : Lookup}, (start.run past).lookups[i]? = some lookup →
      lookup.Sourced start (past ++ [event]) i := fun hi =>
    (h.lookups hi).mono (List.prefix_append _ _)
  have hshift := shift_perform (start.run past) event
  generalize event.perform (start.run past) = after at hshift hlookup
  cases hshift with
  | enters =>
      rcases getElem?_enter_cases hlookup with rfl | hold
      · trivial
      · exact hkept hold
  | idles => exact hkept hlookup
  | invalidates => exact hkept hlookup
  | edits => exact hkept hlookup
  | moves present move =>
      rcases getElem?_set_cases hlookup with ⟨rfl, rfl⟩ | ⟨-, hold⟩
      · exact move.sourced present (h.lookups present) h.record
      · exact hkept hold

theorem Sourced.step (h : start.Sourced past) : start.Sourced (past ++ [event]) := by
  have hrun : start.run (past ++ [event]) = event.perform (start.run past) := run_append ..
  refine ⟨fun hlookup => h.lookups_step (hrun ▸ hlookup), fun r hr => ?_⟩
  rw [hrun, event.record_perform, Option.mem_def, Option.or_eq_some_iff] at hr
  have hknown : start.Known past r := hr.elim h.stored fun hold => h.record r hold.2
  exact hknown.mono (List.prefix_append _ _)

end Sourced

/-- All records and lookups of a run have their sources in it. -/
theorem sourced_run (site : Site) (events : List Event) : Sourced ⟨site, []⟩ events := by
  induction events using List.reverseRecOn with
  | nil => exact ⟨nofun, fun _ hr => .inl hr⟩
  | append_singleton past event ih => exact ih.step

end Crowd

/-! ## Quiet runs -/

/-- The fingerprint with which a lookup is on its way to the indexer. -/
def Lookup.pending? : Lookup → Option Fingerprint
  | .measured fingerprint | .queued fingerprint | .holding fingerprint | .missed fingerprint
  | .indexing fingerprint _ _ => some fingerprint
  | _ => none

/-- A move leaves a lookup on its way only if it was, or has just measured the tree. -/
theorem Move.pending {indexer : Indexer} {now : Timestamp} {site last : Site}
    {lookup next : Lookup} {fingerprint : Fingerprint}
    (h : Move indexer now site lookup last next) (hnext : next.pending? = some fingerprint) :
    lookup.pending? = some fingerprint ∨
      site.cache.tree.fingerprint site.disk = .ok fingerprint := by
  cases h with
  | measured measure => exact .inr (Option.some.inj hnext ▸ measure)
  | queued | waits | holds | missed | starts => exact .inl hnext
  | _ => cases hnext

section Kept

variable {indexer : Indexer} {now : Timestamp} {site last : Site} {lookup next : Lookup}
  (h : Move indexer now site lookup last next)

include h

/-- A move changes the disk only by persisting a record. -/
theorem Move.disk_cases :
    last.disk = site.disk ∨ ∃ r, last.disk = (persist site.disk site.cache.path r).1 := by
  cases h with
  | stores => exact .inr ⟨_, rfl⟩
  | _ => exact .inl rfl

theorem Move.current_eq : last.disk.current = site.disk.current := by
  rcases h.disk_cases with hdisk | ⟨r, hdisk⟩
  · rw [hdisk]
  · rw [hdisk, current_persist]

theorem Move.fingerprint_eq {fingerprint : Fingerprint}
    (hapart : standsApart site.cache.tree site.cache.path site.disk.current = true)
    (hmeasured : site.cache.tree.fingerprint site.disk = .ok fingerprint) :
    site.cache.tree.fingerprint last.disk = .ok fingerprint := by
  rcases h.disk_cases with hdisk | ⟨r, hdisk⟩
  · rw [hdisk, hmeasured]
  · rw [hdisk, fingerprint_persist r hapart hmeasured]

end Kept

/-- Whether a lookup is on its way to the indexer. -/
def Lookup.isPending (lookup : Lookup) : Bool := lookup.pending?.isSome

/-- Whether an event leaves the files of the tree alone while a lookup is on its way to the
indexer. -/
def Event.IsQuiet (crowd : Crowd) : Event → Prop
  | .edit disk =>
      disk.current = crowd.site.disk.current ∧
      ∀ i, crowd.Has Lookup.isPending i →
        crowd.site.cache.tree.files disk = crowd.site.cache.tree.files crowd.site.disk
  | _ => True

namespace Crowd

/-- Whether all events of a run are quiet. -/
def Quiet (start : Crowd) (events : List Event) : Prop :=
  ∀ past event, past ++ [event] <+: events → event.IsQuiet (start.run past)

theorem Quiet.of_prefix {start : Crowd} {events past : List Event} (h : start.Quiet events)
    (hpast : past <+: events) : start.Quiet past :=
  fun first event hfirst => h first event (hfirst.trans hpast)

/-- The tree is what every lookup on its way to the indexer has measured. -/
structure Steady (tree : Tree) (path : String) (current : Place) (crowd : Crowd) : Prop where
  tree_eq : crowd.site.cache.tree = tree
  path_eq : crowd.site.cache.path = path
  current_eq : crowd.site.disk.current = current
  measured : ∀ {i : Nat} {lookup : Lookup} {fingerprint : Fingerprint},
    crowd.lookups[i]? = some lookup → lookup.pending? = some fingerprint →
    tree.fingerprint crowd.site.disk = .ok fingerprint

theorem Steady.step {tree : Tree} {path : String} {current : Place} {crowd : Crowd} {event : Event}
    (hapart : standsApart tree path current = true) (h : crowd.Steady tree path current)
    (hquiet : event.IsQuiet crowd) : (event.perform crowd).Steady tree path current := by
  have hshift := shift_perform crowd event
  generalize event.perform crowd = after at hshift
  cases hshift with
  | enters =>
      refine ⟨h.tree_eq, h.path_eq, h.current_eq, fun hlookup hpending => ?_⟩
      rcases getElem?_enter_cases hlookup with rfl | hold
      · cases hpending
      · exact h.measured hold hpending
  | idles => exact h
  | invalidates => exact ⟨h.tree_eq, h.path_eq, h.current_eq, h.measured⟩
  | edits =>
      refine ⟨h.tree_eq, h.path_eq, hquiet.1.trans h.current_eq, fun hlookup hpending => ?_⟩
      have hfiles := hquiet.2 _ ⟨_, hlookup, by rw [Lookup.isPending, hpending]; rfl⟩
      rw [h.tree_eq] at hfiles
      exact (Source.fingerprint_congr hfiles).trans (h.measured hlookup hpending)
  | @moves i indexer now lookup next site present move =>
      obtain ⟨htree, hpath⟩ := move.cache_keeps
      obtain ⟨rfl, rfl, rfl⟩ : crowd.site.cache.tree = tree ∧ crowd.site.cache.path = path ∧
        crowd.site.disk.current = current := ⟨h.tree_eq, h.path_eq, h.current_eq⟩
      refine ⟨htree, hpath, move.current_eq, fun hlookup hpending => ?_⟩
      refine move.fingerprint_eq hapart ?_
      rcases getElem?_set_cases hlookup with ⟨rfl, rfl⟩ | ⟨-, hold⟩
      · exact (move.pending hpending).elim (h.measured present) id
      · exact h.measured hold hpending

/-- In a quiet run the tree is what every lookup on its way to the indexer has measured. -/
theorem steady_run {site : Site} {events : List Event}
    (hapart : standsApart site.cache.tree site.cache.path site.disk.current = true)
    (hquiet : Quiet ⟨site, []⟩ events) :
    (Crowd.run ⟨site, []⟩ events).Steady site.cache.tree site.cache.path site.disk.current := by
  induction events using List.reverseRecOn with
  | nil => exact ⟨rfl, rfl, rfl, nofun⟩
  | append_singleton past event ih =>
      rw [run_append]
      exact (ih (hquiet.of_prefix (List.prefix_append _ _))).step hapart
        (hquiet past event List.prefix_rfl)

end Crowd

/-! ## Answers -/

/-- The record of an answer was there at the beginning, or one lookup has measured the tree, had it
indexed later, and made the record of the two. If files of the tree change only while no lookup is
on its way to the indexer, and the tree stands apart from where records are persisted, then the
tree that was indexed has the fingerprint of the record. -/
theorem answer_provenance (site : Site) (events : List Event) {i : Nat} {r : Record}
    {origin : Origin}
    (h : (Crowd.run ⟨site, []⟩ events).lookups[i]? = some (.done (.ok ⟨r, origin⟩))) :
    let start : Crowd := ⟨site, []⟩
    site.cache.record = some r ∨
    ∃ j fingerprint measuring indexing indexer now indexer' now',
      measuring ++ [.advance j indexer now] <+: indexing ∧
      indexing ++ [.advance j indexer' now'] <+: events ∧
      start.MeasuresAt measuring j fingerprint ∧
      start.IndexesAt indexing j fingerprint indexer' now' r.document ∧
      r.fingerprint = fingerprint.digest ∧ r.fileCount = fingerprint.inputs.length ∧
      (standsApart site.cache.tree site.cache.path site.disk.current = true →
        start.Quiet events →
        site.cache.tree.fingerprint (start.run indexing).site.disk = .ok fingerprint) := by
  intro start
  have hknown : start.Known events r := (Crowd.sourced_run site events).lookups h ⟨r, origin⟩ rfl
  refine hknown.imp id ?_
  rintro ⟨j, fingerprint, ⟨indexing, indexer', now', hindexing, hmeasured, hindexes⟩, hrecord⟩
  obtain ⟨measuring, indexer, now, hmeasuring, hmeasures⟩ := hmeasured
  refine ⟨j, fingerprint, measuring, indexing, indexer, now, indexer', now', hmeasuring, hindexing,
    hmeasures, hindexes, hrecord.1, hrecord.2, fun hapart hquiet => ?_⟩
  obtain ⟨previous, wasInvalidated, hpending⟩ := hindexes.1
  have hpast : indexing <+: events := (List.prefix_append _ _).trans hindexing
  exact (Crowd.steady_run hapart (hquiet.of_prefix hpast)).measured hpending rfl

/-! ### A lookup with events in between -/

/-- A lookup measures the tree, something happens, and the lookup goes on to its end. -/
def disturbed (indexer : Indexer) (now : Timestamp) (events : List Event) : List Event :=
  [.enter, .advance 0 indexer now] ++ events ++ List.replicate 6 (.advance 0 indexer now)

section Disturbed

variable {site : Site} {disk : Disk} {fingerprint : Fingerprint} {indexer : Indexer}
  {now : Timestamp} {events : List Event}
  (hmeasure : site.cache.tree.fingerprint site.disk = .ok fingerprint)

include hmeasure

theorem run_measured :
    Crowd.run ⟨site, []⟩ [.enter, .advance 0 indexer now] = ⟨site, [.measured fingerprint]⟩ := by
  simp [Crowd.run, Event.perform, Lookup.step, hmeasure]

/-- The record joins the fingerprint of the disk before with the index of the disk after. -/
theorem run_disturbed {document : Index.Document} (hlocked : site.cache.locked = false)
    (hnone : site.cache.record = none)
    (hevents : Crowd.run ⟨site, [.measured fingerprint]⟩ events =
      ⟨{ site with disk }, [.measured fingerprint]⟩)
    (hindex : indexer.index site.cache.tree disk now = .ok document) :
    Crowd.run ⟨site, []⟩ (disturbed indexer now events) =
      ⟨{ site with disk }.renewed (madeRecord fingerprint now document),
        [.done (.ok ⟨madeRecord fingerprint now document, .built⟩)]⟩ := by
  rw [disturbed, Crowd.run_append, Crowd.run_append, run_measured hmeasure, hevents]
  simp [Crowd.run, List.replicate, Event.perform, Lookup.step, validRecord?, store, Site.renewed,
    madeRecord, hlocked, hnone, hindex]

end Disturbed

/-! ### An edit between two lookups -/

/-- The disk is edited, and another lookup is made from its beginning to its end. -/
def editedLater (indexer : Indexer) (now : Timestamp) (disk : Disk) : List Event :=
  .edit disk :: .enter :: List.replicate 7 (.advance 1 indexer now)

/-- The other lookup makes a record of the disk as it is. -/
theorem run_editedLater {site : Site} {disk : Disk} {lookup : Lookup} {previous : Record}
    {fingerprint : Fingerprint} {document : Index.Document} {indexer : Indexer} {now : Timestamp}
    (hlocked : site.cache.locked = false) (hrecord : site.cache.record = some previous)
    (hmeasure : site.cache.tree.fingerprint disk = .ok fingerprint)
    (hother : previous.fingerprint ≠ fingerprint.digest)
    (hindex : indexer.index site.cache.tree disk now = .ok document) :
    Crowd.run ⟨site, [lookup]⟩ (editedLater indexer now disk) =
      ⟨{ site with disk }.renewed (madeRecord fingerprint now document),
        [lookup, .done (.ok ⟨madeRecord fingerprint now document, .rebuilt⟩)]⟩ := by
  have hinvalid : ∀ cache : Cache, cache.record = some previous →
      cache.validRecord? fingerprint = none := fun _ h => validRecord?_of_ne h hother
  simp [Crowd.run, editedLater, List.replicate, Event.perform, Lookup.step, store, Site.renewed,
    madeRecord, hlocked, hrecord, hmeasure, hinvalid, hindex]

namespace Crowd

variable {start : Crowd} {first second events : List Event} {event : Event}

theorem Quiet.append (hfirst : start.Quiet first) (hsecond : (start.run first).Quiet second) :
    start.Quiet (first ++ second) := by
  intro past event hpast
  rcases List.prefix_or_prefix_of_prefix hpast (List.prefix_append first second) with h | h
  · exact hfirst past event h
  · rcases List.prefix_concat_iff.mp h with heq | ⟨between, rfl⟩
    · exact hfirst past event (heq ▸ List.prefix_rfl)
    · rw [List.append_assoc] at hpast
      rw [run_append]
      exact hsecond between event ((List.prefix_append_right_inj first).mp hpast)

theorem Quiet.cons (hevent : event.IsQuiet start) (hrest : (event.perform start).Quiet events) :
    start.Quiet (event :: events) := by
  intro past next hpast
  cases past with
  | nil =>
      obtain ⟨rfl, -⟩ := List.cons_prefix_cons.mp hpast
      exact hevent
  | cons earlier past =>
      obtain ⟨rfl, hlater⟩ := List.cons_prefix_cons.mp hpast
      exact hrest past next hlater

/-- Events without edits are quiet. -/
theorem quiet_of_noEdit (h : ∀ disk, .edit disk ∉ events) : start.Quiet events := by
  intro past event hprefix
  have hmem : event ∈ events := hprefix.subset (by simp)
  cases event with
  | edit disk => exact absurd hmem (h disk)
  | _ => trivial

end Crowd

/-- A document that names the files. -/
def listing (files : List File) : Index.Document :=
  { schemaVersion := 1, modules := files.map fun file => { path := file.path } }

/-- An indexer that names the files. -/
def lister : Indexer := ⟨"lister", false, fun tree disk _ => (tree.files disk).map listing⟩

theorem index_lister {tree : Tree} {disk : Disk} {files : List File}
    (h : tree.files disk = .ok files) : lister.index tree disk ⟨0, 0⟩ = .ok (listing files) := by
  show (tree.files disk).map listing = _
  rw [h]
  rfl

theorem files_besides_leftover : besides.files leftover = .ok [⟨"a.tmp", []⟩] :=
  Tree.files_eq_ok.mpr ⟨[], rfl, rfl, by decide +kernel⟩

/-- A disk with a file of the tree and one that is none. -/
def annotated : Disk := { files := [(["a.tmp"], []), (["b.txt"], [])] }

theorem files_annotated : besides.files annotated = .ok [⟨"a.tmp", []⟩] :=
  Tree.files_eq_ok.mpr ⟨[], rfl, rfl, by decide +kernel⟩

/-- The record of a list of files that the lister has named. -/
def listedRecord (files : List File) : Record :=
  madeRecord (Source.fingerprintOf files) ⟨0, 0⟩ (listing files)

/-- The first lookup, while a file that does not belong to the tree is added. -/
theorem run_annotated :
    Crowd.run ⟨.opened besides "/b" leftover, []⟩ (disturbed lister ⟨0, 0⟩ [.edit annotated]) =
      ⟨{ Site.opened besides "/b" leftover with disk := annotated }.renewed
          (listedRecord [⟨"a.tmp", []⟩]),
        [.done (.ok ⟨listedRecord [⟨"a.tmp", []⟩], .built⟩)]⟩ :=
  run_disturbed (Source.fingerprint_eq_ok.mpr ⟨_, files_besides_leftover, rfl⟩) rfl rfl rfl
    (index_lister files_annotated)

/-- The second lookup, after the file of the tree was removed. -/
theorem run_emptied :
    (Crowd.run ⟨.opened besides "/b" leftover, []⟩
        (disturbed lister ⟨0, 0⟩ [.edit annotated] ++ editedLater lister ⟨0, 0⟩ {})).lookups =
      [.done (.ok ⟨listedRecord [⟨"a.tmp", []⟩], .built⟩),
        .done (.ok ⟨listedRecord [], .rebuilt⟩)] := by
  rw [Crowd.run_append, run_annotated, run_editedLater rfl rfl
    (Source.fingerprint_eq_ok.mpr ⟨[], files_besides, rfl⟩) Source.digest_emptyFile_ne
    (index_lister files_besides)]
  rfl

/-- While the first lookup is on its way, only a file that does not belong to the tree is added; the
tree is edited when that lookup is done. -/
theorem quiet_emptied :
    Crowd.Quiet ⟨.opened besides "/b" leftover, []⟩
      (disturbed lister ⟨0, 0⟩ [.edit annotated] ++ editedLater lister ⟨0, 0⟩ {}) := by
  have hsame : besides.files annotated = besides.files leftover :=
    files_annotated.trans files_besides_leftover.symm
  refine Crowd.Quiet.append (Crowd.Quiet.append (Crowd.Quiet.append ?_ ?_) ?_) ?_
  · exact Crowd.quiet_of_noEdit (by simp)
  · rw [run_measured (Source.fingerprint_eq_ok.mpr ⟨_, files_besides_leftover, rfl⟩)]
    exact .cons ⟨rfl, fun _ _ => hsame⟩ (Crowd.quiet_of_noEdit (by simp))
  · exact Crowd.quiet_of_noEdit (by simp)
  · show Crowd.Quiet (Crowd.run _ (disturbed lister ⟨0, 0⟩ [.edit annotated])) _
    rw [run_annotated]
    refine .cons ⟨rfl, fun i hpending => ?_⟩ (Crowd.quiet_of_noEdit (by simp))
    obtain ⟨lookup, hlookup, hon⟩ := hpending
    obtain rfl := List.mem_singleton.mp (List.mem_of_getElem? hlookup)
    cases hon

/-- A tree with a file is looked up twice, and in between the file is removed. The second lookup is
answered with a record of the empty tree: what was indexed has the fingerprint of the record. -/
theorem answer_provenance_emptied :
    let start : Crowd := ⟨.opened besides "/b" leftover, []⟩
    let events := disturbed lister ⟨0, 0⟩ [.edit annotated] ++ editedLater lister ⟨0, 0⟩ {}
    (start.run events).lookups = [.done (.ok ⟨listedRecord [⟨"a.tmp", []⟩], .built⟩),
      .done (.ok ⟨listedRecord [], .rebuilt⟩)] ∧
    standsApart besides "/b" [] = true ∧ start.Quiet events ∧
    ∃ j fingerprint indexing indexer now,
      start.IndexesAt indexing j fingerprint indexer now (listedRecord []).document ∧
      (listedRecord []).fingerprint = fingerprint.digest ∧
      besides.fingerprint (start.run indexing).site.disk = .ok fingerprint := by
  intro start events
  have hanswer : (start.run events).lookups[1]? =
      some (.done (.ok ⟨listedRecord [], .rebuilt⟩)) := by
    rw [run_emptied, List.getElem?_cons_succ, List.getElem?_cons_zero]
  have hapart : standsApart besides "/b" [] = true := by decide +kernel
  have hnone : (Site.opened besides "/b" leftover).cache.record ≠ some (listedRecord []) := nofun
  obtain ⟨j, fingerprint, -, indexing, -, -, indexer, now, -, -, -, hindexes, hfingerprint, -,
    hsame⟩ := (answer_provenance _ _ hanswer).resolve_left hnone
  exact ⟨run_emptied, hapart, quiet_emptied, j, fingerprint, indexing, indexer, now, hindexes,
    hfingerprint, hsame hapart quiet_emptied⟩

/-! ### A tree that is edited in between -/

/-- The edit is reverted, and another lookup is made. -/
def revertedLater (indexer : Indexer) (now : Timestamp) (disk : Disk) : List Event :=
  [.edit disk, .enter, .advance 1 indexer now, .advance 1 indexer now]

/-- The other lookup finds the record valid. -/
theorem hit_revertedLater {site : Site} {disk : Disk} {lookup : Lookup} {r : Record}
    (indexer : Indexer) (now : Timestamp) (h : Fresh r { site with disk }) :
    (Crowd.run ⟨site, [lookup]⟩ (revertedLater indexer now disk)).lookups[1]? =
      some (.done (.ok ⟨r, .hit⟩)) := by
  obtain ⟨fingerprint, hmeasure, hdigest⟩ := h.measured
  have hvalid : site.cache.validRecord? fingerprint = some r :=
    validRecord?_eq_some.mpr ⟨h.clear, h.record, hdigest⟩
  have hmeasure' : site.cache.tree.fingerprint disk = .ok fingerprint := hmeasure
  simp [Crowd.run, revertedLater, Event.perform, Lookup.step, hmeasure', hvalid]

/-- The record of a tree that was empty when it was measured and held a file when it was indexed. -/
def mixedRecord : Record :=
  madeRecord (Source.fingerprintOf []) ⟨0, 0⟩ (listing [⟨"a.tmp", []⟩])

theorem run_mixed :
    Crowd.run ⟨.opened besides "/b" {}, []⟩ (disturbed lister ⟨0, 0⟩ [.edit leftover]) =
      ⟨{ Site.opened besides "/b" {} with disk := leftover }.renewed mixedRecord,
        [.done (.ok ⟨mixedRecord, .built⟩)]⟩ :=
  run_disturbed (Source.fingerprint_eq_ok.mpr ⟨[], files_besides, rfl⟩) rfl rfl rfl
    (index_lister files_besides_leftover)

theorem files_published_mixed : besides.files (published "b" mixedRecord) = .ok [] :=
  files_published mixedRecord rfl (by decide +kernel)

theorem fresh_mixed :
    Fresh mixedRecord
      { { Site.opened besides "/b" {} with disk := leftover }.renewed mixedRecord with
        disk := published "b" mixedRecord } :=
  ⟨rfl, rfl, _, Source.fingerprint_eq_ok.mpr ⟨[], files_published_mixed, rfl⟩,
    madeRecord_fingerprint ..⟩

/-- A lookup is answered with a document that was made from a tree with another fingerprint than
that of the record, and when the edit is reverted, the record is served as a valid one although the
indexer says something else about the tree. -/
theorem hit_on_other_contents :
    let start : Crowd := ⟨.opened besides "/b" {}, []⟩
    let built := start.run (disturbed lister ⟨0, 0⟩ [.edit leftover])
    let reverted := built.run (revertedLater lister ⟨0, 0⟩ (published "b" mixedRecord))
    built.lookups[0]? = some (.done (.ok ⟨mixedRecord, .built⟩)) ∧
    built.site.cache.builds = 1 ∧
    lister.index besides leftover ⟨0, 0⟩ = .ok mixedRecord.document ∧
    (∀ fingerprint, besides.fingerprint leftover = .ok fingerprint →
      fingerprint.digest ≠ mixedRecord.fingerprint) ∧
    reverted.lookups[1]? = some (.done (.ok ⟨mixedRecord, .hit⟩)) ∧
    lister.index besides (published "b" mixedRecord) ⟨0, 0⟩ ≠ .ok mixedRecord.document := by
  refine ⟨?_, ?_, index_lister files_besides_leftover, fun fingerprint hfingerprint => ?_, ?_, ?_⟩
  · rw [run_mixed, List.getElem?_cons_zero]
  · rw [run_mixed]
    rfl
  · obtain ⟨files, hfiles, rfl⟩ := Source.fingerprint_eq_ok.mp hfingerprint
    obtain rfl : [⟨"a.tmp", []⟩] = files :=
      Except.ok.inj (files_besides_leftover.symm.trans hfiles)
    rw [mixedRecord, madeRecord_fingerprint]
    exact Source.digest_emptyFile_ne
  · rw [run_mixed]
    exact hit_revertedLater lister ⟨0, 0⟩ fresh_mixed
  · rw [index_lister files_published_mixed]
    exact fun h => absurd (congrArg (·.modules.length) (Except.ok.inj h)) (by decide)

end Switchboard.Cache
