import Switchboard.Proofs.Cache.Provenance
import Switchboard.Proofs.Cache.Turns

/-!
# One index for all lookups

A lookup that finds no valid record does not start the indexer at once: it takes the build lock and
looks again. On a tree that does not change, the first holder of the lock that finds nothing makes
the only index there is. Whoever looks afterwards finds its record valid, at the first look or at
the second one.

Such a run has two parts. As long as the record is not valid, nobody has an answer and at most one
lookup has started the indexer (`Crowd.Unfilled`). From the moment it is valid on, nobody starts
the indexer any more and every answer is that record (`Crowd.Filled`).

## Main results

* `Crowd.Filled.step`, `Crowd.Unfilled.step` — what one event keeps in each part.
* `Crowd.shared_run` — a run is in one of the two parts.
* `one_build_serves_all` — how often the indexer is started, and what everybody is answered.
-/

namespace Switchboard.Cache

open Switchboard.Source (File Fingerprint Indexer Tree)

variable {indexer : Indexer} {now : Timestamp} {site last : Site} {lookup next : Lookup}
  {crowd : Crowd} {event : Event} {events : List Event} {fingerprint : Fingerprint} {r : Record}
  {builds i : Nat}

/-! ## The two parts -/

/-- Whether the indexer was started for a lookup and its index is not stored yet. -/
def Lookup.isBuilding (lookup : Lookup) : Bool := lookup.isIndexing || lookup.isIndexed

theorem Lookup.isHolder_of_isBuilding (h : lookup.isBuilding = true) : lookup.isHolder = true := by
  cases lookup with
  | indexing | indexed => rfl
  | _ => cases h

/-- A lookup of a tree with the given fingerprint that has no answer, and whose index, if it was
made, is a good one. -/
def Lookup.Awaits (fingerprint : Fingerprint) : Lookup → Prop
  | .fresh => True
  | .measured f | .queued f | .holding f | .missed f | .indexing f _ _ => f = fingerprint
  | .indexed f _ _ result => f = fingerprint ∧ ∃ document, result = .ok document
  | .done _ => False

/-- A lookup of a tree with the given fingerprint that needs no index, and whose answer, if it has
one, is the given record. -/
def Lookup.Shares (fingerprint : Fingerprint) (r : Record) : Lookup → Prop
  | .fresh => True
  | .measured f | .queued f | .holding f => f = fingerprint
  | .missed _ | .indexing .. | .indexed .. => False
  | .done answer => ∃ origin, origin.isStale = false ∧ answer = .ok ⟨r, origin⟩

namespace Crowd

/-- The part of a run in which there is no valid record: the indexer was started at most once. -/
structure Unfilled (fingerprint : Fingerprint) (builds : Nat) (crowd : Crowd) : Prop where
  clear : crowd.site.cache.invalidated = false
  invalid : crowd.site.cache.validRecord? fingerprint = none
  lookups : ∀ {i : Nat} {lookup : Lookup}, crowd.lookups[i]? = some lookup →
    lookup.Awaits fingerprint
  started : ∀ {i : Nat}, crowd.Has Lookup.isBuilding i → crowd.site.cache.builds = builds + 1
  unstarted : (∀ i, ¬crowd.Has Lookup.isBuilding i) → crowd.site.cache.builds = builds

/-- The part of a run in which the record is valid: nobody needs the indexer. -/
structure Filled (fingerprint : Fingerprint) (r : Record) (builds : Nat) (crowd : Crowd) :
    Prop where
  valid : crowd.site.cache.validRecord? fingerprint = some r
  lookups : ∀ {i : Nat} {lookup : Lookup}, crowd.lookups[i]? = some lookup →
    lookup.Shares fingerprint r
  built : crowd.site.cache.builds = builds

/-! ## The record is valid -/

/-- A move of a lookup that shares the record leaves the record alone and starts no indexer. -/
theorem Filled.move (h : crowd.Filled fingerprint r builds)
    (hmeasure : crowd.site.cache.tree.fingerprint crowd.site.disk = .ok fingerprint)
    (move : Move indexer now crowd.site lookup site next)
    (hlookup : lookup.Shares fingerprint r) :
    site.cache.validRecord? fingerprint = some r ∧ site.cache.builds = builds ∧
      next.Shares fingerprint r := by
  cases move with
  | unmeasured measure => cases hmeasure.symm.trans measure
  | measured measure =>
      exact ⟨h.valid, h.built, Except.ok.inj (measure.symm.trans hmeasure)⟩
  | hit valid | lateHit valid =>
      cases hlookup
      exact ⟨h.valid, h.built, .hit, rfl, by rw [Option.some.inj (valid.symm.trans h.valid)]⟩
  | queued | waits | holds => exact ⟨h.valid, h.built, hlookup⟩
  | missed invalid =>
      cases hlookup
      cases invalid.symm.trans h.valid
  | starts | indexed | stores | fails => cases hlookup
  | rests => exact ⟨h.valid, h.built, hlookup⟩

/-- A valid record stays, and whoever is answered is answered with it. -/
theorem Filled.step (h : crowd.Filled fingerprint r builds)
    (hmeasure : crowd.site.cache.tree.fingerprint crowd.site.disk = .ok fingerprint)
    (hasked : event ≠ .invalidate) : (event.perform crowd).Filled fingerprint r builds := by
  have hshift := shift_perform crowd event
  generalize event.perform crowd = after at hshift
  cases hshift with
  | enters =>
      refine ⟨h.valid, fun hlookup => ?_, h.built⟩
      rcases getElem?_enter_cases hlookup with rfl | hold
      · trivial
      · exact h.lookups hold
  | idles => exact h
  | invalidates => exact absurd rfl hasked
  | edits => exact ⟨h.valid, h.lookups, h.built⟩
  | moves present move =>
      obtain ⟨hvalid, hbuilt, hnext⟩ := h.move hmeasure move (h.lookups present)
      refine ⟨hvalid, fun hlookup => ?_, hbuilt⟩
      rcases getElem?_set_cases hlookup with ⟨-, rfl⟩ | ⟨-, hold⟩
      · exact hnext
      · exact h.lookups hold

/-! ## The record is not valid -/

/-- As long as a lookup holds the build lock, no other one has started the indexer. -/
theorem Exclusive.not_isBuilding {j : Nat} (h : crowd.Exclusive)
    (hholder : crowd.Has Lookup.isHolder i) (hne : j ≠ i) : ¬crowd.Has Lookup.isBuilding j := by
  rintro ⟨other, hother, hbuilding⟩
  exact hne (h.unique ⟨other, hother, Lookup.isHolder_of_isBuilding hbuilding⟩ hholder)

/-- What a move of a lookup without an answer leads to: the record stays as it is and the indexer
is not started, or it is started, or the record is stored. -/
theorem Unfilled.move (h : crowd.Unfilled fingerprint builds)
    (hmeasure : crowd.site.cache.tree.fingerprint crowd.site.disk = .ok fingerprint)
    (move : Move indexer now crowd.site lookup site next)
    (hlookup : lookup.Awaits fingerprint)
    (hindex : lookup.isIndexing = true →
      ∃ document, indexer.index crowd.site.cache.tree crowd.site.disk now = .ok document) :
    (site.cache.invalidated = false ∧ site.cache.validRecord? fingerprint = none ∧
      next.Awaits fingerprint ∧
      (next.isBuilding = lookup.isBuilding ∧ site.cache.builds = crowd.site.cache.builds ∨
        lookup.isBuilding = false ∧ lookup.isHolder = true ∧ next.isBuilding = true ∧
          site.cache.builds = crowd.site.cache.builds + 1)) ∨
    lookup.isBuilding = true ∧ site.cache.builds = crowd.site.cache.builds ∧
      ∃ r, site.cache.validRecord? fingerprint = some r ∧ next.Shares fingerprint r := by
  cases move with
  | unmeasured measure => cases hmeasure.symm.trans measure
  | measured measure =>
      exact .inl ⟨h.clear, h.invalid, Except.ok.inj (measure.symm.trans hmeasure), .inl ⟨rfl, rfl⟩⟩
  | hit valid | lateHit valid =>
      cases hlookup
      cases h.invalid.symm.trans valid
  | queued | waits | holds | missed => exact .inl ⟨h.clear, h.invalid, hlookup, .inl ⟨rfl, rfl⟩⟩
  | starts =>
      refine .inl ⟨rfl, ?_, hlookup, .inr ⟨rfl, rfl, rfl, rfl⟩⟩
      rw [← h.invalid, validRecord?, validRecord?, h.clear]
      rfl
  | indexed => exact .inl ⟨h.clear, h.invalid, ⟨hlookup, hindex rfl⟩, .inl ⟨rfl, rfl⟩⟩
  | @stores f previous _ document _ made =>
      obtain ⟨rfl, -⟩ := hlookup
      subst made
      refine .inr ⟨rfl, rfl, _, validRecord?_eq_some.mpr ⟨h.clear, rfl, rfl⟩, _, ?_, rfl⟩
      cases previous <;> rfl
  | fails =>
      obtain ⟨-, document, hdocument⟩ := hlookup
      cases hdocument
  | rests => cases hlookup

/-- Without a valid record nobody is answered, and the indexer is started by one lookup only: the
others that need it have to wait for the lock. Once the record is stored it is valid. -/
theorem Unfilled.step (h : crowd.Unfilled fingerprint builds) (hexclusive : crowd.Exclusive)
    (hmeasure : crowd.site.cache.tree.fingerprint crowd.site.disk = .ok fingerprint)
    (hasked : event ≠ .invalidate)
    (hindex : ∀ i indexer now, event = .advance i indexer now → crowd.Has Lookup.isIndexing i →
      ∃ document, indexer.index crowd.site.cache.tree crowd.site.disk now = .ok document) :
    (event.perform crowd).Unfilled fingerprint builds ∨
      ∃ r, (event.perform crowd).Filled fingerprint r (builds + 1) := by
  have hshift := shift_perform crowd event
  generalize event.perform crowd = after at hshift
  cases hshift with
  | enters =>
      left
      refine ⟨h.clear, h.invalid, fun hlookup => ?_, fun hi => h.started (hi.of_enter rfl),
        fun hnone => h.unstarted fun i hi => hnone i hi.enter⟩
      rcases getElem?_enter_cases hlookup with rfl | hold
      · trivial
      · exact h.lookups hold
  | idles => exact .inl h
  | invalidates => exact absurd rfl hasked
  | edits => exact .inl ⟨h.clear, h.invalid, h.lookups, h.started, h.unstarted⟩
  | @moves i indexer now lookup next site present move =>
      have hmove := h.move hmeasure move (h.lookups present) fun hindexing =>
        hindex i indexer now rfl ⟨lookup, present, hindexing⟩
      rcases hmove with ⟨hclear, hinvalid, hnext, hbuilds⟩ | ⟨hbuilding, hbuilt, r, hvalid, hnext⟩
      · left
        have hlookups : ∀ {j : Nat} {found : Lookup}, (crowd.lookups.set i next)[j]? = some found →
            found.Awaits fingerprint := by
          intro j found hfound
          rcases getElem?_set_cases hfound with ⟨-, rfl⟩ | ⟨-, hold⟩
          · exact hnext
          · exact h.lookups hold
        rcases hbuilds with ⟨hsame, hbuilt⟩ | ⟨hwas, hholds, his, hbuilt⟩
        · refine ⟨hclear, hinvalid, hlookups, fun hj => hbuilt.trans ?_,
            fun hnone => hbuilt.trans ?_⟩
          · rcases hj.of_set with ⟨rfl, hbuilding⟩ | ⟨-, hold⟩
            · exact h.started ⟨lookup, present, hsame.symm.trans hbuilding⟩
            · exact h.started hold
          · refine h.unstarted fun j hj => ?_
            by_cases hji : j = i
            · subst hji
              obtain ⟨found, hfound, hbuilding⟩ := hj
              cases present.symm.trans hfound
              exact hnone j (has_set_self present (hsame.trans hbuilding))
            · exact hnone j (hj.set_of_ne hji)
        · -- the holder of the lock starts the indexer, and nobody did so before
          have hnobody : ∀ j, ¬crowd.Has Lookup.isBuilding j := by
            intro j hj
            have hji := hj.ne present hwas
            exact hexclusive.not_isBuilding ⟨lookup, present, hholds⟩ hji hj
          refine ⟨hclear, hinvalid, hlookups, fun _ => ?_, fun hnone => ?_⟩
          · rw [hbuilt, h.unstarted hnobody]
          · exact absurd (has_set_self present his) (hnone i)
      · right
        refine ⟨r, hvalid, fun {j found} hfound => ?_,
          hbuilt.trans (h.started ⟨lookup, present, hbuilding⟩)⟩
        rcases getElem?_set_cases hfound with ⟨-, rfl⟩ | ⟨hne, hold⟩
        · exact hnext
        · -- the others do not hold the lock, so none of them needs the indexer
          have hother : ¬crowd.Has Lookup.isHolder j := fun hj =>
            hne (hexclusive.unique hj
              ⟨lookup, present, Lookup.isHolder_of_isBuilding hbuilding⟩)
          have hawaits := h.lookups hold
          cases found with
          | fresh => trivial
          | measured | queued => exact hawaits
          | holding => exact hawaits
          | missed | indexing | indexed => exact absurd ⟨_, hold, rfl⟩ hother
          | done => cases hawaits

/-! ## Whole runs -/

/-- A run on a tree that has the same files all the time: nobody asks for a new index, and the
indexer succeeds whenever it is at work. -/
structure Undisturbed (start : Crowd) (files : List File) (events : List Event) : Prop where
  files_eq : ∀ past, past <+: events →
    start.site.cache.tree.files (start.run past).site.disk = .ok files
  unasked : .invalidate ∉ events
  indexed : ∀ past i indexer now, past ++ [.advance i indexer now] <+: events →
    (start.run past).Has Lookup.isIndexing i →
    ∃ document, indexer.index start.site.cache.tree (start.run past).site.disk now = .ok document

section Undisturbed

variable {start : Crowd} {files : List File} {past : List Event}

theorem Undisturbed.of_prefix (h : start.Undisturbed files events) (hpast : past <+: events) :
    start.Undisturbed files past :=
  ⟨fun first hfirst => h.files_eq first (hfirst.trans hpast),
    fun hasked => h.unasked (hpast.subset hasked),
    fun first i indexer now hfirst => h.indexed first i indexer now (hfirst.trans hpast)⟩

/-- In each state of the run the tree has the fingerprint of its files. -/
theorem Undisturbed.measure (h : start.Undisturbed files events) (hpast : past <+: events) :
    (start.run past).site.cache.tree.fingerprint (start.run past).site.disk =
      .ok (Source.fingerprintOf files) := by
  rw [tree_run]
  exact Source.fingerprint_eq_ok.mpr ⟨files, h.files_eq past hpast, rfl⟩

/-- From a valid record on, everybody is served from it. -/
theorem Undisturbed.filled (h : start.Undisturbed files events)
    (hfilled : start.Filled (Source.fingerprintOf files) r builds) :
    (start.run events).Filled (Source.fingerprintOf files) r builds := by
  induction events using List.reverseRecOn with
  | nil => exact hfilled
  | append_singleton past event ih =>
      have hpast : past <+: past ++ [event] := List.prefix_append _ _
      rw [run_append]
      refine (ih (h.of_prefix hpast)).step (h.measure hpast) ?_
      rintro rfl
      exact h.unasked (by simp)

end Undisturbed

/-- In an undisturbed run the record is not valid yet, or one index was made and serves all. -/
theorem shared_run {files : List File} (hclear : site.cache.invalidated = false)
    (hinvalid : site.cache.validRecord? (Source.fingerprintOf files) = none)
    (h : Undisturbed ⟨site, []⟩ files events) :
    (Crowd.run ⟨site, []⟩ events).Unfilled (Source.fingerprintOf files) site.cache.builds ∨
      ∃ r, (Crowd.run ⟨site, []⟩ events).Filled (Source.fingerprintOf files) r
        (site.cache.builds + 1) := by
  induction events using List.reverseRecOn with
  | nil =>
      refine .inl ⟨hclear, hinvalid, nofun, ?_, fun _ => rfl⟩
      rintro i ⟨lookup, hlookup, -⟩
      cases hlookup
  | append_singleton past event ih =>
      have hpast : past <+: past ++ [event] := List.prefix_append _ _
      have hmeasure := h.measure hpast
      have hasked : event ≠ .invalidate := by
        rintro rfl
        exact h.unasked (by simp)
      rw [run_append]
      rcases ih (h.of_prefix hpast) with hunfilled | ⟨r, hfilled⟩
      · refine hunfilled.step (exclusive_run site past) hmeasure hasked ?_
        rintro i indexer now rfl hindexing
        rw [tree_run]
        exact h.indexed past i indexer now List.prefix_rfl hindexing
      · exact .inr ⟨r, hfilled.step hmeasure hasked⟩

end Crowd

/-- In the second part every answer is the record of the cache. -/
theorem Crowd.Filled.answer (h : crowd.Filled fingerprint r builds)
    {answer : Except Report Found} (hdone : crowd.lookups[i]? = some (.done answer)) :
    ∃ r origin, answer = .ok ⟨r, origin⟩ ∧ origin.isStale = false ∧
      crowd.site.cache.record = some r ∧ r.fingerprint = fingerprint.digest := by
  obtain ⟨origin, horigin, hanswer⟩ := h.lookups hdone
  obtain ⟨-, hrecord, hdigest⟩ := validRecord?_eq_some.mp h.valid
  exact ⟨r, origin, hanswer, horigin, hrecord, hdigest⟩

/-- In the first part the indexer was started at most once. -/
theorem Crowd.Unfilled.builds_le (h : crowd.Unfilled fingerprint builds) :
    crowd.site.cache.builds ≤ builds + 1 := by
  by_cases hstarted : ∃ i, crowd.Has Lookup.isBuilding i
  · obtain ⟨i, hi⟩ := hstarted
    exact Nat.le_of_eq (h.started hi)
  · rw [h.unstarted (not_exists.mp hstarted)]
    exact Nat.le_succ _

/-- Any number of lookups of a tree that does not change, taking their steps in any order: if
nobody asks for a new index and the indexer succeeds, it is started at most once, and not at all
when the record was valid at the beginning. Every answer is the record that the cache holds, which
has the fingerprint of the tree, so all answers are the same. When everybody had enough turns, every
lookup has its answer. -/
theorem one_build_serves_all {files : List File} (hclear : site.cache.invalidated = false)
    (hfree : site.cache.locked = false) (h : Crowd.Undisturbed ⟨site, []⟩ files events) :
    let crowd := Crowd.run ⟨site, []⟩ events
    crowd.site.cache.builds ≤ site.cache.builds + 1 ∧
    (∀ r, site.cache.validRecord? (Source.fingerprintOf files) = some r →
      crowd.site.cache.builds = site.cache.builds ∧ crowd.site.cache.record = some r) ∧
    (∀ (i : Nat) (answer : Except Report Found), crowd.lookups[i]? = some (.done answer) →
      ∃ r origin, answer = .ok ⟨r, origin⟩ ∧ origin.isStale = false ∧
        crowd.site.cache.record = some r ∧
        r.fingerprint = (Source.fingerprintOf files).digest) ∧
    (Crowd.Fair ⟨site, []⟩ events → ∀ lookup ∈ crowd.lookups, lookup.isDone = true) := by
  intro crowd
  have hdone : Crowd.Fair ⟨site, []⟩ events → ∀ lookup ∈ crowd.lookups, lookup.isDone = true :=
    fun hfair => hfair.isDone hfree
  cases hvalid : site.cache.validRecord? (Source.fingerprintOf files) with
  | some r =>
      have hfilled : crowd.Filled (Source.fingerprintOf files) r site.cache.builds :=
        h.filled ⟨hvalid, nofun, rfl⟩
      refine ⟨?_, ?_, fun _ _ => hfilled.answer, hdone⟩
      · rw [hfilled.built]
        exact Nat.le_succ _
      · rintro _ ⟨⟩
        exact ⟨hfilled.built, (validRecord?_eq_some.mp hfilled.valid).2.1⟩
  | none =>
      rcases Crowd.shared_run hclear hvalid h with hunfilled | ⟨r, hfilled⟩
      · exact ⟨hunfilled.builds_le, nofun, fun _ _ hanswer => (hunfilled.lookups hanswer).elim,
          hdone⟩
      · exact ⟨Nat.le_of_eq hfilled.built, nofun, fun _ _ => hfilled.answer, hdone⟩

/-! ### Trees that nobody edits -/

/-- Persisting is all that lookups do to a disk, so they leave the files of a tree that stands
apart alone. -/
theorem Crowd.files_run {files : List File} (events : List Event)
    (hapart : standsApart crowd.site.cache.tree crowd.site.cache.path crowd.site.disk.current =
      true)
    (hfiles : crowd.site.cache.tree.files crowd.site.disk = .ok files)
    (hedit : ∀ disk, .edit disk ∉ events) :
    crowd.site.cache.tree.files (crowd.run events).site.disk = .ok files := by
  induction events generalizing crowd with
  | nil => exact hfiles
  | cons event events ih =>
      have hrest : ∀ disk, .edit disk ∉ events := fun disk hdisk =>
        hedit disk (List.mem_cons_of_mem event hdisk)
      show crowd.site.cache.tree.files ((event.perform crowd).run events).site.disk = _
      have hshift := shift_perform crowd event
      generalize event.perform crowd = after at hshift
      cases hshift with
      | enters => exact ih hapart hfiles hrest
      | idles => exact ih hapart hfiles hrest
      | invalidates => exact ih hapart hfiles hrest
      | edits => exact absurd List.mem_cons_self (hedit _)
      | @moves i indexer now lookup next site present move =>
          obtain ⟨htree, hpath⟩ := move.cache_keeps
          have hkept : crowd.site.cache.tree.files site.disk = .ok files := by
            rcases move.disk_cases with hdisk | ⟨r, hdisk⟩
            · rw [hdisk, hfiles]
            · rw [hdisk, files_persist r hapart hfiles]
          rw [← htree]
          refine ih ?_ (htree ▸ hkept) hrest
          show standsApart site.cache.tree site.cache.path site.disk.current = true
          rw [htree, hpath, move.current_eq, hapart]

/-- A run of lookups alone, with an indexer that always succeeds, of a tree that stands apart from
where records are persisted, is undisturbed. -/
theorem Crowd.undisturbed_of_apart {files : List File}
    (hapart : standsApart site.cache.tree site.cache.path site.disk.current = true)
    (hfiles : site.cache.tree.files site.disk = .ok files)
    (hlookups : ∀ event ∈ events, event = .enter ∨ ∃ i indexer now,
      event = .advance i indexer now ∧
        ∀ disk, ∃ document, indexer.index site.cache.tree disk now = .ok document) :
    Crowd.Undisturbed ⟨site, []⟩ files events where
  files_eq past hpast := by
    refine Crowd.files_run past hapart hfiles fun disk hdisk => ?_
    rcases hlookups _ (hpast.subset hdisk) with h | ⟨i, indexer, now, h, -⟩ <;> cases h
  unasked hasked := by
    rcases hlookups _ hasked with h | ⟨i, indexer, now, h, -⟩ <;> cases h
  indexed past i indexer now hpast _ := by
    have hmem : .advance i indexer now ∈ events := hpast.subset (by simp)
    rcases hlookups _ hmem with h | ⟨j, indexer', now', h, hindex⟩
    · cases h
    · cases h
      exact hindex _

/-- Two lookups that take turns until both are done. -/
def inTurns (indexer : Indexer) (now : Timestamp) : List Event :=
  [.enter, .enter] ++
    (List.replicate (Lookup.length * 2) [.advance 0 indexer now, .advance 1 indexer now]).flatten

theorem fair_inTurns (indexer : Indexer) (now : Timestamp) (site : Site) :
    (Crowd.run ⟨site, []⟩ (inTurns indexer now)).lookups.length = 2 ∧
      Crowd.Fair ⟨site, []⟩ (inTurns indexer now) := by
  have hlength : (Crowd.run ⟨site, []⟩ (inTurns indexer now)).lookups.length = 2 := by
    rw [inTurns, Crowd.run_append, Crowd.length_run (by simp)]
    rfl
  refine ⟨hlength, [.enter, .enter], _, rfl, fun round hround => ?_, ?_⟩
  · rw [hlength, List.eq_of_mem_replicate hround]
    refine ⟨by simp, fun i hi => ⟨indexer, now, ?_⟩⟩
    match i, hi with
    | 0, _ => simp
    | 1, _ => simp
  · have hrounds : (List.replicate (Lookup.length * 2)
        [Event.advance 0 indexer now, .advance 1 indexer now]).length = Lookup.length * 2 :=
      List.length_replicate
    rw [hlength]
    exact Nat.le_of_eq hrounds.symm

/-- Two lookups of a tree with one file, after as many turns as they need. Both of them see that
there is no record before one gets the build lock. -/
def served : Crowd := Crowd.run ⟨.opened besides "/b" leftover, []⟩ (inTurns blank ⟨0, 0⟩)

/-- Both are answered, with one and the same record. -/
theorem one_build_serves_two :
    Crowd.Undisturbed ⟨.opened besides "/b" leftover, []⟩ [⟨"a.tmp", []⟩] (inTurns blank ⟨0, 0⟩) ∧
    served.lookups.length = 2 ∧ served.site.cache.builds ≤ 1 ∧
    ∀ lookup ∈ served.lookups, ∃ r origin,
      lookup = .done (.ok ⟨r, origin⟩) ∧ served.site.cache.record = some r := by
  have hapart : standsApart besides "/b" [] = true := by decide +kernel
  have hundisturbed : Crowd.Undisturbed ⟨.opened besides "/b" leftover, []⟩ [⟨"a.tmp", []⟩]
      (inTurns blank ⟨0, 0⟩) := by
    refine Crowd.undisturbed_of_apart hapart files_besides_leftover fun event hevent => ?_
    simp only [inTurns, List.mem_append, List.mem_flatten, List.mem_replicate] at hevent
    rcases hevent with hevent | ⟨round, ⟨-, rfl⟩, hevent⟩
    · exact .inl (by simpa using hevent)
    · right
      simp only [List.mem_cons, List.not_mem_nil, or_false] at hevent
      rcases hevent with rfl | rfl <;> exact ⟨_, blank, _, rfl, fun _ => ⟨_, rfl⟩⟩
  obtain ⟨hlength, hfair⟩ := fair_inTurns blank ⟨0, 0⟩ (Site.opened besides "/b" leftover)
  obtain ⟨hbuilds, -, hanswers, hdone⟩ :=
    one_build_serves_all (Site.opened_invalidated ..) (Site.opened_locked ..) hundisturbed
  rw [Site.opened_builds] at hbuilds
  refine ⟨hundisturbed, hlength, hbuilds, fun lookup hlookup => ?_⟩
  have hisDone := hdone hfair lookup hlookup
  cases lookup with
  | done answer =>
      obtain ⟨i, hi⟩ := List.getElem?_of_mem hlookup
      obtain ⟨r, origin, rfl, -, hrecord, -⟩ := hanswers i answer hi
      exact ⟨r, origin, rfl, hrecord⟩
  | _ => cases hisDone

end Switchboard.Cache
