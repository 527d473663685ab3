import Switchboard.Proofs.Cache.CutShort

/-!
# Several writers of one record file

Writers of different processes share the file next to the record file, for its name is fixed. What
is published is complete as long as they take turns: nobody opens that file while another writer has
it open. If they do not, a writer can rename the file that another one has just emptied, and what is
found under the path of the record is no record at all.

Between two steps of one writer the others can do anything that they are allowed to, so what holds
of all of them together, `Orderly`, is kept by a step of any of them.

## Main results

* `Orderly.step` — what holds of writers that take turns is kept by every step.
* `Writers.load_of_turns` — whatever the order of their steps is, what is loaded is complete.
-/

namespace Switchboard.Cache

open Switchboard.Disk (placeFrom)

variable {start disk last : Disk} {path : String} {w v next : Writer} {published : Option Record}
  {s : Writers} {i : Nat}

/-! ## Taking turns -/

/-- Whether a writer has the file next to the record file open. -/
def Writer.isWriting (w : Writer) : Bool :=
  match w.stage with
  | .writing _ => true
  | _ => false

/-- Whether a writer is about to open it. -/
def Writer.opensNext (w : Writer) : Bool :=
  match w.stage with
  | .furnished => true
  | _ => false

namespace Writers

/-- Writers of the given records that have not begun. -/
def ofRecords (disk : Disk) (records : List Record) : Writers :=
  ⟨disk, records.map fun record => { record }⟩

/-- Whether the next step of a writer does not open a file that another writer has open. -/
def mayStep (s : Writers) (i : Nat) : Bool :=
  match s.members[i]? with
  | some w => !w.opensNext || s.members.all (!·.isWriting)
  | none => true

/-- Whether writers take turns when they take steps in the given order. -/
def takeTurns (path : String) : Writers → List Nat → Bool
  | _, [] => true
  | s, i :: order => s.mayStep i && takeTurns path (s.step path i) order

end Writers

/-! ## Handles -/

/-- The writers after a step, apart from the one that has taken it, have the same records and
stages; they are the same altogether unless a file was renamed. -/
theorem Writers.step_of_some (path : String) (h : s.members[i]? = some w) :
    ∃ f : Writer → Writer,
      (∀ v, (f v).record = v.record ∧ (f v).stage = v.stage) ∧
      ((w.step path s.disk).2.hasPublished = w.hasPublished → f = id) ∧
      s.step path i =
        ⟨(w.step path s.disk).1, (s.members.map f).set i (w.step path s.disk).2⟩ := by
  simp only [step, h]
  split
  · next hrenamed =>
      have hne : (w.step path s.disk).2.hasPublished ≠ w.hasPublished := by
        intro heq
        simp [heq] at hrenamed
      rw [followAll]
      split
      · next here there _ _ =>
          exact ⟨(·.follow here there), fun v => ⟨rfl, rfl⟩, fun heq => absurd heq hne, rfl⟩
      · exact ⟨id, fun v => ⟨rfl, rfl⟩, fun _ => rfl, by rw [List.map_id]⟩
  · exact ⟨id, fun v => ⟨rfl, rfl⟩, fun _ => rfl, by rw [List.map_id]⟩

theorem Writers.step_of_none (h : s.members[i]? = none) : s.step path i = s := by
  simp only [step, h]

/-- Nobody loses or changes the record that is to be written. -/
theorem Writers.records_step (path : String) (s : Writers) (i : Nat) :
    (s.step path i).members.map (·.record) = s.members.map (·.record) := by
  cases hw : s.members[i]? with
  | none => rw [step_of_none hw]
  | some w =>
      obtain ⟨f, hf, -, hstep⟩ := step_of_some path hw
      have hrecord : (w.step path s.disk).2.record = w.record := (w.move_step path s.disk).record
      have hmap : (s.members.map f).map (·.record) = s.members.map (·.record) := by
        rw [List.map_map]
        exact List.map_congr_left fun v _ => (hf v).1
      have hfound : (s.members.map (·.record))[i]? = some w.record := by
        rw [List.getElem?_map, hw]
        rfl
      obtain ⟨hi, hw'⟩ := List.getElem?_eq_some_iff.mp hfound
      rw [hstep, List.map_set, hmap, hrecord, ← hw', List.set_getElem_self]

theorem Writers.run_append (order later : List Nat) :
    s.run path (order ++ later) = (s.run path order).run path later :=
  List.foldl_append

theorem Writers.records_run (path : String) (s : Writers) (order : List Nat) :
    (s.run path order).members.map (·.record) = s.members.map (·.record) := by
  induction order generalizing s with
  | nil => rfl
  | cons i order ih => exact (ih (s.step path i)).trans (records_step path s i)

/-- A writer that takes some steps on its own and publishes nothing leaves the others as they are. -/
theorem Writers.run_replicate {count : Nat} (h : s.members[i]? = some w)
    (hunpublished : (w.run path count s.disk).2.hasPublished = false) :
    s.run path (List.replicate count i) =
      ⟨(w.run path count s.disk).1, s.members.set i (w.run path count s.disk).2⟩ := by
  induction count generalizing s w with
  | zero =>
      obtain ⟨hi, rfl⟩ := List.getElem?_eq_some_iff.mp h
      rw [Writer.run, List.set_getElem_self]
      rfl
  | succ count ih =>
      rw [Writer.run_succ] at hunpublished ⊢
      have hnext : (w.step path s.disk).2.hasPublished = false := by
        rw [Bool.eq_false_iff]
        intro hpublished
        rw [Writer.run_of_done (Writer.hasPublished_iff.mp hpublished), hpublished] at hunpublished
        cases hunpublished
      have hstep : s.step path i =
          ⟨(w.step path s.disk).1, s.members.set i (w.step path s.disk).2⟩ := by
        simp only [step, h, hnext, Bool.false_and]
        rfl
      obtain ⟨hi, -⟩ := List.getElem?_eq_some_iff.mp h
      have hset : (s.members.set i (w.step path s.disk).2)[i]? = some (w.step path s.disk).2 :=
        List.getElem?_set_self hi
      have hrest := ih (s := ⟨(w.step path s.disk).1, s.members.set i (w.step path s.disk).2⟩)
        hset hunpublished
      rw [List.replicate_succ, Writers.run, List.foldl_cons, hstep, ← Writers.run, hrest,
        List.set_set]

/-! ## What a step does to the others -/

theorem Writer.Sound.of_stage_fresh (h : v.stage = .fresh) : v.Sound path disk := by
  obtain ⟨record, stage, handle⟩ := v
  exact (show stage = .fresh from h) ▸ .fresh

theorem Writer.Sound.of_stage_done {outcome : Except Report Unit} (h : v.stage = .done outcome) :
    v.Sound path disk := by
  obtain ⟨record, stage, handle⟩ := v
  exact (show stage = .done outcome from h) ▸ .done

theorem Writer.Sound.of_stage_furnished (h : v.stage = .furnished) (hroom : disk.HasRoom path) :
    v.Sound path disk := by
  obtain ⟨record, stage, handle⟩ := v
  exact (show stage = .furnished from h) ▸ .furnished hroom

section Spared

variable (hmove : w.Move path disk last next) (hsound : w.Sound path disk)

include hmove

theorem Writer.Move.isWriting (h : next.isWriting = true) :
    w.opensNext = true ∨ w.isWriting = true := by
  cases hmove with
  | opens => exact .inl rfl
  | writes => exact .inr rfl
  | _ => cases h

/-- A writer that neither opens a file nor has one open changes nothing where there is room. -/
theorem Writer.Move.eq_of_idle (hopens : w.opensNext = false) (hidle : w.isWriting = false)
    (hroom : disk.HasRoom path) : last = disk ∧ next.hasPublished = w.hasPublished := by
  cases hmove with
  | furnishes made =>
      rw [makeRoom_of_hasRoom hroom] at made
      exact ⟨(Except.ok.inj made).symm, rfl⟩
  | unfurnished failed =>
      rw [makeRoom_of_hasRoom hroom] at failed
      cases failed
  | refused => exact ⟨rfl, rfl⟩
  | rests => exact ⟨rfl, rfl⟩
  | opens => cases hopens
  | _ => cases hidle

include hsound

/-- Room for the record stays. -/
theorem Writer.Move.hasRoom (hroom : disk.HasRoom path) : last.HasRoom path := by
  cases hmove with
  | furnishes made => exact hasRoom_of_makeRoom made
  | unfurnished failed =>
      rw [makeRoom_of_hasRoom hroom] at failed
      cases failed
  | opens writable => exact hasRoom_putTemporary hroom writable
  | writes following =>
      cases hsound with
      | writing room writable content =>
          rw [writeThrough_eq content following]
          exact hasRoom_putTemporary hroom writable
  | publishes complete moved =>
      cases hsound with
      | writing room writable content =>
          obtain ⟨hfree, hlast, -⟩ := publish_eq_moved writable content moved
          exact hlast ▸ hroom.moved writable.free hfree
  | _ => exact hroom

/-- A writer goes on as before if it does not have its file open while another one opens or writes
it. The handles of writers that have no file open do not count. -/
theorem Writer.Move.spares {f : Writer → Writer} (hv : v.Sound path disk)
    (hstage : (f v).stage = v.stage) (hrenamed : next.hasPublished = w.hasPublished → f = id)
    (hturn : v.isWriting = true → w.opensNext = false ∧ w.isWriting = false) :
    (f v).Sound path last := by
  cases hv with
  | writing room writable content =>
      obtain ⟨hopens, hidle⟩ := hturn rfl
      obtain ⟨rfl, hsame⟩ := hmove.eq_of_idle hopens hidle room
      rw [hrenamed hsame]
      exact .writing room writable content
  | furnished room => exact .of_stage_furnished hstage (hmove.hasRoom hsound room)
  | fresh => exact .of_stage_fresh hstage
  | done => exact .of_stage_done hstage

end Spared

/-! ## Orderly writers -/

namespace Writers

/-- What holds of writers that take turns, given the last record that one of them has published. -/
structure Orderly (start : Disk) (path : String) (published : Option Record) (s : Writers) :
    Prop where
  standing : Standing start path published s.disk
  sound : ∀ {j : Nat} {v : Writer}, s.members[j]? = some v → v.Sound path s.disk
  alone : ∀ {j k : Nat} {v w : Writer}, s.members[j]? = some v → s.members[k]? = some w →
    v.isWriting = true → w.isWriting = true → j = k
  known : ∀ r ∈ published, r ∈ s.members.map (·.record)

theorem isWriting_congr (h : v.stage = w.stage) : v.isWriting = w.isWriting := by
  rw [Writer.isWriting, Writer.isWriting, h]

/-- Where a writer may take a step, no other one that has a file open is disturbed. -/
theorem Orderly.turn (h : Orderly start path published s) (hturn : s.mayStep i = true)
    (hw : s.members[i]? = some w) {j : Nat} (hv : s.members[j]? = some v) (hne : j ≠ i)
    (hwriting : v.isWriting = true) : w.opensNext = false ∧ w.isWriting = false := by
  constructor
  · simp only [mayStep, hw, Bool.or_eq_true, Bool.not_eq_true', List.all_eq_true] at hturn
    refine hturn.resolve_right fun hall => ?_
    exact absurd (hwriting.symm.trans (hall v (List.mem_of_getElem? hv))) nofun
  · rw [Bool.eq_false_iff]
    exact fun hwriting' => hne (h.alone hv hw hwriting hwriting')

/-- The writers after a step of one of them: that one, or another one as it was but for its
handle. -/
theorem getElem?_set_map {members : List Writer} {f : Writer → Writer} {j : Nat}
    (h : ((members.map f).set i next)[j]? = some v) :
    j = i ∧ v = next ∨ j ≠ i ∧ ∃ u, members[j]? = some u ∧ f u = v := by
  rw [List.getElem?_set] at h
  by_cases hij : i = j
  · rw [if_pos hij] at h
    split at h
    · exact .inl ⟨hij.symm, (Option.some.inj h).symm⟩
    · cases h
  · rw [if_neg hij, List.getElem?_map, Option.map_eq_some_iff] at h
    exact .inr ⟨Ne.symm hij, h⟩

/-- After a step that leaves a writer with its file open, no other one has it open. -/
theorem Orderly.undisturbed (h : Orderly start path published s) (hturn : s.mayStep i = true)
    (hw : s.members[i]? = some w) (hmove : w.Move path s.disk last next)
    (hnext : next.isWriting = true) {j : Nat} (hv : s.members[j]? = some v) (hne : j ≠ i) :
    v.isWriting = false := by
  rw [Bool.eq_false_iff]
  intro hwriting
  obtain ⟨hopens, hidle⟩ := h.turn hturn hw hv hne hwriting
  obtain hopens' | hidle' := hmove.isWriting hnext
  · exact absurd (hopens.symm.trans hopens') nofun
  · exact absurd (hidle.symm.trans hidle') nofun

/-- After a step that is allowed, at most one writer has the file open. -/
theorem Orderly.alone_step {f : Writer → Writer} (h : Orderly start path published s)
    (hturn : s.mayStep i = true) (hw : s.members[i]? = some w)
    (hmove : w.Move path s.disk last next) (hf : ∀ v, (f v).stage = v.stage)
    {j k : Nat} {v v' : Writer} (hv : ((s.members.map f).set i next)[j]? = some v)
    (hv' : ((s.members.map f).set i next)[k]? = some v') (hwriting : v.isWriting = true)
    (hwriting' : v'.isWriting = true) : j = k := by
  obtain ⟨rfl, rfl⟩ | ⟨hne, u, hu, rfl⟩ := getElem?_set_map hv
  · obtain ⟨rfl, -⟩ | ⟨hne', u', hu', rfl⟩ := getElem?_set_map hv'
    · rfl
    · rw [isWriting_congr (hf u'), h.undisturbed hturn hw hmove hwriting hu' hne'] at hwriting'
      cases hwriting'
  · rw [isWriting_congr (hf u)] at hwriting
    obtain ⟨rfl, rfl⟩ | ⟨-, u', hu', rfl⟩ := getElem?_set_map hv'
    · rw [h.undisturbed hturn hw hmove hwriting' hu hne] at hwriting
      cases hwriting
    · rw [isWriting_congr (hf u')] at hwriting'
      exact h.alone hu hu' hwriting hwriting'

/-- After a step that is allowed, every writer that has the file open finds there what it has
written: the one that took the step, and those that it spared. -/
theorem Orderly.sound_step {f : Writer → Writer} (h : Orderly start path published s)
    (hturn : s.mayStep i = true) (hw : s.members[i]? = some w)
    (hmove : w.Move path s.disk last next) (hf : ∀ v, (f v).stage = v.stage)
    (hrenamed : next.hasPublished = w.hasPublished → f = id) {j : Nat}
    (hv : ((s.members.map f).set i next)[j]? = some v) : v.Sound path last := by
  obtain ⟨-, rfl⟩ | ⟨hne, u, hu, rfl⟩ := getElem?_set_map hv
  · exact (h.sound hw).move hmove
  · exact hmove.spares (h.sound hw) (h.sound hu) (hf u) hrenamed (h.turn hturn hw hu hne)

/-- Writers that take turns stay orderly. -/
theorem Orderly.step (h : Orderly start path published s) (hturn : s.mayStep i = true) :
    ∃ published', Orderly start path published' (s.step path i) := by
  cases hw : s.members[i]? with
  | none =>
      rw [step_of_none hw]
      exact ⟨published, h⟩
  | some w =>
      have hmove := w.move_step path s.disk
      have hrecords := records_step path s i
      obtain ⟨f, hf, hrenamed, hstep⟩ := step_of_some path hw
      have hstage : ∀ v, (f v).stage = v.stage := fun v => (hf v).2
      rw [hstep] at hrecords ⊢
      obtain ⟨-, hstands⟩ | ⟨-, -, hstands⟩ := h.standing.move (h.sound hw) hmove
      · exact ⟨published, hstands, h.sound_step hturn hw hmove hstage hrenamed,
          h.alone_step hturn hw hmove hstage, fun r hr => hrecords ▸ h.known r hr⟩
      · refine ⟨some w.record, hstands, h.sound_step hturn hw hmove hstage hrenamed,
          h.alone_step hturn hw hmove hstage, ?_⟩
        rintro r ⟨⟩
        exact hrecords ▸ List.mem_map_of_mem (List.mem_of_getElem? hw)

/-- Writers that take turns stay orderly all the time. -/
theorem Orderly.run {order : List Nat} (h : Orderly start path published s)
    (hturns : takeTurns path s order = true) :
    ∃ published', Orderly start path published' (s.run path order) := by
  induction order generalizing s published with
  | nil => exact ⟨published, h⟩
  | cons i order ih =>
      rw [takeTurns, Bool.and_eq_true] at hturns
      obtain ⟨published', hnext⟩ := h.step hturns.1
      exact ih hnext hturns.2

theorem orderly_ofRecords (disk : Disk) (path : String) (records : List Record) :
    Orderly disk path none (ofRecords disk records) := by
  have hfresh : ∀ {j : Nat} {v : Writer}, (ofRecords disk records).members[j]? = some v →
      v.stage = .fresh := by
    intro j v hv
    obtain ⟨r, -, rfl⟩ := List.mem_map.mp (List.mem_of_getElem? hv)
    rfl
  refine ⟨.refl disk path, fun hv => .of_stage_fresh (hfresh hv), ?_, nofun⟩
  intro j k v w hv hw hwriting
  rw [Writer.isWriting, hfresh hv] at hwriting
  cases hwriting

/-- Writers of different records of the current version take steps in any order in which no one
opens the file next to the record file while another one has it open. At every moment, what is
loaded is what was loaded at the start, or one of the records; nothing is ever discarded. -/
theorem load_of_turns (disk : Disk) (path : String) (records : List Record) (order : List Nat)
    (hstart : (∃ r, Holds disk path r) ∨ StaysMissing disk path)
    (hfits : ∀ r ∈ records, r.fits = true ∧ r.document.schemaVersion = 1)
    (hturns : takeTurns path (ofRecords disk records) order = true) :
    (load ((ofRecords disk records).run path order).disk path = load disk path ∨
        ∃ r ∈ records,
          load ((ofRecords disk records).run path order).disk path = (some r, .loaded)) ∧
      ∀ reason,
        (load ((ofRecords disk records).run path order).disk path).2 ≠ .discarded reason := by
  obtain ⟨published, horderly⟩ := (orderly_ofRecords disk path records).run hturns
  have hrecords : ∀ r ∈ published, r ∈ records := by
    intro r hr
    have hmem := horderly.known r hr
    rw [records_run] at hmem
    simpa [ofRecords] using hmem
  have hload := horderly.standing.load hstart fun r hr => isLoadable_of (hfits r (hrecords r hr))
  cases published with
  | none => exact ⟨.inl hload, fun reason => hload ▸ ne_discarded_of_start hstart reason⟩
  | some r =>
      refine ⟨.inr ⟨r, hrecords r rfl, hload⟩, fun reason => ?_⟩
      rw [hload]
      exact nofun

/-! ### Two writers -/

/-- The first writer opens the file next to the record file and writes two bytes, while the second
one waits. The record that was there is still loaded. -/
theorem load_beside_writer :
    (load ((ofRecords { files := [(["b"], (smallRecord "c").content)] }
        [smallRecord "a", smallRecord "b"]).run "/b" [0, 1, 0, 0, 0]).disk "/b" =
        load { files := [(["b"], (smallRecord "c").content)] } "/b" ∨
      ∃ r ∈ [smallRecord "a", smallRecord "b"],
        load ((ofRecords { files := [(["b"], (smallRecord "c").content)] }
          [smallRecord "a", smallRecord "b"]).run "/b" [0, 1, 0, 0, 0]).disk "/b" =
            (some r, .loaded)) ∧
    ∀ reason,
      (load ((ofRecords { files := [(["b"], (smallRecord "c").content)] }
        [smallRecord "a", smallRecord "b"]).run "/b" [0, 1, 0, 0, 0]).disk "/b").2 ≠
          .discarded reason :=
  load_of_turns _ "/b" _ _
    (.inl ⟨smallRecord "c", _, rfl, decodes_content (by decide +kernel)⟩)
    (by decide +kernel) (by decide +kernel)

/-- A writer of a file in the root directory before its last step. -/
theorem run_almost (r : Record) :
    Writer.run "/b" (2 + r.content.length) {} { record := r } =
      (putTemporary {} "/b" r.content,
        ⟨r, .writing r.content.length, some (temporaryPlace [] "/b")⟩) := by
  have hopened : Writer.run "/b" 2 {} { record := r } =
      (putTemporary {} "/b" (r.content.take 0), ⟨r, .writing 0, some (temporaryPlace [] "/b")⟩) :=
    rfl
  have hwritten : Writer.run "/b" r.content.length (putTemporary {} "/b" (r.content.take 0))
      ⟨r, .writing 0, some (temporaryPlace [] "/b")⟩ = _ :=
    Writer.run_writing (Nat.le_of_eq (Nat.zero_add _))
  rw [Writer.run_add, hopened, hwritten, Nat.zero_add, List.take_length]

/-- Two writers on an empty disk. -/
def rivals : Writers := ofRecords {} [smallRecord "a", smallRecord "b"]

/-- The second writer has written all its bytes when the first one opens, and empties, the same
file. Then the second one renames it. -/
def crossedOrder : List Nat :=
  List.replicate (2 + (smallRecord "b").content.length) 1 ++ [0, 0, 1]

/-- The disk after these steps. -/
theorem disk_rivals : (rivals.run "/b" crossedOrder).disk = { files := [(["b"], [])] } := by
  have hdisk : rivals.disk = {} := rfl
  have hmember : rivals.members[1]? = some { record := smallRecord "b" } := rfl
  have halone : rivals.run "/b" (List.replicate (2 + (smallRecord "b").content.length) 1) =
      ⟨putTemporary {} "/b" (smallRecord "b").content,
        rivals.members.set 1 ⟨smallRecord "b", .writing (smallRecord "b").content.length,
          some (temporaryPlace [] "/b")⟩⟩ := by
    rw [run_replicate hmember (by rw [hdisk, run_almost]; rfl), hdisk, run_almost]
  have hfields : ∀ disk : Disk, disk.files = [(["b"], [])] ∧ disk.directories = [] ∧
      disk.current = [] → disk = { files := [(["b"], [])] } := by
    rintro ⟨directories, files, current⟩ ⟨rfl, rfl, rfl⟩
    rfl
  rw [crossedOrder, run_append, halone]
  exact hfields _ (by decide +kernel)

/-- Both records are of the current version, but what is found under the path is an empty file. -/
theorem empty_file_published :
    (∀ w ∈ rivals.members, w.record.fits = true ∧ w.record.document.schemaVersion = 1) ∧
      load rivals.disk "/b" = (none, .notFound) ∧
      (rivals.run "/b" crossedOrder).disk.read "/b" = .ok [] ∧
      load (rivals.run "/b" crossedOrder).disk "/b" =
        (none, .discarded (Error.unreadableRecord "/b" "malformed text").message) := by
  rw [disk_rivals]
  exact ⟨by decide +kernel, by decide +kernel, rfl, by decide +kernel⟩

end Writers

end Switchboard.Cache
