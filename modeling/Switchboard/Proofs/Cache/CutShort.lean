import Switchboard.Proofs.Cache.Writer

/-!
# Persisting that is cut short

A call that persists a record can stop after any of its steps and after any byte, and leave the file
next to the record file behind. The next call begins from there. Whatever calls were made and
wherever they stopped, the last record that came into place is loaded, or what was there before the
first call.

If there was nothing, that has to stay true when room is made for the record: a path that goes
through a missing directory and back again leads nowhere first and to a directory then.

## Main results

* `persistFor_complete` — a call that is not cut short does what `persist` does.
* `load_persistCutShort` — what is loaded after calls that were cut short.
-/

namespace Switchboard.Cache

variable {start disk : Disk} {path : String} {published : Option Record}

/-- A call that is not cut short does what `persist` does. -/
theorem persistFor_complete (path : String) (left : Disk × Option Record) (r : Record) :
    persistFor path left (r, r.content.length + 3) =
      ((persist left.1 path r).1,
        if (persist left.1 path r).2.isOk then some r else left.2) := by
  rw [persistFor, Writer.run_fresh]
  cases houtcome : (persist left.1 path r).2 with
  | ok _ => simp [Writer.hasPublished, Except.isOk, Except.toBool]
  | error report => simp [Writer.hasPublished, Except.isOk, Except.toBool]

/-- A call, wherever it stops: what stands goes on to stand. -/
theorem Standing.persistFor (h : Standing start path published disk) (call : Record × Nat) :
    Standing start path (Cache.persistFor path (disk, published) call).2
      (Cache.persistFor path (disk, published) call).1 :=
  h.run call.2 .fresh rfl

/-- Calls one after the other. -/
theorem Standing.foldl_persistFor (h : Standing start path published disk)
    (calls : List (Record × Nat)) :
    Standing start path (calls.foldl (Cache.persistFor path) (disk, published)).2
      (calls.foldl (Cache.persistFor path) (disk, published)).1 := by
  induction calls generalizing disk published with
  | nil => exact h
  | cons call calls ih => exact ih (h.persistFor call)

/-- The last record that came into place is that of one of the calls. -/
theorem mem_of_foldl_persistFor {r : Record} {left : Disk × Option Record}
    {calls : List (Record × Nat)} (h : (calls.foldl (persistFor path) left).2 = some r) :
    left.2 = some r ∨ ∃ call ∈ calls, call.1 = r := by
  induction calls generalizing left with
  | nil => exact .inl h
  | cons call calls ih =>
      obtain hleft | ⟨later, hmem, hrecord⟩ := ih h
      · simp only [persistFor] at hleft
        split at hleft
        · exact .inr ⟨call, List.mem_cons_self, Option.some.inj hleft⟩
        · exact .inl hleft
      · exact .inr ⟨later, List.mem_cons_of_mem _ hmem, hrecord⟩

/-- A file that is not there stays away if it is not there when room was made for it. -/
theorem staysMissing_of_makeRoom {room : Disk} (hmissing : disk.isMissing path = true)
    (hmade : makeRoom disk path = .ok room) (hroom : room.isMissing path = true) :
    StaysMissing disk path := by
  have hafter : ∀ count, roomAfter path (count + 1) disk = room := by
    intro count
    induction count with
    | zero =>
        rw [roomAfter, roomAfter, hmade]
        rfl
    | succ count ih =>
        rw [roomAfter, ih, makeRoom_of_hasRoom (hasRoom_of_makeRoom hmade)]
        rfl
  intro count
  cases count with
  | zero => exact hmissing
  | succ count => exact hafter count ▸ hroom

theorem isLoadable_of {r : Record} (h : r.fits = true ∧ r.document.schemaVersion = 1) :
    r.isLoadable = true := by
  rw [Record.isLoadable, h.1, Bool.true_and]
  exact decide_eq_true h.2

theorem ne_discarded_of_start (h : (∃ r, Holds disk path r) ∨ StaysMissing disk path)
    (reason : String) : (load disk path).2 ≠ .discarded reason := by
  intro hdiscarded
  obtain ⟨hpresent, hunfit⟩ := (opened_load disk path).discarded_iff.mp ⟨reason, hdiscarded⟩
  obtain ⟨r, hholds⟩ | hmissing := h
  · exact hunfit r hholds
  · exact hpresent (hmissing 0)

/-- What is loaded after calls that were cut short, each after any number of its steps: the last
record that came into place, or else what was loaded before. Nothing is ever discarded. -/
theorem load_persistCutShort (disk : Disk) (path : String) (calls : List (Record × Nat))
    (hstart : (∃ r, Holds disk path r) ∨ StaysMissing disk path)
    (hfits : ∀ call ∈ calls, call.1.fits = true ∧ call.1.document.schemaVersion = 1) :
    load (persistCutShort path disk calls).1 path =
        (persistCutShort path disk calls).2.elim (load disk path) (fun r => (some r, .loaded)) ∧
      ∀ reason, (load (persistCutShort path disk calls).1 path).2 ≠ .discarded reason := by
  have hstands := (Standing.refl disk path).foldl_persistFor calls
  have hloadable : ∀ r ∈ (persistCutShort path disk calls).2, r.isLoadable = true := by
    intro r hr
    obtain hnone | ⟨call, hmem, rfl⟩ := mem_of_foldl_persistFor hr
    · cases hnone
    · exact isLoadable_of (hfits call hmem)
  have hload := hstands.load hstart hloadable
  refine ⟨hload, fun reason => ?_⟩
  rw [persistCutShort, hload]
  cases (calls.foldl (persistFor path) (disk, none)).2 with
  | none => exact ne_discarded_of_start hstart reason
  | some r => exact nofun

/-! ### A call that stops between two others -/

/-- A small record of the current version. -/
def smallRecord (fingerprint : String) : Record := { fingerprint, document := { schemaVersion := 1 } }

/-- The first call stops right after its file was opened, the second one is complete, and the third
one stops after two bytes. -/
def sampleCalls : List (Record × Nat) :=
  [(smallRecord "a", 2), (smallRecord "b", (smallRecord "b").content.length + 3),
    (smallRecord "c", 4)]

theorem sampleCalls_published :
    (persistCutShort "/c/b" {} sampleCalls).2 = some (smallRecord "b") := by
  rw [persistCutShort, sampleCalls, List.foldl_cons, List.foldl_cons, persistFor_complete]
  decide +kernel

theorem sampleCalls_load :
    load (persistCutShort "/c/b" {} sampleCalls).1 "/c/b" = (some (smallRecord "b"), .loaded) := by
  have hmade : makeRoom {} "/c/b" = .ok { directories := [["c"]] } := rfl
  obtain ⟨hload, -⟩ := load_persistCutShort {} "/c/b" sampleCalls
    (.inr (staysMissing_of_makeRoom rfl hmade rfl)) (by decide +kernel)
  rw [hload, sampleCalls_published]
  rfl

/-! ### A path that goes back from a missing directory -/

/-- Nothing is found there, but as soon as the directory is made it is a directory that is read as a
record and discarded. -/
theorem missing_then_discarded :
    ({} : Disk).isMissing "/x/.." = true ∧ (smallRecord "a").fits = true ∧
      (smallRecord "a").document.schemaVersion = 1 ∧
      load {} "/x/.." = (none, .notFound) ∧
      (persistCutShort "/x/.." {} [(smallRecord "a", 1)]).2 = none ∧
      load (persistCutShort "/x/.." {} [(smallRecord "a", 1)]).1 "/x/.." =
        (none, .discarded (Error.unreadableRecord "/x/.." isDirectory).message) := by
  decide +kernel

end Switchboard.Cache
