import Switchboard.Cache.Record

/-!
# Writers of cache records

A call that persists a record, step by step, as others see it: the directory is made, the file next
to the record file is opened and emptied, its bytes are written through the open handle, and the
file is renamed. Between two steps the call may be cut short, and other processes may take steps of
the same kind with the same two files.

A handle stays with its file. When the file is renamed, what is written through the handle goes to
the new name; when another file takes its name, it goes nowhere that a path leads to.
-/

namespace Switchboard.Cache

open Switchboard.Text.Utf8 (Bytes)

/-- How far a writer has come. -/
inductive Stage where
  | fresh
  /-- The directory of the record file is there. -/
  | furnished
  /-- The file next to the record file is open, and so many bytes are written. -/
  | writing (count : Nat)
  | done (outcome : Except Report Unit)

/-- A call that persists a record, under way. -/
structure Writer where
  record : Record
  stage : Stage := .fresh
  /-- The place of the file that is open, if it has one. -/
  handle : Option Place := none

/-- The content of a file after a byte was written at an offset. A gap before it reads as zeros. -/
def overwrite (content : Bytes) (offset : Nat) (byte : UInt8) : Bytes :=
  content.take offset ++ List.replicate (offset - content.length) 0 ++
    byte :: content.drop (offset + 1)

/-- Writes a byte through a handle. -/
def writeThrough (disk : Disk) (handle : Option Place) (offset : Nat) (byte : UInt8) : Disk :=
  match handle with
  | none => disk
  | some place => disk.putFile place (overwrite ((disk.file? place).getD []) offset byte)

/-- Opens the file next to the record file. What was in it is gone. -/
def openTemporary (disk : Disk) (path : String) : Except Report Disk :=
  (disk.write (temporaryPath path) []).mapError fun reason =>
    Report.within s!"Failed to write {temporaryPath path}" (.ofMessage reason)

namespace Writer

/-- Whether the file of the writer was renamed. -/
def hasPublished (w : Writer) : Bool :=
  match w.stage with
  | .done (.ok ()) => true
  | _ => false

/-- What a writer does next. -/
def step (path : String) (disk : Disk) (w : Writer) : Disk × Writer :=
  match w.stage with
  | .fresh =>
      match makeRoom disk path with
      | .error (report, disk) => (disk, { w with stage := .done (.error report) })
      | .ok disk => (disk, { w with stage := .furnished })
  | .furnished =>
      match openTemporary disk path with
      | .error report => (disk, { w with stage := .done (.error report) })
      | .ok disk =>
          let handle := (disk.resolve (temporaryPath path)).toOption
          (disk, { w with stage := .writing 0, handle })
  | .writing count =>
      match w.record.content[count]? with
      | some byte =>
          (writeThrough disk w.handle count byte, { w with stage := .writing (count + 1) })
      | none =>
          match publish disk path with
          | .error report => (disk, { w with stage := .done (.error report), handle := none })
          | .ok disk => (disk, { w with stage := .done (.ok ()), handle := none })
  | .done _ => (disk, w)

/-- Lets a writer take so many steps. -/
def run (path : String) : Nat → Disk → Writer → Disk × Writer
  | 0, disk, w => (disk, w)
  | count + 1, disk, w =>
      let (disk, w) := w.step path disk
      run path count disk w

/-- The writer after a file was moved: its handle goes along with the file. -/
def follow (here there : Place) (w : Writer) : Writer :=
  { w with
    handle := w.handle.bind fun place =>
      if place = here then some there else if place = there then none else some place }

end Writer

/-! ## Calls that are cut short -/

/-- Persists a record, but stops after so many steps. What is left is the disk, and the record if it
came into place, or else the one before. -/
def persistFor (path : String) (left : Disk × Option Record) (call : Record × Nat) :
    Disk × Option Record :=
  let (disk, w) := Writer.run path call.2 left.1 { record := call.1 }
  (disk, if w.hasPublished then some call.1 else left.2)

/-- Persists records one after the other, each call stopping after so many steps: the disk that is
left, and the last record that came into place. -/
def persistCutShort (path : String) (disk : Disk) (calls : List (Record × Nat)) :
    Disk × Option Record :=
  calls.foldl (persistFor path) (disk, none)

/-! ## Several writers -/

/-- Writers of the same record file, and their disk. -/
structure Writers where
  disk : Disk
  members : List Writer

namespace Writers

/-- Lets all handles follow the file that one of the writers has renamed. -/
def followAll (path : String) (disk : Disk) (members : List Writer) : List Writer :=
  match disk.resolve (temporaryPath path), disk.resolve path with
  | .ok here, .ok there => members.map (·.follow here there)
  | _, _ => members

/-- Lets the writer with the given number take a step. -/
def step (path : String) (s : Writers) (i : Nat) : Writers :=
  match s.members[i]? with
  | none => s
  | some w =>
      let (disk, next) := w.step path s.disk
      let members :=
        if next.hasPublished && !w.hasPublished then followAll path s.disk s.members
        else s.members
      ⟨disk, members.set i next⟩

/-- Lets writers take steps in the given order. -/
def run (path : String) (s : Writers) (order : List Nat) : Writers :=
  order.foldl (step path) s

end Writers

end Switchboard.Cache
