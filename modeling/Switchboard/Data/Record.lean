import Switchboard.Data.Node

/-!
# Reading records

A record type is described once by the table of its fields: the name of each, how its value is
read, where it goes, and whether it may be missing. The table drives the reading of a node with
named members, and of a node that lists the field values in order.

Members are taken in document order. A member no field claims is passed over if it is well
formed, a field given twice is a fault of shape, and so is a required field that is missing.
-/

namespace Switchboard.Data

/-- When a field may be left out. -/
inductive Presence where
  /-- Never. -/
  | required
  /-- In a record of named members; a record listed in order has to give it. -/
  | named
  /-- Always. -/
  | free
  deriving DecidableEq

/-- One field of the record type `σ`. -/
structure RecordField (σ : Type) where
  name : String
  presence : Presence
  store : σ → Node → Except Fault σ

namespace RecordField

/-- A field that has to be given. -/
def required (name : String) (read : Reading α) (set : σ → α → σ) : RecordField σ :=
  ⟨name, .required, fun s node => (read node).map (set s)⟩

/-- A field that keeps the value it has at the start when it is left out. -/
def defaulted (name : String) (read : Reading α) (set : σ → α → σ) : RecordField σ :=
  ⟨name, .free, fun s node => (read node).map (set s)⟩

/-- A field that is absent when it is left out or null. -/
def optional (name : String) (read : Reading α) (set : σ → Option α → σ) : RecordField σ :=
  ⟨name, .free, fun s node => (Reading.nullable read node).map (set s)⟩

/-- A field that is absent when it is null, or left out of a record of named members. -/
def nullable (name : String) (read : Reading α) (set : σ → Option α → σ) : RecordField σ :=
  ⟨name, .named, fun s node => (Reading.nullable read node).map (set s)⟩

end RecordField

/-- Stores the named members one after the other; `seen` holds the names already stored. -/
def storeMembers (fields : List (RecordField σ)) :
    List String → σ → List (String × Node) → Except Fault (σ × List String)
  | seen, s, [] => .ok (s, seen)
  | _, _, (_, .misnamed _) :: _ => .error .malformed
  | seen, s, (name, node) :: members =>
      match fields.find? (·.name = name) with
      | none =>
          if node.isBroken then .error .malformed else storeMembers fields seen s members
      | some field =>
          if name ∈ seen then .error .shape
          else
            match field.store s node with
            | .error fault => .error fault
            | .ok s => storeMembers fields (name :: seen) s members

/-- Stores the listed values one after the other. -/
def storeInOrder (dialect : Dialect) : List (RecordField σ) → σ → List Node → Except Fault σ
  | [], s, [] => .ok s
  | [], s, _ :: _ => if dialect.surplus then .ok s else .error .malformed
  | field :: fields, s, [] =>
      if field.presence = .free then storeInOrder dialect fields s [] else .error .shape
  | field :: fields, s, node :: nodes =>
      match field.store s node with
      | .error fault => .error fault
      | .ok s => storeInOrder dialect fields s nodes

/-- Reads a record, starting from the value that holds the defaults. -/
def recordIn (dialect : Dialect) (fields : List (RecordField σ)) (start : σ) : Reading σ
  | .obj members =>
      match storeMembers fields [] start members with
      | .error fault => .error fault
      | .ok (s, seen) =>
          if fields.any fun field => field.presence = .required && field.name ∉ seen then
            .error .shape
          else .ok s
  | .arr nodes => storeInOrder dialect fields start nodes
  | node => Reading.mismatch node

/-- Reads a record of a JSON document. -/
def record (fields : List (RecordField σ)) (start : σ) : Reading σ :=
  recordIn .json fields start

/-- Takes a record apart whose shape depends on one text of it: that text, and a record of the
rest. In a record listed in order the text comes first. -/
def tagged (name : String) : Node → Except Fault (String × Node)
  | .arr [] => .error .shape
  | .arr (tag :: rest) => return (← Reading.text tag, .arr rest)
  | node => return (← record [.required name Reading.text fun _ x => x] "" node, node)

end Switchboard.Data
