import Switchboard.Number.Word

/-!
# Data trees

A `Node` is what was found at one place of a document: a value, or the trace of a defect. A reader
of a text format turns the whole text into a tree, and stops at the first defect by leaving a
`broken` leaf there with nothing after it. Typed reading then walks the tree in document order, so
of two faults it reports the one that stands first in the text.

Reading a value fails in one of two ways: the text itself is malformed (`syntax`), or it is well
formed and has the wrong shape (`shape`).
-/

namespace Switchboard.Data

/-- A number of a document. Whole numbers keep their exact value within the range of a machine
word; every other number is a double. -/
inductive Numeral where
  /-- A whole number below `2 ^ 64`. -/
  | nat (n : Nat)
  /-- The whole number `-n`, for `n` from 1 up to `2 ^ 63`. -/
  | neg (n : Nat)
  | real (x : Float)
  /-- A number beyond the range of doubles. -/
  | huge

/-- What was found at one place of a document. -/
inductive Node where
  | null
  | bool (b : Bool)
  | num (n : Numeral)
  | str (s : String)
  | arr (items : List Node)
  | obj (members : List (String × Node))
  /-- A string literal with half of a surrogate pair, which denotes no text. -/
  | unpaired
  /-- The value of a member whose name has half of a surrogate pair, so that nothing can ask for
  it. -/
  | misnamed (value : Node)
  /-- The place where the document stops making sense. -/
  | broken

/-- Why typed reading failed. -/
inductive Fault where
  | malformed
  | shape
  deriving DecidableEq, Repr

namespace Node

/-- A node for a whole number. -/
def nat (n : Nat) : Node := .num (.nat n)

/-- A node for a double. -/
def real (x : Float) : Node := .num (.real x)

/-- A node for a list of strings. -/
def strs (texts : List String) : Node := .arr (texts.map .str)

/-- A node for a value that may be absent. -/
def opt (make : α → Node) : Option α → Node
  | some a => make a
  | none => .null

mutual

/-- Whether the tree ends in a defect. -/
def isBroken : Node → Bool
  | .broken => true
  | .arr items => anyBroken items
  | .obj members => anyMemberBroken members
  | .misnamed value => isBroken value
  | _ => false

/-- Whether one of the nodes ends in a defect. -/
def anyBroken : List Node → Bool
  | [] => false
  | item :: items => isBroken item || anyBroken items

/-- Whether the value of one of the members ends in a defect. -/
def anyMemberBroken : List (String × Node) → Bool
  | [] => false
  | (_, value) :: members => isBroken value || anyMemberBroken members

end

mutual

/-- Whether every place of the tree holds a value: there is no defect, no half of a surrogate pair
and no number beyond the range of doubles. -/
def isSound : Node → Bool
  | .broken | .unpaired | .misnamed _ | .num .huge => false
  | .arr items => allSound items
  | .obj members => allMembersSound members
  | _ => true

/-- Whether all of the nodes hold values. -/
def allSound : List Node → Bool
  | [] => true
  | item :: items => isSound item && allSound items

/-- Whether the values of all members are sound. -/
def allMembersSound : List (String × Node) → Bool
  | [] => true
  | (_, value) :: members => isSound value && allMembersSound members

end

mutual

/-- Whether lists and tables stand in each other at most so many times. -/
def fitsDepth : Nat → Node → Bool
  | 0, .arr _ | 0, .obj _ => false
  | depth + 1, .arr items => allFitDepth depth items
  | depth + 1, .obj members => allMembersFitDepth depth members
  | _, _ => true

/-- Whether all of the nodes keep to the depth. -/
def allFitDepth : Nat → List Node → Bool
  | _, [] => true
  | depth, item :: items => fitsDepth depth item && allFitDepth depth items

/-- Whether the values of all members keep to the depth. -/
def allMembersFitDepth : Nat → List (String × Node) → Bool
  | _, [] => true
  | depth, (_, value) :: members => fitsDepth depth value && allMembersFitDepth depth members

end

/-- The value of the last member with the given name. -/
def get? (name : String) : Node → Option Node
  | .obj members => (members.reverse.find? (·.1 = name)).map (·.2)
  | _ => none

/-- The members of a table, none for any other node. -/
def members : Node → List (String × Node)
  | .obj members => members
  | _ => []

end Node

/-- What a text format lets pass besides the plain way of writing a value. -/
structure Dialect where
  /-- Whether items may follow those of a record that is listed in order. -/
  surplus : Bool
  /-- Which values hold nothing. -/
  holdsNothing : Node → Bool

namespace Dialect

/-- A record listed in order ends with its last field, and null holds nothing. -/
def json : Dialect where
  surplus := false
  holdsNothing
    | .null => true
    | _ => false

/-- Items after the last field of a record are passed over, and an empty list or table holds
nothing. -/
def toml : Dialect where
  surplus := true
  holdsNothing
    | .arr [] | .obj [] => true
    | _ => false

end Dialect

/-- A typed reading of a node. -/
abbrev Reading (α : Type) := Node → Except Fault α

namespace Reading

/-- The fault of finding a node of another kind: a defect in the text wins over its shape. -/
def mismatch (node : Node) : Except Fault α :=
  match node with
  | .broken | .unpaired | .misnamed _ | .num .huge => .error .malformed
  | _ => .error .shape

/-- A text. -/
def text : Reading String
  | .str s => .ok s
  | node => mismatch node

/-- A truth value. -/
def flag : Reading Bool
  | .bool b => .ok b
  | node => mismatch node

/-- A whole number below the given bound. -/
def natBelow (bound : Nat) : Reading Nat
  | .num (.nat n) => if n < bound then .ok n else .error .shape
  | node => mismatch node

/-- A 64-bit word. -/
def word : Reading Nat := natBelow Word.size64

/-- A 32-bit word. -/
def word32 : Reading Nat := natBelow Word.size32

/-- A double; whole numbers are rounded to the nearest one. -/
def double : Reading Float
  | .num (.nat n) => .ok (UInt64.ofNat n).toFloat
  | .num (.neg n) => .ok (-(UInt64.ofNat n).toFloat)
  | .num (.real x) => .ok x
  | node => mismatch node

/-- A value or the null node. -/
def nullable (read : Reading α) : Reading (Option α)
  | .null => .ok none
  | node => (read node).map some

/-- The elements in order. -/
def listFrom (read : Reading α) : List Node → Except Fault (List α)
  | [] => .ok []
  | item :: items => do
      let a ← read item
      let rest ← listFrom read items
      return a :: rest

/-- A list. -/
def list (read : Reading α) : Reading (List α)
  | .arr items => listFrom read items
  | node => mismatch node

/-- The members in order, each read by itself. -/
def mapFrom (read : Reading α) : List (String × Node) → Except Fault (List (String × α))
  | [] => .ok []
  | (_, .misnamed _) :: _ => .error .malformed
  | (name, node) :: members => do
      let a ← read node
      let rest ← mapFrom read members
      return (name, a) :: rest

/-- A table whose members are all of one kind. -/
def map (read : Reading α) : Reading (List (String × α))
  | .obj members => mapFrom read members
  | node => mismatch node

/-- One of a fixed set of names, written as a text, or as a table of one member that holds
nothing. -/
def oneOfIn (dialect : Dialect) (find? : String → Option α) : Reading α
  | .str s => match find? s with
    | some a => .ok a
    | none => .error .shape
  | .obj [(name, value)] =>
      match find? name, dialect.holdsNothing value with
      | some a, true => .ok a
      | _, _ => .error .shape
  | node => mismatch node

/-- One of a fixed set of names in a JSON document. -/
def oneOf (find? : String → Option α) : Reading α :=
  oneOfIn .json find?

end Reading

end Switchboard.Data
