import Switchboard.Data.Record
import Switchboard.Proofs.Json.RoundTrip

/-!
# Reading records back

A record that is written with all its fields, in the order of their table, is read like the list of
its values: the names only have to be distinct.

## Main results

* `record_zip` — reading named members is storing their values one after the other.
* `listFrom_map` — a list is read back if each of its elements is.
-/

namespace Switchboard.Data

section Members

variable {σ : Type} {fields : List (RecordField σ)} {nodes : List Node}

/-- The names of the fields of a record. -/
def fieldNames (fields : List (RecordField σ)) : List String := fields.map (·.name)

/-- A field is found by its name. -/
theorem find?_fieldNames {done later : List (RecordField σ)} {field : RecordField σ}
    (h : (fieldNames (done ++ field :: later)).Nodup) :
    (done ++ field :: later).find? (·.name = field.name) = some field := by
  rw [List.find?_append]
  have hdone : done.find? (·.name = field.name) = none := by
    rw [List.find?_eq_none]
    intro other hother hname
    rw [fieldNames, List.map_append, List.nodup_append] at h
    exact h.2.2 _ (List.mem_map_of_mem hother) _ List.mem_cons_self (of_decide_eq_true hname)
  rw [hdone]
  simp

/-- A member of a field that has not been stored yet is stored. -/
theorem storeMembers_cons_of_find? {field : RecordField σ} {name : String} {node : Node}
    {seen : List String} (s : σ) (members : List (String × Node))
    (hnamed : ∀ inner, node ≠ .misnamed inner)
    (hfound : fields.find? (·.name = name) = some field) (hfresh : name ∉ seen) :
    storeMembers fields seen s ((name, node) :: members) =
      match field.store s node with
      | .error fault => .error fault
      | .ok s => storeMembers fields (name :: seen) s members := by
  rw [storeMembers.eq_3 _ _ _ _ _ _ hnamed, hfound]
  exact if_neg hfresh

/-- The members that are still to be stored are those of the later fields. -/
theorem storeMembers_zip {done later : List (RecordField σ)} (s : σ)
    (hnames : (fieldNames (done ++ later)).Nodup) (hlength : nodes.length = later.length)
    (hplain : ∀ node ∈ nodes, node.isPlain = true) :
    storeMembers (done ++ later) (fieldNames done).reverse s ((fieldNames later).zip nodes) =
      (storeInOrder .json later s nodes).map
        fun s => (s, (fieldNames (done ++ later)).reverse) := by
  induction later generalizing done nodes s with
  | nil =>
      rw [List.length_nil, List.length_eq_zero_iff] at hlength
      subst hlength
      rw [List.append_nil]
      rfl
  | cons field later ih =>
      obtain ⟨node, rest, rfl⟩ : ∃ node rest, nodes = node :: rest :=
        List.exists_cons_of_length_eq_add_one hlength
      have hnamed : ∀ inner, node ≠ .misnamed inner := by
        rintro inner rfl
        exact Bool.false_ne_true (hplain _ List.mem_cons_self)
      have hfresh : field.name ∉ (fieldNames done).reverse := by
        rw [List.mem_reverse]
        intro hmem
        rw [fieldNames, List.map_append, List.nodup_append] at hnames
        exact hnames.2.2 _ hmem _ List.mem_cons_self rfl
      have hmove : done ++ field :: later = (done ++ [field]) ++ later := by simp
      have hseen : field.name :: (fieldNames done).reverse =
          (fieldNames (done ++ [field])).reverse := by
        simp [fieldNames]
      have hfound := find?_fieldNames hnames
      show storeMembers _ _ s ((field.name, node) :: (fieldNames later).zip rest) = _
      rw [storeMembers_cons_of_find? s _ hnamed hfound hfresh, storeInOrder]
      cases field.store s node with
      | error fault => rfl
      | ok s =>
          show storeMembers _ (field.name :: _) s _ = _
          rw [hmove, hseen]
          exact ih s (hmove ▸ hnames) (Nat.succ.inj hlength)
            fun other hother => hplain other (List.mem_cons_of_mem _ hother)

/-- A record of all its fields is read like the list of its values. -/
theorem record_zip (start : σ) (hnames : (fieldNames fields).Nodup)
    (hlength : nodes.length = fields.length) (hplain : ∀ node ∈ nodes, node.isPlain = true) :
    record fields start (.obj ((fieldNames fields).zip nodes)) =
      storeInOrder .json fields start nodes := by
  have hstored : storeMembers fields [] start ((fieldNames fields).zip nodes) =
      (storeInOrder .json fields start nodes).map fun s => (s, (fieldNames fields).reverse) :=
    @storeMembers_zip σ nodes [] fields start hnames hlength hplain
  rw [record, recordIn, hstored]
  cases storeInOrder .json fields start nodes with
  | error fault => rfl
  | ok s =>
      have hseen : (fields.any fun field => field.presence = .required &&
          field.name ∉ (fieldNames fields).reverse) = false := by
        simp only [List.any_eq_false, Bool.and_eq_true, decide_eq_true_eq, not_and,
          Decidable.not_not, List.mem_reverse]
        exact fun field hfield _ => List.mem_map_of_mem hfield
      show (if _ then _ else _) = _
      rw [hseen]
      rfl

/-- A record of plain values is plain. -/
theorem isPlain_obj_zip (names : List String) (hplain : ∀ node ∈ nodes, node.isPlain = true) :
    (Node.obj (names.zip nodes)).isPlain = true :=
  Node.allMembersPlain_iff.mpr fun member hmember =>
    hplain member.2 (List.of_mem_zip (show (member.1, member.2) ∈ names.zip nodes from hmember)).2

end Members

/-- A list is read back if each of its elements is. -/
theorem listFrom_map {α : Type} {read : Reading α} {write : α → Node} {values : List α}
    (h : ∀ value ∈ values, read (write value) = .ok value) :
    Reading.listFrom read (values.map write) = .ok values := by
  induction values with
  | nil => rfl
  | cons value values ih =>
      rw [List.map_cons, Reading.listFrom, h value List.mem_cons_self,
        ih fun other hother => h other (List.mem_cons_of_mem _ hother)]
      rfl

end Switchboard.Data
