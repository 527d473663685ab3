import Switchboard.Proofs.Data.Record
import Switchboard.Timestamp

/-!
# The members of a record

A record with named members is stored member by member. What ends up in one field comes from the
only member of that name, if no other field stores anything there: members of other names pass it
by, and a second member of the name is a fault.

A typed reading that succeeds has looked at every leaf of its node, or has made sure that there is
no defect where it did not look. So a record is never read from the tree of a text that breaks off.

## Main results

* `storeMembers_append` — members are stored from the front on.
* `record_field` — where the value of a field comes from.
* `storeMembers_misnamed` — a name that denotes nothing is a fault of the text.
* `whole_record` — a record is whole if the readings of its fields are.
-/

namespace Switchboard.Data

/-- Whether the node stands for the value of a member whose name denotes no text. -/
def Node.isMisnamed : Node → Bool
  | .misnamed _ => true
  | _ => false

section Field

variable {σ α : Type} {fields : List (RecordField σ)} {field : RecordField σ} {name : String}
  {node other : Node} {members : List (String × Node)} {seen : List String} {s s' : σ}
  {last : σ × List String}

/-! ## Members of a name -/

/-- No member has the name. -/
def Unnamed (name : String) (members : List (String × Node)) : Prop := ∀ m ∈ members, m.1 ≠ name

/-- One member has the name, and it has the value. -/
def NamedOnce (name : String) (node : Node) (members : List (String × Node)) : Prop :=
  ∃ front back, members = front ++ (name, node) :: back ∧ Unnamed name front ∧ Unnamed name back

theorem NamedOnce.eq_of_mem (h : NamedOnce name node members) (hmem : (name, other) ∈ members) :
    other = node := by
  obtain ⟨front, back, rfl, hfront, hback⟩ := h
  rcases List.mem_append.mp hmem with hmem | hmem
  · exact absurd rfl (hfront _ hmem)
  · rcases List.mem_cons.mp hmem with heq | hmem
    · exact (Prod.mk.inj heq).2
    · exact absurd rfl (hback _ hmem)

theorem NamedOnce.mem (h : NamedOnce name node members) : (name, node) ∈ members := by
  obtain ⟨front, back, rfl, -, -⟩ := h
  exact List.mem_append_right _ List.mem_cons_self

theorem NamedOnce.cons {m : String × Node} (h : NamedOnce name node members) (hm : m.1 ≠ name) :
    NamedOnce name node (m :: members) := by
  obtain ⟨front, back, rfl, hfront, hback⟩ := h
  exact ⟨m :: front, back, rfl, List.forall_mem_cons.mpr ⟨hm, hfront⟩, hback⟩

theorem NamedOnce.filter {p : String × Node → Bool} (h : NamedOnce name node members)
    (hp : p (name, node) = true) : NamedOnce name node (members.filter p) := by
  obtain ⟨front, back, rfl, hfront, hback⟩ := h
  refine ⟨front.filter p, back.filter p, ?_, fun m hm => hfront m (List.mem_filter.mp hm).1,
    fun m hm => hback m (List.mem_filter.mp hm).1⟩
  rw [List.filter_append, List.filter_cons, if_pos hp]

/-! ## Step by step -/

/-- What it takes to store one more member. -/
theorem storeMembers_cons_eq_ok :
    storeMembers fields seen s ((name, node) :: members) = .ok last ↔
      node.isMisnamed = false ∧
      ((fields.find? (·.name = name) = none ∧ node.isBroken = false ∧
          storeMembers fields seen s members = .ok last) ∨
        ∃ field s', fields.find? (·.name = name) = some field ∧ name ∉ seen ∧
          field.store s node = .ok s' ∧
          storeMembers fields (name :: seen) s' members = .ok last) := by
  cases hnamed : node.isMisnamed with
  | true =>
      obtain ⟨inner, rfl⟩ : ∃ inner, node = .misnamed inner := by
        cases node <;> first | exact ⟨_, rfl⟩ | cases hnamed
      exact ⟨nofun, fun h => nomatch h.1⟩
  | false =>
      have hplain : ∀ inner, node ≠ .misnamed inner := by
        rintro inner rfl
        cases hnamed
      rw [storeMembers.eq_3 _ _ _ _ _ _ hplain, and_iff_right rfl]
      cases hfield : fields.find? (·.name = name) with
      | none => cases hbroken : node.isBroken <;> simp
      | some field =>
          by_cases hseen : name ∈ seen
          · simp [hseen]
          · cases hstore : field.store s node <;> simp [hseen, hstore]

/-- The members in front are stored first. -/
theorem storeMembers_append {front behind : List (String × Node)} :
    storeMembers fields seen s (front ++ behind) =
      (storeMembers fields seen s front).bind fun (s, seen) =>
        storeMembers fields seen s behind := by
  induction front generalizing seen s with
  | nil => rfl
  | cons m front ih =>
      obtain ⟨name, node⟩ := m
      rw [List.cons_append]
      cases node with
      | misnamed inner => rfl
      | _ =>
        simp only [storeMembers, ih]
        split
        · split <;> rfl
        · split
          · rfl
          · split <;> rfl

/-- Members that no field claims are passed over. -/
theorem storeMembers_pass
    (h : ∀ m ∈ members, fields.find? (·.name = m.1) = none ∧ m.2.isBroken = false ∧
      m.2.isMisnamed = false) : storeMembers fields seen s members = .ok (s, seen) := by
  induction members with
  | nil => rfl
  | cons m members ih =>
      obtain ⟨⟨hfield, hbroken, hnamed⟩, hmembers⟩ := List.forall_mem_cons.mp h
      exact storeMembers_cons_eq_ok.mpr ⟨hnamed, .inl ⟨hfield, hbroken, ih hmembers⟩⟩

/-- A name that denotes nothing is a fault of the text, if nothing else is wrong. -/
theorem storeMembers_misnamed (hmem : ∃ m ∈ members, m.2.isMisnamed = true)
    (hok : storeMembers fields seen s (members.filter fun m => !m.2.isMisnamed) = .ok last) :
    storeMembers fields seen s members = .error .malformed := by
  induction members generalizing seen s with
  | nil => simp at hmem
  | cons m members ih =>
      obtain ⟨name, node⟩ := m
      cases hnamed : node.isMisnamed with
      | true => cases node <;> first | rfl | cases hnamed
      | false =>
          have hmem : ∃ m ∈ members, m.2.isMisnamed = true := by simpa [hnamed] using hmem
          have hplain : ∀ inner, node ≠ .misnamed inner := by
            rintro inner rfl
            cases hnamed
          simp only [List.filter_cons, hnamed, Bool.not_false, if_true] at hok
          rw [storeMembers.eq_3 _ _ _ _ _ _ hplain]
          obtain ⟨-, ⟨hfield, hbroken, hok⟩ | ⟨field, s', hfield, hseen, hstore, hok⟩⟩ :=
            storeMembers_cons_eq_ok.mp hok
          · simp [hfield, hbroken, ih hmem hok]
          · simp [hfield, hseen, hstore, ih hmem hok]

/-! ## Where a value comes from -/

/-- The part of a record that one field holds: what its reading finds is kept there, and no other
field stores anything there. -/
structure Holds (fields : List (RecordField σ)) (field : RecordField σ) (read : Reading α)
    (get : σ → α) : Prop where
  found : fields.find? (·.name = field.name) = some field
  stored : ∀ {s s' : σ} {node : Node}, field.store s node = .ok s' → read node = .ok (get s')
  kept : ∀ other ∈ fields, other.name ≠ field.name → ∀ {s s' : σ} {node : Node},
    other.store s node = .ok s' → get s' = get s

theorem store_required_eq_ok {read : Reading α} {set : σ → α → σ} :
    (RecordField.required name read set).store s node = .ok s' ↔
      ∃ a, read node = .ok a ∧ set s a = s' := by
  show (read node).map (set s) = .ok s' ↔ _
  cases read node <;> simp [Except.map]

section Field

variable {read : Reading α} {get : σ → α} {seen' : List String}

/-- Members of other names leave the part of a field as it was. -/
theorem Holds.storeMembers_seen (h : Holds fields field read get)
    (hstored : storeMembers fields seen s members = .ok (s', seen'))
    (hseen : field.name ∈ seen) :
    Unnamed field.name members ∧ get s' = get s ∧ field.name ∈ seen' := by
  induction members generalizing seen s with
  | nil =>
      cases hstored
      exact ⟨nofun, rfl, hseen⟩
  | cons m members ih =>
      obtain ⟨name, node⟩ := m
      obtain ⟨-, ⟨hfind, -, hrest⟩ | ⟨other, s₁, hfind, hfresh, hstore, hrest⟩⟩ :=
        storeMembers_cons_eq_ok.mp hstored
      · obtain ⟨hunnamed, hget, hlast⟩ := ih hrest hseen
        refine ⟨List.forall_mem_cons.mpr ⟨?_, hunnamed⟩, hget, hlast⟩
        rintro rfl
        exact absurd (h.found.symm.trans hfind) nofun
      · have hne : name ≠ field.name := fun heq => hfresh (heq ▸ hseen)
        obtain rfl : other.name = name := by simpa using List.find?_some hfind
        obtain ⟨hunnamed, hget, hlast⟩ := ih hrest (List.mem_cons_of_mem _ hseen)
        refine ⟨List.forall_mem_cons.mpr ⟨hne, hunnamed⟩, hget.trans ?_, hlast⟩
        exact h.kept other (List.mem_of_find?_eq_some hfind) hne hstore

/-- The part of a field is what its reading finds in the only member of its name. -/
theorem Holds.storeMembers_fresh (h : Holds fields field read get)
    (hstored : storeMembers fields seen s members = .ok (s', seen'))
    (hseen : field.name ∉ seen) :
    (Unnamed field.name members ∧ get s' = get s ∧ field.name ∉ seen') ∨
      ∃ node, NamedOnce field.name node members ∧ read node = .ok (get s') := by
  induction members generalizing seen s with
  | nil =>
      cases hstored
      exact .inl ⟨nofun, rfl, hseen⟩
  | cons m members ih =>
      obtain ⟨name, node⟩ := m
      obtain ⟨-, ⟨hfind, -, hrest⟩ | ⟨other, s₁, hfind, hfresh, hstore, hrest⟩⟩ :=
        storeMembers_cons_eq_ok.mp hstored
      · have hne : name ≠ field.name := by
          rintro rfl
          exact absurd (h.found.symm.trans hfind) nofun
        obtain ⟨hunnamed, hget, hlast⟩ | ⟨found, honce, hread⟩ := ih hrest hseen
        · exact .inl ⟨List.forall_mem_cons.mpr ⟨hne, hunnamed⟩, hget, hlast⟩
        · exact .inr ⟨found, honce.cons hne, hread⟩
      · by_cases hname : name = field.name
        · subst hname
          obtain rfl : other = field := Option.some.inj (hfind.symm.trans h.found)
          obtain ⟨hunnamed, hget, -⟩ := h.storeMembers_seen hrest List.mem_cons_self
          exact .inr ⟨node, ⟨[], members, rfl, nofun, hunnamed⟩, hget ▸ h.stored hstore⟩
        · obtain rfl : other.name = name := by simpa using List.find?_some hfind
          have hkept := h.kept other (List.mem_of_find?_eq_some hfind) hname hstore
          have hstill : field.name ∉ other.name :: seen := by
            rw [List.mem_cons, not_or]
            exact ⟨Ne.symm hname, hseen⟩
          obtain ⟨hunnamed, hget, hlast⟩ | ⟨found, honce, hread⟩ := ih hrest hstill
          · exact .inl ⟨List.forall_mem_cons.mpr ⟨hname, hunnamed⟩, hget.trans hkept, hlast⟩
          · exact .inr ⟨found, honce.cons hname, hread⟩

end Field

theorem record_obj_eq_ok {start : σ} :
    record fields start (.obj members) = .ok s ↔
      ∃ seen, storeMembers fields [] start members = .ok (s, seen) ∧
        ∀ field ∈ fields, field.presence = .required → field.name ∈ seen := by
  rw [record, recordIn]
  cases hstored : storeMembers fields [] start members with
  | error fault => simp
  | ok last =>
      obtain ⟨s₁, seen⟩ := last
      have hgiven : (fields.any fun field => field.presence = .required && field.name ∉ seen) =
          false ↔ ∀ field ∈ fields, field.presence = .required → field.name ∈ seen := by
        simp [List.any_eq_false]
      show (if _ = true then _ else _) = _ ↔ _
      split
      · next hmissing =>
          constructor
          · rintro ⟨⟩
          · rintro ⟨_, ⟨⟩, hall⟩
            exact absurd (hmissing.symm.trans (hgiven.mpr hall)) Bool.noConfusion
      · next hmissing =>
          have hall := hgiven.mp (Bool.eq_false_iff.mpr hmissing)
          constructor
          · rintro ⟨⟩
            exact ⟨seen, rfl, hall⟩
          · rintro ⟨_, ⟨⟩, -⟩
            rfl

/-- A required field is read from the only member of its name; another field may be missing. -/
theorem record_field {start : σ} {read : Reading α} {get : σ → α}
    (h : Holds fields field read get) (hread : record fields start (.obj members) = .ok s) :
    (Unnamed field.name members ∧ get s = get start ∧ field.presence ≠ .required) ∨
      ∃ node, NamedOnce field.name node members ∧ read node = .ok (get s) := by
  obtain ⟨seen, hstored, hrequired⟩ := record_obj_eq_ok.mp hread
  obtain ⟨hunnamed, hget, hlast⟩ | hnamed := h.storeMembers_fresh hstored List.not_mem_nil
  · refine .inl ⟨hunnamed, hget, fun hpresence => hlast ?_⟩
    exact hrequired field (List.mem_of_find?_eq_some h.found) hpresence
  · exact .inr hnamed

end Field

/-! ## Readings without a defect -/

/-- A reading that succeeds only on nodes without a defect. -/
def Whole {α : Type} (read : Reading α) : Prop :=
  ∀ (node : Node) (a : α), read node = .ok a → node.isBroken = false

/-- A field that is stored only from nodes without a defect. -/
def RecordField.IsWhole {σ : Type} (field : RecordField σ) : Prop :=
  ∀ (s s' : σ) (node : Node), field.store s node = .ok s' → node.isBroken = false

section Readings

variable {α σ : Type} {read : Reading α} {name : String}

theorem whole_text : Whole Reading.text := by
  intro node a h
  cases node with
  | arr items => cases h
  | obj members => cases h
  | misnamed value => cases h
  | broken => cases h
  | _ => rfl

theorem whole_natBelow (bound : Nat) : Whole (Reading.natBelow bound) := by
  intro node a h
  cases node with
  | arr items => cases h
  | obj members => cases h
  | misnamed value => cases h
  | broken => cases h
  | _ => rfl

theorem Whole.nullable (h : Whole read) : Whole (Reading.nullable read) := by
  intro node a hread
  cases node with
  | null => rfl
  | _ =>
    rw [Reading.nullable] at hread
    · cases hok : read _ with
      | error fault =>
          rw [hok] at hread
          cases hread
      | ok b => exact h _ _ hok
    · nofun

/-- A name in a table stands beside a value that holds nothing. -/
theorem whole_oneOf (find? : String → Option α) : Whole (Reading.oneOf find?) := by
  intro node a h
  cases node with
  | arr items => cases h
  | obj members =>
      match members with
      | [] => cases h
      | _ :: _ :: _ => cases h
      | [(name, value)] =>
          cases value with
          | null => rfl
          | _ =>
            cases hfound : find? name <;>
              simp [Reading.oneOf, Reading.oneOfIn, Dialect.json, hfound] at h
  | misnamed value => cases h
  | broken => cases h
  | _ => rfl

theorem whole_timestamp : Whole Timestamp.read := by
  intro node a h
  cases node with
  | arr items => cases h
  | obj members => cases h
  | misnamed value => cases h
  | broken => cases h
  | _ => rfl

theorem Whole.required (h : Whole read) (set : σ → α → σ) :
    (RecordField.required name read set).IsWhole := by
  intro s s' node hstore
  obtain ⟨a, hread, -⟩ := store_required_eq_ok.mp hstore
  exact h _ _ hread

/-- A field that may be null, whatever else it may be. -/
theorem Whole.maybe (h : Whole read) (presence : Presence) (set : σ → Option α → σ) :
    RecordField.IsWhole ⟨name, presence, fun s node => (Reading.nullable read node).map (set s)⟩ := by
  intro s s' node hstore
  cases hread : Reading.nullable read node with
  | error fault => simp [hread, Except.map] at hstore
  | ok found => exact h.nullable _ _ hread

end Readings

/-! ## Records -/

section Records

variable {σ : Type} {fields : List (RecordField σ)} {members : List (String × Node)}
  {nodes : List Node} {seen : List String} {s s' : σ} {last : σ × List String}

theorem isBroken_of_storeMembers (hfields : ∀ field ∈ fields, field.IsWhole)
    (h : storeMembers fields seen s members = .ok last) : ∀ m ∈ members, m.2.isBroken = false := by
  induction members generalizing seen s with
  | nil => nofun
  | cons m members ih =>
      obtain ⟨-, ⟨-, hwhole, hrest⟩ | ⟨field, s₁, hfind, -, hstore, hrest⟩⟩ :=
        storeMembers_cons_eq_ok.mp h
      · exact List.forall_mem_cons.mpr ⟨hwhole, ih hrest⟩
      · have hm : m.2.isBroken = false := hfields field (List.mem_of_find?_eq_some hfind) _ _ _ hstore
        exact List.forall_mem_cons.mpr ⟨hm, ih hrest⟩

theorem isBroken_of_storeInOrder (hfields : ∀ field ∈ fields, field.IsWhole)
    (h : storeInOrder .json fields s nodes = .ok s') : ∀ node ∈ nodes, node.isBroken = false := by
  induction fields generalizing nodes s with
  | nil =>
      cases nodes with
      | nil => nofun
      | cons node nodes => cases h
  | cons field fields ih =>
      obtain ⟨hfield, hfields⟩ := List.forall_mem_cons.mp hfields
      cases nodes with
      | nil => nofun
      | cons node nodes =>
          rw [storeInOrder] at h
          split at h
          · cases h
          · next hstore => exact List.forall_mem_cons.mpr ⟨hfield _ _ _ hstore, ih hfields h⟩

/-- A record is whole if the readings of its fields are. -/
theorem whole_record (start : σ) (hfields : ∀ field ∈ fields, field.IsWhole) :
    Whole (record fields start) := by
  intro node s h
  cases node with
  | obj members =>
      obtain ⟨seen, hstored, -⟩ := record_obj_eq_ok.mp h
      exact Node.anyMemberBroken_eq_false.mpr (isBroken_of_storeMembers hfields hstored)
  | arr nodes => exact Node.anyBroken_eq_false.mpr (isBroken_of_storeInOrder hfields h)
  | misnamed value => cases h
  | broken => cases h
  | _ => rfl

end Records

end Switchboard.Data
