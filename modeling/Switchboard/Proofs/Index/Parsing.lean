import Mathlib.Data.List.Nodup
import Switchboard.Index.Reading
import Switchboard.Proofs.Data.Member
import Switchboard.Proofs.Index.Document
import Switchboard.Proofs.Json.Grammar
import Switchboard.Proofs.StableSort
import Switchboard.Proofs.Text.ByteOrder

/-!
# Parsing index documents

The text of an index document is read twice: for its version alone, which passes over every other
member, and for the whole document. Both readings find the version in the same place, the only
member of its name. So a document of another version is refused for its version, whatever shape the
rest of it has, and what is accepted has the one version there is.

Sorting the modules keeps those of one path in their order. Modules with distinct paths can be
sorted in one way only, so that their order in the text does not matter.

## Main results

* `storeMembers_of_once`, `storeMembers_of_unnamed` — the version of a well-formed table.
* `declaredVersion_of_misnamed` — a name that denotes no text hides the version.
* `Document.normalized_eq_of_perm` — documents that differ in the order of their modules.
* `parseDocument_spec` — what is accepted, what comes of it, and what is refused for its version.
-/

namespace Switchboard

open Data

namespace Index

variable {text : String} {node : Node} {members : List (String × Node)}

/-! ## The declared version -/

/-- The only field that is read for the version. -/
def versionField : RecordField (Option Nat) :=
  .nullable "schema_version" Reading.word32 fun _ x => x

theorem declaredVersion_eq : declaredVersion text = Json.decode (record [versionField] none) text :=
  rfl

theorem holds_versionField :
    Holds [versionField] versionField (Reading.nullable Reading.word32) id where
  found := rfl
  stored {s s' node} h := by
    cases hread : Reading.nullable Reading.word32 node with
    | error fault => simp [versionField, RecordField.nullable, hread, Except.map] at h
    | ok version => simpa [versionField, RecordField.nullable, hread, Except.map] using h
  kept other hother hname := absurd (congrArg RecordField.name (List.mem_singleton.mp hother)) hname

/-- The field for the version of a document. -/
def Document.versionField : RecordField Document :=
  .required "schema_version" Reading.word32 fun d x => { d with schemaVersion := x }

theorem Document.holds_versionField :
    Holds Document.fields Document.versionField Reading.word32 Document.schemaVersion where
  found := rfl
  stored h := by
    obtain ⟨version, hread, rfl⟩ := store_required_eq_ok.mp h
    exact hread
  kept other hother hname {s s' node} hstore := by
    simp only [Document.fields, List.mem_cons, List.not_mem_nil, or_false] at hother
    rcases hother with rfl | rfl | rfl
    · exact absurd rfl hname
    · obtain ⟨metadata, -, rfl⟩ := store_required_eq_ok.mp hstore
      rfl
    · obtain ⟨modules, -, rfl⟩ := store_required_eq_ok.mp hstore
      rfl

/-- A whole document declares the version that it has. -/
theorem schemaVersion_eq_of_read {version : Nat} {d : Document}
    (hdeclared : record [versionField] none node = .ok (some version))
    (hread : Document.read node = .ok d) : d.schemaVersion = version := by
  cases node with
  | obj members =>
      obtain ⟨-, hnone, -⟩ | ⟨declared, hdeclaredOnce, hversion⟩ :=
        record_field holds_versionField hdeclared
      · cases hnone
      obtain ⟨-, -, hrequired⟩ | ⟨found, hfoundOnce, hfound⟩ :=
        record_field Document.holds_versionField hread
      · exact absurd rfl hrequired
      obtain rfl : found = declared := hdeclaredOnce.eq_of_mem hfoundOnce.mem
      cases found with
      | null => cases hfound
      | _ =>
        rw [Reading.nullable, hfound] at hversion
        · exact Option.some.inj (Except.ok.inj hversion)
        · rintro ⟨⟩
  | arr nodes =>
      -- A list of one value is no document, and a longer one declares nothing.
      cases nodes with
      | nil => cases hdeclared
      | cons first nodes =>
        cases nodes with
        | nil =>
            change storeInOrder .json Document.fields {} [first] = _ at hread
            rw [Document.fields, storeInOrder] at hread
            split at hread <;> cases hread
        | cons second nodes =>
            change storeInOrder .json [versionField] none (first :: second :: nodes) = _ at hdeclared
            rw [storeInOrder] at hdeclared
            split at hdeclared <;> cases hdeclared
  | num n => cases n <;> cases hread
  | _ => cases hread

/-! ## Well-formed tables -/

/-- Every member can be asked for, and its value is well formed. -/
def Readable (members : List (String × Node)) : Prop :=
  ∀ m ∈ members, m.2.isBroken = false ∧ m.2.isMisnamed = false

theorem Readable.of_mem {others : List (String × Node)} (h : Readable members)
    (hsub : ∀ m ∈ others, m ∈ members) : Readable others :=
  fun m hm => h m (hsub m hm)

theorem readable_of_isPlain (h : node.isPlain = true) :
    node.isBroken = false ∧ node.isMisnamed = false := by
  refine ⟨?_, by cases node <;> first | rfl | cases h⟩
  refine @Node.plain_induction (fun node => node.isBroken = false) rfl (fun _ => rfl)
    (fun _ => rfl) (fun _ _ => rfl) (fun items _ hitems => ?_) (fun members hmembers => ?_) node h
  · exact Node.anyBroken_eq_false.mpr hitems
  · exact Node.anyMemberBroken_eq_false.mpr hmembers

/-- Members of other names are passed over when the version is read. -/
theorem storeMembers_of_unnamed {seen : List String} {version : Option Nat} (h : Readable members)
    (hunnamed : Unnamed "schema_version" members) :
    storeMembers [versionField] seen version members = .ok (version, seen) := by
  refine storeMembers_pass fun m hm => ⟨?_, h m hm⟩
  have hne : ¬versionField.name = m.1 := fun heq => hunnamed m hm heq.symm
  simp [hne]

/-- The version is read from the only member of the name. -/
theorem storeMembers_of_once (h : Readable members)
    (honce : NamedOnce "schema_version" node members) :
    storeMembers [versionField] [] none members =
      (Reading.nullable Reading.word32 node).map fun version => (version, ["schema_version"]) := by
  obtain ⟨front, back, rfl, hfront, hback⟩ := honce
  have hplain : ∀ inner, node ≠ .misnamed inner := by
    rintro inner rfl
    exact absurd (h _ (List.mem_append_right _ List.mem_cons_self)).2 nofun
  have hbehind : Readable back := h.of_mem fun m hm =>
    List.mem_append_right _ (List.mem_cons_of_mem _ hm)
  rw [storeMembers_append,
    storeMembers_of_unnamed (h.of_mem fun m => List.mem_append_left _) hfront]
  show storeMembers [versionField] [] none (("schema_version", node) :: back) = _
  have hstore : versionField.store none node = Reading.nullable Reading.word32 node := by
    show (Reading.nullable Reading.word32 node).map (fun version => version) = _
    cases Reading.nullable Reading.word32 node <;> rfl
  have hfound : [versionField].find? (·.name = "schema_version") = some versionField := rfl
  rw [storeMembers_cons_of_find? _ _ hplain hfound List.not_mem_nil, hstore]
  cases Reading.nullable Reading.word32 node with
  | error fault => rfl
  | ok version => exact storeMembers_of_unnamed hbehind hback

theorem nullable_nat {v : Nat} (hv : v < Word.size32) :
    Reading.nullable Reading.word32 (.nat v) = .ok (some v) := by
  have hword : Reading.word32 (.nat v) = .ok v := natBelow_nat hv
  show (Reading.word32 (.nat v)).map some = _
  rw [hword]
  rfl

theorem declaredVersion_of_parse (h : Json.parse text = (.obj members, true)) :
    declaredVersion text = (storeMembers [versionField] [] none members).map Prod.fst := by
  rw [declaredVersion_eq, Json.decode_of_parse h, record, recordIn]
  cases storeMembers [versionField] [] none members <;> rfl

section Table

variable (h : Json.Spells (.obj members) text.toList)

include h

theorem readable_of_spells (hnames : ∀ m ∈ members, m.2.isMisnamed = false) : Readable members :=
  fun m hm => ⟨Node.anyMemberBroken_eq_false.mp (Json.isBroken_of_spells h) m hm, hnames m hm⟩

/-- A name that denotes nothing makes a table unreadable, whose version could be read otherwise. -/
theorem declaredVersion_of_misnamed (hmisnamed : ∃ m ∈ members, m.2.isMisnamed = true)
    (hversion : Unnamed "schema_version" members ∨
      ∃ version, (version = .null ∨ ∃ v < Word.size32, version = .nat v) ∧
        NamedOnce "schema_version" version members) :
    declaredVersion text = .error .malformed := by
  have hreadable : Readable (members.filter fun m => !m.2.isMisnamed) := by
    intro m hm
    obtain ⟨hmem, hnamed⟩ := List.mem_filter.mp hm
    exact ⟨Node.anyMemberBroken_eq_false.mp (Json.isBroken_of_spells h) m hmem, by simpa using hnamed⟩
  obtain ⟨last, hlast⟩ : ∃ last, storeMembers [versionField] [] none
      (members.filter fun m => !m.2.isMisnamed) = .ok last := by
    rcases hversion with hunnamed | ⟨version, hword, honce⟩
    · exact ⟨_, storeMembers_of_unnamed hreadable fun m hm => hunnamed m (List.mem_filter.mp hm).1⟩
    rcases hword with rfl | ⟨v, hv, rfl⟩
    · exact ⟨_, storeMembers_of_once hreadable (honce.filter rfl)⟩
    · rw [storeMembers_of_once hreadable (honce.filter rfl), nullable_nat hv]
      exact ⟨_, rfl⟩
  rw [declaredVersion_of_parse (Json.parse_of_spells h), storeMembers_misnamed hmisnamed hlast]
  rfl

end Table

/-! ## The order of the modules -/

section Order

open Switchboard.Text.Utf8 (encode)

/-- Paths are in the order of their bytes. -/
theorem pathLe_iff {a b : String} : pathLe a b = true ↔ encode a ≤ encode b := by
  rw [pathLe, Bool.not_eq_true', decide_eq_false_iff_not, List.not_lt.symm,
    Text.Utf8.encode_lt_encode]

variable (d : Document)

theorem Document.normalized_perm : d.normalized.modules.Perm d.modules :=
  List.mergeSort_perm _ _

theorem Document.normalized_sorted :
    d.normalized.modules.Pairwise fun a b => pathLe a.path b.path = true :=
  StableSort.pairwise_mergeSort_of Module.path pathLe (fun _ _ _ => pathLe_trans) pathLe_total
    d.modules

/-- Modules of one path keep their order. -/
theorem Document.normalized_stable (path : String) :
    (d.normalized.modules.filter fun m => m.path = path) =
      d.modules.filter fun m => m.path = path :=
  StableSort.filter_mergeSort_of Module.path pathLe (fun _ _ _ => pathLe_trans) pathLe_total
    d.modules path

end Order

/-- Documents that list the same modules with distinct paths are sorted in the same way. -/
theorem Document.normalized_eq_of_perm {d d' : Document}
    (hversion : d.schemaVersion = d'.schemaVersion) (hmetadata : d.metadata = d'.metadata)
    (hmodules : d.modules.Perm d'.modules) (hpaths : (d.modules.map (·.path)).Nodup) :
    d.normalized = d'.normalized := by
  have hperm : d.normalized.modules.Perm d'.normalized.modules :=
    d.normalized_perm.trans (hmodules.trans d'.normalized_perm.symm)
  have hdistinct : (d.normalized.modules.map (·.path)).Nodup :=
    (d.normalized_perm.map _).nodup_iff.mpr hpaths
  have hsame : d.normalized.modules = d'.normalized.modules :=
    StableSort.eq_of_perm_of_sorted Module.path (fun _ _ => pathLe_antisymm) hperm hdistinct
      d.normalized_sorted d'.normalized_sorted
  show (⟨d.schemaVersion, d.metadata, d.normalized.modules⟩ : Document) =
    ⟨d'.schemaVersion, d'.metadata, d'.normalized.modules⟩
  rw [hversion, hmetadata, hsame]

/-! ## Parsing -/

/-- What it takes to accept a text. -/
theorem parseDocument_eq_ok {doc : Document} :
    parseDocument text = .ok doc ↔ declaredVersion text = .ok (some 1) ∧
      ∃ decoded, Json.decode Document.read text = .ok decoded ∧ decoded.normalized = doc := by
  rw [parseDocument]
  cases hdeclared : declaredVersion text with
  | error fault => simp
  | ok found =>
      cases found with
      | none => simp
      | some version =>
          by_cases hversion : version = schemaVersion
          · subst hversion
            cases Json.decode Document.read text <;> simp [schemaVersion]
          · have hne : version ≠ 1 := hversion
            simp [hversion, hne]

/-- A document that is written in any way is parsed as itself, with its modules in order. -/
theorem parseDocument_of_parse {d : Document} (hfits : d.fits = true) (hversion : d.schemaVersion = 1)
    (hparse : Json.parse text = (d.toNode, true)) : parseDocument text = .ok d.normalized := by
  refine parseDocument_eq_ok.mpr ⟨?_, d, ?_, rfl⟩
  · have honce : NamedOnce "schema_version" (.nat d.schemaVersion) d.toNode.members :=
      ⟨[], [("metadata", d.metadata.toNode), ("modules", .arr (d.modules.map Module.toNode))], rfl,
        nofun, by simp [Unnamed]⟩
    have hreadable : Readable d.toNode.members := fun m hm =>
      readable_of_isPlain (Node.allMembersPlain_iff.mp (Document.isPlain_toNode hfits) m hm)
    have hdeclared : declaredVersion text =
        (storeMembers [versionField] [] none d.toNode.members).map Prod.fst :=
      declaredVersion_of_parse hparse
    rw [hdeclared, storeMembers_of_once hreadable honce, hversion]
    rfl
  · rw [Json.decode_of_parse hparse, Document.read_toNode hfits]

/-- What is accepted has the one version there is, and the modules of the text in order. -/
theorem decoded_of_parseDocument {doc : Document} (h : parseDocument text = .ok doc) :
    ∃ decoded, Json.decode Document.read text = .ok decoded ∧ decoded.schemaVersion = 1 ∧
      decoded.normalized = doc := by
  obtain ⟨hdeclared, decoded, hdecoded, hdoc⟩ := parseDocument_eq_ok.mp h
  exact ⟨decoded, hdecoded, schemaVersion_eq_of_read (Json.decode_eq_ok.mp hdeclared).1
    (Json.decode_eq_ok.mp hdecoded).1, hdoc⟩

/-- A well-formed table of another version is refused for its version, and one without a version
for the want of it. -/
theorem parseDocument_of_version (h : Json.Spells (.obj members) text.toList)
    (hnames : ∀ m ∈ members, m.2.isMisnamed = false) :
    (∀ v < Word.size32, v ≠ 1 → NamedOnce "schema_version" (.nat v) members →
      parseDocument text = .error (.schemaVersion v 1)) ∧
    (Unnamed "schema_version" members ∨ NamedOnce "schema_version" .null members →
      parseDocument text =
        .error (.indexing "indexer output is missing required field schema_version")) := by
  have hreadable := readable_of_spells h hnames
  have hdeclared := declaredVersion_of_parse (Json.parse_of_spells h)
  refine ⟨fun v hv hne honce => ?_, fun hnone => ?_⟩
  · rw [storeMembers_of_once hreadable honce, nullable_nat hv] at hdeclared
    have hfound : declaredVersion text = .ok (some v) := hdeclared
    rw [parseDocument, hfound]
    exact if_pos hne
  · have hfound : declaredVersion text = .ok none := by
      rcases hnone with hunnamed | honce
      · rw [hdeclared, storeMembers_of_unnamed hreadable hunnamed]
        rfl
      · rw [hdeclared, storeMembers_of_once hreadable honce]
        rfl
    rw [parseDocument, hfound]

/-- Documents are parsed as themselves, with their modules in order. What is accepted has version 1,
and its modules are those of the text, sorted by the bytes of their paths with those of one path as
they were; texts that list the same modules with distinct paths come to the same document. A
well-formed table whose names all denote texts is refused for its version if that is any other word,
and for the want of it if it is absent or null, whatever its other members are. A name that denotes
nothing makes the text unreadable. -/
theorem parseDocument_spec :
    (∀ d : Document, d.fits = true → d.schemaVersion = 1 → ∀ text,
      text = Json.compact d.toNode ∨ Json.Spells d.toNode text.toList →
      parseDocument text = .ok d.normalized) ∧
    (∀ text doc, parseDocument text = .ok doc →
      ∃ decoded, Json.decode Document.read text = .ok decoded ∧ decoded.schemaVersion = 1 ∧
        doc.schemaVersion = 1 ∧ doc.metadata = decoded.metadata ∧
        doc.modules.Perm decoded.modules ∧
        (doc.modules.Pairwise fun a b => Text.Utf8.encode a.path ≤ Text.Utf8.encode b.path) ∧
        ∀ path, (doc.modules.filter fun m => m.path = path) =
          decoded.modules.filter fun m => m.path = path) ∧
    (∀ text text' doc doc' decoded decoded', parseDocument text = .ok doc →
      parseDocument text' = .ok doc' → Json.decode Document.read text = .ok decoded →
      Json.decode Document.read text' = .ok decoded' → decoded.metadata = decoded'.metadata →
      decoded.modules.Perm decoded'.modules → (decoded.modules.map (·.path)).Nodup → doc = doc') ∧
    (∀ text members, Json.Spells (.obj members) text.toList →
      (∀ m ∈ members, m.2.isMisnamed = false) →
      (∀ v < Word.size32, v ≠ 1 → NamedOnce "schema_version" (.nat v) members →
        parseDocument text = .error (.schemaVersion v 1)) ∧
      (Unnamed "schema_version" members ∨ NamedOnce "schema_version" .null members →
        parseDocument text =
          .error (.indexing "indexer output is missing required field schema_version"))) ∧
    (∀ text members, Json.Spells (.obj members) text.toList →
      (∃ m ∈ members, m.2.isMisnamed = true) →
      (Unnamed "schema_version" members ∨
        ∃ version, (version = .null ∨ ∃ v < Word.size32, version = .nat v) ∧
          NamedOnce "schema_version" version members) →
      parseDocument text = .error (.json .malformed)) := by
  refine ⟨fun d hfits hversion text htext => ?_, fun text doc h => ?_,
    fun text text' doc doc' decoded decoded' h h' hread hread' hmetadata hmodules hpaths => ?_,
    fun text members h hnames => parseDocument_of_version h hnames,
    fun text members h hmisnamed hversion => ?_⟩
  · refine parseDocument_of_parse hfits hversion ?_
    rcases htext with rfl | hspells
    · exact Json.parse_compact (Document.isPlain_toNode hfits)
    · exact Json.parse_of_spells hspells
  · obtain ⟨decoded, hdecoded, hversion, rfl⟩ := decoded_of_parseDocument h
    refine ⟨decoded, hdecoded, hversion, hversion, rfl, decoded.normalized_perm, ?_,
      decoded.normalized_stable⟩
    exact decoded.normalized_sorted.imp pathLe_iff.mp
  · obtain ⟨found, hfound, hversion, rfl⟩ := decoded_of_parseDocument h
    obtain ⟨found', hfound', hversion', rfl⟩ := decoded_of_parseDocument h'
    obtain rfl : found = decoded := Except.ok.inj (hfound.symm.trans hread)
    obtain rfl : found' = decoded' := Except.ok.inj (hfound'.symm.trans hread')
    exact Document.normalized_eq_of_perm (hversion.trans hversion'.symm) hmetadata hmodules hpaths
  · rw [parseDocument, declaredVersion_of_misnamed h hmisnamed hversion]

/-! ### Texts of version 2 -/

/-- Two is written as one digit. -/
theorem spells_two : Json.Spells (.nat 2) ['2'] :=
  have hdigits : Json.WholeDigits ['2'] := ⟨⟨nofun, List.forall_mem_singleton.mpr rfl⟩, by decide⟩
  .number (.intro hdigits .absent .absent)

/-- A document of two modules in the wrong order. -/
def unsorted : Document where
  schemaVersion := 1
  modules := [⟨"b.rs", "rust", [], [], "", 0, []⟩, ⟨"a.rs", "rust", [], [], "", 0, []⟩]

/-- The document is parsed with its modules in order, and a table of version 2 whose modules have
another shape is refused for its version. -/
theorem unsorted_parsed_later_refused :
    unsorted.fits = true ∧
    parseDocument (Json.compact unsorted.toNode) = .ok unsorted.normalized ∧
    unsorted.normalized.modules.map (·.path) = ["a.rs", "b.rs"] ∧
    parseDocument "\x7b\"modules\":2,\"schema_version\":2\x7d" = .error (.schemaVersion 2 1) := by
  have hfits : unsorted.fits = true := by decide
  refine ⟨hfits, parseDocument_spec.1 unsorted hfits rfl _ (.inl rfl),
    ?_, ?_⟩
  · have hpaths : pathLe "b.rs" "a.rs" = false := by decide
    simp [Document.normalized, unsorted, List.mergeSort, hpaths]
  · have hspells : Json.Spells (.obj [("modules", .nat 2), ("schema_version", .nat 2)])
        "\x7b\"modules\":2,\"schema_version\":2\x7d".toList :=
      .table (.more (Json.spellsMember_of_all (by decide) spells_two)
        (.last (Json.spellsMember_of_all (by decide) spells_two)))
    refine (parseDocument_spec.2.2.2.1 _ _ hspells (by decide)).1 2 (by decide) (by decide) ?_
    exact ⟨[("modules", .nat 2)], [], rfl, by simp [Unnamed], nofun⟩

/-- A table of version 2 is not refused for its version if another member has a name that denotes
nothing. -/
theorem misnamed_hides_version :
    ∃ members,
      Json.Spells (.obj members) "\x7b\"\\ud800\":2,\"schema_version\":2\x7d".toList ∧
      NamedOnce "schema_version" (.nat 2) members ∧
      parseDocument "\x7b\"\\ud800\":2,\"schema_version\":2\x7d" = .error (.json .malformed) := by
  have honce : NamedOnce "schema_version" (.nat 2)
      [("", .misnamed (.nat 2)), ("schema_version", .nat 2)] :=
    ⟨[("", .misnamed (.nat 2))], [], rfl, by simp [Unnamed], nofun⟩
  have hname : Json.Writes {} ['\\', 'u', 'd', '8', '0', '0'] ⟨[], true, some 0xd800⟩ :=
    .unit rfl .done
  have hmember : Json.SpellsMember ("", .misnamed (.nat 2))
      ['"', '\\', 'u', 'd', '8', '0', '0', '"', ':', '2'] :=
    @Json.SpellsMember.intro [] _ [] _ _ _ nofun hname nofun spells_two
  have hspells : Json.Spells (.obj [("", .misnamed (.nat 2)), ("schema_version", .nat 2)])
      "\x7b\"\\ud800\":2,\"schema_version\":2\x7d".toList :=
    .table (.more hmember
      (.last (@Json.spellsMember_of_all "schema_version" _ _ (by decide) spells_two)))
  refine ⟨_, hspells, honce, ?_⟩
  rw [parseDocument, declaredVersion_of_misnamed hspells ⟨_, List.mem_cons_self, rfl⟩
    (.inr ⟨_, .inr ⟨2, by decide, rfl⟩, honce⟩)]

end Index

end Switchboard
