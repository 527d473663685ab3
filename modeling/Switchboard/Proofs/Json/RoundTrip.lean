import Switchboard.Json.Printer
import Switchboard.Json.Reader
import Switchboard.Proofs.Number.Digits

/-!
# JSON texts survive reading

A tree of texts, truth values and whole numbers of a word, with lists and tables of them, is written
on one line and read back as the same tree, whatever the texts are.

The reader leaves what follows a value unread, and its fuel may be anything above the length of the
text. So the proof goes along the tree, and what follows the value is arbitrary, as long as it does
not go on with a number.

## Main results

* `readNumber_toDigits`, `readString_quote` — numbers and texts.
* `readItems_join`, `readMembers_join` — lists and tables, given that their values are read back.
* `parse_compact`, `decode_compact` — whole trees.
-/

namespace Switchboard.Data.Node

mutual

/-- Whether the tree is made of texts, truth values, nothing and whole numbers of a word. -/
def isPlain : Node → Bool
  | .null | .bool _ | .str _ => true
  | .num (.nat n) => n < Word.size64
  | .arr items => allPlain items
  | .obj members => allMembersPlain members
  | _ => false

/-- Whether all of the nodes are plain. -/
def allPlain : List Node → Bool
  | [] => true
  | item :: items => isPlain item && allPlain items

/-- Whether the values of all members are plain. -/
def allMembersPlain : List (String × Node) → Bool
  | [] => true
  | (_, value) :: members => isPlain value && allMembersPlain members

end

theorem allPlain_iff {items : List Node} :
    allPlain items = true ↔ ∀ item ∈ items, item.isPlain = true := by
  induction items with
  | nil => simp [allPlain]
  | cons item items ih => simp [allPlain, ih]

theorem allMembersPlain_iff {members : List (String × Node)} :
    allMembersPlain members = true ↔ ∀ member ∈ members, member.2.isPlain = true := by
  induction members with
  | nil => simp [allMembersPlain]
  | cons member members ih => simp [allMembersPlain, ih]

theorem anyBroken_eq_false {items : List Node} :
    anyBroken items = false ↔ ∀ item ∈ items, item.isBroken = false := by
  induction items with
  | nil => simp [anyBroken]
  | cons item items ih => simp [anyBroken, ih]

theorem anyMemberBroken_eq_false {members : List (String × Node)} :
    anyMemberBroken members = false ↔ ∀ member ∈ members, member.2.isBroken = false := by
  induction members with
  | nil => simp [anyMemberBroken]
  | cons member members ih => simp [anyMemberBroken, ih]

/-- A plain tree is a leaf, or a list or table of plain trees that the property is known of. -/
theorem plain_induction {P : Node → Prop} (null : P .null) (bool : ∀ b, P (.bool b))
    (str : ∀ s, P (.str s)) (nat : ∀ n < Word.size64, P (.nat n))
    (arr : ∀ items, (∀ item ∈ items, item.isPlain = true) → (∀ item ∈ items, P item) →
      P (.arr items))
    (obj : ∀ members, (∀ member ∈ members, P member.2) → P (.obj members)) :
    ∀ node : Node, node.isPlain = true → P node
  | .null, _ => null
  | .bool b, _ => bool b
  | .str s, _ => str s
  | .num (.nat n), h => nat n (of_decide_eq_true h)
  | .arr items, h =>
      have hplain := allPlain_iff.mp h
      arr items hplain fun item hitem =>
        plain_induction null bool str nat arr obj item (hplain item hitem)
  | .obj members, h => obj members fun member hmember =>
      plain_induction null bool str nat arr obj member.2 (allMembersPlain_iff.mp h member hmember)
termination_by node => sizeOf node
decreasing_by
  · have hlt := List.sizeOf_lt_of_mem hitem
    simp only [Node.arr.sizeOf_spec]
    omega
  · have hlt := List.sizeOf_lt_of_mem hmember
    have hvalue : sizeOf member.2 < sizeOf member := by
      cases member
      simp only [Prod.mk.sizeOf_spec]
      omega
    simp only [Node.obj.sizeOf_spec]
    omega

end Switchboard.Data.Node

namespace Switchboard.Json

open Switchboard.Data

/-! ## Numbers -/

section Number

variable {ds rest : List Char} {n : Nat}

/-- What follows does not go on with a number. -/
def NumberEnds (rest : List Char) : Prop :=
  ∀ c ∈ rest.head?, c.isDigit = false ∧ c ≠ '.' ∧ c ≠ 'e' ∧ c ≠ 'E'

/-- The value of a decimal digit. -/
def digitValue (c : Char) : Nat := c.toNat - 48

theorem spanDigits_append (read : List Nat) (hds : ∀ c ∈ ds, c.isDigit = true)
    (hrest : ∀ c ∈ rest.head?, c.isDigit = false) :
    spanDigits read (ds ++ rest) = (read.reverse ++ ds.map digitValue, rest) := by
  induction ds generalizing read with
  | nil =>
      cases rest with
      | nil => simp [spanDigits]
      | cons c rest =>
          have hc : c.isDigit = false := hrest c rfl
          simp [spanDigits, hc]
  | cons c ds ih =>
      have hc : c.isDigit = true := hds c List.mem_cons_self
      rw [List.cons_append, spanDigits, if_pos hc]
      show spanDigits (digitValue c :: read) (ds ++ rest) = _
      rw [ih (digitValue c :: read) fun d hd => hds d (List.mem_cons_of_mem _ hd)]
      simp

theorem ofDigits_map (ds : List Char) :
    ofDigits (ds.map digitValue) = Nat.ofDigitChars 10 ds 0 := by
  rw [ofDigits, List.foldl_map, Nat.ofDigitChars_eq_foldl]
  congr 1
  funext n c
  rw [Nat.mul_comm]
  rfl

/-- The digits of a number have no zero in front. -/
theorem readWhole_toDigits (hrest : NumberEnds rest) :
    readWhole (Nat.toDigits 10 n ++ rest) = some ((Nat.toDigits 10 n).map digitValue, rest) := by
  rw [readWhole, spanDigits_append [] (fun _ => Decimal.isDigit_of_mem_toDigits)
    fun c hc => (hrest c hc).1]
  obtain hzero | ⟨c, ds, hdigits, hc⟩ := Decimal.toDigits_head n
  · rw [hzero]
    rfl
  · have hdigit : c.isDigit = true :=
      Decimal.isDigit_of_mem_toDigits (hdigits ▸ List.mem_cons_self)
    have hvalue : digitValue c ≠ 0 := by
      simpa [hc] using
        Decimal.of_isDigit (p := fun c => c = '0' || digitValue c ≠ 0) (by decide) hdigit
    rw [hdigits, List.map_cons, List.reverse_nil, List.nil_append]
    split
    · rename_i heq
      cases heq
    · rename_i heq
      exact absurd (List.cons.inj (Prod.mk.inj heq).1).1 hvalue
    · rename_i heq
      cases heq
      rfl

theorem readFraction_of_ends (h : NumberEnds rest) : readFraction rest = some (none, rest) := by
  unfold readFraction
  split
  · exact absurd rfl (h '.' rfl).2.1
  · rfl

theorem readExponent_of_ends (h : NumberEnds rest) : readExponent rest = some (none, rest) := by
  cases rest with
  | nil => rfl
  | cons c rest =>
      obtain ⟨-, -, hlower, hupper⟩ := h c rfl
      simp [readExponent, hlower, hupper]

/-- A whole number of a word is read back. -/
theorem readNumber_toDigits (hn : n < Word.size64) (hrest : NumberEnds rest) :
    readNumber false (Nat.toDigits 10 n ++ rest) = (.nat n, some rest) := by
  have hvalue : ofDigits ((Nat.toDigits 10 n).map digitValue) = n := by
    rw [ofDigits_map, Nat.ofDigitChars_ten_toDigits]
  simp [readNumber, readWhole_toDigits hrest, readFraction_of_ends hrest,
    readExponent_of_ends hrest, Literal.value, hvalue, hn, Node.nat]

end Number

/-! ## Texts -/

section Text

variable (chars : List Char) (rest : List Char)

theorem hexValue?_hexDigit : ∀ n < 16, hexValue? (hexDigit n) = some n := by decide

/-- A character that needs no escape stands for itself. -/
theorem readStringFrom_plain {c : Char} (hquote : c ≠ '"') (hescape : c ≠ '\\')
    (hcontrol : ¬ c.toNat < 0x20) (s : Scanned) :
    readStringFrom s (c :: rest) = readStringFrom (s.push c) rest := by
  rw [readStringFrom.eq_def]
  split
  · rename_i heq
    cases heq
  · rename_i heq
    exact absurd (List.cons.inj heq).1 hquote
  · rename_i heq
    exact absurd (List.cons.inj heq).1 hescape
  · rename_i heq
    exact absurd (List.cons.inj heq).1 hescape
  · rename_i heq
    cases heq
    simp [hescape, hcontrol]

/-- The number of a control character gives the character. -/
theorem readStringFrom_control {c : Char} (h : c.toNat < 0x20) :
    readStringFrom ⟨chars, true, none⟩
        ('\\' :: 'u' :: '0' :: '0' :: hexDigit (c.toNat / 16) :: hexDigit (c.toNat % 16) :: rest) =
      readStringFrom ⟨c :: chars, true, none⟩ rest := by
  have hunit : hexValue4? '0' '0' (hexDigit (c.toNat / 16)) (hexDigit (c.toNat % 16)) =
      some c.toNat := by
    have hzero : hexValue? '0' = some 0 := by decide
    have hsplit : ((0 * 16 + 0) * 16 + c.toNat / 16) * 16 + c.toNat % 16 = c.toNat := by omega
    simp only [hexValue4?, hzero, hexValue?_hexDigit (c.toNat / 16) (by omega),
      hexValue?_hexDigit (c.toNat % 16) (by omega), Option.bind_eq_bind, Option.bind_some, hsplit]
    rfl
  have hpush : Scanned.pushUnit ⟨chars, true, none⟩ c.toNat = ⟨c :: chars, true, none⟩ := by
    show Scanned.begin ⟨chars, true, none⟩ c.toNat = _
    rw [Scanned.begin, if_neg (by omega), if_neg (by omega), Char.ofNat_toNat]
    rfl
  rw [readStringFrom, hunit]
  show readStringFrom (Scanned.pushUnit ⟨chars, true, none⟩ c.toNat) rest = _
  rw [hpush]

/-- A character is read back from the way it is written in a text. -/
theorem readStringFrom_escapeChar (c : Char) :
    readStringFrom ⟨chars, true, none⟩ (escapeChar c ++ rest) =
      readStringFrom ⟨c :: chars, true, none⟩ rest := by
  unfold escapeChar
  by_cases hquote : c = '"'
  · subst hquote
    rfl
  by_cases hescape : c = '\\'
  · subst hescape
    rfl
  rw [if_neg hquote, if_neg hescape]
  by_cases hcontrol : c.toNat < 0x20
  · rw [if_pos hcontrol]
    split
    · subst_vars
      rfl
    split
    · subst_vars
      rfl
    split
    · subst_vars
      rfl
    split
    · subst_vars
      rfl
    split
    · subst_vars
      rfl
    · exact readStringFrom_control chars rest hcontrol
  · rw [if_neg hcontrol]
    exact readStringFrom_plain rest hquote hescape hcontrol _

theorem readStringFrom_escapeChars (text : List Char) :
    readStringFrom ⟨chars, true, none⟩ (text.flatMap escapeChar ++ '"' :: rest) =
      some (some (String.ofList (chars.reverse ++ text)), rest) := by
  induction text generalizing chars with
  | nil =>
      rw [List.append_nil]
      rfl
  | cons c text ih =>
      rw [List.flatMap_cons, List.append_assoc, readStringFrom_escapeChar, ih, List.reverse_cons,
        List.append_assoc]
      rfl

theorem toList_quote (s : String) :
    (quote s).toList = '"' :: (s.toList.flatMap escapeChar ++ ['"']) := by
  simp [quote, String.toList_append]

/-- A text is read back, after its opening quote. -/
theorem readString_quote (s : String) :
    readString (s.toList.flatMap escapeChar ++ '"' :: rest) = some (some s, rest) := by
  rw [readString, readStringFrom_escapeChars]
  show some (some (String.ofList s.toList), rest) = _
  rw [String.ofList_toList]

end Text

/-! ## Values -/

/-- The tree is read back from its text, whatever follows and however much fuel is left. -/
def ReadsBack (node : Node) : Prop :=
  ∀ (fuel : Nat) (rest : List Char), (compact node).toList.length ≤ fuel → NumberEnds rest →
    readValue (fuel + 1) ((compact node).toList ++ rest) = (node, some rest)

section Value

variable {rest : List Char}

theorem readsBack_null : ReadsBack .null := by
  intro fuel rest _ _
  simp [compact, readValue, skipBlanks, readWord]

theorem readsBack_bool (b : Bool) : ReadsBack (.bool b) := by
  intro fuel rest _ _
  cases b <;> simp [compact, readValue, skipBlanks, readWord]

theorem readsBack_str (s : String) : ReadsBack (.str s) := by
  intro fuel rest _ _
  rw [compact, toList_quote]
  simp [readValue, skipBlanks, readString_quote]

theorem toList_compact_nat (n : Nat) : (compact (.nat n)).toList = Nat.toDigits 10 n :=
  Decimal.toList_toString n

theorem readsBack_nat {n : Nat} (hn : n < Word.size64) : ReadsBack (.nat n) := by
  intro fuel rest _ hrest
  have hnumber := readNumber_toDigits hn hrest
  obtain ⟨c, ds, hdigits⟩ := List.exists_cons_of_ne_nil (Nat.toDigits_ne_nil (n := n) (b := 10))
  have hc : c.isDigit = true := Decimal.isDigit_of_mem_toDigits (hdigits ▸ List.mem_cons_self)
  have hall : ∀ c ∈ Decimal.digitChars, ∀ rest,
      readValue (fuel + 1) (c :: rest) = readNumber false (c :: rest) := by
    simp [Decimal.digitChars, readValue, skipBlanks]
  rw [toList_compact_nat]
  rw [hdigits, List.cons_append] at hnumber ⊢
  rw [hall c (Decimal.mem_digitChars hc), hnumber]

end Value

/-! ## Lists and tables -/

/-- Texts with commas between them. -/
def join (texts : List String) : List Char := (",".intercalate texts).toList

theorem join_singleton (text : String) : join [text] = text.toList := by
  simp [join]

theorem join_cons_cons (text next : String) (texts : List String) :
    join (text :: next :: texts) = text.toList ++ ',' :: join (next :: texts) := by
  simp [join, String.intercalate_cons_cons, String.toList_append]

theorem toList_compact_arr (items : List Node) :
    (compact (.arr items)).toList = '[' :: (join (compactItems items) ++ [']']) := by
  simp [compact, join, String.toList_append]

theorem toList_compact_obj (members : List (String × Node)) :
    (compact (.obj members)).toList = '\x7b' :: (join (compactMembers members) ++ ['\x7d']) := by
  simp [compact, join, String.toList_append]

/-- The character begins a value: it is no blank and closes nothing. -/
def isOpener (c : Char) : Bool := c ∉ [' ', '\n', '\t', '\r', ']', '\x7d']

theorem skipBlanks_of_isOpener {c : Char} {rest : List Char} (h : isOpener c = true) :
    skipBlanks (c :: rest) = c :: rest := by
  simp only [isOpener, List.mem_cons, not_or, decide_eq_true_eq] at h
  simp [skipBlanks, h]

theorem isOpener_of_isDigit {c : Char} (h : c.isDigit = true) : isOpener c = true :=
  Decimal.of_isDigit (by decide) h

theorem exists_opener {node : Node} (h : node.isPlain = true) :
    ∃ c rest, (compact node).toList = c :: rest ∧ isOpener c = true := by
  cases node with
  | null => exact ⟨'n', ['u', 'l', 'l'], by simp [compact], by decide⟩
  | bool b =>
      cases b with
      | false => exact ⟨'f', ['a', 'l', 's', 'e'], by simp [compact], by decide⟩
      | true => exact ⟨'t', ['r', 'u', 'e'], by simp [compact], by decide⟩
  | num numeral =>
      cases numeral with
      | nat n =>
          obtain ⟨c, ds, hdigits⟩ :=
            List.exists_cons_of_ne_nil (Nat.toDigits_ne_nil (n := n) (b := 10))
          have hc : c.isDigit = true :=
            Decimal.isDigit_of_mem_toDigits (hdigits ▸ List.mem_cons_self)
          exact ⟨c, ds, (toList_compact_nat n).trans hdigits, isOpener_of_isDigit hc⟩
      | neg n => cases h
      | real x => cases h
      | huge => cases h
  | str s => exact ⟨'"', _, by rw [compact, toList_quote], by decide⟩
  | arr items => exact ⟨'[', _, toList_compact_arr items, by decide⟩
  | obj members => exact ⟨'\x7b', _, toList_compact_obj members, by decide⟩
  | unpaired => cases h
  | misnamed value => cases h
  | broken => cases h

theorem numberEnds_cons {c : Char} {rest : List Char}
    (hc : c.isDigit = false ∧ c ≠ '.' ∧ c ≠ 'e' ∧ c ≠ 'E') : NumberEnds (c :: rest) := by
  intro d hd
  cases hd
  exact hc

/-- The items of a list are read back one after the other. -/
theorem readItems_join {items : List Node} (hne : items ≠ []) (h : ∀ item ∈ items, ReadsBack item)
    (fuel : Nat) (read : List Node) (rest : List Char)
    (hfuel : (join (compactItems items)).length < fuel) :
    readItems (fuel + 1) read (join (compactItems items) ++ ']' :: rest) =
      (.arr (read.reverse ++ items), some rest) := by
  induction items generalizing fuel read with
  | nil => exact absurd rfl hne
  | cons item items ih =>
      obtain ⟨fuel, rfl⟩ := Nat.exists_eq_add_one_of_ne_zero (Nat.ne_zero_of_lt hfuel)
      have hitem := h item List.mem_cons_self
      have hitems := fun other hother => h other (List.mem_cons_of_mem item hother)
      cases items with
      | nil =>
          simp only [compactItems, join_singleton] at hfuel ⊢
          rw [readItems, hitem fuel _ (Nat.le_of_lt_succ hfuel) (numberEnds_cons (by decide))]
          simp [skipBlanks]
      | cons next items =>
          simp only [compactItems, join_cons_cons, List.length_append, List.length_cons] at hfuel ⊢
          have hnext := ih (List.cons_ne_nil _ _) hitems fuel (item :: read)
            (by simp only [compactItems]; omega)
          simp only [compactItems] at hnext
          rw [List.append_assoc, List.cons_append, readItems,
            hitem fuel _ (by omega) (numberEnds_cons (by decide))]
          simp [skipBlanks, hnext]

theorem toList_member (name : String) (value : Node) :
    (quote name ++ ":" ++ compact value).toList =
      '"' :: (name.toList.flatMap escapeChar ++ '"' :: ':' :: (compact value).toList) := by
  simp [String.toList_append, toList_quote]

/-- The members of a table are read back one after the other. -/
theorem readMembers_join {members : List (String × Node)} (hne : members ≠ [])
    (h : ∀ member ∈ members, ReadsBack member.2) (fuel : Nat) (read : List (String × Node))
    (rest : List Char) (hfuel : (join (compactMembers members)).length < fuel) :
    readMembers (fuel + 1) read (join (compactMembers members) ++ '\x7d' :: rest) =
      (.obj (read.reverse ++ members), some rest) := by
  induction members generalizing fuel read with
  | nil => exact absurd rfl hne
  | cons head members ih =>
      obtain ⟨name, value⟩ := head
      obtain ⟨fuel, rfl⟩ := Nat.exists_eq_add_one_of_ne_zero (Nat.ne_zero_of_lt hfuel)
      have hvalue : ReadsBack value := h (name, value) List.mem_cons_self
      have hmembers := fun other hother => h other (List.mem_cons_of_mem (name, value) hother)
      cases members with
      | nil =>
          simp only [compactMembers, join_singleton, toList_member, List.length_cons,
            List.length_append] at hfuel ⊢
          have hread := hvalue fuel ('\x7d' :: rest) (by omega) (numberEnds_cons (by decide))
          rw [List.cons_append, readMembers]
          simp [skipBlanks, readString_quote, hread, member]
      | cons next members =>
          obtain ⟨nextName, nextValue⟩ := next
          simp only [compactMembers, join_cons_cons, toList_member, List.length_cons,
            List.length_append] at hfuel ⊢
          have hnext := ih (List.cons_ne_nil _ _) hmembers fuel ((name, value) :: read)
            (by simp only [compactMembers]; omega)
          simp only [compactMembers] at hnext
          have hread := hvalue fuel (',' :: (join ((quote nextName ++ ":" ++ compact nextValue) ::
            compactMembers members) ++ '\x7d' :: rest)) (by omega) (numberEnds_cons (by decide))
          rw [List.cons_append, readMembers]
          simp [skipBlanks, readString_quote, hread, member, hnext]

theorem exists_join_eq {text : String} {texts : List String} {c : Char} {rest : List Char}
    (h : text.toList = c :: rest) : ∃ more, join (text :: texts) = c :: more := by
  cases texts with
  | nil => exact ⟨rest, by rw [join_singleton, h]⟩
  | cons next texts => exact ⟨_, by rw [join_cons_cons, h]; rfl⟩

theorem readValue_bracket {c : Char} (hc : isOpener c = true) (fuel : Nat) (rest : List Char) :
    readValue (fuel + 1) ('[' :: c :: rest) = readItems fuel [] (c :: rest) := by
  have hopen : c ≠ ']' := by
    rintro rfl
    cases hc
  have hfirst : skipBlanks ('[' :: c :: rest) = '[' :: c :: rest :=
    skipBlanks_of_isOpener (by decide)
  rw [readValue, hfirst]
  simp only [skipBlanks_of_isOpener hc]
  split
  · rename_i heq
    exact absurd (List.cons.inj heq).1 hopen
  · rfl

/-- The brackets of a list close after its items. -/
theorem readsBack_arr {items : List Node} (hplain : ∀ item ∈ items, item.isPlain = true)
    (h : ∀ item ∈ items, ReadsBack item) : ReadsBack (.arr items) := by
  intro fuel rest hfuel _
  rw [toList_compact_arr] at hfuel ⊢
  cases items with
  | nil => simp [compactItems, join, readValue, skipBlanks]
  | cons item items =>
      simp only [List.length_cons, List.length_append, List.length_nil] at hfuel
      obtain ⟨fuel, rfl⟩ := Nat.exists_eq_add_one_of_ne_zero (n := fuel) (by omega)
      have hitems := readItems_join (List.cons_ne_nil _ _) h fuel [] rest (by omega)
      obtain ⟨c, start, hstart, hc⟩ := exists_opener (hplain item List.mem_cons_self)
      obtain ⟨more, hmore⟩ : ∃ more, join (compactItems (item :: items)) = c :: more :=
        exists_join_eq hstart
      have htext : '[' :: (join (compactItems (item :: items)) ++ [']']) ++ rest =
          '[' :: c :: (more ++ ']' :: rest) := by
        simp [hmore]
      rw [hmore, List.cons_append] at hitems
      rw [htext, readValue_bracket hc, hitems]
      rfl

/-- The braces of a table close after its members. -/
theorem readsBack_obj {members : List (String × Node)}
    (h : ∀ member ∈ members, ReadsBack member.2) : ReadsBack (.obj members) := by
  intro fuel rest hfuel _
  rw [toList_compact_obj] at hfuel ⊢
  cases members with
  | nil => simp [compactMembers, join, readValue, skipBlanks]
  | cons member members =>
      obtain ⟨name, value⟩ := member
      simp only [List.length_cons, List.length_append, List.length_nil] at hfuel
      obtain ⟨fuel, rfl⟩ := Nat.exists_eq_add_one_of_ne_zero (n := fuel) (by omega)
      have hmembers := readMembers_join (List.cons_ne_nil _ _) h fuel [] rest (by omega)
      obtain ⟨more, hmore⟩ :
          ∃ more, join (compactMembers ((name, value) :: members)) = '"' :: more :=
        exists_join_eq (toList_member name value)
      have htext :
          '\x7b' :: (join (compactMembers ((name, value) :: members)) ++ ['\x7d']) ++ rest =
            '\x7b' :: '"' :: (more ++ '\x7d' :: rest) := by
        simp [hmore]
      rw [hmore, List.cons_append] at hmembers
      rw [htext]
      exact hmembers

/-! ## Whole trees -/

/-- A plain tree is read back from its text. -/
theorem readsBack_of_isPlain {node : Node} (h : node.isPlain = true) : ReadsBack node :=
  Node.plain_induction readsBack_null readsBack_bool readsBack_str (fun _ => readsBack_nat)
    (fun _ => readsBack_arr) (fun _ => readsBack_obj) node h

theorem parse_compact {node : Node} (h : node.isPlain = true) :
    parse (compact node) = (node, true) := by
  have hread := readsBack_of_isPlain h (compact node).toList.length [] (Nat.le_refl _) nofun
  rw [List.append_nil] at hread
  simp only [parse, hread]
  rfl

/-- A text that is read as a tree is decoded like the tree. -/
theorem decode_of_parse {α : Type} {node : Node} {text : String} (h : parse text = (node, true))
    (read : Reading α) : decode read text = read node := by
  rw [decode, h]
  dsimp only
  cases read node with
  | error fault => rfl
  | ok a => rfl

/-- A text is decoded if its tree can be read and nothing follows. -/
theorem decode_eq_ok {α : Type} {read : Reading α} {text : String} {a : α} :
    decode read text = .ok a ↔ read (parse text).1 = .ok a ∧ (parse text).2 = true := by
  rw [decode]
  cases hread : read (parse text).1 with
  | error fault => simp [hread]
  | ok b => cases hended : (parse text).2 <;> simp [hread, hended]

/-- Reading the text of a plain tree is reading the tree. -/
theorem decode_compact {α : Type} {node : Node} (h : node.isPlain = true) (read : Reading α) :
    decode read (compact node) = read node :=
  decode_of_parse (parse_compact h) read

end Switchboard.Json
