import Switchboard.Proofs.Json.RoundTrip

/-!
# The grammar of JSON

What a well-formed text is, and which tree it denotes, without a reader: values, with blanks in
front of them and behind them, lists and tables of values with commas in between, names and texts
made of characters and escapes, numbers made of digits. A text of this grammar is read to its end,
and the tree that is found is the one that it denotes.

The grammar does not limit how often lists and tables stand in each other. A name or a text with
half of a surrogate pair is well formed, though it denotes nothing.

## Main results

* `readNumber_spelled`, `readString_spelled` — numbers and texts.
* `reads_of_spells` — a value is read to its end, whatever follows it.
* `parse_of_spells` — so is a whole text.
-/

namespace Switchboard.Json

open Switchboard.Data

/-! ## Blanks -/

section Blank

variable {c : Char} {chars blanks rest : List Char}

/-- Whether a character is allowed between tokens. -/
def isBlank (c : Char) : Bool := c = ' ' || c = '\n' || c = '\t' || c = '\r'

/-- All characters are blanks. -/
def Blank (chars : List Char) : Prop := ∀ c ∈ chars, isBlank c = true

instance (chars : List Char) : Decidable (Blank chars) :=
  decidable_of_iff (chars.all isBlank = true) List.all_eq_true

theorem skipBlanks_of_isBlank (hc : isBlank c = true) : skipBlanks (c :: rest) = skipBlanks rest :=
  if_pos hc

theorem skipBlanks_of_not_isBlank (hc : isBlank c = false) :
    skipBlanks (c :: rest) = c :: rest :=
  if_neg (ne_true_of_eq_false hc)

theorem skipBlanks_append (h : Blank blanks) : skipBlanks (blanks ++ rest) = skipBlanks rest := by
  induction blanks with
  | nil => rfl
  | cons c blanks ih =>
      obtain ⟨hc, hblanks⟩ := List.forall_mem_cons.mp h
      rw [List.cons_append, skipBlanks_of_isBlank hc, ih hblanks]

theorem skipBlanks_eq_nil : skipBlanks chars = [] ↔ Blank chars := by
  induction chars with
  | nil => exact ⟨fun _ => nofun, fun _ => rfl⟩
  | cons c chars ih =>
      rw [Blank, List.forall_mem_cons]
      cases hc : isBlank c with
      | true => rw [skipBlanks_of_isBlank hc, ih, Blank, and_iff_right rfl]
      | false => simp [skipBlanks_of_not_isBlank hc]

theorem skipBlanks_skipBlanks (chars : List Char) :
    skipBlanks (skipBlanks chars) = skipBlanks chars := by
  induction chars with
  | nil => rfl
  | cons c chars ih =>
      cases hc : isBlank c with
      | true => rw [skipBlanks_of_isBlank hc, ih]
      | false => rw [skipBlanks_of_not_isBlank hc, skipBlanks_of_not_isBlank hc]

/-- No number goes on with a blank. -/
theorem numberEnds_append (h : Blank blanks) (hrest : NumberEnds rest) :
    NumberEnds (blanks ++ rest) := by
  cases blanks with
  | nil => exact hrest
  | cons c blanks =>
      have hc := h c List.mem_cons_self
      simp only [isBlank, Bool.or_eq_true, decide_eq_true_eq] at hc
      refine numberEnds_cons ?_
      rcases hc with ((rfl | rfl) | rfl) | rfl <;> decide

end Blank

/-! ## Numbers -/

section Number

variable {c : Char} {chars ds rest : List Char} {lit : Literal}

/-- One or more decimal digits. -/
def Digits (ds : List Char) : Prop := ds ≠ [] ∧ ∀ c ∈ ds, c.isDigit = true

/-- The digits before the point: no zero stands before another digit. -/
def WholeDigits (ds : List Char) : Prop := Digits ds ∧ (ds.head? = some '0' → ds = ['0'])

/-- How the fraction of a number is written. -/
inductive SpellsFraction : Option (List Nat) → List Char → Prop
  | absent : SpellsFraction none []
  | point {ds : List Char} (digits : Digits ds) :
      SpellsFraction (some (ds.map digitValue)) ('.' :: ds)

/-- How the exponent of a number is written. -/
inductive SpellsExponent : Option Int → List Char → Prop
  | absent : SpellsExponent none []
  | unsigned {e : Char} {ds : List Char} (letter : e = 'e' ∨ e = 'E') (digits : Digits ds) :
      SpellsExponent (some (ofDigits (ds.map digitValue))) (e :: ds)
  | plus {e : Char} {ds : List Char} (letter : e = 'e' ∨ e = 'E') (digits : Digits ds) :
      SpellsExponent (some (ofDigits (ds.map digitValue))) (e :: '+' :: ds)
  | minus {e : Char} {ds : List Char} (letter : e = 'e' ∨ e = 'E') (digits : Digits ds) :
      SpellsExponent (some (-(ofDigits (ds.map digitValue) : Int))) (e :: '-' :: ds)

/-- How a number is written, after its sign. -/
inductive SpellsLiteral (negative : Bool) : Literal → List Char → Prop
  | intro {whole fraction exponent : List Char} {f : Option (List Nat)} {e : Option Int}
      (digits : WholeDigits whole) (spellsFraction : SpellsFraction f fraction)
      (spellsExponent : SpellsExponent e exponent) :
      SpellsLiteral negative
        ⟨negative, whole.map digitValue, f.getD [], f.isSome || e.isSome, e.getD 0⟩
        (whole ++ (fraction ++ exponent))

theorem spanDigits_digits (hds : Digits ds) (hrest : ∀ c ∈ rest.head?, c.isDigit = false) :
    ∃ d digits, spanDigits [] (ds ++ rest) = (d :: digits, rest) ∧
      ds.map digitValue = d :: digits := by
  obtain ⟨c, ds, rfl⟩ := List.exists_cons_of_ne_nil hds.1
  exact ⟨digitValue c, ds.map digitValue, spanDigits_append [] hds.2 hrest, rfl⟩

theorem readWhole_spelled (hds : WholeDigits ds) (hrest : ∀ c ∈ rest.head?, c.isDigit = false) :
    readWhole (ds ++ rest) = some (ds.map digitValue, rest) := by
  obtain ⟨⟨hne, hdigits⟩, hzero⟩ := hds
  rw [readWhole, spanDigits_append [] hdigits hrest, List.reverse_nil, List.nil_append]
  obtain ⟨c, ds, rfl⟩ := List.exists_cons_of_ne_nil hne
  by_cases hc : c = '0'
  · obtain rfl : ds = [] := by simpa [hc] using hzero
    rw [hc]
    rfl
  · have hvalue : digitValue c ≠ 0 := by
      simpa [hc] using Decimal.of_isDigit (p := fun c => c = '0' || digitValue c ≠ 0) (by decide)
        (hdigits c List.mem_cons_self)
    rw [List.map_cons]
    split
    · rename_i heq
      cases heq
    · rename_i heq
      exact absurd (List.cons.inj (Prod.mk.inj heq).1).1 hvalue
    · rename_i heq
      cases heq
      rfl

theorem readFraction_spelled {f : Option (List Nat)} (h : SpellsFraction f chars)
    (hrest : ∀ c ∈ rest.head?, c.isDigit = false ∧ c ≠ '.') :
    readFraction (chars ++ rest) = some (f, rest) := by
  cases h with
  | absent =>
      rw [List.nil_append]
      unfold readFraction
      split
      · exact absurd rfl (hrest '.' rfl).2
      · rfl
  | point digits =>
      obtain ⟨d, ds, hspan, hds⟩ := spanDigits_digits digits fun c hc => (hrest c hc).1
      rw [List.cons_append, readFraction, hspan, hds]

/-- A sign that is no digit comes before the digits of an exponent. -/
theorem readExponent_spelled {e : Option Int} (h : SpellsExponent e chars)
    (hrest : NumberEnds rest) : readExponent (chars ++ rest) = some (e, rest) := by
  have hends : ∀ c ∈ rest.head?, c.isDigit = false := fun c hc => (hrest c hc).1
  cases h with
  | absent => exact readExponent_of_ends hrest
  | @unsigned e ds letter digits =>
      obtain ⟨d, values, hspan, hds⟩ := spanDigits_digits digits hends
      obtain ⟨c, ds, rfl⟩ := List.exists_cons_of_ne_nil digits.1
      -- A digit is neither of the two signs.
      have hdigit : ∀ c ∈ Decimal.digitChars, ∀ more,
          spanDigits [] (c :: more) = (d :: values, rest) →
          readExponent (e :: c :: more) = some (some (ofDigits (d :: values) : Int), rest) := by
        simp +contextual [Decimal.digitChars, readExponent, letter]
      rw [hds]
      exact hdigit c (Decimal.mem_digitChars (digits.2 c List.mem_cons_self)) (ds ++ rest) hspan
  | plus letter digits =>
      obtain ⟨d, ds, hspan, hds⟩ := spanDigits_digits digits hends
      rw [List.cons_append, List.cons_append, readExponent, if_pos (by simpa using letter)]
      simp only [hspan, hds]
      rfl
  | minus letter digits =>
      obtain ⟨d, ds, hspan, hds⟩ := spanDigits_digits digits hends
      rw [List.cons_append, List.cons_append, readExponent, if_pos (by simpa using letter)]
      simp only [hspan, hds]
      rfl

/-- A number is read to its end. -/
theorem readNumber_spelled {negative : Bool} (h : SpellsLiteral negative lit chars)
    (hrest : NumberEnds rest) :
    readNumber negative (chars ++ rest) = (.num lit.value, some rest) := by
  obtain ⟨hwhole, hfraction, hexponent⟩ := h
  rename_i whole fraction exponent f e
  have hbehind : ∀ c ∈ (exponent ++ rest).head?, c.isDigit = false ∧ c ≠ '.' := by
    have hletter : ∀ e : Char, e = 'e' ∨ e = 'E' → e.isDigit = false ∧ e ≠ '.' := by
      rintro e (rfl | rfl) <;> decide
    cases hexponent with
    | absent => exact fun c hc => ⟨(hrest c hc).1, (hrest c hc).2.1⟩
    | unsigned letter digits => rintro c ⟨⟩; exact hletter _ letter
    | plus letter digits => rintro c ⟨⟩; exact hletter _ letter
    | minus letter digits => rintro c ⟨⟩; exact hletter _ letter
  have hpoint : ∀ c ∈ (fraction ++ (exponent ++ rest)).head?, c.isDigit = false := by
    cases hfraction with
    | absent => exact fun c hc => (hbehind c hc).1
    | point digits => rintro c ⟨⟩; decide
  rw [List.append_assoc, List.append_assoc, readNumber, readWhole_spelled hwhole hpoint]
  simp [readFraction_spelled hfraction hbehind, readExponent_spelled hexponent hrest]

end Number

/-! ## Texts -/

section Text

variable {s t : Scanned} {chars rest : List Char}

/-- How the characters of a text are written, between its quotes: what it has brought before them
and after them. -/
inductive Writes : Scanned → List Char → Scanned → Prop
  | done {s : Scanned} : Writes s [] s
  | char {s t : Scanned} {c : Char} {chars : List Char} (quote : c ≠ '"') (backslash : c ≠ '\\')
      (control : ¬c.toNat < 0x20) (behind : Writes (s.push c) chars t) : Writes s (c :: chars) t
  | escape {s t : Scanned} {e c : Char} {chars : List Char} (letter : escape? e = some c)
      (behind : Writes (s.push c) chars t) : Writes s ('\\' :: e :: chars) t
  | unit {s t : Scanned} {a b c d : Char} {n : Nat} {chars : List Char}
      (digits : hexValue4? a b c d = some n) (behind : Writes (s.pushUnit n) chars t) :
      Writes s ('\\' :: 'u' :: a :: b :: c :: d :: chars) t

/-- A character that stands for itself in a text. -/
def standsForItself (c : Char) : Bool := c ≠ '"' && c ≠ '\\' && 0x20 ≤ c.toNat

/-- Characters that stand for themselves are written as they are. -/
theorem writes_of_forall (hchars : ∀ c ∈ chars, standsForItself c = true) (done : List Char) :
    Writes ⟨done, true, none⟩ chars ⟨chars.reverse ++ done, true, none⟩ := by
  induction chars generalizing done with
  | nil => exact .done
  | cons c chars ih =>
      obtain ⟨hc, hchars⟩ := List.forall_mem_cons.mp hchars
      simp only [standsForItself, Bool.and_eq_true, decide_eq_true_eq] at hc
      rw [List.reverse_cons, List.append_assoc]
      exact .char hc.1.1 hc.1.2 (Nat.not_lt.mpr hc.2) (ih hchars (c :: done))

theorem readStringFrom_escape {e c : Char} (h : escape? e = some c) (s : Scanned)
    (rest : List Char) :
    readStringFrom s ('\\' :: e :: rest) = readStringFrom (s.push c) rest := by
  have hunit : e ≠ 'u' := by
    rintro rfl
    cases h
  simp [readStringFrom, h, hunit]

/-- A text is read to its closing quote. -/
theorem readString_spelled (h : Writes s chars t) :
    readStringFrom s (chars ++ '"' :: rest) = some (t.text?, rest) := by
  induction h with
  | done => rw [List.nil_append, readStringFrom]
  | char quote backslash control _ ih =>
      rw [List.cons_append, readStringFrom_plain _ quote backslash control, ih]
  | escape letter _ ih =>
      rw [List.cons_append, List.cons_append, readStringFrom_escape letter, ih]
  | unit digits _ ih =>
      simp only [List.cons_append, readStringFrom, digits, ih]

end Text

/-! ## Values -/

mutual

/-- How a value is written, with the blanks around it. -/
inductive Spells : Node → List Char → Prop
  | blanks {node : Node} {before chars after : List Char} (blankBefore : Blank before)
      (spells : Spells node chars) (blankAfter : Blank after) :
      Spells node (before ++ (chars ++ after))
  | null : Spells .null ['n', 'u', 'l', 'l']
  | true : Spells (.bool true) ['t', 'r', 'u', 'e']
  | false : Spells (.bool false) ['f', 'a', 'l', 's', 'e']
  | number {lit : Literal} {chars : List Char} (literal : SpellsLiteral false lit chars) :
      Spells (.num lit.value) chars
  | negative {lit : Literal} {chars : List Char} (literal : SpellsLiteral true lit chars) :
      Spells (.num lit.value) ('-' :: chars)
  | text {t : Scanned} {s : String} {chars : List Char} (writes : Writes {} chars t)
      (denotes : t.text? = some s) : Spells (.str s) ('"' :: (chars ++ ['"']))
  | unpaired {t : Scanned} {chars : List Char} (writes : Writes {} chars t)
      (denotes : t.text? = none) : Spells .unpaired ('"' :: (chars ++ ['"']))
  | emptyList {blanks : List Char} (blank : Blank blanks) : Spells (.arr []) ('[' :: (blanks ++ [']']))
  | list {items : List Node} {chars : List Char} (spells : SpellsItems items chars) :
      Spells (.arr items) ('[' :: (chars ++ [']']))
  | emptyTable {blanks : List Char} (blank : Blank blanks) :
      Spells (.obj []) ('\x7b' :: (blanks ++ ['\x7d']))
  | table {members : List (String × Node)} {chars : List Char}
      (spells : SpellsMembers members chars) :
      Spells (.obj members) ('\x7b' :: (chars ++ ['\x7d']))

/-- How the items of a list are written. -/
inductive SpellsItems : List Node → List Char → Prop
  | last {item : Node} {chars : List Char} (spells : Spells item chars) : SpellsItems [item] chars
  | more {item : Node} {items : List Node} {chars behind : List Char} (spells : Spells item chars)
      (others : SpellsItems items behind) : SpellsItems (item :: items) (chars ++ ',' :: behind)

/-- How the members of a table are written. -/
inductive SpellsMembers : List (String × Node) → List Char → Prop
  | last {m : String × Node} {chars : List Char} (spells : SpellsMember m chars) :
      SpellsMembers [m] chars
  | more {m : String × Node} {members : List (String × Node)} {chars behind : List Char}
      (spells : SpellsMember m chars) (others : SpellsMembers members behind) :
      SpellsMembers (m :: members) (chars ++ ',' :: behind)

/-- How a member of a table is written. -/
inductive SpellsMember : String × Node → List Char → Prop
  | intro {before name after chars : List Char} {t : Scanned} {value : Node}
      (blankBefore : Blank before) (writes : Writes {} name t) (blankAfter : Blank after)
      (spells : Spells value chars) :
      SpellsMember (member t.text? value)
        (before ++ '"' :: (name ++ '"' :: (after ++ ':' :: chars)))

end

/-- A member whose name needs no escapes. -/
theorem spellsMember_of_all {name : String} {value : Node} {chars : List Char}
    (hname : name.toList.all standsForItself = true) (h : Spells value chars) :
    SpellsMember (name, value) ('"' :: (name.toList ++ '"' :: ':' :: chars)) := by
  have hwrites := writes_of_forall (List.all_eq_true.mp hname) []
  have htext : Scanned.text? ⟨name.toList.reverse ++ [], true, none⟩ = some name := by
    simp [Scanned.text?]
  have hmember := @SpellsMember.intro [] _ [] _ _ _ nofun hwrites nofun h
  rwa [htext] at hmember

/-! ## Reading what is written -/

/-- A value is read to its end, but for blanks, whatever follows it. -/
def Reads (node : Node) (chars : List Char) : Prop :=
  ∀ (fuel : Nat) (rest : List Char), chars.length ≤ fuel → NumberEnds rest →
    ∃ blanks, Blank blanks ∧ readValue (fuel + 1) (chars ++ rest) = (node, some (blanks ++ rest))

/-- Items are read up to the bracket that closes their list. -/
def ItemsRead (items : List Node) (chars : List Char) : Prop :=
  ∀ (fuel : Nat) (done : List Node) (rest : List Char), chars.length < fuel →
    readItems (fuel + 1) done (chars ++ ']' :: rest) = (.arr (done.reverse ++ items), some rest)

/-- A member is read up to the comma or the brace behind it. -/
def MemberReads (m : String × Node) (chars : List Char) : Prop :=
  ∀ (fuel : Nat) (done : List (String × Node)) (rest : List Char), chars.length < fuel →
    readMembers (fuel + 1) done (chars ++ '\x7d' :: rest) =
      (.obj (m :: done).reverse, some rest) ∧
    readMembers (fuel + 1) done (chars ++ ',' :: rest) = readMembers fuel (m :: done) rest

/-- Members are read up to the brace that closes their table. -/
def MembersRead (members : List (String × Node)) (chars : List Char) : Prop :=
  ∀ (fuel : Nat) (done : List (String × Node)) (rest : List Char), chars.length < fuel →
    readMembers (fuel + 1) done (chars ++ '\x7d' :: rest) =
      (.obj (done.reverse ++ members), some rest)

section Reading

variable {node item : Node} {chars behind before after rest : List Char} {fuel : Nat}

/-- Blanks in front of a value do not count. -/
theorem readValue_congr {chars chars' : List Char} (h : skipBlanks chars = skipBlanks chars')
    (fuel : Nat) : readValue fuel chars = readValue fuel chars' := by
  cases fuel with
  | zero => rfl
  | succ fuel => rw [readValue.eq_def, readValue.eq_def]; simp only [h]

/-- No value begins with a closing bracket. -/
theorem readValue_close (fuel : Nat) (rest : List Char) :
    readValue fuel (']' :: rest) = (.broken, none) := by
  cases fuel with
  | zero => rfl
  | succ fuel => simp [readValue, skipBlanks]

theorem Reads.blanks (h : Reads node chars) (hbefore : Blank before) (hafter : Blank after) :
    Reads node (before ++ (chars ++ after)) := by
  intro fuel rest hfuel hrest
  rw [List.length_append, List.length_append] at hfuel
  obtain ⟨blanks, hblanks, hread⟩ :=
    h fuel (after ++ rest) (by omega) (numberEnds_append hafter hrest)
  refine ⟨blanks ++ after, List.forall_mem_append.mpr ⟨hblanks, hafter⟩, ?_⟩
  rw [List.append_assoc, List.append_assoc, readValue_congr (skipBlanks_append hbefore), hread,
    List.append_assoc]

/-- A value that is read without blanks behind it. -/
theorem reads_of_forall
    (h : ∀ (fuel : Nat) (rest : List Char), chars.length ≤ fuel → NumberEnds rest →
      readValue (fuel + 1) (chars ++ rest) = (node, some rest)) : Reads node chars :=
  fun fuel rest hfuel hrest => ⟨[], nofun, h fuel rest hfuel hrest⟩

theorem reads_number {lit : Literal} (h : SpellsLiteral false lit chars) :
    Reads (.num lit.value) chars := by
  refine reads_of_forall fun fuel rest _ hrest => ?_
  have hnumber := readNumber_spelled h hrest
  obtain ⟨c, more, hchars, hc⟩ : ∃ c more, chars = c :: more ∧ c.isDigit = true := by
    obtain ⟨⟨⟨hne, hdigits⟩, -⟩, -, -⟩ := h
    obtain ⟨c, ds, rfl⟩ := List.exists_cons_of_ne_nil hne
    exact ⟨c, _, rfl, hdigits c List.mem_cons_self⟩
  have hall : ∀ c ∈ Decimal.digitChars, ∀ rest,
      readValue (fuel + 1) (c :: rest) = readNumber false (c :: rest) := by
    simp [Decimal.digitChars, readValue, skipBlanks]
  subst hchars
  rw [List.cons_append] at hnumber ⊢
  rw [hall c (Decimal.mem_digitChars hc), hnumber]

theorem reads_negative {lit : Literal} (h : SpellsLiteral true lit chars) :
    Reads (.num lit.value) ('-' :: chars) := by
  refine reads_of_forall fun fuel rest _ hrest => ?_
  rw [List.cons_append]
  simp [readValue, skipBlanks, readNumber_spelled h hrest]

theorem readValue_quoted {t : Scanned} (h : Writes {} chars t) :
    readValue (fuel + 1) ('"' :: (chars ++ ['"']) ++ rest) =
      (match t.text? with
        | some s => (.str s, some rest)
        | none => (.unpaired, some rest)) := by
  have hread : readString (chars ++ '"' :: rest) = some (t.text?, rest) := readString_spelled h
  simp only [List.cons_append, List.append_assoc, List.nil_append, readValue, skipBlanks]
  simp [hread]
  cases t.text? <;> rfl

theorem Reads.items_last (h : Reads item chars) : ItemsRead [item] chars := by
  intro fuel done rest hfuel
  obtain ⟨fuel, rfl⟩ := Nat.exists_eq_add_one_of_ne_zero (Nat.ne_zero_of_lt hfuel)
  obtain ⟨blanks, hblanks, hread⟩ :=
    h fuel (']' :: rest) (Nat.le_of_lt_succ hfuel) (numberEnds_cons (by decide))
  simp only [readItems, hread, skipBlanks_append hblanks]
  simp [skipBlanks]

theorem Reads.items_more {items : List Node} (h : Reads item chars) (hitems : ItemsRead items behind) :
    ItemsRead (item :: items) (chars ++ ',' :: behind) := by
  intro fuel done rest hfuel
  rw [List.length_append, List.length_cons] at hfuel
  obtain ⟨fuel, rfl⟩ := Nat.exists_eq_add_one_of_ne_zero (Nat.ne_zero_of_lt hfuel)
  obtain ⟨blanks, hblanks, hread⟩ :=
    h fuel (',' :: (behind ++ ']' :: rest)) (by omega) (numberEnds_cons (by decide))
  have hothers := hitems fuel (item :: done) rest (by omega)
  rw [List.append_assoc, List.cons_append, readItems]
  simp only [hread, skipBlanks_append hblanks]
  simpa [skipBlanks] using hothers

theorem readItems_skipBlanks (fuel : Nat) (done : List Node) (chars : List Char) :
    readItems fuel done (skipBlanks chars) = readItems fuel done chars := by
  cases fuel with
  | zero => rfl
  | succ fuel => rw [readItems, readItems, readValue_congr (skipBlanks_skipBlanks chars)]

theorem ItemsRead.list {items : List Node} (h : ItemsRead items chars) :
    Reads (.arr items) ('[' :: (chars ++ [']'])) := by
  refine reads_of_forall fun fuel rest hfuel _ => ?_
  simp only [List.length_cons, List.length_append, List.length_nil] at hfuel
  obtain ⟨fuel, rfl⟩ := Nat.exists_eq_add_one_of_ne_zero (n := fuel) (by omega)
  have hitems := h fuel [] rest (by omega)
  rw [← readItems_skipBlanks] at hitems
  -- The first item begins with something else than the closing bracket.
  have hopen : ∀ more, skipBlanks (chars ++ ']' :: rest) ≠ ']' :: more := by
    intro more hclose
    rw [hclose, readItems, readValue_close] at hitems
    exact Option.some_ne_none _ (Prod.mk.inj hitems).2.symm
  have hbracket : skipBlanks ('[' :: (chars ++ ']' :: rest)) = '[' :: (chars ++ ']' :: rest) :=
    skipBlanks_of_not_isBlank (by decide)
  simp only [List.cons_append, List.append_assoc, List.nil_append]
  rw [readValue, hbracket]
  simp only
  exact hitems

theorem reads_emptyList (h : Blank chars) : Reads (.arr []) ('[' :: (chars ++ [']'])) := by
  refine reads_of_forall fun fuel rest _ _ => ?_
  have hclose : skipBlanks (chars ++ ']' :: rest) = ']' :: rest :=
    (skipBlanks_append h).trans (skipBlanks_of_not_isBlank (by decide))
  have hbracket : skipBlanks ('[' :: (chars ++ ']' :: rest)) = '[' :: (chars ++ ']' :: rest) :=
    skipBlanks_of_not_isBlank (by decide)
  simp only [List.cons_append, List.append_assoc, List.nil_append]
  rw [readValue, hbracket]
  simp only [hclose]

/-! ### Tables -/

section Member

variable {name : List Char} {t : Scanned}

/-- The name of a member, its colon and its value are read one after the other. -/
theorem Reads.member (h : Reads node chars) (hbefore : Blank before) (hname : Writes {} name t)
    (hafter : Blank after) :
    MemberReads (member t.text? node)
      (before ++ '"' :: (name ++ '"' :: (after ++ ':' :: chars))) := by
  intro fuel done rest hfuel
  simp only [List.length_append, List.length_cons] at hfuel
  obtain ⟨fuel, rfl⟩ := Nat.exists_eq_add_one_of_ne_zero (n := fuel) (by omega)
  have hquote : ∀ more, skipBlanks (before ++ '"' :: more) = '"' :: more := fun more =>
    (skipBlanks_append hbefore).trans (skipBlanks_of_not_isBlank (by decide))
  have hcolon : ∀ more, skipBlanks (after ++ ':' :: more) = ':' :: more := fun more =>
    (skipBlanks_append hafter).trans (skipBlanks_of_not_isBlank (by decide))
  have hread : ∀ more, readString (name ++ '"' :: more) = some (t.text?, more) := fun more =>
    readString_spelled hname
  obtain ⟨blanks, hblanks, hlast⟩ := h fuel ('\x7d' :: rest) (by omega) (numberEnds_cons (by decide))
  obtain ⟨blanks', hblanks', hmore⟩ := h fuel (',' :: rest) (by omega) (numberEnds_cons (by decide))
  constructor
  · simp only [List.append_assoc, List.cons_append, readMembers, hquote, hread, hcolon, hlast,
      skipBlanks_append hblanks]
    simp [skipBlanks]
  · simp only [List.append_assoc, List.cons_append]
    rw [readMembers]
    simp only [hquote, hread, hcolon, hmore, skipBlanks_append hblanks']
    simp [skipBlanks]

end Member

theorem MemberReads.last {m : String × Node} (h : MemberReads m chars) : MembersRead [m] chars := by
  intro fuel done rest hfuel
  rw [(h fuel done rest hfuel).1, List.reverse_cons]

theorem MemberReads.more {m : String × Node} {members : List (String × Node)}
    (h : MemberReads m chars) (hmembers : MembersRead members behind) :
    MembersRead (m :: members) (chars ++ ',' :: behind) := by
  intro fuel done rest hfuel
  rw [List.length_append, List.length_cons] at hfuel
  obtain ⟨fuel, rfl⟩ := Nat.exists_eq_add_one_of_ne_zero (Nat.ne_zero_of_lt hfuel)
  rw [List.append_assoc, List.cons_append, (h (fuel + 1) done _ (by omega)).2,
    hmembers fuel (m :: done) rest (by omega)]
  simp

theorem readMembers_skipBlanks (fuel : Nat) (done : List (String × Node)) (chars : List Char) :
    readMembers fuel done (skipBlanks chars) = readMembers fuel done chars := by
  cases fuel with
  | zero => rfl
  | succ fuel =>
      rw [readMembers.eq_def, readMembers.eq_def]
      simp only [skipBlanks_skipBlanks]

theorem MembersRead.table {members : List (String × Node)} (h : MembersRead members chars) :
    Reads (.obj members) ('\x7b' :: (chars ++ ['\x7d'])) := by
  refine reads_of_forall fun fuel rest hfuel _ => ?_
  simp only [List.length_cons, List.length_append, List.length_nil] at hfuel
  obtain ⟨fuel, rfl⟩ := Nat.exists_eq_add_one_of_ne_zero (n := fuel) (by omega)
  have hmembers := h fuel [] rest (by omega)
  rw [← readMembers_skipBlanks] at hmembers
  -- The first member begins with a quote.
  have hopen : ∀ more, skipBlanks (chars ++ '\x7d' :: rest) ≠ '\x7d' :: more := by
    intro more hclose
    rw [hclose, readMembers] at hmembers
    simp [skipBlanks] at hmembers
  have hbrace : skipBlanks ('\x7b' :: (chars ++ '\x7d' :: rest)) =
      '\x7b' :: (chars ++ '\x7d' :: rest) :=
    skipBlanks_of_not_isBlank (by decide)
  simp only [List.cons_append, List.append_assoc, List.nil_append]
  rw [readValue, hbrace]
  simp only
  exact hmembers

theorem reads_emptyTable (h : Blank chars) : Reads (.obj []) ('\x7b' :: (chars ++ ['\x7d'])) := by
  refine reads_of_forall fun fuel rest _ _ => ?_
  have hclose : skipBlanks (chars ++ '\x7d' :: rest) = '\x7d' :: rest :=
    (skipBlanks_append h).trans (skipBlanks_of_not_isBlank (by decide))
  have hbrace : skipBlanks ('\x7b' :: (chars ++ '\x7d' :: rest)) =
      '\x7b' :: (chars ++ '\x7d' :: rest) :=
    skipBlanks_of_not_isBlank (by decide)
  simp only [List.cons_append, List.append_assoc, List.nil_append]
  rw [readValue, hbrace]
  simp only [hclose]

end Reading

mutual

/-- A value is read to its end, whatever follows it. -/
theorem reads_of_spells {node : Node} {chars : List Char} : Spells node chars → Reads node chars
  | .blanks blankBefore spells blankAfter => (reads_of_spells spells).blanks blankBefore blankAfter
  | .null => reads_of_forall fun fuel rest _ _ => by simp [readValue, skipBlanks, readWord]
  | .true => reads_of_forall fun fuel rest _ _ => by simp [readValue, skipBlanks, readWord]
  | .false => reads_of_forall fun fuel rest _ _ => by simp [readValue, skipBlanks, readWord]
  | .number literal => reads_number literal
  | .negative literal => reads_negative literal
  | .text writes denotes => reads_of_forall fun fuel rest _ _ => by
      rw [readValue_quoted writes, denotes]
  | .unpaired writes denotes => reads_of_forall fun fuel rest _ _ => by
      rw [readValue_quoted writes, denotes]
  | .emptyList blank => reads_emptyList blank
  | .list spells => (itemsRead_of_spells spells).list
  | .emptyTable blank => reads_emptyTable blank
  | .table spells => (membersRead_of_spells spells).table

/-- The items of a list are read one after the other. -/
theorem itemsRead_of_spells {items : List Node} {chars : List Char} :
    SpellsItems items chars → ItemsRead items chars
  | .last spells => (reads_of_spells spells).items_last
  | .more spells others => (reads_of_spells spells).items_more (itemsRead_of_spells others)

/-- The members of a table are read one after the other. -/
theorem membersRead_of_spells {members : List (String × Node)} {chars : List Char} :
    SpellsMembers members chars → MembersRead members chars
  | .last spells => (memberReads_of_spells spells).last
  | .more spells others => (memberReads_of_spells spells).more (membersRead_of_spells others)

/-- A member is read as its name and its value. -/
theorem memberReads_of_spells {m : String × Node} {chars : List Char} :
    SpellsMember m chars → MemberReads m chars
  | .intro blankBefore writes blankAfter spells =>
      (reads_of_spells spells).member blankBefore writes blankAfter

end

mutual

/-- There is no defect in a tree that a well-formed text denotes. -/
theorem isBroken_of_spells {node : Node} {chars : List Char} :
    Spells node chars → node.isBroken = false
  | .blanks _ spells _ => isBroken_of_spells spells
  | .null | .true | .false | .number _ | .negative _ | .text .. | .unpaired .. => rfl
  | .emptyList _ | .emptyTable _ => rfl
  | .list spells => anyBroken_of_spells spells
  | .table spells => anyMemberBroken_of_spells spells

theorem anyBroken_of_spells {items : List Node} {chars : List Char} :
    SpellsItems items chars → Node.anyBroken items = false
  | .last spells => by simp [Node.anyBroken, isBroken_of_spells spells]
  | .more spells others => by
      simp [Node.anyBroken, isBroken_of_spells spells, anyBroken_of_spells others]

theorem anyMemberBroken_of_spells {members : List (String × Node)} {chars : List Char} :
    SpellsMembers members chars → Node.anyMemberBroken members = false
  | .last spells => by simp [Node.anyMemberBroken, isBroken_of_spellsMember spells]
  | .more spells others => by
      simp [Node.anyMemberBroken, isBroken_of_spellsMember spells,
        anyMemberBroken_of_spells others]

theorem isBroken_of_spellsMember {m : String × Node} {chars : List Char} :
    SpellsMember m chars → m.2.isBroken = false
  | .intro (t := t) _ _ _ spells => by
      cases h : t.text? <;> simp [member, Node.isBroken, isBroken_of_spells spells]

end

/-- A well-formed text is read as the tree that it denotes. -/
theorem parse_of_spells {node : Node} {text : String} (h : Spells node text.toList) :
    parse text = (node, true) := by
  obtain ⟨blanks, hblanks, hread⟩ := reads_of_spells h text.toList.length [] (Nat.le_refl _) nofun
  simp only [List.append_nil] at hread
  simp only [parse, hread, skipBlanks_eq_nil.mpr hblanks, List.isEmpty_nil]

end Switchboard.Json
