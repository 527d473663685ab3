import Switchboard.Proofs.Json.Grammar

/-!
# How reading ends

Reading a value ends in one of two ways. It comes to the end of the value and leaves the characters
after it, or it meets a defect, and then the tree that it built up to there ends in a broken leaf.

Fuel only bounds how long reading goes on. A value that was read to its end is read in the same way
with more fuel.

What comes of a text that stands right in front of a table with which everything ends? A value that
begins in that text ends in it as well, or it ends with the first quote of the table, if the text
leaves a string open. The table itself can be an item of a list, or a member of another table, but
nothing is left then that could close these. So the table is never the end of a longer value, and
nothing but blanks can stand in front of it.

## Main results

* `isBroken_of_readValue` — a reading that stops leaves a defect.
* `readValue_add` — more fuel makes no difference to what was read to an end.
* `Final.read_glued` — where values end that begin before a table.
* `Final.blank_of_parse` — only blanks can stand in front of a table that is read.
-/

namespace Switchboard.Json

open Switchboard.Data

section Ending

variable {chars rest : List Char} {node : Node} {fuel : Nat}

/-! ## Defects -/

theorem isBroken_readWord {word : List Char} {leaf : Node}
    (h : readWord word leaf chars = (node, none)) : node.isBroken = true := by
  induction word generalizing chars with
  | nil => cases h
  | cons w word ih =>
      cases chars with
      | nil =>
          rw [readWord] at h
          cases h
          rfl
      | cons c chars =>
          rw [readWord] at h
          split at h
          · exact ih h
          · cases h; rfl

theorem isBroken_readNumber {negative : Bool} (h : readNumber negative chars = (node, none)) :
    node.isBroken = true := by
  rw [readNumber] at h
  dsimp only at h
  split at h
  · cases h
  · cases h; rfl

theorem isBroken_arr {items : List Node} (h : ∃ item ∈ items, item.isBroken = true) :
    (Node.arr items.reverse).isBroken = true := by
  obtain ⟨item, hitem, hbroken⟩ := h
  refine Bool.of_not_eq_false fun hwhole => ?_
  exact absurd (Node.anyBroken_eq_false.mp hwhole item (List.mem_reverse.mpr hitem)) (by simp [hbroken])

theorem isBroken_obj {members : List (String × Node)} (h : ∃ m ∈ members, m.2.isBroken = true) :
    (Node.obj members.reverse).isBroken = true := by
  obtain ⟨m, hm, hbroken⟩ := h
  refine Bool.of_not_eq_false fun hwhole => ?_
  exact absurd (Node.anyMemberBroken_eq_false.mp hwhole m (List.mem_reverse.mpr hm)) (by simp [hbroken])

theorem isBroken_member (name : Option String) (value : Node) :
    (member name value).2.isBroken = value.isBroken := by
  cases name <;> rfl

theorem isBroken_readValue_of
    (hitems : ∀ {done chars node}, readItems fuel done chars = (node, none) → node.isBroken = true)
    (hmembers : ∀ {done chars node},
      readMembers fuel done chars = (node, none) → node.isBroken = true)
    (h : readValue (fuel + 1) chars = (node, none)) : node.isBroken = true := by
  rw [readValue.eq_def] at h
  dsimp only at h
  split at h
  · exact isBroken_readWord h
  · exact isBroken_readWord h
  · exact isBroken_readWord h
  · split at h <;> cases h
    rfl
  · exact isBroken_readNumber h
  · split at h
    · cases h
    · exact hitems h
  · split at h
    · cases h
    · exact hmembers h
  · split at h
    · exact isBroken_readNumber h
    · cases h; rfl
  · cases h; rfl

theorem isBroken_readItems_of {done : List Node}
    (hvalue : ∀ {chars node}, readValue fuel chars = (node, none) → node.isBroken = true)
    (hitems : ∀ {done chars node}, readItems fuel done chars = (node, none) → node.isBroken = true)
    (h : readItems (fuel + 1) done chars = (node, none)) : node.isBroken = true := by
  rw [readItems] at h
  split at h
  · next item hitem => cases h; exact isBroken_arr ⟨_, List.mem_cons_self, hvalue hitem⟩
  · split at h
    · cases h
    · exact hitems h
    · cases h; exact isBroken_arr ⟨_, List.mem_cons_self, rfl⟩

theorem isBroken_readMembers_of {done : List (String × Node)}
    (hvalue : ∀ {chars node}, readValue fuel chars = (node, none) → node.isBroken = true)
    (hmembers : ∀ {done chars node},
      readMembers fuel done chars = (node, none) → node.isBroken = true)
    (h : readMembers (fuel + 1) done chars = (node, none)) : node.isBroken = true := by
  rw [readMembers.eq_def] at h
  dsimp only at h
  split at h
  case h_2 => cases h; exact isBroken_obj ⟨_, List.mem_cons_self, rfl⟩
  split at h
  case h_2 => cases h; exact isBroken_obj ⟨_, List.mem_cons_self, rfl⟩
  split at h
  case h_2 => cases h; exact isBroken_obj ⟨_, List.mem_cons_self, isBroken_member _ _⟩
  split at h
  · next hread =>
      cases h
      exact isBroken_obj ⟨_, List.mem_cons_self, (isBroken_member _ _).trans (hvalue hread)⟩
  · split at h
    · cases h
    · exact hmembers h
    · cases h; exact isBroken_obj ⟨_, List.mem_cons_self, rfl⟩

/-- A reading that stops leaves a defect in the value, the list or the table it was at. -/
theorem isBroken_of_none (fuel : Nat) :
    (∀ {chars node}, readValue fuel chars = (node, none) → node.isBroken = true) ∧
    (∀ {done chars node}, readItems fuel done chars = (node, none) → node.isBroken = true) ∧
    (∀ {done chars node}, readMembers fuel done chars = (node, none) → node.isBroken = true) := by
  induction fuel with
  | zero =>
      refine ⟨fun h => ?_, fun h => ?_, fun h => ?_⟩
      · cases h; rfl
      · cases h; exact isBroken_arr ⟨_, List.mem_cons_self, rfl⟩
      · cases h; exact isBroken_obj ⟨_, List.mem_cons_self, rfl⟩
  | succ fuel ih =>
      obtain ⟨hvalue, hitems, hmembers⟩ := ih
      exact ⟨isBroken_readValue_of hitems hmembers, isBroken_readItems_of hvalue hitems,
        isBroken_readMembers_of hvalue hmembers⟩

theorem isBroken_of_readValue (h : readValue fuel chars = (node, none)) : node.isBroken = true :=
  (isBroken_of_none fuel).1 h

/-! ## Fuel -/

theorem readValue_succ_of
    (hitems : ∀ {done chars node rest}, readItems fuel done chars = (node, some rest) →
      readItems (fuel + 1) done chars = (node, some rest))
    (hmembers : ∀ {done chars node rest}, readMembers fuel done chars = (node, some rest) →
      readMembers (fuel + 1) done chars = (node, some rest))
    (h : readValue (fuel + 1) chars = (node, some rest)) :
    readValue (fuel + 2) chars = (node, some rest) := by
  rw [readValue.eq_def] at h ⊢
  dsimp only at h ⊢
  split at h
  case h_6 =>
    split at h
    · exact h
    · exact hitems h
  case h_7 =>
    split at h
    · exact h
    · exact hmembers h
  -- Only lists and tables take fuel.
  all_goals exact h

theorem readItems_succ_of {done : List Node}
    (hvalue : ∀ {chars node rest}, readValue fuel chars = (node, some rest) →
      readValue (fuel + 1) chars = (node, some rest))
    (hitems : ∀ {done chars node rest}, readItems fuel done chars = (node, some rest) →
      readItems (fuel + 1) done chars = (node, some rest))
    (h : readItems (fuel + 1) done chars = (node, some rest)) :
    readItems (fuel + 2) done chars = (node, some rest) := by
  rw [readItems] at h ⊢
  split at h
  · cases h
  next item behind hread =>
  rw [hvalue hread]
  dsimp only
  split at h
  · exact h
  · exact hitems h
  · cases h

theorem readMembers_succ_of {done : List (String × Node)}
    (hvalue : ∀ {chars node rest}, readValue fuel chars = (node, some rest) →
      readValue (fuel + 1) chars = (node, some rest))
    (hmembers : ∀ {done chars node rest}, readMembers fuel done chars = (node, some rest) →
      readMembers (fuel + 1) done chars = (node, some rest))
    (h : readMembers (fuel + 1) done chars = (node, some rest)) :
    readMembers (fuel + 2) done chars = (node, some rest) := by
  rw [readMembers.eq_def] at h ⊢
  dsimp only at h ⊢
  split at h
  case h_2 => cases h
  split at h
  case h_2 => cases h
  split at h
  case h_2 => cases h
  split at h
  · cases h
  next value behind hread =>
  rw [hvalue hread]
  dsimp only
  split at h
  · exact h
  · exact hmembers h
  · cases h

/-- More fuel makes no difference to a value, a list or a table that was read to its end. -/
theorem read_succ (fuel : Nat) :
    (∀ {chars node rest}, readValue fuel chars = (node, some rest) →
      readValue (fuel + 1) chars = (node, some rest)) ∧
    (∀ {done chars node rest}, readItems fuel done chars = (node, some rest) →
      readItems (fuel + 1) done chars = (node, some rest)) ∧
    (∀ {done chars node rest}, readMembers fuel done chars = (node, some rest) →
      readMembers (fuel + 1) done chars = (node, some rest)) := by
  induction fuel with
  | zero => exact ⟨nofun, nofun, nofun⟩
  | succ fuel ih =>
      obtain ⟨hvalue, hitems, hmembers⟩ := ih
      exact ⟨readValue_succ_of hitems hmembers, readItems_succ_of hvalue hitems,
        readMembers_succ_of hvalue hmembers⟩

/-- What was read to its end is read in the same way with any fuel above. -/
theorem readValue_add (h : readValue fuel chars = (node, some rest)) (more : Nat) :
    readValue (fuel + more) chars = (node, some rest) := by
  induction more with
  | zero => exact h
  | succ more ih => exact (read_succ (fuel + more)).1 ih

end Ending

section Glued

variable {c first : Char} {chars more behind rest : List Char} {node : Node}

theorem suffix_of_ne (h : first :: behind <:+ c :: more) (hc : c ≠ first) :
    first :: behind <:+ more :=
  (List.suffix_cons_iff.mp h).resolve_left fun heq => hc (List.cons.inj heq).1.symm

/-! ## Numbers, words and strings in front of a table -/

theorem spanDigits_glued (digits : List Nat) (h : '\x7b' :: behind <:+ chars) :
    '\x7b' :: behind <:+ (spanDigits digits chars).2 := by
  induction chars generalizing digits with
  | nil => exact h
  | cons c chars ih =>
      rw [spanDigits]
      split
      · next hdigit =>
          exact ih _ (suffix_of_ne h fun hc => absurd (hc ▸ hdigit) (by decide))
      · exact h

theorem readWhole_glued {ds : List Nat} (h : '\x7b' :: behind <:+ chars)
    (hread : readWhole chars = some (ds, rest)) : '\x7b' :: behind <:+ rest := by
  have hspan := spanDigits_glued [] h
  rw [readWhole] at hread
  split at hread
  · cases hread
  · cases hread
  · next hfound =>
      rw [hfound] at hspan
      cases hread
      exact hspan

theorem readFraction_glued {f : Option (List Nat)} (h : '\x7b' :: behind <:+ chars)
    (hread : readFraction chars = some (f, rest)) : '\x7b' :: behind <:+ rest := by
  rw [readFraction.eq_def] at hread
  split at hread
  · have hspan := spanDigits_glued [] (suffix_of_ne h (by decide))
    split at hread
    · cases hread
    · next hfound =>
        rw [hfound] at hspan
        cases hread
        exact hspan
  · cases hread
    exact h

theorem readExponent_glued {e : Option Int} (h : '\x7b' :: behind <:+ chars)
    (hread : readExponent chars = some (e, rest)) : '\x7b' :: behind <:+ rest := by
  cases chars with
  | nil => exact absurd (List.suffix_nil.mp h) (List.cons_ne_nil _ _)
  | cons c chars =>
      rw [readExponent.eq_def] at hread
      dsimp only at hread
      split at hread
      · next hletter =>
          have hc : c ≠ '\x7b' := by
            rintro rfl
            cases hletter
          replace h := suffix_of_ne h hc
          split at hread
          · cases hread
          next digits rest' hdigits hspan =>
          cases hread
          have hspan := (congrArg Prod.snd hspan).symm
          dsimp only at hspan
          rw [hspan]
          refine spanDigits_glued [] ?_
          split
          · exact suffix_of_ne h (by decide)
          · exact suffix_of_ne h (by decide)
          · exact h
      · cases hread
        exact h

theorem readNumber_glued {negative : Bool} (h : '\x7b' :: behind <:+ chars)
    (hread : readNumber negative chars = (node, some rest)) : '\x7b' :: behind <:+ rest := by
  rw [readNumber] at hread
  dsimp only at hread
  split at hread
  · next lit rest' hfound =>
      obtain ⟨⟨whole, rest₁⟩, hwhole, hfound⟩ := Option.bind_eq_some_iff.mp hfound
      obtain ⟨⟨fraction, rest₂⟩, hfraction, hfound⟩ := Option.bind_eq_some_iff.mp hfound
      obtain ⟨⟨exponent, rest₃⟩, hexponent, hfound⟩ := Option.bind_eq_some_iff.mp hfound
      cases hfound
      cases hread
      exact readExponent_glued (readFraction_glued (readWhole_glued h hwhole) hfraction) hexponent
  · cases hread

theorem readWord_glued {word : List Char} {leaf : Node} (hword : '\x7b' ∉ word)
    (h : '\x7b' :: behind <:+ chars) (hread : readWord word leaf chars = (node, some rest)) :
    '\x7b' :: behind <:+ rest := by
  induction word generalizing chars with
  | nil =>
      cases hread
      exact h
  | cons w word ih =>
      rw [List.mem_cons, not_or] at hword
      obtain ⟨hw, hword⟩ := hword
      cases chars with
      | nil => exact absurd (List.suffix_nil.mp h) (List.cons_ne_nil _ _)
      | cons c chars =>
          rw [readWord] at hread
          split at hread
          · next hwc => exact ih hword (suffix_of_ne h fun hc => hw (hwc.trans hc).symm) hread
          · cases hread

theorem ne_of_hexValue? {n : Nat} (h : hexValue? c = some n) : c ≠ '\x7b' := by
  rintro rfl
  cases h

theorem ne_of_hexValue4? {a b c d : Char} {n : Nat} (h : hexValue4? a b c d = some n) :
    a ≠ '\x7b' ∧ b ≠ '\x7b' ∧ c ≠ '\x7b' ∧ d ≠ '\x7b' := by
  obtain ⟨na, ha, h⟩ := Option.bind_eq_some_iff.mp h
  obtain ⟨nb, hb, h⟩ := Option.bind_eq_some_iff.mp h
  obtain ⟨nc, hc, h⟩ := Option.bind_eq_some_iff.mp h
  obtain ⟨nd, hd, h⟩ := Option.bind_eq_some_iff.mp h
  exact ⟨ne_of_hexValue? ha, ne_of_hexValue? hb, ne_of_hexValue? hc, ne_of_hexValue? hd⟩

theorem ne_of_escape? {e : Char} (h : escape? e = some c) : e ≠ '\x7b' := by
  rintro rfl
  cases h

/-- A string that is open in front of the table is closed by the first quote in it. -/
theorem readStringFrom_glued {s : Scanned} {text : Option String}
    (h : '\x7b' :: '"' :: behind <:+ chars) (hread : readStringFrom s chars = some (text, rest)) :
    '\x7b' :: '"' :: behind <:+ rest ∨ rest = behind := by
  fun_induction readStringFrom s chars with
  | case1 => cases hread
  | case2 s more =>
      cases hread
      exact .inl (suffix_of_ne h (by decide))
  | case3 s a b c d more unit hunit ih =>
      obtain ⟨ha, hb, hc, hd⟩ := ne_of_hexValue4? hunit
      have hmore : '\x7b' :: '"' :: behind <:+ a :: b :: c :: d :: more :=
        suffix_of_ne (suffix_of_ne h (by decide)) (by decide)
      exact ih (suffix_of_ne (suffix_of_ne (suffix_of_ne (suffix_of_ne hmore ha) hb) hc) hd) hread
  | case4 => cases hread
  | case5 s e more hshort c hescape ih =>
      exact ih (suffix_of_ne (suffix_of_ne h (by decide)) (ne_of_escape? hescape)) hread
  | case6 => cases hread
  | case7 => cases hread
  | case8 s c more hquote hlong hshort hplain ih =>
      obtain heq | h := List.suffix_cons_iff.mp h
      · -- The brace is part of the string, and the quote behind it is its end.
        obtain ⟨-, rfl⟩ := List.cons.inj heq
        rw [readStringFrom] at hread
        cases hread
        exact .inr rfl
      · exact ih h hread

theorem readString_glued {text : Option String} (h : '\x7b' :: '"' :: behind <:+ chars)
    (hread : readString chars = some (text, rest)) :
    '\x7b' :: '"' :: behind <:+ rest ∨ rest = behind :=
  readStringFrom_glued h hread

/-! ## Values in front of a table -/

theorem skipBlanks_glued (h : '\x7b' :: behind <:+ chars) : '\x7b' :: behind <:+ skipBlanks chars := by
  induction chars with
  | nil => exact h
  | cons c chars ih =>
      cases hc : isBlank c with
      | true =>
          rw [skipBlanks_of_isBlank hc]
          exact ih (suffix_of_ne h fun heq => absurd (heq ▸ hc) (by decide))
      | false =>
          rw [skipBlanks_of_not_isBlank hc]
          exact h

section Value

variable {after : List Char} {fuel : Nat}

/-- Whether a character is a token that comes behind a value or a name. -/
def isPunctuation (c : Char) : Bool := c ∈ [',', ':', ']', '\x7d']

/-- How a table with a member begins. -/
abbrev opening (first : Char) (after : List Char) : List Char := '\x7b' :: '"' :: first :: after

/-- The table is the end of everything: it is read to the end or not at all. Inside its first name
it does not look like the rest of a longer value. -/
structure Final (first : Char) (after : List Char) : Prop where
  blank : isBlank first = false
  punctuation : isPunctuation first = false
  ends : ∀ {fuel node rest}, readValue fuel (opening first after) = (node, some rest) → rest = []

/-- Only what stands in front of the table can go on behind a value. -/
theorem Final.suffix_of_punctuation (hfinal : Final first after)
    (h : opening first after <:+ rest ∨ rest = first :: after ∨ rest = [])
    (hc : isPunctuation c = true) (hskip : skipBlanks rest = c :: more) :
    opening first after <:+ more := by
  obtain h | rfl | rfl := h
  · refine suffix_of_ne (hskip ▸ skipBlanks_glued h) ?_
    rintro rfl
    cases hc
  · rw [skipBlanks_of_not_isBlank hfinal.blank] at hskip
    have hinner := hfinal.punctuation
    rw [(List.cons.inj hskip).1, hc] at hinner
    cases hinner
  · cases hskip

/-- A value that begins before the table ends before it, or with its first quote. -/
theorem readValue_glued_of
    (hitems : ∀ {done chars node rest}, opening first after <:+ chars →
      readItems fuel done chars = (node, some rest) → opening first after <:+ rest)
    (hmembers : ∀ {done chars node rest}, opening first after <:+ chars →
      readMembers fuel done chars = (node, some rest) → opening first after <:+ rest)
    (h : opening first after <:+ more) (hskip : skipBlanks chars = c :: more)
    (hread : readValue (fuel + 1) chars = (node, some rest)) :
    opening first after <:+ rest ∨ rest = first :: after := by
  rw [readValue.eq_def] at hread
  dsimp only at hread
  rw [hskip] at hread
  split at hread
  · next heq =>
      obtain ⟨-, rfl⟩ := List.cons.inj heq
      exact .inl (readWord_glued (by decide) h hread)
  · next heq =>
      obtain ⟨-, rfl⟩ := List.cons.inj heq
      exact .inl (readWord_glued (by decide) h hread)
  · next heq =>
      obtain ⟨-, rfl⟩ := List.cons.inj heq
      exact .inl (readWord_glued (by decide) h hread)
  · next heq =>
      obtain ⟨-, rfl⟩ := List.cons.inj heq
      split at hread <;> cases hread
      · next hstring => exact readString_glued h hstring
      · next hstring => exact readString_glued h hstring
  · next heq =>
      obtain ⟨-, rfl⟩ := List.cons.inj heq
      exact .inl (readNumber_glued h hread)
  · next heq =>
      obtain ⟨-, rfl⟩ := List.cons.inj heq
      split at hread
      · next hclose =>
          cases hread
          exact .inl (suffix_of_ne (hclose ▸ skipBlanks_glued h) (by decide))
      · exact .inl (hitems (skipBlanks_glued h) hread)
  · next heq =>
      obtain ⟨-, rfl⟩ := List.cons.inj heq
      split at hread
      · next hclose =>
          cases hread
          exact .inl (suffix_of_ne (hclose ▸ skipBlanks_glued h) (by decide))
      · exact .inl (hmembers (skipBlanks_glued h) hread)
  · next heq =>
      obtain ⟨-, rfl⟩ := List.cons.inj heq
      split at hread
      · exact .inl (readNumber_glued (h.trans (List.suffix_cons _ _)) hread)
      · cases hread
  · cases hread

/-- An item that begins before the table goes on before it, and so does its list. -/
theorem Final.readItems_glued (hfinal : Final first after) {done : List Node}
    (hends : ∀ {chars node rest}, opening first after <:+ chars →
      readValue fuel chars = (node, some rest) →
      opening first after <:+ rest ∨ rest = first :: after ∨ rest = [])
    (hitems : ∀ {done chars node rest}, opening first after <:+ chars →
      readItems fuel done chars = (node, some rest) → opening first after <:+ rest)
    (h : opening first after <:+ chars)
    (hread : readItems (fuel + 1) done chars = (node, some rest)) :
    opening first after <:+ rest := by
  rw [readItems] at hread
  split at hread
  · cases hread
  next hitem =>
  split at hread
  · next hskip =>
      cases hread
      exact hfinal.suffix_of_punctuation (hends h hitem) rfl hskip
  · next hskip => exact hitems (hfinal.suffix_of_punctuation (hends h hitem) rfl hskip) hread
  · cases hread

/-- The same for a member, which has a name in front of its value. -/
theorem Final.readMembers_glued (hfinal : Final first after) {done : List (String × Node)}
    (hends : ∀ {chars node rest}, opening first after <:+ chars →
      readValue fuel chars = (node, some rest) →
      opening first after <:+ rest ∨ rest = first :: after ∨ rest = [])
    (hmembers : ∀ {done chars node rest}, opening first after <:+ chars →
      readMembers fuel done chars = (node, some rest) → opening first after <:+ rest)
    (h : opening first after <:+ chars)
    (hread : readMembers (fuel + 1) done chars = (node, some rest)) :
    opening first after <:+ rest := by
  rw [readMembers.eq_def] at hread
  dsimp only at hread
  split at hread
  case h_2 => cases hread
  next hquote =>
  replace h := suffix_of_ne (hquote ▸ skipBlanks_glued h) (by decide)
  split at hread
  case h_2 => cases hread
  next hname =>
  replace h := readString_glued h hname
  split at hread
  case h_2 => cases hread
  next hcolon =>
  replace h := hfinal.suffix_of_punctuation (h.imp_right .inl) rfl hcolon
  split at hread
  · cases hread
  next hitem =>
  split at hread
  · next hskip =>
      cases hread
      exact hfinal.suffix_of_punctuation (hends h hitem) rfl hskip
  · next hskip => exact hmembers (hfinal.suffix_of_punctuation (hends h hitem) rfl hskip) hread
  · cases hread

/-- A value that begins before the table or at it. -/
theorem Final.readValue_glued (hfinal : Final first after)
    (hitems : ∀ {done chars node rest}, opening first after <:+ chars →
      readItems fuel done chars = (node, some rest) → opening first after <:+ rest)
    (hmembers : ∀ {done chars node rest}, opening first after <:+ chars →
      readMembers fuel done chars = (node, some rest) → opening first after <:+ rest)
    (h : opening first after <:+ chars) (hread : readValue (fuel + 1) chars = (node, some rest)) :
    opening first after <:+ rest ∨ rest = first :: after ∨
      skipBlanks chars = opening first after ∧ rest = [] := by
  have hskip := skipBlanks_glued h
  cases hchars : skipBlanks chars with
  | nil => exact absurd (List.suffix_nil.mp (hchars ▸ hskip)) (List.cons_ne_nil _ _)
  | cons c more =>
      obtain heq | hmore := List.suffix_cons_iff.mp (hchars ▸ hskip)
      · have hsame : skipBlanks chars = skipBlanks (opening first after) := hchars.trans heq.symm
        rw [readValue_congr hsame] at hread
        exact .inr (.inr ⟨heq.symm, hfinal.ends hread⟩)
      · exact (readValue_glued_of hitems hmembers hmore hchars hread).imp_right .inl

/-- Where values, lists and tables end that begin before a table or at it. -/
theorem Final.read_glued (hfinal : Final first after) (fuel : Nat) :
    (∀ {chars node rest}, opening first after <:+ chars →
      readValue fuel chars = (node, some rest) →
      opening first after <:+ rest ∨ rest = first :: after ∨
        skipBlanks chars = opening first after ∧ rest = []) ∧
    (∀ {done chars node rest}, opening first after <:+ chars →
      readItems fuel done chars = (node, some rest) → opening first after <:+ rest) ∧
    (∀ {done chars node rest}, opening first after <:+ chars →
      readMembers fuel done chars = (node, some rest) → opening first after <:+ rest) := by
  induction fuel with
  | zero => exact ⟨nofun, nofun, nofun⟩
  | succ fuel ih =>
      obtain ⟨hvalue, hitems, hmembers⟩ := ih
      have hends : ∀ {chars node rest}, opening first after <:+ chars →
          readValue fuel chars = (node, some rest) →
          opening first after <:+ rest ∨ rest = first :: after ∨ rest = [] :=
        fun h hread => (hvalue h hread).imp_right (Or.imp_right And.right)
      exact ⟨hfinal.readValue_glued hitems hmembers, hfinal.readItems_glued hends hitems,
        hfinal.readMembers_glued hends hmembers⟩

end Value

/-! ## Texts in front of a table -/

section Text

variable {front : List Char} {before text : String} {after : List Char}

theorem blank_of_skipBlanks_append (h : skipBlanks (front ++ behind) = behind) : Blank front := by
  induction front with
  | nil => nofun
  | cons c front ih =>
      rw [List.cons_append] at h
      cases hc : isBlank c with
      | true =>
          rw [skipBlanks_of_isBlank hc] at h
          exact List.forall_mem_cons.mpr ⟨hc, ih h⟩
      | false =>
          rw [skipBlanks_of_not_isBlank hc] at h
          have hlength := congrArg List.length h
          simp only [List.length_cons, List.length_append] at hlength
          omega

/-- A table that is written by itself is the end of everything. -/
theorem final_of_isPlain (hplain : node.isPlain = true)
    (htext : (compact node).toList = opening first after) (hblank : isBlank first = false)
    (hpunctuation : isPunctuation first = false) : Final first after where
  blank := hblank
  punctuation := hpunctuation
  ends {fuel other rest} hread := by
    have hback := readsBack_of_isPlain hplain (fuel + (compact node).toList.length) []
      (Nat.le_add_left _ _) nofun
    have hmore := readValue_add hread ((compact node).toList.length + 1)
    rw [List.append_nil, htext, Nat.add_assoc] at hback
    rw [htext, hback] at hmore
    exact (Option.some.inj (Prod.mk.inj hmore).2).symm

/-- Only blanks can stand in front of a table, if everything is read and is without a defect. -/
theorem Final.blank_of_parse (hfinal : Final first after) (htext : text.toList = opening first after)
    (hread : parse (before ++ text) = (node, true)) (hwhole : node.isBroken = false) :
    Blank before.toList := by
  have hsuffix : opening first after <:+ (before ++ text).toList :=
    ⟨before.toList, by rw [String.toList_append, htext]⟩
  unfold parse at hread
  dsimp only at hread
  split at hread
  · next rest hvalue =>
      obtain ⟨rfl, hended⟩ := Prod.mk.inj hread
      have hrest : Blank rest := skipBlanks_eq_nil.mp (List.isEmpty_iff.mp hended)
      obtain h | rfl | ⟨hskip, -⟩ := (hfinal.read_glued _).1 hsuffix hvalue
      · exact absurd (hrest '\x7b' (h.subset List.mem_cons_self)) (by decide)
      · exact absurd (hrest first List.mem_cons_self) (by simp [hfinal.blank])
      · rw [String.toList_append, htext] at hskip
        exact blank_of_skipBlanks_append hskip
  · next hvalue =>
      obtain ⟨rfl, -⟩ := Prod.mk.inj hread
      exact absurd (isBroken_of_readValue hvalue) (by simp [hwhole])

/-- Blanks in front of a text do not count. -/
theorem parse_append_compact (hplain : node.isPlain = true) (hbefore : Blank before.toList) :
    parse (before ++ compact node) = (node, true) := by
  have hlength : (compact node).toList.length ≤ (before ++ compact node).toList.length := by
    rw [String.toList_append, List.length_append]
    exact Nat.le_add_left _ _
  have hread := readsBack_of_isPlain hplain _ [] hlength nofun
  rw [List.append_nil, ← readValue_congr (skipBlanks_append hbefore), ← String.toList_append] at hread
  simp only [parse, hread]
  rfl

end Text

end Glued

end Switchboard.Json
