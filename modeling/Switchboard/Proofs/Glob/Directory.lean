import Mathlib.Data.List.Infix
import Switchboard.Glob.Match
import Switchboard.Proofs.Text.Utf8

/-!
# Patterns for whole directories

Matching keeps the set of places that a match may have reached, each as the bytes still unread. All
of them are tails of one path, so a place is known by its length, and a set of places can be read as
a set: `joinPlaces` is a union, `onward` adds everything behind a place.

A pattern such as `**/.git/**` is a name with directories before it and anything below it. It
matches the paths that go through a directory of that name, at any depth.

## Main results

* `mem_joinPlaces`, `mem_onward`, `mem_afterByte` — sets of places.
* `directory_matchesBytes` — what the pattern of a directory matches.
* `parse_directory` — how such a pattern is written.
-/

namespace Switchboard.Glob

open Switchboard.Text.Utf8 (Bytes charBytes encode)

/-! ## Places -/

section Places

variable {path place name : Bytes} {a b places : List Bytes}

/-- All places are tails of one path. -/
def AreTails (path : Bytes) (places : List Bytes) : Prop := ∀ place ∈ places, place <:+ path

/-- Tails of one path are known by their length. -/
theorem eq_of_length_eq {p q : Bytes} (hp : p <:+ path) (hq : q <:+ path)
    (h : p.length = q.length) : p = q :=
  (List.suffix_of_suffix_length_le hp hq (Nat.le_of_eq h)).eq_of_length h

theorem mem_joinPlaces (ha : AreTails path a) (hb : AreTails path b) :
    place ∈ joinPlaces a b ↔ place ∈ a ∨ place ∈ b := by
  simp only [joinPlaces, List.mem_append, List.mem_filter, Bool.not_eq_true', List.any_eq_false,
    beq_iff_eq]
  refine ⟨fun h => h.imp_right And.left, fun h => ?_⟩
  by_cases hmem : place ∈ a
  · exact .inl hmem
  · have hplace := h.resolve_left hmem
    refine .inr ⟨hplace, fun other hother hlength => hmem ?_⟩
    exact eq_of_length_eq (ha other hother) (hb place hplace) hlength ▸ hother

theorem mem_tails : place ∈ onward.tails path ↔ place <:+ path := by
  induction path with
  | nil => simp [onward.tails]
  | cons b rest ih => rw [onward.tails, List.mem_cons, ih, List.suffix_cons_iff]

/-- The earliest of some places. -/
theorem exists_earliest (place : Bytes) (rest : List Bytes) :
    let first := rest.foldl (fun a b => if a.length < b.length then b else a) place
    first ∈ place :: rest ∧ ∀ other ∈ place :: rest, other.length ≤ first.length := by
  induction rest generalizing place with
  | nil => simp
  | cons next rest ih =>
      rw [List.foldl_cons]
      by_cases hlt : place.length < next.length
      · obtain ⟨hmem, hmost⟩ := ih next
        rw [if_pos hlt]
        refine ⟨List.mem_cons_of_mem _ hmem, List.forall_mem_cons.mpr ⟨?_, hmost⟩⟩
        exact Nat.le_trans (Nat.le_of_lt hlt) (hmost next List.mem_cons_self)
      · obtain ⟨hmem, hmost⟩ := ih place
        rw [if_neg hlt]
        obtain ⟨hplace, hrest⟩ := List.forall_mem_cons.mp hmost
        refine ⟨?_, List.forall_mem_cons.mpr ⟨hplace, List.forall_mem_cons.mpr ⟨?_, hrest⟩⟩⟩
        · rcases List.mem_cons.mp hmem with heq | hmem
          · exact List.mem_cons.mpr (.inl heq)
          · exact List.mem_cons_of_mem _ (List.mem_cons_of_mem _ hmem)
        · exact Nat.le_trans (Nat.le_of_not_lt hlt) hplace

theorem mem_onward (h : AreTails path places) :
    place ∈ onward places ↔ ∃ earlier ∈ places, place <:+ earlier := by
  cases places with
  | nil => simp [onward]
  | cons first rest =>
      obtain ⟨hmem, hmost⟩ := exists_earliest first rest
      rw [onward, mem_tails]
      constructor
      · exact fun hplace => ⟨_, hmem, hplace⟩
      · rintro ⟨other, hother, hplace⟩
        exact hplace.trans
          (List.suffix_of_suffix_length_le (h other hother) (h _ hmem) (hmost other hother))

theorem mem_afterByte {p : UInt8 → Bool} :
    place ∈ afterByte p places ↔ ∃ b, p b = true ∧ b :: place ∈ places := by
  rw [afterByte, List.mem_filterMap]
  constructor
  · rintro ⟨_ | ⟨b, rest⟩, hmem, hnext⟩
    · cases hnext
    · obtain ⟨hb, hrest⟩ := Option.ite_none_right_eq_some.mp hnext
      exact ⟨b, hb, Option.some.inj hrest ▸ hmem⟩
  · rintro ⟨b, hb, hmem⟩
    exact ⟨b :: place, hmem, if_pos hb⟩

theorem AreTails.afterByte {p : UInt8 → Bool} (h : AreTails path places) :
    AreTails path (afterByte p places) := by
  intro place hplace
  obtain ⟨b, -, hmem⟩ := mem_afterByte.mp hplace
  exact (List.suffix_cons b place).trans (h _ hmem)

theorem AreTails.onward (h : AreTails path places) : AreTails path (onward places) := by
  intro place hplace
  obtain ⟨other, hother, hsuffix⟩ := (mem_onward h).mp hplace
  exact hsuffix.trans (h other hother)

theorem areTails_singleton (path : Bytes) : AreTails path [path] := by
  intro place hplace
  rw [List.mem_singleton.mp hplace]

/-- The literal bytes of a name have to come next. -/
theorem mem_afterTokens_bytes :
    place ∈ afterTokens places (name.map .byte) ↔ name ++ place ∈ places := by
  induction name generalizing places with
  | nil => rfl
  | cons b name ih =>
      rw [List.map_cons, afterTokens, ih, afterToken, mem_afterByte]
      constructor
      · rintro ⟨b', hb, hmem⟩
        exact (beq_iff_eq.mp hb) ▸ hmem
      · exact fun hmem => ⟨b, beq_self_eq_true b, hmem⟩

theorem AreTails.afterTokens_bytes (h : AreTails path places) :
    AreTails path (afterTokens places (name.map .byte)) := by
  intro place hplace
  exact (List.suffix_append name place).trans (h _ (mem_afterTokens_bytes.mp hplace))

theorem afterTokens_append (places : List Bytes) (tokens more : List Token) :
    afterTokens places (tokens ++ more) = afterTokens (afterTokens places tokens) more := by
  induction tokens generalizing places with
  | nil => rfl
  | cons token tokens ih => rw [List.cons_append, afterTokens, afterTokens, ih]

/-- After leading directories a match is at the start, or right behind a slash. -/
theorem mem_leadingDirs :
    place ∈ afterToken [path] .leadingDirs ↔ place = path ∨ slash :: place <:+ path := by
  have htails := areTails_singleton path
  rw [afterToken, mem_joinPlaces htails htails.onward.afterByte, List.mem_singleton, mem_afterByte]
  refine or_congr Iff.rfl ⟨?_, fun h => ⟨slash, beq_self_eq_true slash, ?_⟩⟩
  · rintro ⟨b, hb, hmem⟩
    rw [mem_onward htails] at hmem
    obtain ⟨other, hother, hsuffix⟩ := hmem
    rwa [beq_iff_eq.mp hb, List.mem_singleton.mp hother] at hsuffix
  · exact (mem_onward htails).mpr ⟨path, List.mem_singleton.mpr rfl, h⟩

/-- Everything below a directory can be matched to its end, if there is a slash. -/
theorem exists_nil_trailingPath (h : AreTails path places) :
    [] ∈ afterToken places .trailingPath ↔ ∃ rest, slash :: rest ∈ places := by
  rw [afterToken, mem_onward h.afterByte]
  constructor
  · rintro ⟨rest, hrest, -⟩
    obtain ⟨b, hb, hmem⟩ := mem_afterByte.mp hrest
    exact ⟨rest, beq_iff_eq.mp hb ▸ hmem⟩
  · rintro ⟨rest, hrest⟩
    exact ⟨rest, mem_afterByte.mpr ⟨slash, beq_self_eq_true slash, hrest⟩, List.nil_suffix⟩

end Places

/-! ## Directories -/

section Directory

variable {name path : Bytes}

/-- The pattern for everything below the directories of a name. -/
def directory (name : Bytes) : Pattern := ⟨.leadingDirs :: (name.map .byte ++ [.trailingPath])⟩

theorem literalBytes?_directory (name : Bytes) :
    literalBytes? (name.map .byte ++ [.trailingPath]) = none := by
  induction name with
  | nil => rfl
  | cons b name ih => rw [List.map_cons, List.cons_append, literalBytes?, ih, Option.map_none]

/-- The pattern is not decided by the name of a file. -/
theorem directory_byName (name : Bytes) : (directory name).byName = false := by
  have hend : endsInExtension (.leadingDirs :: (name.map .byte ++ [.trailingPath])) = false := by
    simp [endsInExtension, endsInExtension.go]
  unfold Pattern.byName directory
  simp only [literalBytes?_directory]
  cases name <;> exact hend

/-- A path goes through a directory: its name stands between the start or a slash and a slash. -/
def GoesThrough (name path : Bytes) : Prop :=
  ∃ front rest, path = front ++ name ++ slash :: rest ∧ (front = [] ∨ ∃ above, front = above ++ [slash])

/-- The pattern of a directory matches the paths that go through one. -/
theorem directory_matchesBytes (name path : Bytes) :
    (directory name).matchesBytes path = true ↔ GoesThrough name path := by
  have hmatches : (directory name).matchesBytes path =
      (afterTokens [path] (directory name).tokens).any (·.isEmpty) := by
    have hbyName := directory_byName name
    unfold Pattern.matchesBytes
    rw [hbyName]
    unfold directory
    cases name <;> simp
  have hstart : AreTails path (afterToken [path] .leadingDirs) := by
    intro place hplace
    obtain rfl | hsuffix := mem_leadingDirs.mp hplace
    · exact List.suffix_refl _
    · exact (List.suffix_cons slash place).trans hsuffix
  have hnil : (afterTokens [path] (directory name).tokens).any (·.isEmpty) = true ↔
      [] ∈ afterTokens [path] (directory name).tokens := by
    simp [List.any_eq_true, List.isEmpty_iff]
  rw [hmatches, hnil, directory, afterTokens, afterTokens_append, afterTokens, afterTokens,
    exists_nil_trailingPath hstart.afterTokens_bytes]
  simp only [mem_afterTokens_bytes, mem_leadingDirs]
  constructor
  · rintro ⟨rest, rfl | ⟨above, rfl⟩⟩
    · exact ⟨[], rest, rfl, .inl rfl⟩
    · exact ⟨above ++ [slash], rest, by simp, .inr ⟨above, rfl⟩⟩
  · rintro ⟨front, rest, rfl, rfl | ⟨above, rfl⟩⟩
    · exact ⟨rest, .inl rfl⟩
    · exact ⟨rest, .inr ⟨above, by simp⟩⟩

end Directory

/-! ## How the pattern is written -/

section Parsing

variable {st : State} {c : Char} {chars rest : List Char} {fuel : Nat}

/-- A character that stands for itself in a pattern. -/
def isPlain (c : Char) : Bool := c ∉ ['?', '*', '[', '{', '}', ',', '\\']

/-- A plain character adds its bytes. -/
theorem parseFrom_plain (hc : isPlain c = true) :
    parseFrom (fuel + 1) st (c :: rest) =
      parseFrom fuel { st.pushChar c with previous := some c } rest := by
  simp only [isPlain, List.mem_cons, List.not_mem_nil, or_false, not_or, decide_eq_true_eq] at hc
  obtain ⟨hany, hstar, hclass, hopen, hclose, hcomma, hescape⟩ := hc
  rw [parseFrom.eq_def]
  split <;> simp_all

/-- So a plain text adds its bytes. -/
theorem parseFrom_plains (hchars : ∀ c ∈ chars, isPlain c = true) :
    parseFrom (chars.length + fuel) st (chars ++ rest) =
      parseFrom fuel { st with
        current := ((chars.flatMap charBytes).map .byte).reverse ++ st.current
        previous := (chars.getLast?).or st.previous } rest := by
  induction chars generalizing st with
  | nil => simp
  | cons c chars ih =>
      obtain ⟨hc, hchars⟩ := List.forall_mem_cons.mp hchars
      have hfuel : (c :: chars).length + fuel = chars.length + fuel + 1 := by
        rw [List.length_cons]
        omega
      have hliteral : literal c = (charBytes c).map .byte := by
        rw [literal, Text.Utf8.encode_eq]
        simp
      rw [hfuel, List.cons_append, parseFrom_plain hc, ih hchars, State.pushChar, hliteral]
      cases chars with
      | nil => simp
      | cons d chars => simp [List.getLast?_cons]

/-- Two stars before a slash, at the start. -/
theorem twoStars_start (rest : List Char) :
    State.twoStars {} ('/' :: rest) =
      ({ current := [.leadingDirs], previous := some '/' }, rest) := rfl

/-- Two stars at the end, after a slash outside all groups. -/
theorem twoStars_end {b : UInt8} {tokens : List Token} :
    State.twoStars { current := .byte b :: tokens, previous := some '/' } [] =
      ({ current := .trailingPath :: tokens, previous := some '/' }, []) := rfl

/-- The pattern of a directory with a plain name is written with two stars on both sides. -/
theorem parse_directory {name : String} (hname : ∀ c ∈ name.toList, isPlain c = true) :
    parse ("**/" ++ name ++ "/**") = .ok (directory (encode name)) := by
  have hchars : ("**/" ++ name ++ "/**").toList =
      '*' :: '*' :: '/' :: ((name.toList ++ ['/']) ++ ['*', '*']) := by
    simp [String.toList_append]
  have hplain : ∀ c ∈ name.toList ++ ['/'], isPlain c = true := by
    simpa [or_imp, forall_and, isPlain] using hname
  have hfuel : ("**/" ++ name ++ "/**").toList.length + 1 =
      (name.toList ++ ['/']).length + 5 + 1 := by
    rw [hchars]
    simp
  have hbytes : (name.toList ++ ['/']).flatMap charBytes = encode name ++ [slash] := by
    rw [List.flatMap_append, Text.Utf8.encode_eq]
    rfl
  have hlast : (name.toList ++ ['/']).getLast? = some '/' := by simp
  have hparsed : parseFrom (("**/" ++ name ++ "/**").toList.length + 1) {}
        ("**/" ++ name ++ "/**").toList =
      .ok { current := .trailingPath :: (((encode name).map .byte).reverse ++ [.leadingDirs])
            previous := some '/' } := by
    rw [hfuel, hchars]
    simp only [parseFrom, twoStars_start]
    rw [parseFrom_plains hplain, hbytes, hlast]
    simp only [List.map_append, List.map_cons, List.map_nil, List.reverse_append,
      List.reverse_singleton, List.nil_append, List.cons_append, Option.some_or, parseFrom,
      twoStars_end]
  simp only [parse, hparsed]
  simp [directory]

end Parsing

end Switchboard.Glob
