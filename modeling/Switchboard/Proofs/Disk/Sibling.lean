import Switchboard.Proofs.Disk.Place

/-!
# Files next to each other

A text that is put at the end of a path changes the last part of the path and nothing else. So the
longer path leads to another place in the same directory, and where it can be followed, the path
itself can be followed too.

## Main results

* `placeFrom_append_ne` — the two places differ.
* `resolve_of_append` — if one path can be followed, so can the other.
-/

namespace Switchboard

/-! ## Parts of paths -/

/-- A text without separators at the end belongs to the last piece. -/
theorem Text.splitChars_append {sep : Char → Bool} {tail : List Char}
    (htail : ∀ c ∈ tail, sep c = false) (chars : List Char) :
    ∃ pieces last, splitChars sep chars = pieces ++ [last] ∧
      splitChars sep (chars ++ tail) = pieces ++ [last ++ tail] := by
  induction chars with
  | nil =>
      refine ⟨[], [], rfl, ?_⟩
      induction tail with
      | nil => rfl
      | cons c tail ih =>
          have hrest := ih fun c hc => htail c (List.mem_cons_of_mem _ hc)
          simp only [List.nil_append] at hrest ⊢
          simp [splitChars, htail c List.mem_cons_self, hrest]
  | cons c chars ih =>
      obtain ⟨pieces, last, hchars, happend⟩ := ih
      by_cases hc : sep c = true
      · exact ⟨[] :: pieces, last, by simp [splitChars, hc, hchars],
          by simp [splitChars, hc, happend]⟩
      · cases pieces with
        | nil => exact ⟨[], c :: last, by simp [splitChars, hc, hchars],
            by simp [splitChars, hc, happend]⟩
        | cons piece pieces => exact ⟨(c :: piece) :: pieces, last, by simp [splitChars, hc, hchars],
            by simp [splitChars, hc, happend]⟩

namespace Path

variable {suffix : String}

/-- A text at the end of a path is at the end of its last part, also where that part is empty. -/
theorem steps_append (hslash : '/' ∉ suffix.toList) (hne : suffix ≠ "") (path : String) :
    ∃ front last, steps path = front ++ [last].filter (!·.isEmpty) ∧
      steps (path ++ suffix) = front ++ [last ++ suffix] := by
  have hplain : ∀ c ∈ suffix.toList, decide (c = '/') = false := by
    rintro c hc
    exact decide_eq_false fun h => hslash (h ▸ hc)
  obtain ⟨pieces, last, hpath, happend⟩ := Text.splitChars_append hplain path.toList
  refine ⟨(pieces.map String.ofList).filter (!·.isEmpty), String.ofList last, ?_, ?_⟩
  · rw [steps, Text.splitAt, hpath, List.map_append, List.filter_append]
    rfl
  · have hlast : String.ofList (last ++ suffix.toList) = String.ofList last ++ suffix := by
      rw [String.ofList_append, String.ofList_toList]
    have hfull : (String.ofList last ++ suffix).isEmpty = false := by
      simp [hne]
    rw [steps, Text.splitAt, String.toList_append, happend, List.map_append, List.filter_append,
      List.map_singleton, hlast, List.filter_cons, hfull]
    rfl

theorem isAbsolute_append (hslash : '/' ∉ suffix.toList) (path : String) :
    isAbsolute (path ++ suffix) = isAbsolute path := by
  rw [isAbsolute, isAbsolute, Text.startsWith, Text.startsWith, String.toList_append]
  cases path.toList with
  | cons c rest =>
      show (if '/' = c then some (rest ++ suffix.toList) else none).isSome =
        (if '/' = c then some rest else none).isSome
      split <;> rfl
  | nil =>
      cases hsuffix : suffix.toList with
      | nil => rfl
      | cons c rest =>
          have hc : '/' ≠ c := fun h => hslash (hsuffix ▸ h ▸ List.mem_cons_self)
          simp [Text.dropLead?, hc]

end Path

namespace Disk

variable {disk : Disk} {start here : Place} {path suffix : String}

section Suffix

variable (hslash : '/' ∉ suffix.toList) (hlong : 2 < suffix.length)

include hlong

theorem ne_empty_of_long : suffix ≠ "" := by
  rintro rfl
  exact absurd hlong (by decide)

/-- A part that ends in the text is a name. -/
theorem append_ne_dots (last : String) : last ++ suffix ≠ "." ∧ last ++ suffix ≠ ".." := by
  have hlength : 2 < (last ++ suffix).length := by
    rw [String.length_append]
    omega
  exact ⟨fun h => absurd (h ▸ hlength) (by decide), fun h => absurd (h ▸ hlength) (by decide)⟩

theorem enter_append (above : Place) (last : String) :
    enter above (last ++ suffix) = above ++ [last ++ suffix] := by
  obtain ⟨hdot, hdots⟩ := append_ne_dots hlong last
  rw [enter, if_neg hdot, if_neg hdots]

include hslash

/-- Where a path and the longer one lead: from the same place on, one more part of the longer path
is followed, and perhaps one of the other. -/
theorem placeFrom_append (current : Place) (path : String) :
    ∃ above last, placeFrom current (path ++ suffix) = above ++ [last ++ suffix] ∧
      (placeFrom current path = above ∨ placeFrom current path = enter above last) := by
  obtain ⟨front, last, hpath, happend⟩ := Path.steps_append hslash (ne_empty_of_long hlong) path
  refine ⟨front.foldl enter (if Path.isAbsolute path then [] else current), last, ?_, ?_⟩
  · rw [placeFrom, Path.isAbsolute_append hslash, happend, List.foldl_append]
    exact enter_append hlong _ last
  · rw [placeFrom, hpath, List.foldl_append]
    cases hempty : last.isEmpty with
    | true => exact .inl (by simp [hempty])
    | false => exact .inr (by simp [hempty])

/-- The two places differ. -/
theorem placeFrom_append_ne (current : Place) (path : String) :
    placeFrom current (path ++ suffix) ≠ placeFrom current path := by
  obtain ⟨above, last, happend, hpath⟩ := placeFrom_append hslash hlong current path
  rw [happend]
  intro h
  have hlength := congrArg List.length h
  rw [List.length_append, List.length_singleton] at hlength
  obtain hpath | hpath := hpath
  · rw [hpath] at hlength
    omega
  rw [hpath, enter] at h hlength
  split at hlength
  · omega
  split at hlength
  · rw [List.length_dropLast] at hlength
    omega
  next hdot hdots =>
    rw [if_neg hdot, if_neg hdots] at h
    have hlast : last ++ suffix = last := by simpa using h
    have hsame := congrArg String.length hlast
    rw [String.length_append] at hsame
    omega

end Suffix

theorem follow_append {front parts : List String} :
    disk.follow start (front ++ parts) = .ok here ↔
      ∃ above, disk.follow start front = .ok above ∧ disk.follow above parts = .ok here := by
  induction front generalizing start with
  | nil =>
      constructor
      · exact fun h => ⟨start, rfl, h⟩
      · rintro ⟨_, ⟨⟩, h⟩
        exact h
  | cons part front ih =>
      rw [List.cons_append, follow_cons_eq_ok, ih]
      constructor
      · rintro ⟨hdirectory, hpart, above, hfront, hparts⟩
        exact ⟨above, follow_cons_eq_ok.mpr ⟨hdirectory, hpart, hfront⟩, hparts⟩
      · rintro ⟨above, hfront, hparts⟩
        obtain ⟨hdirectory, hpart, hrest⟩ := follow_cons_eq_ok.mp hfront
        exact ⟨hdirectory, hpart, above, hrest, hparts⟩

/-- A path whose parts can be followed leads somewhere, unless it asks for a directory where a file
is. -/
theorem resolve_of_follow (hempty : path.isEmpty = false)
    (hnul : path.toList.contains '\x00' = false) (hsize : path.utf8ByteSize ≤ maxPathBytes)
    (hfollow : disk.follow (if Path.isAbsolute path then [] else disk.current) (Path.steps path) =
      .ok here) :
    disk.resolve path = .ok here ∨ disk.resolve path = .error notDirectory := by
  rw [resolve, if_neg (by simp [hempty]), if_neg (by simp only [hnul]; decide),
    if_neg (Nat.not_lt.mpr hsize), hfollow]
  by_cases hfile : (Text.endsWith "/" path && (disk.file? here).isSome) = true
  · exact .inr (if_pos hfile)
  · exact .inl (if_neg hfile)

/-- If the longer path can be followed, nothing on the way of the path is missing. -/
theorem resolve_of_append (hslash : '/' ∉ suffix.toList) (hlong : 2 < suffix.length)
    (h : disk.resolve (path ++ suffix) = .ok here) (hempty : path.isEmpty = false) :
    ∃ place, disk.resolve path = .ok place ∨ disk.resolve path = .error notDirectory := by
  obtain ⟨⟨-, hnul, hsize⟩, hfollow, -⟩ := resolve_eq_ok.mp h
  obtain ⟨front, last, hsteps, happend⟩ := Path.steps_append hslash (ne_empty_of_long hlong) path
  rw [Path.isAbsolute_append hslash, happend, follow_append] at hfollow
  obtain ⟨above, hfront, hlast⟩ := hfollow
  obtain ⟨hdirectory, hname, -⟩ := follow_cons_eq_ok.mp hlast
  have hpart : last.utf8ByteSize ≤ maxPartBytes := by
    obtain ⟨hdot, hdots⟩ := append_ne_dots hlong last
    have hfull := (hname.resolve_left hdot).resolve_left hdots
    rw [String.utf8ByteSize_append] at hfull
    omega
  obtain ⟨place, hplace⟩ : ∃ place,
      disk.follow (if Path.isAbsolute path then [] else disk.current) (Path.steps path) =
        .ok place := by
    rw [hsteps]
    cases hlast : last.isEmpty with
    | true => exact ⟨above, by simpa [hlast] using hfront⟩
    | false =>
        refine ⟨enter above last, follow_append.mpr ⟨above, hfront, ?_⟩⟩
        simp only [List.filter_cons, hlast, Bool.not_false, if_true, List.filter_nil]
        exact follow_cons_eq_ok.mpr ⟨hdirectory, .inr (.inr hpart), rfl⟩
  have hnul' : path.toList.contains '\x00' = false := by
    rw [Bool.eq_false_iff, ne_eq, List.contains_iff_mem] at hnul ⊢
    rw [String.toList_append, List.mem_append, not_or] at hnul
    exact hnul.1
  have hsize' : path.utf8ByteSize ≤ maxPathBytes := by
    rw [String.utf8ByteSize_append] at hsize
    omega
  exact ⟨place, resolve_of_follow hempty hnul' hsize' hplace⟩

end Disk

end Switchboard
