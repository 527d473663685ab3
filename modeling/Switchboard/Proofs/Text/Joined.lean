import Switchboard.Proofs.Text.Pieces

/-!
# Texts that are joined by a mark

Parts that do not hold the mark between them can be told from the text they are joined to: wherever
the text is cut at a mark, the parts are cut there too. The same holds of characters and of bytes.

## Main results

* `append_cons_eq_intercalate` — where a joined text can be cut.
* `intercalate_inj` — a joined text tells its parts.
* `mem_dropLast_iff` — the parts before the last one.
* `splitMark_intercalate` — cutting at the marks undoes joining.
-/

namespace Switchboard.Text

/-! ## One element between the parts -/

section Joined

variable {α : Type} {mark : α} {front rest part : List α} {parts before after : List (List α)}

theorem intercalate_append (hbefore : before ≠ []) (hafter : after ≠ []) :
    [mark].intercalate (before ++ after) =
      [mark].intercalate before ++ mark :: [mark].intercalate after := by
  induction before with
  | nil => exact absurd rfl hbefore
  | cons first before ih =>
      cases before with
      | nil => rw [List.singleton_append, List.intercalate_cons_of_ne_nil hafter,
          List.intercalate_singleton, List.append_assoc, List.singleton_append]
      | cons second before =>
          have hmore : second :: before ++ after ≠ [] := by simp
          rw [List.cons_append, List.intercalate_cons_of_ne_nil hmore, ih (by simp),
            List.intercalate_cons_cons]
          simp only [List.append_assoc]

/-- An element of a joined text is the mark or belongs to a part. -/
theorem mem_intercalate {sep : List α} {a : α} (h : a ∈ sep.intercalate parts) :
    a ∈ sep ∨ ∃ part ∈ parts, a ∈ part := by
  induction parts with
  | nil => cases h
  | cons part parts ih =>
      cases parts with
      | nil =>
          rw [List.intercalate_singleton] at h
          exact .inr ⟨part, List.mem_cons_self, h⟩
      | cons next parts =>
          rw [List.intercalate_cons_cons, List.mem_append, List.mem_append] at h
          obtain (hpart | hsep) | hrest := h
          · exact .inr ⟨part, List.mem_cons_self, hpart⟩
          · exact .inl hsep
          · refine (ih hrest).imp_right ?_
            rintro ⟨later, hlater, ha⟩
            exact ⟨later, List.mem_cons_of_mem _ hlater, ha⟩

variable [DecidableEq α] (hparts : ∀ part ∈ parts, mark ∉ part) (hne : parts ≠ [])
include hparts hne

/-- A joined text tells its parts. -/
theorem intercalate_inj {others : List (List α)} (hothers : ∀ part ∈ others, mark ∉ part)
    (hne' : others ≠ []) :
    [mark].intercalate parts = [mark].intercalate others ↔ parts = others := by
  refine ⟨fun h => ?_, congrArg _⟩
  rw [← List.splitOn_intercalate mark hparts hne, h, List.splitOn_intercalate mark hothers hne']

/-- A joined text without a mark has one part. -/
theorem intercalate_eq_part (hpart : mark ∉ part) :
    [mark].intercalate parts = part ↔ parts = [part] := by
  have hsingle : [mark].intercalate [part] = part := List.intercalate_singleton
  rw [← intercalate_inj hparts hne (by simpa using hpart) (List.cons_ne_nil _ _), hsingle]

/-- Where a joined text is cut at a mark, its parts are cut too. -/
theorem append_cons_eq_intercalate :
    front ++ mark :: rest = [mark].intercalate parts ↔
      ∃ before after, parts = before ++ after ∧ before ≠ [] ∧ after ≠ [] ∧
        front = [mark].intercalate before ∧ rest = [mark].intercalate after := by
  constructor
  · intro h
    refine ⟨front.splitOn mark, rest.splitOn mark, ?_, List.splitOn_ne_nil _ _,
      List.splitOn_ne_nil _ _, (List.intercalate_splitOn mark).symm,
      (List.intercalate_splitOn mark).symm⟩
    rw [← List.splitOn_append_cons_self, h, List.splitOn_intercalate mark hparts hne]
  · rintro ⟨before, after, rfl, hbefore, hafter, rfl, rfl⟩
    exact (intercalate_append hbefore hafter).symm

/-- A joined text that starts with a part and a mark has this part, and others after it. -/
private theorem mem_dropLast_of_start (hpart : mark ∉ part)
    (h : [mark].intercalate parts = part ++ mark :: rest) : part ∈ parts.dropLast := by
  obtain ⟨before, after, rfl, hbefore, hafter, hfirst, -⟩ :=
    (append_cons_eq_intercalate hparts hne).mp h.symm
  have hsingle : before = [part] :=
    (intercalate_eq_part (fun p hp => hparts p (List.mem_append_left _ hp)) hbefore hpart).mp
      hfirst.symm
  rw [List.dropLast_append_of_ne_nil hafter, hsingle]
  exact List.mem_append_left _ (List.mem_singleton.mpr rfl)

/-- The parts before the last one are what stands between the start or a mark and a mark. -/
theorem mem_dropLast_iff (hpart : mark ∉ part) :
    part ∈ parts.dropLast ↔ ∃ front rest,
      [mark].intercalate parts = front ++ part ++ mark :: rest ∧
        (front = [] ∨ ∃ above, front = above ++ [mark]) := by
  constructor
  · intro h
    obtain ⟨before, after, hsplit⟩ := List.append_of_mem h
    obtain ⟨last, hlast⟩ : ∃ last, parts = before ++ part :: (after ++ [last]) := by
      refine ⟨parts.getLast hne, ?_⟩
      rw [← List.cons_append, ← List.append_assoc, ← hsplit, List.dropLast_concat_getLast]
    have htail : [mark].intercalate (part :: (after ++ [last])) =
        part ++ mark :: [mark].intercalate (after ++ [last]) := by
      rw [List.intercalate_cons_of_ne_nil (by simp), List.append_assoc, List.singleton_append]
    by_cases hbefore : before = []
    · refine ⟨[], [mark].intercalate (after ++ [last]), ?_, .inl rfl⟩
      rw [hlast, hbefore, List.nil_append, htail, List.nil_append]
    · refine ⟨[mark].intercalate before ++ [mark], [mark].intercalate (after ++ [last]), ?_,
        .inr ⟨_, rfl⟩⟩
      rw [hlast, intercalate_append hbefore (List.cons_ne_nil _ _), htail]
      simp only [List.append_assoc, List.cons_append, List.nil_append]
  · rintro ⟨front, rest, h, rfl | ⟨above, rfl⟩⟩
    · exact mem_dropLast_of_start hparts hne hpart h
    · have hcut : above ++ mark :: (part ++ mark :: rest) = [mark].intercalate parts := by
        rw [h]
        simp only [List.append_assoc, List.cons_append, List.nil_append]
      obtain ⟨before, after, rfl, -, hafter, -, hlater⟩ :=
        (append_cons_eq_intercalate hparts hne).mp hcut
      rw [List.dropLast_append_of_ne_nil hafter]
      exact List.mem_append_right _ (mem_dropLast_of_start
        (fun p hp => hparts p (List.mem_append_right _ hp)) hafter hpart hlater.symm)

end Joined

/-! ## A mark of several characters -/

section Mark

variable {m : Char} {lead mark chars piece rest : List Char} {pieces : List (List Char)}

theorem dropLead?_append (lead chars : List Char) : dropLead? lead (lead ++ chars) = some chars := by
  induction lead with
  | nil => rfl
  | cons l lead ih => rw [List.cons_append, dropLead?, if_pos rfl, ih]

theorem dropLead?_eq_none (h : ¬lead <+: chars) : dropLead? lead chars = none := by
  rw [← isSome_dropLead?_iff] at h
  exact Option.not_isSome_iff_eq_none.mp h

/-- A piece without the first character of a mark ends at the mark. -/
theorem cutAt?_append (hpiece : m ∉ piece) :
    cutAt? (m :: mark) (piece ++ (m :: mark ++ rest)) = some (piece, rest) := by
  induction piece with
  | nil => rw [List.nil_append, List.cons_append, cutAt?, ← List.cons_append, dropLead?_append]
  | cons c piece ih =>
      rw [List.mem_cons, not_or] at hpiece
      obtain ⟨hc, hpiece⟩ := hpiece
      have hlead : dropLead? (m :: mark) (c :: (piece ++ (m :: mark ++ rest))) = none :=
        dropLead?_eq_none fun hprefix => hc (List.cons_prefix_cons.mp hprefix).1
      rw [List.cons_append, cutAt?, hlead, ih hpiece]
      rfl

/-- There is no mark in a piece without its first character. -/
theorem cutAt?_eq_none (hpiece : m ∉ piece) : cutAt? (m :: mark) piece = none := by
  induction piece with
  | nil => rfl
  | cons c piece ih =>
      rw [List.mem_cons, not_or] at hpiece
      obtain ⟨hc, hpiece⟩ := hpiece
      have hlead : dropLead? (m :: mark) (c :: piece) = none :=
        dropLead?_eq_none fun hprefix => hc (List.cons_prefix_cons.mp hprefix).1
      rw [cutAt?, hlead, ih hpiece]
      rfl

theorem splitMark_go_intercalate (hpieces : ∀ piece ∈ pieces, m ∉ piece) (hne : pieces ≠ [])
    {fuel : Nat} (hfuel : pieces.length ≤ fuel + 1) :
    splitMark.go (m :: mark) fuel ((m :: mark).intercalate pieces) = pieces := by
  induction pieces generalizing fuel with
  | nil => exact absurd rfl hne
  | cons piece pieces ih =>
      obtain ⟨hpiece, hrest⟩ := List.forall_mem_cons.mp hpieces
      cases pieces with
      | nil =>
          rw [List.intercalate_singleton]
          cases fuel with
          | zero => rfl
          | succ fuel => rw [splitMark.go, cutAt?_eq_none hpiece]
      | cons next pieces =>
          cases fuel with
          | zero => simp at hfuel
          | succ fuel =>
              rw [List.intercalate_cons_cons, List.append_assoc, splitMark.go,
                cutAt?_append hpiece]
              exact congrArg (piece :: ·) (ih hrest (by simp) (by simpa using hfuel))

theorem length_le_length_intercalate (m : Char) (mark : List Char) (pieces : List (List Char)) :
    pieces.length ≤ ((m :: mark).intercalate pieces).length + 1 := by
  induction pieces with
  | nil => exact Nat.zero_le _
  | cons piece pieces ih =>
      cases pieces with
      | nil => simp
      | cons next pieces =>
          rw [List.intercalate_cons_cons]
          simp only [List.length_append, List.length_cons] at ih ⊢
          omega

/-- Cutting at the marks undoes joining. -/
theorem splitMark_intercalate (hpieces : ∀ piece ∈ pieces, m ∉ piece) (hne : pieces ≠ []) :
    splitMark (m :: mark) ((m :: mark).intercalate pieces) = pieces :=
  splitMark_go_intercalate hpieces hne (length_le_length_intercalate m mark pieces)

/-- What a text without the lead at its start loses is nothing. -/
theorem dropLeads_of_not_prefix (h : ¬lead <+: chars) : dropLeads lead chars = chars := by
  rw [dropLeads]
  cases chars.length with
  | zero => rfl
  | succ fuel => rw [dropLeads.go, dropLead?_eq_none h, ite_self]

/-- One lead is dropped when there is no other one behind it. -/
theorem dropLeads_append (hlead : lead ≠ []) (h : ¬lead <+: chars) :
    dropLeads lead (lead ++ chars) = chars := by
  have hempty : lead.isEmpty = false := by simpa using hlead
  have hgo : ∀ fuel, dropLeads.go lead fuel chars = chars := by
    intro fuel
    cases fuel with
    | zero => rfl
    | succ fuel => rw [dropLeads.go, dropLead?_eq_none h, ite_self]
  obtain ⟨fuel, hfuel⟩ : ∃ fuel, (lead ++ chars).length = fuel + 1 :=
    Nat.exists_eq_succ_of_ne_zero (by simp [hlead])
  rw [dropLeads, hfuel, dropLeads.go, hempty, dropLead?_append]
  exact hgo fuel

end Mark

end Switchboard.Text
