import Switchboard.Proofs.Call.Order

/-!
# When there is a plan, and what it is

Planning a call has one answer for every package and every profile. A package that fits the usable
window is sent whole. Otherwise a profile without chunks overflows, a description that leaves no
room is too large, and so is the first fragment in sending order that no chunk can take. In all
other cases there are chunks, and they send every fragment once.

Filling chunks stops at a fragment that is too large and at nothing else, whatever the current
chunk holds by then. So whether it stops is decided by the fragments alone, and the sums it forms
on the way matter only where it does not.

## Main results

* `fillChunks_of_large`, `fillChunks_of_small` — where filling chunks stops, and when it does not.
* `map_snd_sendOrder` — the sending order, as positions.
* `plan_complete` — the answer in every case.
-/

namespace Switchboard.Call

open Switchboard.Model (Profile)
open Switchboard.Package (Fragment cost)

/-! ## Filling chunks -/

/-- Filling chunks stops at the first fragment that is larger than a chunk. -/
theorem fillChunks_of_large {capacity : Nat} {before after : List (Fragment × Nat)} {f : Fragment}
    {i : Nat} (hbefore : ∀ piece ∈ before, piece.1.tokens ≤ capacity)
    (hlarge : capacity < f.tokens) (current : Chunk) :
    fillChunks capacity current (before ++ (f, i) :: after) =
      .error (.fragmentTooLarge f.source f.tokens capacity) := by
  induction before generalizing current with
  | nil => rw [List.nil_append, fillChunks, if_pos hlarge]
  | cons piece before ih =>
      obtain ⟨g, j⟩ := piece
      obtain ⟨hg, hrest⟩ := List.forall_mem_cons.mp hbefore
      rw [List.cons_append, fillChunks, if_neg (Nat.not_lt.mpr hg)]
      split
      · rw [ih hrest]
      · exact ih hrest _

/-- Where no fragment is larger than a chunk, filling chunks comes to its end. -/
theorem fillChunks_of_small {capacity : Nat} {pieces : List (Fragment × Nat)}
    (h : ∀ piece ∈ pieces, piece.1.tokens ≤ capacity) (current : Chunk) :
    ∃ chunks, fillChunks capacity current pieces = .ok chunks := by
  induction pieces generalizing current with
  | nil => exact ⟨_, rfl⟩
  | cons piece pieces ih =>
      obtain ⟨f, i⟩ := piece
      obtain ⟨hf, hrest⟩ := List.forall_mem_cons.mp h
      rw [fillChunks, if_neg (Nat.not_lt.mpr hf)]
      split
      · obtain ⟨chunks, hchunks⟩ := ih hrest (Chunk.push { index := current.index + 1 } f i)
        exact ⟨current :: chunks, by rw [hchunks]⟩
      · exact ih hrest _

/-! ## Positions -/

/-- The positions of the fragments that satisfy `p`, in package order. -/
def positions (fragments : List Fragment) (p : Fragment → Bool) : List Nat :=
  (List.range fragments.length).filter fun i => fragments[i]?.any p

/-- The positions of chosen fragments are those they are placed at. -/
theorem map_snd_filter_zipIdx (fragments : List Fragment) (p : Fragment → Bool) :
    (fragments.zipIdx.filter fun piece => p piece.1).map (·.2) = positions fragments p := by
  rw [positions, List.range_eq_range', ← List.zipIdx_map_snd, List.filter_map]
  congr 1
  refine List.filter_congr fun piece hpiece => ?_
  obtain ⟨f, i⟩ := piece
  have hf : fragments[i]? = some f := List.mem_zipIdx_iff_getElem?.mp hpiece
  show p f = fragments[i]?.any p
  rw [hf]
  rfl

/-- The positions in sending order: those of the overviews, and then the others. -/
def sendPositions (fragments : List Fragment) : List Nat :=
  positions fragments (·.kind = .overview) ++ positions fragments (·.kind ≠ .overview)

theorem map_snd_sendOrder (fragments : List Fragment) :
    (sendOrder fragments).map (·.2) = sendPositions fragments := by
  rw [sendPositions, ← map_snd_filter_zipIdx, ← map_snd_filter_zipIdx, ← List.map_append]
  rfl

/-- Every position is sent once. -/
theorem sendPositions_perm (fragments : List Fragment) :
    (sendPositions fragments).Perm (List.range fragments.length) := by
  have hperm := (sendOrder_perm fragments).map (·.2)
  rwa [map_snd_sendOrder, List.zipIdx_map_snd, ← List.range_eq_range'] at hperm

/-- Filling chunks in sending order stops at the first position of a fragment that is too large. -/
theorem fillChunks_of_find? {fragments : List Fragment} {capacity i : Nat}
    (h : (sendPositions fragments).find? (fun i => fragments[i]?.any (capacity < ·.tokens)) =
      some i) :
    ∃ f, fragments[i]? = some f ∧ fillChunks capacity {} (sendOrder fragments) =
      .error (.fragmentTooLarge f.source f.tokens capacity) := by
  rw [← map_snd_sendOrder, List.find?_map, Option.map_eq_some_iff] at h
  obtain ⟨⟨f, j⟩, hfind, rfl⟩ := h
  obtain ⟨hlarge, before, after, horder, hbefore⟩ := List.find?_eq_some_iff_append.mp hfind
  have hplaced : ∀ piece ∈ before ++ (f, j) :: after, fragments[piece.2]? = some piece.1 :=
    fun piece hpiece => getElem?_of_mem_sendOrder (horder ▸ hpiece)
  have hf : fragments[j]? = some f :=
    hplaced (f, j) (List.mem_append_right _ List.mem_cons_self)
  refine ⟨f, hf, ?_⟩
  rw [horder]
  refine fillChunks_of_large (fun piece hpiece => ?_) ?_ {}
  · have hat := hplaced piece (List.mem_append_left _ hpiece)
    simpa [hat] using hbefore piece hpiece
  · simpa [hf] using hlarge

/-- Where there is none, no fragment is larger. -/
theorem le_of_find?_eq_none {fragments : List Fragment} {capacity : Nat}
    (h : (sendPositions fragments).find? (fun i => fragments[i]?.any (capacity < ·.tokens)) = none) :
    ∀ piece ∈ sendOrder fragments, piece.1.tokens ≤ capacity := by
  rw [← map_snd_sendOrder, List.find?_eq_none] at h
  intro piece hpiece
  have hat := getElem?_of_mem_sendOrder hpiece
  simpa [hat] using h piece.2 (List.mem_map_of_mem hpiece)

/-! ## Plans -/

section Plan

variable {package : Package} {profile : Profile} {tokens : Nat} {margin : Float}
  (hneeded : package.tokensUsed + tokens < Word.size64)
include hneeded

/-- What fits the window is sent whole. -/
theorem plan_of_fits (hfits : package.tokensUsed + tokens ≤ profile.usableWindow margin) :
    Call.plan package profile tokens margin = .ok (.single (package.tokensUsed + tokens)) := by
  unfold Call.plan
  dsimp only
  rw [Word.add_eq hneeded, if_pos hfits]

/-- What does not fit the window of a model that takes no chunks overflows. -/
theorem plan_of_whole (hlarge : profile.usableWindow margin < package.tokensUsed + tokens)
    (hwhole : profile.supportsChunking = false) :
    Call.plan package profile tokens margin =
      .error (.overflow (package.tokensUsed + tokens) (profile.usableWindow margin)) := by
  unfold Call.plan
  dsimp only
  rw [Word.add_eq hneeded, if_neg (Nat.not_le.mpr hlarge), hwhole]
  rfl

variable (hcharged : tokens + headerTokens < Word.size64)
include hcharged

/-- A description that leaves no room for a chunk is too large, and so is one without fragments. -/
theorem plan_of_no_room (hlarge : profile.usableWindow margin < package.tokensUsed + tokens)
    (hchunks : profile.supportsChunking = true)
    (hnone : profile.usableWindow margin - (tokens + headerTokens) = 0 ∨ package.fragments = []) :
    Call.plan package profile tokens margin =
      .error (.descriptionTooLarge tokens (profile.usableWindow margin)) := by
  unfold Call.plan
  dsimp only
  rw [Word.add_eq hneeded, Word.add_eq hcharged, if_neg (Nat.not_le.mpr hlarge), hchunks,
    Bool.not_true, if_neg Bool.false_ne_true, if_pos]
  simpa [List.isEmpty_iff] using hnone

/-- Otherwise the answer is that of filling chunks, unless there is none. -/
theorem plan_of_room (hlarge : profile.usableWindow margin < package.tokensUsed + tokens)
    (hchunks : profile.supportsChunking = true)
    (hroom : 0 < profile.usableWindow margin - (tokens + headerTokens))
    (hne : package.fragments ≠ []) {filled : Except Rejection (List Chunk)}
    (hfill : fillChunks (profile.usableWindow margin - (tokens + headerTokens)) {}
      (sendOrder package.fragments) = filled) (hfilled : filled ≠ .ok []) :
    Call.plan package profile tokens margin =
      filled.map (.chunked · (profile.usableWindow margin - (tokens + headerTokens))) := by
  have hsome : ¬(decide (profile.usableWindow margin - (tokens + headerTokens) = 0) ||
      package.fragments.isEmpty) = true := by
    simp [List.isEmpty_iff, Nat.ne_of_gt hroom, hne]
  unfold Call.plan
  dsimp only
  rw [Word.add_eq hneeded, Word.add_eq hcharged, if_neg (Nat.not_le.mpr hlarge), hchunks,
    Bool.not_true, if_neg Bool.false_ne_true, if_neg hsome, hfill]
  cases filled with
  | error rejection => rfl
  | ok chunks =>
      cases chunks with
      | nil => exact absurd rfl hfilled
      | cons chunk chunks => rfl

end Plan

/-- Chunks filled from fragments there are, none of which is too large: there is a cut of the
sending order into groups, and at least one of them. -/
theorem fillChunks_sendOrder {fragments : List Fragment} {capacity : Nat}
    (hsum : cost fragments < Word.size64) (hne : fragments ≠ []) {chunks : List Chunk}
    (h : fillChunks capacity {} (sendOrder fragments) = .ok chunks) :
    chunks ≠ [] ∧ ∃ groups, Cut capacity (sendOrder fragments) groups ∧
      chunks = chunksFrom 0 groups := by
  have hstart : Chunk.ofGroup 0 [] = {} := rfl
  rw [← hstart] at h
  obtain ⟨groups, hcut, rfl⟩ := fillChunks_cut (Nat.zero_le _)
    (by rw [weight_nil, Nat.zero_add, weight_sendOrder]; exact hsum) h
  rw [List.nil_append] at hcut
  refine ⟨fun hnil => hne ?_, groups, hcut, rfl⟩
  have hlength := length_chunksFrom 0 groups
  rw [hnil, List.length_nil, eq_comm, List.length_eq_zero_iff] at hlength
  have hflatten := congrArg List.length hcut.flatten
  rw [hlength, List.flatten_nil, length_sendOrder] at hflatten
  exact List.length_eq_zero_iff.mp hflatten.symm

/-- What a chunk of a cut of the sending order is. -/
theorem Cut.chunk {package : Package} {capacity : Nat} {groups : List (List (Fragment × Nat))}
    (hcut : Cut capacity (sendOrder package.fragments) groups)
    {k : Nat} {chunk : Chunk} (h : (chunksFrom 0 groups)[k]? = some chunk) :
    chunk.index = k ∧ chunk.fragments ≠ [] ∧
      chunk.tokens = cost (chunk.fragments.filterMap (package.fragments[·]?)) ∧
      chunk.tokens ≤ capacity := by
  rw [getElem?_chunksFrom, Nat.zero_add, Option.map_eq_some_iff] at h
  obtain ⟨group, hgroup, rfl⟩ := h
  have hmem : group ∈ groups := List.mem_of_getElem? hgroup
  refine ⟨rfl, fun hnil => ?_, ?_, hcut.fits group hmem⟩
  · exact hcut.nonempty group hmem (List.map_eq_nil_iff.mp hnil)
  · rw [fragments_ofGroup hcut hmem]
    rfl

/-- **There is one answer in every case.** A package is sent whole exactly when it fits the usable
window with the description. Otherwise a model that takes no chunks overflows, a description that
leaves no room for fragments, or a package without any, is refused, and so is the first fragment in
sending order that is larger than a chunk. In the other cases there are chunks: counted from zero,
none of them empty, each with the tokens of its fragments, which fit the window with the description
and a header, and all positions are sent once, those of the overviews before the others. The sums
are words. -/
theorem plan_complete (package : Package) (profile : Profile) (tokens : Nat) (margin : Float)
    (hneeded : package.tokensUsed + tokens < Word.size64)
    (hcharged : tokens + headerTokens < Word.size64)
    (hsum : cost package.fragments < Word.size64) :
    let usable := profile.usableWindow margin
    let needed := package.tokensUsed + tokens
    let capacity := usable - (tokens + headerTokens)
    let order := positions package.fragments (·.kind = .overview) ++
      positions package.fragments (·.kind ≠ .overview)
    let firstLarge := order.find? fun i => package.fragments[i]?.any (capacity < ·.tokens)
    let answer := Call.plan package profile tokens margin
    (∀ p, answer = .ok (.single p) ↔ p = needed ∧ needed ≤ usable) ∧
    (usable < needed → profile.supportsChunking = false →
      answer = .error (.overflow needed usable)) ∧
    (usable < needed → profile.supportsChunking = true →
      (capacity = 0 ∨ package.fragments = [] →
        answer = .error (.descriptionTooLarge tokens usable)) ∧
      (0 < capacity → package.fragments ≠ [] →
        fillChunks capacity {} (sendOrder package.fragments) ≠ .ok [] ∧
        (∀ i, firstLarge = some i → ∃ f, package.fragments[i]? = some f ∧
          answer = .error (.fragmentTooLarge f.source f.tokens capacity)) ∧
        (firstLarge = none → ∃ chunks : List Chunk, answer = .ok (.chunked chunks capacity) ∧
          (∀ (k : Nat) (chunk : Chunk), chunks[k]? = some chunk →
            chunk.index = k ∧ chunk.fragments ≠ [] ∧
            chunk.tokens = cost (chunk.fragments.filterMap (package.fragments[·]?)) ∧
            chunk.tokens + tokens + headerTokens ≤ usable) ∧
          chunks.flatMap (·.fragments) = order ∧
          order.Perm (List.range package.fragments.length)))) := by
  intro usable needed capacity order firstLarge answer
  refine ⟨fun p => ⟨fun h => ?_, ?_⟩, plan_of_whole hneeded, fun hlarge hchunks => ?_⟩
  · rcases plan_cases h with ⟨hp, hfits⟩ | ⟨chunks, room, hp, -⟩
    · rw [Word.add_eq hneeded] at hp hfits
      injection hp with hp
      exact ⟨hp, hfits⟩
    · cases hp
  · rintro ⟨rfl, hfits⟩
    exact plan_of_fits hneeded hfits
  refine ⟨plan_of_no_room hneeded hcharged hlarge hchunks, fun hroom hne => ?_⟩
  have hanswer {filled : Except Rejection (List Chunk)}
      (hfill : fillChunks capacity {} (sendOrder package.fragments) = filled)
      (hfilled : filled ≠ .ok []) : answer = filled.map (.chunked · capacity) :=
    plan_of_room hneeded hcharged hlarge hchunks hroom hne hfill hfilled
  refine ⟨fun hempty => (fillChunks_sendOrder hsum hne hempty).1 rfl, fun i hfirst => ?_,
    fun hfirst => ?_⟩
  · obtain ⟨f, hf, hfill⟩ := fillChunks_of_find? hfirst
    exact ⟨f, hf, hanswer hfill nofun⟩
  · obtain ⟨chunks, hfill⟩ := fillChunks_of_small (le_of_find?_eq_none hfirst) {}
    obtain ⟨hnonempty, groups, hcut, rfl⟩ := fillChunks_sendOrder hsum hne hfill
    refine ⟨_, hanswer hfill fun hnil => hnonempty (Except.ok.inj hnil), fun k chunk hk => ?_, ?_,
      sendPositions_perm package.fragments⟩
    · obtain ⟨hindex, hfragments, htokens, hfits⟩ := hcut.chunk hk
      refine ⟨hindex, hfragments, htokens, ?_⟩
      have hcapacity : capacity = usable - (tokens + headerTokens) := rfl
      omega
    · rw [flatMap_fragments_chunksFrom, hcut.flatten, map_snd_sendOrder]
      rfl

/-- A package whose overview stands second, with a fragment that costs nothing. -/
def crampedPackage : Package where
  fragments := [
    { source := "a.rs", tokens := 6 }, { source := "<overview>", kind := .overview, tokens := 3 },
    { source := "b.rs" }, { source := "c.rs", tokens := 9 }]
  tokensUsed := 18

/-- A model with 19 usable tokens, 9 of which are left for the fragments of a chunk. -/
def crampedModel : Profile := { name := "cramped", maxContextTokens := 22, supportsChunking := true }

/-- The package is sent in chunks, the overview first, and both of them are full. -/
theorem crampedPackage_plan_complete :
    ∃ chunks : List Chunk,
      Call.plan crampedPackage crampedModel 2 standardMargin = .ok (.chunked chunks 9) ∧
      chunks.flatMap (·.fragments) = [1, 0, 2, 3] ∧
      ∀ (k : Nat) (chunk : Chunk), chunks[k]? = some chunk → chunk.tokens + 2 + 8 ≤ 19 := by
  have husable : crampedModel.usableWindow standardMargin = 19 := by decide +kernel
  obtain ⟨-, -, hchunked⟩ := plan_complete crampedPackage crampedModel 2 standardMargin
    (by decide) (by decide) (by decide)
  rw [husable] at hchunked
  obtain ⟨-, hroom⟩ := hchunked (by decide) rfl
  obtain ⟨-, -, hsent⟩ := hroom (by decide) (List.cons_ne_nil _ _)
  obtain ⟨chunks, hplan, hchunk, horder, -⟩ := hsent (by decide)
  exact ⟨chunks, hplan, horder, fun k chunk hk => (hchunk k chunk hk).2.2.2⟩

end Switchboard.Call
