import Switchboard.Proofs.Call.Completeness

/-!
# Chunks are the fewest possible

A chunk is closed only when the next fragment has no room in it, and no other cut of the sending
order can do better than that: wherever another cut has got to, filling chunks has opened no more
of them, and where it has opened as many, its current chunk is the emptier one. So in the end it
has opened no more chunks than any cut has groups.

The tokens that a chunk is taken to hold are summed up in a word. A sum that wraps around comes out
smaller and only puts off closing the chunk, so the comparison needs no bound on the sums; that the
chunks are a cut themselves does.

## Main results

* `Cut.goesOn` — a cut goes over the sending order piece by piece.
* `GoesOn.length_chunks_le` — filling chunks stays ahead of a cut that is on its way.
* `chunks_fewest` — no cut has fewer groups than a plan has chunks.
-/

namespace Switchboard.Call

open Switchboard.Model (Profile)
open Switchboard.Package (Fragment cost)

/-- How a cut goes on when `load` tokens are in the group at hand: it goes over the pieces to come,
each of which joins this group or opens the next one, and opens some number of groups. -/
inductive GoesOn (capacity : Nat) : Nat → List (Fragment × Nat) → Nat → Prop where
  | done {load : Nat} : GoesOn capacity load [] 0
  | joins {load opened i : Nat} {f : Fragment} {rest : List (Fragment × Nat)}
      (hfits : load + f.tokens ≤ capacity) (hrest : GoesOn capacity (load + f.tokens) rest opened) :
      GoesOn capacity load ((f, i) :: rest) opened
  | opens {load opened i : Nat} {f : Fragment} {rest : List (Fragment × Nat)}
      (hfits : f.tokens ≤ capacity) (hrest : GoesOn capacity f.tokens rest opened) :
      GoesOn capacity load ((f, i) :: rest) (opened + 1)

/-- Pieces that fit behind what is in the group at hand may all join it. -/
theorem GoesOn.joinAll {capacity load opened : Nat} {group rest : List (Fragment × Nat)}
    (hfits : load + weight group ≤ capacity)
    (hrest : GoesOn capacity (load + weight group) rest opened) :
    GoesOn capacity load (group ++ rest) opened := by
  induction group generalizing load with
  | nil => exact hrest
  | cons piece group ih =>
      obtain ⟨f, i⟩ := piece
      rw [weight_cons, ← Nat.add_assoc] at hfits hrest
      exact .joins (Nat.le_trans (Nat.le_add_right _ _) hfits) (ih hfits hrest)

/-- Whatever is in the group at hand, a cut can go on by opening each of its groups. -/
theorem Cut.goesOn {capacity : Nat} {pieces : List (Fragment × Nat)}
    {groups : List (List (Fragment × Nat))} (hcut : Cut capacity pieces groups) (load : Nat) :
    GoesOn capacity load pieces groups.length := by
  obtain ⟨rfl, hne, hfits⟩ := hcut
  induction groups generalizing load with
  | nil => exact .done
  | cons group groups ih =>
      obtain ⟨hgroup, hne'⟩ := List.forall_mem_cons.mp hne
      obtain ⟨hweight, hfits'⟩ := List.forall_mem_cons.mp hfits
      obtain ⟨⟨f, i⟩, group, rfl⟩ := List.exists_cons_of_ne_nil hgroup
      rw [weight_cons] at hweight
      exact .opens (Nat.le_trans (Nat.le_add_right _ _) hweight)
        (.joinAll hweight (ih (f.tokens + weight group) hne' hfits'))

/-- A fragment weighs at most what it costs in the chunk that it opens. -/
theorem Chunk.tokens_push_le (chunk : Chunk) (f : Fragment) (i : Nat) :
    (chunk.push f i).tokens ≤ chunk.tokens + f.tokens :=
  Nat.mod_le _ _

/-- Filling chunks stays ahead of a cut that is on its way. From where both have got to, it fills
the current chunk and at most one more than the groups that the cut opens, and no more than these
if its current chunk is not fuller than the group at hand. -/
theorem GoesOn.length_chunks_le {capacity load opened : Nat} {pieces : List (Fragment × Nat)}
    (hcut : GoesOn capacity load pieces opened) {current : Chunk} {chunks : List Chunk}
    (h : fillChunks capacity current pieces = .ok chunks) :
    chunks.length ≤ opened + 2 ∧ (current.tokens ≤ load → chunks.length ≤ opened + 1) := by
  induction hcut generalizing current chunks with
  | done =>
      have hone : chunks.length ≤ 1 := by
        injection h with h
        subst h
        split <;> simp
      omega
  | @joins load opened i f rest hfits _ ih =>
      have hpushed := current.tokens_push_le f i
      have hfresh : (Chunk.push { index := current.index + 1 } f i).tokens ≤ 0 + f.tokens :=
        Chunk.tokens_push_le _ f i
      rw [fillChunks, if_neg (by omega)] at h
      split at h
      next hfull =>
        -- the cut still has room for the fragment, so the chunk was fuller than its group; with
        -- the fragment in a fresh chunk this is made up for
        split at h
        · cases h
        next filled hfilled =>
          injection h with h
          subst h
          have := (ih hfilled).2 (by omega)
          have hfuller : load < current.tokens := by
            change capacity < (current.push f i).tokens at hfull
            omega
          rw [List.length_cons]
          omega
      next hroom =>
        obtain ⟨hmost, hahead⟩ := ih h
        exact ⟨hmost, fun hle => hahead (by omega)⟩
  | @opens load opened i f rest hfits _ ih =>
      have hfresh : (Chunk.push { index := current.index + 1 } f i).tokens ≤ 0 + f.tokens :=
        Chunk.tokens_push_le _ f i
      rw [fillChunks, if_neg (by omega)] at h
      split at h
      next hfull =>
        split at h
        · cases h
        next filled hfilled =>
          injection h with h
          subst h
          have := (ih hfilled).2 (by omega)
          rw [List.length_cons]
          omega
      next hroom =>
        have := (ih h).1
        omega

/-- Chunks filled from the first one on are at most as many as the groups of any cut. -/
theorem Cut.length_chunks_le {capacity : Nat} {pieces : List (Fragment × Nat)}
    {groups : List (List (Fragment × Nat))} (hcut : Cut capacity pieces groups)
    {chunks : List Chunk} (h : fillChunks capacity {} pieces = .ok chunks) :
    chunks.length ≤ groups.length := by
  obtain ⟨rfl, hne, hfits⟩ := hcut
  cases groups with
  | nil =>
      injection h with h
      subst h
      exact Nat.le_refl 0
  | cons group groups =>
      -- the first group is the one at hand when nothing has been sent yet
      obtain ⟨hweight, hfits⟩ := List.forall_mem_cons.mp hfits
      have hrest : Cut capacity groups.flatten groups :=
        ⟨rfl, fun g hg => hne g (List.mem_cons_of_mem group hg), hfits⟩
      have hall : GoesOn capacity 0 (group ++ groups.flatten) groups.length :=
        .joinAll (by omega) (hrest.goesOn _)
      exact (hall.length_chunks_le h).2 (Nat.le_refl 0)

/-- **Chunked plans make the fewest calls.** However the sending order of a package is cut into
groups that are not empty and fit the capacity of a chunked plan, there are at least as many groups
as the plan has chunks. When the tokens of the fragments sum up to a word, the chunks are such
groups themselves. -/
theorem chunks_fewest (package : Package) (profile : Profile) (tokens : Nat) (margin : Float)
    {chunks : List Chunk} {capacity : Nat}
    (h : Call.plan package profile tokens margin = .ok (.chunked chunks capacity)) :
    (∀ groups, Cut capacity (sendOrder package.fragments) groups →
      chunks.length ≤ groups.length) ∧
    (cost package.fragments < Word.size64 →
      ∃ groups, Cut capacity (sendOrder package.fragments) groups ∧
        chunks = chunksFrom 0 groups) := by
  refine ⟨fun groups hcut => ?_, fun hsum => plan_chunked_cut hsum h⟩
  rcases plan_cases h with ⟨hsingle, -⟩ | ⟨filled, room, hplan, -, -, -, hfill⟩
  · cases hsingle
  · injection hplan with hchunks hroom
    subst hchunks hroom
    exact hcut.length_chunks_le hfill

/-- The cramped package takes two chunks, of which the first one is full. A cut that sends the
overview alone has three groups. -/
theorem crampedPackage_chunks_fewest :
    ∃ chunks groups, Call.plan crampedPackage crampedModel 2 standardMargin =
        .ok (.chunked chunks 9) ∧
      Cut 9 (sendOrder crampedPackage.fragments) groups ∧ chunks.length = 2 ∧
      groups.length = 3 ∧ chunks.length ≤ groups.length := by
  have hplan : Call.plan crampedPackage crampedModel 2 standardMargin =
      .ok (.chunked [⟨0, [1, 0, 2], 9⟩, ⟨1, [3], 9⟩] 9) := by decide +kernel
  have hcut : Cut 9 (sendOrder crampedPackage.fragments)
      [[({ source := "<overview>", kind := .overview, tokens := 3 }, 1)],
        [({ source := "a.rs", tokens := 6 }, 0), ({ source := "b.rs" }, 2)],
        [({ source := "c.rs", tokens := 9 }, 3)]] :=
    ⟨by decide, by decide, by decide⟩
  exact ⟨_, _, hplan, hcut, rfl, rfl,
    (chunks_fewest crampedPackage crampedModel 2 standardMargin hplan).1 _ hcut⟩

end Switchboard.Call
