import Switchboard.Proofs.Package.Greedy
import Switchboard.Proofs.Route.Job

/-!
# What chunks hold

Chunks are filled one after the other from the fragments in sending order. Seen as a whole this
cuts the sending order into groups: nothing is lost, repeated or moved, no group is empty, and none
is larger than a chunk may be. The chunks of a plan are the groups of such a cut, counted from
zero, each with the positions and the tokens of its fragments.

## Main results

* `fillChunks_cut` — filled chunks are the groups of a cut.
* `plan_chunked_cut` — so are the chunks of a plan.
* `Cut.getElem?_of_mem` — the fragments of a chunk are found in the package at their positions.
-/

namespace Switchboard.Call

open Switchboard.Model (Profile)
open Switchboard.Package (Fragment cost)

/-- The tokens of placed fragments. -/
def weight (pieces : List (Fragment × Nat)) : Nat := cost (pieces.map (·.1))

@[simp] theorem weight_nil : weight [] = 0 := rfl

@[simp] theorem weight_cons (f : Fragment) (i : Nat) (pieces : List (Fragment × Nat)) :
    weight ((f, i) :: pieces) = f.tokens + weight pieces := rfl

theorem weight_append (first second : List (Fragment × Nat)) :
    weight (first ++ second) = weight first + weight second := by
  rw [weight, List.map_append, Package.cost_append]
  rfl

/-- The chunk of a group of placed fragments. -/
def Chunk.ofGroup (index : Nat) (group : List (Fragment × Nat)) : Chunk :=
  ⟨index, group.map (·.2), weight group⟩

/-- The chunks of groups, counted from an index on. -/
def chunksFrom (index : Nat) : List (List (Fragment × Nat)) → List Chunk
  | [] => []
  | group :: groups => Chunk.ofGroup index group :: chunksFrom (index + 1) groups

@[simp] theorem length_chunksFrom (index : Nat) (groups : List (List (Fragment × Nat))) :
    (chunksFrom index groups).length = groups.length := by
  induction groups generalizing index with
  | nil => rfl
  | cons group groups ih => rw [chunksFrom, List.length_cons, List.length_cons, ih]

/-- A chunk is the chunk of its group. -/
theorem getElem?_chunksFrom (index k : Nat) (groups : List (List (Fragment × Nat))) :
    (chunksFrom index groups)[k]? = groups[k]?.map (Chunk.ofGroup (index + k)) := by
  induction groups generalizing index k with
  | nil => rfl
  | cons group groups ih =>
      cases k with
      | zero => rfl
      | succ k =>
          rw [chunksFrom, List.getElem?_cons_succ, List.getElem?_cons_succ, ih]
          rw [show index + 1 + k = index + (k + 1) by omega]

/-- A cut of placed fragments into groups of at most the given tokens. -/
structure Cut (capacity : Nat) (pieces : List (Fragment × Nat))
    (groups : List (List (Fragment × Nat))) : Prop where
  /-- Nothing is lost, repeated or moved. -/
  flatten : groups.flatten = pieces
  nonempty : ∀ group ∈ groups, group ≠ []
  fits : ∀ group ∈ groups, weight group ≤ capacity

theorem Cut.nil (capacity : Nat) : Cut capacity [] [] :=
  ⟨rfl, by simp, by simp⟩

/-- A group that fits can be put in front of a cut. -/
theorem Cut.cons {capacity : Nat} {pieces group : List (Fragment × Nat)}
    {groups : List (List (Fragment × Nat))} (hcut : Cut capacity pieces groups)
    (hne : group ≠ []) (hfits : weight group ≤ capacity) :
    Cut capacity (group ++ pieces) (group :: groups) where
  flatten := by rw [List.flatten_cons, hcut.flatten]
  nonempty := List.forall_mem_cons.mpr ⟨hne, hcut.nonempty⟩
  fits := List.forall_mem_cons.mpr ⟨hfits, hcut.fits⟩

/-- Appending a fragment to the chunk of a group gives the chunk of the longer group. -/
theorem Chunk.push_ofGroup (index : Nat) (held : List (Fragment × Nat)) (f : Fragment) (i : Nat)
    (h : weight held + f.tokens < Word.size64) :
    (Chunk.ofGroup index held).push f i = Chunk.ofGroup index (held ++ [(f, i)]) := by
  simp only [Chunk.push, Chunk.ofGroup, Word.add_eq h, List.map_append, List.map_cons,
    List.map_nil, weight_append, weight_cons, weight_nil, Nat.add_zero]

/-- Filling chunks from a started one on cuts what the chunk holds and what is to come. -/
theorem fillChunks_cut {capacity index : Nat} {held pieces : List (Fragment × Nat)}
    {chunks : List Chunk} (hheld : weight held ≤ capacity)
    (hsum : weight held + weight pieces < Word.size64)
    (h : fillChunks capacity (Chunk.ofGroup index held) pieces = .ok chunks) :
    ∃ groups, Cut capacity (held ++ pieces) groups ∧ chunks = chunksFrom index groups := by
  induction pieces generalizing index held chunks with
  | nil =>
      rw [fillChunks] at h
      injection h with h
      rw [List.append_nil]
      by_cases hnil : held = []
      · subst hnil
        exact ⟨[], .nil capacity, h.symm⟩
      · rw [if_neg (by simpa [Chunk.ofGroup] using hnil)] at h
        refine ⟨[held], ?_, h.symm⟩
        simpa using (Cut.nil capacity).cons hnil hheld
  | cons piece rest ih =>
      obtain ⟨f, i⟩ := piece
      rw [weight_cons] at hsum
      have hadd : Word.add (weight held) f.tokens = weight held + f.tokens :=
        Word.add_eq (by omega)
      rw [fillChunks] at h
      split at h
      · cases h
      · rename_i hsmall
        rw [show (Chunk.ofGroup index held).tokens = weight held from rfl, hadd] at h
        split at h
        · rename_i hfull
          -- The current chunk is closed, and the fragment opens the next one.
          have hopen : Chunk.push { index := (Chunk.ofGroup index held).index + 1 } f i =
              Chunk.ofGroup (index + 1) [(f, i)] :=
            Chunk.push_ofGroup (index + 1) [] f i (by rw [weight_nil]; omega)
          rw [hopen] at h
          split at h
          · cases h
          · rename_i filled hfilled
            injection h with h
            obtain ⟨groups, hcut, rfl⟩ :=
              ih (by simp only [weight_cons, weight_nil]; omega)
                (by simp only [weight_cons, weight_nil]; omega) hfilled
            have hne : held ≠ [] := by
              intro hnil
              rw [hnil, weight_nil] at hfull
              omega
            exact ⟨held :: groups, hcut.cons hne hheld, h.symm⟩
        · rw [Chunk.push_ofGroup index held f i (by omega)] at h
          obtain ⟨groups, hcut, hchunks⟩ :=
            ih (by simp only [weight_append, weight_cons, weight_nil]; omega)
              (by simp only [weight_append, weight_cons, weight_nil]; omega) h
          rw [List.append_assoc] at hcut
          exact ⟨groups, hcut, hchunks⟩

/-! ## The sending order -/

/-- A fragment in sending order comes with its position in the package. -/
theorem getElem?_of_mem_sendOrder {fragments : List Fragment} {f : Fragment} {i : Nat}
    (h : (f, i) ∈ sendOrder fragments) : fragments[i]? = some f := by
  have hmem : (f, i) ∈ fragments.zipIdx := by
    rw [sendOrder, List.mem_append, List.mem_filter, List.mem_filter] at h
    exact h.elim (·.1) (·.1)
  exact List.mem_zipIdx_iff_getElem?.mp hmem

/-- The sending order moves the fragments of a package and their positions. -/
theorem sendOrder_perm (fragments : List Fragment) :
    (sendOrder fragments).Perm fragments.zipIdx := by
  rw [sendOrder]
  have hneg : (fun p : Fragment × Nat => decide (p.1.kind ≠ .overview)) =
      fun p => !decide (p.1.kind = .overview) := by
    funext p
    simp
  rw [hneg]
  exact List.filter_append_perm _ _

/-- The fragments in sending order weigh as much as in package order. -/
theorem weight_sendOrder (fragments : List Fragment) :
    weight (sendOrder fragments) = cost fragments := by
  have hfst := ((sendOrder_perm fragments).map (·.1)).map (·.tokens)
  rw [List.zipIdx_map_fst] at hfst
  exact hfst.foldr_eq' (fun _ _ _ _ _ => by omega) 0

/-- The fragments of a group of a cut of the sending order stand in the package at their
positions. -/
theorem Cut.getElem?_of_mem {capacity : Nat} {fragments : List Fragment}
    {groups : List (List (Fragment × Nat))} (hcut : Cut capacity (sendOrder fragments) groups)
    {group : List (Fragment × Nat)} (hgroup : group ∈ groups) {f : Fragment} {i : Nat}
    (hf : (f, i) ∈ group) : fragments[i]? = some f := by
  apply getElem?_of_mem_sendOrder
  rw [← hcut.flatten]
  exact List.mem_flatten.mpr ⟨group, hgroup, hf⟩

/-- The chunks of a plan are the groups of a cut of the sending order. -/
theorem plan_chunked_cut {package : Package} {profile : Profile} {descriptionTokens : Nat}
    {margin : Float} {chunks : List Chunk} {capacity : Nat}
    (hsum : cost package.fragments < Word.size64)
    (h : Call.plan package profile descriptionTokens margin = .ok (.chunked chunks capacity)) :
    ∃ groups, Cut capacity (sendOrder package.fragments) groups ∧
      chunks = chunksFrom 0 groups := by
  rcases plan_cases h with ⟨heq, -⟩ | ⟨filled, room, heq, -, -, -, hfill⟩
  · cases heq
  · injection heq with hchunks hcapacity
    subst hchunks hcapacity
    have hstart : Chunk.ofGroup 0 [] = {} := rfl
    rw [← hstart] at hfill
    have hcut := fillChunks_cut (Nat.zero_le _)
      (by rw [weight_nil, Nat.zero_add, weight_sendOrder]; exact hsum) hfill
    rwa [List.nil_append] at hcut

end Switchboard.Call
