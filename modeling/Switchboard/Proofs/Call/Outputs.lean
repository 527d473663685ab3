import Switchboard.Call.Plan
import Switchboard.Proofs.StableSort

/-!
# Outputs in any order

The outputs of chunks carry the positions of their chunks, and are joined in the order of these,
whatever order they come in. Positions are distinct, so there is one ascending arrangement of the
outputs, and it is this one that is joined.

## Main results

* `mergeOutputs_of_ascending` — outputs are joined as their ascending arrangement lists them.
* `outputs_in_any_order` — the texts of all chunks, and outputs with any distinct positions.
-/

namespace Switchboard.Call

variable {outputs ascending : List (Nat × String)}

/-- Outputs are joined as they stand once they are arranged by their positions. -/
theorem mergeOutputs_of_ascending (hperm : outputs.Perm ascending)
    (hasc : (ascending.map (·.1)).Pairwise (· < ·)) :
    mergeOutputs outputs = "\n\n".intercalate (ascending.map (·.2)) := by
  have hle : ascending.Pairwise fun a b => a.1 ≤ b.1 :=
    (List.pairwise_map.mp hasc).imp fun hlt => Nat.le_of_lt hlt
  have hdistinct : (ascending.map (·.1)).Nodup := hasc.imp fun hlt => Nat.ne_of_lt hlt
  have hsorted : (outputs.mergeSort fun a b => a.1 ≤ b.1) = ascending := by
    rw [StableSort.mergeSort_eq_of_perm (·.1) hperm ((hperm.map _).nodup_iff.mpr hdistinct)]
    exact List.mergeSort_of_pairwise (by simpa only [decide_eq_true_eq] using hle)
  rw [mergeOutputs, hsorted]

/-! ## Numbered texts -/

/-- Texts with their positions, from zero on. -/
def numbered (texts : List String) : List (Nat × String) :=
  texts.zipIdx.map Prod.swap

theorem map_fst_numbered (texts : List String) :
    (numbered texts).map (·.1) = List.range texts.length := by
  rw [numbered, List.map_map, List.range_eq_range']
  exact List.zipIdx_map_snd 0 texts

theorem map_snd_numbered (texts : List String) : (numbered texts).map (·.2) = texts := by
  rw [numbered, List.map_map]
  exact List.zipIdx_map_fst 0 texts

/-- The texts of all chunks are joined in their order with a blank line between them, whatever order
they come in. Outputs with any distinct positions are joined to one text in every order. -/
theorem outputs_in_any_order :
    (∀ (texts : List String) (outputs : List (Nat × String)), outputs.Perm (numbered texts) →
      mergeOutputs outputs = "\n\n".intercalate texts) ∧
    ∀ outputs others : List (Nat × String), (outputs.map (·.1)).Nodup → outputs.Perm others →
      mergeOutputs outputs = mergeOutputs others := by
  refine ⟨fun texts outputs hperm => ?_, fun outputs others hdistinct hperm => ?_⟩
  · have hasc : ((numbered texts).map (·.1)).Pairwise (· < ·) := by
      rw [map_fst_numbered]
      exact List.pairwise_lt_range
    rw [mergeOutputs_of_ascending hperm hasc, map_snd_numbered]
  · rw [mergeOutputs, mergeOutputs, StableSort.mergeSort_eq_of_perm (·.1) hperm hdistinct]

/-- Three outputs that come last, first, middle, and two that come in both orders. -/
theorem sampleOutputs_in_any_order :
    [(2, "c"), (0, "a"), (1, "b")].Perm (numbered ["a", "b", "c"]) ∧
      mergeOutputs [(2, "c"), (0, "a"), (1, "b")] = "a\n\nb\n\nc" ∧
      mergeOutputs [(7, "late"), (3, "early")] = mergeOutputs [(3, "early"), (7, "late")] := by
  have hperm : [(2, "c"), (0, "a"), (1, "b")].Perm (numbered ["a", "b", "c"]) := by decide
  refine ⟨hperm, ?_, ?_⟩
  · exact (outputs_in_any_order.1 ["a", "b", "c"] _ hperm).trans (by decide)
  · exact outputs_in_any_order.2 _ _ (by decide) (List.Perm.swap _ _ _)

end Switchboard.Call
