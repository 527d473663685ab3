import Mathlib.Data.List.Nodup

/-!
# Stable sorting by a key

Sorting by a key that is a small number, with ties left in their order, is the same as writing out
the elements of key zero, then those of key one, and so on, each bucket in the order of the list.
`buckets` says so without sorting anything, and `mergeSort_eq_buckets` shows that merge sort
computes it.

## Main results

* `eq_buckets_of_ascending` — a list whose keys do not decrease is the concatenation of its own
  buckets.
* `filter_mergeSort_of`, `pairwise_mergeSort_of` — merge sort by a key of any kind is sorted and
  leaves the elements of one key as they were; `filter_mergeSort`, `pairwise_mergeSort` are the
  cases for numbers.
* `mergeSort_eq_buckets` — merge sort by a key writes the buckets one after the other.
* `filter_lt_mergeSort_congr` — what is below a key is sorted as if the rest were not there.
* `eq_of_perm_of_sorted`, `mergeSort_eq_of_perm` — elements with keys of their own are sorted in
  one way only.
-/

namespace Switchboard.StableSort

variable {α : Type _}

/-- The elements of key zero, then those of key one, and so on below `n`; elements of one key in
the order of the list. -/
def buckets (key : α → Nat) (n : Nat) (list : List α) : List α :=
  (List.range n).flatMap fun k => list.filter fun a => key a = k

/-- One more bucket goes to the end. -/
theorem buckets_succ (key : α → Nat) (n : Nat) (list : List α) :
    buckets key (n + 1) list = buckets key n list ++ list.filter fun a => key a = n := by
  simp only [buckets, List.range_succ, List.flatMap_append, List.flatMap_cons, List.flatMap_nil,
    List.append_nil]

/-- The buckets depend only on what each of them holds. -/
theorem buckets_congr (key : α → Nat) (n : Nat) {xs ys : List α}
    (h : ∀ k, (xs.filter fun a => key a = k) = ys.filter fun a => key a = k) :
    buckets key n xs = buckets key n ys := by
  simp only [buckets, h]

/-- Dropping the elements from `n` on changes no bucket below `n`. -/
private theorem buckets_filter_lt (key : α → Nat) (n : Nat) (list : List α) :
    buckets key n (list.filter fun a => key a < n) = buckets key n list := by
  simp only [buckets, List.flatMap]
  congr 1
  apply List.map_congr_left
  intro k hk
  have hlt : k < n := List.mem_range.mp hk
  rw [List.filter_filter]
  apply List.filter_congr
  intro a _
  by_cases ha : key a = k
  · simp [ha, hlt]
  · simp [ha]

/-- In an ascending list the elements of the last key stand behind all others. -/
private theorem filter_lt_append_filter_eq (key : α → Nat) (n : Nat) {list : List α}
    (hasc : list.Pairwise fun a b => key a ≤ key b) (hkey : ∀ a ∈ list, key a < n + 1) :
    list = (list.filter fun a => key a < n) ++ list.filter fun a => key a = n := by
  induction list with
  | nil => rfl
  | cons a rest ih =>
      obtain ⟨hhead, htail⟩ := List.pairwise_cons.mp hasc
      have hrest := ih htail fun b hb => hkey b (List.mem_cons_of_mem a hb)
      have ha : key a < n + 1 := hkey a (by simp)
      by_cases hlt : key a < n
      · have hne : key a ≠ n := by omega
        simp only [List.filter_cons, decide_eq_true_eq, if_pos hlt, if_neg hne,
          List.cons_append]
        rw [← hrest]
      · -- `a` has the last key, so everything behind it has, too
        have heq : key a = n := by omega
        have hnone : (rest.filter fun b => key b < n) = [] := by
          rw [List.filter_eq_nil_iff]
          intro b hb
          have := hhead b hb
          simp only [decide_eq_true_eq]
          omega
        rw [hnone, List.nil_append] at hrest
        simp only [List.filter_cons, decide_eq_true_eq, if_neg hlt, if_pos heq, hnone,
          List.nil_append]
        rw [← hrest]

/-- A list whose keys do not decrease is the concatenation of its buckets. -/
theorem eq_buckets_of_ascending (key : α → Nat) (n : Nat) {list : List α}
    (hasc : list.Pairwise fun a b => key a ≤ key b) (hkey : ∀ a ∈ list, key a < n) :
    list = buckets key n list := by
  induction n generalizing list with
  | zero =>
      have hnil : list = [] := List.eq_nil_iff_forall_not_mem.mpr fun a ha => by
        have := hkey a ha
        omega
      subst hnil
      rfl
  | succ n ih =>
      have hsplit := filter_lt_append_filter_eq key n hasc hkey
      have hlow : (list.filter fun a => key a < n) =
          buckets key n (list.filter fun a => key a < n) :=
        ih (hasc.filter _) fun a ha => by simpa using (List.mem_filter.mp ha).2
      rw [buckets_succ, ← buckets_filter_lt, ← hlow]
      exact hsplit

section Order

variable {β : Type _} (key : α → β) (le : β → β → Bool)
  (htrans : ∀ a b c, le a b = true → le b c = true → le a c = true)
  (htotal : ∀ a b, (le a b || le b a) = true)

include htrans htotal

/-- After sorting by a key the keys do not decrease. -/
theorem pairwise_mergeSort_of (list : List α) :
    (list.mergeSort fun a b => le (key a) (key b)).Pairwise fun a b => le (key a) (key b) = true :=
  List.pairwise_mergeSort (fun a b c => htrans (key a) (key b) (key c))
    (fun a b => htotal (key a) (key b)) list

/-- Merge sort leaves the elements of each key in the order they had. -/
theorem filter_mergeSort_of [DecidableEq β] (list : List α) (k : β) :
    ((list.mergeSort fun a b => le (key a) (key b)).filter fun a => key a = k) =
      list.filter fun a => key a = k := by
  have hpair : (list.filter fun a => key a = k).Pairwise fun a b => le (key a) (key b) = true := by
    rw [List.pairwise_filter]
    apply List.pairwise_of_forall
    intro a b ha hb
    rw [of_decide_eq_true ha, of_decide_eq_true hb]
    simpa only [Bool.or_self] using htotal k k
  have hsub : (list.filter fun a => key a = k).Sublist
      (list.mergeSort fun a b => le (key a) (key b)) :=
    List.sublist_mergeSort (fun a b c => htrans (key a) (key b) (key c))
      (fun a b => htotal (key a) (key b)) hpair List.filter_sublist
  -- a bucket is a sublist of the sorted list's bucket, and both have the same length
  have hbucket := hsub.filter fun a => key a = k
  rw [List.filter_filter] at hbucket
  simp only [Bool.and_self] at hbucket
  refine (hbucket.eq_of_length ?_).symm
  exact ((List.mergeSort_perm list _).filter _).length_eq.symm

end Order

private theorem keyLe_trans (a b c : Nat) :
    decide (a ≤ b) = true → decide (b ≤ c) = true → decide (a ≤ c) = true := by
  simp only [decide_eq_true_eq]
  exact Nat.le_trans

private theorem keyLe_total (a b : Nat) : (decide (a ≤ b) || decide (b ≤ a)) = true := by
  simp only [Bool.or_eq_true, decide_eq_true_eq]
  exact Nat.le_total a b

theorem filter_mergeSort (key : α → Nat) (list : List α) (k : Nat) :
    ((list.mergeSort fun a b => key a ≤ key b).filter fun a => key a = k) =
      list.filter fun a => key a = k :=
  filter_mergeSort_of key (fun a b => decide (a ≤ b)) keyLe_trans keyLe_total list k

theorem pairwise_mergeSort (key : α → Nat) (list : List α) :
    (list.mergeSort fun a b => key a ≤ key b).Pairwise fun a b => key a ≤ key b := by
  have h := pairwise_mergeSort_of key (fun a b => decide (a ≤ b)) keyLe_trans keyLe_total list
  simpa only [decide_eq_true_eq] using h

/-- Sorting by a key below `n` writes the buckets one after the other. -/
theorem mergeSort_eq_buckets (key : α → Nat) (n : Nat) {list : List α}
    (hkey : ∀ a ∈ list, key a < n) :
    (list.mergeSort fun a b => key a ≤ key b) = buckets key n list := by
  have hasc := pairwise_mergeSort key list
  have hmem : ∀ a ∈ list.mergeSort fun a b => key a ≤ key b, key a < n :=
    fun a ha => hkey a (List.mem_mergeSort.mp ha)
  rw [eq_buckets_of_ascending key n hasc hmem]
  exact buckets_congr key n (filter_mergeSort key list)

/-- What is below a key stands in front after sorting, bucket by bucket. -/
theorem filter_lt_mergeSort (key : α → Nat) (n : Nat) (list : List α) :
    ((list.mergeSort fun a b => key a ≤ key b).filter fun a => key a < n) =
      buckets key n list := by
  have hasc := (pairwise_mergeSort key list).filter fun a => decide (key a < n)
  rw [eq_buckets_of_ascending key n hasc fun a ha => by simpa using (List.mem_filter.mp ha).2,
    buckets_filter_lt]
  exact buckets_congr key n (filter_mergeSort key list)

/-- Elements from a key on have no influence on how those below it are sorted. -/
theorem filter_lt_mergeSort_congr (key : α → Nat) (n : Nat) {xs ys : List α}
    (h : (xs.filter fun a => key a < n) = ys.filter fun a => key a < n) :
    ((xs.mergeSort fun a b => key a ≤ key b).filter fun a => key a < n) =
      (ys.mergeSort fun a b => key a ≤ key b).filter fun a => key a < n := by
  rw [filter_lt_mergeSort, filter_lt_mergeSort, ← buckets_filter_lt key n xs, h,
    buckets_filter_lt]

/-! ## Distinct keys -/

/-- If no two elements have one key, there is one way to sort them. -/
theorem eq_of_perm_of_sorted {β : Type _} (key : α → β) {le : β → β → Prop}
    (hantisymm : ∀ a b, le a b → le b a → a = b) {xs ys : List α} (hperm : xs.Perm ys)
    (hdistinct : (xs.map key).Nodup) (hxs : xs.Pairwise fun a b => le (key a) (key b))
    (hys : ys.Pairwise fun a b => le (key a) (key b)) : xs = ys := by
  refine hperm.eq_of_pairwise (fun a b ha hb hab hba => ?_) hxs hys
  have hkey : key a = key b := hantisymm _ _ hab hba
  exact List.inj_on_of_nodup_map hdistinct ha (hperm.mem_iff.mpr hb) hkey

/-- Elements with keys of their own are sorted into one list, in whatever order they come. -/
theorem mergeSort_eq_of_perm (key : α → Nat) {xs ys : List α} (hperm : xs.Perm ys)
    (hdistinct : (xs.map key).Nodup) :
    (xs.mergeSort fun a b => key a ≤ key b) = ys.mergeSort fun a b => key a ≤ key b := by
  have hsorted : (xs.mergeSort fun a b => key a ≤ key b).Perm xs := List.mergeSort_perm xs _
  have hall : (xs.mergeSort fun a b => key a ≤ key b).Perm
      (ys.mergeSort fun a b => key a ≤ key b) :=
    (hsorted.trans hperm).trans (List.mergeSort_perm ys _).symm
  exact eq_of_perm_of_sorted key (fun _ _ => Nat.le_antisymm) hall
    ((hsorted.map key).nodup_iff.mpr hdistinct) (pairwise_mergeSort key xs)
    (pairwise_mergeSort key ys)

end Switchboard.StableSort
