/-!
# Machine words

Counters and sums are kept as natural numbers, and the places where a sum of given numbers is
formed say so by adding in a word of 64 or 32 bits, which wraps around.
-/

namespace Switchboard.Word

/-- The number of values of a 64-bit word. -/
def size64 : Nat := 0x10000000000000000

/-- The number of values of a 32-bit word. -/
def size32 : Nat := 0x100000000

/-- Half of the values of a 64-bit word, which is how many of its signed readings are negative. -/
def half64 : Nat := 0x8000000000000000

/-- Half of the values of a 32-bit word. -/
def half32 : Nat := 0x80000000

/-- The largest 64-bit word. -/
def max64 : Nat := size64 - 1

/-- Addition of 64-bit words. -/
def add (a b : Nat) : Nat := (a + b) % size64

/-- Addition of 32-bit words. -/
def add32 (a b : Nat) : Nat := (a + b) % size32

/-- The sum of a list of 64-bit words. -/
def sum (words : List Nat) : Nat := words.foldl add 0

/-- The exact sum of a list of numbers. -/
def total (numbers : List Nat) : Nat := numbers.foldr (· + ·) 0

/-- Multiplication of 64-bit words that stops at the largest one. -/
def mulCapped (a b : Nat) : Nat := min (a * b) max64

theorem add_eq {a b : Nat} (h : a + b < size64) : add a b = a + b :=
  Nat.mod_eq_of_lt h

theorem add32_eq {a b : Nat} (h : a + b < size32) : add32 a b = a + b :=
  Nat.mod_eq_of_lt h

theorem add_lt (a b : Nat) : add a b < size64 :=
  Nat.mod_lt _ (by decide)

theorem add_right_comm (a b c : Nat) : add (add a b) c = add (add a c) b := by
  simp only [add, Nat.mod_add_mod, Nat.add_right_comm]

@[simp] theorem total_nil : total [] = 0 := rfl

@[simp] theorem total_cons (number : Nat) (numbers : List Nat) :
    total (number :: numbers) = number + total numbers := rfl

theorem total_append (first second : List Nat) :
    total (first ++ second) = total first + total second := by
  induction first with
  | nil => rw [List.nil_append, total_nil, Nat.zero_add]
  | cons number first ih => rw [List.cons_append, total_cons, total_cons, ih, Nat.add_assoc]

theorem total_le_of_sublist {few many : List Nat} (h : few.Sublist many) :
    total few ≤ total many := by
  induction h with
  | slnil => exact Nat.le_refl 0
  | cons number _ ih => exact Nat.le_trans ih (Nat.le_add_left _ number)
  | cons_cons number _ ih => exact Nat.add_le_add_left ih number

theorem sum_append_singleton (words : List Nat) (word : Nat) :
    sum (words ++ [word]) = add (sum words) word := by
  rw [sum, List.foldl_append]
  rfl

theorem sum_lt (words : List Nat) : sum words < size64 := by
  rcases List.eq_nil_or_concat words with rfl | ⟨words, word, rfl⟩
  · decide
  · rw [List.concat_eq_append, sum_append_singleton]
    exact add_lt _ _

theorem sum_map_zero {α : Type} (items : List α) : sum (items.map fun _ => 0) = 0 := by
  induction items with
  | nil => rfl
  | cons item items ih => exact ih

theorem foldl_add_eq (words : List Nat) {start : Nat} (h : start < size64) :
    words.foldl add start = (start + total words) % size64 := by
  induction words generalizing start with
  | nil => exact (Nat.mod_eq_of_lt h).symm
  | cons word words ih =>
      rw [List.foldl_cons, ih (add_lt _ _), add, Nat.mod_add_mod, total_cons, Nat.add_assoc]

/-- A sum of words is their exact sum, wrapped around. -/
theorem sum_eq_mod (words : List Nat) : sum words = total words % size64 := by
  rw [sum, foldl_add_eq words (by decide), Nat.zero_add]

/-- A sum that is a word is exact. -/
theorem sum_eq {words : List Nat} (h : total words < size64) : sum words = total words := by
  rw [sum_eq_mod, Nat.mod_eq_of_lt h]

end Switchboard.Word
