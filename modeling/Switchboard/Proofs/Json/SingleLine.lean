import Switchboard.Proofs.Json.RoundTrip
import Switchboard.Proofs.Text.Lines

/-!
# JSON texts on one line

The compact text of a plain tree holds no control character: within texts they are escaped, and
elsewhere there are none. So it is on one line, whatever the texts of the tree are.

## Main results

* `isPrintable_compact` — no control character.
* `isLine_compact` — the text is one line.
-/

namespace Switchboard.Json

open Switchboard.Data

/-- The characters hold no control character. -/
def IsPrintable (chars : List Char) : Prop := ∀ c ∈ chars, 0x20 ≤ c.toNat

variable {chars : List Char} {c : Char}

theorem isPrintable_cons (hc : 0x20 ≤ c.toNat) (h : IsPrintable chars) : IsPrintable (c :: chars) :=
  List.forall_mem_cons.mpr ⟨hc, h⟩

theorem IsPrintable.append {more : List Char} (h : IsPrintable chars) (h' : IsPrintable more) :
    IsPrintable (chars ++ more) :=
  List.forall_mem_append.mpr ⟨h, h'⟩

/-! ## Leaves -/

theorem printable_hexDigit : ∀ n < 16, 0x20 ≤ (hexDigit n).toNat := by decide

/-- Control characters are written by others. -/
theorem isPrintable_escapeChar (c : Char) : IsPrintable (escapeChar c) := by
  unfold escapeChar
  split
  · simp [IsPrintable]
  split
  · simp [IsPrintable]
  split
  · next hcontrol =>
      have hhigh := printable_hexDigit (c.toNat / 16) (by omega)
      have hlow := printable_hexDigit (c.toNat % 16) (by omega)
      (repeat' split) <;> simp [IsPrintable, hhigh, hlow]
  · next hcontrol => simpa [IsPrintable] using hcontrol

theorem isPrintable_quote (s : String) : IsPrintable (quote s).toList := by
  rw [toList_quote]
  refine isPrintable_cons (by decide) (IsPrintable.append (fun c hc => ?_) (by simp [IsPrintable]))
  obtain ⟨d, -, hd⟩ := List.mem_flatMap.mp hc
  exact isPrintable_escapeChar d c hd

theorem isPrintable_nat (n : Nat) : IsPrintable (compact (.nat n)).toList := by
  intro c hc
  rw [toList_compact_nat] at hc
  simpa using Decimal.of_isDigit (p := fun c => 0x20 ≤ c.toNat) (by decide)
    (Decimal.isDigit_of_mem_toDigits hc)

/-! ## Trees -/

theorem isPrintable_join {texts : List String} (h : ∀ text ∈ texts, IsPrintable text.toList) :
    IsPrintable (join texts) := by
  induction texts with
  | nil => simp [join, IsPrintable]
  | cons text texts ih =>
      have htext := h text List.mem_cons_self
      have hrest := ih fun other hother => h other (List.mem_cons_of_mem _ hother)
      cases texts with
      | nil => exact (join_singleton text).symm ▸ htext
      | cons next texts =>
          rw [join_cons_cons]
          exact htext.append (isPrintable_cons (by decide) hrest)

theorem compactItems_eq (items : List Node) : compactItems items = items.map compact := by
  induction items with
  | nil => rfl
  | cons item items ih => rw [compactItems, ih, List.map_cons]

theorem compactMembers_eq (members : List (String × Node)) :
    compactMembers members = members.map fun member => quote member.1 ++ ":" ++ compact member.2 := by
  induction members with
  | nil => rfl
  | cons member members ih => rw [compactMembers, ih, List.map_cons]

/-- The text of a plain tree holds no control character. -/
theorem isPrintable_compact {node : Node} (h : node.isPlain = true) :
    IsPrintable (compact node).toList := by
  refine Node.plain_induction (P := fun node => IsPrintable (compact node).toList)
    ?null ?bool ?str ?nat ?arr ?obj node h
  case null => simp [compact, IsPrintable]
  case bool => rintro (_ | _) <;> simp [compact, IsPrintable]
  case str => exact isPrintable_quote
  case nat => exact fun n _ => isPrintable_nat n
  case arr =>
    intro items _ hitems
    rw [toList_compact_arr, compactItems_eq]
    refine isPrintable_cons (by decide) (IsPrintable.append (isPrintable_join ?_) (by simp [IsPrintable]))
    exact List.forall_mem_map.mpr hitems
  case obj =>
    intro members hmembers
    rw [toList_compact_obj, compactMembers_eq]
    refine isPrintable_cons (by decide) (IsPrintable.append (isPrintable_join ?_) (by simp [IsPrintable]))
    refine List.forall_mem_map.mpr fun member hmember => ?_
    rw [String.toList_append, String.toList_append]
    exact ((isPrintable_quote member.1).append (by simp [IsPrintable])).append (hmembers member hmember)

/-- The text of a plain tree is one line. -/
theorem isLine_compact {node : Node} (h : node.isPlain = true) : Text.IsLine (compact node) := by
  have hprintable := isPrintable_compact h
  exact ⟨fun hfeed => absurd (hprintable _ hfeed) (by decide),
    fun hreturn => absurd (hprintable _ hreturn) (by decide)⟩

end Switchboard.Json
