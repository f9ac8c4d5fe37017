import Mathlib.Data.BitVec

/-!
# Zero counters

`lzc` in its trailing mode, over a bit vector. On an empty input the tree of the counter
selects the last index.
-/

namespace Cva6Hpd.Common.Lzc

variable {width : Nat}

/-- `cnt_o` with `MODE = 0`. -/
def trailing (word : BitVec width) : Nat :=
  ((List.range width).find? fun k => word.getLsbD k).getD (width - 1)

/-- The counter stops at the lowest bit that is set. -/
theorem trailing_eq {word : BitVec width} {k : Nat} (hit : word.getLsbD k = true)
    (below : ∀ j < k, word.getLsbD j = false) : trailing word = k := by
  have found : (List.range width).find? (fun k => word.getLsbD k) = some k := by
    rw [List.find?_range_eq_some]
    refine ⟨hit, List.mem_range.mpr (BitVec.lt_of_getLsbD hit), ?_⟩
    intro j before
    simp [below j before]
  rw [trailing, found, Option.getD_some]

theorem exists_lowest {word : BitVec width} {k : Nat} (hit : word.getLsbD k = true) :
    word.getLsbD (trailing word) = true ∧ ∀ j < trailing word, word.getLsbD j = false := by
  have some : ∃ k, word.getLsbD k = true := ⟨k, hit⟩
  have lowest := Nat.find_spec some
  have below : ∀ j < Nat.find some, word.getLsbD j = false := fun j before =>
    Bool.eq_false_iff.mpr (Nat.find_min some before)
  rw [trailing_eq lowest below]
  exact ⟨lowest, below⟩

/-- On an empty input the counter is at the last index. -/
theorem trailing_of_none {word : BitVec width} (none : ∀ k, word.getLsbD k = false) :
    trailing word = width - 1 := by
  have missed : (List.range width).find? (fun k => word.getLsbD k) = Option.none := by
    simp [none]
  rw [trailing, missed, Option.getD_none]

end Cva6Hpd.Common.Lzc
