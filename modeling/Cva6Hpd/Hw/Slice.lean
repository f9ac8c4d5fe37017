import Mathlib.Data.BitVec
import Mathlib.Data.List.GetD

/-!
# Slices of words

Part selects and concatenations as lists of bits, the highest bit first. A slice of a
concatenation is a part of the list.
-/

namespace Cva6Hpd.Hw

variable {width : Nat}

/-- `w[hi:lo]`. -/
def slice (w : BitVec width) (hi lo : Nat) : List Bool :=
  (List.range (hi + 1 - lo)).map fun k => w.getLsbD (hi - k)

/-- The word of the given bits, cut or filled with zeros at the upper end. -/
def concat (width : Nat) (bits : List Bool) : BitVec width :=
  (BitVec.ofBoolListBE bits).setWidth width

@[simp]
theorem length_slice (w : BitVec width) (hi lo : Nat) : (slice w hi lo).length = hi + 1 - lo := by
  simp [slice]

theorem getLsbD_concat {bits : List Bool} (length : bits.length = width) {bit : Nat}
    (inside : bit < width) :
    (concat width bits).getLsbD bit = bits.getD (width - 1 - bit) false := by
  subst length
  rw [concat, BitVec.getLsbD_setWidth, BitVec.getLsbD_ofBoolListBE, decide_eq_true inside,
    Bool.true_and, Bool.true_and]

theorem slice_concat {bits : List Bool} (length : bits.length = width) {hi lo : Nat}
    (order : lo ≤ hi) (inside : hi < width) :
    slice (concat width bits) hi lo = (bits.drop (width - 1 - hi)).take (hi + 1 - lo) := by
  apply List.ext_getElem
  · rw [length_slice, List.length_take, List.length_drop, length]
    omega
  · intro k first second
    rw [length_slice] at first
    have place : width - 1 - (hi - k) = width - 1 - hi + k := by omega
    simp only [slice, List.getElem_map, List.getElem_range, List.getElem_take, List.getElem_drop]
    rw [getLsbD_concat length (by omega), place, List.getD_eq_getElem _ _ (by omega)]

theorem getD_slice (w : BitVec width) {hi lo k : Nat} (inside : k < hi + 1 - lo) :
    (slice w hi lo).getD k false = w.getLsbD (hi - k) := by
  rw [List.getD_eq_getElem _ _ (by rwa [length_slice])]
  simp [slice]

theorem getLsbD_of_slice {w : BitVec width} {hi lo : Nat} {bits : List Bool}
    (shown : slice w hi lo = bits) {k : Nat} (inside : k < hi + 1 - lo) :
    w.getLsbD (hi - k) = bits.getD k false := by
  rw [← shown, getD_slice w inside]

theorem slice_split (w : BitVec width) {hi mid lo : Nat} (upper : mid < hi) (lower : lo ≤ mid) :
    slice w hi lo = slice w hi (mid + 1) ++ slice w mid lo := by
  have count : hi + 1 - lo = (hi - mid) + (mid + 1 - lo) := by omega
  have first : hi + 1 - (mid + 1) = hi - mid := by omega
  rw [slice, slice, slice, count, first, List.range_add, List.map_append, List.map_map]
  congr 1
  apply List.map_congr_left
  intro k member
  rw [List.mem_range] at member
  rw [Function.comp_apply]
  congr 1
  omega

theorem slice_of_slice {w : BitVec width} {hi mid lo : Nat} {bits : List Bool}
    (shown : slice w hi lo = bits) (upper : mid < hi) (lower : lo ≤ mid) :
    slice w mid lo = bits.drop (hi - mid) := by
  have length : (slice w hi (mid + 1)).length = hi - mid := by
    rw [length_slice]
    omega
  rw [← shown, slice_split w upper lower, List.drop_append_of_le_length length.ge, ← length,
    List.drop_length, List.nil_append]

end Cva6Hpd.Hw
