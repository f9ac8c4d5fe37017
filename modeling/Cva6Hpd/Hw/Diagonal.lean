import Mathlib.Data.Nat.ChineseRemainder
import Mathlib.Data.List.Nodup

/-!
# Two counters that advance together

A row counter and a column counter that advance in the same steps, each back to
zero after its last value, walk along a diagonal. They reach both last values
together after the least common multiple of the numbers of rows and columns, and
have visited every pair then only if these are coprime.
-/

namespace Cva6Hpd.Hw

/-- The next value of a counter. -/
def countUp (last value : Nat) : Nat := if value = last then 0 else value + 1

theorem countUp_mod {count : Nat} (positive : 0 < count) (steps : Nat) :
    countUp (count - 1) (steps % count) = (steps + 1) % count := by
  rw [countUp, Nat.add_mod_eq_ite]
  have bound := Nat.mod_lt steps positive
  by_cases one : count = 1
  · subst one
    simp [Nat.mod_one]
  · rw [Nat.mod_eq_of_lt (by omega : 1 < count)]
    split_ifs <;> omega

/-- The pairs that the counters visit in their first steps. -/
def diagonal (rows columns steps : Nat) : List (Nat × Nat) :=
  (List.range steps).map fun k => (k % rows, k % columns)

@[simp]
theorem length_diagonal (rows columns steps : Nat) :
    (diagonal rows columns steps).length = steps := by
  simp [diagonal]

theorem diagonal_succ (rows columns steps : Nat) :
    diagonal rows columns (steps + 1) =
      diagonal rows columns steps ++ [(steps % rows, steps % columns)] := by
  simp [diagonal, List.range_succ]

variable {rows columns : Nat}

/-- Both counters are at their last value. -/
theorem corner_iff (rowsPos : 0 < rows) (columnsPos : 0 < columns) (k : Nat) :
    (k % rows = rows - 1 ∧ k % columns = columns - 1) ↔ rows.lcm columns ∣ k + 1 := by
  obtain ⟨lastRow, rfl⟩ := Nat.exists_eq_succ_of_ne_zero rowsPos.ne'
  obtain ⟨lastColumn, rfl⟩ := Nat.exists_eq_succ_of_ne_zero columnsPos.ne'
  rw [Nat.lcm_dvd_iff, Nat.dvd_iff_mod_eq_zero, Nat.dvd_iff_mod_eq_zero,
    Nat.succ_mod_succ_eq_zero_iff, Nat.succ_mod_succ_eq_zero_iff]
  rfl

/-- Before the last step of the walk, the last pair was not visited. -/
theorem corner_not_mem (rowsPos : 0 < rows) (columnsPos : 0 < columns) {steps : Nat}
    (early : steps < rows.lcm columns) :
    (rows - 1, columns - 1) ∉ diagonal rows columns steps := by
  intro visited
  obtain ⟨k, before, same⟩ := List.mem_map.mp visited
  have corner := (corner_iff rowsPos columnsPos k).mp (Prod.mk.inj same)
  have reached := Nat.le_of_dvd (Nat.succ_pos k) corner
  have bound := List.mem_range.mp before
  omega

/-- No pair is visited twice during the walk. -/
theorem nodup_diagonal {steps : Nat} (walk : steps ≤ rows.lcm columns) :
    (diagonal rows columns steps).Nodup := by
  refine List.Nodup.map_on ?_ List.nodup_range
  intro first firstMem second secondMem same
  have firstBound := List.mem_range.mp firstMem
  have secondBound := List.mem_range.mp secondMem
  rcases Prod.mk.inj same with ⟨sameRow, sameColumn⟩
  wlog order : first ≤ second generalizing first second
  · exact (this second secondMem first firstMem same.symm secondBound firstBound sameRow.symm
      sameColumn.symm (Nat.le_of_not_le order)).symm
  have period : rows.lcm columns ∣ second - first :=
    Nat.lcm_dvd ((Nat.modEq_iff_dvd' order).mp sameRow) ((Nat.modEq_iff_dvd' order).mp sameColumn)
  have zero := Nat.eq_zero_of_dvd_of_lt period (by omega)
  omega

/-- The whole walk visits every pair exactly when the numbers of rows and columns
are coprime. -/
theorem covers_iff (rowsPos : 0 < rows) (columnsPos : 0 < columns) :
    (∀ row < rows, ∀ column < columns,
        (row, column) ∈ diagonal rows columns (rows.lcm columns)) ↔ rows.Coprime columns := by
  constructor
  · intro covers
    by_cases one : columns = 1
    · rw [one]
      exact Nat.coprime_one_right rows
    · obtain ⟨k, -, same⟩ := List.mem_map.mp (covers 0 rowsPos 1 (by omega))
      rcases Prod.mk.inj same with ⟨row, column⟩
      have inRow : rows.gcd columns ∣ k :=
        (Nat.gcd_dvd_left _ _).trans (Nat.dvd_of_mod_eq_zero row)
      have inColumn : rows.gcd columns ∣ k % columns :=
        (Nat.dvd_mod_iff (Nat.gcd_dvd_right _ _)).mpr inRow
      rw [column] at inColumn
      exact Nat.eq_one_of_dvd_one inColumn
  · intro coprime row rowBound column columnBound
    let k := Nat.chineseRemainder coprime row column
    refine List.mem_map.mpr ⟨k.val, List.mem_range.mpr ?_, ?_⟩
    · rw [Nat.Coprime.lcm_eq_mul coprime]
      exact Nat.chineseRemainder_lt_mul coprime row column rowsPos.ne' columnsPos.ne'
    · have rowEq : k.val % rows = row % rows := k.property.1
      have columnEq : k.val % columns = column % columns := k.property.2
      rw [rowEq, columnEq, Nat.mod_eq_of_lt rowBound, Nat.mod_eq_of_lt columnBound]

end Cva6Hpd.Hw
