import Mathlib.Algebra.GroupWithZero.Nat
import Mathlib.Data.Fin.Basic
import Mathlib.Data.Fintype.Basic
import Mathlib.Data.List.FinRange
import Mathlib.Order.Fin.Basic

/-!
# Bit vectors indexed by position

A vector of `n` wires is a function `Fin n → Bool`. This file has the
operations that request and grant vectors need: reduction, the lowest set bit,
the index of the last set bit, and the one-hot predicates that relate them.
-/

namespace Cva6Hpd.Hw

universe u

/-- A vector of `n` wires. -/
abbrev Bits (n : Nat) := Fin n → Bool

/-! The positions of short vectors are written as numerals. -/

instance neZeroOne : NeZero 1 := ⟨Nat.one_ne_zero⟩

instance neZeroTwo : NeZero 2 := ⟨Nat.succ_ne_zero 1⟩

instance neZeroThree : NeZero 3 := ⟨Nat.succ_ne_zero 2⟩

instance neZeroFour : NeZero 4 := ⟨Nat.succ_ne_zero 3⟩

namespace Bits

variable {n : Nat}

/-- The all-zero vector. -/
def zero : Bits n := fun _ => false

/-- Reduction OR. -/
def any (bits : Bits n) : Bool :=
  decide (∃ i, bits i = true)

/-- Reduction AND. -/
def all (bits : Bits n) : Bool :=
  decide (∀ i, bits i = true)

/-- The vector with exactly the bit `i` set. -/
def single (i : Fin n) : Bits n := fun j => decide (j = i)

/-- No two bits are set. -/
def AtMostOne (bits : Bits n) : Prop :=
  ∀ i j, bits i = true → bits j = true → i = j

/-- Exactly one bit is set. -/
def OneHot (bits : Bits n) : Prop :=
  ∃ i, bits = single i

@[simp]
theorem zero_apply (i : Fin n) : (zero : Bits n) i = false :=
  rfl

@[simp]
theorem any_eq_true_iff (bits : Bits n) : bits.any = true ↔ ∃ i, bits i = true := by
  simp [any]

@[simp]
theorem any_eq_false_iff (bits : Bits n) : bits.any = false ↔ ∀ i, bits i = false := by
  simp [any]

@[simp]
theorem all_eq_true_iff (bits : Bits n) : bits.all = true ↔ ∀ i, bits i = true := by
  simp [all]

@[simp]
theorem all_eq_false_iff (bits : Bits n) : bits.all = false ↔ ∃ i, bits i = false := by
  simp [all]

@[simp]
theorem single_eq_true_iff (i j : Fin n) : single i j = true ↔ j = i := by
  simp [single]

theorem single_self (i : Fin n) : single i i = true := by
  simp

theorem atMostOne_single (i : Fin n) : (single i).AtMostOne := by
  intro j k first second
  exact ((single_eq_true_iff i j).mp first).trans
    ((single_eq_true_iff i k).mp second).symm

/-! ## The lowest set bit -/

/-- The lowest set bit, as a vector with at most one bit set. -/
def lowest (bits : Bits n) : Bits n := fun i =>
  bits i && !decide (∃ j, j < i ∧ bits j = true)

theorem lowest_eq_true_iff (bits : Bits n) (i : Fin n) :
    bits.lowest i = true ↔ bits i = true ∧ ∀ j, j < i → bits j = false := by
  simp [lowest]

theorem lowest_le {bits : Bits n} {i : Fin n} (hit : bits.lowest i = true) :
    bits i = true :=
  ((lowest_eq_true_iff bits i).mp hit).1

theorem atMostOne_lowest (bits : Bits n) : bits.lowest.AtMostOne := by
  intro i j first second
  rcases (lowest_eq_true_iff bits i).mp first with ⟨setI, beforeI⟩
  rcases (lowest_eq_true_iff bits j).mp second with ⟨setJ, beforeJ⟩
  rcases lt_trichotomy i j with less | equal | greater
  · rw [beforeJ i less] at setI
    contradiction
  · exact equal
  · rw [beforeI j greater] at setJ
    contradiction

theorem exists_lowest {bits : Bits n} {i : Fin n} (hit : bits i = true) :
    ∃ j, bits.lowest j = true := by
  induction i using WellFoundedLT.induction with
  | ind i inductionHypothesis =>
      by_cases before : ∃ j, j < i ∧ bits j = true
      · rcases before with ⟨j, less, hitJ⟩
        exact inductionHypothesis j less hitJ
      · refine ⟨i, (lowest_eq_true_iff bits i).mpr ⟨hit, ?_⟩⟩
        intro j less
        exact Bool.eq_false_iff.mpr fun hitJ => before ⟨j, less, hitJ⟩

@[simp]
theorem any_lowest (bits : Bits n) : bits.lowest.any = bits.any := by
  rw [Bool.eq_iff_iff, any_eq_true_iff, any_eq_true_iff]
  constructor
  · rintro ⟨i, hit⟩
    exact ⟨i, lowest_le hit⟩
  · rintro ⟨i, hit⟩
    exact exists_lowest hit

/-! ## One-hot vectors -/

theorem oneHot_of_atMostOne {bits : Bits n} (unique : bits.AtMostOne)
    {i : Fin n} (hit : bits i = true) : bits = single i := by
  funext j
  rw [Bool.eq_iff_iff, single_eq_true_iff]
  constructor
  · intro hitJ
    exact unique j i hitJ hit
  · rintro rfl
    exact hit

/-! ## The index of the last set bit -/

/-- The index that a loop over all bits, overwriting its result at every set
bit, ends with; zero when no bit is set. -/
def lastIndex [NeZero n] (bits : Bits n) : Fin n :=
  (List.finRange n).foldl (fun index i => if bits i then i else index) 0

theorem foldl_lastIndex_spec (bits : Bits n) (positions : List (Fin n))
    (start : Fin n) :
    let index := positions.foldl (fun index i => if bits i then i else index) start
    (bits index = true ∧ index ∈ positions) ∨
      (index = start ∧ ∀ i ∈ positions, bits i = false) := by
  induction positions generalizing start with
  | nil => simp
  | cons i positions inductionHypothesis =>
      simp only [List.foldl_cons]
      rcases inductionHypothesis (if bits i then i else start) with
        ⟨hit, member⟩ | ⟨equal, misses⟩
      · exact Or.inl ⟨hit, List.mem_cons_of_mem i member⟩
      · rw [equal]
        cases hit : bits i with
        | true => simp [hit]
        | false =>
            refine Or.inr ⟨by simp, ?_⟩
            intro j member
            rcases List.mem_cons.mp member with rfl | member
            · exact hit
            · exact misses j member

theorem lastIndex_hit [NeZero n] {bits : Bits n} {i : Fin n} (hit : bits i = true) :
    bits bits.lastIndex = true := by
  rcases foldl_lastIndex_spec bits (List.finRange n) 0 with ⟨found, _⟩ | ⟨_, misses⟩
  · exact found
  · have miss := misses i (List.mem_finRange i)
    rw [hit] at miss
    contradiction

theorem lastIndex_eq [NeZero n] {bits : Bits n} (unique : bits.AtMostOne)
    {i : Fin n} (hit : bits i = true) : bits.lastIndex = i :=
  unique _ _ (lastIndex_hit hit) hit

@[simp]
theorem lastIndex_single [NeZero n] (i : Fin n) : (single i).lastIndex = i :=
  lastIndex_eq (atMostOne_single i) (single_self i)

/-- The index of the first set bit; zero when no bit is set. -/
def firstIndex [NeZero n] (bits : Bits n) : Fin n :=
  bits.lowest.lastIndex

theorem lowest_firstIndex [NeZero n] {bits : Bits n} {i : Fin n} (hit : bits i = true) :
    bits.lowest bits.firstIndex = true := by
  rcases exists_lowest hit with ⟨j, lowest⟩
  exact lastIndex_hit lowest

theorem firstIndex_hit [NeZero n] {bits : Bits n} {i : Fin n} (hit : bits i = true) :
    bits bits.firstIndex = true :=
  lowest_le (lowest_firstIndex hit)

theorem firstIndex_eq [NeZero n] {bits : Bits n} (unique : bits.AtMostOne)
    {i : Fin n} (hit : bits i = true) : bits.firstIndex = i := by
  rcases exists_lowest hit with ⟨j, lowest⟩
  have same : j = i := unique j i (lowest_le lowest) hit
  rw [firstIndex, lastIndex_eq (atMostOne_lowest bits) lowest, same]

@[simp]
theorem firstIndex_single [NeZero n] (i : Fin n) : (single i).firstIndex = i :=
  firstIndex_eq (atMostOne_single i) (single_self i)

/-- The indices of the set bits. -/
def indices (bits : Bits n) : List (Fin n) := (List.finRange n).filter bits

theorem mem_indices {bits : Bits n} {i : Fin n} : i ∈ bits.indices ↔ bits i = true := by
  simp [indices]

theorem indices_single (i : Fin n) : (single i).indices = [i] := by
  have once : (List.finRange n).count i = 1 :=
    List.count_eq_one_of_mem (List.nodup_finRange n) (List.mem_finRange i)
  change (List.finRange n).filter (fun j => decide (j = i)) = [i]
  rw [List.filter_eq, once]
  rfl

theorem indices_of_none {bits : Bits n} (none : ∀ i, bits i = false) : bits.indices = [] := by
  simp [indices, none]

/-! ## Vectors set from the low end -/

/-- A bit is set only when the lower ones are. -/
def InOrder (bits : Bits n) : Prop :=
  ∀ i j, i ≤ j → bits j = true → bits i = true

instance decidableInOrder (bits : Bits n) : Decidable bits.InOrder :=
  inferInstanceAs (Decidable (∀ _ _, _ → _ → _))

theorem indices_succ {n : Nat} (bits : Bits (n + 1)) :
    bits.indices = (if bits 0 then [0] else []) ++
      (indices fun i => bits i.succ).map Fin.succ := by
  have rest : ((List.finRange n).map Fin.succ).filter bits =
      (indices fun i => bits i.succ).map Fin.succ := List.filter_map
  rw [indices, List.finRange_succ, List.filter_cons, rest]
  split <;> rfl

theorem InOrder.indices_eq {n : Nat} {bits : Bits n} (ordered : bits.InOrder) :
    bits.indices = (List.finRange n).take bits.indices.length := by
  induction n with
  | zero => rfl
  | succ n inductionHypothesis =>
      have later : InOrder fun i : Fin n => bits i.succ :=
        fun i j less => ordered i.succ j.succ (Fin.succ_le_succ_iff.mpr less)
      rw [indices_succ]
      cases first : bits 0 with
      | true =>
          have rest := inductionHypothesis later
          simp only [if_true, List.cons_append, List.nil_append, List.length_cons,
            List.length_map, List.finRange_succ, List.take_succ_cons, ← List.map_take]
          rw [← rest]
      | false =>
          have none (i : Fin n) : bits i.succ = false := by
            by_contra set
            rw [ordered 0 i.succ (Fin.zero_le _) (Bool.eq_true_of_not_eq_false set)] at first
            contradiction
          rw [indices_of_none none]
          rfl

theorem length_indices_le (bits : Bits n) : bits.indices.length ≤ n := by
  calc
    bits.indices.length ≤ (List.finRange n).length := List.length_filter_le _ _
    _ = n := List.length_finRange

/-- The set bits are the lowest ones, as many as there are. -/
theorem InOrder.eq_true_iff {bits : Bits n} (ordered : bits.InOrder) (i : Fin n) :
    bits i = true ↔ i.val < bits.indices.length := by
  rw [← mem_indices, ordered.indices_eq, List.length_take, List.length_finRange,
    Nat.min_eq_left bits.length_indices_le, List.mem_take_iff_getElem]
  constructor
  · rintro ⟨k, bound, rfl⟩
    rw [List.length_finRange] at bound
    simp only [List.getElem_finRange, Fin.val_cast]
    omega
  · intro bound
    exact ⟨i.val, by rw [List.length_finRange]; omega, by simp⟩

theorem InOrder.val_getElem_indices {bits : Bits n} (ordered : bits.InOrder) {k : Nat}
    (bound : k < bits.indices.length) : (bits.indices[k]).val = k := by
  have first := ordered.indices_eq
  have bound' : k < ((List.finRange n).take bits.indices.length).length := by
    rwa [← first]
  have same : bits.indices[k] = ((List.finRange n).take bits.indices.length)[k] :=
    List.getElem_of_eq first bound
  rw [same, List.getElem_take, List.getElem_finRange, Fin.val_cast]

end Bits

end Cva6Hpd.Hw
