import Cva6Hpd.Hpdcache.Memctrl.Data
import Mathlib.Tactic.IntervalCases

/-!
# The lines in the data arrays

The grid of RAMs as what it stands for: the words of the lines of each set and way. Every word
has a RAM, an address and a place of its own, and the columns that a request selects are those
of the words it asks for.
-/

namespace Cva6Hpd.Hpdcache

open Cva6Hpd.Hw
open Cva6Hpd.Common

namespace Grid

variable {cfg : Cfg} (grid : Grid cfg)

/-! ## The place of a way -/

@[simp]
theorem wayRow_wayAt (row : Fin grid.yCuts) (place : Fin grid.dataWaysPerRamWord) :
    grid.wayRow (grid.wayAt row place) = row := by
  apply Fin.ext
  rw [wayRow, wayAt]
  simp only
  rw [Nat.mul_comm, Nat.mul_add_div grid.dataWaysPerRamWord_pos, Nat.div_eq_of_lt place.isLt,
    Nat.add_zero]

@[simp]
theorem wayWord_wayAt (row : Fin grid.yCuts) (place : Fin grid.dataWaysPerRamWord) :
    grid.wayWord (grid.wayAt row place) = place := by
  apply Fin.ext
  rw [wayWord, wayAt]
  simp only
  rw [Nat.mul_add_mod_self_right, Nat.mod_eq_of_lt place.isLt]

@[simp]
theorem wayAt_wayRow_wayWord (way : cfg.Way) :
    grid.wayAt (grid.wayRow way) (grid.wayWord way) = way := by
  apply Fin.ext
  simp only [wayAt, wayRow, wayWord]
  exact Nat.div_add_mod' _ _

theorem wayAt_eq_iff (row : Fin grid.yCuts) (place : Fin grid.dataWaysPerRamWord)
    (way : cfg.Way) :
    grid.wayAt row place = way ↔ row = grid.wayRow way ∧ place = grid.wayWord way := by
  constructor
  · rintro rfl
    simp
  · rintro ⟨rfl, rfl⟩
    simp

theorem way_eq_iff (way way' : cfg.Way) :
    way = way' ↔ grid.wayRow way = grid.wayRow way' ∧ grid.wayWord way = grid.wayWord way' := by
  rw [← wayAt_eq_iff, wayAt_wayRow_wayWord]

/-! ## The place of a word -/

/-- Two words are of the same access. -/
def SameAccess (first second : cfg.Word) : Prop :=
  first.val / cfg.accessWords = second.val / cfg.accessWords

instance decidableSameAccess (first second : cfg.Word) : Decidable (SameAccess first second) :=
  inferInstanceAs (Decidable (_ = _))

/-- Two words are of the same request word. -/
def SameReqWord (first second : cfg.Word) : Prop :=
  first.val / grid.reqWords = second.val / grid.reqWords

instance decidableSameReqWord (first second : cfg.Word) :
    Decidable (grid.SameReqWord first second) :=
  inferInstanceAs (Decidable (_ = _))

theorem access_lt (word : cfg.Word) : word.val / cfg.accessWords < grid.entrPerSet := by
  apply Nat.div_lt_of_lt_mul
  rw [Nat.mul_comm, ← grid.clWords_eq]
  exact word.isLt

end Grid

/-- The words that a request of a size asks for: those from its word on, inside the access. -/
def Selects (cfg : Cfg) (size : Nat) (word other : cfg.Word) : Prop :=
  Grid.SameAccess other word ∧ word ≤ other ∧ other.val < word.val + Memctrl.Data.csWords cfg size

instance decidableSelects (cfg : Cfg) (size : Nat) (word other : cfg.Word) :
    Decidable (Selects cfg size word other) :=
  inferInstanceAs (Decidable (_ ∧ _))

namespace Memctrl.Data

variable {cfg : Cfg} {grid : Grid cfg}

/-! ## Rows, columns and addresses -/

theorem wayToDataRamRow_single (way : cfg.Way) :
    wayToDataRamRow grid (Bits.single way) = Bits.single (grid.wayRow way) := by
  funext row
  rw [Bool.eq_iff_iff, wayToDataRamRow, Bits.any_eq_true_iff, Bits.single_eq_true_iff]
  constructor
  · rintro ⟨place, hit⟩
    rw [Bits.single_eq_true_iff, grid.wayAt_eq_iff] at hit
    exact hit.1
  · rintro rfl
    exact ⟨grid.wayWord way, by simp⟩

theorem wayToDataRamWord_single (way : cfg.Way) :
    wayToDataRamWord grid (Bits.single way) = grid.wayWord way := by
  have hit : (Bits.single way).any = true :=
    (Bits.any_eq_true_iff _).mpr ⟨way, Bits.single_self way⟩
  rw [wayToDataRamWord, if_pos hit, Bits.firstIndex_single]

theorem wayToDataRamRow_zero (row : Fin grid.yCuts) :
    wayToDataRamRow grid Bits.zero row = false := by
  rw [wayToDataRamRow, Bits.any_eq_false_iff]
  intro place
  rfl

theorem csOffset_eq (grid : Grid cfg) (word : cfg.Word) :
    csOffset word = word.val % cfg.accessWords := by
  rw [csOffset, grid.accessWords_pow]
  split_ifs with wide
  · rfl
  · have one : cfg.accessWords = 1 := by
      have positive := cfg.accessWords_pos
      omega
    rw [one, Nat.mod_one]

theorem computeDataRamCs_column (grid : Grid cfg) (size : Nat) {word other : cfg.Word}
    (same : Grid.SameAccess other word) :
    computeDataRamCs size word (Grid.column other) = true ↔ Selects cfg size word other := by
  have whole := Nat.div_add_mod other.val cfg.accessWords
  have start := Nat.div_add_mod word.val cfg.accessWords
  rw [Grid.SameAccess] at same
  rw [same] at whole
  rw [computeDataRamCs, csOffset_eq grid, Selects, Grid.SameAccess, Bool.and_eq_true,
    decide_eq_true_eq, decide_eq_true_eq, Fin.le_def]
  simp only [Grid.column]
  constructor
  · rintro ⟨lower, upper⟩
    exact ⟨same, by omega, by omega⟩
  · rintro ⟨_, lower, upper⟩
    exact ⟨by omega, by omega⟩

theorem val_setToDataRamAddr (set : cfg.Set) (word : cfg.Word) :
    (setToDataRamAddr grid set word).val =
      set.val * grid.entrPerSet + word.val / cfg.accessWords := by
  apply Nat.mod_eq_of_lt
  calc
    set.val * grid.entrPerSet + word.val / cfg.accessWords
        < set.val * grid.entrPerSet + grid.entrPerSet :=
      Nat.add_lt_add_left (grid.access_lt word) _
    _ = (set.val + 1) * grid.entrPerSet := (Nat.succ_mul _ _).symm
    _ ≤ grid.depth := Nat.mul_le_mul_right _ set.isLt

theorem setToDataRamAddr_eq_iff (set set' : cfg.Set) (word word' : cfg.Word) :
    setToDataRamAddr grid set word = setToDataRamAddr grid set' word' ↔
      set = set' ∧ Grid.SameAccess word word' := by
  constructor
  · intro equal
    have values := congrArg Fin.val equal
    rw [val_setToDataRamAddr, val_setToDataRamAddr] at values
    have quotient (set : cfg.Set) (word : cfg.Word) :
        (set.val * grid.entrPerSet + word.val / cfg.accessWords) / grid.entrPerSet =
          set.val := by
      rw [Nat.mul_comm, Nat.mul_add_div grid.entrPerSet_pos,
        Nat.div_eq_of_lt (grid.access_lt word), Nat.add_zero]
    have remainder (set : cfg.Set) (word : cfg.Word) :
        (set.val * grid.entrPerSet + word.val / cfg.accessWords) % grid.entrPerSet =
          word.val / cfg.accessWords := by
      rw [Nat.mul_add_mod_self_right, Nat.mod_eq_of_lt (grid.access_lt word)]
    constructor
    · apply Fin.ext
      rw [← quotient set word, values, quotient]
    · rw [Grid.SameAccess, ← remainder set word, values, remainder]
  · rintro ⟨rfl, same⟩
    apply Fin.ext
    rw [Grid.SameAccess] at same
    rw [val_setToDataRamAddr, val_setToDataRamAddr, same]

/-! ## Whole accesses -/

/-- The word of a line. -/
def lineWord (state : State grid) (set : cfg.Set) (way : cfg.Way) (word : cfg.Word) :
    cfg.DataWord :=
  (state.dataSram (grid.wayRow way) (Grid.column word)).mem (setToDataRamAddr grid set word)
    (grid.wayWord way)

theorem reqWord_column (grid : Grid cfg) {word other : cfg.Word}
    (same : grid.SameReqWord other word) :
    (reqWordIndex grid word * grid.reqWords + (grid.reqLane (Grid.column other)).val) %
      cfg.accessWords = (Grid.column other).val := by
  have index : reqWordIndex grid word = other.val / grid.reqWords % grid.dataReqRatio := by
    rw [Grid.SameReqWord] at same
    rw [reqWordIndex, grid.reqWords_pow, grid.dataReqRatio_pow, same]
  have lane : (grid.reqLane (Grid.column other)).val = other.val % grid.reqWords := by
    simp only [Grid.reqLane, Grid.column, grid.accessWords_eq]
    exact Nat.mod_mod_of_dvd _ (Nat.dvd_mul_left _ _)
  have split : other.val % cfg.accessWords =
      other.val / grid.reqWords % grid.dataReqRatio * grid.reqWords +
        other.val % grid.reqWords := by
    rw [grid.accessWords_eq, Nat.mul_comm grid.dataReqRatio, Nat.mod_mul, Nat.add_comm,
      Nat.mul_comm]
  rw [index, lane, ← split]
  exact Nat.mod_mod _ _

theorem demuxBe_column (be : grid.ReqBe) {word other : cfg.Word}
    (same : Grid.SameAccess other word) (b : Fin cfg.wordBytes) :
    demuxBe word be (Grid.column other) b = true ↔
      grid.SameReqWord other word ∧ be (grid.reqLane (Grid.column other)) b = true := by
  have index (word : cfg.Word) : word.val % cfg.accessWords / grid.reqWords =
      word.val / grid.reqWords % grid.dataReqRatio := by
    rw [grid.accessWords_eq, Nat.mul_comm, Nat.mod_mul_right_div_self]
  have outer (word : cfg.Word) : word.val / grid.reqWords / grid.dataReqRatio =
      word.val / cfg.accessWords := by
    rw [Nat.div_div_eq_div_mul, grid.accessWords_eq, Nat.mul_comm]
  have together : (Grid.column other).val / grid.reqWords = reqWordIndex grid word ↔
      grid.SameReqWord other word := by
    rw [reqWordIndex, grid.reqWords_pow, grid.dataReqRatio_pow, Grid.SameReqWord]
    simp only [Grid.column]
    rw [index]
    constructor
    · intro remainder
      rw [← Nat.div_add_mod (other.val / grid.reqWords) grid.dataReqRatio,
        ← Nat.div_add_mod (word.val / grid.reqWords) grid.dataReqRatio, remainder, outer, outer,
        same]
    · intro equal
      rw [equal]
  rw [demuxBe, Bool.and_eq_true, decide_eq_true_eq, together]

end Memctrl.Data

end Cva6Hpd.Hpdcache
