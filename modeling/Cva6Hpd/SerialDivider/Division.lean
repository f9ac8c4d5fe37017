import Cva6Hpd.SerialDivider.Core
import Cva6Hpd.SerialDivider.Instructions
import Cva6Hpd.Hw.Restoring

/-!
# The quotient and the remainder

The registers of the divider hold magnitudes under the sign of the divisor. The magnitudes run
through restoring division, and `res_o` gives the result its own sign.
-/

namespace Cva6Hpd.SerialDivider

open Cva6Hpd.Hw

variable {cfg : Cfg}

/-! ## One subtraction -/

/-- The registers hold the rest of the dividend and the shifted divisor under the sign of the
divisor. A negative divisor may be shifted out of its register. -/
structure Holds (regs : Regs cfg) (rest shifted : Nat) : Prop where
  opA : regs.opAQ = signed _ regs.compInvQ rest
  opB : regs.opBQ = signed _ regs.compInvQ shifted
  zero : regs.opBZeroQ = false
  rest_lt : rest < 2 ^ cfg.width
  shifted_pos : 0 < shifted
  shifted_le : shifted ≤ 2 ^ cfg.width
  shifted_lt : regs.compInvQ = false → shifted < 2 ^ cfg.width

section Subtract

variable {regs : Regs cfg} {rest shifted : Nat}

theorem Holds.abComp_eq (holds : Holds regs rest shifted) :
    abComp regs = decide (shifted ≤ rest) := by
  have positive := holds.shifted_pos
  have restBound := holds.rest_lt
  have divisorBound := holds.shifted_le
  rw [abComp, holds.opA, holds.opB, holds.zero, Bool.or_false]
  cases sign : regs.compInvQ with
  | false =>
      have small := holds.shifted_lt sign
      have isRest := toNat_signed_false restBound
      have isDivisor := toNat_signed_false small
      simp only [BitVec.lt_def, ← BitVec.toNat_inj, isRest, isDivisor, Bool.xor_false,
        BitVec.ofNat_eq_ofNat, BitVec.toNat_ofNat, Nat.zero_mod, ← Bool.decide_or, ne_eq,
        ← Bool.decide_and, decide_eq_decide]
      omega
  | true =>
      rcases Nat.eq_zero_or_pos rest with rfl | restPositive
      · simp [signed_zero, Nat.pos_iff_ne_zero.mp positive]
      have isRest := toNat_signed_true restPositive restBound
      rcases Nat.lt_or_eq_of_le divisorBound with small | rfl
      · have isDivisor := toNat_signed_true positive small
        simp only [BitVec.lt_def, ← BitVec.toNat_inj, isRest, isDivisor, Bool.xor_true,
          BitVec.ofNat_eq_ofNat, BitVec.toNat_ofNat, Nat.zero_mod, ← decide_not, ← Bool.decide_or,
          ne_eq, ← Bool.decide_and, decide_eq_decide]
        omega
      · simp only [signed_two_pow, BitVec.lt_def, ← BitVec.toNat_inj, isRest, Bool.xor_true,
          BitVec.ofNat_eq_ofNat, BitVec.toNat_ofNat, Nat.zero_mod, ← decide_not, ← Bool.decide_or,
          ne_eq, ← Bool.decide_and, decide_eq_decide]
        omega

theorem Holds.shiftB_eq {half : Nat} (holds : Holds regs rest (2 * half)) :
    shiftB regs = signed _ regs.compInvQ half := by
  have positive := holds.shifted_pos
  have bound := holds.shifted_le
  have double : 2 ^ cfg.width = 2 * 2 ^ (cfg.width - 1) := by
    rw [← Nat.pow_succ', Nat.succ_eq_add_one, Nat.sub_add_cancel (Nat.le_of_lt cfg.width_ge)]
  rw [shiftB, holds.opB]
  apply BitVec.eq_of_toNat_eq
  cases sign : regs.compInvQ with
  | false =>
      have small := holds.shifted_lt sign
      rw [if_neg Bool.false_ne_true, BitVec.toNat_ushiftRight, toNat_signed_false small,
        toNat_signed_false (by omega), Nat.shiftRight_one, Nat.mul_div_cancel_left _ (by decide)]
  | true =>
      -- The ones that are shifted in keep the divisor negative.
      have some := Nat.two_pow_pos (cfg.width - 1)
      have isHalf := @toNat_signed_true cfg.width half (by omega) (by omega)
      rw [if_pos rfl, BitVec.toNat_or, BitVec.toNat_ushiftRight, BitVec.toNat_twoPow,
        Nat.mod_eq_of_lt (show 2 ^ (cfg.width - 1) < 2 ^ cfg.width by omega), isHalf]
      rcases Nat.lt_or_eq_of_le bound with small | whole
      · have low : (2 ^ cfg.width - 2 * half) >>> 1 = 2 ^ (cfg.width - 1) - half := by
          rw [Nat.shiftRight_one]
          omega
        have apart := Nat.two_pow_add_eq_or_of_lt
          (show 2 ^ (cfg.width - 1) - half < 2 ^ (cfg.width - 1) by omega) 1
        rw [Nat.mul_one] at apart
        rw [toNat_signed_true positive small, low, Nat.or_comm, ← apart]
        omega
      · rw [whole, signed_two_pow]
        simp only [BitVec.ofNat_eq_ofNat, BitVec.toNat_ofNat, Nat.zero_mod, Nat.zero_shiftRight,
          Nat.zero_or]
        omega

/-- One cycle subtracts where the shifted divisor fits. -/
theorem Holds.opAQ_divide (holds : Holds regs rest shifted) :
    (divide regs).opAQ =
      signed _ regs.compInvQ (if shifted ≤ rest then rest - shifted else rest) := by
  change (if abComp regs then regs.opAQ - regs.opBQ else regs.opAQ) = _
  rw [holds.abComp_eq, holds.opA, holds.opB]
  split
  case isTrue fits =>
    have le : shifted ≤ rest := of_decide_eq_true fits
    rw [if_pos le, signed_sub le]
  case isFalse large => rw [if_neg (by simpa using large)]

theorem Holds.resQ_divide {quotient : Nat} (holds : Holds regs rest shifted)
    (isQuotient : regs.resQ = BitVec.ofNat _ quotient) :
    (divide regs).resQ =
      BitVec.ofNat _ (if shifted ≤ rest then 2 * quotient + 1 else 2 * quotient) := by
  change regs.resQ <<< 1 ||| (if abComp regs then 1 else 0) = _
  have doubled : BitVec.ofNat cfg.width quotient <<< 1 = BitVec.ofNat _ (2 * quotient) := by
    apply BitVec.eq_of_toNat_eq
    rw [BitVec.toNat_shiftLeft, BitVec.toNat_ofNat, BitVec.toNat_ofNat, Nat.shiftLeft_eq,
      Nat.pow_one, Nat.mod_mul_mod, Nat.mul_comm]
  have even : BitVec.ofNat cfg.width quotient <<< 1 &&& 1 = 0 := by
    ext i bound
    cases i <;> simp
  rw [doubled] at even
  rw [holds.abComp_eq, isQuotient, doubled]
  split
  case isTrue fits =>
    have le : shifted ≤ rest := of_decide_eq_true fits
    rw [if_pos le, BitVec.ofNat_add, ← BitVec.add_eq_or_of_and_eq_zero _ _ even]
    rfl
  case isFalse large =>
    rw [if_neg (by simpa using large)]
    exact BitVec.or_zero

theorem Holds.next {half : Nat} (holds : Holds regs rest (2 * half)) :
    Holds (divide regs) (if 2 * half ≤ rest then rest - 2 * half else rest) half where
  opA := holds.opAQ_divide
  opB := holds.shiftB_eq
  zero := holds.zero
  rest_lt := by
    have bound := holds.rest_lt
    split <;> omega
  shifted_pos := by
    have positive := holds.shifted_pos
    omega
  shifted_le := by
    have bound := holds.shifted_le
    omega
  shifted_lt sign := by
    have bound := holds.shifted_lt sign
    omega

end Subtract

/-! ## The loop -/

/-- So many subtractions. -/
def divides : Nat → Regs cfg → Regs cfg
  | 0, regs => regs
  | n + 1, regs => divides n (divide regs)

/-- The registers from which the result of a division is read. -/
def divided (regs : Regs cfg) : Regs cfg :=
  if known regs then regs else divides (regs.cntQ.toNat + 1) regs

/-- What the load decides about the result stays in the registers. -/
def flags (regs : Regs cfg) : Bool × Bool × Bool × Bool × Bool :=
  (regs.remSelQ, regs.compInvQ, regs.resInvQ, regs.opBZeroQ, regs.opBNegOneQ)

theorem flags_divides (n : Nat) (regs : Regs cfg) : flags (divides n regs) = flags regs := by
  induction n generalizing regs with
  | zero => rfl
  | succ n inductionHypothesis => exact inductionHypothesis (divide regs)

theorem Holds.run {regs : Regs cfg} {divisor n rest quotient : Nat}
    (holds : Holds regs rest (divisor * 2 ^ n))
    (isQuotient : regs.resQ = BitVec.ofNat _ quotient) :
    (divides (n + 1) regs).opAQ =
        signed _ regs.compInvQ (restoring divisor (n + 1) rest quotient).1 ∧
      (divides (n + 1) regs).resQ =
        BitVec.ofNat _ (restoring divisor (n + 1) rest quotient).2 := by
  induction n generalizing regs rest quotient with
  | zero =>
      have isRest := holds.opAQ_divide
      have isResult := holds.resQ_divide isQuotient
      simp only [restoring, divides]
      rw [isRest, isResult]
      split <;> exact ⟨rfl, rfl⟩
  | succ n inductionHypothesis =>
      have isResult := holds.resQ_divide isQuotient
      have half : divisor * 2 ^ (n + 1) = 2 * (divisor * 2 ^ n) := by ring
      rw [half] at holds isResult
      have next := inductionHypothesis holds.next isResult
      rw [restoring, half]
      rw [show divides (n + 1 + 1) regs =
        divides (n + 1) (divide regs) from rfl]
      split
      case isTrue fits =>
        rw [if_pos fits, if_pos fits] at next
        exact next
      case isFalse large =>
        rw [if_neg large, if_neg large] at next
        exact next

/-! ## Alignment -/

section Align

variable (r : Request cfg)

/-- The leading zeros of the divisor. -/
def zerosB : Nat := lzc (lzcBInput r)

theorem lzc_bounds {input : BitVec cfg.width} (some : input ≠ 0) :
    lzc input < cfg.width ∧ 2 ^ (cfg.width - 1 - lzc input) ≤ input.toNat ∧
      input.toNat < 2 ^ (cfg.width - lzc input) := by
  have positive : 0 < cfg.width := Nat.lt_of_lt_of_le Nat.two_pos cfg.width_ge
  have isClz : lzc input = input.clz.toNat := if_neg some
  have less := BitVec.clz_lt_iff_ne_zero.mpr some
  rw [isClz]
  refine ⟨?_, BitVec.two_pow_sub_clz_le_toNat_of_ne_zero positive some,
    BitVec.toNat_lt_two_pow_sub_clz⟩
  simpa [BitVec.lt_def, Nat.mod_two_pow_self] using less

/-- The leading zeros of a negative dividend are counted of twice its magnitude less one. -/
theorem magnitude_le_lzcAInput : magnitude r.isSigned r.opA ≤ (lzcAInput r).toNat := by
  cases sign : negative r.isSigned r.opA with
  | false =>
      have input : lzcAInput r = r.opA := by
        rw [lzcAInput]
        exact if_neg (by rw [← negative, sign]; exact Bool.false_ne_true)
      simp [input, magnitude, sign]
  | true =>
      have input : lzcAInput r = (~~~r.opA) <<< 1 ||| 1 := by
        rw [lzcAInput]
        exact if_pos (by rw [← negative, sign])
      have small := magnitude_le r.opA sign
      have bound := r.opA.isLt
      have width := cfg.width_ge
      have double : 2 ^ cfg.width = 2 * 2 ^ (cfg.width - 1) := by
        rw [← Nat.pow_succ', Nat.succ_eq_add_one, Nat.sub_add_cancel (Nat.le_of_lt width)]
      have size : magnitude r.isSigned r.opA = (~~~r.opA).toNat + 1 := by
        simp only [magnitude, sign, if_true, BitVec.toNat_not]
        omega
      have shifted : ((~~~r.opA) <<< 1).toNat = 2 * (~~~r.opA).toNat := by
        rw [BitVec.toNat_shiftLeft, Nat.shiftLeft_eq, Nat.pow_one, Nat.mul_comm]
        exact Nat.mod_eq_of_lt (by omega)
      have one : (1 : BitVec cfg.width).toNat = 1 := by
        simpa using Nat.mod_eq_of_lt (Nat.one_lt_two_pow (by omega))
      have left := @Nat.left_le_or ((~~~r.opA) <<< 1).toNat (1 : BitVec cfg.width).toNat
      have right := @Nat.right_le_or ((~~~r.opA) <<< 1).toNat (1 : BitVec cfg.width).toNat
      rw [input, BitVec.toNat_or, size]
      omega

theorem shiftA_bounds :
    shiftA r ≤ cfg.width ∧ magnitude r.isSigned r.opA < 2 ^ (cfg.width - shiftA r) := by
  have le := magnitude_le_lzcAInput r
  by_cases zero : lzcAInput r = 0
  · rw [shiftA, if_pos zero]
    rw [zero] at le
    exact ⟨Nat.le_refl _, Nat.lt_of_le_of_lt le (by simp)⟩
  · rcases lzc_bounds zero with ⟨less, _, upper⟩
    rw [shiftA, if_neg zero]
    exact ⟨less.le, Nat.lt_of_le_of_lt le upper⟩

theorem divisor_bounds (some : lzcBInput r ≠ 0) :
    zerosB r < cfg.width ∧ 2 ^ (cfg.width - 1 - zerosB r) ≤ magnitude r.isSigned r.opB ∧
      magnitude r.isSigned r.opB ≤ 2 ^ (cfg.width - zerosB r) ∧
      (negative r.isSigned r.opB = false →
        magnitude r.isSigned r.opB < 2 ^ (cfg.width - zerosB r)) := by
  rcases lzc_bounds some with ⟨less, lower, upper⟩
  rw [← zerosB] at less lower upper
  cases sign : negative r.isSigned r.opB with
  | false =>
      have input : lzcBInput r = r.opB := by
        rw [lzcBInput]
        exact if_neg (by rw [← negative, sign]; exact Bool.false_ne_true)
      have size : magnitude r.isSigned r.opB = (lzcBInput r).toNat := by
        simp [input, magnitude, sign]
      rw [size]
      exact ⟨less, lower, upper.le, fun _ => upper⟩
  | true =>
      have input : lzcBInput r = ~~~r.opB := by
        rw [lzcBInput]
        exact if_pos (by rw [← negative, sign])
      have size : magnitude r.isSigned r.opB = (lzcBInput r).toNat + 1 := by
        have bound := r.opB.isLt
        simp only [input, magnitude, sign, if_true, BitVec.toNat_not]
        omega
      rw [size]
      exact ⟨less, Nat.le_succ_of_le lower, upper, fun positive => by cases positive⟩

theorem divShift_bounds (less : zerosB r < cfg.width) :
    (divShift r).msb = decide (zerosB r < shiftA r) ∧
      (shiftA r ≤ zerosB r → (divShift r).toNat = zerosB r - shiftA r) := by
  rcases shiftA_bounds r with ⟨le, _⟩
  have room : cfg.width + 1 ≤ 2 ^ Nat.clog 2 (cfg.width + 1) := Nat.le_pow_clog Nat.one_lt_two _
  have double : 2 ^ cfg.shiftBits = 2 * 2 ^ Nat.clog 2 (cfg.width + 1) := Nat.pow_succ'
  have half : 2 ^ (cfg.shiftBits - 1) = 2 ^ Nat.clog 2 (cfg.width + 1) := rfl
  have shift : (divShift r).toNat =
      (2 ^ cfg.shiftBits - shiftA r + zerosB r) % 2 ^ cfg.shiftBits := by
    rw [divShift, BitVec.toNat_sub, BitVec.toNat_ofNat, BitVec.toNat_ofNat, ← zerosB,
      Nat.mod_eq_of_lt (show shiftA r < _ by omega), Nat.mod_eq_of_lt (show zerosB r < _ by omega)]
  rw [BitVec.msb_eq_decide, half, shift]
  rcases Nat.lt_or_ge (zerosB r) (shiftA r) with smaller | larger
  · rw [Nat.mod_eq_of_lt (by omega)]
    refine ⟨?_, fun larger => by omega⟩
    rw [decide_eq_decide]
    omega
  · have wraps : 2 ^ cfg.shiftBits - shiftA r + zerosB r =
        zerosB r - shiftA r + 2 ^ cfg.shiftBits := by omega
    rw [wraps, Nat.add_mod_right, Nat.mod_eq_of_lt (by omega)]
    refine ⟨?_, fun _ => rfl⟩
    rw [decide_eq_decide]
    omega

/-- The magnitude of the divisor, shifted to that of the dividend. -/
theorem alignment (some : lzcBInput r ≠ 0) (le : shiftA r ≤ zerosB r) :
    let shifted := magnitude r.isSigned r.opB * 2 ^ (zerosB r - shiftA r)
    0 < shifted ∧ shifted ≤ 2 ^ cfg.width ∧
      (negative r.isSigned r.opB = false → shifted < 2 ^ cfg.width) ∧
      magnitude r.isSigned r.opA <
        magnitude r.isSigned r.opB * 2 ^ (zerosB r - shiftA r + 1) := by
  rcases shiftA_bounds r with ⟨_, dividend⟩
  rcases divisor_bounds r some with ⟨less, lower, upper, strict⟩
  have positive : 0 < 2 ^ (zerosB r - shiftA r) := Nat.two_pow_pos _
  have whole : 2 ^ (cfg.width - zerosB r) * 2 ^ (zerosB r - shiftA r) ≤ 2 ^ cfg.width := by
    rw [← Nat.pow_add]
    exact Nat.pow_le_pow_right Nat.two_pos (by omega)
  refine ⟨?_, ?_, ?_, ?_⟩
  · exact Nat.mul_pos (Nat.lt_of_lt_of_le (Nat.two_pow_pos _) lower) positive
  · exact (Nat.mul_le_mul_right _ upper).trans whole
  · intro nonnegative
    exact Nat.lt_of_lt_of_le (Nat.mul_lt_mul_of_pos_right (strict nonnegative) positive) whole
  · calc magnitude r.isSigned r.opA
        < 2 ^ (cfg.width - shiftA r) := dividend
      _ = 2 ^ (cfg.width - 1 - zerosB r) * 2 ^ (zerosB r - shiftA r + 1) := by
          rw [← Nat.pow_add]
          congr 1
          omega
      _ ≤ _ := Nat.mul_le_mul_right _ lower

theorem dividend_lt (some : lzcBInput r ≠ 0) (less : zerosB r < shiftA r) :
    magnitude r.isSigned r.opA < magnitude r.isSigned r.opB := by
  rcases shiftA_bounds r with ⟨_, dividend⟩
  rcases divisor_bounds r some with ⟨_, lower, _⟩
  calc magnitude r.isSigned r.opA
      < 2 ^ (cfg.width - shiftA r) := dividend
    _ ≤ 2 ^ (cfg.width - 1 - zerosB r) := Nat.pow_le_pow_right Nat.two_pos (by omega)
    _ ≤ _ := lower

end Align

/-! ## The result -/

section Result

variable (r : Request cfg)

theorem signs_differ :
    (r.isSigned && (r.opA.msb ^^ r.opB.msb)) =
      (negative r.isSigned r.opA ^^ negative r.isSigned r.opB) := by
  cases isSigned : r.isSigned <;> simp [negative]

/-- The dividend takes the sign of the divisor. -/
theorem opAQ_load :
    (load r).opAQ = signed _ (negative r.isSigned r.opB) (magnitude r.isSigned r.opA) := by
  have whole : signed _ (negative r.isSigned r.opA) (magnitude r.isSigned r.opA) = r.opA :=
    signed_magnitude r.opA
  have inverted : -r.opA = signed _ (!negative r.isSigned r.opA) (magnitude r.isSigned r.opA) := by
    rw [← neg_signed, whole]
  change (if r.isSigned && (r.opA.msb ^^ r.opB.msb) then -r.opA else r.opA) = _
  rw [signs_differ, inverted]
  cases signA : negative r.isSigned r.opA <;> cases signB : negative r.isSigned r.opB <;>
    rw [signA] at whole <;> simp [whole]

theorem opBZero_iff : opBZero r = true ↔ r.opB = 0 := by
  rw [opBZero, lzcBInput, Bool.and_eq_true, decide_eq_true_eq, Bool.not_eq_true']
  constructor
  · rintro ⟨zero, positive⟩
    rwa [positive, Bool.and_false, if_neg Bool.false_ne_true] at zero
  · intro zero
    simp [zero]

theorem opBNegOne_iff : opBNegOne r = true ↔ r.isSigned = true ∧ r.opB = BitVec.allOnes _ := by
  rw [opBNegOne, lzcBInput, Bool.and_eq_true, decide_eq_true_eq]
  have positive : 0 < cfg.width := Nat.lt_of_lt_of_le Nat.two_pos cfg.width_ge
  constructor
  · rintro ⟨zero, sign⟩
    cases isSigned : r.isSigned with
    | false =>
        rw [isSigned, Bool.false_and, if_neg Bool.false_ne_true] at zero
        simp [zero] at sign
    | true =>
        rw [isSigned, sign, Bool.and_self, if_pos rfl] at zero
        refine ⟨rfl, ?_⟩
        rw [← BitVec.not_not (b := r.opB), zero]
        simp
  · rintro ⟨isSigned, ones⟩
    simp [isSigned, ones, BitVec.msb_allOnes positive]

theorem opBZero_of_some (some : lzcBInput r ≠ 0) : opBZero r = false := by
  rw [opBZero, decide_eq_false some, Bool.false_and]

theorem opBNegOne_of_some (some : lzcBInput r ≠ 0) : opBNegOne r = false := by
  rw [opBNegOne, decide_eq_false some, Bool.false_and]

theorem load_holds (some : lzcBInput r ≠ 0) (le : shiftA r ≤ zerosB r) :
    Holds (load r) (magnitude r.isSigned r.opA)
      (magnitude r.isSigned r.opB * 2 ^ (zerosB r - shiftA r)) := by
  rcases divisor_bounds r some with ⟨less, _⟩
  rcases alignment r some le with ⟨shiftedPos, shiftedLe, shiftedLt, _⟩
  rcases divShift_bounds r less with ⟨_, shift⟩
  rcases shiftA_bounds r with ⟨_, dividend⟩
  exact
    { opA := opAQ_load r
      opB := by
        have whole : signed _ (negative r.isSigned r.opB) (magnitude r.isSigned r.opB) = r.opB :=
          signed_magnitude r.opB
        change r.opB <<< (divShift r).toNat = signed _ (negative r.isSigned r.opB) _
        rw [shift le, ← signed_shiftLeft, whole]
      zero := opBZero_of_some r some
      rest_lt := Nat.lt_of_lt_of_le dividend (Nat.pow_le_pow_right Nat.two_pos (Nat.sub_le _ _))
      shifted_pos := shiftedPos
      shifted_le := shiftedLe
      shifted_lt := shiftedLt }

theorem toNat_cntQ_load (some : lzcBInput r ≠ 0) (le : shiftA r ≤ zerosB r) :
    (load r).cntQ.toNat = zerosB r - shiftA r := by
  rcases divisor_bounds r some with ⟨less, _⟩
  rcases divShift_bounds r less with ⟨_, shift⟩
  have room : cfg.width ≤ 2 ^ cfg.cntBits := Nat.le_pow_clog Nat.one_lt_two _
  change ((divShift r).setWidth cfg.cntBits).toNat = _
  rw [BitVec.toNat_setWidth, shift le]
  exact Nat.mod_eq_of_lt (by omega)

theorem known_load (some : lzcBInput r ≠ 0) :
    known (load r) = decide (zerosB r < shiftA r) := by
  rcases divisor_bounds r some with ⟨less, _⟩
  rcases divShift_bounds r less with ⟨sign, _⟩
  change ((divShift r).msb || opBZero r || opBNegOne r) = _
  rw [sign, opBZero_of_some r some, opBNegOne_of_some r some, Bool.or_false, Bool.or_false]

/-- The magnitudes of the results, when the divisor is neither zero nor minus one. -/
theorem divided_load (some : lzcBInput r ≠ 0) :
    (divided (load r)).opAQ =
        signed _ (negative r.isSigned r.opB)
          (magnitude r.isSigned r.opA % magnitude r.isSigned r.opB) ∧
      (divided (load r)).resQ =
        BitVec.ofNat _ (magnitude r.isSigned r.opA / magnitude r.isSigned r.opB) := by
  rw [divided, known_load r some]
  split
  case isTrue isKnown =>
    have less := dividend_lt r some (of_decide_eq_true isKnown)
    rw [Nat.mod_eq_of_lt less, Nat.div_eq_of_lt less]
    exact ⟨opAQ_load r, rfl⟩
  case isFalse unknown =>
    have le : shiftA r ≤ zerosB r := by simpa using unknown
    rcases alignment r some le with ⟨_, _, _, bound⟩
    have start : (load r).resQ = BitVec.ofNat _ 0 := rfl
    have run := (load_holds r some le).run start
    rw [restoring_eq 0 bound, Nat.zero_mul, Nat.zero_add] at run
    rw [toNat_cntQ_load r some le]
    exact run

theorem resInvQ_load :
    (load r).resInvQ =
      ((!opBZero r || r.rem) &&
        (negative r.isSigned r.opA ^^ negative r.isSigned r.opB ^^
          (r.isSigned && opBNegOne r))) := by
  change ((!opBZero r || r.rem) && r.isSigned && (r.opA.msb ^^ r.opB.msb ^^ opBNegOne r)) = _
  cases isSigned : r.isSigned <;> simp [negative]

theorem resO_of_zero (zero : r.opB = 0) :
    resO (load r) = if r.rem then r.opA else BitVec.allOnes _ := by
  have isZero : opBZero r = true := (opBZero_iff r).mpr zero
  have sign : negative r.isSigned r.opB = false := by simp [negative, zero]
  have other : opBNegOne r = false := by simp [opBNegOne, zero]
  have dividend := opAQ_load r
  have whole : signed _ (negative r.isSigned r.opA) (magnitude r.isSigned r.opA) = r.opA :=
    signed_magnitude r.opA
  have inverted := resInvQ_load r
  rw [isZero, sign, other, Bool.and_false, Bool.xor_false, Bool.xor_false, Bool.not_true,
    Bool.false_or] at inverted
  rw [sign] at dividend
  rw [resO, outMux, inverted, dividend, show (load r).remSelQ = r.rem from rfl,
    show (load r).opBNegOneQ = opBNegOne r from rfl, show (load r).opBZeroQ = opBZero r from rfl,
    isZero, other]
  cases r.rem with
  | false => simp
  | true =>
      simp only [if_true, Bool.false_eq_true, if_false, Bool.true_and, invert_signed,
        Bool.xor_false, whole]

theorem resO_of_negOne (isSigned : r.isSigned = true) (ones : r.opB = BitVec.allOnes _) :
    resO (load r) = if r.rem then 0 else -r.opA := by
  have positive : 0 < cfg.width := Nat.lt_of_lt_of_le Nat.two_pos cfg.width_ge
  have isNegOne : opBNegOne r = true := (opBNegOne_iff r).mpr ⟨isSigned, ones⟩
  have sign : negative r.isSigned r.opB = true := by
    rw [isSigned, ones]
    exact (negOne_sign positive).1
  have some : opBZero r = false := by
    rw [opBNegOne, Bool.and_eq_true] at isNegOne
    rw [opBZero, isNegOne.2, Bool.not_true, Bool.and_false]
  have dividend := opAQ_load r
  have whole : signed _ (negative r.isSigned r.opA) (magnitude r.isSigned r.opA) = r.opA :=
    signed_magnitude r.opA
  have inverted := resInvQ_load r
  rw [some, sign, isNegOne, isSigned, Bool.and_true, Bool.xor_assoc, Bool.xor_self,
    Bool.xor_false, Bool.not_false, Bool.true_or, Bool.true_and] at inverted
  rw [sign] at dividend
  rw [resO, outMux, inverted, dividend, show (load r).remSelQ = r.rem from rfl,
    show (load r).opBNegOneQ = opBNegOne r from rfl, show (load r).opBZeroQ = opBZero r from rfl,
    isNegOne, some]
  cases r.rem with
  | false =>
      rw [isSigned] at whole
      simp only [if_true, Bool.false_eq_true, if_false, isSigned, invert_signed, Bool.xor_true]
      rw [← neg_signed, whole]
  | true => simp

theorem resO_of_some (some : lzcBInput r ≠ 0) :
    resO (divided (load r)) =
      if r.rem then
        signed _ (negative r.isSigned r.opA)
          (magnitude r.isSigned r.opA % magnitude r.isSigned r.opB)
      else
        signed _ (negative r.isSigned r.opA ^^ negative r.isSigned r.opB)
          (magnitude r.isSigned r.opA / magnitude r.isSigned r.opB) := by
  have same : flags (divided (load r)) = flags (load r) := by
    rw [divided]
    split
    · rfl
    · exact flags_divides _ _
  simp only [flags, Prod.mk.injEq] at same
  obtain ⟨rem, _, inverted, isZero, isNegOne⟩ := same
  rcases divided_load r some with ⟨rest, quotient⟩
  have noNegOne := opBNegOne_of_some r some
  have noZero := opBZero_of_some r some
  rw [resInvQ_load r, noZero, noNegOne, Bool.and_false, Bool.xor_false, Bool.not_false,
    Bool.true_or, Bool.true_and] at inverted
  rw [resO, outMux, rem, inverted, isZero, isNegOne, rest, quotient,
    show (load r).remSelQ = r.rem from rfl, show (load r).opBNegOneQ = opBNegOne r from rfl,
    show (load r).opBZeroQ = opBZero r from rfl, noZero, noNegOne]
  cases r.rem with
  | false =>
      have positive := invert_signed (w := cfg.width)
        (negative r.isSigned r.opA ^^ negative r.isSigned r.opB) false
        (magnitude r.isSigned r.opA / magnitude r.isSigned r.opB)
      rw [Bool.xor_false] at positive
      exact positive
  | true =>
      simp only [if_true, Bool.false_eq_true, if_false, invert_signed, Bool.xor_assoc,
        Bool.xor_self, Bool.xor_false]

theorem resO_divided : resO (divided (load r)) = division r.isSigned r.rem r.opA r.opB := by
  have positive : 0 < cfg.width := Nat.lt_of_lt_of_le Nat.two_pos cfg.width_ge
  by_cases zero : r.opB = 0
  · have isKnown : known (load r) = true := by
      change ((divShift r).msb || opBZero r || opBNegOne r) = true
      simp [(opBZero_iff r).mpr zero]
    rw [divided, if_pos isKnown, resO_of_zero r zero, division, if_pos zero]
  by_cases negOne : r.isSigned = true ∧ r.opB = BitVec.allOnes _
  · have isKnown : known (load r) = true := by
      change ((divShift r).msb || opBZero r || opBNegOne r) = true
      simp [(opBNegOne_iff r).mpr negOne]
    obtain ⟨isSigned, ones⟩ := negOne
    rcases negOne_sign positive with ⟨sign, one⟩
    have whole : signed _ (negative true r.opA) (magnitude true r.opA) = r.opA :=
      signed_magnitude r.opA
    rw [divided, if_pos isKnown, resO_of_negOne r isSigned ones,
      division_of_ne_zero positive _ _ zero, isSigned, ones, sign, one, Nat.mod_one, Nat.div_one,
      signed_zero, Bool.xor_true, ← neg_signed, whole]
  · have some : lzcBInput r ≠ 0 := by
      intro none
      cases sign : r.opB.msb with
      | false => exact zero ((opBZero_iff r).mp (by simp [opBZero, none, sign]))
      | true => exact negOne ((opBNegOne_iff r).mp (by simp [opBNegOne, none, sign]))
    rw [resO_of_some r some, division_of_ne_zero positive _ _ zero]

end Result

end Cva6Hpd.SerialDivider
