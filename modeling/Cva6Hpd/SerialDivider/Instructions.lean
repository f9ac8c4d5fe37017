import Mathlib.Algebra.Order.Ring.Nat
import Mathlib.Tactic.Ring

/-!
# Division instructions

The quotient is rounded towards zero and the remainder has the sign of the dividend. A division
by zero and the overflow have results of their own.
-/

namespace Cva6Hpd.SerialDivider

/-! ## The instruction set -/

/-- The number that an operand stands for. -/
def value {w : Nat} (isSigned : Bool) (operand : BitVec w) : Int :=
  if isSigned then operand.toInt else operand.toNat

/-- The result of a division instruction. -/
def division {w : Nat} (isSigned rem : Bool) (a b : BitVec w) : BitVec w :=
  if b = 0 then if rem then a else BitVec.allOnes w
  else if isSigned ∧ a = BitVec.intMin w ∧ b = BitVec.allOnes w then if rem then 0 else a
  else if rem then BitVec.ofInt w ((value isSigned a).tmod (value isSigned b))
  else BitVec.ofInt w ((value isSigned a).tdiv (value isSigned b))

/-! ## Signs and magnitudes -/

section Magnitude

variable {w : Nat} {isSigned : Bool}

def negative (isSigned : Bool) (operand : BitVec w) : Bool := isSigned && operand.msb

def magnitude (isSigned : Bool) (operand : BitVec w) : Nat :=
  if negative isSigned operand then 2 ^ w - operand.toNat else operand.toNat

/-- A magnitude under a sign. -/
def signed (w : Nat) (sign : Bool) (size : Nat) : BitVec w :=
  if sign then -BitVec.ofNat w size else BitVec.ofNat w size

theorem neg_signed (sign : Bool) (size : Nat) : -signed w sign size = signed w (!sign) size := by
  cases sign <;> simp [signed]

theorem invert_signed (inverted sign : Bool) (size : Nat) :
    (if inverted then -signed w sign size else signed w sign size) =
      signed w (inverted ^^ sign) size := by
  cases inverted with
  | false => simp
  | true => simp [neg_signed]

theorem value_eq (operand : BitVec w) :
    value isSigned operand =
      if negative isSigned operand then -(magnitude isSigned operand : Int)
      else magnitude isSigned operand := by
  have bound := operand.isLt
  cases isSigned with
  | false => simp [value, magnitude, negative]
  | true =>
      cases sign : operand.msb with
      | false => simp [value, magnitude, negative, sign, BitVec.toInt_eq_msb_cond]
      | true =>
          simp only [value, magnitude, negative, sign, BitVec.toInt_eq_msb_cond, Bool.and_self,
            if_true]
          rw [Nat.cast_sub bound.le]
          push_cast
          ring

theorem signed_magnitude (operand : BitVec w) :
    signed w (negative isSigned operand) (magnitude isSigned operand) = operand := by
  cases sign : negative isSigned operand with
  | false => simp [signed, magnitude, sign]
  | true =>
      have positive : 0 < operand.toNat := by
        rw [Nat.pos_iff_ne_zero]
        intro zero
        have isZero : operand = 0 := BitVec.eq_of_toNat_eq (by simpa using zero)
        subst isZero
        simp [negative] at sign
      apply BitVec.eq_of_toNat_eq
      have bound := operand.isLt
      simp only [signed, magnitude, sign, if_true, BitVec.toNat_neg, BitVec.toNat_ofNat]
      have small : (2 ^ w - operand.toNat) % 2 ^ w = 2 ^ w - operand.toNat :=
        Nat.mod_eq_of_lt (Nat.sub_lt (Nat.two_pow_pos w) positive)
      rw [small, Nat.sub_sub_self bound.le, Nat.mod_eq_of_lt bound]

theorem magnitude_le (operand : BitVec w) (isNegative : negative isSigned operand = true) :
    magnitude isSigned operand ≤ 2 ^ (w - 1) := by
  simp only [negative, Bool.and_eq_true] at isNegative
  have large := BitVec.toNat_ge_of_msb_true isNegative.2
  have width : w ≠ 0 := by
    rintro rfl
    simp [BitVec.of_length_zero] at isNegative
  have double : 2 ^ w = 2 ^ (w - 1) * 2 := by
    rw [← Nat.pow_succ, Nat.succ_eq_add_one, Nat.sub_add_cancel (Nat.pos_of_ne_zero width)]
  simp only [magnitude, negative, isNegative, Bool.and_self, if_true]
  omega

theorem ofInt_signed (sign : Bool) (size : Nat) :
    BitVec.ofInt w (if sign then -(size : Int) else size) = signed w sign size := by
  cases sign <;> simp [signed, BitVec.ofInt_neg]

/-- The quotient of two numbers is negative if their signs differ. -/
theorem ofInt_tdiv (a b : BitVec w) :
    BitVec.ofInt w ((value isSigned a).tdiv (value isSigned b)) =
      signed w (negative isSigned a ^^ negative isSigned b)
        (magnitude isSigned a / magnitude isSigned b) := by
  rw [value_eq, value_eq, ← ofInt_signed, Int.ofNat_tdiv]
  cases negative isSigned a <;> cases negative isSigned b <;>
    simp only [Bool.xor_self, Bool.xor_true, Bool.xor_false, Bool.not_false,
      Bool.false_eq_true, if_true, if_false, Int.neg_tdiv, Int.tdiv_neg, Int.neg_neg]

/-- The remainder has the sign of the dividend. -/
theorem ofInt_tmod (a b : BitVec w) :
    BitVec.ofInt w ((value isSigned a).tmod (value isSigned b)) =
      signed w (negative isSigned a) (magnitude isSigned a % magnitude isSigned b) := by
  rw [value_eq, value_eq, ← ofInt_signed, Int.ofNat_tmod]
  cases negative isSigned a <;> cases negative isSigned b <;>
    simp only [Bool.false_eq_true, if_true, if_false, Int.neg_tmod, Int.tmod_neg]

theorem toNat_signed_false {size : Nat} (less : size < 2 ^ w) :
    (signed w false size).toNat = size := by
  simp [signed, Nat.mod_eq_of_lt less]

theorem toNat_signed_true {size : Nat} (positive : 0 < size) (less : size < 2 ^ w) :
    (signed w true size).toNat = 2 ^ w - size := by
  simp only [signed, if_true, BitVec.toNat_neg, BitVec.toNat_ofNat, Nat.mod_eq_of_lt less]
  exact Nat.mod_eq_of_lt (Nat.sub_lt (Nat.two_pow_pos w) positive)

theorem signed_zero (sign : Bool) : signed w sign 0 = 0 := by
  cases sign <;> simp [signed]

theorem signed_two_pow (sign : Bool) : signed w sign (2 ^ w) = 0 := by
  have wraps : BitVec.ofNat w (2 ^ w) = 0 := by
    apply BitVec.eq_of_toNat_eq
    rw [BitVec.toNat_ofNat, Nat.mod_self, BitVec.ofNat_eq_ofNat, BitVec.toNat_ofNat, Nat.zero_mod]
  cases sign <;> simp [signed, wraps]

theorem signed_sub {sign : Bool} {size less : Nat} (le : less ≤ size) :
    signed w sign size - signed w sign less = signed w sign (size - less) := by
  have whole : BitVec.ofNat w size = BitVec.ofNat w (size - less) + BitVec.ofNat w less := by
    rw [← BitVec.ofNat_add, Nat.sub_add_cancel le]
  cases sign with
  | false => simp only [signed, Bool.false_eq_true, if_false, whole, BitVec.add_sub_cancel]
  | true =>
      simp only [signed, if_true, whole, BitVec.neg_add, BitVec.sub_eq_add_neg, BitVec.neg_neg,
        BitVec.add_assoc]
      rw [BitVec.add_left_neg, BitVec.add_zero]

theorem signed_shiftLeft (sign : Bool) (size n : Nat) :
    signed w sign size <<< n = signed w sign (size * 2 ^ n) := by
  have scaled (x : BitVec w) : x <<< n = x * BitVec.ofNat w (2 ^ n) := by
    apply BitVec.eq_of_toNat_eq
    rw [BitVec.toNat_shiftLeft, Nat.shiftLeft_eq, BitVec.toNat_mul, BitVec.toNat_ofNat,
      Nat.mul_mod_mod]
  rw [scaled]
  cases sign with
  | false => exact (BitVec.ofNat_mul ..).symm
  | true =>
      simp only [signed, if_true, BitVec.ofNat_mul]
      exact BitVec.neg_mul _ _

end Magnitude

/-! ## Results -/

section Results

variable {w : Nat}

theorem negOne_sign (positive : 0 < w) :
    negative true (BitVec.allOnes w) = true ∧ magnitude true (BitVec.allOnes w) = 1 := by
  have sign : negative true (BitVec.allOnes w) = true := by
    simp [negative, BitVec.msb_allOnes positive]
  have some := Nat.two_pow_pos w
  refine ⟨sign, ?_⟩
  rw [magnitude, if_pos sign, BitVec.toNat_allOnes]
  omega

/-- The overflow is no exception: the magnitude of the quotient wraps. -/
theorem division_of_ne_zero (positive : 0 < w) (isSigned rem : Bool) {a b : BitVec w}
    (some : b ≠ 0) :
    division isSigned rem a b =
      if rem then signed w (negative isSigned a) (magnitude isSigned a % magnitude isSigned b)
      else signed w (negative isSigned a ^^ negative isSigned b)
        (magnitude isSigned a / magnitude isSigned b) := by
  rw [division, if_neg some, ofInt_tdiv, ofInt_tmod]
  split
  case isTrue overflow =>
    obtain ⟨rfl, rfl, rfl⟩ := overflow
    rcases negOne_sign positive with ⟨sign, one⟩
    have whole : signed w (negative true (BitVec.intMin w)) (magnitude true (BitVec.intMin w)) =
        BitVec.intMin w := signed_magnitude _
    rw [sign, one, Nat.mod_one, Nat.div_one, Bool.xor_true, ← neg_signed, whole, signed_zero,
      BitVec.neg_intMin]
  case isFalse => rfl

end Results

/-! ## Words -/

section Words

variable {v w : Nat} {isSigned : Bool}

/-- An operand in a wider register. -/
def extend (w : Nat) (isSigned : Bool) (operand : BitVec v) : BitVec w :=
  if isSigned then operand.signExtend w else operand.setWidth w

theorem value_extend (le : v ≤ w) (operand : BitVec v) :
    value isSigned (extend w isSigned operand) = value isSigned operand := by
  cases isSigned with
  | false =>
      have wide : operand.toNat < 2 ^ w :=
        Nat.lt_of_lt_of_le operand.isLt (Nat.pow_le_pow_right Nat.two_pos le)
      simp [value, extend, Nat.mod_eq_of_lt wide]
  | true => simp [value, extend, BitVec.toInt_signExtend_of_le le]

theorem negative_eq (operand : BitVec w) :
    negative isSigned operand = decide (value isSigned operand < 0) := by
  have bound := operand.isLt
  cases sign : negative isSigned operand with
  | false => simp [value_eq, sign]
  | true =>
      have positive : 0 < magnitude isSigned operand := by
        rw [magnitude, if_pos sign]
        omega
      simp [value_eq, sign, positive]

theorem magnitude_eq (operand : BitVec w) :
    magnitude isSigned operand = (value isSigned operand).natAbs := by
  rw [value_eq]
  split <;> simp

theorem setWidth_signed (le : v ≤ w) (sign : Bool) (size : Nat) :
    (signed w sign size).setWidth v = signed v sign size := by
  cases sign with
  | false => simp [signed, BitVec.setWidth_ofNat_of_le le]
  | true => simp [signed, BitVec.setWidth_neg_of_le le, BitVec.setWidth_ofNat_of_le le]

theorem setWidth_extend (le : v ≤ w) (operand : BitVec v) :
    (extend w isSigned operand).setWidth v = operand := by
  cases isSigned with
  | false => simp [extend, BitVec.setWidth_setWidth_of_le _ le]
  | true =>
      ext i bound
      have wide : i < w := Nat.lt_of_lt_of_le bound le
      rw [extend, if_pos rfl, BitVec.getElem_setWidth, BitVec.getLsbD_signExtend]
      simp [wide, bound]

theorem setWidth_division (positive : 0 < v) (le : v ≤ w) (rem : Bool) (a b : BitVec v) :
    (division isSigned rem (extend w isSigned a) (extend w isSigned b)).setWidth v =
      division isSigned rem a b := by
  by_cases zero : b = 0
  · have wideZero : extend w isSigned b = 0 := by
      cases isSigned with
      | false => simp [extend, zero]
      | true =>
          rw [extend, if_pos rfl, zero]
          exact BitVec.eq_of_toInt_eq (by simp [BitVec.toInt_signExtend_of_le le])
    rw [division, if_pos wideZero, division, if_pos zero]
    cases rem with
    | false =>
        ext i bound
        simp
        omega
    | true => exact setWidth_extend le a
  · have wideSome : extend w isSigned b ≠ 0 := by
      intro wideZero
      have narrow : (extend w isSigned b).setWidth v = b := setWidth_extend le b
      rw [wideZero] at narrow
      exact zero (by simpa using narrow.symm)
    rw [division_of_ne_zero (Nat.lt_of_lt_of_le positive le) _ _ wideSome,
      division_of_ne_zero positive _ _ zero]
    simp only [negative_eq, magnitude_eq, value_extend le]
    rw [apply_ite (BitVec.setWidth v), setWidth_signed le, setWidth_signed le]

end Words

end Cva6Hpd.SerialDivider
