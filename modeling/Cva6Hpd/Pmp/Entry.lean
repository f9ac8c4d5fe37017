import Cva6Hpd.Common.Lzc
import Cva6Hpd.Csr.Types
import Mathlib.Order.Interval.Set.Defs

/-!
# One entry of the physical memory protection

`pmp_entry`: whether an address lies in the region of an entry. The region itself is given by
the encoding of the address register, over the natural numbers; `matchO_iff` shows that the
comparisons and the mask of the code decide it.
-/

namespace Cva6Hpd.Pmp

open Cva6Hpd.Common
open Cva6Hpd.Csr (PmpAddrMode)

variable {plen : Nat}

/-! ## The code -/

/-- `conf_addr_n`. -/
def confAddrN (confAddr : BitVec (plen - 2)) : BitVec plen := (3#2 ++ ~~~confAddr).setWidth plen

/-- `trail_ones`. -/
def trailOnes (confAddr : BitVec (plen - 2)) : Nat := Lzc.trailing (confAddrN confAddr)

/-- The byte address of an address register. -/
def byteAddr (confAddr : BitVec (plen - 2)) : BitVec plen := confAddr.setWidth plen <<< 2

/-- `mask`. -/
def mask (confAddr : BitVec (plen - 2)) : BitVec plen :=
  BitVec.allOnes plen <<< (trailOnes confAddr + 3)

/-- `match_o`. -/
def matchO (addr : BitVec plen) (confAddr confAddrPrev : BitVec (plen - 2)) :
    PmpAddrMode → Bool
  | .tor => byteAddr confAddrPrev ≤ addr && addr < byteAddr confAddr
  | .napot => (addr &&& mask confAddr) = (byteAddr confAddr &&& mask confAddr)
  | .off => false
  | .na4 => false

/-! ## The region -/

/-- The naturally aligned region of an address register. The ones at its low end tell the size:
`g` of them below a zero cover the `2 ^ (g + 3)` bytes that the other bits select. -/
def napotRegion (address : Nat) : Set Nat :=
  {a | ∃ y g, address = 2 ^ (g + 1) * y + (2 ^ g - 1)
    ∧ 2 ^ (g + 3) * y ≤ a ∧ a < 2 ^ (g + 3) * (y + 1)}

/-- The bytes that an entry covers. Regions have eight bytes at least, so the mode of four bytes
cannot be selected and covers none. -/
def region (previous address : Nat) : PmpAddrMode → Set Nat
  | .tor => Set.Ico (4 * previous) (4 * address)
  | .napot => napotRegion address
  | .off => ∅
  | .na4 => ∅

/-! ## The match -/

/-- Two words agree above the mask when their quotients do. -/
theorem and_mask_eq_iff {x y : BitVec plen} {size : Nat} :
    x &&& (BitVec.allOnes plen <<< size) = y &&& (BitVec.allOnes plen <<< size) ↔
      x.toNat / 2 ^ size = y.toNat / 2 ^ size := by
  rw [← Nat.shiftRight_eq_div_pow, ← Nat.shiftRight_eq_div_pow, ← BitVec.toNat_ushiftRight,
    ← BitVec.toNat_ushiftRight, ← BitVec.toNat_eq]
  constructor
  · intro same
    ext k small
    have bit := congrArg (fun word => word.getLsbD (size + k)) same
    by_cases inside : size + k < plen
    · simpa [inside, Nat.not_lt.mpr (Nat.le_add_right size k)] using bit
    · simp [BitVec.getLsbD_of_ge _ _ (Nat.le_of_not_lt inside)]
  · intro same
    ext k small
    by_cases above : size ≤ k
    · have bit := congrArg (fun word => word.getLsbD (k - size)) same
      simp only [BitVec.getLsbD_ushiftRight, Nat.add_sub_cancel' above] at bit
      simp [small, ← BitVec.getLsbD_eq_getElem, bit]
    · simp [Nat.lt_of_not_le above]

@[simp]
theorem toNat_byteAddr (confAddr : BitVec (plen - 2)) :
    (byteAddr confAddr).toNat = 4 * confAddr.toNat := by
  have bound := confAddr.isLt
  have fits : 4 * confAddr.toNat < 2 ^ plen := by
    rcases Nat.lt_or_ge plen 2 with narrow | wide
    · have one : 2 ^ (plen - 2) = 1 := by
        rw [Nat.sub_eq_zero_of_le (Nat.le_of_lt narrow), Nat.pow_zero]
      have positive := Nat.two_pow_pos plen
      omega
    · have split : 2 ^ plen = 4 * 2 ^ (plen - 2) := by
        rw [show (4 : Nat) = 2 ^ 2 from rfl, ← Nat.pow_add, Nat.add_sub_cancel' wide]
      omega
  have narrow : confAddr.toNat < 2 ^ plen := by omega
  rw [byteAddr, BitVec.toNat_shiftLeft, BitVec.toNat_setWidth, Nat.mod_eq_of_lt narrow,
    Nat.shiftLeft_eq, Nat.mul_comm, Nat.mod_eq_of_lt fits]

theorem getLsbD_confAddrN (confAddr : BitVec (plen - 2)) {k : Nat} (inside : k < plen) :
    (confAddrN confAddr).getLsbD k = !confAddr.getLsbD k := by
  simp only [confAddrN, BitVec.getLsbD_setWidth, inside, decide_true, Bool.true_and,
    BitVec.getLsbD_append, BitVec.getLsbD_not]
  split
  · next low => simp [low]
  · next high =>
    rw [BitVec.getLsbD_of_ge confAddr k (Nat.le_of_not_lt high)]
    have top : k - (plen - 2) = 0 ∨ k - (plen - 2) = 1 := by omega
    rcases top with top | top <;> rw [top] <;> rfl

/-- The count is the number of ones at the low end. -/
theorem trailOnes_spec (confAddr : BitVec (plen - 2)) :
    confAddr.getLsbD (trailOnes confAddr) = false ∧
      ∀ j < trailOnes confAddr, confAddr.getLsbD j = true := by
  rcases Nat.eq_zero_or_pos plen with rfl | positive
  · exact ⟨BitVec.getLsbD_of_ge _ _ (Nat.zero_le _), fun j before => absurd before (by
      simp [trailOnes, Lzc.trailing])⟩
  · have top : (confAddrN confAddr).getLsbD (plen - 1) = true := by
      rw [getLsbD_confAddrN confAddr (by omega), BitVec.getLsbD_of_ge confAddr _ (by omega)]
      rfl
    rcases Lzc.exists_lowest top with ⟨hit, below⟩
    have inside := BitVec.lt_of_getLsbD hit
    rw [getLsbD_confAddrN confAddr inside] at hit
    refine ⟨by simpa [trailOnes] using hit, ?_⟩
    intro j before
    have zero := below j before
    rw [getLsbD_confAddrN confAddr (Nat.lt_trans before inside)] at zero
    simpa using zero

theorem encoding_iff (confAddr : BitVec (plen - 2)) {y g : Nat} :
    confAddr.toNat = 2 ^ (g + 1) * y + (2 ^ g - 1) ↔
      g = trailOnes confAddr ∧ y = confAddr.toNat / 2 ^ (g + 1) := by
  have small : 2 ^ g - 1 < 2 ^ (g + 1) := by
    have := Nat.two_pow_pos g
    omega
  rcases trailOnes_spec confAddr with ⟨zero, ones⟩
  constructor
  · intro encoding
    have bit (j : Nat) (low : j < g + 1) : confAddr.getLsbD j = decide (j < g) := by
      rw [← BitVec.testBit_toNat, encoding, Nat.testBit_two_pow_mul_add _ small, if_pos low,
        Nat.testBit_two_pow_sub_one]
    constructor
    · apply Nat.le_antisymm
      · by_contra shorter
        have one := bit _ (by omega : trailOnes confAddr < g + 1)
        rw [zero] at one
        simp at one
        omega
      · by_contra longer
        have one := ones g (by omega)
        rw [bit g (Nat.lt_succ_self g)] at one
        simp at one
    · rw [encoding, Nat.mul_add_div (Nat.two_pow_pos _), Nat.div_eq_of_lt small, Nat.add_zero]
  · rintro ⟨rfl, rfl⟩
    have low : confAddr.toNat % 2 ^ (trailOnes confAddr + 1) = 2 ^ trailOnes confAddr - 1 := by
      apply Nat.eq_of_testBit_eq
      intro j
      rw [Nat.testBit_mod_two_pow, Nat.testBit_two_pow_sub_one, BitVec.testBit_toNat]
      rcases Nat.lt_trichotomy j (trailOnes confAddr) with before | rfl | after
      · simp [before, ones j before, Nat.lt_succ_of_lt before]
      · simp [zero]
      · simp [show ¬j < trailOnes confAddr + 1 by omega, show ¬j < trailOnes confAddr by omega]
    rw [← low, Nat.div_add_mod]

theorem matchO_iff {addr : BitVec plen} {confAddr confAddrPrev : BitVec (plen - 2)}
    {mode : PmpAddrMode} :
    matchO addr confAddr confAddrPrev mode = true ↔
      addr.toNat ∈ region confAddrPrev.toNat confAddr.toNat mode := by
  cases mode with
  | off => simp [matchO, region]
  | na4 => simp [matchO, region]
  | tor => simp [matchO, region, BitVec.le_def, BitVec.lt_def]
  | napot =>
    have base : 4 * confAddr.toNat / 2 ^ (trailOnes confAddr + 3) =
        confAddr.toNat / 2 ^ (trailOnes confAddr + 1) := by
      have size : 2 ^ (trailOnes confAddr + 3) = 4 * 2 ^ (trailOnes confAddr + 1) := by
        rw [show trailOnes confAddr + 3 = 2 + (trailOnes confAddr + 1) by omega, Nat.pow_add]
      rw [size, Nat.mul_div_mul_left _ _ (by decide)]
    simp only [matchO, mask, decide_eq_true_eq, and_mask_eq_iff, toNat_byteAddr, base, region,
      napotRegion, Set.mem_ofPred_eq, encoding_iff]
    constructor
    · intro same
      refine ⟨_, _, ⟨rfl, rfl⟩, ?_, ?_⟩
      · rw [← same]
        exact Nat.mul_div_le _ _
      · rw [← same]
        exact Nat.lt_mul_div_succ _ (Nat.two_pow_pos _)
    · rintro ⟨y, g, ⟨rfl, rfl⟩, lower, upper⟩
      apply Nat.div_eq_of_lt_le
      · rwa [Nat.mul_comm]
      · rwa [Nat.mul_comm]

end Cva6Hpd.Pmp
