import Cva6Hpd.Hw.Bytes
import Mathlib.Data.BitVec
import Mathlib.Logic.Function.Basic

/-!
# The instructions of the stack

The meaning of the additions, stores and loads that a push or pop consists of: they act on the
registers and on a memory of bytes, whose addresses wrap around.
-/

namespace Cva6Hpd.Decode

open Cva6Hpd.Hw

/-- The registers and the memory. -/
structure Hart (width : Nat) where
  regs : BitVec 5 → BitVec width
  mem : BitVec width → BitVec 8

/-- An addition, and the store and the load of some bytes. -/
inductive Op where
  | addi (rd rs1 : BitVec 5) (imm : BitVec 12)
  | store (count : Nat) (rs2 rs1 : BitVec 5) (imm : BitVec 12)
  | load (count : Nat) (rd rs1 : BitVec 5) (imm : BitVec 12)
deriving DecidableEq

/-- The instruction of a word. -/
def Op.ofWord (word : BitVec 32) : Option Op :=
  match (word.extractLsb' 0 7).toNat, (word.extractLsb' 12 3).toNat with
  | 0x13, 0 => some (.addi (word.extractLsb' 7 5) (word.extractLsb' 15 5) (word.extractLsb' 20 12))
  | 0x23, 2 => some (.store 4 (word.extractLsb' 20 5) (word.extractLsb' 15 5)
      (word.extractLsb' 25 7 ++ word.extractLsb' 7 5))
  | 0x23, 3 => some (.store 8 (word.extractLsb' 20 5) (word.extractLsb' 15 5)
      (word.extractLsb' 25 7 ++ word.extractLsb' 7 5))
  | 0x03, 2 => some (.load 4 (word.extractLsb' 7 5) (word.extractLsb' 15 5)
      (word.extractLsb' 20 12))
  | 0x03, 3 => some (.load 8 (word.extractLsb' 7 5) (word.extractLsb' 15 5)
      (word.extractLsb' 20 12))
  | _, _ => none

/-! ## Memory -/

section Memory

variable {width count : Nat} {mem : BitVec width → BitVec 8} {address place : BitVec width}

/-- The first bytes of a value are stored from an address on. -/
def storeAt (count : Nat) (mem : BitVec width → BitVec 8) (address value : BitVec width)
    (place : BitVec width) : BitVec 8 :=
  if (place - address).toNat < count then byteAt value (place - address).toNat else mem place

/-- The bytes from an address on, with their sign. -/
def loadAt (count : Nat) (mem : BitVec width → BitVec 8) (address : BitVec width) :
    BitVec width :=
  (ofBytes (fun k => mem (address + BitVec.ofNat width k)) count).signExtend width

theorem loadAt_eq (full : 8 * count = width) {value : BitVec width}
    (bytes : ∀ k < count, mem (address + BitVec.ofNat width k) = byteAt value k) :
    loadAt count mem address = value := by
  subst full
  have same : ofBytes (fun k => mem (address + BitVec.ofNat (8 * count) k)) count =
      ofBytes (byteAt value) count := ofBytes_congr bytes
  rw [loadAt, same, BitVec.signExtend_eq]
  apply BitVec.eq_of_getLsbD_eq
  intro bit inside
  have low : bit % 8 < 8 := Nat.mod_lt _ (by decide)
  rw [getLsbD_ofBytes _ _ _ inside, getLsbD_byteAt _ _ low, Nat.div_add_mod]

/-- Values are stored at descending addresses. -/
def storeDown (count : Nat) (mem : BitVec width → BitVec 8) :
    BitVec width → List (BitVec width) → BitVec width → BitVec 8
  | _, [] => mem
  | place, value :: rest =>
      storeDown count (storeAt count mem place value) (place - BitVec.ofNat width count) rest

theorem lower_lower (place : BitVec width) (count index : Nat) :
    place - BitVec.ofNat width count - BitVec.ofNat width (count * index) =
      place - BitVec.ofNat width (count * (index + 1)) := by
  rw [Nat.mul_succ, Nat.add_comm, BitVec.ofNat_add, BitVec.sub_sub]

theorem storeDown_of_outside {values : List (BitVec width)}
    (outside : ∀ index < values.length,
      count ≤ (address - (place - BitVec.ofNat width (count * index))).toNat) :
    storeDown count mem place values address = mem address := by
  induction values generalizing mem place with
  | nil => rfl
  | cons value rest inductionHypothesis =>
      have here := outside 0 (Nat.succ_pos _)
      rw [Nat.mul_zero, BitVec.sub_zero] at here
      rw [storeDown, inductionHypothesis]
      · exact if_neg (Nat.not_lt.mpr here)
      · intro index inside
        rw [lower_lower]
        exact outside (index + 1) (Nat.succ_lt_succ inside)

theorem storeDown_slot {values : List (BitVec width)} {value : BitVec width} {index k : Nat}
    (few : count * values.length ≤ 2 ^ width) (found : values[index]? = some value)
    (inside : k < count) :
    storeDown count mem place values
        (place - BitVec.ofNat width (count * index) + BitVec.ofNat width k) =
      byteAt value k := by
  induction values generalizing mem place index with
  | nil => cases found
  | cons head rest inductionHypothesis =>
      rw [List.length_cons, Nat.mul_succ] at few
      cases index with
      | zero =>
          obtain rfl : head = value := Option.some.inj found
          rw [storeDown, Nat.mul_zero, BitVec.sub_zero, storeDown_of_outside]
          · have at_k : (place + BitVec.ofNat width k - place).toNat = k := by
              rw [add_sub_cancel_left, BitVec.toNat_ofNat]
              exact Nat.mod_eq_of_lt (by omega)
            rw [storeAt, at_k, if_pos inside]
          · intro lower below
            have least : count * (lower + 1) ≤ count * rest.length :=
              Nat.mul_le_mul_left count below
            have distance : place + BitVec.ofNat width k -
                (place - BitVec.ofNat width count - BitVec.ofNat width (count * lower)) =
                BitVec.ofNat width (k + count * (lower + 1)) := by
              rw [lower_lower, BitVec.ofNat_add, add_sub_sub_cancel]
            rw [distance, BitVec.toNat_ofNat, Nat.mod_eq_of_lt (by omega), Nat.mul_succ]
            omega
      | succ index =>
          rw [storeDown, ← lower_lower]
          exact inductionHypothesis (by omega) found

end Memory

/-! ## Execution -/

namespace Hart

variable {width : Nat} (hart : Hart width)

/-- The value of a register; the first one is zero. -/
def reg (name : BitVec 5) : BitVec width := if name = 0 then 0 else hart.regs name

def setReg (name : BitVec 5) (value : BitVec width) : Hart width :=
  { hart with regs := Function.update hart.regs name value }

/-- One instruction. -/
def exec : Op → Hart width
  | .addi rd rs1 imm => hart.setReg rd (hart.reg rs1 + imm.signExtend width)
  | .store count rs2 rs1 imm =>
      { hart with
        mem := storeAt count hart.mem (hart.reg rs1 + imm.signExtend width) (hart.reg rs2) }
  | .load count rd rs1 imm =>
      hart.setReg rd (loadAt count hart.mem (hart.reg rs1 + imm.signExtend width))

/-- A list of words, where each is an instruction. -/
def run (hart : Hart width) : List (BitVec 32) → Option (Hart width)
  | [] => some hart
  | word :: rest => (Op.ofWord word).bind fun op => run (hart.exec op) rest

theorem run_cons {word : BitVec 32} {op : Op} (known : Op.ofWord word = some op)
    (rest : List (BitVec 32)) : hart.run (word :: rest) = (hart.exec op).run rest := by
  rw [run, known, Option.bind_some]

theorem run_append (first second : List (BitVec 32)) :
    hart.run (first ++ second) = (hart.run first).bind fun next => next.run second := by
  induction first generalizing hart with
  | nil => rfl
  | cons word first inductionHypothesis =>
      rw [List.cons_append, run, run]
      cases Op.ofWord word with
      | none => rfl
      | some op => exact inductionHypothesis _

@[simp]
theorem setReg_regs_self (name : BitVec 5) (value : BitVec width) :
    (hart.setReg name value).regs name = value :=
  Function.update_self ..

@[simp]
theorem setReg_mem (name : BitVec 5) (value : BitVec width) :
    (hart.setReg name value).mem = hart.mem := rfl

theorem setReg_regs_of_ne {name other : BitVec 5} (different : other ≠ name)
    (value : BitVec width) : (hart.setReg name value).regs other = hart.regs other :=
  Function.update_of_ne different ..

theorem reg_of_ne {name : BitVec 5} (named : name ≠ 0) : hart.reg name = hart.regs name :=
  if_neg named

end Hart

end Cva6Hpd.Decode
