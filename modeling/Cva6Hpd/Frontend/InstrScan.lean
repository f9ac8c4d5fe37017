import Cva6Hpd.Ariane.Pkg
import Cva6Hpd.Hw.Slice

/-!
# The instruction scanner and the decoder

`instr_scan` looks for control flow in the words that the frontend fetched. The decoder reads the
same words later: `compressed_decoder` expands the compressed ones, `decoder` reads the operation
and the immediate. Both agree on which instructions are jumps and branches, and on where to.
-/

namespace Cva6Hpd.Frontend.InstrScan

open Cva6Hpd.Hw
open Cva6Hpd.Ariane (FuOp)

/-! ## Opcodes -/

def opcodeBranch : List Bool := [true, true, false, false, false, true, true]
def opcodeJalr : List Bool := [true, true, false, false, true, true, true]
def opcodeJal : List Bool := [true, true, false, true, true, true, true]
def opcodeC1 : List Bool := [false, true]
def opcodeC2 : List Bool := [true, false]
def opcodeC1Jal : List Bool := [false, false, true]
def opcodeC1J : List Bool := [true, false, true]
def opcodeC1Beqz : List Bool := [true, true, false]
def opcodeC1Bnez : List Bool := [true, true, true]
def opcodeC2JalrMvAdd : List Bool := [true, false, false]

/-- The registers `x0`, `x1` and `x5`. -/
def x0 : List Bool := [false, false, false, false, false]
def x1 : List Bool := [false, false, false, false, true]
def x5 : List Bool := [false, false, true, false, true]

/-! ## The scanner -/

/-- The outputs of `instr_scan`. -/
structure Scan (vlen : Nat) where
  rviReturn : Bool
  rviCall : Bool
  rviBranch : Bool
  rviJalr : Bool
  rviJump : Bool
  rviImm : BitVec vlen
  rvcBranch : Bool
  rvcJump : Bool
  rvcJr : Bool
  rvcReturn : Bool
  rvcJalr : Bool
  rvcCall : Bool
  rvcImm : BitVec vlen

section Code

variable (xlen32 : Bool) (vlen : Nat) (instr : BitVec 32)

/-- `uj_imm`. -/
def ujImm : BitVec vlen :=
  concat vlen (List.replicate (vlen - 20) (instr.getLsbD 31) ++ slice instr 19 12 ++
    slice instr 20 20 ++ slice instr 30 21 ++ [false])

/-- `sb_imm`. -/
def sbImm : BitVec vlen :=
  concat vlen (List.replicate (vlen - 13) (instr.getLsbD 31) ++ slice instr 31 31 ++
    slice instr 7 7 ++ slice instr 30 25 ++ slice instr 11 8 ++ [false])

def rv32RvcJal : Bool :=
  xlen32 && decide (slice instr 15 13 = opcodeC1Jal) && decide (slice instr 1 0 = opcodeC1)

/-- `MRET` or `SRET`. -/
def isXret : Bool :=
  decide (slice instr 31 30 = [false, false]) &&
    decide (slice instr 28 0 = slice 0b10000001000000000000001110011#29 28 0)

def rviJalr : Bool := decide (slice instr 6 0 = opcodeJalr)

def rviJump : Bool := decide (slice instr 6 0 = opcodeJal) || isXret instr

def isJalR : Bool :=
  decide (slice instr 15 13 = opcodeC2JalrMvAdd) && decide (slice instr 6 2 = x0) &&
    decide (slice instr 1 0 = opcodeC2)

def rvcJr : Bool := isJalR instr && !instr.getLsbD 12

def rvcJalr : Bool := isJalR instr && instr.getLsbD 12

/-- The immediate of a compressed jump. -/
def cjImm : BitVec vlen :=
  concat vlen (List.replicate (vlen - 11) (instr.getLsbD 12) ++ slice instr 8 8 ++
    slice instr 10 9 ++ slice instr 6 6 ++ slice instr 7 7 ++ slice instr 2 2 ++
    slice instr 11 11 ++ slice instr 5 3 ++ [false])

/-- The immediate of a compressed branch. -/
def cbImm : BitVec vlen :=
  concat vlen (List.replicate (vlen - 8) (instr.getLsbD 12) ++ slice instr 6 5 ++
    slice instr 2 2 ++ slice instr 11 10 ++ slice instr 4 3 ++ [false])

/-- `instr_scan`. -/
def scan : Scan vlen where
  rviReturn :=
    rviJalr instr && (decide (slice instr 19 15 = x1) || decide (slice instr 19 15 = x5)) &&
      decide (slice instr 19 15 ≠ slice instr 11 7)
  rviCall :=
    (rviJalr instr || rviJump instr) &&
      (decide (slice instr 11 7 = x1) || decide (slice instr 11 7 = x5))
  rviBranch := decide (slice instr 6 0 = opcodeBranch)
  rviJalr := rviJalr instr
  rviJump := rviJump instr
  rviImm :=
    if isXret instr then 0 else if instr.getLsbD 3 then ujImm vlen instr else sbImm vlen instr
  rvcBranch :=
    (decide (slice instr 15 13 = opcodeC1Beqz) || decide (slice instr 15 13 = opcodeC1Bnez)) &&
      decide (slice instr 1 0 = opcodeC1)
  rvcJump :=
    (decide (slice instr 15 13 = opcodeC1J) && decide (slice instr 1 0 = opcodeC1)) ||
      rv32RvcJal xlen32 instr
  rvcJr := rvcJr instr
  rvcReturn :=
    (decide (slice instr 11 7 = x1) || decide (slice instr 11 7 = x5)) && rvcJr instr
  rvcJalr := rvcJalr instr
  rvcCall := rvcJalr instr || rv32RvcJal xlen32 instr
  rvcImm := if instr.getLsbD 14 then cbImm vlen instr else cjImm vlen instr

end Code

section Classes

variable {vlen : Nat} (s : Scan vlen)

def Scan.isBranch : Bool := s.rviBranch || s.rvcBranch

def Scan.isCall : Bool := s.rviCall || s.rvcCall

def Scan.isReturn : Bool := s.rviReturn || s.rvcReturn

def Scan.isJump : Bool := s.rviJump || s.rvcJump

def Scan.isJalr : Bool := !s.isReturn && (s.rviJalr || s.rvcJalr || s.rvcJr)

/-- The immediate of a jump or of a branch that is taken. -/
def Scan.imm : BitVec vlen := if s.rvcBranch || s.rvcJump then s.rvcImm else s.rviImm

end Classes

/-! ## The decoder -/

/-- The bits of the jump that a compressed one is expanded to. -/
def jumpBits (instr : BitVec 32) (rd : List Bool) : List Bool :=
  slice instr 12 12 ++ slice instr 8 8 ++ slice instr 10 9 ++ slice instr 6 6 ++
    slice instr 7 7 ++ slice instr 2 2 ++ slice instr 11 11 ++ slice instr 5 3 ++
    List.replicate 9 (instr.getLsbD 12) ++ rd ++ opcodeJal

/-- The bits of the branch that a compressed one is expanded to. -/
def branchBits (instr : BitVec 32) : List Bool :=
  List.replicate 4 (instr.getLsbD 12) ++ slice instr 6 5 ++ slice instr 2 2 ++ x0 ++
    [false, true] ++ slice instr 9 7 ++ [false, false] ++ slice instr 13 13 ++
    slice instr 11 10 ++ slice instr 4 3 ++ slice instr 12 12 ++ opcodeBranch

/-- The bits of the register jump that a compressed one is expanded to. -/
def jalrBits (instr : BitVec 32) (rd : List Bool) : List Bool :=
  List.replicate 12 false ++ slice instr 11 7 ++ [false, false, false] ++ rd ++ opcodeJalr

/-- The expansion of the compressed jumps and branches; other words are not control flow. -/
def expand (xlen32 : Bool) (instr : BitVec 32) : Option (BitVec 32) :=
  if slice instr 1 0 = opcodeC1 then
    if slice instr 15 13 = opcodeC1Jal ∧ xlen32 = true then some (concat 32 (jumpBits instr x1))
    else if slice instr 15 13 = opcodeC1J then
      some (concat 32 (jumpBits instr [false, false, false, false, !instr.getLsbD 15]))
    else if slice instr 15 13 = opcodeC1Beqz ∨ slice instr 15 13 = opcodeC1Bnez then
      some (concat 32 (branchBits instr))
    else none
  else if slice instr 1 0 = opcodeC2 ∧ slice instr 15 13 = opcodeC2JalrMvAdd ∧
      slice instr 6 2 = x0 ∧ slice instr 11 7 ≠ x0 then
    some (concat 32 (jalrBits instr (if instr.getLsbD 12 then x1 else x0)))
  else none

/-- `imm_i_type`. -/
def immIType (vlen : Nat) (instr : BitVec 32) : BitVec vlen :=
  concat vlen (List.replicate (vlen - 12) (instr.getLsbD 31) ++ slice instr 31 20)

/-- `imm_sb_type`. -/
def immSbType (vlen : Nat) (instr : BitVec 32) : BitVec vlen :=
  concat vlen (List.replicate (vlen - 13) (instr.getLsbD 31) ++ slice instr 31 31 ++
    slice instr 7 7 ++ slice instr 30 25 ++ slice instr 11 8 ++ [false])

/-- `imm_uj_type`, but for table jumps. -/
def immUjType (vlen : Nat) (instr : BitVec 32) : BitVec vlen :=
  concat vlen (List.replicate (vlen - 20) (instr.getLsbD 31) ++ slice instr 19 12 ++
    slice instr 20 20 ++ slice instr 30 21 ++ [false])

/-- The operation of a branch. -/
def branchOp (funct3 : List Bool) : Option FuOp :=
  if funct3 = [false, false, false] then some .eq
  else if funct3 = [false, false, true] then some .ne
  else if funct3 = [true, false, false] then some .lts
  else if funct3 = [true, false, true] then some .ges
  else if funct3 = [true, true, false] then some .ltu
  else if funct3 = [true, true, true] then some .geu
  else none

/-- What the branch unit gets of an instruction. -/
structure ControlFlow (vlen : Nat) where
  op : FuOp
  imm : BitVec vlen
deriving DecidableEq

/-- `decoder` for the legal jumps and branches; XLEN is VLEN. -/
def decodeWord (vlen : Nat) (instr : BitVec 32) : Option (ControlFlow vlen) :=
  if slice instr 6 0 = opcodeBranch then
    (branchOp (slice instr 14 12)).map fun op => ⟨op, immSbType vlen instr⟩
  else if slice instr 6 0 = opcodeJalr then
    if slice instr 14 12 = [false, false, false] then some ⟨.jalr, immIType vlen instr⟩ else none
  else if slice instr 6 0 = opcodeJal then some ⟨.add, immUjType vlen instr⟩
  else none

/-- The instruction is compressed. -/
def isCompressed (instr : BitVec 32) : Bool := decide (slice instr 1 0 ≠ [true, true])

/-- The control flow that a fetched word decodes to. -/
def decode (xlen32 : Bool) (vlen : Nat) (instr : BitVec 32) : Option (ControlFlow vlen) :=
  if isCompressed instr then (expand xlen32 instr).bind (decodeWord vlen)
  else decodeWord vlen instr

/-! ## Agreement -/

section Agreement

variable {xlen32 : Bool} {vlen : Nat} {instr : BitVec 32}

theorem decodeWord_jump (wide : 20 ≤ vlen) (rd4 rd3 rd2 rd1 rd0 : Bool) :
    decodeWord vlen (concat 32 (jumpBits instr [rd4, rd3, rd2, rd1, rd0])) =
      some ⟨.add, cjImm vlen instr⟩ := by
  have field {hi lo : Nat} (order : lo ≤ hi) (inside : hi < 32) :=
    slice_concat (show (jumpBits instr [rd4, rd3, rd2, rd1, rd0]).length = 32 from rfl) order inside
  generalize concat 32 (jumpBits instr [rd4, rd3, rd2, rd1, rd0]) = word at field ⊢
  have opcode : slice word 6 0 = opcodeJal := field (by decide) (by decide)
  have top : slice word 31 31 = [instr.getLsbD 12] := field (by decide) (by decide)
  have sign : word.getLsbD 31 = instr.getLsbD 12 := getLsbD_of_slice (k := 0) top (by decide)
  have high : slice word 19 12 = List.replicate 8 (instr.getLsbD 12) :=
    field (by decide) (by decide)
  have next : slice word 20 20 = List.replicate 1 (instr.getLsbD 12) :=
    field (by decide) (by decide)
  have low : slice word 30 21 = slice instr 8 8 ++ slice instr 10 9 ++ slice instr 6 6 ++
      slice instr 7 7 ++ slice instr 2 2 ++ slice instr 11 11 ++ slice instr 5 3 :=
    field (by decide) (by decide)
  have width : vlen - 20 + 8 + 1 = vlen - 11 := by omega
  rw [decodeWord, opcode, if_neg (by decide), if_neg (by decide), if_pos rfl, immUjType, sign,
    high, next, low, List.replicate_append_replicate, List.replicate_append_replicate, width,
    cjImm]
  simp only [List.append_assoc]

theorem decodeWord_branch (wide : 13 ≤ vlen) :
    decodeWord vlen (concat 32 (branchBits instr)) =
      some ⟨if instr.getLsbD 13 then .ne else .eq, cbImm vlen instr⟩ := by
  have field {hi lo : Nat} (order : lo ≤ hi) (inside : hi < 32) :=
    slice_concat (show (branchBits instr).length = 32 from rfl) order inside
  generalize concat 32 (branchBits instr) = word at field ⊢
  have opcode : slice word 6 0 = opcodeBranch := field (by decide) (by decide)
  have funct3 : slice word 14 12 = [false, false, instr.getLsbD 13] :=
    field (by decide) (by decide)
  have top : slice word 31 31 = List.replicate 1 (instr.getLsbD 12) :=
    field (by decide) (by decide)
  have sign : word.getLsbD 31 = instr.getLsbD 12 := getLsbD_of_slice (k := 0) top (by decide)
  have next : slice word 7 7 = List.replicate 1 (instr.getLsbD 12) :=
    field (by decide) (by decide)
  have middle : slice word 30 25 =
      List.replicate 3 (instr.getLsbD 12) ++ slice instr 6 5 ++ slice instr 2 2 :=
    field (by decide) (by decide)
  have low : slice word 11 8 = slice instr 11 10 ++ slice instr 4 3 :=
    field (by decide) (by decide)
  have width : vlen - 13 + 1 + 1 + 3 = vlen - 8 := by omega
  have op : branchOp [false, false, instr.getLsbD 13] =
      some (if instr.getLsbD 13 then .ne else .eq) := by
    cases instr.getLsbD 13 <;> rfl
  rw [decodeWord, opcode, if_pos rfl, funct3, op, Option.map_some, immSbType, sign, top, next,
    middle, low, cbImm, ← width, ← List.replicate_append_replicate,
    ← List.replicate_append_replicate, ← List.replicate_append_replicate]
  simp only [List.append_assoc]

theorem decodeWord_jalr (rd4 rd3 rd2 rd1 rd0 : Bool) :
    ∃ imm, decodeWord vlen (concat 32 (jalrBits instr [rd4, rd3, rd2, rd1, rd0])) =
      some ⟨.jalr, imm⟩ := by
  have field {hi lo : Nat} (order : lo ≤ hi) (inside : hi < 32) :=
    slice_concat (show (jalrBits instr [rd4, rd3, rd2, rd1, rd0]).length = 32 from rfl) order inside
  have opcode : slice (concat 32 (jalrBits instr [rd4, rd3, rd2, rd1, rd0])) 6 0 = opcodeJalr :=
    field (by decide) (by decide)
  have funct3 : slice (concat 32 (jalrBits instr [rd4, rd3, rd2, rd1, rd0])) 14 12 =
      [false, false, false] :=
    field (by decide) (by decide)
  exact ⟨_, by rw [decodeWord, opcode, if_neg (by decide), if_pos rfl, funct3, if_pos rfl]⟩

/-- The scanner and the decoder agree on an instruction. -/
inductive Agrees (s : Scan vlen) (flow : ControlFlow vlen) : Prop where
  | jump (op : flow.op = .add) (imm : flow.imm = s.imm) (jumps : s.isJump = true)
      (branches : s.isBranch = false) (returns : s.isReturn = false) (jalrs : s.isJalr = false)
  | branch (op : flow.op ∈ [FuOp.eq, .ne, .lts, .ges, .ltu, .geu]) (imm : flow.imm = s.imm)
      (jumps : s.isJump = false) (branches : s.isBranch = true) (returns : s.isReturn = false)
      (jalrs : s.isJalr = false)
  | jalr (op : flow.op = .jalr) (jumps : s.isJump = false) (branches : s.isBranch = false)
      (either : s.isReturn = true ∨ s.isJalr = true)

theorem mem_of_branchOp {funct3 : List Bool} {op : FuOp} (shown : branchOp funct3 = some op) :
    op ∈ [FuOp.eq, .ne, .lts, .ges, .ltu, .geu] := by
  rw [branchOp] at shown
  repeat' split at shown
  all_goals first
    | contradiction
    | rw [← Option.some.inj shown]
      decide

theorem classes_of_long (long : slice instr 1 0 = [true, true]) :
    (scan xlen32 vlen instr).isBranch = decide (slice instr 6 0 = opcodeBranch) ∧
      (scan xlen32 vlen instr).isJump = rviJump instr ∧
      (scan xlen32 vlen instr).isReturn = (scan xlen32 vlen instr).rviReturn ∧
      (scan xlen32 vlen instr).isJalr =
        (!(scan xlen32 vlen instr).rviReturn && rviJalr instr) ∧
      (scan xlen32 vlen instr).imm = (scan xlen32 vlen instr).rviImm := by
  have first : ([true, true] : List Bool) ≠ opcodeC1 := by decide
  have second : ([true, true] : List Bool) ≠ opcodeC2 := by decide
  simp [Scan.isBranch, Scan.isJump, Scan.isReturn, Scan.isJalr, Scan.imm, scan, rv32RvcJal,
    rvcJalr, rvcJr, isJalR, long, first, second]

theorem opcode_ne_of_short (short : slice instr 1 0 ≠ [true, true]) {opcode : List Bool}
    (ends : opcode.drop 5 = [true, true]) : slice instr 6 0 ≠ opcode := by
  intro same
  exact short ((@slice_of_slice _ _ _ 1 _ _ same (by decide) (by decide)).trans ends)

/-- A word is not a long and a compressed branch at once. -/
theorem rviBranch_of_rvcBranch (branch : (scan xlen32 vlen instr).rvcBranch = true) :
    (scan xlen32 vlen instr).rviBranch = false := by
  simp only [scan, Bool.and_eq_true, decide_eq_true_eq] at branch
  have short : slice instr 1 0 ≠ [true, true] := by rw [branch.2]; decide
  exact decide_eq_false (opcode_ne_of_short short rfl)

theorem isXret_eq_false {opcode : List Bool} (shown : slice instr 6 0 = opcode)
    (other : opcode ≠ [true, true, true, false, false, true, true]) : isXret instr = false := by
  rw [isXret, Bool.and_eq_false_iff]
  right
  rw [decide_eq_false_iff_not]
  intro same
  have low := @slice_of_slice _ _ _ 6 _ _ same (by decide) (by decide)
  rw [shown] at low
  exact other (low.trans (by decide))

/-- A compressed word is classified by its own fields. -/
theorem classes_of_short (short : slice instr 1 0 ≠ [true, true]) :
    (scan xlen32 vlen instr).isBranch = (scan xlen32 vlen instr).rvcBranch ∧
      (scan xlen32 vlen instr).isJump = (scan xlen32 vlen instr).rvcJump ∧
      (scan xlen32 vlen instr).isReturn = (scan xlen32 vlen instr).rvcReturn ∧
      (scan xlen32 vlen instr).isJalr =
        (!(scan xlen32 vlen instr).rvcReturn && (rvcJalr instr || rvcJr instr)) := by
  have branch := @opcode_ne_of_short _ short opcodeBranch rfl
  have jalr := @opcode_ne_of_short _ short opcodeJalr rfl
  have jal := @opcode_ne_of_short _ short opcodeJal rfl
  have xret := @isXret_eq_false instr _ rfl (opcode_ne_of_short short rfl)
  simp [Scan.isBranch, Scan.isJump, Scan.isReturn, Scan.isJalr, scan, rviJalr, rviJump, branch,
    jalr, jal, xret]

theorem agrees_of_long (long : slice instr 1 0 = [true, true]) {flow : ControlFlow vlen}
    (decoded : decodeWord vlen instr = some flow) : Agrees (scan xlen32 vlen instr) flow := by
  obtain ⟨branch, jump, ret, jalr, imm⟩ := @classes_of_long xlen32 vlen _ long
  rw [decodeWord] at decoded
  split at decoded
  · rename_i opcode
    obtain ⟨op, found, rfl⟩ := Option.map_eq_some_iff.mp decoded
    have xret := isXret_eq_false opcode (by decide)
    have bit : instr.getLsbD 3 = false := getLsbD_of_slice opcode (k := 3) (by decide)
    have noRvi : rviJalr instr = false ∧ rviJump instr = false := by
      rw [rviJalr, rviJump, opcode, xret]
      decide
    exact .branch (mem_of_branchOp found) (by rw [imm, scan, xret, bit]; rfl)
      (jump.trans noRvi.2) (by rw [branch, opcode]; rfl) (ret.trans (by simp [scan, noRvi.1]))
      (jalr.trans (by simp [noRvi.1]))
  · split at decoded
    · rename_i opcode
      have xret := isXret_eq_false opcode (by decide)
      have rvi : rviJalr instr = true ∧ rviJump instr = false := by
        rw [rviJalr, rviJump, opcode, xret]
        decide
      split at decoded
      · rw [← Option.some.inj decoded]
        refine .jalr rfl (jump.trans rvi.2) (by rw [branch, opcode]; rfl) ?_
        rw [ret, jalr, rvi.1]
        cases (scan xlen32 vlen instr).rviReturn <;> decide
      · contradiction
    · split at decoded
      · rename_i opcode
        rw [← Option.some.inj decoded]
        have xret := isXret_eq_false opcode (by decide)
        have bit : instr.getLsbD 3 = true := getLsbD_of_slice opcode (k := 3) (by decide)
        have rvi : rviJalr instr = false ∧ rviJump instr = true := by
          rw [rviJalr, rviJump, opcode, xret]
          decide
        exact .jump rfl (by rw [imm, scan, xret, bit]; rfl) (jump.trans rvi.2)
          (by rw [branch, opcode]; rfl) (ret.trans (by simp [scan, rvi.1]))
          (jalr.trans (by simp [rvi.1]))
      · contradiction

theorem funct3_bits {a b c : Bool} (shown : slice instr 15 13 = [a, b, c]) :
    instr.getLsbD 15 = a ∧ instr.getLsbD 14 = b ∧ instr.getLsbD 13 = c :=
  ⟨getLsbD_of_slice shown (k := 0) (by decide), getLsbD_of_slice shown (k := 1) (by decide),
    getLsbD_of_slice shown (k := 2) (by decide)⟩

/-- In quadrant 1 no word is a register jump. -/
theorem noJalr_of_opcodeC1 (quadrant : slice instr 1 0 = opcodeC1) :
    (scan xlen32 vlen instr).isReturn = false ∧ (scan xlen32 vlen instr).isJalr = false := by
  have short : slice instr 1 0 ≠ [true, true] := by rw [quadrant]; decide
  have other : isJalR instr = false := by
    rw [isJalR, quadrant]
    simp [opcodeC1, opcodeC2]
  obtain ⟨_, _, ret, jalr⟩ := @classes_of_short xlen32 vlen _ short
  exact ⟨ret.trans (by simp [scan, rvcJr, other]),
    jalr.trans (by simp [rvcJr, rvcJalr, other])⟩

theorem agrees_jump (short : slice instr 1 0 = opcodeC1)
    (jumps : (scan xlen32 vlen instr).rvcJump = true)
    (bit : instr.getLsbD 14 = false) :
    Agrees (scan xlen32 vlen instr) ⟨.add, cjImm vlen instr⟩ := by
  have low : slice instr 1 0 ≠ [true, true] := by rw [short]; decide
  obtain ⟨branches, jump, _, _⟩ := @classes_of_short xlen32 vlen _ low
  obtain ⟨returns, jalrs⟩ := @noJalr_of_opcodeC1 xlen32 vlen _ short
  have branch : (scan xlen32 vlen instr).rvcBranch = false := by
    rw [scan]
    simp only [Bool.and_eq_false_iff, Bool.or_eq_false_iff, decide_eq_false_iff_not]
    left
    constructor <;>
    · intro same
      rw [(funct3_bits same).2.1] at bit
      contradiction
  refine .jump rfl ?_ (jump.trans jumps) (branches.trans branch) returns jalrs
  rw [Scan.imm, jumps, Bool.or_true, if_pos rfl, scan, bit, if_neg Bool.false_ne_true]

theorem agrees_branch (quadrant : slice instr 1 0 = opcodeC1)
    (opcode : slice instr 15 13 = opcodeC1Beqz ∨ slice instr 15 13 = opcodeC1Bnez) :
    Agrees (scan xlen32 vlen instr)
      ⟨if instr.getLsbD 13 then .ne else .eq, cbImm vlen instr⟩ := by
  have short : slice instr 1 0 ≠ [true, true] := by rw [quadrant]; decide
  obtain ⟨branches, jump, _, _⟩ := @classes_of_short xlen32 vlen _ short
  obtain ⟨returns, jalrs⟩ := @noJalr_of_opcodeC1 xlen32 vlen _ quadrant
  have bits : instr.getLsbD 14 = true := by
    rcases opcode with same | same <;> exact (funct3_bits same).2.1
  have branch : (scan xlen32 vlen instr).rvcBranch = true := by
    rcases opcode with same | same <;> simp [scan, same, quadrant]
  refine .branch (by cases instr.getLsbD 13 <;> simp) ?_ ?_ (branches.trans branch) returns jalrs
  · rw [Scan.imm, branch, Bool.true_or, if_pos rfl, scan, bits, if_pos rfl]
  · rw [jump]
    rcases opcode with same | same <;>
      simp [scan, rv32RvcJal, same, opcodeC1Beqz, opcodeC1Bnez, opcodeC1J, opcodeC1Jal]

theorem agrees_jalr (jr : isJalR instr = true) {flow : ControlFlow vlen}
    (op : flow.op = .jalr) : Agrees (scan xlen32 vlen instr) flow := by
  have fields := jr
  simp only [isJalR, Bool.and_eq_true, decide_eq_true_eq] at fields
  have quadrant : slice instr 1 0 = opcodeC2 := fields.2
  have short : slice instr 1 0 ≠ [true, true] := by rw [quadrant]; decide
  obtain ⟨branches, jump, ret, jalr⟩ := @classes_of_short xlen32 vlen _ short
  refine .jalr op (jump.trans ?_) (branches.trans ?_) ?_
  · simp [scan, rv32RvcJal, quadrant, opcodeC1, opcodeC2]
  · simp [scan, quadrant, opcodeC1, opcodeC2]
  · rw [ret, jalr, rvcJr, rvcJalr, jr]
    cases (scan xlen32 vlen instr).rvcReturn <;> cases instr.getLsbD 12 <;> decide

/-- The control flow that the decoder finds is that of the scanner. -/
theorem agrees_of_decode (wide : 20 ≤ vlen) {flow : ControlFlow vlen}
    (decoded : decode xlen32 vlen instr = some flow) : Agrees (scan xlen32 vlen instr) flow := by
  rw [decode, isCompressed] at decoded
  split at decoded
  · rename_i short
    rw [decide_eq_true_eq] at short
    obtain ⟨word, expanded, found⟩ := Option.bind_eq_some_iff.mp decoded
    simp only [expand] at expanded
    split at expanded
    · rename_i quadrant
      split at expanded
      · rename_i opcode
        rw [← Option.some.inj expanded, x1, decodeWord_jump wide] at found
        rw [← Option.some.inj found]
        refine agrees_jump quadrant ?_ (funct3_bits opcode.1).2.1
        simp [scan, rv32RvcJal, opcode.1, opcode.2, quadrant]
      · split at expanded
        · rename_i opcode
          rw [← Option.some.inj expanded, decodeWord_jump wide] at found
          rw [← Option.some.inj found]
          refine agrees_jump quadrant ?_ (funct3_bits opcode).2.1
          simp [scan, opcode, quadrant]
        · split at expanded
          · rename_i opcode
            rw [← Option.some.inj expanded, decodeWord_branch (by omega)] at found
            rw [← Option.some.inj found]
            exact agrees_branch quadrant opcode
          · contradiction
    · split at expanded
      · rename_i opcode
        have link : ∃ a b c d e,
            (if instr.getLsbD 12 = true then x1 else x0) = [a, b, c, d, e] := by
          cases instr.getLsbD 12 <;> exact ⟨_, _, _, _, _, rfl⟩
        obtain ⟨a, b, c, d, e, link⟩ := link
        rw [← Option.some.inj expanded, link] at found
        obtain ⟨imm, shown⟩ := @decodeWord_jalr vlen instr a b c d e
        rw [shown] at found
        rw [← Option.some.inj found]
        apply agrees_jalr _ rfl
        simp [isJalR, opcode.1, opcode.2.1, opcode.2.2.1]
      · contradiction
  · rename_i long
    rw [decide_eq_true_eq, not_not] at long
    exact agrees_of_long long decoded

/-- The scanner takes a legal instruction for a jump, a branch or a register jump as the decoder
does, and computes the same offset. -/
theorem scan_classifies (wide : 20 ≤ vlen) {flow : ControlFlow vlen}
    (decoded : decode xlen32 vlen instr = some flow) :
    ((scan xlen32 vlen instr).isJump = true ↔ flow.op = .add) ∧
      ((scan xlen32 vlen instr).isBranch = true ↔
        flow.op ∈ [FuOp.eq, .ne, .lts, .ges, .ltu, .geu]) ∧
      ((scan xlen32 vlen instr).isReturn = true ∨ (scan xlen32 vlen instr).isJalr = true ↔
        flow.op = .jalr) ∧
      (flow.op ≠ .jalr → flow.imm = (scan xlen32 vlen instr).imm) := by
  cases agrees_of_decode wide decoded with
  | jump op imm jumps branches returns jalrs =>
      simp [op, imm, jumps, branches, returns, jalrs]
  | branch op imm jumps branches returns jalrs =>
      have other : flow.op ≠ .add ∧ flow.op ≠ .jalr := by
        constructor <;>
        · intro same
          rw [same] at op
          exact absurd op (by decide)
      simp only [op, imm, jumps, branches, returns, jalrs, other]
      simp
  | jalr op jumps branches either =>
      simp [op, jumps, branches, either]

/-- A jump to itself, compressed. -/
theorem scan_classifies_selfJump :
    let flow : ControlFlow 32 := ⟨.add, 0⟩
    ((scan false 32 0xa001).isJump = true ↔ flow.op = .add) ∧
      ((scan false 32 0xa001).isBranch = true ↔
        flow.op ∈ [FuOp.eq, .ne, .lts, .ges, .ltu, .geu]) ∧
      ((scan false 32 0xa001).isReturn = true ∨ (scan false 32 0xa001).isJalr = true ↔
        flow.op = .jalr) ∧
      (flow.op ≠ .jalr → flow.imm = (scan false 32 0xa001).imm) :=
  scan_classifies (by decide) rfl

end Agreement

end Cva6Hpd.Frontend.InstrScan
