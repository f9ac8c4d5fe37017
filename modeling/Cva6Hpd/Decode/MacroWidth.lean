import Cva6Hpd.Decode.Expansion
import Cva6Hpd.Decode.Hart

/-!
# The decoder for both widths

`macro_decoder` takes the same steps for 64 bits as for 32. It differs in the table of the stack
adjustments and in the words: they store and load double words, clear a bit of the offset, and
adjust the stack pointer by four less. The instruction is held and every word is acknowledged.
-/

namespace Cva6Hpd.Decode.Macro

open Cva6Hpd.Decode

/-! ## Instruction words -/

/-- `sd rs2, imm(sp)`, with bit 2 of the offset cleared. -/
def storeDword (rs2 : BitVec 5) (imm : BitVec 12) : BitVec 32 :=
  imm.extractLsb' 5 7 ++ rs2 ++ 0x2#5 ++ 0x3#3 ++ imm.extractLsb' 3 2 ++ 0x0#1 ++
    imm.extractLsb' 0 2 ++ 0x23#7

/-- `ld rd, imm(sp)`. -/
def loadDword (rd : BitVec 5) (imm : BitVec 12) : BitVec 32 :=
  imm ++ 0x2#5 ++ 0x3#3 ++ rd ++ 0x03#7

/-- An offset with bit 2 cleared. -/
def cleared (imm : BitVec 12) : BitVec 12 := imm.extractLsb' 3 9 ++ 0x0#1 ++ imm.extractLsb' 0 2

/-- The word that stores or loads a register of 64 bits. -/
def MacroInstr.transfer64 (type : MacroInstr) (reg : BitVec 5) (offset : BitVec 12) :
    BitVec 32 :=
  if type = .push then storeDword reg offset else loadDword reg (cleared offset)

/-! ## The decoder for 64 bits -/

/-- `stack_adj` for 64 bits, of a register list and `instr_i[3:2]`. -/
def stackAdjOf64 (list : BitVec 4) (spimm : BitVec 2) : BitVec 12 :=
  let steps := spimm.setWidth 12 * 16
  if list.toNat < 4 then 0
  else if list.toNat < 6 then 16 + steps
  else if list.toNat < 8 then 32 + steps
  else if list.toNat < 10 then 48 + steps
  else if list.toNat < 12 then 64 + steps
  else if list.toNat < 14 then 80 + steps
  else if list.toNat < 15 then 96 + steps
  else 112 + steps

def stackAdj64 (instr : BitVec 32) : BitVec 12 := stackAdjOf64 (rlist instr) (spimm instr)

section Code

variable (s : State) (i : Input)

/-- `itype_inst.imm` for 64 bits. -/
def imm64 : BitVec 12 := (macroInstrType s i).imm (stackAdj64 i.instr)

/-- The word of the first register. -/
def first64 (reg : BitVec 5) : BitVec 32 :=
  if macroInstrType s i = .push then storeDword reg 0xFF8 else loadDword reg (imm64 s i - 4)

/-- `IDLE`. -/
def combIdle64 : Comb :=
  let out := combIdle s i
  if i.isMacroInstr && !(macroInstrType s i).isMove then
    { out with
      instr :=
        match transferReg (regNumbers i.instr) (storeReg i) with
        | some reg => first64 s i reg
        | none => out.instr
      next :=
        { out.next with
          offsetQ := if macroInstrType s i = .push then 0xFFC + 0xFFC else imm64 s i + 0xFFC } }
  else out

/-- `INIT`. -/
def combInit64 : Comb :=
  let out := combInit s i
  if i.issueAck && i.isMacroInstr && !(macroInstrType s i).isMove then
    match transferReg s.regs.regNumbersQ s.regs.storeRegQ with
    | some reg => { out with instr := (macroInstrType s i).transfer64 reg s.regs.offsetQ }
    | none => out
  else out

/-- `PUSH_ADDI`. -/
def combPushAddi64 : Comb :=
  let type : MacroInstr := macroInstrType s i
  let adjustment := if i.isMacroInstr then stackAdj64 i.instr else 0
  { combPushAddi s i with
    instr :=
      if i.issueAck then
        if i.isMacroInstr && type = MacroInstr.push then addi 2 2 (type.imm adjustment - 4)
        else addi 2 2 (adjustment - 4)
      else (defaults s i).instr }

/-- `PUSH_POP_INSTR_2`. -/
def combPushPopInstr264 : Comb :=
  let out := combPushPopInstr2 s i
  if !(macroInstrType s i).isMove && i.issueAck then
    { out with instr := (macroInstrType s i).transfer64 s.regs.storeRegQ s.regs.offsetQ }
  else out

/-- The process of the decoder, for 64 bits if `wide`. -/
def combOf (wide : Bool) : Comb :=
  if wide then
    match s.regs.stateQ with
    | .idle => combIdle64 s i
    | .init => combInit64 s i
    | .pushAddi => combPushAddi64 s i
    | .popretz1 => combPopretz1 s i
    | .move => combMove s i
    | .pushPopInstr2 => combPushPopInstr264 s i
  else comb s i

/-- One cycle of the decoder alone. -/
def decoderStep (wide : Bool) : State :=
  { s with
    regs := (combOf s i wide).next
    latches :=
      { instrO := (combOf s i wide).instr
        macroInstrType := macroInstrType s i
        xreg1 := xreg1 s i
        xreg2 := xreg2 s i } }

end Code

/-- The words of an instruction that is held at the decoder, until the decoder is idle again. -/
def emitted (wide : Bool) (i : Input) : Nat → State → List (BitVec 32)
  | 0, _ => []
  | fuel + 1, s =>
      (combOf s i wide).instr ::
        if (combOf s i wide).next.stateQ = .idle then []
        else emitted wide i fuel (decoderStep s i wide)

/-- The instruction is at the decoder, and every word is acknowledged. -/
def acknowledged (instr : BitVec 32) : Input := { presented instr with issueAck := true }

/-! ## The meaning of the words -/

theorem ofWord_addi (rd rs1 : BitVec 5) (imm : BitVec 12) :
    Op.ofWord (addi rd rs1 imm) = some (.addi rd rs1 imm) := by
  simp (disch := omega) only [Op.ofWord, addi, BitVec.extractLsb'_append_eq_of_add_le,
    BitVec.extractLsb'_append_eq_of_le]
  simp

theorem ofWord_storeWord (rs2 : BitVec 5) (imm : BitVec 12) :
    Op.ofWord (storeWord rs2 imm) = some (.store 4 rs2 2 imm) := by
  have whole : imm.extractLsb' 5 7 ++ imm.extractLsb' 0 5 = imm :=
    BitVec.extractLsb'_append_extractLsb' (w := 7)
  simp (disch := omega) only [Op.ofWord, storeWord, BitVec.extractLsb'_append_eq_of_add_le,
    BitVec.extractLsb'_append_eq_of_le]
  simp [whole]

theorem ofWord_loadWord (rd : BitVec 5) (imm : BitVec 12) :
    Op.ofWord (loadWord rd imm) = some (.load 4 rd 2 imm) := by
  simp (disch := omega) only [Op.ofWord, loadWord, BitVec.extractLsb'_append_eq_of_add_le,
    BitVec.extractLsb'_append_eq_of_le]
  simp

theorem ofWord_loadDword (rd : BitVec 5) (imm : BitVec 12) :
    Op.ofWord (loadDword rd imm) = some (.load 8 rd 2 imm) := by
  simp (disch := omega) only [Op.ofWord, loadDword, BitVec.extractLsb'_append_eq_of_add_le,
    BitVec.extractLsb'_append_eq_of_le]
  simp

theorem ofWord_storeDword (rs2 : BitVec 5) (imm : BitVec 12) :
    ∃ offset, Op.ofWord (storeDword rs2 imm) = some (.store 8 rs2 2 offset) := by
  simp (disch := omega) only [Op.ofWord, storeDword, BitVec.extractLsb'_append_eq_of_add_le,
    BitVec.extractLsb'_append_eq_of_le]
  simp

end Cva6Hpd.Decode.Macro
