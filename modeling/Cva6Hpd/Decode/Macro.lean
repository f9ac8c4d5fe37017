import Cva6Hpd.Decode.IssueRegister
import Mathlib.Data.BitVec

/-!
# Push, pop and move instructions

`macro_decoder` for 32 bits, with the pipeline register of `id_stage` behind it. One instruction
of Zcmp becomes several, one for each instruction that the issue stage acknowledges. The decoder
knows neither flushes nor the valid bit of its instruction. The register has one issue port and
decode has no coprocessor interface.
-/

namespace Cva6Hpd.Decode.Macro

open Cva6Hpd.Decode

/-! ## Instruction words -/

/-- `addi rd, rs1, imm`. -/
def addi (rd rs1 : BitVec 5) (imm : BitVec 12) : BitVec 32 :=
  imm ++ rs1 ++ 0x0#3 ++ rd ++ 0x13#7

/-- `sw rs2, imm(sp)`. -/
def storeWord (rs2 : BitVec 5) (imm : BitVec 12) : BitVec 32 :=
  imm.extractLsb' 5 7 ++ rs2 ++ 0x2#5 ++ 0x2#3 ++ imm.extractLsb' 0 5 ++ 0x23#7

/-- `lw rd, imm(sp)`. -/
def loadWord (rd : BitVec 5) (imm : BitVec 12) : BitVec 32 :=
  imm ++ 0x2#5 ++ 0x2#3 ++ rd ++ 0x03#7

/-- `lui a0, 0`. -/
def luiA0 : BitVec 32 := 0x0#20 ++ 0xA#5 ++ 0x37#7

/-- `jalr x0, x1, 0`. -/
def ret : BitVec 32 := 0x0#12 ++ 0x1#5 ++ 0x0#3 ++ 0x0#5 ++ 0x67#7

/-! ## State and inputs -/

/-- The states of the decoder. -/
inductive Fsm where
  | idle | init | pushAddi | popretz1 | move | pushPopInstr2
deriving DecidableEq, Repr

/-- `macro_instr_type`. -/
inductive MacroInstr where
  | push | pop | popretz | popret | mva01s | mvsa01
deriving DecidableEq, Repr

/-- The flip-flops of the decoder. -/
structure Regs where
  stateQ : Fsm
  offsetQ : BitVec 12
  popretzInstQ : BitVec 2
  regNumbersQ : BitVec 4
  storeRegQ : BitVec 5

/-- What the process of the decoder keeps where it does not assign it. -/
structure Latches where
  instrO : BitVec 32
  macroInstrType : MacroInstr
  xreg1 : BitVec 5
  xreg2 : BitVec 5

/-- What decode hands to the issue stage. -/
structure Decoded where
  instr : BitVec 32
  illegal : Bool
  isCompressed : Bool
  isMacro : Bool
  isLastMacro : Bool
  isDoubleRdMacro : Bool

/-- The decoder and the pipeline register. -/
structure State where
  regs : Regs
  latches : Latches
  issueQ : IssueRegister Decoded

/-- The inputs: the instruction of the frontend as the compressed decoder hands it on, the flush
and the acknowledgement. -/
structure Input where
  flush : Bool
  fetchValid : Bool
  instr : BitVec 32
  isMacroInstr : Bool
  illegalInstr : Bool
  isCompressed : Bool
  issueAck : Bool

/-- The outputs of the decoder, and its flip-flops at the next edge. -/
structure Comb where
  instr : BitVec 32
  illegal : Bool
  fetchStall : Bool
  isLastMacro : Bool
  isDoubleRdMacro : Bool
  next : Regs

/-! ## The fields of an instruction -/

/-- `instr_i[7:4]`. -/
def rlist (instr : BitVec 32) : BitVec 4 := instr.extractLsb' 4 4

/-- `instr_i[3:2]`. -/
def spimm (instr : BitVec 32) : BitVec 2 := instr.extractLsb' 2 2

/-- The type of an instruction, where the decoder knows it. -/
def typeOf (instr : BitVec 32) : Option MacroInstr :=
  match (instr.extractLsb' 10 3).toNat with
  | 6 =>
    match (instr.extractLsb' 8 2).toNat with
    | 0 => some .push
    | 2 => some .pop
    | _ => none
  | 7 =>
    match (instr.extractLsb' 8 2).toNat with
    | 0 => some .popretz
    | 2 => some .popret
    | _ => none
  | 3 =>
    match (instr.extractLsb' 5 2).toNat with
    | 1 => some .mvsa01
    | 3 => some .mva01s
    | _ => none
  | _ => none

/-- `reg_numbers`. -/
def regNumbers (instr : BitVec 32) : BitVec 4 :=
  if (rlist instr).toNat < 4 then 0 else rlist instr - 3

/-- `stack_adj` of a register list and `instr_i[3:2]`. -/
def stackAdjOf (list : BitVec 4) (spimm : BitVec 2) : BitVec 12 :=
  let steps := spimm.setWidth 12 * 16
  if list.toNat < 4 then 0
  else if list.toNat < 8 then 16 + steps
  else if list.toNat < 12 then 32 + steps
  else if list.toNat < 15 then 48 + steps
  else 64 + steps

/-- `stack_adj`. -/
def stackAdj (instr : BitVec 32) : BitVec 12 := stackAdjOf (rlist instr) (spimm instr)

/-- `xreg1` and `xreg2` of the three bits that name the register. -/
def xreg (bits : BitVec 3) : BitVec 5 :=
  BitVec.ofBool (bits.extractLsb' 1 2 ≠ 0) ++ BitVec.ofBool (bits.extractLsb' 1 2 = 0) ++ bits

/-- The bits of `xreg1`. -/
def xreg1Bits (instr : BitVec 32) : BitVec 3 := instr.extractLsb' 7 3

/-- The bits of `xreg2`. -/
def xreg2Bits (instr : BitVec 32) : BitVec 3 := instr.extractLsb' 2 3

namespace MacroInstr

/-- The two moves. -/
def isMove : MacroInstr → Bool
  | mva01s | mvsa01 => true
  | _ => false

/-- `itype_inst.imm`. -/
def imm (type : MacroInstr) (adjustment : BitVec 12) : BitVec 12 :=
  if type = .push then ~~~adjustment + 1 else adjustment - 4

/-- The word that stores or loads a register. -/
def transfer (type : MacroInstr) (reg : BitVec 5) (offset : BitVec 12) : BitVec 32 :=
  if type = .push then storeWord reg offset else loadWord reg offset

/-- The state after the last register. -/
def afterTransfers (type : MacroInstr) : Fsm :=
  if type = .popretz then .popretz1 else .pushAddi

end MacroInstr

/-- The register that is transferred when `count` are left. -/
def transferReg (count : BitVec 4) (storeReg : BitVec 5) : Option (BitVec 5) :=
  if count = 1 then some 1
  else if count = 2 then some 8
  else if count = 3 then some 9
  else if 4 ≤ count.toNat && count.toNat ≤ 12 then some storeReg
  else none

/-! ## The decoder -/

section Code

variable (s : State) (i : Input)

/-- `macro_instr_type`. -/
def macroInstrType : MacroInstr :=
  if i.isMacroInstr then (typeOf i.instr).getD s.latches.macroInstrType
  else s.latches.macroInstrType

/-- The two registers of a move are one. -/
def sameRegs : Bool := (macroInstrType s i).isMove && xreg1Bits i.instr = xreg2Bits i.instr

/-- `xreg1` and `xreg2`, from the bits that name them. -/
def xregOf (bits : BitVec 3) (latch : BitVec 5) : BitVec 5 :=
  if i.isMacroInstr then
    if (macroInstrType s i).isMove then if sameRegs s i then latch else xreg bits else 0
  else latch

/-- `xreg1`. -/
def xreg1 : BitVec 5 := xregOf s i (xreg1Bits i.instr) s.latches.xreg1

/-- `xreg2`. -/
def xreg2 : BitVec 5 := xregOf s i (xreg2Bits i.instr) s.latches.xreg2

/-- `illegal_instr_o` before the state is looked at. -/
def illegalBits : Bool :=
  if i.isMacroInstr then (typeOf i.instr).isNone || sameRegs s i else i.illegalInstr

/-- The outputs before the state is looked at. -/
def defaults : Comb where
  instr := if i.isMacroInstr && !illegalBits s i then s.latches.instrO else i.instr
  illegal := illegalBits s i
  fetchStall := false
  isLastMacro := false
  isDoubleRdMacro := false
  next := s.regs

/-- The flip-flops that `IDLE` prepares for the rest of the list. -/
def prepare : Regs where
  stateQ := if i.issueAck then .init else .idle
  offsetQ :=
    match macroInstrType s i with
    | .push => 0xFFC + 0xFFC
    | .pop | .popretz | .popret =>
        (macroInstrType s i).imm (stackAdj i.instr) + 0xFFC
    | _ => s.regs.offsetQ
  popretzInstQ :=
    match macroInstrType s i with
    | .popretz => 3
    | .popret => 1
    | .pop => 0
    | _ => s.regs.popretzInstQ
  regNumbersQ := regNumbers i.instr - 1
  storeRegQ :=
    if regNumbers i.instr = 12 then 14 + (regNumbers i.instr).setWidth 5
    else 13 + (regNumbers i.instr).setWidth 5

/-- `store_reg`. -/
def storeReg : BitVec 5 :=
  if regNumbers i.instr = 12 then 15 + (regNumbers i.instr).setWidth 5
  else 14 + (regNumbers i.instr).setWidth 5

/-- The offset of the first register. -/
def firstOffset : BitVec 12 :=
  if macroInstrType s i = .push then 0xFFC
  else (macroInstrType s i).imm (stackAdj i.instr)

/-- The first word of a move. -/
def moveFirst : BitVec 32 :=
  if macroInstrType s i = .mvsa01 then addi (xreg1 s i) 10 0 else addi 10 (xreg1 s i) 0

/-- The second word of a move. -/
def moveSecond : BitVec 32 :=
  if macroInstrType s i = .mvsa01 then addi (xreg2 s i) 11 0 else addi 11 (xreg2 s i) 0

/-- `IDLE`. -/
def combIdle : Comb :=
  let out := defaults s i
  if i.isMacroInstr then
    if (macroInstrType s i).isMove then
      { out with
        instr := moveFirst s i
        fetchStall := true
        isDoubleRdMacro := true
        next := { prepare s i with stateQ := .move } }
    else
      { out with
        instr :=
          match transferReg (regNumbers i.instr) (storeReg i) with
          | some reg => (macroInstrType s i).transfer reg (firstOffset s i)
          | none => out.instr
        fetchStall := true
        next :=
          if regNumbers i.instr = 1 then
            { prepare s i with stateQ := (macroInstrType s i).afterTransfers }
          else if regNumbers i.instr = 12 then { prepare s i with stateQ := .pushPopInstr2 }
          else prepare s i }
  else out

/-- The flip-flops after one more register. -/
def advance (regs : Regs) : Regs :=
  if regs.regNumbersQ = 1 then regs
  else
    { regs with
      regNumbersQ := regs.regNumbersQ - 1
      offsetQ := regs.offsetQ + 0xFFC
      storeRegQ :=
        if 4 ≤ regs.regNumbersQ.toNat && regs.regNumbersQ.toNat ≤ 12 then regs.storeRegQ - 1
        else regs.storeRegQ
      stateQ := if regs.regNumbersQ = 12 then .pushPopInstr2 else regs.stateQ }

/-- `INIT`. -/
def combInit : Comb :=
  let out := { defaults s i with fetchStall := i.isMacroInstr }
  if i.issueAck && i.isMacroInstr && !(macroInstrType s i).isMove then
    match transferReg s.regs.regNumbersQ s.regs.storeRegQ with
    | some reg =>
        { out with
          instr := (macroInstrType s i).transfer reg s.regs.offsetQ
          next :=
            if s.regs.regNumbersQ = 1 then
              { s.regs with stateQ := (macroInstrType s i).afterTransfers }
            else advance s.regs }
    | none => out
  else out

/-- `MOVE`. -/
def combMove : Comb :=
  let out := defaults s i
  if (macroInstrType s i).isMove then
    if i.issueAck then
      { out with
        instr := moveSecond s i
        isLastMacro := true
        isDoubleRdMacro := true
        next := { s.regs with stateQ := .idle } }
    else out
  else { out with illegal := true, instr := i.instr }

/-- `PUSH_ADDI`. -/
def combPushAddi : Comb :=
  let type : MacroInstr := macroInstrType s i
  let adjustment := if i.isMacroInstr then stackAdj i.instr else 0
  let out :=
    { defaults s i with
      instr :=
        if i.issueAck then
          if i.isMacroInstr && type = MacroInstr.push then addi 2 2 (type.imm adjustment)
          else addi 2 2 adjustment
        else (defaults s i).instr }
  if i.issueAck && i.isMacroInstr && (type = MacroInstr.popretz || type = MacroInstr.popret) then
    { out with fetchStall := true, next := { s.regs with stateQ := .popretz1 } }
  else if i.issueAck then
    { out with isLastMacro := true, next := { s.regs with stateQ := .idle } }
  else { out with fetchStall := true }

/-- `PUSH_POP_INSTR_2`. -/
def combPushPopInstr2 : Comb :=
  let out := { defaults s i with fetchStall := true }
  if (macroInstrType s i).isMove then { out with illegal := true, instr := i.instr }
  else if i.issueAck then
    { out with
      instr := (macroInstrType s i).transfer s.regs.storeRegQ s.regs.offsetQ
      next :=
        { s.regs with
          offsetQ := s.regs.offsetQ + 0xFFC
          storeRegQ := s.regs.storeRegQ - 1
          stateQ := .init } }
  else out

/-- `POPRETZ_1`. -/
def combPopretz1 : Comb :=
  let out := defaults s i
  match s.regs.popretzInstQ.toNat with
  | 3 =>
    if i.issueAck then
      { out with
        instr := luiA0, fetchStall := true
        next := { s.regs with popretzInstQ := s.regs.popretzInstQ - 1 } }
    else { out with fetchStall := true }
  | 2 =>
    if i.issueAck then
      { out with
        instr := addi 10 10 0, fetchStall := true
        next :=
          { s.regs with popretzInstQ := s.regs.popretzInstQ - 1, stateQ := .pushAddi } }
    else { out with fetchStall := true }
  | 1 =>
    if i.issueAck then
      { out with
        instr := ret, isLastMacro := true
        next := { s.regs with popretzInstQ := s.regs.popretzInstQ - 1, stateQ := .idle } }
    else out
  | _ => { out with illegal := true, instr := i.instr }

/-- The process of the decoder. -/
def comb : Comb :=
  match s.regs.stateQ with
  | .idle => combIdle s i
  | .init => combInit s i
  | .pushAddi => combPushAddi s i
  | .popretz1 => combPopretz1 s i
  | .move => combMove s i
  | .pushPopInstr2 => combPushPopInstr2 s i

/-- What decode offers to the pipeline register. -/
def offer : Offer Decoded where
  flush := i.flush
  issueAck := i.issueAck
  fetchValid := i.fetchValid
  stall := (comb s i).fetchStall
  decodedValid := true
  decoded :=
    { instr := (comb s i).instr
      illegal := (comb s i).illegal
      isCompressed := i.isMacroInstr || i.isCompressed
      isMacro := i.isMacroInstr
      isLastMacro := (comb s i).isLastMacro
      isDoubleRdMacro := (comb s i).isDoubleRdMacro }

/-- `fetch_entry_ready_o[0]`. -/
def ready : Bool := s.issueQ.ready (offer s i)

/-- A valid instruction enters the issue stage. -/
def enters : Bool := s.issueQ.enters (offer s i)

def step : State where
  regs := (comb s i).next
  latches :=
    { instrO := (comb s i).instr
      macroInstrType := macroInstrType s i
      xreg1 := xreg1 s i
      xreg2 := xreg2 s i }
  issueQ := s.issueQ.step (offer s i)

end Code

/-- The decoder at reset; the latches hold any values. -/
def initial (latches : Latches) : State where
  regs := ⟨.idle, 0, 0, 0, 0⟩
  latches := latches
  issueQ := ⟨false, ⟨0, false, false, false, false, false⟩⟩

end Cva6Hpd.Decode.Macro
