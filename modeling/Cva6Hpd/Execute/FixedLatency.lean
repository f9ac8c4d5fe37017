import Cva6Hpd.Execute.Serdiv
import Cva6Hpd.Hw.Machine

/-!
# The fixed latency port

The first ALU, the branch unit, the CSR buffer, the multiplier, the divider and the unit of the
scalar cryptography share one write-back port of `ex_stage`. The registers between the issue
ports and these units, the units that hold instructions for more than one cycle, and the
multiplexer of the port are one state machine; it reads the other units only through their
ready signals.
-/

namespace Cva6Hpd.Execute

open Cva6Hpd.Ariane
open Cva6Hpd.Hw
open Cva6Hpd.Issue (Cfg Ports Status)
open Cva6Hpd.Scoreboard (Fu)

/-! ## Combinational units -/

/-- The results of `alu` and of `aes`, which are functions of their inputs; any functions do
here. The second argument of `aes` are the bits of the instruction that the operation reads. -/
structure Units (cfg : Cfg) where
  alu : FuData cfg → BitVec cfg.xlen
  aes : FuData cfg → BitVec 6 → BitVec cfg.xlen

variable {cfg : Cfg}

/-- The bits of `orig_instr_aes` that an operation reads: the number of a byte or of a
round. -/
def usedBits (op : FuOp) (bits : BitVec 6) : BitVec 6 :=
  match op with
  | .aes32esi | .aes32esmi | .aes32dsi | .aes32dsmi => bits &&& 0b110000
  | .aes64ks1i => bits &&& 0b001111
  | _ => 0

/-- `branch_result_o`: the address of the next instruction. -/
def branchResult (pc : BitVec cfg.vlen) (isCompressed : Bool) : BitVec cfg.xlen :=
  (pc + if isCompressed then 2 else 4).setWidth _

/-- The operations of the divider. -/
def divOperations : List FuOp := [.div, .divu, .divw, .divuw, .rem, .remu, .remw, .remuw]

/-- A division of words, whose result is sign extended. -/
def isWordOp (data : FuData cfg) : Bool :=
  cfg.isXlen64 && data.operation ∈ [FuOp.divw, .divuw, .remw, .remuw]

/-- The inputs of the divider; without a division, which silences them, it does not read
them. -/
def divRequest (data : FuData cfg) : Serdiv.Request cfg :=
  let isSigned := data.operation ∈ [FuOp.div, .divw, .rem, .remw]
  let operand (value : BitVec cfg.xlen) : BitVec cfg.xlen :=
    if isWordOp data then
      if isSigned then sext32 value else (value.setWidth 32).setWidth _
    else value
  { id := data.transId
    opA := operand data.operandA
    opB := operand data.operandB
    rem := data.operation ∈ [FuOp.rem, .remu, .remw, .remuw]
    isSigned := isSigned }

/-- `div_result`. -/
def divResult (wordOp : Bool) (regs : Serdiv.Regs cfg) : BitVec cfg.xlen :=
  if wordOp then sext32 (Serdiv.resO regs) else Serdiv.resO regs

/-! ## State -/

structure State (cfg : Cfg) where
  fuDataQ : Fin 2 → FuData cfg
  aluValidQ : Fin 2 → Bool
  branchValidQ : Fin 2 → Bool
  csrValidQ : Fin 2 → Bool
  aesValidQ : Fin 2 → Bool
  multValidQ : Fin 2 → Bool
  pcO : BitVec cfg.vlen
  isCompressedO : Bool
  origInstrAesBits : BitVec 6
  /-- The valid bit of `csr_reg_q`, whose address the port does not read. -/
  csrRegValid : Bool
  mulValidQ : Bool
  multiplier : Multiplier.Regs cfg
  wordOpQ : Bool
  serdiv : Serdiv.State cfg

/-- The issue ports with the operands that were read, and the bits of the instructions for
`orig_instr_aes_bits`; the flush of the issue stage and of the units, and what the other
units report. -/
structure Input (cfg : Cfg) where
  ports : Ports cfg
  operandA : Fin 2 → BitVec cfg.xlen
  operandB : Fin 2 → BitVec cfg.xlen
  imm : Fin 2 → BitVec cfg.xlen
  origInstr : Fin 2 → BitVec 6
  flushUnissued : Bool
  flush : Bool
  csrCommit : Bool
  fpuReady : Bool
  lsuReady : Bool
  fpuEarlyValid : Bool

def reset : State cfg where
  fuDataQ _ := .zero
  aluValidQ _ := false
  branchValidQ _ := false
  csrValidQ _ := false
  aesValidQ _ := false
  multValidQ _ := false
  pcO := 0
  isCompressedO := false
  origInstrAesBits := 0
  csrRegValid := false
  mulValidQ := false
  multiplier := .reset
  wordOpQ := false
  serdiv := Serdiv.reset

/-! ## Units -/

section Control

variable (s : State cfg) (i : Input cfg)

def oneCycleSelect (port : Fin 2) : Bool :=
  s.aluValidQ port || s.branchValidQ port || s.csrValidQ port || s.aesValidQ port

/-- The port whose data a unit takes: the second one, if it selects it. -/
def selectData (select : Fin 2 → Bool) : FuData cfg :=
  if cfg.superscalarEn && select 1 then s.fuDataQ 1
  else if select 0 then s.fuDataQ 0
  else .zero

def oneCycleData : FuData cfg := selectData s (oneCycleSelect s)

def multData : FuData cfg := selectData s s.multValidQ

/-- The disjunction over the issue ports. -/
def any (valid : Fin 2 → Bool) : Bool := valid 0 || valid 1

def mulValidOp : Bool :=
  !i.flush && any s.multValidQ && (multData s).operation ∈ Multiplier.operations

def divValidOp : Bool :=
  !i.flush && any s.multValidQ && (multData s).operation ∈ divOperations

def serdivInput : Serdiv.Input cfg where
  inVld := divValidOp s i
  request := divRequest (multData s)
  flush := i.flush
  outRdy := !s.mulValidQ

def divValid : Bool := Serdiv.outVld s.serdiv

def multValid : Bool := divValid s || s.mulValidQ

def multTransId : cfg.TransId :=
  if s.mulValidQ then s.multiplier.transIdQ else s.serdiv.regs.idQ

def multResult : BitVec cfg.xlen :=
  if s.mulValidQ then Multiplier.result s.multiplier
  else divResult (cfg.isXlen64 && s.wordOpQ) s.serdiv.regs

def csrReady : Bool := !((s.csrRegValid || any s.csrValidQ) && !i.csrCommit)

def fluReady : Bool := csrReady s i && Serdiv.inRdy s.serdiv (serdivInput s i)

def status : Status where
  fluReady := fluReady s i
  multValid := any s.multValidQ
  fpuReady := i.fpuReady
  lsuReady := i.lsuReady
  fpuEarlyValid := i.fpuEarlyValid

end Control

/-! ## Write-back -/

section WriteBack

variable (units : Units cfg) (s : State cfg)

def fluValid : Bool := any (oneCycleSelect s) || multValid s

def fluTransId : cfg.TransId :=
  if any s.aluValidQ || any s.csrValidQ then (oneCycleData s).transId
  else if multValid s then multTransId s
  else (oneCycleData s).transId

def fluResult : BitVec cfg.xlen :=
  let data := oneCycleData s
  if any s.aluValidQ then units.alu data
  else if any s.csrValidQ then data.operandA
  else if multValid s then multResult s
  else if any s.aesValidQ then units.aes data (usedBits data.operation s.origInstrAesBits)
  else branchResult s.pcO s.isCompressedO

end WriteBack

/-! ## Registers -/

section Step

variable (s : State cfg) (i : Input cfg)

/-- The instruction at the port starts in its unit in the next cycle. -/
def starts (port : Fin 2) : Bool :=
  Issue.issues i.ports (status s i) port && !i.flushUnissued

/-- It starts in this unit; an instruction of the ALUs in the first one. -/
def startsIn (fu : Fu) (port : Fin 2) : Bool :=
  starts s i port && (i.ports.instr port).fu = fu &&
    !(fu = .alu && Issue.takesAlu2 i.ports.instr (status s i) port)

def fuDataN (port : Fin 2) : FuData cfg where
  transId := (i.ports.instr port).transId
  operation := (i.ports.instr port).instr.op
  operandA := i.operandA port
  operandB := i.operandB port
  imm := i.imm port

/-- The branch that `pc_n` and `is_compressed_instr_n` are taken from. -/
def branchPort : Option (Fin 2) :=
  if (i.ports.instr 0).fu = .ctrlFlow then some 0
  else if cfg.superscalarEn && (i.ports.instr 1).fu = .ctrlFlow then some 1
  else none

def step : State cfg where
  fuDataQ := fuDataN i
  aluValidQ := startsIn s i .alu
  branchValidQ := startsIn s i .ctrlFlow
  csrValidQ := startsIn s i .csr
  aesValidQ := startsIn s i .aes
  multValidQ := startsIn s i .mult
  pcO :=
    match branchPort i with
    | some port => BitVec.ofNat _ (i.ports.instr port).instr.pc
    | none => 0
  isCompressedO :=
    match branchPort i with
    | some port => (i.ports.instr port).instr.isCompressed
    | none => false
  origInstrAesBits := if cfg.zkn then i.origInstr 0 else s.origInstrAesBits
  csrRegValid :=
    !i.flush && (any s.csrValidQ || (s.csrRegValid && !i.csrCommit))
  mulValidQ := mulValidOp s i
  multiplier := Multiplier.latch (multData s)
  wordOpQ :=
    if any s.multValidQ && (multData s).operation ∈ divOperations then isWordOp (multData s)
    else s.wordOpQ
  serdiv := Serdiv.step s.serdiv (serdivInput s i)

end Step

def machine (cfg : Cfg) : Machine (State cfg) (Input cfg) where
  reset := reset
  step := step

end Cva6Hpd.Execute
