import Cva6Hpd.Ariane.Pkg
import Cva6Hpd.Scoreboard.Core

/-!
# Structural hazards at the issue ports

`issue_read_operands` issues the instructions of up to two ports in one cycle when the units
that they need are free. There is no arbitration behind the issue ports: the flags of the busy
units of each port have to keep two instructions from meeting at one write-back port.
-/

namespace Cva6Hpd.Issue

open Cva6Hpd.Ariane
open Cva6Hpd.Scoreboard (Fu ScoreboardEntry)

/-! ## Configuration -/

/-- The parameters that the issue ports and the units behind them read; `userAluBypass` is
the parameter of the user, which only superscalar issue keeps. -/
structure Cfg extends Scoreboard.Cfg where
  isXlen64 : Bool
  vlen : Nat
  userAluBypass : Bool
  rvb : Bool
  zkn : Bool

namespace Cfg

variable (cfg : Cfg)

def xlen : Nat := if cfg.isXlen64 then 64 else 32

def aluBypass : Bool := cfg.superscalarEn && cfg.userAluBypass

instance neZeroSbEntries : NeZero cfg.toCfg.nrSbEntries :=
  cfg.toCfg.neZeroEntries

/-- A superscalar core with all extensions. -/
def sample : Cfg where
  transIdBits := 3
  superscalarEn := true
  userCommitPorts := 2
  nrWbPorts := 5
  fpPresent := true
  debugEn := false
  transIdBits_pos := by decide
  userCommitPorts_pos := Nat.two_pos
  nrWbPorts_pos := by decide
  isXlen64 := true
  vlen := 64
  userAluBypass := true
  rvb := true
  zkn := true

end Cfg

/-! ## Issue ports -/

/-- The decoded fields of an entry that are read here. -/
structure Decoded where
  pc : Nat
  op : FuOp
  isCompressed : Bool
deriving DecidableEq

abbrev Entry (cfg : Cfg) : Type := ScoreboardEntry cfg.toCfg Decoded

variable {cfg : Cfg}

/-- The instructions that are offered, what the read of their operands decides about them,
and the answer of the coprocessor to the first one. Without superscalar issue, nothing reads
the second port. -/
structure Ports (cfg : Cfg) where
  instr : Fin 2 → Entry cfg
  valid : Fin 2 → Bool
  stallRaw : Fin 2 → Bool
  xTransactionAccepted : Bool
  xTransactionRejected : Bool

/-- What the units report; `multValid` is the disjunction of `mult_valid_q`. -/
structure Status where
  fluReady : Bool
  multValid : Bool
  fpuReady : Bool
  lsuReady : Bool
  fpuEarlyValid : Bool

/-- `fus_busy_t`. -/
structure FusBusy where
  none : Bool
  load : Bool
  store : Bool
  alu : Bool
  alu2 : Bool
  ctrlFlow : Bool
  mult : Bool
  csr : Bool
  fpu : Bool
  fpuVec : Bool
  cvxif : Bool
  accel : Bool
  aes : Bool

/-- `'1`. -/
def FusBusy.all : FusBusy where
  none := true
  load := true
  store := true
  alu := true
  alu2 := true
  ctrlFlow := true
  mult := true
  csr := true
  fpu := true
  fpuVec := true
  cvxif := true
  accel := true
  aes := true

/-- `[FLD : FSB]`. -/
def isFpLoadStore (op : FuOp) : Bool := FuOp.inside .fld .fsb op

/-! ## Busy units -/

section Busy

variable (instr : Fin 2 → Entry cfg) (status : Status)

def isCpop (op : FuOp) : Bool := op = .cpop || op = .cpopw

/-- `is_alu_bypass`. -/
def isAluBypass : Bool :=
  cfg.aluBypass && ((instr 0).fu = .alu && (instr 1).fu = .alu)
    && !(isCpop (instr 0).instr.op || isCpop (instr 1).instr.op)

/-- `fus_busy[0]`. -/
def firstFusBusy (cfg : Cfg) (status : Status) : FusBusy where
  none := false
  load := !status.lsuReady
  store := !status.lsuReady
  alu := !status.fluReady || status.multValid
  alu2 := cfg.superscalarEn && status.fpuEarlyValid
  ctrlFlow := !status.fluReady || status.multValid
  mult := !status.fluReady
  csr := !status.fluReady || status.multValid
  fpu := cfg.fpPresent && !status.fpuReady
  fpuVec := cfg.fpPresent && !status.fpuReady
  cvxif := false
  accel := false
  aes := !status.fluReady || status.multValid

/-- `use_alu2` of a port with these busy units. -/
def useAlu2 (busy : FusBusy) : Bool :=
  cfg.superscalarEn &&
    if isAluBypass instr || (instr 1).fu = .fpu || (instr 1).fu = .fpuVec then busy.alu
    else !busy.alu2

/-- `fus_busy[1]`: what the instruction at the first port takes. -/
def secondFusBusy : FusBusy :=
  let first := firstFusBusy cfg status
  let busy : FusBusy := { first with csr := true, cvxif := true }
  let instr0 := instr 0
  match instr0.fu with
  | .none => { busy with none := true }
  | .ctrlFlow =>
    if cfg.speculativeSb then
      { busy with alu := true, ctrlFlow := true, csr := true, store := true }
    else if instr0.instr.op = .add then
      { busy with alu := true, ctrlFlow := true, csr := true }
    else .all
  | .alu =>
    if useAlu2 instr first then { busy with alu2 := true }
    else { busy with alu := true, ctrlFlow := true, csr := true }
  | .csr => .all
  | .mult => { busy with mult := true }
  | .fpu | .fpuVec =>
    if isFpLoadStore (instr 1).instr.op then
      { busy with fpu := true, fpuVec := true, load := true, store := true }
    else { busy with fpu := true, fpuVec := true }
  | .load | .store =>
    if isFpLoadStore instr0.instr.op then
      { busy with load := true, store := true, fpu := true, fpuVec := true }
    else { busy with load := true, store := true }
  | _ => busy

/-- `fus_busy`. -/
def fusBusy (port : Fin 2) : FusBusy :=
  if port = 0 then firstFusBusy cfg status else secondFusBusy instr status

/-- The instruction takes the second ALU. -/
def takesAlu2 (port : Fin 2) : Bool := useAlu2 instr (fusBusy instr status port)

/-- `fu_busy`. -/
def fuBusy (port : Fin 2) : Bool :=
  let busy := fusBusy instr status port
  match (instr port).fu with
  | .none => busy.none
  | .alu => if takesAlu2 instr status port then busy.alu2 else busy.alu
  | .ctrlFlow => busy.ctrlFlow
  | .csr => busy.csr
  | .mult => busy.mult
  | .load => busy.load
  | .store => busy.store
  | .cvxif => busy.cvxif
  | .aes => busy.aes
  | .fpu => cfg.fpPresent && busy.fpu
  | .fpuVec => cfg.fpPresent && busy.fpuVec
  | .accel => false

end Busy

/-! ## Acknowledgements -/

section Ack

variable (ports : Ports cfg) (status : Status)

/-- `issue_ack`. -/
def issueAck (port : Fin 2) : Bool :=
  ports.valid port && !fuBusy ports.instr status port &&
    (!ports.stallRaw port || (ports.instr port).ex.valid)

/-- `issue_ack_o[0]`: an instruction of the coprocessor waits for its answer. -/
def firstAck : Bool :=
  if (ports.instr 0).fu = .cvxif &&
      !(ports.xTransactionAccepted || ports.xTransactionRejected) then
    (ports.instr 0).ex.valid && ports.valid 0
  else issueAck ports status 0

/-- `issue_ack_o`. -/
def issueAckO (port : Fin 2) : Bool :=
  if port = 0 then firstAck ports status
  else cfg.superscalarEn && firstAck ports status && issueAck ports status 1

/-- The instruction starts in its unit. -/
def issues (port : Fin 2) : Bool :=
  !(ports.instr port).ex.valid && ports.valid port && issueAckO ports status port

end Ack

end Cva6Hpd.Issue
