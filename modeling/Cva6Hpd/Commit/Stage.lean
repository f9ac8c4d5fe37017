import Cva6Hpd.Ariane.Pkg
import Cva6Hpd.Lsu.AmoBuffer
import Cva6Hpd.Scoreboard.Core

/-!
# The commit stage

`commit_stage` takes the oldest instructions of the scoreboard, one at each commit port, and
decides in the same cycle which of them retire and with which effects. The first port serves
every instruction; the second one only the instructions that write nothing but a register
and the flags of the floating point unit.
-/

namespace Cva6Hpd.Commit

open Cva6Hpd.Ariane
open Cva6Hpd.Lsu.AmoBuffer (AmoResp)
open Cva6Hpd.Scoreboard (Fu ExceptionT ScoreboardEntry)

/-! ## Configuration -/

/-- The parameters that the commit stage reads; `dcacheWb` says that `DCacheType` is `WB`. -/
structure Cfg extends Scoreboard.Cfg where
  isXlen64 : Bool
  rva : Bool
  rvs : Bool
  rvh : Bool
  rvzcmp : Bool
  sdtrig : Bool
  dcacheWb : Bool

namespace Cfg

variable (cfg : Cfg)

def xlen : Nat := if cfg.isXlen64 then 64 else 32

/-- A superscalar core with all extensions. -/
def sample : Cfg where
  transIdBits := 3
  superscalarEn := true
  userCommitPorts := 2
  nrWbPorts := 4
  fpPresent := true
  debugEn := false
  transIdBits_pos := Nat.succ_pos 2
  userCommitPorts_pos := Nat.two_pos
  nrWbPorts_pos := Nat.lt_add_left 3 Nat.one_pos
  isXlen64 := true
  rva := true
  rvs := true
  rvh := true
  rvzcmp := true
  sdtrig := true
  dcacheWb := true

end Cfg

/-! ## Interface -/

/-- The decoded fields of an entry that the commit stage reads. -/
structure Decoded where
  pc : Nat
  op : FuOp
  vfp : Bool
deriving DecidableEq

abbrev Entry (cfg : Cfg) : Type := ScoreboardEntry cfg.toCfg Decoded

/-- `commit_instr_i` and `commit_drop_i` of one port. -/
structure Port (cfg : Cfg) where
  instr : Entry cfg
  drop : Bool

/-- The two commit ports; with `NrCommitPorts` 1 there is no second one. -/
structure Ports (cfg : Cfg) where
  first : Port cfg
  second : Option (Port cfg)

/-- The inputs other than the instructions. -/
structure Input where
  halt : Bool
  flushDcache : Bool
  singleStep : Bool
  amoResp : AmoResp
  csrRdata : Nat
  csrException : ExceptionT
  commitLsuReady : Bool
  noStPending : Bool
  breakFromTrigger : Bool

variable {cfg : Cfg}

namespace Port

variable (port : Port cfg)

def op : FuOp := port.instr.instr.op

def fu : Fu := port.instr.fu

/-- `RVA` and `is_amo` of the operation. -/
def isAmo : Bool := cfg.rva && port.op.isAmo

def isFpu : Bool := port.fu = .fpu || port.fu = .fpuVec

def isRdFpr : Bool := cfg.fpPresent && port.op.isRdFpr

/-- `ex.cause[4:0]`. -/
def fflags : BitVec 5 := BitVec.ofNat 5 port.instr.ex.cause

/-- The instruction ends a macro instruction. -/
def endsMacro : Bool := cfg.rvzcmp && port.instr.isMacroInstr && port.instr.isLastMacroInstr

end Port

/-! ## The first port -/

section First

variable (port : Port cfg) (i : Input)

/-- The instruction may commit in this cycle. -/
def considered : Bool := port.instr.valid && !i.halt

/-- The instruction has an exception, or the trigger module asks for one. -/
def excepts : Bool := port.instr.ex.valid || i.breakFromTrigger

/-- The branch of the instructions without an exception. -/
def commits : Bool := considered port i && !excepts port i

/-- The store of the first port, which the store buffer has to take. -/
def isStore : Bool := port.fu = .store && !port.isAmo

/-- The fences that wait for the store buffer, as the operation and the extension it needs. -/
def isSfenceVma : Bool := cfg.rvs && port.op = .sfenceVma

def isHfenceVvma : Bool := cfg.rvh && port.op = .hfenceVvma

def isHfenceGvma : Bool := cfg.rvh && port.op = .hfenceGvma

/-- `FENCE_I`, or a flush of a write-back data cache that the instruction has to wait for. -/
def isFenceI : Bool :=
  port.op = .fenceI || i.flushDcache && cfg.dcacheWb && !(port.fu = .store)

def isFence : Bool := port.op = .fence

/-- One of the fences holds the instruction until no store is pending. -/
def waits : Bool :=
  (isSfenceVma port || isHfenceVvma port || isHfenceGvma port || isFenceI port i
    || isFence port) && !port.drop

/-- `commit_ack_o[0]`; a later assignment of the source overrides an earlier one. -/
def firstAck : Bool :=
  if !considered port i then false
  else if excepts port i then port.drop
  else if port.isAmo then i.amoResp.ack
  else if waits port i then i.noStPending
  else if port.fu = .csr && !port.drop && i.csrException.valid then false
  else if isStore port then i.commitLsuReady
  else true

/-- `commit_macro_ack[0]`. -/
def firstMacroAck : Bool := commits port i && port.endsMacro

/-- `we_fpr_o[0]`. -/
def firstWeFpr : Bool := commits port i && !port.drop && port.isRdFpr

/-- `we_gpr_o[0]`. -/
def firstWeGpr : Bool :=
  if !commits port i then false
  else if port.isAmo then i.amoResp.ack
  else if port.fu = .csr && !port.drop && i.csrException.valid then false
  else !port.drop && !port.isRdFpr

/-- `wdata_o[0]`. -/
def firstWdata : Nat :=
  if commits port i && (port.fu = .csr) && !port.drop && !i.csrException.valid then i.csrRdata
  else if cfg.rva && i.amoResp.ack then i.amoResp.result.toNat % 2 ^ cfg.xlen
  else port.instr.result

/-- `commit_lsu_o`. -/
def commitLsu : Bool := commits port i && isStore port && i.commitLsuReady

/-- `csr_write_fflags_o` as the first port sets it. -/
def firstWriteFflags : Bool := commits port i && cfg.fpPresent && port.isFpu && !port.drop

/-- `csr_op_o`; `ADD` is the operation that does nothing. -/
def csrOp : FuOp := if commits port i && port.fu = .csr then port.op else .add

/-- `csr_wdata_o` as the first port sets it. -/
def firstCsrWdata : Nat :=
  if commits port i && port.fu = .csr then port.instr.result
  else if firstWriteFflags port i then port.fflags.toNat
  else 0

/-- `commit_csr_o`. -/
def commitCsr : Bool :=
  commits port i && port.fu = .csr && !port.drop && !i.csrException.valid

/-- `sfence_vma_o`. -/
def sfenceVma : Bool := commits port i && isSfenceVma port && !port.drop && i.noStPending

/-- `hfence_vvma_o`. -/
def hfenceVvma : Bool := commits port i && isHfenceVvma port && !port.drop && i.noStPending

/-- `hfence_gvma_o`. -/
def hfenceGvma : Bool := commits port i && isHfenceGvma port && !port.drop && i.noStPending

/-- `fence_i_o`. -/
def fenceI : Bool := commits port i && isFenceI port i && !port.drop && i.noStPending

/-- `fence_o`. -/
def fence : Bool := commits port i && isFence port && !port.drop && i.noStPending

/-- `amo_valid_commit_o`. -/
def amoValidCommit : Bool := commits port i && port.isAmo

/-- `flush_commit_o`. -/
def flushCommit : Bool := commits port i && port.isAmo && i.amoResp.ack

/-- `exception_o`. -/
def exceptionO : ExceptionT :=
  let none : ExceptionT :=
    { cause := 0, tval := 0, tval2 := 0, tinst := 0, gva := false, valid := false }
  let own := port.instr.ex
  let ex :=
    if port.instr.valid && !port.drop then
      if own.valid then own
      else if i.csrException.valid then
        if cfg.rvh then
          { i.csrException with tval := own.tval, tval2 := own.tval2, tinst := own.tinst,
                                gva := own.gva }
        else { i.csrException with tval := own.tval }
      else none
    else none
  let ex := if i.halt then { ex with valid := false } else ex
  if cfg.sdtrig && !cfg.debugEn && i.breakFromTrigger then { ex with valid := true, cause := 3 }
  else ex

end First

/-! ## The second port -/

section Second

variable (ports : Ports cfg) (i : Input)

/-- The units whose instructions the second port takes. -/
def secondFus : List Fu := [.alu, .load, .ctrlFlow, .mult, .fpu, .fpuVec]

/-- The second instruction could retire with the first one: the conditions of the second
port, but for the acknowledgement of the first one. -/
def pairs (first second : Port cfg) : Bool :=
  second.instr.valid && !i.halt && !(first.fu = .csr) && !i.flushDcache && !first.isAmo
    && !i.singleStep && !second.instr.ex.valid && second.fu ∈ secondFus

/-- `commit_ack_o[1]`. -/
def secondAck : Bool :=
  match ports.second with
  | none => false
  | some second => firstAck ports.first i && pairs i ports.first second

/-- `commit_macro_ack[1]`. -/
def secondMacroAck : Bool :=
  match ports.second with
  | none => false
  | some second => secondAck ports i && second.endsMacro

/-- `we_fpr_o[1]`. -/
def secondWeFpr : Bool :=
  match ports.second with
  | none => false
  | some second => secondAck ports i && !second.drop && second.isRdFpr

/-- `we_gpr_o[1]`. -/
def secondWeGpr : Bool :=
  match ports.second with
  | none => false
  | some second => secondAck ports i && !second.drop && !second.isRdFpr

/-- The second port adds its flags. -/
def secondWriteFflags : Bool :=
  match ports.second with
  | none => false
  | some second => secondAck ports i && !second.drop && cfg.fpPresent && second.isFpu

/-- `csr_write_fflags_o`. -/
def csrWriteFflags : Bool := firstWriteFflags ports.first i || secondWriteFflags ports i

/-- `csr_wdata_o`. -/
def csrWdata : Nat :=
  match ports.second with
  | none => firstCsrWdata ports.first i
  | some second =>
    if secondWriteFflags ports i then
      if firstWriteFflags ports.first i then (ports.first.fflags ||| second.fflags).toNat
      else second.fflags.toNat
    else firstCsrWdata ports.first i

end Second

/-! ## Both ports -/

/-- `commit_macro_ack_o` of a port. -/
def macroAck (port : Port cfg) (ack inner : Bool) : Bool :=
  if cfg.rvzcmp then if port.instr.isMacroInstr then inner else ack else ack

/-- A port's contribution to `dirty_fp_state_o`. -/
def dirtiesFp (port : Port cfg) (ack : Bool) : Bool :=
  ack && (port.isFpu && cfg.fpPresent && port.op.fdChangesRdState || port.isRdFpr)
    || (port.fu = .accel && port.instr.instr.vfp)

end Cva6Hpd.Commit
