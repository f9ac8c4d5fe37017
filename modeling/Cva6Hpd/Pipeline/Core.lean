import Cva6Hpd.Commit.Stage
import Cva6Hpd.Execute.FixedLatency

/-!
# From issue to commit

The scoreboard between the issue ports, the fixed latency port and the commit stage. The other
units write back through their own ports, whose signals are inputs, as are the decoded
instructions, the operands, the outcome of a branch and the flush of the pipeline.
-/

namespace Cva6Hpd.Pipeline

open Cva6Hpd.Ariane
open Cva6Hpd.Hw
open Cva6Hpd.Scoreboard (ScoreboardEntry ExceptionT)

/-! ## Configuration -/

/-- The parameters of the issue ports, and those that only the commit stage reads. -/
structure Cfg extends toIssue : Issue.Cfg where
  rva : Bool
  rvs : Bool
  rvh : Bool
  rvzcmp : Bool
  sdtrig : Bool
  dcacheWb : Bool

namespace Cfg

variable (cfg : Cfg)

abbrev issue : Issue.Cfg := cfg.toIssue

abbrev scoreboard : Scoreboard.Cfg := cfg.toIssue.toCfg

def commit : Commit.Cfg where
  toCfg := cfg.scoreboard
  isXlen64 := cfg.isXlen64
  rva := cfg.rva
  rvs := cfg.rvs
  rvh := cfg.rvh
  rvzcmp := cfg.rvzcmp
  sdtrig := cfg.sdtrig
  dcacheWb := cfg.dcacheWb

instance neZeroCommitPorts : NeZero cfg.scoreboard.nrCommitPorts :=
  cfg.scoreboard.neZeroCommitPorts

/-- A superscalar core with all extensions. -/
def sample : Cfg where
  toIssue := Issue.Cfg.sample
  rva := true
  rvs := true
  rvh := true
  rvzcmp := true
  sdtrig := true
  dcacheWb := true

end Cfg

/-! ## Instructions -/

/-- The decoded fields that the stages read and the scoreboard hands on. -/
structure Instr where
  pc : Nat
  op : FuOp
  isCompressed : Bool
  vfp : Bool
deriving DecidableEq

instance : Inhabited Instr where
  default := { pc := 0, op := .add, isCompressed := false, vfp := false }

variable {cfg : Cfg}

abbrev Entry (cfg : Cfg) : Type := ScoreboardEntry cfg.scoreboard Instr

/-- The entry as the issue ports read it. -/
def issueEntry (entry : Entry cfg) : Issue.Entry cfg.issue :=
  { entry with
    instr :=
      { pc := entry.instr.pc
        op := entry.instr.op
        isCompressed := entry.instr.isCompressed } }

/-- The entry as the commit ports read it. -/
def commitEntry (entry : Entry cfg) : Commit.Entry cfg.commit :=
  { entry with
    instr := { pc := entry.instr.pc, op := entry.instr.op, vfp := entry.instr.vfp } }

/-! ## State -/

structure State (cfg : Cfg) where
  scoreboard : Scoreboard.State cfg.scoreboard Instr
  execute : Execute.State cfg.issue

structure Input (cfg : Cfg) where
  decodedInstr : Fin cfg.scoreboard.nrIssuePorts → Entry cfg
  decodedInstrValid : Bits cfg.scoreboard.nrIssuePorts
  stallRaw : Fin 2 → Bool
  operandA : Fin 2 → BitVec cfg.issue.xlen
  operandB : Fin 2 → BitVec cfg.issue.xlen
  imm : Fin 2 → BitVec cfg.issue.xlen
  origInstr : Fin 2 → BitVec 6
  xTransactionAccepted : Bool
  xTransactionRejected : Bool
  xIssueWriteback : Bool
  fpuReady : Bool
  lsuReady : Bool
  fpuEarlyValid : Bool
  isMispredict : Bool
  targetAddress : Nat
  /-- The write-back ports; but for its exception, the one of the fixed latency units is not
  read. -/
  transId : Fin cfg.scoreboard.nrWbPorts → cfg.scoreboard.TransId
  wbdata : Fin cfg.scoreboard.nrWbPorts → Nat
  ex : Fin cfg.scoreboard.nrWbPorts → ExceptionT
  wtValid : Bits cfg.scoreboard.nrWbPorts
  xWe : Bool
  xRd : Nat
  commit : Commit.Input
  flush : Bool

def reset : State cfg where
  scoreboard := Scoreboard.reset _ _
  execute := Execute.reset

/-! ## Commit ports -/

section Commit

variable (s : State cfg) (i : Input cfg)

def commitPort (port : Fin cfg.scoreboard.nrCommitPorts) : Commit.Port cfg.commit where
  instr := commitEntry (Scoreboard.commitInstr s.scoreboard port)
  drop := Scoreboard.commitDrop s.scoreboard port

/-- The commit stage serves two ports. -/
def commitPorts : Commit.Ports cfg.commit where
  first := commitPort s 0
  second :=
    if there : 1 < cfg.scoreboard.nrCommitPorts then some (commitPort s ⟨1, there⟩) else none

def commitAck : Bits cfg.scoreboard.nrCommitPorts := fun port =>
  match port.val with
  | 0 => Commit.firstAck (commitPorts s).first i.commit
  | 1 => Commit.secondAck (commitPorts s) i.commit
  | _ => false

end Commit

/-! ## Issue ports -/

section Issue

variable (s : State cfg) (i : Input cfg)

/-- `resolved_branch_i.is_mispredict`. -/
def mispredicts : Bool := Execute.any s.execute.branchValidQ && i.isMispredict

/-- `flush_unissued_instr_o`. -/
def flushUnissued : Bool := i.flush || mispredicts s i

/-- The inputs of the scoreboard but for the acknowledgements of the issue ports. -/
def offered (units : Execute.Units cfg.issue) :
    Scoreboard.Input cfg.scoreboard Instr where
  flushUnissuedInstr := flushUnissued s i
  flush := i.flush
  xTransactionAccepted := i.xTransactionAccepted
  xIssueWriteback := i.xIssueWriteback
  xId := Scoreboard.issuePointer s.scoreboard 0
  commitAck := commitAck s i
  decodedInstr := i.decodedInstr
  decodedInstrValid := i.decodedInstrValid
  issueAck := Bits.zero
  resolvedBranch :=
    { valid := Execute.any s.execute.branchValidQ
      targetAddress := i.targetAddress
      isMispredict := mispredicts s i }
  transId port :=
    if port = cfg.scoreboard.fluWb then Execute.fluTransId s.execute else i.transId port
  wbdata port :=
    if port = cfg.scoreboard.fluWb then (Execute.fluResult units s.execute).toNat
    else i.wbdata port
  ex := i.ex
  wtValid port :=
    if port = cfg.scoreboard.fluWb then Execute.fluValid s.execute else i.wtValid port
  xWe := i.xWe
  xRd := i.xRd

/-- A signal of the issue ports; a port that does not exist has the default. -/
def atPort {α : Type} (default : α) (signal : Fin cfg.scoreboard.nrIssuePorts → α)
    (port : Fin 2) : α :=
  if there : port.val < cfg.scoreboard.nrIssuePorts then signal ⟨port.val, there⟩ else default

/-- An instruction of no unit. -/
def noInstr (cfg : Cfg) : Issue.Entry cfg.issue :=
  issueEntry (Scoreboard.SbMem.zero : Scoreboard.SbMem cfg.scoreboard Instr).sbe

def issuePorts (units : Execute.Units cfg.issue) : Issue.Ports cfg.issue where
  instr :=
    atPort (noInstr cfg) fun port =>
      issueEntry (Scoreboard.issueInstr s.scoreboard (offered s i units) port)
  valid := atPort false (Scoreboard.issueInstrValid s.scoreboard (offered s i units))
  stallRaw := i.stallRaw
  xTransactionAccepted := i.xTransactionAccepted
  xTransactionRejected := i.xTransactionRejected

def executeInput (units : Execute.Units cfg.issue) : Execute.Input cfg.issue where
  ports := issuePorts s i units
  operandA := i.operandA
  operandB := i.operandB
  imm := i.imm
  origInstr := i.origInstr
  flushUnissued := flushUnissued s i
  flush := i.flush
  csrCommit := Commit.commitCsr (commitPorts s).first i.commit
  fpuReady := i.fpuReady
  lsuReady := i.lsuReady
  fpuEarlyValid := i.fpuEarlyValid

/-- `issue_ack_o`. -/
def issueAck (units : Execute.Units cfg.issue) (port : Fin 2) : Bool :=
  Issue.issueAckO (issuePorts s i units) (Execute.status s.execute (executeInput s i units)) port

def scoreboardInput (units : Execute.Units cfg.issue) : Scoreboard.Input cfg.scoreboard Instr :=
  { offered s i units with
    issueAck := fun port => issueAck s i units ⟨port.val, port.isLt.trans_le
      cfg.scoreboard.issuePorts_le⟩ }

end Issue

def step (units : Execute.Units cfg.issue) (s : State cfg) (i : Input cfg) : State cfg where
  scoreboard := Scoreboard.step s.scoreboard (scoreboardInput s i units)
  execute := Execute.step s.execute (executeInput s i units)

def machine (units : Execute.Units cfg.issue) : Machine (State cfg) (Input cfg) where
  reset := reset
  step := step units

end Cva6Hpd.Pipeline
