import Cva6Hpd.Common.Ring
import Cva6Hpd.Hw.Bits
import Cva6Hpd.Hw.Machine
import Cva6Hpd.Hw.Writes

/-!
# The scoreboard

`scoreboard` keeps the issued instructions in a circular array from the commit pointer
to the issue pointer. In one cycle it takes instructions from the issue ports, writes
results back, cancels, retires what the commit ports acknowledge, and flushes. The
fields of an instruction that it only hands on are one field of any type, and
`is_rd_fpr_flag`, which nothing reads, is left out.
-/

namespace Cva6Hpd.Scoreboard

open Cva6Hpd.Hw
open Cva6Hpd.Common

universe u

/-! ## Configuration -/

/-- The parameters that the scoreboard reads; `userCommitPorts` is the parameter of the
user, which superscalar issue overrides. -/
structure Cfg where
  transIdBits : Nat
  superscalarEn : Bool
  userCommitPorts : Nat
  nrWbPorts : Nat
  fpPresent : Bool
  debugEn : Bool
  transIdBits_pos : 0 < transIdBits
  userCommitPorts_pos : 0 < userCommitPorts
  nrWbPorts_pos : 0 < nrWbPorts

namespace Cfg

variable (cfg : Cfg)

/-- `NR_SB_ENTRIES`, asserted to be a power of two. -/
def nrSbEntries : Nat := 2 ^ cfg.transIdBits

def nrIssuePorts : Nat := if cfg.superscalarEn then 2 else 1

def nrCommitPorts : Nat := if cfg.superscalarEn then 2 else cfg.userCommitPorts

def speculativeSb : Bool := cfg.superscalarEn

/-- `TRANS_ID_BITS` wires. -/
abbrev TransId : Type := Fin cfg.nrSbEntries

instance neZeroEntries : NeZero cfg.nrSbEntries :=
  ⟨(Nat.two_pow_pos _).ne'⟩

instance neZeroCommitPorts : NeZero cfg.nrCommitPorts where
  out := by
    have positive := cfg.userCommitPorts_pos
    rw [nrCommitPorts]
    split <;> omega

theorem two_le_entries : 2 ≤ cfg.nrSbEntries := by
  calc
    2 = 2 ^ 1 := rfl
    _ ≤ 2 ^ cfg.transIdBits := Nat.pow_le_pow_right Nat.two_pos cfg.transIdBits_pos

theorem issuePorts_le : cfg.nrIssuePorts ≤ 2 := by
  rw [nrIssuePorts]
  split <;> decide

/-- `FLU_WB`. -/
def fluWb : Fin cfg.nrWbPorts := ⟨0, cfg.nrWbPorts_pos⟩

end Cfg

/-! ## Entries -/

/-- `fu_t`. -/
inductive Fu where
  | none
  | load
  | store
  | alu
  | ctrlFlow
  | mult
  | csr
  | fpu
  | fpuVec
  | cvxif
  | accel
  | aes
deriving DecidableEq, Repr

/-- `exception_t`. -/
structure ExceptionT where
  cause : Nat
  tval : Nat
  tval2 : Nat
  tinst : Nat
  gva : Bool
  valid : Bool
deriving DecidableEq, Repr

/-- `scoreboard_entry_t`; `instr` stands for the fields that are handed on as decoded:
the program counter, the operation, the sources, the flags of the operands, and the
others that only the neighbours read. -/
structure ScoreboardEntry (cfg : Cfg) (ι : Type u) where
  instr : ι
  transId : cfg.TransId
  fu : Fu
  rd : Nat
  result : Nat
  valid : Bool
  ex : ExceptionT
  predictAddress : Nat
  isMacroInstr : Bool
  isLastMacroInstr : Bool
  isDoubleRdMacroInstr : Bool
deriving DecidableEq

/-- `sb_mem_t`. -/
structure SbMem (cfg : Cfg) (ι : Type u) where
  issued : Bool
  cancelled : Bool
  sbe : ScoreboardEntry cfg ι
deriving DecidableEq

abbrev Mem (cfg : Cfg) (ι : Type u) : Type u := cfg.TransId → SbMem cfg ι

structure State (cfg : Cfg) (ι : Type u) where
  memQ : Mem cfg ι
  commitPointerQ : Fin cfg.nrCommitPorts → cfg.TransId
  issuePointerQ : cfg.TransId

/-- The fields of `bp_resolve_t` that the scoreboard reads. -/
structure BpResolve where
  valid : Bool
  targetAddress : Nat
  isMispredict : Bool
deriving DecidableEq, Repr

structure Input (cfg : Cfg) (ι : Type u) where
  flushUnissuedInstr : Bool
  flush : Bool
  xTransactionAccepted : Bool
  xIssueWriteback : Bool
  xId : cfg.TransId
  commitAck : Bits cfg.nrCommitPorts
  decodedInstr : Fin cfg.nrIssuePorts → ScoreboardEntry cfg ι
  decodedInstrValid : Bits cfg.nrIssuePorts
  issueAck : Bits cfg.nrIssuePorts
  resolvedBranch : BpResolve
  transId : Fin cfg.nrWbPorts → cfg.TransId
  wbdata : Fin cfg.nrWbPorts → Nat
  ex : Fin cfg.nrWbPorts → ExceptionT
  wtValid : Bits cfg.nrWbPorts
  xWe : Bool
  xRd : Nat

variable {cfg : Cfg} {ι : Type u}

/-! ## Issue and commit ports -/

section Ports

variable (s : State cfg ι) (i : Input cfg ι)

/-- `issue_pointer[port]`. -/
def issuePointer (port : Nat) : cfg.TransId := Ring.slot s.issuePointerQ port

/-- All entries with an even (`0`) or an odd (`1`) index are issued. -/
def issuedInstrs (parity : Nat) : Bool :=
  decide (∀ entry : cfg.TransId, entry.val % 2 = parity → (s.memQ entry).issued = true)

/-- `issue_full`: the second port needs two entries next to each other. -/
def issueFull (port : Fin cfg.nrIssuePorts) : Bool :=
  if port.val = 0 then issuedInstrs s 0 && issuedInstrs s 1
  else issuedInstrs s 0 || issuedInstrs s 1

/-- `commit_instr_o`. -/
def commitInstr (port : Fin cfg.nrCommitPorts) : ScoreboardEntry cfg ι :=
  { (s.memQ (s.commitPointerQ port)).sbe with transId := s.commitPointerQ port }

/-- `commit_drop_o`. -/
def commitDrop (port : Fin cfg.nrCommitPorts) : Bool :=
  (s.memQ (s.commitPointerQ port)).cancelled

/-- `issue_instr_o`. -/
def issueInstr (port : Fin cfg.nrIssuePorts) : ScoreboardEntry cfg ι :=
  { i.decodedInstr port with transId := issuePointer s port.val }

def issueInstrValid : Bits cfg.nrIssuePorts := fun port =>
  i.decodedInstrValid port && !issueFull s port

def decodedInstrAck : Bits cfg.nrIssuePorts := fun port =>
  i.issueAck port && !issueFull s port

/-- The ports whose instruction enters the array. -/
def issues : Bits cfg.nrIssuePorts := fun port =>
  i.decodedInstrValid port && decodedInstrAck s i port && !i.flushUnissuedInstr

def numIssue : Nat := (issues s i).indices.length

end Ports

/-! ## One cycle of the array -/

section Cycle

variable (s : State cfg ι) (i : Input cfg ι) (mem : Mem cfg ι)

def SbMem.setValid (valid : Bool) (entry : SbMem cfg ι) : SbMem cfg ι :=
  { entry with sbe := { entry.sbe with valid := valid } }

/-- An assignment to fields of one entry. -/
def modify (entry : cfg.TransId) (change : SbMem cfg ι → SbMem cfg ι) : Mem cfg ι :=
  Function.update mem entry (change (mem entry))

/-- The entry of a decoded instruction. -/
def issueEntry (port : Fin cfg.nrIssuePorts) (_ : SbMem cfg ι) : SbMem cfg ι where
  issued := true
  cancelled := false
  sbe := i.decodedInstr port

def issueMem : Mem cfg ι :=
  writes (issues s i) (fun port => issuePointer s port.val) (issueEntry i)
    (List.finRange cfg.nrIssuePorts) s.memQ

/-- An instruction without a functional unit is valid immediately. -/
def fuNone : Mem cfg ι := fun entry =>
  if (s.memQ entry).sbe.fu = .none ∧ (s.memQ entry).issued = true then
    (mem entry).setValid true
  else mem entry

/-- `8'(trans_id) - 1`, as an index of the array: the index of zero is out of range. -/
def belowIndex (id : cfg.TransId) : Option cfg.TransId :=
  if 0 < id.val % 2 ^ 8 then
    some ⟨id.val % 2 ^ 8 - 1,
      Nat.lt_of_le_of_lt ((Nat.sub_le _ _).trans (Nat.mod_le _ _)) id.isLt⟩
  else none

/-- The entry is the last half of a move to two registers. -/
def SbMem.lastOfPair (entry : SbMem cfg ι) : Bool :=
  entry.sbe.isDoubleRdMacroInstr && entry.sbe.isMacroInstr && entry.sbe.isLastMacroInstr

/-- The valid bits that a write-back assigns. -/
def wbValid (id : cfg.TransId) : Mem cfg ι :=
  let sbe := (s.memQ id).sbe
  if sbe.isDoubleRdMacroInstr && sbe.isMacroInstr then
    if sbe.isLastMacroInstr then
      let last := modify mem id (SbMem.setValid true)
      match belowIndex id with
      | some below => modify last below (SbMem.setValid true)
      | none => last
    else modify mem id (SbMem.setValid false)
  else modify mem id (SbMem.setValid true)

/-- `rd` of an entry that is written back. -/
def wbRd (sbe : ScoreboardEntry cfg ι) : Nat :=
  if sbe.fu = .cvxif then if i.xWe then i.xRd else 0 else sbe.rd

/-- `ex` of an entry that is written back; the floating-point unit writes its flags to
the cause. -/
def wbEx (port : Fin cfg.nrWbPorts) (sbe : ScoreboardEntry cfg ι) : ExceptionT :=
  let fu := (s.memQ (i.transId port)).sbe.fu
  if (i.ex port).valid then i.ex port
  else if cfg.fpPresent && (decide (fu = .fpu) || decide (fu = .fpuVec)) then
    { sbe.ex with cause := (i.ex port).cause }
  else sbe.ex

/-- The other fields that a write-back assigns. -/
def wbData (port : Fin cfg.nrWbPorts) (entry : SbMem cfg ι) : SbMem cfg ι :=
  { entry with
    sbe := { entry.sbe with
      result := i.wbdata port
      predictAddress :=
        if cfg.debugEn then i.resolvedBranch.targetAddress else entry.sbe.predictAddress
      rd := wbRd i entry.sbe
      ex := wbEx s i port entry.sbe } }

/-- The write-back of one port, to an instruction that is still issued. -/
def writeBack (port : Fin cfg.nrWbPorts) : Mem cfg ι :=
  if i.wtValid port && (s.memQ (i.transId port)).issued then
    modify (wbValid s mem (i.transId port)) (i.transId port) (wbData s i port)
  else mem

def writeBacks : Mem cfg ι :=
  (List.finRange cfg.nrWbPorts).foldl (writeBack s i) mem

def bmiss : Bool := i.resolvedBranch.valid && i.resolvedBranch.isMispredict

def afterFluWb : cfg.TransId := Ring.slot (i.transId cfg.fluWb) 1

def SbMem.cancel (entry : SbMem cfg ι) : SbMem cfg ι := { entry with cancelled := true }

/-- A mispredicted branch cancels the instruction behind it. -/
def cancel : Mem cfg ι :=
  if cfg.speculativeSb && bmiss i && decide (afterFluWb i ≠ issuePointer s 0) then
    modify mem (afterFluWb i) SbMem.cancel
  else mem

/-- The entry is no longer in issue. -/
def SbMem.retire (entry : SbMem cfg ι) : SbMem cfg ι :=
  { entry with issued := false, cancelled := false, sbe := { entry.sbe with valid := false } }

def commit : Mem cfg ι :=
  writes i.commitAck s.commitPointerQ (fun _ => SbMem.retire)
    (List.finRange cfg.nrCommitPorts) mem

def SbMem.clear (entry : SbMem cfg ι) : SbMem cfg ι :=
  { entry with
    issued := false
    cancelled := false
    sbe := { entry.sbe with valid := false, ex := { entry.sbe.ex with valid := false } } }

def flushAll : Mem cfg ι :=
  if i.flush then fun entry => (mem entry).clear else mem

/-- The array before its commit ports and the flush. -/
def executed : Mem cfg ι := cancel s i (writeBacks s i (fuNone s (issueMem s i)))

/-- `mem_n`. -/
def memD : Mem cfg ι := flushAll i (commit s i (executed s i))

/-- `commit_ack_i[port]`, low where the port does not exist. -/
def ack (port : Nat) : Bool :=
  if exists_ : port < cfg.nrCommitPorts then i.commitAck ⟨port, exists_⟩ else false

/-- `num_commit`, with a branch for two ports and one for a single port. -/
def numCommit : Nat :=
  if cfg.nrCommitPorts = 2 then (ack i 1).toNat + (ack i 0).toNat else (ack i 0).toNat

def commitPointerD (port : Fin cfg.nrCommitPorts) : cfg.TransId :=
  if i.flush then 0
  else Ring.slot (Ring.slot (s.commitPointerQ 0) (numCommit i)) port.val

def issuePointerD : cfg.TransId :=
  if i.flush then 0 else issuePointer s (numIssue s i)

/-- The destination register that the answer of the extension interface clears. -/
def xRdMem : Mem cfg ι :=
  modify mem i.xId fun entry =>
    { entry with
      sbe := { entry.sbe with
        rd := if i.xTransactionAccepted && !i.xIssueWriteback then 0 else entry.sbe.rd } }

def step : State cfg ι where
  memQ := xRdMem i (memD s i)
  commitPointerQ := commitPointerD s i
  issuePointerQ := issuePointerD s i

end Cycle

/-- The entry of all zeros; the default of the fields handed on is their zero. -/
def SbMem.zero [Inhabited ι] : SbMem cfg ι where
  issued := false
  cancelled := false
  sbe :=
    { instr := default
      transId := 0
      fu := .none
      rd := 0
      result := 0
      valid := false
      ex := ⟨0, 0, 0, 0, false, false⟩
      predictAddress := 0
      isMacroInstr := false
      isLastMacroInstr := false
      isDoubleRdMacroInstr := false }

def reset (cfg : Cfg) (ι : Type u) [Inhabited ι] : State cfg ι where
  memQ := fun _ => SbMem.zero
  commitPointerQ := fun _ => 0
  issuePointerQ := 0

def machine (cfg : Cfg) (ι : Type u) [Inhabited ι] : Machine (State cfg ι) (Input cfg ι) where
  reset := reset cfg ι
  step := step

end Cva6Hpd.Scoreboard
