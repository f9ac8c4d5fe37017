import Cva6Hpd.Csr.Registers

/-!
# Accesses and their privilege

The inputs of the register file, the operations that read and write a register, and the check
of their privilege. With the hypervisor extension an access from a virtualized mode to a
register of the hypervisor is a violation of its own kind; it raises the exception, but only
the other kind withdraws the enables of the access.
-/

namespace Cva6Hpd.Csr

open Cva6Hpd.Ariane (FuOp)

/-! ## Interface -/

/-- `exception_t`. -/
structure Exception (cfg : Cfg) where
  cause : Word cfg
  tval : Word cfg
  tval2 : BitVec cfg.gplen
  tinst : BitVec 32
  gva : Bool
  valid : Bool

/-- No exception. -/
def Exception.none (cfg : Cfg) : Exception cfg := ⟨0, 0, 0, 0, false, false⟩

/-- The fields of `commit_instr_i` that the register file reads; `ctrlFlow` says that its unit
is `CTRL_FLOW`. -/
structure CommitInstr (cfg : Cfg) where
  ctrlFlow : Bool
  predictAddress : BitVec cfg.vlen
  pc : BitVec cfg.vlen
  isCompressed : Bool

/-- The inputs of one cycle. The last fields are the outputs of the trigger module. -/
structure Input (cfg : Cfg) where
  timeIrq : Bool
  commitInstr : CommitInstr cfg
  commitAck : List Bool
  bootAddr : BitVec cfg.vlen
  hartId : Word cfg
  ex : Exception cfg
  csrOp : FuOp
  csrAddr : BitVec 12
  csrWdata : Word cfg
  dirtyFpState : Bool
  csrWriteFflags : Bool
  dirtyVState : Bool
  pc : BitVec cfg.vlen
  accFflagsEx : BitVec 5
  accFflagsExValid : Bool
  csrHsLdStInst : Bool
  irqM : Bool
  irqS : Bool
  ipi : Bool
  debugReq : Bool
  perfData : Word cfg
  tselectFromTm : Word cfg
  tdata1FromTm : Word cfg
  tdata2FromTm : Word cfg
  tdata3FromTm : Word cfg
  flushFromTm : Bool
  breakFromTrigger : Bool
  debugFromTrigger : Bool

variable {cfg : Cfg}

namespace Input

/-- A cycle in which nothing happens. -/
def quiet (cfg : Cfg) : Input cfg where
  timeIrq := false
  commitInstr := ⟨false, 0, 0, false⟩
  commitAck := []
  bootAddr := 0
  hartId := 0
  ex := Exception.none cfg
  csrOp := .add
  csrAddr := 0
  csrWdata := 0
  dirtyFpState := false
  csrWriteFflags := false
  dirtyVState := false
  pc := 0
  accFflagsEx := 0
  accFflagsExValid := false
  csrHsLdStInst := false
  irqM := false
  irqS := false
  ipi := false
  debugReq := false
  perfData := 0
  tselectFromTm := 0
  tdata1FromTm := 0
  tdata2FromTm := 0
  tdata3FromTm := 0
  flushFromTm := false
  breakFromTrigger := false
  debugFromTrigger := false

/-- An operation of the commit stage. -/
def operation (cfg : Cfg) (op : FuOp) : Input cfg := { quiet cfg with csrOp := op }

/-- A write of a register. -/
def write (cfg : Cfg) (address : BitVec 12) (word : Nat) : Input cfg :=
  { operation cfg .csrWrite with csrAddr := address, csrWdata := BitVec.ofNat cfg.xlen word }

/-- An instruction with an exception. -/
def raise (cfg : Cfg) (cause : Nat) : Input cfg :=
  { quiet cfg with
    ex := { Exception.none cfg with cause := BitVec.ofNat cfg.xlen cause, valid := true } }

variable (i : Input cfg)

/-- `commit_ack_i[0]`. -/
def ack : Bool := i.commitAck.headD false

/-- The operation reads or writes a register. -/
def isAccess : Bool :=
  i.csrOp = .csrWrite || i.csrOp = .csrSet || i.csrOp = .csrClear || i.csrOp = .csrRead

/-- The operation writes a register. -/
def isWrite : Bool := i.csrOp = .csrWrite || i.csrOp = .csrSet || i.csrOp = .csrClear

/-- `mret`. -/
def mret : Bool := i.csrOp = .mret

/-- `sret`. -/
def sret : Bool := cfg.rvs && i.csrOp = .sret

/-- `dret`. -/
def dret : Bool := cfg.debugEn && i.csrOp = .dret

/-- A return from a handler or from the debug mode. -/
def returns : Bool := i.mret || i.sret || i.dret

end Input

/-! ## Privilege check -/

/-- `privilege_violation` and `virtual_privilege_violation`. -/
structure Violation where
  privilege : Bool
  virtual : Bool
deriving DecidableEq

section Check

variable (s : State cfg) (i : Input cfg)

/-- The counters of `Zihpm` and their upper halves. -/
def isHpmCounter (address : BitVec 12) : Bool :=
  let a := address.toNat
  (0xc03 ≤ a && a ≤ 0xc1f) || (0xc83 ≤ a && a ≤ 0xc9f)

/-- `CSR_CYCLE` to `CSR_INSTRET` and their upper halves. -/
def isBaseCounter (address : BitVec 12) : Bool :=
  let a := address.toNat
  (0xc00 ≤ a && a ≤ 0xc02) || (0xc80 ≤ a && a ≤ 0xc82)

/-- The registers `7b0` to `7bf` of the debug mode. -/
def isDebugReg (address : BitVec 12) : Bool := address.extractLsb' 4 8 = 0x7b#8

/-- The bit of a counter in the enable registers. -/
def counterEnabled (enables : Word cfg) (address : BitVec 12) : Bool :=
  enables.getLsbD (address.extractLsb' 0 5).toNat

/-- The check of a counter with the hypervisor extension. -/
def checkVirtualCounter (violation : Violation) : Violation :=
  let m := counterEnabled s.machine.mcounteren i.csrAddr
  let h := counterEnabled s.hypervisor.hcounteren i.csrAddr
  let sup := counterEnabled s.supervisor.scounteren i.csrAddr
  if s.privLvlO = .s && cfg.rvs then ⟨!m, s.v && m && !h⟩
  else if s.privLvlO = .u && cfg.rvu then
    ⟨if s.v then !m && !sup && h else !m && !sup, s.v && m && !h⟩
  else if s.privLvlO = .m then { violation with privilege := false }
  else violation

/-- The check of a counter without the hypervisor extension. -/
def checkCounter (violation : Violation) : Violation :=
  let m := counterEnabled s.machine.mcounteren i.csrAddr
  let sup := counterEnabled s.supervisor.scounteren i.csrAddr
  if s.privLvlO = .s && cfg.rvs then { violation with privilege := !m }
  else if s.privLvlO = .u && cfg.rvu then { violation with privilege := !m || !sup }
  else if s.privLvlO = .m then { violation with privilege := false }
  else violation

/-- The checks of the counters, the one of `Zihpm` first. -/
def checkCounters (check : Violation → Violation) (violation : Violation) : Violation :=
  let hpm := if cfg.rvzihpm && isHpmCounter i.csrAddr then check violation else violation
  if cfg.rvzicntr && isBaseCounter i.csrAddr then check hpm else hpm

/-- `access_priv`: supervisor level without virtualization accesses as `HS`. -/
def accessPriv : PrivLvl := if s.privLvlO = .s && !s.v then .hs else s.privLvlO

/-- A register of the debug mode outside of it. -/
def violatesDebug : Bool := isDebugReg i.csrAddr && !s.inDebug

/-- The check of the level with the hypervisor extension. -/
def checkVirtualLevel : Violation :=
  if (accessPriv s).rank < (addressPriv i.csrAddr).rank then
    if s.v && (addressPriv i.csrAddr).rank ≤ PrivLvl.hs.rank then ⟨false, true⟩ else ⟨true, false⟩
  else ⟨false, false⟩

/-- The check of the level without the hypervisor extension. -/
def checkLevel : Violation :=
  ⟨cfg.rvu && s.privLvlO.bits &&& (addressPriv i.csrAddr).bits ≠ (addressPriv i.csrAddr).bits,
    false⟩

/-- `privilege_check`. -/
def privilegeCheck : Violation :=
  if !i.isAccess then ⟨false, false⟩
  else
    let level := if cfg.rvh then checkVirtualLevel s i else checkLevel s i
    let debug := if violatesDebug s i then { level with privilege := true } else level
    if cfg.rvh then checkCounters i (checkVirtualCounter s i) debug
    else checkCounters i (checkCounter s i) debug

/-! ## Enables -/

/-- `csr_we`: a violation of the virtual kind leaves it. -/
def csrWe : Bool := i.isWrite && !(privilegeCheck s i).privilege

/-- `csr_read`. -/
def csrRead : Bool := i.isAccess && !(privilegeCheck s i).privilege

end Check

/-! ## What the check says about machine registers -/

/-- The addresses below `c00` are no counters. -/
theorem not_counter_of_lt {address : BitVec 12} (low : address.toNat < 0xc00) :
    isHpmCounter address = false ∧ isBaseCounter address = false := by
  constructor <;> simp [isHpmCounter, isBaseCounter] <;> omega

theorem checkLevel_machine {s : State cfg} {i : Input cfg}
    (machine : addressPriv i.csrAddr = .m) (allowed : (checkLevel s i).privilege = false) :
    cfg.rvu = false ∨ s.privLvlO = .m := by
  rw [checkLevel, machine] at allowed
  cases user : cfg.rvu with
  | false => exact Or.inl rfl
  | true =>
    right
    cases level : s.privLvlO with
    | m => rfl
    | u => simp [user, level, PrivLvl.bits] at allowed
    | s => simp [user, level, PrivLvl.bits] at allowed
    | hs => simp [user, level, PrivLvl.bits] at allowed

/-- With the hypervisor extension it is checked in every mode. -/
theorem checkVirtualLevel_machine {s : State cfg} {i : Input cfg}
    (machine : addressPriv i.csrAddr = .m) (allowed : (checkVirtualLevel s i).privilege = false) :
    s.privLvlO = .m := by
  rw [checkVirtualLevel, machine] at allowed
  cases level : s.privLvlO with
  | m => rfl
  | u => simp [accessPriv, level, PrivLvl.rank, PrivLvl.bits] at allowed
  | s =>
    cases virtual : s.v <;>
      simp [accessPriv, level, virtual, PrivLvl.rank, PrivLvl.bits] at allowed
  | hs => simp [accessPriv, level, PrivLvl.rank, PrivLvl.bits] at allowed

/-- Only machine level reaches a register of machine mode, in a core that has another one. -/
theorem machine_of_allowed {s : State cfg} {i : Input cfg} (access : i.isAccess = true)
    (machine : addressPriv i.csrAddr = .m) (low : i.csrAddr.toNat < 0xc00)
    (allowed : (privilegeCheck s i).privilege = false) :
    cfg.rvu = false ∨ s.privLvlO = .m := by
  obtain ⟨hpm, base⟩ := not_counter_of_lt low
  simp only [privilegeCheck, access, Bool.not_true, Bool.false_eq_true, ↓reduceIte,
    checkCounters, hpm, base, Bool.and_false] at allowed
  cases hyp : cfg.rvh with
  | true =>
    right
    apply checkVirtualLevel_machine machine
    simp only [hyp, ↓reduceIte] at allowed
    split at allowed
    · cases allowed
    · exact allowed
  | false =>
    apply checkLevel_machine machine
    simp only [hyp, Bool.false_eq_true, ↓reduceIte] at allowed
    split at allowed
    · cases allowed
    · exact allowed

end Cva6Hpd.Csr
