import Cva6Hpd.Csr.Trap
import Cva6Hpd.Hw.Machine

/-!
# The register file

`csr_regfile`: one cycle composes the process `csr_update` (the counters, the write, the
hardwired fields, the trap, the entry to the debug mode and the return) with the other
registered values. A later stage overrides what an earlier one set, as a later assignment of
the process does.
-/

namespace Cva6Hpd.Csr

open Cva6Hpd.Ariane (FuOp)

variable {cfg : Cfg}

section Stages

variable (s : State cfg) (i : Input cfg)

/-! ## Defaults -/

/-- `cycle_d` and `instret_d` before a write. -/
def counted : Counters :=
  if s.inDebug then s.counters
  else
    { s.counters with
      cycle :=
        if !cfg.perfCounterEn || !s.counters.mcountinhibit.getLsbD 0 then s.counters.cycle + 1
        else s.counters.cycle
      instret :=
        if !i.ex.valid && (!cfg.perfCounterEn || !s.counters.mcountinhibit.getLsbD 2) then
          s.counters.instret + BitVec.ofNat 64 (i.commitAck.count true)
        else s.counters.instret }

/-- The defaults of the process. -/
def defaults : State cfg :=
  { s with
    counters := counted s i
    machine :=
      { s.machine with
        mtvec :=
          if s.mtvecRstLoad then i.bootAddr.setWidth cfg.xlen + BitVec.ofNat cfg.xlen 0x40
          else s.machine.mtvec } }

/-! ## Hardwired fields -/

namespace Mstatus

/-- The hardwired widths. -/
def withXl (cfg : Cfg) (m : Mstatus) : Mstatus :=
  if cfg.isXlen64 then
    { m with sxl := if cfg.rvs then 2 else 0, uxl := if cfg.rvu then 2 else 0 }
  else m

/-- Without user mode every trap comes from machine mode. -/
def withMachineMpp (cfg : Cfg) (m : Mstatus) : Mstatus :=
  if cfg.rvu then m else { m with mpp := .m }

/-- The floating point registers become dirty. -/
def dirtyFs (dirty : Bool) (m : Mstatus) : Mstatus := if dirty then { m with fs := .dirty } else m

/-- The vector registers become dirty. -/
def dirtyVs (dirty : Bool) (m : Mstatus) : Mstatus := if dirty then { m with vs := .dirty } else m

end Mstatus

/-- An access or an instruction dirties the floating point registers. -/
def dirtiesFp (dirtyFp : Bool) : Bool := cfg.fpPresent && (dirtyFp || i.dirtyFpState)

/-- The hardwired and the dirty fields of `mstatus`. -/
def hardwiredMstatus (dirtyFp : Bool) (m : Mstatus) : Mstatus :=
  { (((m.withXl cfg).withMachineMpp cfg).dirtyFs (dirtiesFp i dirtyFp)).dirtyVs
      (cfg.rvv && i.dirtyVState) with
    sd := (cfg.rvs || cfg.rvf) && (s.mstatus.xs = .dirty || s.mstatus.fs = .dirty) }

/-- The hardwired and the dirty fields of `vsstatus`. -/
def hardwiredVsstatus (dirtyFp : Bool) (m : Mstatus) : Mstatus :=
  if cfg.rvh then
    { { m with uxl := 2 }.dirtyFs (dirtiesFp i dirtyFp && s.v) with
      sd := s.vsstatus.xs = .dirty || s.vsstatus.fs = .dirty }
  else m

/-- The flags that retiring instructions and the accelerator add. -/
def addedFlags (f : Fcsr) : Fcsr :=
  let f :=
    if cfg.fpPresent && i.csrWriteFflags then
      { f with fflags := i.csrWdata.setWidth 5 ||| s.fcsr.fflags }
    else f
  if cfg.enableAccelerator && i.accFflagsExValid then
    { f with fflags := f.fflags ||| i.accFflagsEx }
  else f

/-- The bit of a word is replaced. -/
def withBit (position : Nat) (value : Bool) (word : Word cfg) : Word cfg :=
  merged (bit cfg position) word (if value then bit cfg position else 0)

/-- The pending interrupts of machine mode follow the lines. -/
def externalInterrupts (mip : Word cfg) : Word cfg :=
  withBit 7 i.timeIrq (withBit 3 (cfg.softwareInterruptEn && i.ipi) (withBit 11 i.irqM mip))

/-- What the process sets between the write and the trap. -/
def hardwired (d : Draft cfg) : State cfg :=
  { d.next with
    mstatus := hardwiredMstatus s i d.dirtyFpState d.next.mstatus
    hstatus := if cfg.rvh then { d.next.hstatus with vsxl := 2 } else d.next.hstatus
    vsstatus := hardwiredVsstatus s i d.dirtyFpState d.next.vsstatus
    fcsr := addedFlags s i d.next.fcsr
    machine := { d.next.machine with mip := externalInterrupts i d.next.machine.mip }
    pmp :=
      { d.next.pmp with pmpcfg := fun k =>
          if k < cfg.nrPmpEntries then { d.next.pmp.pmpcfg k with reserved := 0 }
          else d.next.pmp.pmpcfg k } }

/-! ## Debug mode -/

/-- The debug causes of `ariane_pkg`. -/
inductive DebugCause where
  | breakpoint | trigger | request | singleStep
deriving DecidableEq

def DebugCause.bits : DebugCause → BitVec 3
  | .breakpoint => 1
  | .trigger => 2
  | .request => 3
  | .singleStep => 4

/-- The trigger module asks for the debug mode. -/
def entersOnTrigger : Bool := cfg.sdtrig && i.debugFromTrigger

/-- A breakpoint is executed. -/
def breakpoint : Bool := i.ex.valid && i.ex.hasCause Cause.breakpoint

/-- The breakpoint bit of the current mode; the first default keeps the mode as it is. -/
def ebreakBit : Option Bool :=
  match s.privLvlO with
  | .m => some s.debug.dcsr.ebreakm
  | .s =>
    if cfg.rvs then
      some (if cfg.rvh && s.v then s.debug.dcsr.ebreakvs else s.debug.dcsr.ebreaks)
    else none
  | .u =>
    if cfg.rvu then
      some (if cfg.rvh && s.v then s.debug.dcsr.ebreakvu else s.debug.dcsr.ebreaku)
    else none
  | .hs => none

/-- The debugger asks for the debug mode. -/
def entersOnRequest : Bool := i.ex.valid && i.ex.hasCause Cause.debugRequest

/-- A single step ends. -/
def entersOnStep : Bool := s.debug.dcsr.step && i.ack

/-- `debug_mode_d` after the debug block. -/
def enteredDebug : Bool :=
  if entersOnStep s i || entersOnRequest i then true
  else if breakpoint i then (ebreakBit s).getD (entersOnTrigger i)
  else entersOnTrigger i

/-- The address of the instruction after the one at the first port. -/
def nextPc (instr : CommitInstr cfg) : BitVec cfg.vlen :=
  if instr.ctrlFlow then instr.predictAddress
  else instr.pc + BitVec.ofNat cfg.vlen (if instr.isCompressed then 2 else 4)

/-- `dpc` at the end of a single step. The block reads `eret_o` before the returns assign it,
so the branch for returns is never taken. -/
def steppedPc : Word cfg :=
  if i.commitInstr.ctrlFlow then signExtended cfg i.commitInstr.predictAddress
  else if i.ex.valid then (trapVectorBase s i).setWidth cfg.xlen
  else signExtended cfg (nextPc i.commitInstr)

/-- `dcsr.cause`: the last assignment wins. -/
def debugCause : Option DebugCause :=
  if entersOnStep s i then some .singleStep
  else if entersOnRequest i then some .request
  else if breakpoint i then some .breakpoint
  else if entersOnTrigger i then some .trigger
  else none

/-- The debug block writes `dpc`. -/
def savesPc : Bool := entersOnTrigger i || breakpoint i || entersOnRequest i

/-- The debug block outside of the debug mode. -/
def debugEntry (d : State cfg) : State cfg :=
  if cfg.debugEn && !s.debugMode then
    { d with
      debugMode := enteredDebug s i
      debug :=
        { d.debug with
          dcsr :=
            { d.debug.dcsr with
              prv := s.privLvlO
              v := cfg.rvh && s.v
              cause := ((debugCause s i).map DebugCause.bits).getD d.debug.dcsr.cause }
          dpc :=
            if entersOnStep s i then steppedPc s i
            else if savesPc i then signExtended cfg i.pc
            else d.debug.dpc } }
  else d

/-- `set_debug_pc_o`. -/
def setDebugPc : Bool :=
  if cfg.debugEn && !s.debugMode then enteredDebug s i else s.inDebug && breakpoint i

/-! ## Returns -/

/-- `mret`. -/
def popMachine (d : State cfg) : State cfg :=
  let m :=
    { d.mstatus with
      mie := s.mstatus.mpie
      mpie := true
      mpp := if cfg.rvu then .u else .m }
  let m :=
    if cfg.rvh then
      { m with mpv := false, mprv := if s.mstatus.mpp = .m then m.mprv else false }
    else m
  { d with privLvl := s.mstatus.mpp, mstatus := m, v := if cfg.rvh then s.mstatus.mpv else d.v }

/-- `sret` outside of a virtualized mode. -/
def popSupervisor (d : State cfg) : State cfg :=
  let m := { d.mstatus with sie := s.mstatus.spie, spie := true, spp := false }
  { d with
    privLvl := PrivLvl.ofLow s.mstatus.spp
    mstatus := if cfg.rvh then { m with mprv := false } else m
    hstatus := if cfg.rvh then { d.hstatus with spv := false } else d.hstatus
    v := if cfg.rvh then s.hstatus.spv else d.v }

/-- `sret` from a virtualized mode. -/
def popVirtual (d : State cfg) : State cfg :=
  { d with
    privLvl := PrivLvl.ofLow s.vsstatus.spp
    vsstatus := { d.vsstatus with sie := s.vsstatus.spie, spie := true, spp := false } }

/-- `dret`. -/
def leaveDebug (d : State cfg) : State cfg :=
  { d with
    privLvl := s.debug.dcsr.prv
    v := if cfg.rvh then s.debug.dcsr.v else d.v
    debugMode := false }

/-- "Return from Environment". -/
def xret (d : State cfg) : State cfg :=
  if i.mret then popMachine s d
  else if i.sret then if cfg.rvh && s.v then popVirtual s d else popSupervisor s d
  else if i.dret then leaveDebug s d
  else d

/-- `epc_o`. -/
def epc : BitVec cfg.vlen :=
  if i.dret then s.debug.dpc.setWidth cfg.vlen
  else if i.sret then
    if cfg.rvh && s.v then s.virtualSupervisor.vsepc.setWidth cfg.vlen
    else s.supervisor.sepc.setWidth cfg.vlen
  else s.machine.mepc.setWidth cfg.vlen

/-! ## Loads and stores -/

/-- `ld_st_priv_lvl_o`. -/
def ldStPrivLvl : PrivLvl :=
  if cfg.rvh then
    if i.csrHsLdStInst then PrivLvl.ofLow s.hstatus.spvp
    else if s.mprv then s.mstatus.mpp else s.privLvlO
  else if cfg.rvu && s.mprv then s.mstatus.mpp
  else s.privLvlO

/-- `en_translation_o`. -/
def enTranslation : Bool :=
  if cfg.rvh then
    ((s.supervisor.satp.translates && !s.v) || (s.virtualSupervisor.vsatp.translates && s.v))
      && s.privLvlO ≠ .m
  else cfg.rvs && s.supervisor.satp.translates && s.privLvlO ≠ .m

/-- `en_g_translation_o`. -/
def enGTranslation : Bool :=
  cfg.rvh && s.hypervisor.hgatp.translates && s.privLvlO ≠ .m && s.v

/-- `en_ld_st_translation_d`. -/
def enLdStTranslationD : Bool :=
  if cfg.rvh then
    if s.mprv && !s.mstatus.mpv && s.supervisor.satp.translates && s.mstatus.mpp ≠ .m then true
    else if s.mprv && s.mstatus.mpv then s.virtualSupervisor.vsatp.translates
    else enTranslation s
  else if cfg.mmuPresent && s.mprv && cfg.rvs && s.supervisor.satp.translates
      && s.mstatus.mpp ≠ .m then true
  else enTranslation s

/-- `en_ld_st_g_translation_d`. -/
def enLdStGTranslationD : Bool :=
  if s.mprv && s.mstatus.mpv then s.hypervisor.hgatp.translates else enGTranslation s

/-! ## The next state -/

/-- `wfi_d`. -/
def wfiD : Bool :=
  if s.machine.mip &&& s.machine.mie ≠ 0 || (cfg.debugEn && i.debugReq) || i.irqS then false
  else if !s.inDebug && i.csrOp = .wfi && !i.ex.valid then true
  else s.wfi

/-- `pmpcfg_next` of one entry. -/
def nextPmpcfg (old new : PmpCfg) : PmpCfg :=
  let entry :=
    if (!cfg.pmpNapotEn && new.addrMode = .napot) || new.addrMode = .na4 then
      { new with addrMode := old.addrMode }
    else new
  if !new.r && new.w then { entry with x := old.x, w := old.w, r := old.r } else entry

/-- `pmpcfg_next` and `pmpaddr_next`. -/
def nextPmp (d : Pmp cfg) : Pmp cfg where
  pmpcfg k :=
    if k < cfg.nrPmpEntries then
      if cfg.pmpEntryReadOnly k then s.pmp.pmpcfg k
      else @nextPmpcfg cfg (s.pmp.pmpcfg k) (d.pmpcfg k)
    else PmpCfg.ofByte 0
  pmpaddr k :=
    if k < cfg.nrPmpEntries then
      if cfg.pmpEntryReadOnly k then s.pmp.pmpaddr k else d.pmpaddr k
    else 0

/-- The draft after the write. -/
def written : Draft cfg := writeProcess s i (Draft.of (defaults s i))

/-- `csr_update`. -/
def update : State cfg :=
  xret s i (debugEntry s i (trap s i (hardwired s i (written s i))))

/-- The registers that other processes than `csr_update` drive. -/
def latch (d : State cfg) : State cfg :=
  { d with
    mtvecRstLoad := false
    wfi := wfiD s i
    enLdStTranslation := enLdStTranslationD s
    enLdStGTranslation := if cfg.rvh then enLdStGTranslationD s else d.enLdStGTranslation
    pmp := nextPmp s d.pmp }

/-- The registers at the next edge. -/
def step : State cfg := latch s i (update s i)

/-! ## Outputs -/

/-- `flush_o`: a trap takes it back. -/
def flushO : Bool := (written s i).flush && !takesTrap s i

/-- `perf_we_o`. -/
def perfWeO : Bool := (written s i).perfWe

/-- `eret_o`. -/
def eretO : Bool := i.returns

/-- The cause of `csr_exception_o`; `none` when it is not valid. -/
def csrException : Option Nat :=
  let violation := privilegeCheck s i
  let read := readProcess s i
  let draft := written s i
  if cfg.rvh && (draft.virtualUpdateAccessException || read.virtualAccessException
      || violation.virtual) then
    some Cause.virtualInstruction
  else if draft.updateAccessException || read.accessException || violation.privilege then
    some Cause.illegalInstr
  else none

end Stages

/-! ## Reset -/

/-- A status word after reset. -/
def Mstatus.zero : Mstatus := Mstatus.ofWord 0

/-- `dcsr` after reset. -/
def Dcsr.reset : Dcsr := { Dcsr.ofWord 0 with xdebugver := 4, prv := .m }

/-- The state after reset, for reset values of the physical memory protection. -/
def State.reset (cfg : Cfg) (pmpcfg : Nat → PmpCfg) (pmpaddr : Nat → BitVec (cfg.plen - 2)) :
    State cfg where
  privLvl := .m
  v := false
  debugMode := false
  mstatus := Mstatus.zero
  hstatus := Hstatus.ofWord 0
  vsstatus := Mstatus.zero
  machine := ⟨0, 0, 0, 0, 0, 0, 0, 0, 0, 0, 0, 0⟩
  supervisor := ⟨0, 0, 0, 0, 0, 0, Satp.ofWord 0⟩
  hypervisor := ⟨0, 0, 0, 0, 0, 0, Hgatp.ofWord 0⟩
  virtualSupervisor := ⟨0, 0, 0, 0, 0, Satp.ofWord 0⟩
  debug := ⟨Dcsr.reset, 0, 0, 0⟩
  counters := ⟨0, 0, 0⟩
  environment :=
    ⟨false, .inval, .inval, .inval, true, true, true, 1, 1,
      if cfg.enableAccelerator then 1 else 0⟩
  pmp :=
    { pmpcfg := fun k => if k < cfg.nrPmpEntries then pmpcfg k else PmpCfg.ofByte 0
      pmpaddr := fun k => if k < cfg.nrPmpEntries then pmpaddr k else 0 }
  fcsr := ⟨0, 0, 0, 0⟩
  jvtBase := 0
  jvtMode := 0
  scontext := 0
  mtvecRstLoad := true
  wfi := false
  enLdStTranslation := false
  enLdStGTranslation := false

/-- The register file as a machine. -/
def machine (cfg : Cfg) (pmpcfg : Nat → PmpCfg) (pmpaddr : Nat → BitVec (cfg.plen - 2)) :
    Hw.Machine (State cfg) (Input cfg) :=
  ⟨State.reset cfg pmpcfg pmpaddr, step⟩

end Cva6Hpd.Csr
