import Cva6Hpd.Csr.RoundTrip

/-!
# Entry to the debug mode

The debug mode has to be transparent to the program that it interrupts: the entry changes no
register but those of the debug mode, and `dret` goes on where the program would have. The
program's own cycle is the one without the debug block; a debug request and a breakpoint that
enters the debug mode take the place of an instruction, which is then not executed.
-/

namespace Cva6Hpd.Csr

open Cva6Hpd.Ariane (FuOp)

/-- What the register file does not see of the program: the address of its next instruction,
and the instruction at the second port. -/
structure Program (cfg : Cfg) where
  next : BitVec cfg.vlen
  second : CommitInstr cfg

variable {cfg : Cfg} {s t : State cfg} {i : Input cfg} {p : Program cfg}

/-! ## The program's own cycle -/

/-- A breakpoint enters the debug mode. -/
def entersOnBreakpoint (s : State cfg) (i : Input cfg) : Bool :=
  breakpoint i && ebreakBit s = some true

/-- The debugger takes the place of the instruction. -/
def replaces (s : State cfg) (i : Input cfg) : Bool :=
  entersOnRequest i || entersOnBreakpoint s i

/-- The inputs of the cycle without the debugger. -/
def programInput (s : State cfg) (i : Input cfg) : Input cfg :=
  if replaces s i then { i with ex := Exception.none cfg } else i

/-- The cycle without the debug block. -/
def undebugged (s : State cfg) (i : Input cfg) : State cfg :=
  latch s i (xret s i (trap s i (hardwired s i (written s i))))

/-- The state in which the program would have gone on. -/
def programStep (s : State cfg) (i : Input cfg) : State cfg := undebugged s (programInput s i)

/-- The address after the instructions that retire. -/
def retiredPc (i : Input cfg) (p : Program cfg) : BitVec cfg.vlen :=
  if i.commitAck.getD 1 false then nextPc p.second
  else if i.ack then nextPc i.commitInstr
  else p.next

/-- The address at which an undisturbed cycle goes on. -/
def continuesAt (s : State cfg) (i : Input cfg) (p : Program cfg) : BitVec cfg.vlen :=
  if takesTrap s i then trapVectorBase s i
  else if i.returns then epc s i
  else retiredPc i p

/-- The address at which the program would have gone on. -/
def programPc (s : State cfg) (i : Input cfg) (p : Program cfg) : BitVec cfg.vlen :=
  continuesAt s (programInput s i) p

/-! ## The law -/

/-- The interrupt enables of the three modes. -/
def State.enables (s : State cfg) : Bool × Bool × Bool :=
  (s.mstatus.mie, s.mstatus.sie, s.vsstatus.sie)

/-- The registers other than those of the debug mode. -/
def State.erase (s : State cfg) : State cfg :=
  { s with debugMode := false, debug := ⟨Dcsr.reset, 0, 0, 0⟩ }

/-- An entry to the debug mode, with the inputs that the commit stage drives: a request and a
breakpoint are exceptions of the next instruction of the program, which is no operation and
does not retire; a single step retires at the first port alone; and `dret` is illegal outside
of the debug mode. -/
structure Enters (s : State cfg) (i : Input cfg) (p : Program cfg) : Prop where
  enters : entersDebug s i = true
  presented : Presented s i
  operates : replaces s i = true → i.csrOp = .add
  retires : replaces s i = true → i.commitAck.count true = 0
  current : replaces s i = true → p.next = i.pc
  alone : s.debug.dcsr.step = true → i.commitAck.getD 1 false = false
  legal : i.csrOp ≠ .dret

/-- The debugger left the registers that the return reads, and the interrupt enables. -/
structure Unmodified (e t : State cfg) : Prop where
  inside : t.inDebug = true
  dcsr : t.debug.dcsr = e.debug.dcsr
  dpc : t.debug.dpc = e.debug.dpc
  enables : t.enables = e.enables

/-- The entry changes only the registers of the debug mode, and `dret` goes on as the program
would have. -/
structure Transparent (s : State cfg) (i : Input cfg) (p : Program cfg) : Prop where
  frame : (step s i).erase = (programStep s i).erase
  resumes : ∀ t r, Unmodified (step s i) t → r.csrOp = .dret →
    (step t r).privLvl = (programStep s i).privLvl
      ∧ (cfg.rvh = true → (step t r).v = (programStep s i).v)
      ∧ (step t r).enables = (programStep s i).enables
      ∧ epc t r = programPc s i p

/-! ## When the law holds -/

/-- The stack of machine mode holds what the trap of a breakpoint pushes. -/
structure HeldByMachine (s : State cfg) (i : Input cfg) : Prop where
  mie : s.mstatus.mie = false
  mpie : s.mstatus.mpie = false
  mpp : (if cfg.rvu then s.mstatus.mpp else .m) = s.privLvl
  mcause : s.machine.mcause = BitVec.ofNat cfg.xlen Cause.breakpoint
  mepc : s.machine.mepc = signExtended cfg i.pc
  mtval : cfg.tvalEn = true → s.machine.mtval =
    orZero i silentCauses (i.ex.cause.getLsbD (cfg.gplen - 1)) i.ex.tval
  mpv : cfg.rvh = true → s.mstatus.mpv = s.v
  gva : cfg.rvh = true → s.mstatus.gva = i.ex.gva
  mtinst : cfg.rvh = true → s.machine.mtinst =
    orZero i (Cause.instrAddrMisaligned :: untransformedCauses) i.ex.isInterrupt
      (i.ex.tinst.setWidth cfg.xlen)
  mtval2 : cfg.rvh = true → s.machine.mtval2 = guestAddress i

/-- The stack of the supervisor holds what the trap of a breakpoint pushes. -/
structure HeldBySupervisor (s : State cfg) (i : Input cfg) : Prop where
  sie : s.mstatus.sie = false
  spie : s.mstatus.spie = false
  spp : s.mstatus.spp = s.privLvl.low
  scause : s.supervisor.scause = BitVec.ofNat cfg.xlen Cause.breakpoint
  sepc : s.supervisor.sepc = signExtended cfg i.pc
  stval : cfg.tvalEn = true → s.supervisor.stval =
    orZero i silentCauses i.ex.isInterrupt i.ex.tval
  spv : cfg.rvh = true → s.hstatus.spv = s.v
  spvp : cfg.rvh = true → s.v = true → s.hstatus.spvp = s.privLvl.low
  gva : cfg.rvh = true → s.hstatus.gva = i.ex.gva
  htinst : cfg.rvh = true → s.hypervisor.htinst =
    orZero i untransformedCauses i.ex.isInterrupt (i.ex.tinst.setWidth cfg.xlen)
  htval : cfg.rvh = true → s.hypervisor.htval = guestAddress i

/-- The stack of the virtual supervisor holds what the trap of a breakpoint pushes. -/
structure HeldByVirtual (s : State cfg) (i : Input cfg) : Prop where
  sie : s.vsstatus.sie = false
  spie : s.vsstatus.spie = false
  spp : s.vsstatus.spp = s.privLvl.low
  vscause : s.virtualSupervisor.vscause = virtualCause i
  vsepc : s.virtualSupervisor.vsepc = signExtended cfg i.pc
  vstval : s.virtualSupervisor.vstval = orZero i plainCauses i.ex.isInterrupt i.ex.tval

/-- The trap of a breakpoint stays at its level, and the stack of the handler holds what it
pushes: the same breakpoint has trapped before. -/
structure Held (s : State cfg) (i : Input cfg) : Prop where
  level : trapToPrivLvl s i = s.privLvl
  virtual : cfg.rvh = true → trapToV s i = s.v
  stack :
    match handler s i with
    | .machine => HeldByMachine s i
    | .supervisor => HeldBySupervisor s i
    | .virtual => HeldByVirtual s i

/-- The level to which `mret` or `sret` returns. -/
def returnLevel (s : State cfg) (i : Input cfg) : PrivLvl :=
  if i.mret then s.mstatus.mpp
  else PrivLvl.ofLow (if cfg.rvh && s.v then s.vsstatus.spp else s.mstatus.spp)

/-- The virtualization mode to which `mret` or `sret` returns. -/
def returnV (s : State cfg) (i : Input cfg) : Bool :=
  if i.mret then s.mstatus.mpv else s.v || s.hstatus.spv

/-- The address that the debug block saves. -/
def savedPc (s : State cfg) (i : Input cfg) : BitVec cfg.vlen :=
  if entersOnStep s i then
    if i.ex.valid && !i.commitInstr.ctrlFlow then trapVectorBase s i else nextPc i.commitInstr
  else i.pc

/-- What the debug block overlooks does not show: no breakpoint that enters the debug mode
also traps, unless the stack already holds that trap; a trap, a return or an instruction that
retires with the entry leaves the mode as it was and goes on at the saved address. -/
structure Unnoticed (s : State cfg) (i : Input cfg) (p : Program cfg) : Prop where
  pushed : entersOnBreakpoint s i = true → Held s i
  trapped : replaces s i = false → takesTrap s i = true →
    trapToPrivLvl s i = s.privLvl ∧ (cfg.rvh = true → trapToV s i = s.v)
      ∧ trapVectorBase s i = savedPc s i
  returned : i.returns = true →
    returnLevel s i = s.privLvl ∧ (cfg.rvh = true → returnV s i = s.v)
      ∧ epc s i = savedPc s i
  retired : entersOnStep s i = false → i.ex.valid = false → i.returns = false →
    retiredPc i p = i.pc

/-! ## The stages of an entry -/

theorem erase_debugEntry (d : State cfg) : (debugEntry s i d).erase = d.erase := by
  rw [debugEntry]
  split <;> rfl

theorem erase_xret (d : State cfg) : (xret s i d).erase = (xret s i d.erase).erase := by
  simp only [xret]
  (repeat' split) <;> rfl

theorem erase_latch (d : State cfg) : (latch s i d).erase = latch s i d.erase := rfl

/-- The debug block itself changes no other register. -/
theorem erase_step : (step s i).erase = (undebugged s i).erase := by
  rw [step, update, undebugged, erase_latch, erase_latch, erase_xret, erase_debugEntry,
    ← erase_xret]

/-- A return leaves the registers of the debug mode alone. -/
theorem debug_xret (d : State cfg) : (xret s i d).debug = d.debug := by
  simp only [xret]
  (repeat' split) <;> rfl

theorem enables_debugEntry (d : State cfg) : (debugEntry s i d).enables = d.enables := by
  rw [debugEntry]
  split <;> rfl

theorem enables_hardwired (d : Draft cfg) : (hardwired s i d).enables = d.next.enables := by
  have machine := trapFields_hardwired s i d
  have virtual := trapFields_hardwiredVsstatus (s := s) (i := i) d.dirtyFpState d.next.vsstatus
  have mie := congrArg TrapFields.mie machine
  have sie := congrArg TrapFields.sie machine
  have vsie := congrArg TrapFields.sie virtual
  simp only [State.enables, Prod.mk.injEq]
  exact ⟨mie, sie, vsie⟩

/-- What a request or a breakpoint replaces raises an exception. -/
theorem valid_of_replaces (takes : replaces s i = true) : i.ex.valid = true := by
  simp only [replaces, entersOnBreakpoint, Bool.or_eq_true, Bool.and_eq_true] at takes
  obtain request | ⟨breaks, -⟩ := takes
  · simp only [entersOnRequest, Bool.and_eq_true] at request
    exact request.1
  · simp only [breakpoint, Bool.and_eq_true] at breaks
    exact breaks.1

namespace Enters

variable (enters : Enters s i p)

include enters

theorem outside : cfg.debugEn = true ∧ s.debugMode = false ∧ enteredDebug s i = true := by
  have all := enters.enters
  simp only [entersDebug, Bool.and_eq_true, Bool.not_eq_true'] at all
  exact ⟨all.1.1, all.1.2, all.2⟩

theorem level : s.privLvlO = s.privLvl := by
  simp [State.privLvlO, State.inDebug, enters.outside.2.1]

theorem dret_eq_false : i.dret = false := by
  simp [Input.dret, enters.legal]

/-- What a request or a breakpoint replaces does not retire. -/
theorem quiet_of_replaces (takes : replaces s i = true) :
    i.ack = false ∧ i.commitAck.getD 1 false = false := by
  have none := List.count_eq_zero.1 (enters.retires takes)
  constructor
  · cases acks : i.commitAck with
    | nil => simp [Input.ack, acks]
    | cons first rest =>
      rw [acks] at none
      cases first with
      | false => simp [Input.ack, acks]
      | true => simp at none
  · cases acked : i.commitAck.getD 1 false with
    | false => rfl
    | true =>
      exfalso
      apply none
      rw [List.getD_eq_getElem?_getD] at acked
      cases at_ : i.commitAck[1]? with
      | none => simp [at_] at acked
      | some ack =>
        simp only [at_, Option.getD_some] at acked
        rw [← acked]
        exact List.mem_of_getElem? at_

/-- The entry saves the mode and an address. -/
theorem debug_step :
    (step s i).debug.dcsr.prv = s.privLvl
      ∧ (step s i).debug.dcsr.v = (cfg.rvh && s.v)
      ∧ (step s i).debug.dpc.setWidth cfg.vlen = savedPc s i := by
  obtain ⟨debugEn, outside, entered⟩ := enters.outside
  have from_ : (step s i).debug =
      (debugEntry s i (trap s i (hardwired s i (written s i)))).debug :=
    debug_xret _
  rw [from_, debugEntry, if_pos (by simp [debugEn, outside])]
  refine ⟨enters.level, rfl, ?_⟩
  simp only [savedPc]
  cases steps : entersOnStep s i with
  | true =>
    simp only [↓reduceIte, steppedPc]
    cases flow : i.commitInstr.ctrlFlow with
    | true => simp [nextPc, flow, setWidth_signExtended]
    | false =>
      cases valid : i.ex.valid with
      | true =>
        simp only [Bool.false_eq_true, ↓reduceIte, Bool.not_false, Bool.and_self]
        rw [BitVec.setWidth_setWidth_of_le _ cfg.vlen_le_xlen, BitVec.setWidth_eq]
      | false => simp [nextPc, flow, setWidth_signExtended]
  | false =>
    have saves : savesPc i = true := by
      simp only [enteredDebug, steps, Bool.false_or] at entered
      cases request : entersOnRequest i with
      | true => simp [savesPc, request]
      | false =>
        cases breaks : breakpoint i with
        | true => simp [savesPc, breaks]
        | false => simpa [savesPc, request, breaks] using entered
    simp [saves, setWidth_signExtended]

/-- The state between the write and the trap of a replaced instruction. -/
theorem written_of_replaces (takes : replaces s i = true) :
    written s i = Draft.of (defaults s i) := by
  apply written_of_not_we
  apply csrWe_of_not_access
  simp [Input.isAccess, enters.operates takes]

theorem defaults_of_replaces (takes : replaces s i = true) :
    defaults s { i with ex := Exception.none cfg } = defaults s i := by
  have valid := valid_of_replaces takes
  have none := enters.retires takes
  have same : counted s { i with ex := Exception.none cfg } = counted s i := by
    simp only [counted, Exception.none, valid, none]
    congr 2
    simp
  simp only [defaults, same]

end Enters

/-! ## The commit stage -/

section Commit

variable {ccfg : Commit.Cfg}

/-- `commit_ack` of the ports, which leaves dropped instructions out. -/
def commitAcks (ports : Commit.Ports ccfg) (ci : Commit.Input) : List Bool :=
  let acked (port : Commit.Port ccfg) (ack inner : Bool) : Bool :=
    Commit.macroAck port ack inner && !port.drop
  acked ports.first (Commit.firstAck ports.first ci) (Commit.firstMacroAck ports.first ci)
    :: (ports.second.map fun second =>
      acked second (Commit.secondAck ports ci) (Commit.secondMacroAck ports ci)).toList

/-- The inputs that the commit stage drives outside of the debug mode; `dret` is illegal
there. -/
structure Drives (s : State cfg) (i : Input cfg) (ports : Commit.Ports ccfg)
    (ci : Commit.Input) : Prop extends Committed s i ports.first ci where
  debugEn : ccfg.debugEn = cfg.debugEn
  cause : i.ex.cause = BitVec.ofNat cfg.xlen (Commit.exceptionO ports.first ci).cause
  reports : ∀ cause, csrException s i = some cause → ci.csrException.cause = cause
  acks : i.commitAck = commitAcks ports ci
  stepping : ci.singleStep = s.debug.dcsr.step
  legal : i.csrOp ≠ .dret

/-- A request or a breakpoint is an exception that the instruction itself carries. -/
theorem Drives.own_of_replaces {ports : Commit.Ports ccfg} {ci : Commit.Input}
    (drives : Drives s i ports ci) (debugEn : cfg.debugEn = true) (takes : replaces s i = true) :
    ports.first.instr.ex.valid = true ∧ ports.first.drop = false := by
  have valid := valid_of_replaces takes
  have cause : i.ex.cause = BitVec.ofNat cfg.xlen Cause.debugRequest
      ∨ i.ex.cause = BitVec.ofNat cfg.xlen Cause.breakpoint := by
    simp only [replaces, entersOnRequest, entersOnBreakpoint, breakpoint, Exception.hasCause,
      Bool.or_eq_true, Bool.and_eq_true, decide_eq_true_eq] at takes
    exact takes.imp And.right (fun all => all.1.2)
  rw [drives.ex] at valid
  rw [drives.cause] at cause
  simp only [Commit.exceptionO, drives.debugEn, debugEn, Bool.not_true, Bool.and_false,
    Bool.false_and, Bool.false_eq_true, ↓reduceIte] at valid cause
  cases halted : ci.halt with
  | true => simp [halted] at valid
  | false =>
    simp only [halted, Bool.false_eq_true, ↓reduceIte] at valid cause
    cases presents : ports.first.instr.valid && !ports.first.drop with
    | false => simp [presents] at valid
    | true =>
      simp only [presents, ↓reduceIte] at valid cause
      simp only [Bool.and_eq_true, Bool.not_eq_true'] at presents
      refine ⟨?_, presents.2⟩
      cases own : ports.first.instr.ex.valid with
      | true => rfl
      | false =>
        exfalso
        simp only [own, Bool.false_eq_true, ↓reduceIte] at valid cause
        cases reported : ci.csrException.valid with
        | false => simp [reported] at valid
        | true =>
          have some_ : (csrException s i).isSome = true := by rw [← drives.reported, reported]
          obtain ⟨number, is⟩ := Option.isSome_iff_exists.1 some_
          have reports := drives.reports number is
          have same : BitVec.ofNat cfg.xlen number = BitVec.ofNat cfg.xlen Cause.debugRequest
              ∨ BitVec.ofNat cfg.xlen number = BitVec.ofNat cfg.xlen Cause.breakpoint := by
            rw [← reports]
            revert cause
            simp only [reported, ↓reduceIte]
            split <;> exact id
          obtain rfl | rfl := cause_of_csrException is
          · obtain same | same := same
            · exact absurd (ofNat_inj (by decide) (by decide) same) (by decide)
            · exact absurd (ofNat_inj (by decide) (by decide) same) (by decide)
          · obtain same | same := same
            · exact absurd (ofNat_inj (by decide) (by decide) same) (by decide)
            · exact absurd (ofNat_inj (by decide) (by decide) same) (by decide)

theorem commitAcks_of_quiet {ports : Commit.Ports ccfg} {ci : Commit.Input}
    (waits : Commit.commits ports.first ci = false)
    (first : Commit.firstAck ports.first ci = false) :
    (commitAcks ports ci).count true = 0 := by
  have second : Commit.secondAck ports ci = false := by
    rw [Commit.secondAck]
    split
    · rfl
    · simp [first]
  have inner : Commit.secondMacroAck ports ci = false := by
    rw [Commit.secondMacroAck]
    split
    · rfl
    · simp [second]
  cases other : ports.second <;>
    simp [commitAcks, Commit.macroAck, Commit.firstMacroAck, waits, first, second, inner, other]

theorem commitAcks_of_singleStep {ports : Commit.Ports ccfg} {ci : Commit.Input}
    (steps : ci.singleStep = true) : (commitAcks ports ci).getD 1 false = false := by
  cases other : ports.second with
  | none => simp [commitAcks, other]
  | some port =>
    have second : Commit.secondAck ports ci = false := by
      simp [Commit.secondAck, other, Commit.pairs, steps]
    simp [commitAcks, other, Commit.macroAck, Commit.secondMacroAck, second]

theorem Drives.enters {ports : Commit.Ports ccfg} {ci : Commit.Input}
    (drives : Drives s i ports ci) (enters : entersDebug s i = true)
    (current : replaces s i = true → p.next = i.pc) : Enters s i p := by
  have debugEn : cfg.debugEn = true := by
    simp only [entersDebug, Bool.and_eq_true] at enters
    exact enters.1.1
  have own := drives.own_of_replaces debugEn
  have waits : replaces s i = true → Commit.commits ports.first ci = false
      ∧ Commit.firstAck ports.first ci = false := by
    intro takes
    obtain ⟨excepts, kept⟩ := own takes
    simp [Commit.commits, Commit.firstAck, Commit.excepts, excepts, kept]
  constructor
  · exact enters
  · exact drives.presented
  · intro takes
    rw [drives.op, Commit.csrOp, (waits takes).1]
    rfl
  · intro takes
    obtain ⟨commits, first⟩ := waits takes
    rw [drives.acks]
    exact commitAcks_of_quiet commits first
  · exact current
  · intro steps
    rw [drives.acks]
    exact commitAcks_of_singleStep (drives.stepping.trans steps)
  · exact drives.legal

end Commit

end Cva6Hpd.Csr
