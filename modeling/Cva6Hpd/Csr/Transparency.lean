import Cva6Hpd.Csr.DebugEntry

/-!
# Transparency of the debug mode

A request is transparent. A breakpoint is not, since it also traps; nor is an instruction that
goes on with the entry, where the saved mode and address are not those after it.
-/

namespace Cva6Hpd.Csr

open Cva6Hpd.Ariane (FuOp)

variable {cfg : Cfg} {s t : State cfg} {i : Input cfg} {p : Program cfg}

/-! ## What a breakpoint pushes -/

/-- The state between the write and the trap, in a cycle without a write. -/
def beforeTrap (s : State cfg) (i : Input cfg) : State cfg :=
  hardwired s i (Draft.of (defaults s i))

theorem trapFields_beforeTrap :
    (beforeTrap s i).mstatus.trapFields =
      { s.mstatus.trapFields with mpp := if cfg.rvu then s.mstatus.mpp else .m } :=
  trapFields_hardwired s i _

theorem trapFields_beforeTrap_vsstatus :
    (beforeTrap s i).vsstatus.trapFields = s.vsstatus.trapFields :=
  trapFields_hardwiredVsstatus _ _

theorem pushedMstatus_eq_iff {d : State cfg} :
    pushedMstatus s i d = d.mstatus ↔
      d.mstatus.mie = false ∧ d.mstatus.mpie = s.mstatus.mie ∧ d.mstatus.mpp = s.privLvl
        ∧ (cfg.rvh = true → d.mstatus.mpv = s.v) ∧ (cfg.rvh = true → d.mstatus.gva = i.ex.gva) := by
  rw [pushedMstatus]
  generalize d.mstatus = m
  cases m
  cases cfg.rvh <;> simp only [Mstatus.mk.injEq, ↓reduceIte] <;> grind

/-- A status word that holds what a trap to a supervisor pushes. -/
theorem pushed_eq_iff (m : Mstatus) {enable low : Bool} :
    { m with sie := false, spie := enable, spp := low } = m ↔
      m.sie = false ∧ m.spie = enable ∧ m.spp = low := by
  cases m
  simp only [Mstatus.mk.injEq]
  grind

theorem machine_pushMachine_eq_iff {d : State cfg} (breaks : breakpoint i = true) :
    (pushMachine s i d).machine = d.machine ↔
      d.machine.mcause = BitVec.ofNat cfg.xlen Cause.breakpoint
        ∧ d.machine.mepc = signExtended cfg i.pc
        ∧ (cfg.tvalEn = true → d.machine.mtval =
          orZero i silentCauses (i.ex.cause.getLsbD (cfg.gplen - 1)) i.ex.tval)
        ∧ (cfg.rvh = true → d.machine.mtinst =
          orZero i (Cause.instrAddrMisaligned :: untransformedCauses) i.ex.isInterrupt
            (i.ex.tinst.setWidth cfg.xlen))
        ∧ (cfg.rvh = true → d.machine.mtval2 = guestAddress i) := by
  have cause : i.ex.cause = BitVec.ofNat cfg.xlen Cause.breakpoint := by
    simp only [breakpoint, Exception.hasCause, Bool.and_eq_true, decide_eq_true_eq] at breaks
    exact breaks.2
  have stored : (if i.breakFromTrigger then 3 else i.ex.cause)
      = BitVec.ofNat cfg.xlen Cause.breakpoint := by
    split
    · rfl
    · exact cause
  simp only [pushMachine, stored]
  generalize d.machine = m
  cases m
  cases cfg.rvh <;> cases cfg.tvalEn <;> simp only [Machine.mk.injEq, ↓reduceIte] <;> grind

theorem heldByMachine_iff (breaks : breakpoint i = true) :
    HeldByMachine s i ↔
      pushedMstatus s i (beforeTrap s i) = (beforeTrap s i).mstatus
        ∧ (pushMachine s i (beforeTrap s i)).machine = (beforeTrap s i).machine := by
  have fields := trapFields_beforeTrap (s := s) (i := i)
  have mie : (beforeTrap s i).mstatus.mie = s.mstatus.mie := congrArg TrapFields.mie fields
  have mpie : (beforeTrap s i).mstatus.mpie = s.mstatus.mpie := congrArg TrapFields.mpie fields
  have mpp : (beforeTrap s i).mstatus.mpp = if cfg.rvu then s.mstatus.mpp else .m :=
    congrArg TrapFields.mpp fields
  have mpv : (beforeTrap s i).mstatus.mpv = s.mstatus.mpv := congrArg TrapFields.mpv fields
  have gva : (beforeTrap s i).mstatus.gva = s.mstatus.gva := congrArg TrapFields.gva fields
  rw [pushedMstatus_eq_iff, machine_pushMachine_eq_iff breaks, mie, mpie, mpp, mpv, gva]
  constructor
  · rintro ⟨off, before, level, cause, pc, value, virtual, guest, inst, address⟩
    exact ⟨⟨off, before.trans off.symm, level, virtual, guest⟩, cause, pc, value, inst, address⟩
  · rintro ⟨⟨off, before, level, virtual, guest⟩, cause, pc, value, inst, address⟩
    exact ⟨off, before.trans off, level, cause, pc, value, virtual, guest, inst, address⟩

theorem hstatus_beforeTrap :
    (beforeTrap s i).hstatus = if cfg.rvh then { s.hstatus with vsxl := 2 } else s.hstatus := rfl

theorem heldBySupervisor_iff (breaks : breakpoint i = true) :
    HeldBySupervisor s i ↔
      (pushSupervisor s i (beforeTrap s i)).mstatus = (beforeTrap s i).mstatus
        ∧ (pushSupervisor s i (beforeTrap s i)).supervisor = (beforeTrap s i).supervisor
        ∧ (pushSupervisor s i (beforeTrap s i)).hstatus = (beforeTrap s i).hstatus
        ∧ (pushSupervisor s i (beforeTrap s i)).hypervisor = (beforeTrap s i).hypervisor := by
  have fields := trapFields_beforeTrap (s := s) (i := i)
  have sie : (beforeTrap s i).mstatus.sie = s.mstatus.sie := congrArg TrapFields.sie fields
  have spie : (beforeTrap s i).mstatus.spie = s.mstatus.spie := congrArg TrapFields.spie fields
  have spp : (beforeTrap s i).mstatus.spp = s.mstatus.spp := congrArg TrapFields.spp fields
  have cause : i.ex.cause = BitVec.ofNat cfg.xlen Cause.breakpoint := by
    simp only [breakpoint, Exception.hasCause, Bool.and_eq_true, decide_eq_true_eq] at breaks
    exact breaks.2
  have status : (pushSupervisor s i (beforeTrap s i)).mstatus = (beforeTrap s i).mstatus ↔
      s.mstatus.sie = false ∧ s.mstatus.spie = s.mstatus.sie ∧ s.mstatus.spp = s.privLvl.low := by
    rw [← spie, ← spp]
    exact (pushed_eq_iff (beforeTrap s i).mstatus).trans (by rw [sie])
  have registers :
      (pushSupervisor s i (beforeTrap s i)).supervisor = (beforeTrap s i).supervisor ↔
        s.supervisor.scause = i.ex.cause ∧ s.supervisor.sepc = signExtended cfg i.pc
          ∧ (cfg.tvalEn = true → s.supervisor.stval =
            orZero i silentCauses i.ex.isInterrupt i.ex.tval) := by
    have same : (beforeTrap s i).supervisor = s.supervisor := rfl
    simp only [pushSupervisor, same]
    generalize s.supervisor = m
    cases m
    cases cfg.tvalEn <;> simp only [Supervisor.mk.injEq, ↓reduceIte] <;> grind
  have guest : (pushSupervisor s i (beforeTrap s i)).hstatus = (beforeTrap s i).hstatus ↔
      (cfg.rvh = true → s.hstatus.spv = s.v ∧ s.hstatus.gva = i.ex.gva
        ∧ (s.v = true → s.hstatus.spvp = s.privLvl.low)) := by
    simp only [pushSupervisor, pushedHstatus, hstatus_beforeTrap]
    generalize s.hstatus = m
    cases m
    cases cfg.rvh <;> cases s.v <;> simp only [Hstatus.mk.injEq, ↓reduceIte] <;> grind
  have hypervisor :
      (pushSupervisor s i (beforeTrap s i)).hypervisor = (beforeTrap s i).hypervisor ↔
        (cfg.rvh = true → s.hypervisor.htinst =
            orZero i untransformedCauses i.ex.isInterrupt (i.ex.tinst.setWidth cfg.xlen)
          ∧ s.hypervisor.htval = guestAddress i) := by
    have same : (beforeTrap s i).hypervisor = s.hypervisor := rfl
    simp only [pushSupervisor, same]
    generalize s.hypervisor = m
    cases m
    cases cfg.rvh <;> simp only [Hypervisor.mk.injEq, ↓reduceIte] <;> grind
  rw [status, registers, guest, hypervisor]
  constructor
  · intro held
    refine ⟨⟨held.sie, held.spie.trans held.sie.symm, held.spp⟩,
      ⟨held.scause.trans cause.symm, held.sepc, held.stval⟩, ?_, ?_⟩
    · exact fun hyp => ⟨held.spv hyp, held.gva hyp, held.spvp hyp⟩
    · exact fun hyp => ⟨held.htinst hyp, held.htval hyp⟩
  · rintro ⟨⟨off, before, level⟩, ⟨number, pc, value⟩, virtual, values⟩
    constructor
    · exact off
    · exact before.trans off
    · exact level
    · exact number.trans cause
    · exact pc
    · exact value
    · exact fun hyp => (virtual hyp).1
    · exact fun hyp => (virtual hyp).2.2
    · exact fun hyp => (virtual hyp).2.1
    · exact fun hyp => (values hyp).1
    · exact fun hyp => (values hyp).2

theorem heldByVirtual_iff :
    HeldByVirtual s i ↔
      (pushVirtual s i (beforeTrap s i)).vsstatus = (beforeTrap s i).vsstatus
        ∧ (pushVirtual s i (beforeTrap s i)).virtualSupervisor =
          (beforeTrap s i).virtualSupervisor := by
  have fields := trapFields_beforeTrap_vsstatus (s := s) (i := i)
  have sie : (beforeTrap s i).vsstatus.sie = s.vsstatus.sie := congrArg TrapFields.sie fields
  have spie : (beforeTrap s i).vsstatus.spie = s.vsstatus.spie := congrArg TrapFields.spie fields
  have spp : (beforeTrap s i).vsstatus.spp = s.vsstatus.spp := congrArg TrapFields.spp fields
  have status : (pushVirtual s i (beforeTrap s i)).vsstatus = (beforeTrap s i).vsstatus ↔
      s.vsstatus.sie = false ∧ s.vsstatus.spie = s.vsstatus.sie
        ∧ s.vsstatus.spp = s.privLvl.low := by
    rw [← spie, ← spp]
    exact (pushed_eq_iff (beforeTrap s i).vsstatus).trans (by rw [sie])
  have registers :
      (pushVirtual s i (beforeTrap s i)).virtualSupervisor =
          (beforeTrap s i).virtualSupervisor ↔
        s.virtualSupervisor.vscause = virtualCause i
          ∧ s.virtualSupervisor.vsepc = signExtended cfg i.pc
          ∧ s.virtualSupervisor.vstval =
            orZero i plainCauses i.ex.isInterrupt i.ex.tval := by
    have same : (beforeTrap s i).virtualSupervisor = s.virtualSupervisor := rfl
    simp only [pushVirtual, same]
    generalize s.virtualSupervisor = m
    cases m
    simp only [VirtualSupervisor.mk.injEq]
    grind
  rw [status, registers]
  constructor
  · intro held
    exact ⟨⟨held.sie, held.spie.trans held.sie.symm, held.spp⟩, held.vscause, held.vsepc,
      held.vstval⟩
  · rintro ⟨⟨off, before, level⟩, number, pc, value⟩
    exact ⟨off, before.trans off, level, number, pc, value⟩

theorem push_eq_iff (breaks : breakpoint i = true) :
    push s i (handler s i) (beforeTrap s i) = beforeTrap s i ↔
      match handler s i with
      | .machine => HeldByMachine s i
      | .supervisor => HeldBySupervisor s i
      | .virtual => HeldByVirtual s i := by
  cases handler s i with
  | machine =>
    simp only [heldByMachine_iff breaks]
    constructor
    · intro same
      exact ⟨congrArg State.mstatus same, congrArg State.machine same⟩
    · rintro ⟨status, registers⟩
      change { beforeTrap s i with
        mstatus := pushedMstatus s i (beforeTrap s i)
        machine := (pushMachine s i (beforeTrap s i)).machine } = _
      rw [status, registers]
  | supervisor =>
    simp only [heldBySupervisor_iff breaks]
    constructor
    · intro same
      exact ⟨congrArg State.mstatus same, congrArg State.supervisor same,
        congrArg State.hstatus same, congrArg State.hypervisor same⟩
    · rintro ⟨status, registers, guest, hypervisor⟩
      change { beforeTrap s i with
        mstatus := (pushSupervisor s i (beforeTrap s i)).mstatus
        supervisor := (pushSupervisor s i (beforeTrap s i)).supervisor
        hstatus := (pushSupervisor s i (beforeTrap s i)).hstatus
        hypervisor := (pushSupervisor s i (beforeTrap s i)).hypervisor } = _
      rw [status, registers, guest, hypervisor]
  | virtual =>
    simp only [heldByVirtual_iff]
    constructor
    · intro same
      exact ⟨congrArg State.vsstatus same, congrArg State.virtualSupervisor same⟩
    · rintro ⟨status, registers⟩
      change { beforeTrap s i with
        vsstatus := (pushVirtual s i (beforeTrap s i)).vsstatus
        virtualSupervisor := (pushVirtual s i (beforeTrap s i)).virtualSupervisor } = _
      rw [status, registers]

theorem takesTrap_of_breakpoint (debugEn : cfg.debugEn = true) (outside : s.debugMode = false)
    (breaks : breakpoint i = true) : takesTrap s i = true := by
  simp only [breakpoint, Exception.hasCause, Bool.and_eq_true, decide_eq_true_eq] at breaks
  obtain ⟨valid, cause⟩ := breaks
  have other : i.ex.hasCause Cause.debugRequest = false := by
    simp only [Exception.hasCause, cause, decide_eq_false_iff_not]
    intro same
    exact absurd (ofNat_inj (by decide) (by decide) same) (by decide)
  simp [takesTrap, debugEn, outside, valid, other]

theorem not_takesTrap_of_request (debugEn : cfg.debugEn = true)
    (request : entersOnRequest i = true) : takesTrap s i = false := by
  simp only [entersOnRequest, Bool.and_eq_true] at request
  simp [takesTrap, debugEn, request.2]

theorem programStep_of_replaces (enters : Enters s i p) (takes : replaces s i = true) :
    programStep s i = latch s i (beforeTrap s i) := by
  have idle := enters.operates takes
  have noTrap : takesTrap s { i with ex := Exception.none cfg } = false := by
    simp [takesTrap, Exception.none, enters.outside.1]
  have noReturn : ({ i with ex := Exception.none cfg } : Input cfg).returns = false := by
    simp [Input.returns, Input.mret, Input.sret, Input.dret, idle]
  have noWrite : csrWe s { i with ex := Exception.none cfg } = false := by
    apply csrWe_of_not_access
    simp [Input.isAccess, idle]
  rw [programStep, programInput, if_pos takes, undebugged, xret_of_not_returns _ _ noReturn,
    trap, if_neg (by simp [noTrap]), written_of_not_we noWrite,
    enters.defaults_of_replaces takes]
  have wfi : wfiD s { i with ex := Exception.none cfg } = wfiD s i := by
    simp [wfiD, idle]
  change { latch s i (beforeTrap s i) with
    wfi := wfiD s { i with ex := Exception.none cfg } } = _
  rw [wfi]
  rfl

/-- The cycle of the register file, up to the registers of the debug mode. -/
theorem erase_step_of_replaces (enters : Enters s i p) (takes : replaces s i = true) :
    (step s i).erase = (latch s i (trap s i (beforeTrap s i))).erase := by
  have idle := enters.operates takes
  have noReturn : i.returns = false := by
    simp [Input.returns, Input.mret, Input.sret, Input.dret, idle]
  rw [erase_step, undebugged, xret_of_not_returns _ _ noReturn,
    enters.written_of_replaces takes]
  rfl

/-- What the latch and the erasure keep of two states with the same registers of the debug
mode and of the memory protection. -/
theorem erase_latch_inj {d e : State cfg} (same : (latch s i d).erase = (latch s i e).erase)
    (debug : d.debug = e.debug) (mode : d.debugMode = e.debugMode) (pmp : d.pmp = e.pmp)
    (load : d.mtvecRstLoad = e.mtvecRstLoad) (wfi : d.wfi = e.wfi)
    (ldSt : d.enLdStTranslation = e.enLdStTranslation)
    (ldStG : d.enLdStGTranslation = e.enLdStGTranslation) : d = e := by
  cases d
  cases e
  simp only [latch, State.erase, State.mk.injEq] at same debug mode pmp load wfi ldSt ldStG ⊢
  grind

theorem not_entersOnBreakpoint_of_goes (goes : replaces s i = false) :
    entersOnBreakpoint s i = false := by
  simp only [replaces, Bool.or_eq_false_iff] at goes
  exact goes.2

/-- The frame of an entry: a breakpoint that enters the debug mode traps too. -/
theorem frame_iff (enters : Enters s i p) :
    (step s i).erase = (programStep s i).erase ↔
      (entersOnBreakpoint s i = true → Held s i) := by
  obtain ⟨debugEn, outside, -⟩ := enters.outside
  cases takes : replaces s i with
  | false =>
    have none := not_entersOnBreakpoint_of_goes takes
    have same : (step s i).erase = (programStep s i).erase := by
      rw [erase_step, programStep, programInput, if_neg (by simp [takes])]
    simp [same, none]
  | true =>
    rw [erase_step_of_replaces enters takes, programStep_of_replaces enters takes]
    cases breaks : entersOnBreakpoint s i with
    | false =>
      have request : entersOnRequest i = true := by
        simpa [replaces, breaks] using takes
      simp [trap, not_takesTrap_of_request debugEn request]
    | true =>
      have executed : breakpoint i = true := by
        simp only [entersOnBreakpoint, Bool.and_eq_true] at breaks
        exact breaks.1
      have stack := push_eq_iff (s := s) executed
      rw [trap, if_pos (takesTrap_of_breakpoint debugEn outside executed)]
      constructor
      · intro same _
        have full := erase_latch_inj same (by cases handler s i <;> rfl)
          (by cases handler s i <;> rfl) (by cases handler s i <;> rfl)
          (by cases handler s i <;> rfl) (by cases handler s i <;> rfl)
          (by cases handler s i <;> rfl) (by cases handler s i <;> rfl)
        constructor
        · exact congrArg State.privLvl full
        · intro hyp
          have virtual := congrArg State.v full
          simp only [hyp, ↓reduceIte] at virtual
          exact virtual
        · apply stack.1
          calc push s i (handler s i) (beforeTrap s i)
              = { { push s i (handler s i) (beforeTrap s i) with
                    privLvl := trapToPrivLvl s i
                    v := if cfg.rvh then trapToV s i else (beforeTrap s i).v } with
                  privLvl := s.privLvl
                  v := s.v } := by cases handler s i <;> rfl
            _ = beforeTrap s i := by rw [full]; rfl
      · intro held
        have all := held rfl
        rw [stack.2 all.stack, all.level]
        cases hyp : cfg.rvh with
        | false => rfl
        | true =>
          simp only [↓reduceIte, all.virtual hyp]
          rfl

/-! ## Where the program goes on -/

/-- `dret` restores the saved mode and address, and leaves the interrupt enables alone. -/
theorem step_of_dret {r : Input cfg} (inside : t.inDebug = true) (returns : r.csrOp = .dret) :
    (step t r).privLvl = t.debug.dcsr.prv
      ∧ (cfg.rvh = true → (step t r).v = t.debug.dcsr.v)
      ∧ (step t r).enables = t.enables
      ∧ epc t r = t.debug.dpc.setWidth cfg.vlen := by
  simp only [State.inDebug, Bool.and_eq_true] at inside
  obtain ⟨debugEn, debugMode⟩ := inside
  have noTrap : takesTrap t r = false := by
    simp [takesTrap, debugEn, debugMode]
  have noWrite : csrWe t r = false := by
    apply csrWe_of_not_access
    simp [Input.isAccess, returns]
  have from_ : update t r =
      leaveDebug t (debugEntry t r (hardwired t r (Draft.of (defaults t r)))) := by
    rw [update, trap, if_neg (by simp [noTrap]), written_of_not_we noWrite]
    simp [xret, Input.mret, Input.sret, Input.dret, returns, debugEn]
  refine ⟨?_, fun hyp => ?_, ?_, ?_⟩
  · change (update t r).privLvl = _
    rw [from_]
    rfl
  · change (update t r).v = _
    rw [from_]
    simp [leaveDebug, hyp]
  · change (update t r).enables = _
    rw [from_]
    exact (enables_debugEntry _).trans (enables_hardwired _)
  · simp [epc, Input.dret, debugEn, returns]

theorem mode_undebugged (enters : Enters s i p) :
    (undebugged s i).privLvl =
        (if takesTrap s i then trapToPrivLvl s i
          else if i.returns then returnLevel s i else s.privLvl)
      ∧ (cfg.rvh = true → (undebugged s i).v =
        if takesTrap s i then trapToV s i else if i.returns then returnV s i else s.v) := by
  have mode := mode_trap s i (hardwired s i (written s i))
  rw [mode_hardwired, mode_written] at mode
  cases returns : i.returns with
  | false =>
    have from_ : (undebugged s i).mode = (trap s i (hardwired s i (written s i))).mode := by
      rw [undebugged, xret_of_not_returns s i returns]
      rfl
    rw [mode] at from_
    cases taken : takesTrap s i with
    | true =>
      simp only [taken, ↓reduceIte] at from_ ⊢
      constructor
      · exact congrArg Mode.privLvl from_
      · intro hyp
        have virtual := congrArg Mode.v from_
        simp only [hyp, ↓reduceIte] at virtual
        exact virtual
    | false =>
      simp only [taken, Bool.false_eq_true, ↓reduceIte] at from_ ⊢
      exact ⟨congrArg Mode.privLvl from_, fun _ => congrArg Mode.v from_⟩
  | true =>
    have noTrap := enters.presented.not_takesTrap returns
    have virtual : (trap s i (hardwired s i (written s i))).v = s.v := by
      rw [noTrap] at mode
      exact congrArg Mode.v mode
    simp only [noTrap, Bool.false_eq_true, ↓reduceIte]
    simp only [Input.returns, enters.dret_eq_false, Bool.or_false, Bool.or_eq_true] at returns
    cases machine : i.mret with
    | true =>
      have from_ : undebugged s i =
          latch s i (popMachine s (trap s i (hardwired s i (written s i)))) := by
        simp [undebugged, xret, machine]
      rw [from_]
      simp only [returnLevel, returnV, machine, ↓reduceIte]
      exact ⟨rfl, fun hyp => by simp [latch, popMachine, hyp]⟩
    | false =>
      have supervisor : i.sret = true := by simpa [machine] using returns
      cases guest : cfg.rvh && s.v with
      | true =>
        have from_ : undebugged s i =
            latch s i (popVirtual s (trap s i (hardwired s i (written s i)))) := by
          simp only [undebugged, xret, machine, supervisor, guest, Bool.false_eq_true, ↓reduceIte]
        simp only [Bool.and_eq_true] at guest
        rw [from_]
        simp only [returnLevel, returnV, machine, guest.1, guest.2, Bool.and_self, ↓reduceIte,
          Bool.false_eq_true, Bool.true_or]
        exact ⟨rfl, fun _ => virtual.trans guest.2⟩
      | false =>
        have from_ : undebugged s i =
            latch s i (popSupervisor s (trap s i (hardwired s i (written s i)))) := by
          simp only [undebugged, xret, machine, supervisor, guest, Bool.false_eq_true, ↓reduceIte]
        rw [from_]
        simp only [returnLevel, returnV, machine, guest, Bool.false_eq_true, ↓reduceIte]
        refine ⟨rfl, fun hyp => ?_⟩
        have host : s.v = false := by simpa [hyp] using guest
        simp [latch, popSupervisor, hyp, host]

/-- What `dret` restores against what the program would have had. -/
theorem resumes_iff (enters : Enters s i p)
    (frame : (step s i).erase = (programStep s i).erase) :
    Transparent s i p ↔
      s.privLvl = (programStep s i).privLvl ∧ (cfg.rvh = true → s.v = (programStep s i).v)
        ∧ savedPc s i = programPc s i p := by
  obtain ⟨prv, v, dpc⟩ := enters.debug_step
  obtain ⟨debugEn, -, entered⟩ := enters.outside
  have inside : (step s i).inDebug = true := by
    have left : (step s i).debugMode =
        (debugEntry s i (trap s i (hardwired s i (written s i)))).debugMode := by
      change (xret s i _).debugMode = _
      simp only [xret, enters.dret_eq_false]
      (repeat' split) <;> first | rfl | contradiction
    have outside : (cfg.debugEn && !s.debugMode) = true := by
      simp [debugEn, enters.outside.2.1]
    rw [debugMode_debugEntry, if_pos outside, entered] at left
    simp [State.inDebug, debugEn, left]
  have enables : (step s i).enables = (programStep s i).enables := by
    change (step s i).erase.enables = (programStep s i).erase.enables
    rw [frame]
  constructor
  · intro transparent
    have op : (Input.operation cfg .dret).csrOp = .dret := rfl
    obtain ⟨level, virtual, -, pc⟩ :=
      transparent.resumes (step s i) _ ⟨inside, rfl, rfl, rfl⟩ op
    obtain ⟨level', virtual', -, pc'⟩ := step_of_dret inside op
    refine ⟨?_, fun hyp => ?_, ?_⟩
    · rw [← level, level', prv]
    · rw [← virtual hyp, virtual' hyp, v, hyp, Bool.true_and]
    · rw [← pc, pc', dpc]
  · rintro ⟨level, virtual, pc⟩
    refine ⟨frame, fun t r left op => ?_⟩
    obtain ⟨level', virtual', enables', pc'⟩ := step_of_dret left.inside op
    refine ⟨?_, fun hyp => ?_, ?_, ?_⟩
    · rw [level', left.dcsr, prv, level]
    · rw [virtual' hyp, left.dcsr, v, hyp, Bool.true_and, virtual hyp]
    · rw [enables', left.enables, enables]
    · rw [pc', left.dpc, dpc, pc]

/-! ## The four kinds of entry -/

section Kinds

variable (enters : Enters s i p)

include enters

/-- The law as the frame of the cycle, its mode and its address. -/
theorem transparent_iff_mode :
    Transparent s i p ↔
      (entersOnBreakpoint s i = true → Held s i) ∧ s.privLvl = (programStep s i).privLvl
        ∧ (cfg.rvh = true → s.v = (programStep s i).v)
        ∧ savedPc s i = programPc s i p := by
  rw [← frame_iff enters]
  constructor
  · intro transparent
    exact ⟨transparent.frame, (resumes_iff enters transparent.frame).1 transparent⟩
  · rintro ⟨frame, same⟩
    exact (resumes_iff enters frame).2 same

/-- A request or a breakpoint. -/
theorem replaced_iff (takes : replaces s i = true) :
    Transparent s i p ↔ Unnoticed s i p := by
  have valid := valid_of_replaces takes
  have idle := enters.operates takes
  obtain ⟨first, other⟩ := enters.quiet_of_replaces takes
  have saved : savedPc s i = i.pc := by
    simp only [savedPc, entersOnStep, first, Bool.and_false, Bool.false_eq_true, ↓reduceIte]
  have retired : retiredPc i p = i.pc := by
    simp only [retiredPc, first, other, Bool.false_eq_true, ↓reduceIte, enters.current takes]
  have noReturn : i.returns = false := by
    simp [Input.returns, Input.mret, Input.sret, Input.dret, idle]
  have noTrap : takesTrap s { i with ex := Exception.none cfg } = false := by
    simp [takesTrap, Exception.none, enters.outside.1]
  have goesOn : programPc s i p = i.pc := by
    have same : retiredPc { i with ex := Exception.none cfg } p = retiredPc i p := rfl
    have none : ({ i with ex := Exception.none cfg } : Input cfg).returns = false := noReturn
    rw [programPc, programInput, if_pos takes, continuesAt, noTrap, none, same, retired]
    rfl
  have mode : (programStep s i).mode = (beforeTrap s i).mode := by
    rw [programStep_of_replaces enters takes]
    rfl
  rw [transparent_iff_mode enters]
  constructor
  · rintro ⟨pushed, -⟩
    exact ⟨pushed, by simp [takes], by simp [noReturn], by simp [valid]⟩
  · intro unnoticed
    exact ⟨unnoticed.pushed, (congrArg Mode.privLvl mode).symm,
      fun _ => (congrArg Mode.v mode).symm, saved.trans goesOn.symm⟩

variable (goes : replaces s i = false)

include goes

theorem goesOn_iff :
    Transparent s i p ↔
      s.privLvl = (undebugged s i).privLvl ∧ (cfg.rvh = true → s.v = (undebugged s i).v)
        ∧ savedPc s i = continuesAt s i p := by
  have none := not_entersOnBreakpoint_of_goes goes
  have same : programInput s i = i := by
    rw [programInput, if_neg (by simp [goes])]
  rw [transparent_iff_mode enters, programStep, programPc, same]
  simp [none]

/-- Outside of a request a cycle without a trap has no exception. -/
theorem quiet_of_not_takesTrap (quiet : takesTrap s i = false) : i.ex.valid = false := by
  cases valid : i.ex.valid with
  | false => rfl
  | true =>
    exfalso
    obtain ⟨debugEn, outside, -⟩ := enters.outside
    simp only [takesTrap, debugEn, outside, valid, Bool.not_false, Bool.and_true, Bool.true_and,
      Bool.not_true, Bool.false_and, Bool.or_false, Bool.not_eq_false'] at quiet
    simp [replaces, entersOnRequest, valid, quiet] at goes

theorem trapped_iff (taken : takesTrap s i = true) :
    Transparent s i p ↔ Unnoticed s i p := by
  have none := not_entersOnBreakpoint_of_goes goes
  have valid : i.ex.valid = true := by
    simp only [takesTrap, enters.outside.1, Bool.not_true, Bool.false_and, Bool.or_false,
      Bool.and_eq_true] at taken
    exact taken.2
  have noReturn : i.returns = false := by
    cases returns : i.returns with
    | false => rfl
    | true =>
      rw [enters.presented.not_takesTrap returns] at taken
      cases taken
  obtain ⟨level, virtual⟩ := mode_undebugged enters
  rw [if_pos taken] at level
  simp only [taken, ↓reduceIte] at virtual
  rw [goesOn_iff enters goes, continuesAt, if_pos taken, level]
  constructor
  · rintro ⟨level, mode, pc⟩
    refine ⟨by simp [none], fun _ _ => ⟨level.symm, fun hyp => ?_, pc.symm⟩, by simp [noReturn],
      by simp [valid]⟩
    exact (virtual hyp).symm.trans (mode hyp).symm
  · intro unnoticed
    obtain ⟨level, mode, pc⟩ := unnoticed.trapped goes taken
    exact ⟨level.symm, fun hyp => (mode hyp).symm.trans (virtual hyp).symm, pc.symm⟩

variable (quiet : takesTrap s i = false)

include quiet

theorem returned_iff (returns : i.returns = true) :
    Transparent s i p ↔ Unnoticed s i p := by
  have none := not_entersOnBreakpoint_of_goes goes
  obtain ⟨level, virtual⟩ := mode_undebugged enters
  simp only [quiet, returns, Bool.false_eq_true, ↓reduceIte] at level virtual
  have pc : continuesAt s i p = epc s i := by
    simp only [continuesAt, quiet, returns, Bool.false_eq_true, ↓reduceIte]
  rw [goesOn_iff enters goes, level, pc]
  constructor
  · rintro ⟨level, mode, pc⟩
    refine ⟨by simp [none], by simp [quiet], fun _ => ⟨level.symm, fun hyp => ?_, pc.symm⟩,
      by simp [returns]⟩
    exact (virtual hyp).symm.trans (mode hyp).symm
  · intro unnoticed
    obtain ⟨level, mode, pc⟩ := unnoticed.returned returns
    exact ⟨level.symm, fun hyp => (mode hyp).symm.trans (virtual hyp).symm, pc.symm⟩

theorem retired_iff (stays : i.returns = false) :
    Transparent s i p ↔ Unnoticed s i p := by
  have none := not_entersOnBreakpoint_of_goes goes
  have valid := quiet_of_not_takesTrap enters goes quiet
  obtain ⟨level, virtual⟩ := mode_undebugged enters
  simp only [quiet, stays, Bool.false_eq_true, ↓reduceIte] at level virtual
  have pc : continuesAt s i p = retiredPc i p := by
    simp only [continuesAt, quiet, stays, Bool.false_eq_true, ↓reduceIte]
  have saved : savedPc s i = retiredPc i p ↔
      (entersOnStep s i = false → retiredPc i p = i.pc) := by
    cases steps : entersOnStep s i with
    | false =>
      simp only [savedPc, steps, Bool.false_eq_true, ↓reduceIte, true_implies]
      exact eq_comm
    | true =>
      have both : s.debug.dcsr.step = true ∧ i.ack = true := by
        simpa [entersOnStep] using steps
      have other := enters.alone both.1
      simp only [savedPc, steps, valid, retiredPc, other, both.2, Bool.false_and,
        Bool.false_eq_true, ↓reduceIte, Bool.true_eq_false, false_implies]
  rw [goesOn_iff enters goes, level, pc, saved]
  constructor
  · rintro ⟨-, -, pc⟩
    exact ⟨by simp [none], by simp [quiet], by simp [stays], fun off _ _ => pc off⟩
  · intro unnoticed
    exact ⟨rfl, fun hyp => (virtual hyp).symm, fun off => unnoticed.retired off valid stays⟩

end Kinds

/-- An entry is transparent exactly when what the debug block overlooks does not show. -/
theorem transparent_iff (enters : Enters s i p) : Transparent s i p ↔ Unnoticed s i p := by
  cases goes : replaces s i with
  | true => exact replaced_iff enters goes
  | false =>
    cases taken : takesTrap s i with
    | true => exact trapped_iff enters goes taken
    | false =>
      cases returns : i.returns with
      | true => exact returned_iff enters goes taken returns
      | false => exact retired_iff enters goes taken returns

instance : Decidable (Enters s i p) :=
  decidable_of_iff
    (entersDebug s i = true ∧ Presented s i ∧ (replaces s i = true → i.csrOp = .add)
      ∧ (replaces s i = true → i.commitAck.count true = 0)
      ∧ (replaces s i = true → p.next = i.pc)
      ∧ (s.debug.dcsr.step = true → i.commitAck.getD 1 false = false) ∧ i.csrOp ≠ .dret)
    ⟨fun ⟨enters, presented, operates, retires, current, alone, legal⟩ =>
        ⟨enters, presented, operates, retires, current, alone, legal⟩,
      fun ⟨enters, presented, operates, retires, current, alone, legal⟩ =>
        ⟨enters, presented, operates, retires, current, alone, legal⟩⟩

/-- With the commit stage in front of it, the entry on a debug request is transparent in every
state. -/
theorem transparent_of_drives {ccfg : Commit.Cfg} {ports : Commit.Ports ccfg}
    {ci : Commit.Input} (drives : Drives s i ports ci) (enters : entersDebug s i = true)
    (request : entersOnRequest i = true) (current : p.next = i.pc) : Transparent s i p := by
  have takes : replaces s i = true := by rw [replaces, request, Bool.true_or]
  have entry := drives.enters enters fun _ => current
  rw [replaced_iff entry takes]
  constructor
  · intro breaks
    simp only [entersOnRequest, entersOnBreakpoint, breakpoint, Exception.hasCause,
      Bool.and_eq_true, decide_eq_true_eq] at request breaks
    have same := request.2.symm.trans breaks.1.2
    exact absurd (ofNat_inj (by decide) (by decide) same) (by decide)
  · intro goes
    rw [takes] at goes
    contradiction
  · intro returns
    simp [Input.returns, Input.mret, Input.sret, Input.dret, entry.operates takes] at returns
  · intro _ valid
    rw [valid_of_replaces takes] at valid
    contradiction

/-- A core with one commit port. -/
def requestCfg (bits ports : Nat) : Commit.Cfg where
  transIdBits := bits + 1
  superscalarEn := false
  userCommitPorts := 1
  nrWbPorts := ports + 1
  fpPresent := true
  debugEn := true
  transIdBits_pos := Nat.succ_pos bits
  userCommitPorts_pos := Nat.one_pos
  nrWbPorts_pos := Nat.succ_pos ports
  isXlen64 := true
  rva := true
  rvs := true
  rvh := true
  rvzcmp := true
  sdtrig := true
  dcacheWb := true

/-- The instruction that carries the request, at the only port. -/
def requestPorts : Commit.Ports (requestCfg 2 3) where
  first :=
    { instr :=
        { instr := ⟨0, .add, false⟩
          transId := 0
          fu := .none
          rd := 0
          result := 0
          valid := true
          ex := ⟨Cause.debugRequest, 0, 0, 0, false, true⟩
          predictAddress := 0
          isMacroInstr := false
          isLastMacroInstr := false
          isDoubleRdMacroInstr := false }
      drop := false }
  second := none

def requestCycle : Commit.Input :=
  ⟨false, false, false, ⟨false, 0⟩, 0, ⟨0, 0, 0, 0, false, false⟩, true, true, false⟩

theorem requestDrives :
    Drives (regfile Cfg.sv39).reset
      { Input.raise Cfg.sv39 Cause.debugRequest with commitAck := [false] } requestPorts
      requestCycle where
  op := rfl
  ex := rfl
  reported := rfl
  trigger := rfl
  debugEn := rfl
  cause := rfl
  reports := by
    intro cause reported
    have none : csrException (regfile Cfg.sv39).reset
        { Input.raise Cfg.sv39 Cause.debugRequest with commitAck := [false] } = none := rfl
    rw [none] at reported
    contradiction
  acks := rfl
  stepping := rfl
  legal := by decide

theorem transparent_of_drives_reset :
    Transparent (regfile Cfg.sv39).reset
      { Input.raise Cfg.sv39 Cause.debugRequest with commitAck := [false] }
      ⟨0, (Input.quiet _).commitInstr⟩ :=
  transparent_of_drives requestDrives rfl rfl rfl

/-- A request in user mode, to which `mret` goes after reset. -/
theorem transparent_request :
    Transparent ((regfile Cfg.sv39).run [Input.operation _ .mret])
      (Input.raise _ Cause.debugRequest) ⟨0, (Input.quiet _).commitInstr⟩ :=
  (transparent_iff (by decide +kernel)).2
    ⟨fun on => absurd on (by decide +kernel), fun off => absurd off (by decide +kernel),
      fun on => absurd on (by decide +kernel), fun _ _ _ => rfl⟩

/-- A debugger sets `ebreakm`; the next breakpoint enters the debug mode and overwrites
`mcause`. -/
theorem not_transparent_ebreak :
    ∃ inputs : List (Input Cfg.sv39), ∃ i : Input Cfg.sv39, ∃ p,
      (regfile Cfg.sv39).RunAlong Presented inputs
        ∧ Enters ((regfile Cfg.sv39).run inputs) i p
        ∧ ¬Transparent ((regfile Cfg.sv39).run inputs) i p := by
  refine ⟨[Input.raise _ Cause.debugRequest, Input.write _ 0x7b0 0x8003, Input.operation _ .dret],
    Input.raise _ Cause.breakpoint, ⟨0, (Input.quiet _).commitInstr⟩, by decide +kernel,
    by decide +kernel, ?_⟩
  intro transparent
  have cause := congrArg (fun t => t.machine.mcause) transparent.frame
  exact absurd cause (by decide +kernel)

end Cva6Hpd.Csr
