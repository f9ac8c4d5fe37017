import Cva6Hpd.Csr.DebugEntry

/-!
# Interrupt control

`irq_ctrl_o` of the register file, and "Interrupt Control" of the decoder, which attaches an
interrupt to an instruction like an exception. The decoder looks at the registers as they are
in its own cycle; an interrupt is enabled for the state in which it is taken if the same
conditions hold there, but for the pending bits that only hardware writes.
-/

namespace Cva6Hpd.Csr

open Cva6Hpd.Ariane (FuOp)

/-! ## The interrupts -/

/-- The interrupts of `interrupts_t`. -/
inductive Interrupt where
  | vsTimer | vsSw | vsExt | hsExt | sTimer | sSw | sExt | mTimer | mSw | mExt
deriving DecidableEq, Repr

namespace Interrupt

/-- `IRQ_S_SOFT` to `IRQ_HS_EXT`. -/
def number : Interrupt → Nat
  | sSw => 1
  | vsSw => 2
  | mSw => 3
  | sTimer => 5
  | vsTimer => 6
  | mTimer => 7
  | sExt => 9
  | vsExt => 10
  | mExt => 11
  | hsExt => 12

/-- The entry of `INTERRUPTS`. -/
def cause (cfg : Cfg) (k : Interrupt) : Word cfg :=
  bit cfg (cfg.xlen - 1) ||| BitVec.ofNat cfg.xlen k.number

/-- The extension that the interrupt needs is there. -/
def present (cfg : Cfg) : Interrupt → Bool
  | vsTimer | vsSw | vsExt | hsExt => cfg.rvh
  | sTimer | sSw | sExt => cfg.rvs
  | mSw => cfg.softwareInterruptEn
  | mTimer | mExt => true

/-- The order in which the decoder looks at the interrupts; a later one wins. -/
def order : List Interrupt :=
  [.vsTimer, .vsSw, .vsExt, .hsExt, .sTimer, .sSw, .sExt, .mTimer, .mSw, .mExt]

/-- Software writes the pending bit. -/
def isSoftware : Interrupt → Bool
  | mTimer | mSw | mExt | hsExt => false
  | _ => true

end Interrupt

variable {cfg : Cfg}

/-- `irq_ctrl_t`. -/
structure IrqCtrl (cfg : Cfg) where
  mie : Word cfg
  mip : Word cfg
  mideleg : Word cfg
  hideleg : Word cfg
  sie : Bool
  globalEnable : Bool

/-- `irq_ctrl_o`. -/
def irqCtrl (s : State cfg) : IrqCtrl cfg where
  mie := s.machine.mie
  mip := s.machine.mip
  mideleg := if cfg.rvs then s.machine.mideleg else 0
  hideleg := if cfg.rvh then s.hypervisor.hideleg else 0
  sie := if cfg.rvh && s.v then s.vsstatus.sie else s.mstatus.sie
  globalEnable :=
    !s.inDebug && (!cfg.debugEn || !s.debug.dcsr.step || s.debug.dcsr.stepie)
      && ((s.mstatus.mie && s.privLvlO = .m) || (cfg.rvu && s.privLvlO ≠ .m))

namespace IrqCtrl

variable (c : IrqCtrl cfg)

/-- The interrupt is enabled by itself and pending; the line of the external interrupt
controller counts for the supervisor. -/
def pending (irqS : Bool) (k : Interrupt) : Bool :=
  c.mie.getLsbD k.number && (c.mip.getLsbD k.number || (k = .sExt && irqS))

/-- `interrupt_cause`. -/
def interruptCause (irqS : Bool) : Option Interrupt :=
  Interrupt.order.foldl
    (fun selected k => if k.present cfg && c.pending irqS k then some k else selected) none

/-- The conditions on the delegation and the mode. -/
def admits (v : Bool) (level : PrivLvl) (k : Interrupt) : Bool :=
  if c.mideleg.getLsbD k.number then
    if cfg.rvh then
      if v && c.hideleg.getLsbD k.number then (c.sie && level = .s) || level = .u
      else if v && !c.hideleg.getLsbD k.number then true
      else !v && ((c.sie && level = .s) || level = .u) && !c.hideleg.getLsbD k.number
    else (cfg.rvs && c.sie && level = .s) || (cfg.rvu && level = .u)
  else true

end IrqCtrl

/-- The interrupt that the decoder attaches to an instruction without an exception of the
fetch. -/
def attached (s : State cfg) (irqS : Bool) : Option Interrupt :=
  match (irqCtrl s).interruptCause irqS with
  | some k =>
    if (irqCtrl s).globalEnable && (irqCtrl s).admits s.v s.privLvlO k then some k else none
  | none => none

/-! ## Enabled interrupts -/

/-- The interrupt is enabled for the current mode, and pending where software decides so;
`line` is the line of the external interrupt controller when it was decoded. -/
structure Enabled (s : State cfg) (line : Bool) (k : Interrupt) : Prop where
  mie : s.machine.mie.getLsbD k.number = true
  mip : k.isSoftware = true →
    s.machine.mip.getLsbD k.number = true ∨ (k = .sExt ∧ line = true)
  globalEnable : (irqCtrl s).globalEnable = true
  admits : (irqCtrl s).admits s.v s.privLvlO k = true

theorem satisfies_of_foldl {condition : Interrupt → Bool} {k : Interrupt} :
    ∀ {candidates : List Interrupt} {selected : Option Interrupt},
      candidates.foldl (fun selected k => if condition k then some k else selected) selected =
          some k →
        selected = some k ∨ condition k = true := by
  intro candidates
  induction candidates with
  | nil => exact fun same => Or.inl same
  | cons first rest inductionHypothesis =>
    intro selected last
    obtain chosen | holds := inductionHypothesis last
    · dsimp only at chosen
      split at chosen
      · next holds =>
        rw [Option.some.injEq] at chosen
        rw [← chosen]
        exact Or.inr holds
      · exact Or.inl chosen
    · exact Or.inr holds

theorem enabled_of_attached {s : State cfg} {irqS : Bool} {k : Interrupt}
    (decoded : attached s irqS = some k) : Enabled s irqS k := by
  rw [attached] at decoded
  split at decoded
  · next selected found =>
    split at decoded
    · next admitted =>
      rw [Option.some.injEq] at decoded
      subst decoded
      simp only [Bool.and_eq_true] at admitted
      obtain none | holds := satisfies_of_foldl found
      · cases none
      · simp only [IrqCtrl.pending, Bool.and_eq_true, Bool.or_eq_true,
          decide_eq_true_eq] at holds
        exact ⟨holds.2.1, fun _ => holds.2.2, admitted.1, admitted.2⟩
    · cases decoded
  · cases decoded

theorem Enabled.outside {s : State cfg} {line : Bool} {k : Interrupt}
    (enabled : Enabled s line k) : s.inDebug = false := by
  have all := enabled.globalEnable
  simp only [irqCtrl, Bool.and_eq_true, Bool.not_eq_true'] at all
  exact all.1.1

/-! ## What a write changes -/

/-- The registers that enable, delegate or raise interrupts, and whose writes do not flush. -/
def Reg.isInterrupt : Reg → Bool
  | .vsie | .vsip | .sie | .sip | .hideleg | .hie | .hip | .hvip | .mideleg | .mie | .mip => true
  | _ => false

/-- The cycle writes one of them. -/
def writesInterrupt (s : State cfg) (i : Input cfg) : Bool :=
  csrWe s i && ((Reg.ofAddress (convCsrAddr s i.csrAddr)).map Reg.isInterrupt).getD false

section Write

variable {s : State cfg} {i : Input cfg} {w : Word cfg} {d : Draft cfg} {reg : Reg}

/-- The registers that `irq_ctrl_o` shows, and the pending bits. -/
structure Delegation (cfg : Cfg) where
  mie : Word cfg
  mip : Word cfg
  mideleg : Word cfg
  hideleg : Word cfg

def State.delegation (s : State cfg) : Delegation cfg :=
  ⟨s.machine.mie, s.machine.mip, s.machine.mideleg, s.hypervisor.hideleg⟩

/-- The other registers leave them alone. -/
theorem delegation_writeReg (other : reg.isInterrupt = false) :
    (writeReg s i w d reg).next.delegation = d.next.delegation := by
  cases reg <;> simp only [writeReg, writeFcsr, writeTrigger, writeVsatp, writeSatp, writeHgatp,
    Draft.within] <;> (repeat' split) <;> first | rfl | cases other

theorem enables_writeReg : (writeReg s i w d reg).flush = false →
    (writeReg s i w d reg).next.enables = d.next.enables := by
  cases reg <;> simp only [writeReg, writeFcsr, writeTrigger, writeVsatp, writeSatp, writeHgatp,
    Draft.within] <;> (repeat' split) <;> first
    | exact fun _ => rfl
    | exact fun _ => trivial
    | exact fun flushes => absurd flushes (by simp [Draft.flushes])

/-- `dcsr` changes through its own address. -/
theorem dcsr_writeReg (other : reg ≠ .dcsr) :
    (writeReg s i w d reg).next.debug.dcsr = d.next.debug.dcsr := by
  cases reg <;> simp only [writeReg, writeFcsr, writeTrigger, writeVsatp, writeSatp, writeHgatp,
    Draft.within] <;> (repeat' split) <;> first | rfl | exact absurd rfl other

end Write

/-! ## What keeps an interrupt enabled -/

/-- A cycle that does not flush the pipeline: no trap, no return, no entry to the debug mode
and no flush of a write. -/
structure Unflushed (s : State cfg) (i : Input cfg) : Prop where
  noTrap : takesTrap s i = false
  noReturn : i.returns = false
  noDebug : entersDebug s i = false
  noFlush : flushO s i = false

section Quiet

variable {s : State cfg} {i : Input cfg}

/-- Outside of the debug mode a write of `dcsr` is a violation. -/
theorem not_csrWe_of_dcsr (outside : s.inDebug = false)
    (named : Reg.ofAddress (convCsrAddr s i.csrAddr) = some .dcsr) : csrWe s i = false := by
  have member := mem_addresses named rfl
  have place : convCsrAddr s i.csrAddr = 0x7b0#12 := by
    apply BitVec.eq_of_toNat_eq
    simpa [addresses] using member
  have address : i.csrAddr = 0x7b0#12 := by
    obtain same | clear := convCsrAddr_cases s i.csrAddr
    · rw [← same, place]
    · rw [place] at clear
      cases clear
  have counter : isHpmCounter i.csrAddr = false ∧ isBaseCounter i.csrAddr = false := by
    apply not_counter_of_lt
    rw [address]
    decide
  have debug : violatesDebug s i = true := by
    simp [violatesDebug, isDebugReg, address, outside]
  cases write : i.isWrite with
  | false => simp [csrWe, write]
  | true =>
    simp [csrWe, write, privilegeCheck, isAccess_of_isWrite write, debug, checkCounters, counter]

theorem kept_written (quiet : Unflushed s i) (outside : s.inDebug = false)
    (other : writesInterrupt s i = false) :
    (written s i).next.delegation = s.delegation ∧ (written s i).next.enables = s.enables
      ∧ (written s i).next.debug.dcsr = s.debug.dcsr := by
  have noFlush : (written s i).flush = false := by
    simpa [flushO, quiet.noTrap] using quiet.noFlush
  cases we : csrWe s i with
  | false =>
    rw [written_of_not_we we]
    exact ⟨rfl, rfl, rfl⟩
  | true =>
    simp only [written, writeProcess, we, ↓reduceIte] at noFlush ⊢
    cases named : Reg.ofAddress (convCsrAddr s i.csrAddr) with
    | none => exact ⟨rfl, rfl, rfl⟩
    | some reg =>
      simp only [named] at noFlush ⊢
      have plain : reg.isInterrupt = false := by simpa [writesInterrupt, we, named] using other
      refine ⟨delegation_writeReg plain, enables_writeReg noFlush, ?_⟩
      apply dcsr_writeReg
      rintro rfl
      rw [not_csrWe_of_dcsr outside named] at we
      cases we

theorem getLsbD_bit_of_ne {position j : Nat} (other : j ≠ position) :
    (bit cfg position).getLsbD j = false := by
  simp only [bit, BitVec.getLsbD_shiftLeft, BitVec.getLsbD_ofNat, Bool.and_eq_false_iff]
  by_cases below : j < position
  · simp [below]
  · right
    right
    obtain ⟨n, rest⟩ := Nat.exists_eq_add_of_lt (Nat.lt_of_le_of_ne (Nat.le_of_not_lt below)
      other.symm)
    have place : j - position = n + 1 := by omega
    rw [place]
    simp [Nat.testBit_succ]

/-- A bit that is replaced leaves the others alone. -/
theorem getLsbD_withBit_of_ne {position j : Nat} {value : Bool} {word : Word cfg}
    (other : j ≠ position) : (withBit position value word).getLsbD j = word.getLsbD j := by
  have clear : (bit cfg position).getLsbD j = false := getLsbD_bit_of_ne other
  have within : word.getLsbD j = (decide (j < cfg.xlen) && word.getLsbD j) := by
    by_cases wide : j < cfg.xlen
    · simp [wide]
    · simp [wide, BitVec.getLsbD_of_ge word j (Nat.le_of_not_lt wide)]
  simp only [withBit, merged, BitVec.getLsbD_or, BitVec.getLsbD_and, BitVec.getLsbD_not, clear,
    Bool.not_false, Bool.and_true, Bool.and_false, Bool.or_false]
  rw [Bool.and_comm, ← within]

/-- The pending bits that software writes are no lines. -/
theorem getLsbD_externalInterrupts {mip : Word cfg} {k : Interrupt}
    (software : k.isSoftware = true) :
    (externalInterrupts i mip).getLsbD k.number = mip.getLsbD k.number := by
  have other : k.number ≠ 7 ∧ k.number ≠ 3 ∧ k.number ≠ 11 := by
    cases k <;> first | decide | cases software
  rw [externalInterrupts, getLsbD_withBit_of_ne other.1, getLsbD_withBit_of_ne other.2.1,
    getLsbD_withBit_of_ne other.2.2]

/-- What an interrupt that is enabled depends on. -/
structure Kept (s t : State cfg) : Prop where
  mode : t.mode = s.mode
  enables : t.enables = s.enables
  mie : t.machine.mie = s.machine.mie
  mideleg : t.machine.mideleg = s.machine.mideleg
  hideleg : t.hypervisor.hideleg = s.hypervisor.hideleg
  mip : ∀ k : Interrupt, k.isSoftware = true →
    t.machine.mip.getLsbD k.number = s.machine.mip.getLsbD k.number
  step : t.debug.dcsr.step = s.debug.dcsr.step
  stepie : t.debug.dcsr.stepie = s.debug.dcsr.stepie

theorem Kept.enabled {t : State cfg} {line : Bool} {k : Interrupt} (kept : Kept s t)
    (enabled : Enabled s line k) : Enabled t line k := by
  have level : t.privLvl = s.privLvl := congrArg Mode.privLvl kept.mode
  have v : t.v = s.v := congrArg Mode.v kept.mode
  have debug : t.debugMode = s.debugMode := congrArg Mode.debugMode kept.mode
  have inside : t.inDebug = s.inDebug := by rw [State.inDebug, State.inDebug, debug]
  have levelO : t.privLvlO = s.privLvlO := by rw [State.privLvlO, State.privLvlO, inside, level]
  have enables := kept.enables
  simp only [State.enables, Prod.mk.injEq] at enables
  have ctrl : irqCtrl t = { irqCtrl s with mip := t.machine.mip } := by
    simp only [irqCtrl, kept.mie, kept.mideleg, kept.hideleg, kept.step, kept.stepie, v, inside,
      levelO, enables]
  constructor
  · rw [kept.mie]
    exact enabled.mie
  · intro software
    rw [kept.mip k software]
    exact enabled.mip software
  · rw [ctrl]
    exact enabled.globalEnable
  · rw [ctrl, v, levelO]
    exact enabled.admits

theorem update_of_unflushed (quiet : Unflushed s i) :
    update s i = debugEntry s i (hardwired s i (written s i)) := by
  rw [update, xret_of_not_returns s i quiet.noReturn, trap, if_neg (by simp [quiet.noTrap])]

theorem machine_debugEntry (d : State cfg) : (debugEntry s i d).machine = d.machine := by
  rw [debugEntry]
  split <;> rfl

theorem hypervisor_debugEntry (d : State cfg) :
    (debugEntry s i d).hypervisor = d.hypervisor := by
  rw [debugEntry]
  split <;> rfl

theorem step_debugEntry (d : State cfg) :
    (debugEntry s i d).debug.dcsr.step = d.debug.dcsr.step
      ∧ (debugEntry s i d).debug.dcsr.stepie = d.debug.dcsr.stepie := by
  rw [debugEntry]
  split <;> exact ⟨rfl, rfl⟩

theorem kept_step (quiet : Unflushed s i) (outside : s.inDebug = false)
    (other : writesInterrupt s i = false) : Kept s (step s i) := by
  obtain ⟨delegation, enables, dcsr⟩ := kept_written quiet outside other
  have machine : (step s i).machine = (hardwired s i (written s i)).machine := by
    change (update s i).machine = _
    rw [update_of_unflushed quiet, machine_debugEntry]
  have hypervisor : (step s i).hypervisor = (written s i).next.hypervisor := by
    change (update s i).hypervisor = _
    rw [update_of_unflushed quiet, hypervisor_debugEntry]
    rfl
  obtain ⟨stepping, stepie⟩ := step_debugEntry (s := s) (i := i) (hardwired s i (written s i))
  have written_ := mode_written s i
  constructor
  · change (update s i).mode = _
    have debug := debugMode_debugEntry s i (hardwired s i (written s i))
    have before : (hardwired s i (written s i)).debugMode = s.debugMode :=
      congrArg Mode.debugMode written_
    have same : (debugEntry s i (hardwired s i (written s i))).debugMode = s.debugMode := by
      rw [debug, before]
      split
      · next entering =>
        have stays := quiet.noDebug
        simp only [entersDebug, entering, Bool.true_and] at stays
        simp only [Bool.and_eq_true, Bool.not_eq_true'] at entering
        rw [stays, entering.2]
      · rfl
    rw [update_of_unflushed quiet, State.mode, same, privLvl_debugEntry, v_debugEntry]
    simp only [State.mode, Mode.mk.injEq, and_true]
    exact ⟨congrArg Mode.privLvl written_, congrArg Mode.v written_⟩
  · change (update s i).enables = _
    rw [update_of_unflushed quiet, enables_debugEntry, enables_hardwired, enables]
  · rw [machine]
    exact congrArg Delegation.mie delegation
  · rw [machine]
    exact congrArg Delegation.mideleg delegation
  · rw [hypervisor]
    exact congrArg Delegation.hideleg delegation
  · intro k software
    have mip : (written s i).next.machine.mip = s.machine.mip := congrArg Delegation.mip delegation
    rw [machine, ← mip]
    exact getLsbD_externalInterrupts software
  · change (update s i).debug.dcsr.step = _
    rw [update_of_unflushed quiet, stepping]
    exact congrArg Dcsr.step dcsr
  · change (update s i).debug.dcsr.stepie = _
    rw [update_of_unflushed quiet, stepie]
    exact congrArg Dcsr.stepie dcsr

theorem Enabled.step {line : Bool} {k : Interrupt} (enabled : Enabled s line k)
    (quiet : Unflushed s i) (other : writesInterrupt s i = false) :
    Enabled (Csr.step s i) line k :=
  (kept_step quiet enabled.outside other).enabled enabled

end Quiet

end Cva6Hpd.Csr
