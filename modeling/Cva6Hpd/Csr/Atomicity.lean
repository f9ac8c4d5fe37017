import Cva6Hpd.Csr.RoundTrip

/-!
# Refused accesses

An access that raises an exception must not take effect: but for the trap, the cycle is the one
without the operation. The cases of the write reject exactly what the cases of the read refuse,
but the write enable looks at one of the two violations of the privilege check only, and the
upper halves of the performance counters ask for a write before they are rejected.
-/

namespace Cva6Hpd.Csr

open Cva6Hpd.Ariane (FuOp)

variable {cfg : Cfg} {s : State cfg} {i : Input cfg}

/-! ## The law -/

/-- The register file reports an exception, which the commit stage raises. -/
structure Refused (s : State cfg) (i : Input cfg) (cause : Nat) : Prop where
  reported : csrException s i = some cause
  valid : i.ex.valid = true
  cause : i.ex.cause = BitVec.ofNat cfg.xlen cause

/-- The cycle is the one of the trap alone: no register changes through the operation, and
neither a flush, nor a write of a performance counter, nor one of the trigger module results
from it. -/
structure Atomic (s : State cfg) (i : Input cfg) : Prop where
  state : step s i = step s { i with csrOp := .add }
  flush : flushO s i = false
  counters : perfWeO s i = false
  trigger : (written s i).trigger = none

/-! ## When the law holds -/

/-- The registers that no write changes. -/
def Reg.isReadOnly : Reg → Bool
  | .tinfo | .hgeip | .mvendorid | .marchid | .mimpid | .mhartid | .mconfigptr | .cycle | .cycleh
  | .instret | .instreth | .hpmCounter | .hpmCounterH => true
  | _ => false

/-- No write is enabled to a register against a violation of the virtual kind, and none to the
upper half of a performance counter in a core of 64 bits. -/
def Gated (s : State cfg) (i : Input cfg) : Prop :=
  csrWe s i = true → ∀ reg, Reg.ofAddress (convCsrAddr s i.csrAddr) = some reg →
    ((privilegeCheck s i).virtual = true → reg.isReadOnly = true)
      ∧ ¬(cfg.isXlen64 = true ∧ reg = .mhpmCounterH)

/-! ## The cases of a write -/

section Write

variable {w : Word cfg} {d : Draft cfg} {reg : Reg}

/-- A draft changes nothing but the flush and the exceptions; it flushes only for a supervisor
that has to trap. -/
structure Rejected (s : State cfg) (d e : Draft cfg) : Prop where
  next : e.next = d.next
  dirtyFpState : e.dirtyFpState = d.dirtyFpState
  perfWe : e.perfWe = d.perfWe
  trigger : e.trigger = d.trigger
  flush : e.flush = true → d.flush = true ∨ s.privLvlO = .s

namespace Rejected

theorem reject : Rejected s d d.reject := ⟨rfl, rfl, rfl, rfl, Or.inl⟩

theorem flushes {e : Draft cfg} (rejected : Rejected s d e) (level : s.privLvlO = .s) :
    Rejected s d e.flushes where
  next := rejected.next
  dirtyFpState := rejected.dirtyFpState
  perfWe := rejected.perfWe
  trigger := rejected.trigger
  flush _ := Or.inr level

theorem rejectVirtual : Rejected s d d.rejectVirtual := ⟨rfl, rfl, rfl, rfl, Or.inl⟩

/-- A write that goes through raises no exception. -/
theorem of_clean {e : Draft cfg}
    (same : e.updateAccessException = d.updateAccessException
      ∧ e.virtualUpdateAccessException = d.virtualUpdateAccessException)
    (quiet : d.updateAccessException = false ∧ d.virtualUpdateAccessException = false)
    (rejected : e.updateAccessException = true ∨ e.virtualUpdateAccessException = true) :
    Rejected s d e := by
  rw [same.1, same.2, quiet.1, quiet.2] at rejected
  simp at rejected

end Rejected

theorem level_of_trapsSatp (traps : trapsSatp s = true) : s.privLvlO = .s := by
  simp only [trapsSatp, Bool.and_eq_true, decide_eq_true_eq] at traps
  exact traps.1

theorem level_of_trapsVsatp (traps : trapsVsatp s = true) : s.privLvlO = .s := by
  simp only [trapsVsatp, Bool.and_eq_true, decide_eq_true_eq] at traps
  exact traps.1.1

theorem level_of_trapsHgatp (traps : trapsHgatp s = true) : s.privLvlO = .s := by
  simp only [trapsHgatp, Bool.and_eq_true, decide_eq_true_eq] at traps
  exact traps.1.1

theorem rejected_of_exception
    (quiet : d.updateAccessException = false ∧ d.virtualUpdateAccessException = false)
    (narrow : ¬(cfg.isXlen64 = true ∧ reg = .mhpmCounterH)) :
    (writeReg s i w d reg).updateAccessException = true
      ∨ (writeReg s i w d reg).virtualUpdateAccessException = true →
    Rejected s d (writeReg s i w d reg) := by
  cases reg <;> simp only [writeReg, writeFcsr, writeTrigger, writeVsatp, writeSatp, writeHgatp,
    Draft.within] <;> (repeat' split) <;> intro rejected <;> first
    | exact Rejected.reject
    | exact Rejected.of_clean ⟨rfl, rfl⟩ quiet rejected
    | exact Rejected.reject.flushes (level_of_trapsSatp (by assumption))
    | exact Rejected.reject.flushes (level_of_trapsHgatp (by assumption))
    | exact Rejected.rejectVirtual.flushes (level_of_trapsVsatp (by assumption))
    | exact absurd ⟨by assumption, rfl⟩ narrow

theorem not_refused_value {data : Word cfg} :
    ¬((ReadResult.value data).accessException = true
      ∨ (ReadResult.value data).virtualAccessException = true) := by
  simp [ReadResult.value]

theorem rejected_of_read (narrow : ¬(cfg.isXlen64 = true ∧ reg = .mhpmCounterH)) :
    (readReg s i reg).accessException = true ∨ (readReg s i reg).virtualAccessException = true →
    Rejected s d (writeReg s i w d reg) := by
  cases reg <;> simp only [writeReg, writeFcsr, writeTrigger, writeVsatp, writeSatp, writeHgatp,
    Draft.within, readReg, ReadResult.within] <;> (repeat' split) <;> intro refused <;> first
    | exact absurd refused not_refused_value
    | exact Rejected.reject
    | exact Rejected.reject.flushes (level_of_trapsSatp (by assumption))
    | exact Rejected.reject.flushes (level_of_trapsHgatp (by assumption))
    | exact Rejected.rejectVirtual.flushes (level_of_trapsVsatp (by assumption))
    | exact absurd ⟨by assumption, rfl⟩ narrow
    | exact ⟨rfl, rfl, rfl, rfl, Or.inl⟩
    | simp_all

theorem rejected_of_isReadOnly (readOnly : reg.isReadOnly = true) :
    Rejected s d (writeReg s i w d reg) := by
  cases reg <;> first | exact Rejected.reject | cases readOnly

end Write

/-! ## The cycle of a refused access -/

theorem isAccess_of_csrException {cause : Nat} (reported : csrException s i = some cause) :
    i.isAccess = true := by
  cases access : i.isAccess with
  | true => rfl
  | false =>
    have idle := csrWe_of_not_access (s := s) access
    simp [csrException, written_of_not_we idle, privilegeCheck, readProcess, csrRead, access,
      Draft.of, ReadResult.value] at reported

theorem rejected_written {cause : Nat} (reported : csrException s i = some cause)
    (gated : Gated s i) : Rejected s (Draft.of (defaults s i)) (written s i) := by
  rw [written, writeProcess]
  cases we : csrWe s i with
  | false => exact ⟨rfl, rfl, rfl, rfl, Or.inl⟩
  | true =>
    simp only [↓reduceIte]
    cases found : Reg.ofAddress (convCsrAddr s i.csrAddr) with
    | none => exact Rejected.reject
    | some reg =>
      obtain ⟨virtual, narrow⟩ := gated we reg found
      have noViolation : (privilegeCheck s i).privilege = false := by
        simp only [csrWe, Bool.and_eq_true, Bool.not_eq_true'] at we
        exact we.2
      have reads : csrRead s i = true := by
        simp [csrRead, isAccess_of_csrException reported, noViolation]
      have drafted : written s i =
          writeReg s i (csrWdata s i) (Draft.of (defaults s i)) reg := by
        simp only [written, writeProcess, we, ↓reduceIte, found]
      have read : readProcess s i = readReg s i reg := by
        simp only [readProcess, reads, ↓reduceIte, found]
      change Rejected s _ (writeReg s i (csrWdata s i) (Draft.of (defaults s i)) reg)
      simp only [csrException, drafted, read, noViolation, Bool.or_false] at reported
      cases violates : (privilegeCheck s i).virtual with
      | true => exact rejected_of_isReadOnly (virtual violates)
      | false =>
        simp only [violates, Bool.or_false] at reported
        split at reported
        · next raised =>
          simp only [Bool.and_eq_true, Bool.or_eq_true] at raised
          obtain ⟨-, raised | raised⟩ := raised
          · exact rejected_of_exception ⟨rfl, rfl⟩ narrow (Or.inr raised)
          · exact rejected_of_read narrow (Or.inr raised)
        · split at reported
          · next raised =>
            simp only [Bool.or_eq_true] at raised
            obtain raised | raised := raised
            · exact rejected_of_exception ⟨rfl, rfl⟩ narrow (Or.inl raised)
            · exact rejected_of_read narrow (Or.inl raised)
          · cases reported

theorem Refused.takesTrap {cause : Nat} (refused : Refused s i cause)
    (outside : s.inDebug = false) : takesTrap s i = true := by
  have other : i.ex.hasCause Cause.debugRequest = false := by
    simp only [Exception.hasCause, refused.cause, decide_eq_false_iff_not]
    intro same
    obtain rfl | rfl := cause_of_csrException refused.reported
    · exact absurd (ofNat_inj (by decide) (by decide) same) (by decide)
    · exact absurd (ofNat_inj (by decide) (by decide) same) (by decide)
  cases debugEn : cfg.debugEn with
  | false => simp [Csr.takesTrap, debugEn, refused.valid]
  | true =>
    have mode : s.debugMode = false := by simpa [State.inDebug, debugEn] using outside
    simp [Csr.takesTrap, debugEn, mode, other, refused.valid]

section WithoutOp

variable {d : State cfg}

theorem defaults_withoutOp : defaults s { i with csrOp := .add } = defaults s i := rfl

theorem hardwired_withoutOp {d : Draft cfg} :
    hardwired s { i with csrOp := .add } d = hardwired s i d := rfl

theorem trap_withoutOp : trap s { i with csrOp := .add } d = trap s i d := rfl

theorem debugEntry_withoutOp : debugEntry s { i with csrOp := .add } d = debugEntry s i d := rfl

end WithoutOp

/-- Without the effects of the write the cycle is the one without the operation. -/
theorem step_of_rejected {cause : Nat} (reported : csrException s i = some cause)
    (rejected : Rejected s (Draft.of (defaults s i)) (written s i)) :
    step s i = step s { i with csrOp := .add } := by
  have access := isAccess_of_csrException reported
  have idle : csrWe s { i with csrOp := .add } = false :=
    csrWe_of_not_access (by simp [Input.isAccess])
  have stays : i.returns = false := by
    cases returns : i.returns with
    | false => rfl
    | true =>
      rw [isAccess_of_returns returns] at access
      cases access
  have stays' : ({ i with csrOp := .add } : Input cfg).returns = false := by
    simp [Input.returns, Input.mret, Input.sret, Input.dret]
  have wfi : wfiD s i = wfiD s { i with csrOp := .add } := by
    have other : i.csrOp ≠ .wfi := by
      intro op
      simp [Input.isAccess, op] at access
    simp [wfiD, other]
  have drafted : hardwired s i (written s i) = hardwired s i (Draft.of (defaults s i)) := by
    simp only [hardwired, rejected.next, rejected.dirtyFpState]
  have updated : update s i = update s { i with csrOp := .add } := by
    rw [update, update, xret_of_not_returns s i stays, xret_of_not_returns s _ stays',
      written_of_not_we idle, drafted, defaults_withoutOp, hardwired_withoutOp, trap_withoutOp,
      debugEntry_withoutOp]
  rw [step, step, ← updated, latch, latch, wfi]

/-- A refused access has no effect but the trap, if no write is enabled against a violation of
the virtual kind and none asks for the upper half of a performance counter. -/
theorem atomic_of_gated {cause : Nat} (refused : Refused s i cause) (gated : Gated s i) :
    Atomic s i := by
  have rejected := rejected_written refused.reported gated
  constructor
  · exact step_of_rejected refused.reported rejected
  · rw [flushO]
    cases flushes : (written s i).flush with
    | false => rfl
    | true =>
      obtain none | level := rejected.flush flushes
      · cases none
      · have outside : s.inDebug = false := by
          cases inside : s.inDebug with
          | false => rfl
          | true => simp [State.privLvlO, inside] at level
        simp [refused.takesTrap outside]
  · exact rejected.perfWe
  · exact rejected.trigger

/-- A write together with the exception that the register file reports for it. -/
def refusedWrite (cfg : Cfg) (address : BitVec 12) (word cause : Nat) : Input cfg :=
  { Input.write cfg address word with ex := (Input.raise cfg cause).ex }

/-- User mode, to which `mret` goes after reset, writes `mstatus`. -/
theorem atomic_mstatus :
    Atomic ((regfile Cfg.sv39).run [Input.operation _ .mret])
      (refusedWrite _ 0x300 0 Cause.illegalInstr) :=
  atomic_of_gated ⟨by decide +kernel, rfl, rfl⟩ fun on => absurd on (by decide +kernel)

/-- `mret` goes to a guest, which writes `hedeleg`: the write raises a virtual instruction
exception and takes effect. -/
theorem not_atomic_hedeleg :
    ∃ inputs : List (Input Cfg.hypervisor), ∃ i : Input Cfg.hypervisor, ∃ cause,
      (regfile Cfg.hypervisor).RunAlong Presented inputs
        ∧ Refused ((regfile Cfg.hypervisor).run inputs) i cause
        ∧ ¬Atomic ((regfile Cfg.hypervisor).run inputs) i := by
  refine ⟨[Input.write _ 0x300 0x8000000800, Input.operation _ .mret],
    refusedWrite _ 0x602 0x100 Cause.virtualInstruction, Cause.virtualInstruction,
    by decide +kernel, ⟨by decide +kernel, rfl, rfl⟩, ?_⟩
  intro atomic
  have hedeleg := congrArg (fun t => t.hypervisor.hedeleg) atomic.state
  exact absurd hedeleg (by decide +kernel)

end Cva6Hpd.Csr
