import Cva6Hpd.Commit.Stage
import Cva6Hpd.Csr.Regfile

/-!
# What the stages leave alone

The write changes the status words only through their own addresses and never the mode of the
hart; the later stages of a cycle change little more than their names say.
-/

namespace Cva6Hpd.Csr

open Cva6Hpd.Ariane (FuOp)

/-- The mode of the hart. -/
structure Mode where
  privLvl : PrivLvl
  v : Bool
  debugMode : Bool
deriving DecidableEq

variable {cfg : Cfg}

def State.mode (s : State cfg) : Mode := ⟨s.privLvl, s.v, s.debugMode⟩

/-! ## The fields of the trap stacks -/

/-- The fields of a status word that the traps and the returns read and write. -/
structure TrapFields where
  mie : Bool
  mpie : Bool
  mpp : PrivLvl
  mpv : Bool
  mprv : Bool
  sie : Bool
  spie : Bool
  spp : Bool
  gva : Bool
deriving DecidableEq

namespace Mstatus

variable (m : Mstatus)

def trapFields : TrapFields :=
  ⟨m.mie, m.mpie, m.mpp, m.mpv, m.mprv, m.sie, m.spie, m.spp, m.gva⟩

@[simp]
theorem trapFields_withFp : (m.withFp cfg).trapFields = m.trapFields := by
  rw [withFp]
  split <;> rfl

@[simp]
theorem trapFields_withVector : (m.withVector cfg).trapFields = m.trapFields := by
  rw [withVector]
  split <;> rfl

@[simp]
theorem trapFields_withXl : (m.withXl cfg).trapFields = m.trapFields := by
  rw [withXl]
  split <;> rfl

@[simp]
theorem trapFields_dirtyFs {dirty : Bool} : (m.dirtyFs dirty).trapFields = m.trapFields := by
  rw [dirtyFs]
  split <;> rfl

@[simp]
theorem trapFields_dirtyVs {dirty : Bool} : (m.dirtyVs dirty).trapFields = m.trapFields := by
  rw [dirtyVs]
  split <;> rfl

/-- Without user mode `mpp` alone changes, to machine mode. -/
theorem trapFields_withMachineMpp :
    (m.withMachineMpp cfg).trapFields =
      { m.trapFields with mpp := if cfg.rvu then m.mpp else .m } := by
  rw [withMachineMpp]
  split <;> rfl

end Mstatus

/-- The hardwired fields of `mstatus` are outside of the stacks, but for `mpp` without user
mode. -/
theorem trapFields_hardwired (s : State cfg) (i : Input cfg) (d : Draft cfg) :
    (hardwired s i d).mstatus.trapFields =
      { d.next.mstatus.trapFields with
        mpp := if cfg.rvu then d.next.mstatus.mpp else .m } := by
  have level : (d.next.mstatus.withXl cfg).mpp = d.next.mstatus.mpp :=
    congrArg TrapFields.mpp (Mstatus.trapFields_withXl _)
  calc (hardwired s i d).mstatus.trapFields
      = ((((d.next.mstatus.withXl cfg).withMachineMpp cfg).dirtyFs
          (dirtiesFp i d.dirtyFpState)).dirtyVs (cfg.rvv && i.dirtyVState)).trapFields := rfl
    _ = ((d.next.mstatus.withXl cfg).withMachineMpp cfg).trapFields := by
        rw [Mstatus.trapFields_dirtyVs, Mstatus.trapFields_dirtyFs]
    _ = _ := by
        rw [Mstatus.trapFields_withMachineMpp, Mstatus.trapFields_withXl, level]

/-! ## The write -/

section Write

variable {s : State cfg} {i : Input cfg} {w : Word cfg} {d : Draft cfg}

theorem mode_writeReg (reg : Reg) : (writeReg s i w d reg).next.mode = d.next.mode := by
  cases reg <;> simp only [writeReg, writeFcsr, writeTrigger, writeVsatp, writeSatp, writeHgatp,
    Draft.within] <;> (repeat' split) <;> rfl

/-- The addresses of `mstatus`. -/
def Reg.isMstatus : Reg → Bool
  | .sstatus | .mstatus | .mstatush => true
  | _ => false

/-- The other registers leave `mstatus` alone. -/
theorem mstatus_writeReg {reg : Reg} (other : reg.isMstatus = false) :
    (writeReg s i w d reg).next.mstatus = d.next.mstatus := by
  cases reg <;> simp only [writeReg, writeFcsr, writeTrigger, writeVsatp, writeSatp, writeHgatp,
    Draft.within] <;> (repeat' split) <;> first | rfl | cases other

theorem mstatus_writeReg_sstatus :
    (writeReg s i w d .sstatus).next.mstatus =
      if cfg.rvs then writtenSstatus s w else d.next.mstatus := by
  simp only [writeReg, Draft.within]
  split <;> rfl

theorem mstatus_writeReg_mstatush :
    (writeReg s i w d .mstatush).next.mstatus =
      if !cfg.isXlen64 then
        { s.mstatus with mbe := w.getLsbD 5, sbe := w.getLsbD 5, ube := w.getLsbD 5 }
      else d.next.mstatus := by
  simp only [writeReg, Draft.within]
  split <;> rfl

end Write

/-! ## The stages -/

section Stages

variable (s : State cfg) (i : Input cfg)

theorem mode_written : (written s i).next.mode = s.mode := by
  simp only [written, writeProcess]
  split
  · split
    · rw [mode_writeReg]
      rfl
    · rfl
  · rfl

theorem mode_hardwired (d : Draft cfg) : (hardwired s i d).mode = d.next.mode := rfl

theorem mode_push (handler : Handler) (d : State cfg) : (push s i handler d).mode = d.mode := by
  cases handler <;> rfl

theorem mode_trap (d : State cfg) :
    (trap s i d).mode =
      if takesTrap s i then
        ⟨trapToPrivLvl s i, if cfg.rvh then trapToV s i else d.v, d.debugMode⟩
      else d.mode := by
  rw [trap]
  split
  · have kept := congrArg Mode.debugMode (mode_push s i (handler s i) d)
    simp only [State.mode] at kept ⊢
    rw [kept]
  · rfl

/-- A trap goes to machine mode or, from another level, to the supervisor. -/
theorem trapToPrivLvl_cases {s : State cfg} {i : Input cfg} :
    trapToPrivLvl s i = .m ∨
      trapToPrivLvl s i = .s ∧ cfg.rvs = true ∧ s.privLvlO ≠ .m := by
  rw [trapToPrivLvl]
  split
  · next delegates =>
    simp only [delegated, Bool.and_eq_true] at delegates
    split
    · exact Or.inl rfl
    · next lower => exact Or.inr ⟨rfl, delegates.1, lower⟩
  · exact Or.inl rfl

theorem privLvl_debugEntry (d : State cfg) : (debugEntry s i d).privLvl = d.privLvl := by
  rw [debugEntry]
  split <;> rfl

theorem v_debugEntry (d : State cfg) : (debugEntry s i d).v = d.v := by
  rw [debugEntry]
  split <;> rfl

theorem mstatus_debugEntry (d : State cfg) : (debugEntry s i d).mstatus = d.mstatus := by
  rw [debugEntry]
  split <;> rfl

theorem debugMode_debugEntry (d : State cfg) :
    (debugEntry s i d).debugMode =
      if cfg.debugEn && !s.debugMode then enteredDebug s i else d.debugMode := by
  rw [debugEntry]
  split <;> rfl

/-- Without a return the last stage does nothing. -/
theorem xret_of_not_returns {d : State cfg} (stays : i.returns = false) : xret s i d = d := by
  simp only [Input.returns, Bool.or_eq_false_iff] at stays
  simp [xret, stays.1.1, stays.1.2, stays.2]

theorem isAccess_of_returns {i : Input cfg} (returns : i.returns = true) : i.isAccess = false := by
  simp only [Input.returns, Input.mret, Input.sret, Input.dret, Bool.or_eq_true,
    Bool.and_eq_true, decide_eq_true_eq] at returns
  obtain (op | ⟨-, op⟩) | ⟨-, op⟩ := returns <;> simp [Input.isAccess, op]

theorem isAccess_of_isWrite {i : Input cfg} (write : i.isWrite = true) : i.isAccess = true := by
  simp only [Input.isWrite, Input.isAccess, Bool.or_eq_true] at write ⊢
  exact Or.inl write

theorem written_of_not_we {s : State cfg} {i : Input cfg} (idle : csrWe s i = false) :
    written s i = Draft.of (defaults s i) := by
  simp [written, writeProcess, idle]

theorem csrWe_of_not_access {s : State cfg} {i : Input cfg} (idle : i.isAccess = false) :
    csrWe s i = false := by
  cases write : i.isWrite with
  | false => simp [csrWe, write]
  | true => rw [isAccess_of_isWrite write] at idle; cases idle

end Stages

/-! ## What the commit stage presents -/

section Presented

variable {s : State cfg} {i : Input cfg}

/-- An operation comes without a breakpoint of the trigger module, and with no exception but
the one that the register file reports for it. -/
def Presented (s : State cfg) (i : Input cfg) : Prop :=
  i.csrOp ≠ .add →
    i.breakFromTrigger = false ∧ (i.ex.valid = true → (csrException s i).isSome = true)

instance : Decidable (Presented s i) := by
  unfold Presented
  infer_instance

/-- The inputs that the commit stage drives. -/
structure Committed {ccfg : Commit.Cfg} (s : State cfg) (i : Input cfg)
    (port : Commit.Port ccfg) (ci : Commit.Input) : Prop where
  op : i.csrOp = Commit.csrOp port ci
  ex : i.ex.valid = (Commit.exceptionO port ci).valid
  reported : ci.csrException.valid = (csrException s i).isSome
  trigger : ci.breakFromTrigger = i.breakFromTrigger

/-- The commit stage presents its operations so. -/
theorem Committed.presented {ccfg : Commit.Cfg} {port : Commit.Port ccfg} {ci : Commit.Input}
    (committed : Committed s i port ci) : Presented s i := by
  intro operates
  rw [committed.op, Commit.csrOp] at operates
  have commits : Commit.commits port ci = true := by
    cases commits : Commit.commits port ci with
    | true => rfl
    | false => simp [commits] at operates
  simp only [Commit.commits, Commit.excepts, Bool.and_eq_true, Bool.not_eq_true',
    Bool.or_eq_false_iff] at commits
  obtain ⟨-, own, trigger⟩ := commits
  constructor
  · rw [← committed.trigger, trigger]
  · intro valid
    rw [committed.ex] at valid
    rw [← committed.reported]
    cases reported : ci.csrException.valid with
    | true => rfl
    | false =>
      exfalso
      simp only [Commit.exceptionO, own, reported, trigger, Bool.false_eq_true, ↓reduceIte,
        Bool.and_false, ite_self] at valid

theorem cause_of_csrException {cause : Nat} (reported : csrException s i = some cause) :
    cause = Cause.virtualInstruction ∨ cause = Cause.illegalInstr := by
  simp only [csrException] at reported
  split at reported
  · exact Or.inl (Option.some.inj reported).symm
  · split at reported
    · exact Or.inr (Option.some.inj reported).symm
    · cases reported

/-- Small causes are different words. -/
theorem ofNat_inj {a b : Nat} (small : a < 32) (small' : b < 32)
    (same : BitVec.ofNat cfg.xlen a = BitVec.ofNat cfg.xlen b) : a = b := by
  have wide : 2 ^ 5 < 2 ^ cfg.xlen := Nat.pow_lt_pow_right (by decide) (by
    rw [Cfg.xlen]
    split <;> decide)
  have numbers := congrArg BitVec.toNat same
  simp only [BitVec.toNat_ofNat] at numbers
  rwa [Nat.mod_eq_of_lt (by omega), Nat.mod_eq_of_lt (by omega)] at numbers

theorem csrException_of_returns (returns : i.returns = true) : csrException s i = none := by
  have idle := isAccess_of_returns returns
  have quiet := csrWe_of_not_access (s := s) idle
  simp [csrException, written_of_not_we quiet, privilegeCheck, readProcess, csrRead, idle,
    Draft.of, ReadResult.value]

theorem Presented.not_takesTrap (presented : Presented s i) (returns : i.returns = true) :
    takesTrap s i = false := by
  have operates : i.csrOp ≠ .add := by
    intro none
    simp [Input.returns, Input.mret, Input.sret, Input.dret, none] at returns
  obtain ⟨trigger, reported⟩ := presented operates
  have quiet : i.ex.valid = false := by
    cases valid : i.ex.valid with
    | false => rfl
    | true =>
      have reports := reported valid
      rw [csrException_of_returns returns] at reports
      cases reports
  simp [takesTrap, quiet, trigger]

end Presented

end Cva6Hpd.Csr
