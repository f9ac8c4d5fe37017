import Cva6Hpd.Csr.Frames

/-!
# The privilege of loads and stores

`MPRV` lets machine mode make its loads and stores at the level in `mstatus.mpp`. Outside of
the debug mode that level has to stay below the level of the hart, in whatever way machine
mode is left. The writes and the traps keep this relation; of the returns, `mret` does, and
`sret` does with the hypervisor extension and outside of a guest. The other `sret`s and `dret`
leave `MPRV` as it is.
-/

namespace Cva6Hpd.Csr

open Cva6Hpd.Ariane (FuOp)

variable {cfg : Cfg} {s : State cfg} {i : Input cfg}

/-! ## Bits of `mstatus` -/

namespace Mstatus

theorem getLsbD_toWord_mprv (m : Mstatus) : m.toWord.getLsbD 17 = m.mprv := by
  simp only [toWord, BitVec.getLsbD_append, Nat.reduceSub, Nat.reduceLT, ↓reduceIte]
  simp

theorem getLsbD_toWord_mpp (m : Mstatus) :
    m.toWord.getLsbD 11 = m.mpp.bits.getLsbD 0 ∧ m.toWord.getLsbD 12 = m.mpp.bits.getLsbD 1 := by
  constructor <;>
    simp only [toWord, BitVec.getLsbD_append, Nat.reduceSub, Nat.reduceLT, ↓reduceIte]

/-- A write under a mask without bit 17 keeps `mprv`. -/
theorem masked_mprv (m : Mstatus) {mask w : BitVec 64} (clear : mask.getLsbD 17 = false) :
    (m.masked mask w).mprv = m.mprv := by
  simp only [masked, ofWord, BitVec.getLsbD_or, BitVec.getLsbD_and, BitVec.getLsbD_not, clear,
    getLsbD_toWord_mprv]
  simp

/-- A write under a mask without bits 11 and 12 keeps `mpp`. -/
theorem masked_mpp (m : Mstatus) {mask w : BitVec 64} (low : mask.getLsbD 11 = false)
    (high : mask.getLsbD 12 = false) : (m.masked mask w).mpp = m.mpp := by
  have kept : (m.toWord &&& ~~~mask ||| w &&& mask).extractLsb' 11 2 = m.mpp.bits := by
    apply BitVec.eq_of_getLsbD_eq
    intro k within
    obtain rfl | rfl : k = 0 ∨ k = 1 := by omega
    · simp only [BitVec.getLsbD_extractLsb', BitVec.getLsbD_or, BitVec.getLsbD_and,
        BitVec.getLsbD_not, Nat.add_zero, low, (getLsbD_toWord_mpp m).1]
      simp
    · simp only [BitVec.getLsbD_extractLsb', BitVec.getLsbD_or, BitVec.getLsbD_and,
        BitVec.getLsbD_not, Nat.reduceAdd, high, (getLsbD_toWord_mpp m).2]
      simp
  simp only [masked, ofWord, kept, PrivLvl.ofBits_bits]

end Mstatus

/-! ## The write -/

/-- A write of `mstatus` in a core without user mode clears `mprv`. -/
theorem writtenMstatus_mprv {w : Word cfg} (noUser : cfg.rvu = false) :
    (writtenMstatus s w).mprv = false := by
  simp only [writtenMstatus, Mstatus.withReserved, Mstatus.withUser, Mstatus.withMpp, noUser,
    Bool.false_eq_true, ↓reduceIte]
  split <;> rfl

/-- A write of `sstatus` keeps both fields. -/
theorem writtenSstatus_fields {w : Word cfg} :
    (writtenSstatus s w).mprv = s.mstatus.mprv ∧ (writtenSstatus s w).mpp = s.mstatus.mpp := by
  have fields :
      (((s.mstatus.masked smodeStatusWriteMask (w.setWidth 64)).withFp cfg).withVector
        cfg).trapFields =
      (s.mstatus.masked smodeStatusWriteMask (w.setWidth 64)).trapFields := by
    rw [Mstatus.trapFields_withVector, Mstatus.trapFields_withFp]
  have lends := (congrArg TrapFields.mprv fields).trans (s.mstatus.masked_mprv rfl)
  have level := (congrArg TrapFields.mpp fields).trans (s.mstatus.masked_mpp rfl rfl)
  simp only [writtenSstatus, Mstatus.withMpp]
  split
  · exact ⟨lends, rfl⟩
  · exact ⟨lends, level⟩

/-- The write keeps the two fields, or machine mode makes it. -/
theorem written_cases (user : cfg.rvu = true) :
    ((written s i).next.mstatus.mprv = s.mstatus.mprv
        ∧ (written s i).next.mstatus.mpp = s.mstatus.mpp)
      ∨ s.privLvlO = .m := by
  cases we : csrWe s i with
  | false =>
    rw [written_of_not_we we]
    exact Or.inl ⟨rfl, rfl⟩
  | true =>
    simp only [written, writeProcess, we, ↓reduceIte]
    split
    · next reg named =>
      cases status : reg.isMstatus with
      | false =>
        rw [mstatus_writeReg status]
        exact Or.inl ⟨rfl, rfl⟩
      | true =>
        cases reg with
        | sstatus =>
          left
          rw [mstatus_writeReg_sstatus]
          split
          · exact writtenSstatus_fields
          · exact ⟨rfl, rfl⟩
        | mstatush =>
          left
          rw [mstatus_writeReg_mstatush]
          split <;> exact ⟨rfl, rfl⟩
        | mstatus =>
          right
          simp only [csrWe, Bool.and_eq_true, Bool.not_eq_true'] at we
          obtain absent | level :=
            machine_of_allowed (isAccess_of_isWrite we.1)
              (by rw [address_of_mstatus named]; rfl)
              (by rw [address_of_mstatus named]; decide) we.2
          · rw [user] at absent
            cases absent
          · exact level
        | _ => cases status
    · exact Or.inl ⟨rfl, rfl⟩

/-- Without user mode `mprv` stays clear. -/
theorem written_mprv (noUser : cfg.rvu = false) (clear : s.mstatus.mprv = false) :
    (written s i).next.mstatus.mprv = false := by
  simp only [written, writeProcess]
  split
  · split
    · next reg named =>
      cases status : reg.isMstatus with
      | false =>
        rw [mstatus_writeReg status]
        exact clear
      | true =>
        cases reg with
        | sstatus =>
          rw [mstatus_writeReg_sstatus]
          split
          · rw [writtenSstatus_fields.1, clear]
          · exact clear
        | mstatush =>
          rw [mstatus_writeReg_mstatush]
          split <;> exact clear
        | mstatus => exact writtenMstatus_mprv noUser
        | _ => cases status
    · exact clear
  · exact clear

theorem hardwired_mprv (d : Draft cfg) :
    (hardwired s i d).mstatus.mprv = d.next.mstatus.mprv :=
  congrArg TrapFields.mprv (trapFields_hardwired s i d)

theorem hardwired_mpp (d : Draft cfg) (user : cfg.rvu = true) :
    (hardwired s i d).mstatus.mpp = d.next.mstatus.mpp := by
  have level := congrArg TrapFields.mpp (trapFields_hardwired s i d)
  simp only [user, ↓reduceIte] at level
  exact level

/-! ## The trap -/

theorem trap_mprv (d : State cfg) : (trap s i d).mstatus.mprv = d.mstatus.mprv := by
  rw [trap]
  split
  · cases handler s i <;> rfl
  · rfl

/-- Only a trap to machine mode changes `mpp`. -/
theorem trap_mpp (d : State cfg) (stays : takesTrap s i = true → trapToPrivLvl s i = .s)
    (supervisor : cfg.rvs = true) : (trap s i d).mstatus.mpp = d.mstatus.mpp := by
  rw [trap]
  split
  · next taken =>
    simp only [handler, supervisor, stays taken, decide_true, Bool.and_self, ↓reduceIte]
    split <;> rfl
  · rfl

/-! ## The invariant -/

/-- The returns that leave `mprv` as it is. -/
def leavesMprv (s : State cfg) (i : Input cfg) : Bool := i.dret || (i.sret && (!cfg.rvh || s.v))

/-- The level that they restore. -/
def restoredLevel (s : State cfg) (i : Input cfg) : PrivLvl :=
  if i.sret then PrivLvl.ofLow (if cfg.rvh && s.v then s.vsstatus.spp else s.mstatus.spp)
  else s.debug.dcsr.prv

/-- A return that leaves `mprv` set goes to a level at least as high as `mpp`, and no trap
goes from the level `HS` to the supervisor while `mprv` is set and `mpp` is `HS`. -/
structure Keeps (s : State cfg) (i : Input cfg) : Prop where
  returns : leavesMprv s i = true → s.mstatus.mprv = true →
    s.mstatus.mpp.rank ≤ (restoredLevel s i).rank
  delegates : takesTrap s i = true → trapToPrivLvl s i = .s → s.mstatus.mprv = true →
    s.mstatus.mpp ≠ .hs

instance : Decidable (Keeps s i) :=
  decidable_of_iff
    ((leavesMprv s i = true → s.mstatus.mprv = true →
        s.mstatus.mpp.rank ≤ (restoredLevel s i).rank)
      ∧ (takesTrap s i = true → trapToPrivLvl s i = .s → s.mstatus.mprv = true →
        s.mstatus.mpp ≠ .hs))
    ⟨fun both => ⟨both.1, both.2⟩, fun keeps => ⟨keeps.returns, keeps.delegates⟩⟩

/-- `mprv` needs user mode, and outside of the debug mode it lends no level above the one of
the hart. -/
structure Bounded (s : State cfg) : Prop where
  absent : cfg.rvu = false → s.mstatus.mprv = false
  bounded : s.inDebug = false → s.mstatus.mprv = true → s.mstatus.mpp.rank ≤ s.privLvl.rank

/-- The state before the returns. -/
def entered (s : State cfg) (i : Input cfg) : State cfg :=
  debugEntry s i (trap s i (hardwired s i (written s i)))

theorem entered_mprv : (entered s i).mstatus.mprv = (written s i).next.mstatus.mprv := by
  rw [entered, mstatus_debugEntry, trap_mprv, hardwired_mprv]

/-- Before a return the two fields are those of the state. -/
theorem entered_of_returns (presented : Presented s i) (returns : i.returns = true) :
    (entered s i).mstatus.mprv = s.mstatus.mprv
      ∧ (cfg.rvu = true → (entered s i).mstatus.mpp = s.mstatus.mpp) := by
  have quiet := csrWe_of_not_access (s := s) (isAccess_of_returns returns)
  constructor
  · rw [entered_mprv, written_of_not_we quiet]
    rfl
  · intro user
    rw [entered, mstatus_debugEntry, trap, presented.not_takesTrap returns, if_neg (by simp),
      hardwired_mpp _ user, written_of_not_we quiet]
    rfl

/-! ## One step -/

/-- No return sets `mprv`. -/
theorem xret_mprv {d : State cfg} (set : (xret s i d).mstatus.mprv = true) :
    d.mstatus.mprv = true := by
  simp only [xret] at set
  split at set
  · cases hyp : cfg.rvh with
    | false => simpa [popMachine, hyp] using set
    | true =>
      simp only [popMachine, hyp, ↓reduceIte] at set
      split at set
      · exact set
      · cases set
  · split at set
    · split at set
      · exact set
      · cases hyp : cfg.rvh with
        | false => simpa [popSupervisor, hyp] using set
        | true => simp [popSupervisor, hyp] at set
    · split at set <;> exact set

/-- A return keeps the relation: `mret` lends nothing above user mode, and the others clear
`mprv` or go to a level that is high enough. -/
theorem bounded_of_returns (absent : cfg.rvu = false → s.mstatus.mprv = false)
    (presented : Presented s i) (keeps : Keeps s i) (returns : i.returns = true) :
    Bounded (step s i) := by
  obtain ⟨lends, level⟩ := entered_of_returns presented returns
  have leaves := keeps.returns
  have needsUser (set : (xret s i (entered s i)).mstatus.mprv = true) : cfg.rvu = true := by
    cases user : cfg.rvu with
    | true => rfl
    | false =>
      have still := xret_mprv set
      rw [lends, absent user] at still
      cases still
  suffices bounded : (xret s i (entered s i)).mstatus.mprv = true →
      (xret s i (entered s i)).mstatus.mpp.rank ≤ (xret s i (entered s i)).privLvl.rank by
    constructor
    · intro noUser
      apply Bool.eq_false_iff.2
      intro set
      rw [needsUser set] at noUser
      cases noUser
    · intro _ set
      exact bounded set
  intro set
  have user := needsUser set
  simp only [xret] at set ⊢
  cases fromMachine : i.mret with
  | true =>
    have lowest : (popMachine s (entered s i)).mstatus.mpp = .u := by
      cases hyp : cfg.rvh <;> simp [popMachine, user, hyp]
    rw [if_pos rfl, lowest]
    exact Nat.zero_le _
  | false =>
    simp only [fromMachine, Bool.false_eq_true, ↓reduceIte] at set ⊢
    cases fromSupervisor : i.sret with
    | true =>
      simp only [fromSupervisor, ↓reduceIte] at set ⊢
      simp only [leavesMprv, restoredLevel, fromSupervisor, Bool.true_and, ↓reduceIte,
        Bool.or_eq_true, Bool.not_eq_true'] at leaves
      cases hyp : cfg.rvh with
      | false =>
        simp only [hyp, Bool.false_and, Bool.false_eq_true, ↓reduceIte] at set leaves ⊢
        simp only [popSupervisor, hyp, Bool.false_eq_true, ↓reduceIte] at set ⊢
        rw [level user]
        rw [lends] at set
        exact leaves (Or.inr (Or.inl trivial)) set
      | true =>
        simp only [hyp, Bool.true_and] at set leaves ⊢
        cases guest : s.v with
        | false =>
          simp [guest, popSupervisor, hyp] at set
        | true =>
          simp only [guest, ↓reduceIte] at set leaves ⊢
          simp only [popVirtual] at set ⊢
          rw [level user]
          rw [lends] at set
          exact leaves (Or.inr (Or.inr trivial)) set
    | false =>
      have fromDebug : i.dret = true := by
        simpa [Input.returns, fromMachine, fromSupervisor] using returns
      simp only [fromSupervisor, fromDebug, Bool.false_eq_true, ↓reduceIte] at set ⊢
      simp only [leavesMprv, restoredLevel, fromDebug, fromSupervisor, Bool.true_or,
        Bool.false_eq_true, ↓reduceIte] at leaves
      simp only [leaveDebug] at set ⊢
      rw [level user]
      rw [lends] at set
      exact leaves trivial set

/-- Without a return the relation is kept by the write, the trap and the debug mode. -/
theorem bounded_of_stays (bounded : Bounded s) (keeps : Keeps s i) (stays : i.returns = false) :
    Bounded (step s i) := by
  have next : (step s i).mstatus = (entered s i).mstatus
      ∧ (step s i).privLvl = (entered s i).privLvl
      ∧ (step s i).debugMode = (entered s i).debugMode := by
    have same : update s i = entered s i := xret_of_not_returns s i stays
    rw [← same]
    exact ⟨rfl, rfl, rfl⟩
  have privilege : (entered s i).privLvl =
      if takesTrap s i then trapToPrivLvl s i else s.privLvl := by
    rw [entered, privLvl_debugEntry]
    have mode := congrArg Mode.privLvl (mode_trap s i (hardwired s i (written s i)))
    have same := congrArg Mode.privLvl (mode_written s i)
    simp only [State.mode] at mode same
    rw [mode]
    split
    · rfl
    · exact same
  constructor
  · intro noUser
    rw [next.1, entered_mprv]
    exact written_mprv noUser (bounded.absent noUser)
  · intro outside set
    rw [next.1] at set ⊢
    rw [next.2.1, privilege]
    have user : cfg.rvu = true := by
      cases user : cfg.rvu with
      | true => rfl
      | false =>
        rw [entered_mprv, written_mprv user (bounded.absent user)] at set
        cases set
    -- The debug mode is left by a return only.
    have before : s.inDebug = false := by
      simp only [State.inDebug, next.2.2, entered, debugMode_debugEntry] at outside ⊢
      have mode := congrArg Mode.debugMode (mode_trap s i (hardwired s i (written s i)))
      have same := congrArg Mode.debugMode (mode_written s i)
      simp only [State.mode] at mode same
      cases debug : cfg.debugEn with
      | false => rfl
      | true =>
        cases inside : s.debugMode with
        | false => rfl
        | true =>
          simp only [debug, inside, Bool.not_true, Bool.and_false, Bool.false_eq_true,
            ↓reduceIte, Bool.true_and] at outside
          rw [mode] at outside
          split at outside
          · rw [show (hardwired s i (written s i)).debugMode = true from same.trans inside]
              at outside
            cases outside
          · rw [show (hardwired s i (written s i)).debugMode = true from same.trans inside]
              at outside
            cases outside
    have current : s.privLvlO = s.privLvl := by simp [State.privLvlO, before]
    obtain toMachine | ⟨toSupervisor, supervisor, lower⟩ :=
      (trapToPrivLvl_cases : _ ∨ trapToPrivLvl s i = .s ∧ cfg.rvs = true ∧ s.privLvlO ≠ .m)
    · split
      · rw [toMachine]
        exact PrivLvl.rank_le_m _
      · next noTrap =>
        have level : (entered s i).mstatus.mpp = (written s i).next.mstatus.mpp := by
          rw [entered, mstatus_debugEntry, trap, if_neg noTrap, hardwired_mpp _ user]
        rw [entered_mprv] at set
        rw [level]
        obtain ⟨sameMprv, sameMpp⟩ | machineLevel := written_cases (i := i) user
        · rw [sameMprv] at set
          rw [sameMpp]
          exact bounded.bounded before set
        · rw [← current, machineLevel]
          exact PrivLvl.rank_le_m _
    · have level : (entered s i).mstatus.mpp = s.mstatus.mpp
          ∧ s.mstatus.mprv = true ∨ s.privLvlO = .m := by
        obtain ⟨sameMprv, sameMpp⟩ | machineLevel := written_cases (i := i) user
        · left
          rw [entered_mprv, sameMprv] at set
          rw [entered, mstatus_debugEntry, trap_mpp _ (fun _ => toSupervisor) supervisor,
            hardwired_mpp _ user, sameMpp]
          exact ⟨rfl, set⟩
        · exact Or.inr machineLevel
      obtain ⟨same, lends⟩ | machineLevel := level
      · rw [same]
        have below := bounded.bounded before lends
        split
        · next taken =>
          rw [toSupervisor]
          have notHs := keeps.delegates taken toSupervisor lends
          rw [current] at lower
          revert below notHs lower
          cases s.mstatus.mpp <;> cases s.privLvl <;> decide
        · exact below
      · exact absurd machineLevel lower

theorem bounded_step (bounded : Bounded s) (presented : Presented s i) (keeps : Keeps s i) :
    Bounded (step s i) := by
  cases returns : i.returns with
  | true => exact bounded_of_returns bounded.absent presented keeps returns
  | false => exact bounded_of_stays bounded keeps returns

/-! ## Runs -/

section Runs

variable (cfg) (pmpcfg : Nat → PmpCfg) (pmpaddr : Nat → BitVec (cfg.plen - 2))

theorem bounded_reset : Bounded (State.reset cfg pmpcfg pmpaddr) :=
  ⟨fun _ => rfl, fun _ set => by cases set⟩

/-- In a run whose returns and traps keep the relation, loads and stores outside of the debug
mode are never made at a level above the one of the hart. -/
theorem lends_no_privilege (inputs : List (Input cfg)) (i : Input cfg)
    (along : (machine cfg pmpcfg pmpaddr).RunAlong
      (fun s i => Presented s i ∧ Keeps s i) inputs)
    (outside : ((machine cfg pmpcfg pmpaddr).run inputs).inDebug = false)
    (ordinary : i.csrHsLdStInst = false) :
    (ldStPrivLvl ((machine cfg pmpcfg pmpaddr).run inputs) i).rank
      ≤ ((machine cfg pmpcfg pmpaddr).run inputs).privLvlO.rank := by
  have bounded : Bounded ((machine cfg pmpcfg pmpaddr).run inputs) :=
    (machine cfg pmpcfg pmpaddr).run_invariant_along Bounded
      (bounded_reset cfg pmpcfg pmpaddr)
      (fun _ _ before condition => bounded_step before condition.1 condition.2) along
  generalize (machine cfg pmpcfg pmpaddr).run inputs = s at outside bounded ⊢
  have current : s.privLvlO = s.privLvl := by simp [State.privLvlO, outside]
  have lent : s.mprv = s.mstatus.mprv := by simp [State.mprv, outside]
  rw [ldStPrivLvl, ordinary, lent, current]
  cases set : s.mstatus.mprv with
  | false => simp
  | true =>
    have below := bounded.bounded outside set
    (repeat' split) <;> first | exact below | exact Nat.le_refl _ | contradiction

end Runs

/-- Machine mode lends user mode to its loads and returns to user mode with `sret`. -/
theorem lends_no_privilege_runs :
    (ldStPrivLvl ((machine Cfg.sv39 (fun _ => PmpCfg.ofByte 0) 0).run
        [Input.write _ 0x300 0x20000, Input.operation _ .sret]) (Input.quiet _)).rank
      ≤ ((machine Cfg.sv39 (fun _ => PmpCfg.ofByte 0) 0).run
        [Input.write _ 0x300 0x20000, Input.operation _ .sret]).privLvlO.rank := by
  apply lends_no_privilege
  · decide +kernel
  · decide +kernel
  · rfl

/-- With `mprv` set and machine mode in `mpp`, `sret` leaves user mode the loads and stores of
machine mode. -/
theorem sret_lends_machine_mode :
    ∃ inputs : List (Input Cfg.sv39), ∃ i : Input Cfg.sv39,
      (machine Cfg.sv39 (fun _ => PmpCfg.ofByte 0) 0).RunAlong Presented inputs
        ∧ ((machine Cfg.sv39 (fun _ => PmpCfg.ofByte 0) 0).run inputs).inDebug = false
        ∧ i.csrHsLdStInst = false
        ∧ ((machine Cfg.sv39 (fun _ => PmpCfg.ofByte 0) 0).run inputs).privLvlO = .u
        ∧ ldStPrivLvl ((machine Cfg.sv39 (fun _ => PmpCfg.ofByte 0) 0).run inputs) i = .m := by
  refine ⟨[Input.write _ 0x300 0x21800, Input.operation _ .sret], Input.quiet _, ?_, ?_, rfl,
    ?_, ?_⟩ <;> decide +kernel

end Cva6Hpd.Csr
