import Cva6Hpd.Csr.Frames

/-!
# Trap and return

A trap pushes the level, the virtualization mode, the interrupt enable and the program counter
on the stack of the handler's mode, and the return of that mode pops them. Between the two the
hart runs on: what it does without a write, a trap, a return or an entry to the debug mode
leaves the stacks as they are. The supervisor's stacks keep one bit of the level, which is
enough for the levels of user and supervisor mode.
-/

namespace Cva6Hpd.Csr

open Cva6Hpd.Ariane (FuOp)

variable {cfg : Cfg} {s t : State cfg} {i : Input cfg}

/-! ## Quiet cycles -/

/-- The cycle enters the debug mode. -/
def entersDebug (s : State cfg) (i : Input cfg) : Bool :=
  cfg.debugEn && !s.debugMode && enteredDebug s i

/-- A cycle without a write, a trap, a return or an entry to the debug mode. -/
structure Idle (s : State cfg) (i : Input cfg) : Prop where
  noWrite : csrWe s i = false
  noTrap : takesTrap s i = false
  noReturn : i.returns = false
  noDebug : entersDebug s i = false

theorem idle_quiet (s : State cfg) : Idle s (Input.quiet cfg) where
  noWrite := by simp [csrWe, Input.isWrite, Input.quiet]
  noTrap := by simp [takesTrap, Input.quiet, Exception.none]
  noReturn := by simp [Input.returns, Input.mret, Input.sret, Input.dret, Input.quiet]
  noDebug := by
    simp [entersDebug, enteredDebug, entersOnStep, entersOnRequest, breakpoint, entersOnTrigger,
      Input.ack, Input.quiet, Exception.none]

/-! ## The stacks -/

/-- The mode and the three stacks. -/
structure Saved (cfg : Cfg) where
  mode : Mode
  mstatus : TrapFields
  spv : Bool
  vsstatus : TrapFields
  mepc : Word cfg
  sepc : Word cfg
  vsepc : Word cfg

def State.saved (s : State cfg) : Saved cfg :=
  ⟨s.mode, s.mstatus.trapFields, s.hstatus.spv, s.vsstatus.trapFields, s.machine.mepc,
    s.supervisor.sepc, s.virtualSupervisor.vsepc⟩

/-- Without user mode a cycle puts machine mode into `mpp`. -/
def Saved.settled (saved : Saved cfg) : Saved cfg :=
  { saved with
    mstatus := { saved.mstatus with mpp := if cfg.rvu then saved.mstatus.mpp else .m } }

theorem trapFields_hardwiredVsstatus (dirty : Bool) (m : Mstatus) :
    (hardwiredVsstatus s i dirty m).trapFields = m.trapFields := by
  rw [hardwiredVsstatus]
  split
  · exact Mstatus.trapFields_dirtyFs { m with uxl := 2 }
  · rfl

/-- Before a trap the stacks are those of the draft. -/
theorem saved_hardwired (d : Draft cfg) :
    (hardwired s i d).saved = d.next.saved.settled := by
  have spv : (hardwired s i d).hstatus.spv = d.next.hstatus.spv := by
    simp only [hardwired]
    split <;> rfl
  simp only [State.saved, Saved.settled, trapFields_hardwired, mode_hardwired, spv,
    Saved.mk.injEq, true_and]
  exact ⟨rfl, trapFields_hardwiredVsstatus _ _, rfl, rfl, rfl⟩

theorem saved_debugEntry {d : State cfg} (outside : entersDebug s i = false)
    (before : d.debugMode = s.debugMode) : (debugEntry s i d).saved = d.saved := by
  rw [debugEntry]
  split
  · next entering =>
    simp only [entersDebug, entering, Bool.true_and] at outside
    simp only [Bool.and_eq_true, Bool.not_eq_true'] at entering
    simp only [State.saved, State.mode, outside, before, entering.2]
  · rfl

/-- A quiet cycle leaves the stacks alone. -/
theorem saved_step_of_idle (idle : Idle s i) : (step s i).saved = s.saved.settled := by
  have drafted : (written s i).next.saved = s.saved := by
    rw [written_of_not_we idle.noWrite]
    rfl
  calc (step s i).saved
      = (update s i).saved := rfl
    _ = (debugEntry s i (hardwired s i (written s i))).saved := by
        rw [update, xret_of_not_returns s i idle.noReturn, trap, if_neg (by simp [idle.noTrap])]
    _ = (hardwired s i (written s i)).saved := by
        apply saved_debugEntry idle.noDebug
        exact (congrArg Mode.debugMode (mode_written s i))
    _ = s.saved.settled := by rw [saved_hardwired, drafted]

/-! ## The law -/

namespace Handler

/-- The interrupt enable of the handler's mode. -/
def enable (h : Handler) (s : State cfg) : Bool :=
  match h with
  | machine => s.mstatus.mie
  | supervisor => s.mstatus.sie
  | virtual => s.vsstatus.sie

/-- The return instruction of the handler's mode. -/
def returnOp : Handler → FuOp
  | machine => .mret
  | supervisor => .sret
  | virtual => .sret

/-- The level that the stack of the handler keeps of a level. -/
def kept (h : Handler) (level : PrivLvl) : PrivLvl :=
  match h with
  | machine => level
  | supervisor => PrivLvl.ofLow level.low
  | virtual => PrivLvl.ofLow level.low

end Handler

/-- A cycle outside of the debug mode that takes a trap and does not enter the debug mode. -/
structure Traps (s : State cfg) (i : Input cfg) : Prop where
  outside : s.inDebug = false
  taken : takesTrap s i = true
  noReturn : i.returns = false
  noDebug : entersDebug s i = false

/-- A cycle in which the handler returns. -/
structure Returns (h : Handler) (t : State cfg) (r : Input cfg) : Prop where
  op : r.csrOp = h.returnOp
  noTrap : takesTrap t r = false

/-- The return resumes the context of `s` at `pc`. -/
structure Resumes (h : Handler) (s : State cfg) (pc : BitVec cfg.vlen) (t : State cfg)
    (r : Input cfg) : Prop where
  privLvl : (step t r).privLvl = s.privLvl
  v : cfg.rvh = true → (step t r).v = s.v
  enable : h.enable (step t r) = h.enable s
  pc : epc t r = pc

/-- The register file by itself. -/
abbrev regfile (cfg : Cfg) : Hw.Machine (State cfg) (Input cfg) :=
  machine cfg (fun _ => PmpCfg.ofByte 0) 0

/-- The trap goes upwards, to a virtualized mode from one only, and the return of the handler
after any quiet cycles resumes the interrupted context. -/
structure RoundTrips (s : State cfg) (i : Input cfg) : Prop where
  upwards : s.privLvl.rank ≤ (step s i).privLvl.rank
  virtualized : cfg.rvh = true → (step s i).v = true → s.v = true
  resumes : ∀ idles r, (regfile cfg).Along Idle (step s i) idles →
    Returns (handler s i) ((regfile cfg).runFrom (step s i) idles) r →
    Resumes (handler s i) s i.pc ((regfile cfg).runFrom (step s i) idles) r

/-! ## What a stack holds -/

/-- The stack of a handler holds the context of `s` at `pc`. -/
structure Holds (h : Handler) (s : State cfg) (pc : BitVec cfg.vlen) (x : Saved cfg) : Prop where
  machine : h = .machine →
    x.mstatus.mpie = s.mstatus.mie ∧ x.mstatus.mpp = s.privLvl
      ∧ (cfg.rvh = true → x.mstatus.mpv = s.v) ∧ x.mepc = signExtended cfg pc
  supervisor : h = .supervisor →
    (cfg.rvh = true → x.mode.v = false) ∧ x.mstatus.spie = s.mstatus.sie
      ∧ x.mstatus.spp = s.privLvl.low ∧ (cfg.rvh = true → x.spv = s.v)
      ∧ x.sepc = signExtended cfg pc
  virtual : h = .virtual →
    cfg.rvh = true ∧ x.mode.v = true ∧ s.v = true ∧ x.vsstatus.spie = s.vsstatus.sie
      ∧ x.vsstatus.spp = s.privLvl.low ∧ x.vsepc = signExtended cfg pc

/-- The state after a trap, up to the debug registers. -/
theorem saved_step_of_traps (traps : Traps s i) :
    (step s i).saved = (trap s i (hardwired s i (written s i))).saved := by
  have mode := congrArg Mode.debugMode (mode_trap s i (hardwired s i (written s i)))
  have same := congrArg Mode.debugMode (mode_written s i)
  rw [if_pos traps.taken] at mode
  calc (step s i).saved
      = (update s i).saved := rfl
    _ = (debugEntry s i (trap s i (hardwired s i (written s i)))).saved := by
        rw [update, xret_of_not_returns s i traps.noReturn]
    _ = _ := saved_debugEntry traps.noDebug (mode.trans same)

theorem handler_cases :
    handler s i = .machine ∧ trapToPrivLvl s i = .m
      ∨ handler s i = .supervisor ∧ trapToPrivLvl s i = .s ∧ cfg.rvs = true
        ∧ (cfg.rvh = true → trapToV s i = false)
      ∨ handler s i = .virtual ∧ trapToPrivLvl s i = .s ∧ cfg.rvs = true ∧ cfg.rvh = true
        ∧ trapToV s i = true := by
  obtain level | ⟨level, supervisor, -⟩ := trapToPrivLvl_cases (s := s) (i := i)
  · left
    simp [handler, level]
  · right
    cases virtual : cfg.rvh && trapToV s i with
    | true =>
      right
      simp only [Bool.and_eq_true] at virtual
      simp [handler, level, supervisor, virtual.1, virtual.2]
    | false =>
      left
      refine ⟨by simp [handler, level, supervisor, virtual], level, supervisor, ?_⟩
      intro hyp
      simpa [hyp] using virtual

theorem v_of_trapToV (virtual : trapToV s i = true) : s.v = true := by
  simp only [trapToV, Bool.and_eq_true] at virtual
  exact virtual.2

theorem holds_of_traps (traps : Traps s i) :
    Holds (handler s i) s i.pc (step s i).saved := by
  rw [saved_step_of_traps traps, trap, if_pos traps.taken]
  obtain ⟨h, -⟩ | ⟨h, -, -, guest⟩ | ⟨h, -, -, hyp, guest⟩ := handler_cases (s := s) (i := i)
  · rw [h]
    refine ⟨fun _ => ⟨rfl, rfl, fun hyp => ?_, rfl⟩, by simp, by simp⟩
    simp [State.saved, push, pushMachine, pushedMstatus, Mstatus.trapFields, hyp]
  · rw [h]
    refine ⟨by simp, fun _ => ⟨fun hyp => ?_, rfl, rfl, fun hyp => ?_, rfl⟩, by simp⟩
    · simp [State.saved, State.mode, hyp, guest hyp]
    · simp [State.saved, push, pushSupervisor, pushedHstatus, hyp]
  · rw [h]
    refine ⟨by simp, by simp, fun _ => ⟨hyp, ?_, v_of_trapToV guest, rfl, rfl, rfl⟩⟩
    simp [State.saved, State.mode, hyp, guest]

/-- The stack of machine mode keeps its level over a quiet cycle. -/
def Settles (h : Handler) (s : State cfg) : Prop :=
  h = .machine → cfg.rvu = true ∨ s.privLvl = .m

theorem Holds.settled {h : Handler} {pc : BitVec cfg.vlen} {x : Saved cfg}
    (holds : Holds h s pc x) (settles : Settles h s) : Holds h s pc x.settled := by
  constructor
  · intro toMachine
    obtain ⟨enable, level, virtual, pc⟩ := holds.machine toMachine
    refine ⟨enable, ?_, virtual, pc⟩
    obtain user | machine := settles toMachine
    · simpa [Saved.settled, user] using level
    · simp only [Saved.settled]
      split
      · exact level
      · exact machine.symm
  · exact holds.supervisor
  · exact holds.virtual

/-- Quiet cycles keep the stack. -/
theorem Holds.runFrom {h : Handler} {pc : BitVec cfg.vlen} {idles : List (Input cfg)}
    (holds : Holds h s pc t.saved) (settles : Settles h s)
    (along : (regfile cfg).Along Idle t idles) :
    Holds h s pc ((regfile cfg).runFrom t idles).saved := by
  apply (regfile cfg).runFrom_invariant (fun t => Holds h s pc t.saved) _ holds along
  intro u j held idle
  change Holds h s pc (step u j).saved
  rw [saved_step_of_idle idle]
  exact held.settled settles

/-! ## The return -/

/-- The address register gives the program counter back. -/
theorem setWidth_signExtended (pc : BitVec cfg.vlen) :
    (signExtended cfg pc).setWidth cfg.vlen = pc := by
  apply BitVec.eq_of_getLsbD_eq
  intro k within
  have wide := Nat.lt_of_lt_of_le within cfg.vlen_le_xlen
  simp only [signExtended, BitVec.getLsbD_setWidth, BitVec.getLsbD_signExtend, within, wide,
    decide_true, Bool.true_and, ↓reduceIte]

/-- A quiet return goes on from the mode of the state. -/
theorem v_entered {r : Input cfg} (noTrap : takesTrap t r = false) :
    (debugEntry t r (trap t r (hardwired t r (written t r)))).v = t.v := by
  rw [v_debugEntry, trap, if_neg (by simp [noTrap])]
  exact congrArg Mode.v (mode_written t r)

theorem Holds.resumes {h : Handler} {pc : BitVec cfg.vlen} {r : Input cfg}
    (holds : Holds h s pc t.saved) (returns : Returns h t r)
    (supervisor : h ≠ .machine → cfg.rvs = true) (fits : h.kept s.privLvl = s.privLvl) :
    Resumes h s pc t r := by
  have op := returns.op
  cases h with
  | machine =>
    obtain ⟨enable, level, virtual, saved⟩ := holds.machine rfl
    simp only [Handler.returnOp] at op
    have from_ : update t r =
        popMachine t (debugEntry t r (trap t r (hardwired t r (written t r)))) := by
      simp [update, xret, Input.mret, op]
    constructor
    · change (update t r).privLvl = _
      rw [from_]
      exact level
    · intro hyp
      change (update t r).v = _
      rw [from_]
      simp only [popMachine, hyp, ↓reduceIte]
      exact virtual hyp
    · change (update t r).mstatus.mie = _
      rw [from_]
      cases hyp : cfg.rvh <;> simp only [popMachine, hyp] <;> exact enable
    · have saved' : t.machine.mepc = signExtended cfg pc := saved
      simp [epc, Input.dret, Input.sret, op, saved', setWidth_signExtended]
  | supervisor =>
    obtain ⟨host, enable, level, virtual, saved⟩ := holds.supervisor rfl
    simp only [Handler.returnOp] at op
    have sup := supervisor (by decide)
    have notGuest : (cfg.rvh && t.v) = false := by
      cases hyp : cfg.rvh with
      | false => rfl
      | true => exact host hyp
    have from_ : update t r =
        popSupervisor t (debugEntry t r (trap t r (hardwired t r (written t r)))) := by
      simp [update, xret, Input.mret, Input.sret, op, sup, notGuest]
    constructor
    · change (update t r).privLvl = _
      rw [from_]
      exact (congrArg PrivLvl.ofLow level).trans fits
    · intro hyp
      change (update t r).v = _
      rw [from_]
      simp only [popSupervisor, hyp, ↓reduceIte]
      exact virtual hyp
    · change (update t r).mstatus.sie = _
      rw [from_]
      cases hyp : cfg.rvh <;> simp only [popSupervisor, hyp] <;> exact enable
    · have saved' : t.supervisor.sepc = signExtended cfg pc := saved
      simp [epc, Input.dret, Input.sret, op, sup, notGuest, saved', setWidth_signExtended]
  | virtual =>
    obtain ⟨hyp, guest, virtual, enable, level, saved⟩ := holds.virtual rfl
    simp only [Handler.returnOp] at op
    have sup := supervisor (by decide)
    have isGuest : t.v = true := guest
    have from_ : update t r =
        popVirtual t (debugEntry t r (trap t r (hardwired t r (written t r)))) := by
      simp [update, xret, Input.mret, Input.sret, op, sup, hyp, isGuest]
    constructor
    · change (update t r).privLvl = _
      rw [from_]
      exact (congrArg PrivLvl.ofLow level).trans fits
    · intro _
      change (update t r).v = _
      rw [from_, virtual]
      exact (v_entered returns.noTrap).trans isGuest
    · change (update t r).vsstatus.sie = _
      rw [from_]
      exact enable
    · have saved' : t.virtualSupervisor.vsepc = signExtended cfg pc := saved
      simp [epc, Input.dret, Input.sret, op, sup, hyp, isGuest, saved', setWidth_signExtended]

/-! ## When the law holds -/

/-- A trap to the supervisor comes from its own level or from user mode. -/
def FromBelow (s : State cfg) (i : Input cfg) : Prop :=
  handler s i ≠ .machine → s.privLvl ≠ .hs

theorem mode_step_of_traps (traps : Traps s i) :
    (step s i).privLvl = trapToPrivLvl s i
      ∧ (cfg.rvh = true → (step s i).v = trapToV s i) := by
  have mode : (step s i).mode = (trap s i (hardwired s i (written s i))).mode :=
    congrArg Saved.mode (saved_step_of_traps traps)
  rw [mode_trap, if_pos traps.taken] at mode
  constructor
  · exact congrArg Mode.privLvl mode
  · intro hyp
    have virtual := congrArg Mode.v mode
    simp only [hyp, ↓reduceIte] at virtual
    exact virtual

theorem level_of_delegated (delegates : handler s i ≠ .machine) :
    trapToPrivLvl s i = .s ∧ cfg.rvs = true := by
  obtain ⟨h, -⟩ | ⟨-, level, supervisor, -⟩ | ⟨-, level, supervisor, -⟩ :=
    handler_cases (s := s) (i := i)
  · exact absurd h delegates
  · exact ⟨level, supervisor⟩
  · exact ⟨level, supervisor⟩

theorem handler_machine_or (s : State cfg) (i : Input cfg) :
    (handler s i = .machine ∧ trapToPrivLvl s i = .m) ∨ handler s i ≠ .machine := by
  obtain both | ⟨h, -⟩ | ⟨h, -⟩ := handler_cases (s := s) (i := i)
  · exact Or.inl both
  · exact Or.inr (by rw [h]; decide)
  · exact Or.inr (by rw [h]; decide)

/-- A level below machine mode and not `HS` is one that the supervisor's stacks keep. -/
theorem kept_of_delegated (traps : Traps s i) (delegates : handler s i ≠ .machine)
    (notHs : s.privLvl ≠ .hs) :
    s.privLvl.rank ≤ PrivLvl.s.rank ∧ (handler s i).kept s.privLvl = s.privLvl := by
  have current : s.privLvlO = s.privLvl := by simp [State.privLvlO, traps.outside]
  have lower : s.privLvl ≠ .m := by
    obtain toMachine | ⟨-, -, lower⟩ := trapToPrivLvl_cases (s := s) (i := i)
    · rw [(level_of_delegated delegates).1] at toMachine
      cases toMachine
    · rw [← current]
      exact lower
  revert delegates lower notHs
  cases handler s i <;> cases s.privLvl <;> decide

theorem returns_after_quiet (toMachine : handler s i = .machine) :
    Returns (handler s i) ((regfile cfg).runFrom (step s i) [Input.quiet cfg])
      (Input.operation cfg .mret) where
  op := by rw [toMachine]; rfl
  noTrap := by simp [takesTrap, Input.operation, Input.quiet, Exception.none]

/-- A trap and the return of its handler form a round trip exactly when a trap to a supervisor
does not come from the reserved level `HS`, and a trap to machine mode in a core without user
mode comes from machine mode. -/
theorem roundTrips_iff (traps : Traps s i) :
    RoundTrips s i ↔ FromBelow s i ∧ Settles (handler s i) s := by
  obtain ⟨level, virtual⟩ := mode_step_of_traps traps
  constructor
  · intro trips
    constructor
    · intro delegates reserved
      have upwards := trips.upwards
      rw [level, reserved] at upwards
      rw [(level_of_delegated delegates).1] at upwards
      revert upwards
      decide
    · intro toMachine
      cases user : cfg.rvu with
      | true => exact Or.inl rfl
      | false =>
        right
        have resumes := trips.resumes [Input.quiet cfg] _ ⟨idle_quiet _, trivial⟩
          (returns_after_quiet toMachine)
        have popped := resumes.privLvl
        have settled : ((regfile cfg).runFrom (step s i) [Input.quiet cfg]).mstatus.mpp = .m := by
          have saved := saved_step_of_idle (idle_quiet (step s i))
          have mpp := congrArg (fun x => x.mstatus.mpp) saved
          simp only [Saved.settled, user, Bool.false_eq_true, ↓reduceIte] at mpp
          exact mpp
        rw [← popped, ← settled]
        rfl
  · rintro ⟨below, settles⟩
    constructor
    · rw [level]
      obtain ⟨-, toMachine⟩ | delegates := handler_machine_or s i
      · rw [toMachine]
        exact PrivLvl.rank_le_m _
      · rw [(level_of_delegated delegates).1]
        exact (kept_of_delegated traps delegates (below delegates)).1
    · intro hyp guest
      rw [virtual hyp] at guest
      exact v_of_trapToV guest
    · intro idles r along returns
      apply ((holds_of_traps traps).runFrom settles along).resumes returns
      · exact fun delegates => (level_of_delegated delegates).2
      · obtain ⟨h, -⟩ | delegates := handler_machine_or s i
        · rw [h]
          rfl
        · exact (kept_of_delegated traps delegates (below delegates)).2

instance : Decidable (Traps s i) :=
  decidable_of_iff
    (s.inDebug = false ∧ takesTrap s i = true ∧ i.returns = false ∧ entersDebug s i = false)
    ⟨fun all => ⟨all.1, all.2.1, all.2.2.1, all.2.2.2⟩,
      fun traps => ⟨traps.outside, traps.taken, traps.noReturn, traps.noDebug⟩⟩

/-- The environment call of user mode, delegated to the supervisor: `medeleg` is written, and
`mret` goes to user mode. -/
theorem roundTrips_ecall :
    RoundTrips
      ((regfile Cfg.sv39).run
        [Input.write _ 0x302 0x100, Input.operation _ .mret])
      (Input.raise _ Cause.envCallUmode) :=
  (roundTrips_iff (by decide +kernel)).2
    ⟨fun _ => by decide +kernel, fun _ => Or.inl rfl⟩

/-- With the hypervisor extension `mpp` takes on the reserved level `HS`, and `mret` goes
there; a delegated exception then goes down to the supervisor. -/
theorem not_roundTrips_reserved :
    ∃ inputs : List (Input Cfg.hypervisor), ∃ i : Input Cfg.hypervisor,
      (regfile Cfg.hypervisor).RunAlong Presented inputs
        ∧ Traps ((regfile Cfg.hypervisor).run inputs) i
        ∧ ¬RoundTrips ((regfile Cfg.hypervisor).run inputs) i := by
  refine ⟨[Input.write _ 0x302 0x4, Input.write _ 0x300 0x1000, Input.operation _ .mret],
    Input.raise _ Cause.illegalInstr, by decide +kernel, by decide +kernel, ?_⟩
  intro trips
  exact absurd trips.upwards (by decide +kernel)

end Cva6Hpd.Csr
