import Cva6Hpd.Execute.WriteBack

/-!
# The operands of a fence

An `SFENCE.VMA` or `HFENCE` leaves its operands in registers of `ex_stage` when it is issued,
and they go to the translation buffers when it commits. The registers follow the operands that
are read in every cycle and stop at the first fence. They follow those of one issue port, which
is chosen by what the ports issued in the cycle before.
-/

namespace Cva6Hpd.Execute.Fence

open Cva6Hpd.Ariane
open Cva6Hpd.Hw

/-- The parameters of the fences. -/
structure Cfg extends toIssue : Issue.Cfg where
  rvh : Bool
  asidWidth : Nat
  vmidWidth : Nat
  gplen : Nat

/-- What a fence flushes: `vaddr_to_be_flushed` and the other registers. -/
structure Operands (cfg : Cfg) where
  vaddr : BitVec cfg.vlen
  asid : BitVec cfg.asidWidth
  vmid : BitVec cfg.vmidWidth
  gpaddr : BitVec cfg.gplen
deriving DecidableEq

variable {cfg : Cfg}

namespace Operands

def zero : Operands cfg := ⟨0, 0, 0, 0⟩

/-- The operands of a fence, of its two source registers. -/
def of (rs1 rs2 : BitVec cfg.xlen) : Operands cfg where
  vaddr := rs1.setWidth cfg.vlen
  asid := (rs2.setWidth cfg.vlen).setWidth cfg.asidWidth
  vmid := if cfg.rvh then (rs2.setWidth cfg.vlen).setWidth cfg.vmidWidth else 0
  gpaddr := if cfg.rvh then (rs1.setWidth cfg.vlen).setWidth cfg.gplen <<< 2 else 0

end Operands

/-- The operations whose operands are kept. -/
def isFence (cfg : Cfg) (op : FuOp) : Bool :=
  op = .sfenceVma || (cfg.rvh && (op = .hfenceVvma || op = .hfenceGvma))

/-! ## State -/

structure State (cfg : Cfg) where
  exec : Execute.State cfg.toIssue
  isSfenceVma : Bool
  isHfenceVvma : Bool
  isHfenceGvma : Bool
  toBeFlushed : Operands cfg

/-- The inputs of a cycle, with the values of the source registers of the instruction at the
first port in the state that the older instructions leave. -/
structure Input (cfg : Cfg) where
  exec : Execute.Input cfg.toIssue
  v : Bool
  rs1 : BitVec cfg.xlen
  rs2 : BitVec cfg.xlen

def reset : State cfg where
  exec := Execute.reset
  isSfenceVma := false
  isHfenceVvma := false
  isHfenceGvma := false
  toBeFlushed := .zero

section Step

variable (s : State cfg) (i : Input cfg)

/-- `one_cycle_select[1]` of a superscalar core. -/
def selectsSecond : Bool := cfg.superscalarEn && oneCycleSelect s.exec 1

/-- `rs1_forwarding` and `rs2_forwarding`, which are read before the issue registers. -/
def forwarded : Operands cfg :=
  let port : Fin 2 := if selectsSecond s then 1 else 0
  Operands.of (i.exec.operandA port) (i.exec.operandB port)

/-- The operation at the first issue register, if one of the CSR unit starts. -/
def starting (op : FuOp) : Bool := any s.exec.csrValidQ && (s.exec.fuDataQ 0).operation = op

/-- The registers stop: a fence starts, or has started before. -/
def stops : Bool :=
  s.isSfenceVma || (cfg.rvh && (s.isHfenceVvma || s.isHfenceGvma))
    || (any s.exec.csrValidQ && isFence cfg (s.exec.fuDataQ 0).operation)

/-- `current_instruction_is_sfence_vma`. -/
def nextSfenceVma : Bool :=
  if i.exec.flush then false
  else s.isSfenceVma || (starting s .sfenceVma && !(cfg.rvh && i.v))

/-- `current_instruction_is_hfence_vvma`. -/
def nextHfenceVvma : Bool :=
  if i.exec.flush || !cfg.rvh then false
  else s.isHfenceVvma || (starting s .sfenceVma && i.v) || starting s .hfenceVvma

/-- `current_instruction_is_hfence_gvma`. -/
def nextHfenceGvma : Bool :=
  if i.exec.flush || !cfg.rvh then false else s.isHfenceGvma || starting s .hfenceGvma

def step : State cfg where
  exec := Execute.step s.exec i.exec
  isSfenceVma := nextSfenceVma s i
  isHfenceVvma := nextHfenceVvma s i
  isHfenceGvma := nextHfenceGvma s i
  toBeFlushed := if stops s then s.toBeFlushed else forwarded s i

/-- A fence is issued in this cycle. -/
def issuesFence : Bool :=
  startsIn s.exec i.exec .csr 0 && isFence cfg (i.exec.ports.instr 0).instr.op

end Step

def machine (cfg : Cfg) : Machine (State cfg) (Input cfg) where
  reset := reset
  step := step

/-! ## The law -/

/-- The source registers of the oldest fence since the last flush. The instructions commit in
order and a fence flushes as it commits, so it is the fence that commits next. -/
def oldest (s : State cfg) (i : Input cfg) (fence : Option (Operands cfg)) :
    Option (Operands cfg) :=
  if i.exec.flush then none
  else
    match fence with
    | some operands => some operands
    | none =>
      if issuesFence s i then some (Operands.of i.rs1 i.rs2) else none

/-- The fence unit with the operands of the fence that commits next. -/
def recorded (cfg : Cfg) : Machine (State cfg × Option (Operands cfg)) (Input cfg) :=
  (machine cfg).withHistory none oldest

/-- The registers hold the operands of the fence in flight. -/
def Captured (s : State cfg) (fence : Option (Operands cfg)) : Prop :=
  ∀ operands, fence = some operands → s.toBeFlushed = operands

/-- The controller flushes the issue stage with the units. -/
def Controlled (i : Input cfg) : Prop := i.exec.flush = true → i.exec.flushUnissued = true

/-- The first fence is issued in this cycle. -/
def First (s : State cfg) (i : Input cfg) (fence : Option (Operands cfg)) : Prop :=
  i.exec.flush = false ∧ fence = none ∧ issuesFence s i = true

/-- The operands that are read for the first fence are those of its source registers. -/
def Reads (s : State cfg) (i : Input cfg) (fence : Option (Operands cfg)) : Prop :=
  First s i fence →
    Operands.of (i.exec.operandA 0) (i.exec.operandB 0) = (Operands.of i.rs1 i.rs2 : Operands cfg)

/-- When the first fence is issued, no instruction with a latency of one cycle was issued at the
second port in the cycle before, or the second port has the same operands. -/
def Aligned (s : State cfg) (i : Input cfg) (fence : Option (Operands cfg)) : Prop :=
  First s i fence → selectsSecond s = true →
    Operands.of (i.exec.operandA 1) (i.exec.operandB 1) =
      (Operands.of (i.exec.operandA 0) (i.exec.operandB 0) : Operands cfg)

/-! ## The invariant -/

/-- Without a fence in flight the registers follow the operands; with one they hold its
operands and have stopped. -/
structure Holds (s : State cfg) (fence : Option (Operands cfg)) : Prop where
  follows : fence = none → stops s = false
  stopped : ∀ operands, fence = some operands → stops s = true ∧ s.toBeFlushed = operands

variable {s : State cfg} {i : Input cfg} {fence : Option (Operands cfg)}

theorem not_startsIn_csr_second {cfg : Issue.Cfg} {s : Execute.State cfg}
    {i : Execute.Input cfg} : startsIn s i .csr 1 = false := by
  cases csr : decide ((i.ports.instr 1).fu = .csr) with
  | false => simp only [startsIn, csr, Bool.and_false, Bool.false_and]
  | true =>
    rw [decide_eq_true_eq] at csr
    have busy : (Issue.secondFusBusy i.ports.instr (status s i)).csr = true := by
      simp only [Issue.secondFusBusy]
      (repeat' split) <;> rfl
    have stalls : Issue.fuBusy i.ports.instr (status s i) 1 = true := by
      simp only [Issue.fuBusy, csr]
      exact busy
    have waits : Issue.issueAck i.ports (status s i) 1 = false := by
      simp only [Issue.issueAck, stalls, Bool.not_true, Bool.and_false, Bool.false_and]
    have none : Issue.issueAckO i.ports (status s i) 1 = false := by
      simp [Issue.issueAckO, waits]
    simp [startsIn, starts, Issue.issues, none]

theorem stops_step : stops (step s i) = ((!i.exec.flush && stops s) || issuesFence s i) := by
  have issued : (any (step s i).exec.csrValidQ
      && isFence cfg ((step s i).exec.fuDataQ 0).operation) = issuesFence s i := by
    have first : any (step s i).exec.csrValidQ = startsIn s.exec i.exec .csr 0 := by
      change (startsIn s.exec i.exec .csr 0 || startsIn s.exec i.exec .csr 1) = _
      rw [not_startsIn_csr_second, Bool.or_false]
    rw [first]
    rfl
  rw [stops, issued]
  simp only [step, nextSfenceVma, nextHfenceVvma, nextHfenceGvma, stops, starting, isFence]
  cases i.exec.flush <;> cases cfg.rvh <;> cases i.v <;> grind

theorem not_issuesFence_of_flush (controlled : Controlled i) (flush : i.exec.flush = true) :
    issuesFence s i = false := by
  simp [issuesFence, startsIn, starts, controlled flush]

/-- One cycle keeps the operands of the fence in flight. -/
theorem Holds.step (holds : Holds s fence) (controlled : Controlled i)
    (reads : Reads s i fence) (aligned : Aligned s i fence) :
    Holds (Fence.step s i) (oldest s i fence) := by
  have stops_ := stops_step (s := s) (i := i)
  cases flush : i.exec.flush with
  | true =>
    have none : oldest s i fence = none := by simp [oldest, flush]
    rw [not_issuesFence_of_flush controlled flush] at stops_
    rw [none]
    exact ⟨fun _ => by simpa [flush] using stops_, nofun⟩
  | false =>
    simp only [flush, Bool.not_false, Bool.true_and] at stops_
    cases fence with
    | some operands =>
      obtain ⟨stopped, same⟩ := holds.stopped operands rfl
      have still : oldest s i (some operands) = some operands := by simp [oldest, flush]
      have kept : (Fence.step s i).toBeFlushed = s.toBeFlushed := by
        simp [Fence.step, stopped]
      rw [still]
      refine ⟨nofun, ?_⟩
      rintro _ ⟨⟩
      exact ⟨by rw [stops_, stopped, Bool.true_or], kept.trans same⟩
    | none =>
      have follows := holds.follows rfl
      cases issues : issuesFence s i with
      | false =>
        have none : oldest s i none = none := by simp [oldest, flush, issues]
        rw [none]
        exact ⟨fun _ => by rw [stops_, follows, issues, Bool.or_false], nofun⟩
      | true =>
        have first : oldest s i none = some (Operands.of i.rs1 i.rs2) := by
          simp [oldest, flush, issues]
        have isFirst : First s i none := ⟨flush, rfl, issues⟩
        have captured : (Fence.step s i).toBeFlushed = forwarded s i := by
          simp [Fence.step, follows]
        rw [first]
        refine ⟨nofun, ?_⟩
        rintro _ ⟨⟩
        refine ⟨by rw [stops_, issues, Bool.or_true], captured.trans ?_⟩
        cases second : selectsSecond s with
        | false =>
          simp only [forwarded, second, Bool.false_eq_true, ↓reduceIte]
          exact reads isFirst
        | true =>
          simp only [forwarded, second, ↓reduceIte]
          exact (aligned isFirst second).trans (reads isFirst)

/-- In a run in which a fence reads its source registers, and the second port does not stand in
for the first one when it is issued, the translation buffers are given the operands of the
fence. -/
theorem captured_of_aligned {inputs : List (Input cfg)}
    (along : (recorded cfg).RunAlong
      (fun state i => Controlled i ∧ Reads state.1 i state.2 ∧ Aligned state.1 i state.2) inputs) :
    Captured ((recorded cfg).run inputs).1 ((recorded cfg).run inputs).2 := by
  have holds := (recorded cfg).run_invariant_along (fun state => Holds state.1 state.2)
    ⟨fun _ => by simp [recorded, Machine.withHistory, machine, stops, reset, Execute.reset, any],
      nofun⟩
    (fun _ _ holds cycle => holds.step cycle.1 cycle.2.1 cycle.2.2) along
  exact fun operands inFlight => (holds.stopped operands inFlight).2

/-! ## Runs -/

/-- A superscalar core with the hypervisor extension. -/
def Cfg.sample : Cfg where
  toIssue := Issue.Cfg.sample
  rvh := true
  asidWidth := 16
  vmidWidth := 14
  gplen := 41

instance decidableControlled (i : Input cfg) : Decidable (Controlled i) := by
  unfold Controlled
  infer_instance

instance decidableFirst (s : State cfg) (i : Input cfg) (fence : Option (Operands cfg)) :
    Decidable (First s i fence) := by
  unfold First
  infer_instance

instance decidableReads (s : State cfg) (i : Input cfg) (fence : Option (Operands cfg)) :
    Decidable (Reads s i fence) := by
  unfold Reads
  infer_instance

instance decidableAligned (s : State cfg) (i : Input cfg) (fence : Option (Operands cfg)) :
    Decidable (Aligned s i fence) := by
  unfold Aligned
  infer_instance

/-- An `SFENCE.VMA` at the first port, with different operands read at the second one. -/
def fenceCycle : Input Cfg.sample where
  exec :=
    { Execute.Input.idle.offer (sampleEntry 2 .csr .sfenceVma) (sampleEntry 3 .load .ld) with
      operandA := fun port => if port = 0 then 0x1000 else 0x2000
      operandB := fun port => if port = 0 then 5 else 6 }
  v := false
  rs1 := 0x1000
  rs2 := 5

/-- Two instructions are issued, the second one at the second port. -/
def pairCycle (second : Issue.Entry Issue.Cfg.sample) : Input Cfg.sample where
  exec := Execute.Input.idle.offer (sampleEntry 0 .alu .add) second
  v := false
  rs1 := 0
  rs2 := 0

/-- Behind a load at the second port the operands are those of the fence. -/
theorem captured_behind_load :
    Captured ((recorded Cfg.sample).run [pairCycle (sampleEntry 1 .load .ld), fenceCycle]).1
      ((recorded Cfg.sample).run [pairCycle (sampleEntry 1 .load .ld), fenceCycle]).2 :=
  captured_of_aligned (by decide +kernel)

/-- Behind a jump at the second port the operands are those that the second port reads. -/
theorem not_captured_behind_jump :
    ∃ inputs, (recorded Cfg.sample).RunAlong
        (fun state i => Controlled i ∧ Reads state.1 i state.2) inputs
      ∧ ¬Captured ((recorded Cfg.sample).run inputs).1 ((recorded Cfg.sample).run inputs).2 := by
  refine ⟨[pairCycle (sampleEntry 1 .ctrlFlow .add), fenceCycle], by decide +kernel, ?_⟩
  intro captured
  have same := captured (Operands.of 0x1000 5) (by decide +kernel)
  exact absurd same (by decide +kernel)

end Cva6Hpd.Execute.Fence
