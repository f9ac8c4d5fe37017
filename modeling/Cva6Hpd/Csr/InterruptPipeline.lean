import Cva6Hpd.Csr.Interrupts

/-!
# Interrupts in the pipeline

The instructions between the decoder and the commit stage form a queue. The decoder attaches an
interrupt to a new instruction from the registers of its cycle; the commit stage takes it once
the instruction is the oldest one. In between the older instructions commit, and those that
flush the pipeline take the younger ones with them. How long an instruction stays, how many
retire at once and what else kills younger instructions is left to the inputs.
-/

namespace Cva6Hpd.Csr

open Cva6Hpd.Ariane (FuOp)

variable {cfg : Cfg}

/-! ## Instructions -/

/-- What the decoder makes of an instruction by itself: the operation for the register file
(`ADD` for the other units), and the exception of the fetch or of the instruction. -/
structure Fetched (cfg : Cfg) where
  op : FuOp
  csrAddr : BitVec 12
  operand : Word cfg
  ex : Exception cfg
  fetchFailed : Bool

/-- A decoded instruction, with the interrupt attached to it and the line of the external
interrupt controller in that cycle. -/
structure Decoded (cfg : Cfg) where
  instr : Fetched cfg
  interrupt : Option Interrupt
  line : Bool
  request : Bool

/-- `instruction_o.ex`: a debug request comes before an interrupt, and an interrupt before the
exception of the instruction. -/
def Decoded.ex (d : Decoded cfg) : Exception cfg :=
  if d.request then
    { d.instr.ex with cause := BitVec.ofNat cfg.xlen Cause.debugRequest, valid := true }
  else
    match d.interrupt with
    | some k => { d.instr.ex with cause := k.cause cfg, valid := true }
    | none => d.instr.ex

/-! ## The pipeline -/

/-- The register file, and the decoded instructions from the oldest one on. -/
structure Pipeline (cfg : Cfg) where
  csr : State cfg
  inFlight : List (Decoded cfg)

/-- The inputs of a cycle: the lines of the register file, whether the oldest instruction can
commit and whether the second one with it, how many instructions a mispredicted branch or
another flush leaves, the instructions that the decoder sees, and its trigger. -/
structure Cycle (cfg : Cfg) where
  lines : Input cfg
  presents : Bool
  pairs : Bool
  spared : Nat
  fetched : List (Fetched cfg)
  trigger : Bool

section Pipeline

variable (t : Pipeline cfg) (c : Cycle cfg)

/-- The decoder. -/
def decode (f : Fetched cfg) : Decoded cfg where
  instr := f
  interrupt := if f.fetchFailed then none else attached t.csr c.lines.irqS
  line := c.lines.irqS
  request := cfg.debugEn && !t.csr.debugMode && (c.lines.debugReq || (cfg.sdtrig && c.trigger))

/-- The instruction that the commit stage considers. -/
def considered : Option (Decoded cfg) := if c.presents then t.inFlight.head? else none

/-- The exception of the trigger module, in a core without debug mode. -/
def withTrigger (ex : Exception cfg) : Exception cfg :=
  if cfg.sdtrig && !cfg.debugEn && c.lines.breakFromTrigger then
    { ex with cause := 3, valid := true }
  else ex

/-- A cycle without an operation. -/
def idleInput (ex : Exception cfg) : Input cfg :=
  { c.lines with csrOp := .add, ex := withTrigger c ex, commitAck := [] }

/-- An operation, as the register file sees it. -/
def operationInput (f : Fetched cfg) : Input cfg :=
  { c.lines with
    csrOp := f.op
    csrAddr := f.csrAddr
    csrWdata := f.operand
    ex := Exception.none cfg
    commitAck := [true] }

/-- What the commit stage drives: the exception of the oldest instruction, or its operation with
the exception that the register file reports for it. -/
def commitInput : Input cfg :=
  match considered t c with
  | none => idleInput c (Exception.none cfg)
  | some d =>
    if d.ex.valid || c.lines.breakFromTrigger then idleInput c d.ex
    else
      match csrException t.csr (operationInput c d.instr) with
      | some cause =>
        { operationInput c d.instr with
          ex := { d.ex with cause := BitVec.ofNat cfg.xlen cause, valid := true }
          commitAck := [] }
      | none => operationInput c d.instr

/-- The instructions that retire; the second one only with one that is no operation of the
register file. -/
def retired : Nat :=
  let i := commitInput t c
  if i.commitAck = [] then 0 else if c.pairs && i.csrOp = .add then 2 else 1

/-- The conditions of the controller: an exception, a return, an entry to the debug mode, and a
flush of the register file. -/
def flushes (s : State cfg) (i : Input cfg) : Bool :=
  i.ex.valid || i.returns || (cfg.debugEn && setDebugPc s i) || flushO s i

/-- The younger instructions, those of the decoder included. -/
def younger : List (Decoded cfg) :=
  (t.inFlight.drop (retired t c)).take c.spared ++ c.fetched.map (decode t c)

/-- One cycle. -/
def Pipeline.next : Pipeline cfg where
  csr := step t.csr (commitInput t c)
  inFlight := if flushes t.csr (commitInput t c) then [] else younger t c

/-- The interrupt that the commit stage takes. -/
def taken : Option (Interrupt × Bool) :=
  match considered t c with
  | some d => if d.request then none else d.interrupt.map fun k => (k, d.line)
  | none => none

end Pipeline

/-- The pipeline as a machine. -/
def pipeline (cfg : Cfg) (pmpcfg : Nat → PmpCfg) (pmpaddr : Nat → BitVec (cfg.plen - 2)) :
    Hw.Machine (Pipeline cfg) (Cycle cfg) :=
  ⟨⟨State.reset cfg pmpcfg pmpaddr, []⟩, Pipeline.next⟩

/-! ## The law -/

/-- The next interrupt to be taken is enabled in the state that the older instructions left. -/
def Precise (t : Pipeline cfg) : Prop :=
  ∀ c k line, taken t c = some (k, line) → Enabled t.csr line k

/-- No write of a register that enables, delegates or raises interrupts commits without a flush
while a younger instruction carries an interrupt. -/
def Settled (t : Pipeline cfg) (c : Cycle cfg) : Prop :=
  writesInterrupt t.csr (commitInput t c) = true → flushes t.csr (commitInput t c) = false →
    ∀ d ∈ younger t c, d.interrupt = none

instance (t : Pipeline cfg) (c : Cycle cfg) : Decidable (Settled t c) := by
  unfold Settled
  infer_instance

/-! ## The invariant -/

/-- The interrupts of all instructions are enabled. -/
def Carried (t : Pipeline cfg) : Prop :=
  ∀ d ∈ t.inFlight, ∀ k, d.interrupt = some k → Enabled t.csr d.line k

variable {t : Pipeline cfg} {c : Cycle cfg}

/-- Without an exception the trigger module asks for none. -/
theorem trigger_of_not_valid (quiet : (commitInput t c).ex.valid = false) :
    (cfg.sdtrig && !cfg.debugEn && (commitInput t c).breakFromTrigger) = false := by
  have lines : (commitInput t c).breakFromTrigger = c.lines.breakFromTrigger := by
    rw [commitInput]
    (repeat' split) <;> rfl
  rw [lines]
  cases asks : cfg.sdtrig && !cfg.debugEn && c.lines.breakFromTrigger with
  | false => rfl
  | true =>
    exfalso
    have trigger : c.lines.breakFromTrigger = true := by
      simp only [Bool.and_eq_true] at asks
      exact asks.2
    rw [commitInput] at quiet
    split at quiet
    · simp [idleInput, withTrigger, asks] at quiet
    · rw [if_pos (by simp [trigger])] at quiet
      simp [idleInput, withTrigger, asks] at quiet

theorem unflushed_of_flushes (quiet : flushes t.csr (commitInput t c) = false) :
    Unflushed t.csr (commitInput t c) := by
  simp only [flushes, Bool.or_eq_false_iff] at quiet
  obtain ⟨⟨⟨valid, returns⟩, debug⟩, flush⟩ := quiet
  have trigger := trigger_of_not_valid valid
  constructor
  · have last : (!cfg.debugEn && cfg.sdtrig && (commitInput t c).breakFromTrigger) = false := by
      rw [← trigger]
      cases cfg.debugEn <;> cases cfg.sdtrig <;> rfl
    simp only [takesTrap, valid, last, Bool.and_false, Bool.or_false]
  · exact returns
  · rw [entersDebug]
    cases outside : cfg.debugEn && !t.csr.debugMode with
    | false => rfl
    | true =>
      simp only [Bool.and_eq_true] at outside
      simpa [setDebugPc, outside.1, outside.2] using debug
  · exact flush

/-- Every cycle that is settled keeps the interrupts of all instructions enabled. -/
theorem carried_next (carried : Carried t) (settled : Settled t c) : Carried (t.next c) := by
  intro d member k interrupt
  simp only [Pipeline.next] at member
  split at member
  · cases member
  · next quiet =>
    simp only [Bool.not_eq_true] at quiet
    have before : Enabled t.csr d.line k := by
      simp only [younger, List.mem_append, List.mem_map] at member
      obtain old | ⟨f, -, rfl⟩ := member
      · exact carried d (List.mem_of_mem_drop (List.mem_of_mem_take old)) k interrupt
      · simp only [decode] at interrupt ⊢
        split at interrupt
        · cases interrupt
        · exact enabled_of_attached interrupt
    apply before.step (unflushed_of_flushes quiet)
    cases writes : writesInterrupt t.csr (commitInput t c) with
    | false => rfl
    | true =>
      rw [settled writes quiet d member] at interrupt
      cases interrupt

/-- The instruction whose interrupt is taken is the oldest one. -/
theorem precise_of_carried (carried : Carried t) : Precise t := by
  intro c k line takes
  rw [taken, considered] at takes
  split at takes
  · next d found =>
    split at found
    · split at takes
      · cases takes
      · rw [Option.map_eq_some_iff] at takes
        obtain ⟨other, interrupt, same⟩ := takes
        simp only [Prod.mk.injEq] at same
        obtain ⟨rfl, rfl⟩ := same
        exact carried d (List.mem_of_head? found) other interrupt
    · cases found
  · cases takes

/-- In a run in which no write of a register that enables, delegates or raises interrupts
overtakes the decision of a younger instruction, every interrupt that is taken is enabled. -/
theorem precise_of_settled {pmpcfg : Nat → PmpCfg} {pmpaddr : Nat → BitVec (cfg.plen - 2)}
    {cycles : List (Cycle cfg)}
    (settled : (pipeline cfg pmpcfg pmpaddr).RunAlong Settled cycles) :
    Precise ((pipeline cfg pmpcfg pmpaddr).run cycles) := by
  apply precise_of_carried
  apply (pipeline cfg pmpcfg pmpaddr).run_invariant_along Carried _ _ settled
  · intro d member
    cases member
  · exact fun t c carried settles => carried_next carried settles

namespace Cycle

/-- A cycle in which nothing moves. -/
def stall (cfg : Cfg) : Cycle cfg where
  lines := Input.quiet cfg
  presents := false
  pairs := false
  spared := 8
  fetched := []
  trigger := false

/-- The decoder sees one instruction. -/
def fetch (cfg : Cfg) (f : Fetched cfg) : Cycle cfg := { stall cfg with fetched := [f] }

/-- The oldest instruction commits. -/
def commit (cfg : Cfg) : Cycle cfg := { stall cfg with presents := true }

/-- The line of the timer is up. -/
def withTimer {cfg : Cfg} (c : Cycle cfg) : Cycle cfg :=
  { c with lines := { c.lines with timeIrq := true } }

end Cycle

/-- A write of a register. -/
def Fetched.write (cfg : Cfg) (address : BitVec 12) (word : Nat) : Fetched cfg :=
  ⟨.csrWrite, address, BitVec.ofNat cfg.xlen word, Exception.none cfg, false⟩

/-- An instruction of another unit. -/
def Fetched.plain (cfg : Cfg) : Fetched cfg := ⟨.add, 0, 0, Exception.none cfg, false⟩

/-- The interrupt of the timer is enabled in `mie` and in `mstatus`. -/
def enableTimer (cfg : Cfg) : List (Cycle cfg) :=
  [Cycle.fetch cfg (Fetched.write cfg 0x304 0x80), Cycle.commit cfg,
    Cycle.fetch cfg (Fetched.write cfg 0x300 8), Cycle.commit cfg]

/-- An instruction behind the two writes takes the interrupt. -/
theorem precise_timer :
    Precise ((pipeline Cfg.sv39 (fun _ => PmpCfg.ofByte 0) 0).run
      (enableTimer _ ++ [(Cycle.stall _).withTimer,
        (Cycle.fetch _ (Fetched.plain _)).withTimer])) :=
  precise_of_settled (by decide +kernel)

/-- A third write clears `mie`; the instruction behind it was decoded before, and takes the
interrupt all the same. -/
theorem not_precise_timer :
    ∃ cycles, ¬Precise ((pipeline Cfg.sv39 (fun _ => PmpCfg.ofByte 0) 0).run cycles) := by
  refine ⟨enableTimer _ ++ [Cycle.fetch _ (Fetched.write _ 0x304 0), (Cycle.stall _).withTimer,
    (Cycle.fetch _ (Fetched.plain _)).withTimer, (Cycle.commit _).withTimer], ?_⟩
  intro precise
  have enabled := precise (Cycle.commit _) .mTimer false (by decide +kernel)
  exact absurd enabled.mie (by decide +kernel)

end Cva6Hpd.Csr
