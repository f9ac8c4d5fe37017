import Cva6Hpd.Commit.Stage
import Mathlib.Logic.Function.Basic

/-!
# Committing two instructions in one cycle

The state that the program sees is changed by the commit stage through the register files,
the flags of the floating point unit and the requests to the other units. A cycle in which
both commit ports acknowledge does to it what two cycles with one commit port do, and the
second port acknowledges only beside an instruction that retires without an exception. The
exception to both is a trap of the trigger module that meets a cancelled instruction at the
first port.
-/

namespace Cva6Hpd.Commit

open Cva6Hpd.Ariane
open Cva6Hpd.Scoreboard (ExceptionT)

/-! ## The architectural state -/

/-- What the commit stage asks of the other units. -/
inductive Request (cfg : Cfg) where
  | commitLsu
  | csr (op : FuOp) (wdata : Nat)
  | commitCsr
  | sfenceVma
  | hfenceVvma
  | hfenceGvma
  | fenceI
  | fence
  | amo (transId : cfg.TransId)
  | flushCommit
  | exception (pc : Nat) (ex : ExceptionT)

/-- A register file of 32 registers. -/
abbrev RegFile : Type := BitVec 5 → Nat

/-- The registers and flags that commits change, and the requests, the acknowledgements of
macro instructions and the retired instructions in their order. -/
@[ext]
structure ArchState (cfg : Cfg) where
  gpr : RegFile
  fpr : RegFile
  fflags : BitVec 5
  dirtyFp : Bool
  requests : List (Request cfg)
  macroAcks : List cfg.TransId
  retired : List cfg.TransId

/-- A write port of the floating point registers. -/
def writeFpr (we : Bool) (waddr : BitVec 5) (wdata : Nat) (regs : RegFile) : RegFile :=
  if we then Function.update regs waddr wdata else regs

/-- A write port of the integer registers, of which the first one stays zero. -/
def writeGpr (we : Bool) (waddr : BitVec 5) (wdata : Nat) (regs : RegFile) : RegFile :=
  Function.update (writeFpr we waddr wdata regs) 0 0

variable {cfg : Cfg}

/-- `waddr_o`. -/
def Port.waddr (port : Port cfg) : BitVec 5 := BitVec.ofNat 5 port.instr.rd

/-- An element that is there under a condition. -/
def given {α : Type} (condition : Bool) (element : α) : List α :=
  if condition then [element] else []

/-- The requests of one cycle. -/
def requests (ports : Ports cfg) (i : Input) : List (Request cfg) :=
  let port := ports.first
  let op := csrOp port i
  let ex := exceptionO port i
  List.flatten
    [ given (commitLsu port i) .commitLsu,
      given (op ≠ .add) (.csr op (csrWdata ports i)),
      given (commitCsr port i) .commitCsr,
      given (sfenceVma port i) .sfenceVma,
      given (hfenceVvma port i) .hfenceVvma,
      given (hfenceGvma port i) .hfenceGvma,
      given (fenceI port i) .fenceI,
      given (fence port i) .fence,
      given (amoValidCommit port i) (.amo port.instr.transId),
      given (flushCommit port i) .flushCommit,
      given ex.valid (.exception port.instr.instr.pc ex) ]

/-- The flags after a write of `csr_wdata_o`, which the file of the CSRs accumulates. -/
def accumulate (write : Bool) (wdata : Nat) (fflags : BitVec 5) : BitVec 5 :=
  if cfg.fpPresent && write then BitVec.ofNat 5 wdata ||| fflags else fflags

/-- The effect of one cycle; the write ports of the register files follow one another. -/
def cycle (ports : Ports cfg) (i : Input) (s : ArchState cfg) : ArchState cfg :=
  let first := ports.first
  let ack := firstAck first i
  let s₁ : ArchState cfg :=
    { gpr := writeGpr (firstWeGpr first i) first.waddr (firstWdata first i) s.gpr
      fpr := writeFpr (firstWeFpr first i) first.waddr (firstWdata first i) s.fpr
      fflags := @accumulate cfg (csrWriteFflags ports i) (csrWdata ports i) s.fflags
      dirtyFp := s.dirtyFp || cfg.fpPresent && dirtiesFp first ack
      requests := s.requests ++ requests ports i
      macroAcks :=
        s.macroAcks ++ given (macroAck first ack (firstMacroAck first i)) first.instr.transId
      retired := s.retired ++ given ack first.instr.transId }
  match ports.second with
  | none => s₁
  | some second =>
    let ack := secondAck ports i
    { s₁ with
      gpr := writeGpr (secondWeGpr ports i) second.waddr second.instr.result s₁.gpr
      fpr := writeFpr (secondWeFpr ports i) second.waddr second.instr.result s₁.fpr
      dirtyFp := s₁.dirtyFp || cfg.fpPresent && dirtiesFp second ack
      macroAcks :=
        s₁.macroAcks ++ given (macroAck second ack (secondMacroAck ports i)) second.instr.transId
      retired := s₁.retired ++ given ack second.instr.transId }

/-! ## What is claimed of a pair -/

/-- The operations that the decoder gives to one unit only. -/
structure WellDecoded (port : Port cfg) : Prop where
  fence : port.op ∈ [.fence, .fenceI, .sfenceVma, .hfenceVvma, .hfenceGvma] → port.fu = .csr
  amo : port.op.isAmo → port.fu = .store

/-- A CSR operation, a fence or an atomic operation. -/
def Special (port : Port cfg) : Prop :=
  port.fu = .csr ∨ port.op ∈ [.fence, .fenceI, .sfenceVma, .hfenceVvma, .hfenceGvma]
    ∨ port.isAmo

/-- The second port acknowledges only beside an instruction that retires without an
exception, and neither of the two has to retire alone. -/
structure Exclusive (first second : Port cfg) (i : Input) : Prop where
  own : second.instr.ex.valid = false
  retires : firstAck first i = true
  regular : (exceptionO first i).valid = false
  first_ordinary : ¬ Special first
  second_ordinary : ¬ Special second
  notStore : second.fu ≠ .store

/-- Nothing keeps an instruction that needs no other unit from retiring in this cycle. -/
structure Free (i : Input) : Prop where
  halt : i.halt = false
  flushDcache : i.flushDcache = false
  breakFromTrigger : i.breakFromTrigger = false
  csrException : i.csrException.valid = false
  amoResp : i.amoResp.ack = false

/-- The cycle is one in which the first instruction retires alone, and one after it in which
the second does. -/
def Refines (first second : Port cfg) (i : Input) : Prop :=
  ∀ (next : Input) (s : ArchState cfg), Free next →
    firstAck second next = true ∧
      cycle ⟨first, some second⟩ i s =
        cycle ⟨second, none⟩ next (cycle ⟨first, none⟩ i s)

/-- The trigger module traps without a debug mode while the first instruction is a cancelled
one and the second port is free to retire. -/
structure TrapsCancelled (first second : Port cfg) (i : Input) : Prop where
  sdtrig : cfg.sdtrig = true
  debugEn : cfg.debugEn = false
  breakFromTrigger : i.breakFromTrigger = true
  cancelled : first.instr.valid = true ∧ first.drop = true
  firstUnit : first.fu ≠ .csr ∧ first.isAmo = false
  running : i.halt = false ∧ i.flushDcache = false ∧ i.singleStep = false
  second : second.instr.valid = true ∧ second.instr.ex.valid = false ∧ second.fu ∈ secondFus

/-! ## The second port -/

section Pairs

variable {first second : Port cfg} {i : Input}

theorem pairs_iff :
    pairs i first second = true ↔
      (first.fu ≠ .csr ∧ first.isAmo = false)
        ∧ (i.halt = false ∧ i.flushDcache = false ∧ i.singleStep = false)
        ∧ second.instr.valid = true ∧ second.instr.ex.valid = false
        ∧ second.fu ∈ secondFus := by
  simp only [pairs, Bool.and_eq_true, Bool.not_eq_true', decide_eq_true_eq, decide_eq_false_iff_not]
  tauto

theorem secondAck_eq :
    secondAck ⟨first, some second⟩ i = (firstAck first i && pairs i first second) :=
  rfl

theorem not_special_of_pairs (decoded : WellDecoded first) (may : pairs i first second = true) :
    ¬ Special first := by
  rcases pairs_iff.mp may with ⟨⟨notCsr, notAmo⟩, _⟩
  rintro (csr | fence | amo)
  · exact notCsr csr
  · exact notCsr (decoded.fence fence)
  · simp [notAmo] at amo

/-- What the units of the second port leave out. -/
theorem second_of_pairs (decoded : WellDecoded second) (may : pairs i first second = true) :
    ¬ Special second ∧ second.fu ≠ .store := by
  rcases pairs_iff.mp may with ⟨_, _, _, _, unit⟩
  have notCsr : second.fu ≠ .csr := by
    intro equal
    simp [secondFus, equal] at unit
  have notStore : second.fu ≠ .store := by
    intro equal
    simp [secondFus, equal] at unit
  refine ⟨?_, notStore⟩
  rintro (csr | fence | amo)
  · exact notCsr csr
  · exact notCsr (decoded.fence fence)
  · refine notStore (decoded.amo ?_)
    simp only [Port.isAmo, Bool.and_eq_true] at amo
    exact amo.2

end Pairs

/-! ## An instruction that needs no other unit -/

section Ordinary

variable {port : Port cfg} {next : Input}

/-- The first port retires an ordinary instruction of a free cycle. -/
structure Ordinary (port : Port cfg) (next : Input) : Prop where
  committed : commits port next = true
  isAmo : port.isAmo = false
  notCsr : port.fu ≠ .csr
  isStore : isStore port = false
  isSfenceVma : isSfenceVma port = false
  isHfenceVvma : isHfenceVvma port = false
  isHfenceGvma : isHfenceGvma port = false
  isFenceI : isFenceI port next = false
  isFence : isFence port = false
  csrException : next.csrException.valid = false
  amoResp : next.amoResp.ack = false
  breakFromTrigger : next.breakFromTrigger = false

theorem ordinary_of_free (free : Free next) (valid : port.instr.valid = true)
    (own : port.instr.ex.valid = false) (plain : ¬ Special port) (notStore : port.fu ≠ .store) :
    Ordinary port next := by
  simp only [Special, not_or] at plain
  rcases plain with ⟨notCsr, notFence, notAmo⟩
  simp only [List.mem_cons, List.not_mem_nil, not_or, or_false] at notFence
  rcases notFence with ⟨fence, fenceI, sfence, hfenceV, hfenceG⟩
  exact
    { committed := by simp [commits, considered, excepts, valid, own, free.halt,
        free.breakFromTrigger]
      isAmo := by simpa using notAmo
      notCsr := notCsr
      isStore := by simp [isStore, notStore]
      isSfenceVma := by simp [isSfenceVma, sfence]
      isHfenceVvma := by simp [isHfenceVvma, hfenceV]
      isHfenceGvma := by simp [isHfenceGvma, hfenceG]
      isFenceI := by simp [isFenceI, fenceI, free.flushDcache]
      isFence := by simp [isFence, fence]
      csrException := free.csrException
      amoResp := free.amoResp
      breakFromTrigger := free.breakFromTrigger }

namespace Ordinary

variable (ordinary : Ordinary port next)

include ordinary

theorem firstAck_eq : firstAck port next = true := by
  have committed := ordinary.committed
  simp only [commits, Bool.and_eq_true, Bool.not_eq_true'] at committed
  simp [firstAck, committed, ordinary.isAmo, waits, ordinary.isSfenceVma, ordinary.isHfenceVvma,
    ordinary.isHfenceGvma, ordinary.isFenceI, ordinary.isFence, ordinary.notCsr,
    ordinary.isStore]

theorem firstWeGpr_eq : firstWeGpr port next = (!port.drop && !port.isRdFpr) := by
  simp [firstWeGpr, ordinary.committed, ordinary.isAmo, ordinary.notCsr]

theorem firstWdata_eq : firstWdata port next = port.instr.result := by
  simp [firstWdata, ordinary.notCsr, ordinary.amoResp]

theorem csrOp_eq : csrOp port next = .add := by
  simp [csrOp, ordinary.notCsr]

theorem writeFflags_eq :
    firstWriteFflags port next = (!port.drop && cfg.fpPresent && port.isFpu) := by
  simp only [firstWriteFflags, ordinary.committed]
  cases cfg.fpPresent <;> cases port.isFpu <;> cases port.drop <;> rfl

theorem csrWdata_eq :
    firstCsrWdata port next =
      if firstWriteFflags port next then port.fflags.toNat else 0 := by
  simp [firstCsrWdata, ordinary.notCsr]

theorem regular : (exceptionO port next).valid = false := by
  have committed := ordinary.committed
  simp only [commits, excepts, Bool.and_eq_true, Bool.not_eq_true', Bool.or_eq_false_iff]
    at committed
  simp only [exceptionO, committed, ordinary.csrException, Bool.and_false,
    Bool.false_eq_true, if_false, ite_self]

theorem requests_eq : requests ⟨port, none⟩ next = [] := by
  simp [requests, given, commitLsu, ordinary.isStore, ordinary.csrOp_eq, commitCsr,
    ordinary.notCsr, sfenceVma, ordinary.isSfenceVma, hfenceVvma, ordinary.isHfenceVvma,
    hfenceGvma, ordinary.isHfenceGvma, fenceI, ordinary.isFenceI, fence, ordinary.isFence,
    amoValidCommit, flushCommit, ordinary.isAmo, ordinary.regular]

end Ordinary

end Ordinary

/-! ## One cycle against two -/

section Refinement

variable {first second : Port cfg} {i next : Input}

theorem accumulate_accumulate {write₁ write₂ : Bool} {flags₁ flags₂ fflags : BitVec 5} :
    @accumulate cfg (write₁ || write₂)
        (if write₂ then if write₁ then (flags₁ ||| flags₂).toNat else flags₂.toNat
          else if write₁ then flags₁.toNat else 0) fflags =
      @accumulate cfg write₂ (if write₂ then flags₂.toNat else 0)
        (@accumulate cfg write₁ (if write₁ then flags₁.toNat else 0) fflags) := by
  cases write₁ <;> cases write₂ <;> cases enabled : cfg.fpPresent
    <;> simp [accumulate, enabled]
  rw [← BitVec.or_assoc, BitVec.or_comm flags₁]

theorem requests_pair (may : pairs i first second = true) :
    requests ⟨first, some second⟩ i = requests ⟨first, none⟩ i := by
  rcases pairs_iff.mp may with ⟨⟨notCsr, _⟩, _⟩
  have noOp : csrOp first i = .add := by simp [csrOp, notCsr]
  simp [requests, noOp, given]

theorem refines_of_pairs (decoded : WellDecoded second) (retires : firstAck first i = true)
    (may : pairs i first second = true) : Refines first second i := by
  intro next s free
  rcases pairs_iff.mp may with ⟨⟨notCsr, _⟩, _, valid, own, _⟩
  rcases second_of_pairs decoded may with ⟨plain, notStore⟩
  have ordinary := ordinary_of_free free valid own plain notStore
  have acks : secondAck ⟨first, some second⟩ i = true := by
    rw [secondAck_eq, retires, may, Bool.and_self]
  have noRequest := ordinary.requests_eq
  refine ⟨ordinary.firstAck_eq, ArchState.ext ?_ ?_ ?_ ?_ ?_ ?_ ?_⟩
  · simp only [cycle, secondWeGpr, acks, ordinary.firstWeGpr_eq, ordinary.firstWdata_eq,
      Bool.true_and]
  · simp only [cycle, secondWeFpr, acks, firstWeFpr, ordinary.committed, ordinary.firstWdata_eq,
      Bool.true_and]
  · have writeFflags :
        secondWriteFflags ⟨first, some second⟩ i = firstWriteFflags second next := by
      simp only [secondWriteFflags, acks, ordinary.writeFflags_eq, Bool.true_and]
    have firstData :
        firstCsrWdata first i = if firstWriteFflags first i then first.fflags.toNat else 0 := by
      simp [firstCsrWdata, notCsr]
    simp only [cycle, csrWriteFflags, csrWdata, writeFflags, firstData, ordinary.csrWdata_eq]
    simp only [secondWriteFflags, Bool.or_false]
    exact accumulate_accumulate
  · simp only [cycle, acks, ordinary.firstAck_eq]
  · simp only [cycle, requests_pair may, noRequest, List.append_nil]
  · simp only [cycle, secondMacroAck, acks, firstMacroAck, ordinary.committed,
      ordinary.firstAck_eq]
  · simp only [cycle, acks, ordinary.firstAck_eq]

end Refinement

/-! ## Exceptions at the first port -/

section Exceptions

variable {first second : Port cfg} {i : Input}

theorem considered_of_firstAck (retires : firstAck first i = true) :
    considered first i = true ∧ (excepts first i = true → first.drop = true) := by
  rw [firstAck] at retires
  cases asks : considered first i <;> simp only [asks] at retires
  · simp at retires
  · refine ⟨rfl, fun excepted => ?_⟩
    simpa [excepted] using retires

theorem traps_of_break (sdtrig : cfg.sdtrig = true) (debugEn : cfg.debugEn = false)
    (breaks : i.breakFromTrigger = true) : (exceptionO first i).valid = true := by
  simp [exceptionO, sdtrig, debugEn, breaks]

theorem regular_of_retires (retires : firstAck first i = true)
    (csrException : i.csrException.valid = false)
    (quiet : ¬ (cfg.sdtrig = true ∧ cfg.debugEn = false ∧ i.breakFromTrigger = true)) :
    (exceptionO first i).valid = false := by
  rcases considered_of_firstAck retires with ⟨_, dropped⟩
  have noTrap : (cfg.sdtrig && !cfg.debugEn && i.breakFromTrigger) = false := by
    simp only [Bool.and_eq_false_iff, Bool.not_eq_false']
    revert quiet
    cases cfg.sdtrig <;> cases cfg.debugEn <;> cases i.breakFromTrigger <;> simp
  simp only [exceptionO, noTrap, csrException]
  cases own : first.instr.ex.valid
  · simp
  · have drop := dropped (by simp [excepts, own])
    simp [drop]

theorem trapsCancelled_iff (retires : firstAck first i = true) (may : pairs i first second = true) :
    TrapsCancelled first second i ↔
      cfg.sdtrig = true ∧ cfg.debugEn = false ∧ i.breakFromTrigger = true := by
  rcases considered_of_firstAck retires with ⟨asked, dropped⟩
  rcases pairs_iff.mp may with ⟨unit, running, valid⟩
  simp only [considered, Bool.and_eq_true] at asked
  constructor
  · intro traps
    exact ⟨traps.sdtrig, traps.debugEn, traps.breakFromTrigger⟩
  · rintro ⟨sdtrig, debugEn, breaks⟩
    have excepted : excepts first i = true := by simp [excepts, breaks]
    exact ⟨sdtrig, debugEn, breaks, ⟨asked.1, dropped excepted⟩, unit, running, valid⟩

theorem acks_of_trapsCancelled (traps : TrapsCancelled first second i) :
    firstAck first i = true ∧ pairs i first second = true := by
  refine ⟨?_, pairs_iff.mpr ⟨traps.firstUnit, traps.running, traps.second⟩⟩
  simp [firstAck, considered, excepts, traps.cancelled, traps.running, traps.breakFromTrigger]

end Exceptions

/-! ## Two instructions in one cycle -/

/-- For every pair of decoded instructions, every state and all inputs, where the file of
the CSRs raises an exception only for a CSR operation: what is claimed of a cycle in which
the second port acknowledges holds unless a trap meets a cancelled first instruction. -/
theorem commits_pair_iff (first second : Port cfg) (i : Input) (decodedFirst : WellDecoded first)
    (decodedSecond : WellDecoded second)
    (csrException : i.csrException.valid = true → first.fu = .csr) :
    (secondAck ⟨first, some second⟩ i = true →
        Exclusive first second i ∧ Refines first second i) ↔
      ¬ TrapsCancelled first second i := by
  constructor
  · intro claim traps
    rcases acks_of_trapsCancelled traps with ⟨retires, may⟩
    rcases claim (by rw [secondAck_eq, retires, may, Bool.and_self]) with ⟨exclusive, _⟩
    have taken := @traps_of_break _ first _ traps.sdtrig traps.debugEn
      traps.breakFromTrigger
    exact absurd taken (by simp [exclusive.regular])
  · intro quiet acks
    rw [secondAck_eq, Bool.and_eq_true] at acks
    rcases acks with ⟨retires, may⟩
    rcases pairs_iff.mp may with ⟨⟨notCsr, _⟩, _, _, own, _⟩
    rcases second_of_pairs decodedSecond may with ⟨plain, notStore⟩
    have noCsrException : i.csrException.valid = false := by
      by_contra raised
      exact notCsr (csrException (by simpa using raised))
    refine ⟨⟨own, retires, ?_, not_special_of_pairs decodedFirst may, plain, notStore⟩,
      refines_of_pairs decodedSecond retires may⟩
    exact regular_of_retires retires noCsrException
      (mt (trapsCancelled_iff retires may).mpr quiet)

/-! ### A trap at a cancelled instruction -/

/-- An addition to the register `rd` with the given identifier. -/
def sampleAdd (transId : Cfg.sample.TransId) (rd result : Nat) (drop : Bool) : Port Cfg.sample where
  instr :=
    { instr := { pc := 4 * transId, op := .add, vfp := false }
      transId := transId
      fu := .alu
      rd := rd
      result := result
      valid := true
      ex := { cause := 0, tval := 0, tval2 := 0, tinst := 0, gva := false, valid := false }
      predictAddress := 0
      isMacroInstr := false
      isLastMacroInstr := false
      isDoubleRdMacroInstr := false }
  drop := drop

/-- A cycle in which the trigger module may ask for a breakpoint. -/
def sampleCycle (breakFromTrigger : Bool) : Input where
  halt := false
  flushDcache := false
  singleStep := false
  amoResp := { ack := false, result := 0 }
  csrRdata := 0
  csrException := { cause := 0, tval := 0, tval2 := 0, tinst := 0, gva := false, valid := false }
  commitLsuReady := true
  noStPending := true
  breakFromTrigger := breakFromTrigger

theorem sampleAdd_wellDecoded (transId : Cfg.sample.TransId) (rd result : Nat) (drop : Bool) :
    WellDecoded (sampleAdd transId rd result drop) where
  fence := by simp [Port.op, sampleAdd]
  amo := by
    intro amo
    exact absurd (show FuOp.add.isAmo = true from amo) (by decide)

theorem commits_pair_iff_additions :
    secondAck ⟨sampleAdd 0 1 5 false, some (sampleAdd 1 1 7 false)⟩ (sampleCycle false) =
        true ∧
      Exclusive (sampleAdd 0 1 5 false) (sampleAdd 1 1 7 false) (sampleCycle false) ∧
      Refines (sampleAdd 0 1 5 false) (sampleAdd 1 1 7 false) (sampleCycle false) := by
  have acks :
      secondAck ⟨sampleAdd 0 1 5 false, some (sampleAdd 1 1 7 false)⟩ (sampleCycle false) =
        true := by
    decide
  refine ⟨acks, (commits_pair_iff _ _ _ (sampleAdd_wellDecoded _ _ _ _)
    (sampleAdd_wellDecoded _ _ _ _) (by decide)).mpr ?_ acks⟩
  intro traps
  exact absurd traps.breakFromTrigger (by decide)

/-- The first instruction is cancelled, a trap is taken at it, and the second instruction
retires in the same cycle. -/
theorem second_commits_under_trap :
    ¬ ∀ (first second : Port Cfg.sample) (i : Input),
      WellDecoded first → WellDecoded second →
      (i.csrException.valid = true → first.fu = .csr) →
      secondAck ⟨first, some second⟩ i = true →
      Exclusive first second i ∧ Refines first second i := by
  intro claim
  obtain ⟨exclusive, _⟩ := claim (sampleAdd 0 1 5 true) (sampleAdd 1 1 7 false) (sampleCycle true)
    (sampleAdd_wellDecoded _ _ _ _) (sampleAdd_wellDecoded _ _ _ _) (by decide) (by decide)
  exact absurd exclusive.regular (by decide)

end Cva6Hpd.Commit
