import Cva6Hpd.Execute.FixedLatency
import Mathlib.Data.List.Perm.Basic

/-!
# One write-back for each instruction of the fixed latency port

At most one unit has a result for the port in a cycle, and each instruction that was issued to
one of the units is written back once, with its identifier and its result: in every run in
which no instruction of the scalar cryptography is issued beside another instruction of the
port, and one that is issued at the second port reads the bits of its own encoding. The busy
units of the second port leave out that unit, and its bits are latched from the first port.
-/

namespace Cva6Hpd.Execute

open Cva6Hpd.Ariane
open Cva6Hpd.Hw
open Cva6Hpd.Issue (Cfg FusBusy)
open Cva6Hpd.Scoreboard (Fu)

variable {cfg : Cfg}

/-! ## Histories -/

/-- An instruction of the port with everything that its unit is to compute its result of. -/
structure Op (cfg : Cfg) where
  fu : Fu
  data : FuData cfg
  origInstr : BitVec 6
  pc : BitVec cfg.vlen
  isCompressed : Bool
deriving DecidableEq

namespace Op

variable (units : Units cfg) (op : Op cfg)

def isMul : Bool := op.data.operation ∈ Multiplier.operations

/-- The registers of a divider that divides nothing else. -/
def divided : Serdiv.Regs cfg := Serdiv.divided (Serdiv.load (divRequest op.data))

def result : BitVec cfg.xlen :=
  match op.fu with
  | .alu => units.alu op.data
  | .csr => op.data.operandA
  | .aes => units.aes op.data (usedBits op.data.operation op.origInstr)
  | .mult =>
    if op.isMul then Multiplier.result (Multiplier.latch op.data)
    else divResult (isWordOp op.data) op.divided
  | _ => branchResult op.pc op.isCompressed

/-- What is to be written back. -/
def writes : cfg.TransId × BitVec cfg.xlen := (op.data.transId, op.result units)

end Op

structure History (cfg : Cfg) where
  issued : List (Op cfg)
  /-- The instructions that are neither written back nor flushed, with the number of cycles
  since their issue. -/
  inFlight : List (Nat × Op cfg)
  done : List (Op cfg)
  flushed : List (Op cfg)
  /-- The valid results of the port. -/
  written : List (cfg.TransId × BitVec cfg.xlen)

def History.initial : History cfg where
  issued := []
  inFlight := []
  done := []
  flushed := []
  written := []

section Record

variable (units : Units cfg) (s : State cfg) (i : Input cfg) (h : History cfg)

/-- The units of the port. -/
def fluFus : List Fu := [.alu, .ctrlFlow, .csr, .aes, .mult]

/-- The instruction that starts in a unit of the port. -/
def startedOp (port : Fin 2) : Option (Op cfg) :=
  if fluFus.any (fun fu => startsIn s i fu port) then
    some
      { fu := (i.ports.instr port).fu
        data := fuDataN i port
        origInstr := i.origInstr port
        pc := BitVec.ofNat _ (i.ports.instr port).instr.pc
        isCompressed := (i.ports.instr port).instr.isCompressed }
  else none

def startedOps : List (Op cfg) := (startedOp s i 0).toList ++ (startedOp s i 1).toList

/-- The result of the instruction is due: in the next cycle, or in the one after it from the
multiplier, or when the divider has finished. -/
def completes (entry : Nat × Op cfg) : Bool :=
  if entry.2.fu = .mult then
    if entry.2.isMul then entry.1 = 2 else decide (2 ≤ entry.1) && divValid s
  else entry.1 = 1

def due : List (Op cfg) := (h.inFlight.filter (completes s)).map Prod.snd

def staying : List (Nat × Op cfg) := h.inFlight.filter fun entry => !completes s entry

/-- The result of the port. -/
def writeBack : List (cfg.TransId × BitVec cfg.xlen) :=
  if fluValid s then [(fluTransId s, fluResult units s)] else []

def aged (entry : Nat × Op cfg) : Nat × Op cfg := (entry.1 + 1, entry.2)

def record : History cfg where
  issued := h.issued ++ startedOps s i
  inFlight :=
    (if i.flush then [] else (staying s h).map aged) ++ (startedOps s i).map fun op => (1, op)
  done := h.done ++ due s h
  flushed := h.flushed ++ if i.flush then (staying s h).map Prod.snd else []
  written := h.written ++ writeBack units s

end Record

/-- The port with the history of its instructions. -/
def recorded (units : Units cfg) : Machine (State cfg × History cfg) (Input cfg) :=
  (machine cfg).withHistory History.initial (record units)

/-- The decoder gives the multiplier its operations and those of the divider, and uses the
unit of the scalar cryptography only if it is there. -/
structure Environment (i : Input cfg) : Prop where
  mult : ∀ port, (i.ports.instr port).fu = .mult →
    (i.ports.instr port).instr.op ∈ Multiplier.operations ∨
      (i.ports.instr port).instr.op ∈ divOperations
  aes : ∀ port, (i.ports.instr port).fu = .aes → cfg.zkn = true

/-- An instruction of the scalar cryptography does not start together with one of the first
ALU, of the branch unit or of its own unit, and at the second port it reads the same bits of
the encoding of the instruction at the first one. -/
structure Separate (s : State cfg) (i : Input cfg) : Prop where
  first : startsIn s i .aes 0 = true → startsIn s i .alu 1 = false ∧
    startsIn s i .ctrlFlow 1 = false ∧ startsIn s i .aes 1 = false
  second : startsIn s i .aes 1 = true → startsIn s i .alu 0 = false ∧
    startsIn s i .ctrlFlow 0 = false
  bits : startsIn s i .aes 1 = true →
    usedBits (i.ports.instr 1).instr.op (i.origInstr 0) =
      usedBits (i.ports.instr 1).instr.op (i.origInstr 1)

/-- The units that have a valid result for the port. -/
def validUnits (s : State cfg) : List Bool :=
  [s.aluValidQ 0, s.aluValidQ 1, s.branchValidQ 0, s.branchValidQ 1, s.csrValidQ 0,
    s.csrValidQ 1, s.aesValidQ 0, s.aesValidQ 1, s.mulValidQ, divValid s]

/-- One unit at most has a valid result; the results of the port are those of the instructions
that were due, and each instruction is due once, within a bounded time, unless it is
flushed. -/
structure WrittenOnce (units : Units cfg) (s : State cfg) (h : History cfg) : Prop where
  exclusive : (validUnits s).count true ≤ 1
  written : h.written = h.done.map (Op.writes units)
  conserved : h.issued.Perm (h.done ++ h.flushed ++ h.inFlight.map Prod.snd)
  bounded : ∀ entry ∈ h.inFlight, entry.1 ≤ cfg.xlen + 2

/-! ## What the issue ports keep apart -/

/-- The busy flag of a unit of the port; of an instruction of the ALUs, that of the first
one. -/
def flag (busy : FusBusy) : Fu → Bool
  | .alu => busy.alu
  | .ctrlFlow => busy.ctrlFlow
  | .csr => busy.csr
  | .aes => busy.aes
  | .mult => busy.mult
  | _ => true

section Hazards

variable {s : State cfg} {i : Input cfg} {port : Fin 2} {fu : Fu}

theorem fu_of_startsIn (started : startsIn s i fu port = true) : (i.ports.instr port).fu = fu := by
  simp only [startsIn, Bool.and_eq_true, decide_eq_true_eq] at started
  exact started.1.2

theorem issueAck_of_startsIn (unit : fu ∈ fluFus) (started : startsIn s i fu port = true) :
    Issue.issueAck i.ports (status s i) port = true := by
  have same := fu_of_startsIn started
  have acks : Issue.issueAckO i.ports (status s i) port = true := by
    simp only [startsIn, starts, Issue.issues, Bool.and_eq_true] at started
    exact started.1.1.1.2
  have ordinary : fu ≠ .cvxif := by
    rintro rfl
    exact absurd unit (by decide)
  match port with
  | 0 => simpa [Issue.issueAckO, Issue.firstAck, same, ordinary] using acks
  | 1 => exact (Bool.and_eq_true_iff.mp acks).2

/-- A unit that is taken was free. -/
theorem flag_of_startsIn (unit : fu ∈ fluFus) (started : startsIn s i fu port = true) :
    flag (Issue.fusBusy i.ports.instr (status s i) port) fu = false := by
  have same := fu_of_startsIn started
  have free : Issue.fuBusy i.ports.instr (status s i) port = false := by
    have acks := issueAck_of_startsIn unit started
    simp only [Issue.issueAck, Bool.and_eq_true, Bool.not_eq_true'] at acks
    exact acks.1.2
  simp only [startsIn, Bool.and_eq_true, Bool.not_eq_true', decide_eq_true_eq] at started
  have firstAlu := started.2
  simp only [fluFus, List.mem_cons, List.not_mem_nil, or_false] at unit
  simp only [Issue.fuBusy, same] at free
  rcases unit with rfl | rfl | rfl | rfl | rfl <;> simp_all [flag]

theorem flag_second_of_first {instr : Fin 2 → Issue.Entry cfg} {status : Issue.Status}
    (busy : flag (Issue.firstFusBusy cfg status) fu = true) :
    flag (Issue.secondFusBusy instr status) fu = true := by
  unfold Issue.secondFusBusy
  cases fu <;> cases (instr 0).fu <;> simp only [flag] at busy ⊢ <;>
    (repeat' split) <;> simp_all [FusBusy.all]

theorem flag_port_of_first {instr : Fin 2 → Issue.Entry cfg} {status : Issue.Status}
    (busy : flag (Issue.firstFusBusy cfg status) fu = true) :
    flag (Issue.fusBusy instr status port) fu = true := by
  unfold Issue.fusBusy
  split
  · exact busy
  · exact flag_second_of_first busy

/-- Nothing starts while the divider or a CSR operation is under way. -/
theorem startsIn_of_not_ready (unit : fu ∈ fluFus) (busy : fluReady s i = false) :
    startsIn s i fu port = false := by
  rw [Bool.eq_false_iff]
  intro started
  have free := flag_of_startsIn unit started
  rw [flag_port_of_first] at free
  · cases free
  · simp only [fluFus, List.mem_cons, List.not_mem_nil, or_false] at unit
    rcases unit with rfl | rfl | rfl | rfl | rfl <;>
      simp [flag, Issue.firstFusBusy, status, busy]

theorem startsIn_of_multValid (unit : fu ∈ fluFus) (other : fu ≠ .mult)
    (busy : any s.multValidQ = true) : startsIn s i fu port = false := by
  rw [Bool.eq_false_iff]
  intro started
  have free := flag_of_startsIn unit started
  rw [flag_port_of_first] at free
  · cases free
  · simp only [fluFus, List.mem_cons, List.not_mem_nil, or_false] at unit
    rcases unit with rfl | rfl | rfl | rfl | rfl <;>
      simp_all [flag, Issue.firstFusBusy, status]

/-- Of two instructions that start together, one goes to the multiplier or the divider, but
for the scalar cryptography. -/
theorem startsIn_pair {first second : Fu} (firstUnit : first ∈ fluFus)
    (secondUnit : second ∈ fluFus) (firstStarts : startsIn s i first 0 = true)
    (secondStarts : startsIn s i second 1 = true) :
    (first = .mult ∧ second ≠ .mult) ∨ (first ≠ .mult ∧ second = .mult) ∨
      (first = .aes ∧ second ∈ [Fu.alu, .ctrlFlow, .aes]) ∨
      (second = .aes ∧ first ∈ [Fu.alu, .ctrlFlow]) := by
  have free := flag_of_startsIn secondUnit secondStarts
  have same := fu_of_startsIn firstStarts
  simp only [startsIn, Bool.and_eq_true, Bool.not_eq_true', decide_eq_true_eq] at firstStarts
  have firstAlu := firstStarts.2
  simp only [Issue.fusBusy, Issue.secondFusBusy, same] at free
  simp only [fluFus, List.mem_cons, List.not_mem_nil, or_false] at firstUnit secondUnit
  rcases firstUnit with rfl | rfl | rfl | rfl | rfl <;>
    rcases secondUnit with rfl | rfl | rfl | rfl | rfl <;>
    simp_all [flag, FusBusy.all, Issue.takesAlu2, Issue.fusBusy] <;>
    (repeat' split at free) <;> simp_all

theorem superscalar_of_startsIn (started : startsIn s i fu 1 = true) :
    cfg.superscalarEn = true := by
  simp only [startsIn, starts, Issue.issues, Bool.and_eq_true] at started
  exact (Bool.and_eq_true_iff.mp (Bool.and_eq_true_iff.mp started.1.1.1.2).1).1

theorem branchPort_of_startsIn (started : startsIn s i .ctrlFlow port = true) :
    branchPort i = some port := by
  have same := fu_of_startsIn started
  match port with
  | 0 => simp [branchPort, same]
  | 1 =>
      have free := flag_of_startsIn (by decide) started
      have superscalar := superscalar_of_startsIn started
      have other : (i.ports.instr 0).fu ≠ .ctrlFlow := by
        intro first
        have speculative : cfg.speculativeSb = true := superscalar
        simp [Issue.fusBusy, Issue.secondFusBusy, first, flag, speculative] at free
      simp [branchPort, same, superscalar, other]

theorem startsIn_eq (unit : fu ∈ fluFus) :
    startsIn s i fu port = decide ((startedOp s i port).map Op.fu = some fu) := by
  rw [Bool.eq_iff_iff, decide_eq_true_eq]
  constructor
  · intro started
    have some : (fluFus.any fun fu => startsIn s i fu port) = true :=
      List.any_eq_true.mpr ⟨fu, unit, started⟩
    simp [startedOp, some, fu_of_startsIn started]
  · intro started
    unfold startedOp at started
    split at started
    case isTrue some =>
      rcases List.any_eq_true.mp some with ⟨other, _, starts⟩
      have same := fu_of_startsIn starts
      have equal : (i.ports.instr port).fu = fu := by simpa using started
      rwa [← equal, same]
    case isFalse => cases started

theorem fu_mem_of_startedOp {op : Op cfg} (started : op ∈ startedOp s i port) :
    op.fu ∈ fluFus ∧ startsIn s i op.fu port = true := by
  have unit : op.fu ∈ fluFus := by
    unfold startedOp at started
    split at started
    case isTrue some =>
      rcases List.any_eq_true.mp some with ⟨fu, unit, starts⟩
      rw [← Option.some.inj (Option.mem_def.mp started)]
      rwa [← fu_of_startsIn starts] at unit
    case isFalse => cases started
  refine ⟨unit, ?_⟩
  rw [startsIn_eq unit, Option.mem_def.mp started]
  simp

theorem startedOp_eq {op : Op cfg} (started : op ∈ startedOp s i port) :
    op =
      { fu := (i.ports.instr port).fu
        data := fuDataN i port
        origInstr := i.origInstr port
        pc := BitVec.ofNat _ (i.ports.instr port).instr.pc
        isCompressed := (i.ports.instr port).instr.isCompressed } := by
  unfold startedOp at started
  split at started
  · exact (Option.some.inj (Option.mem_def.mp started)).symm
  · cases started

end Hazards

/-! ## The instructions in the registers -/

/-- The valid bits and the data of a port are those of the instruction that started there in
the last cycle. -/
structure Presents (s : State cfg) (port : Fin 2) (op : Option (Op cfg)) : Prop where
  alu : s.aluValidQ port = decide (op.map Op.fu = some .alu)
  branch : s.branchValidQ port = decide (op.map Op.fu = some .ctrlFlow)
  csr : s.csrValidQ port = decide (op.map Op.fu = some .csr)
  aes : s.aesValidQ port = decide (op.map Op.fu = some .aes)
  mult : s.multValidQ port = decide (op.map Op.fu = some .mult)
  unit : ∀ o ∈ op, o.fu ∈ fluFus
  data : ∀ o ∈ op, s.fuDataQ port = o.data
  bits : ∀ o ∈ op, o.fu = .aes →
    usedBits o.data.operation s.origInstrAesBits = usedBits o.data.operation o.origInstr
  target : ∀ o ∈ op, o.fu = .ctrlFlow → s.pcO = o.pc ∧ s.isCompressedO = o.isCompressed
  decoded : ∀ o ∈ op, o.fu = .mult → o.isMul = true ∨ o.data.operation ∈ divOperations

theorem presents_step {s : State cfg} {i : Input cfg} (env : Environment i)
    (separate : Separate s i) (port : Fin 2) :
    Presents (step s i) port (startedOp s i port) where
  alu := startsIn_eq (by decide)
  branch := startsIn_eq (by decide)
  csr := startsIn_eq (by decide)
  aes := startsIn_eq (by decide)
  mult := startsIn_eq (by decide)
  unit _ started := (fu_mem_of_startedOp started).1
  data _ started := by
    rw [startedOp_eq started]
    rfl
  bits op started crypto := by
    have starts := (fu_mem_of_startedOp started).2
    rw [crypto] at starts
    have there := env.aes port (fu_of_startsIn starts)
    rw [startedOp_eq started]
    simp only [step, there, if_true]
    match port with
    | 0 => rfl
    | 1 => exact separate.bits starts
  target op started branch := by
    have starts := (fu_mem_of_startedOp started).2
    rw [branch] at starts
    rw [startedOp_eq started]
    simp [step, branchPort_of_startsIn starts]
  decoded op started multiplies := by
    have starts := (fu_mem_of_startedOp started).2
    rw [multiplies] at starts
    have decoded := env.mult port (fu_of_startsIn starts)
    rw [startedOp_eq started]
    exact decoded.imp_left fun multiplication => decide_eq_true multiplication

/-- The divider works for the instruction, which was issued so many cycles ago. -/
structure Dividing (s : State cfg) (age : Nat) (op : Op cfg) : Prop where
  under_way : s.serdiv.stateQ ≠ .idle
  transId : s.serdiv.regs.idQ = op.data.transId
  word : (cfg.isXlen64 && s.wordOpQ) = isWordOp op.data
  divide : s.serdiv.stateQ = .divide →
    Serdiv.divided s.serdiv.regs = op.divided ∧ age + s.serdiv.regs.cntQ.toNat ≤ cfg.xlen + 1
  finish : s.serdiv.stateQ = .finish → s.serdiv.regs = op.divided ∧ age ≤ cfg.xlen + 2
  age_ge : 2 ≤ age

/-- The instructions behind the first cycle: one of the multiplier or of the divider. -/
inductive Held (s : State cfg) : List (Nat × Op cfg) → Prop
  | none (mul : s.mulValidQ = false) (div : s.serdiv.stateQ = .idle) : Held s []
  | mul (op : Op cfg) (valid : s.mulValidQ = true) (div : s.serdiv.stateQ = .idle)
      (fu : op.fu = .mult) (isMul : op.isMul = true)
      (regs : s.multiplier = Multiplier.latch op.data) : Held s [(2, op)]
  | div (age : Nat) (op : Op cfg) (mul : s.mulValidQ = false) (fu : op.fu = .mult)
      (isDiv : op.isMul = false) (dividing : Dividing s age op) : Held s [(age, op)]

/-- The instructions in flight, from the older ones to the ones of the last cycle. -/
structure Stage (s : State cfg) (held : List (Nat × Op cfg)) (first second : Option (Op cfg)) :
    Prop where
  isHeld : Held s held
  presentsFirst : Presents s 0 first
  presentsSecond : Presents s 1 second
  superscalar : second ≠ none → cfg.superscalarEn = true
  apart : ∀ a ∈ first, ∀ b ∈ second,
    (a.fu = .mult ∧ b.fu ≠ .mult) ∨ (a.fu ≠ .mult ∧ b.fu = .mult)
  behindMul : s.mulValidQ = true →
    (∀ op ∈ first, op.fu = .mult) ∧ ∀ op ∈ second, op.fu = .mult
  behindDiv : s.serdiv.stateQ ≠ .idle → first = none ∧ second = none

/-! ## One instruction for each kind of unit -/

/-- The instruction of the last cycle that takes one cycle, if there is one. -/
def quick (first second : Option (Op cfg)) : Option (Op cfg) :=
  (first.filter fun op => op.fu ≠ .mult).or (second.filter fun op => op.fu ≠ .mult)

/-- The multiplication or division of the last cycle. -/
def slow (first second : Option (Op cfg)) : Option (Op cfg) :=
  (first.filter fun op => op.fu = .mult).or (second.filter fun op => op.fu = .mult)

/-- The units of one cycle have the instruction. -/
structure OneCycle (s : State cfg) (op : Option (Op cfg)) : Prop where
  alu : any s.aluValidQ = decide (op.map Op.fu = some .alu)
  csr : any s.csrValidQ = decide (op.map Op.fu = some .csr)
  aes : any s.aesValidQ = decide (op.map Op.fu = some .aes)
  select : any (oneCycleSelect s) = op.isSome
  data : ∀ o ∈ op, oneCycleData s = o.data
  unit : ∀ o ∈ op, o.fu ∈ fluFus ∧ o.fu ≠ .mult
  bits : ∀ o ∈ op, o.fu = .aes →
    usedBits o.data.operation s.origInstrAesBits = usedBits o.data.operation o.origInstr
  target : ∀ o ∈ op, o.fu = .ctrlFlow → s.pcO = o.pc ∧ s.isCompressedO = o.isCompressed

namespace Presents

variable {s : State cfg} {port : Fin 2} {op : Option (Op cfg)}

theorem oneCycleSelect_eq (presents : Presents s port op) :
    oneCycleSelect s port = (op.filter fun o => o.fu ≠ .mult).isSome := by
  rcases op with _ | o
  · simp [oneCycleSelect, presents.alu, presents.branch, presents.csr, presents.aes]
  · have unit := presents.unit o rfl
    simp only [fluFus, List.mem_cons, List.not_mem_nil, or_false] at unit
    rcases unit with fu | fu | fu | fu | fu <;>
      simp [oneCycleSelect, presents.alu, presents.branch, presents.csr, presents.aes, fu,
        Option.filter]

/-- An instruction is in one unit. -/
theorem toNat_valid (presents : Presents s port op) :
    (s.aluValidQ port).toNat + (s.branchValidQ port).toNat + (s.csrValidQ port).toNat +
      (s.aesValidQ port).toNat = (oneCycleSelect s port).toNat := by
  simp only [oneCycleSelect, presents.alu, presents.branch, presents.csr, presents.aes]
  rcases op with _ | o
  · rfl
  · simp only [Option.map_some, Option.some.injEq]
    cases o.fu <;> rfl

theorem multValidQ_eq (presents : Presents s port op) :
    s.multValidQ port = (op.filter fun o => o.fu = .mult).isSome := by
  rw [presents.mult]
  rcases op with _ | o
  · rfl
  · by_cases multiplies : o.fu = .mult <;> simp [Option.filter, multiplies]

end Presents

/-- The multiplier and the divider have the instruction. -/
structure MultCycle (s : State cfg) (op : Option (Op cfg)) : Prop where
  valid : any s.multValidQ = op.isSome
  data : ∀ o ∈ op, multData s = o.data
  fu : ∀ o ∈ op, o.fu = .mult
  decoded : ∀ o ∈ op, o.isMul = true ∨ o.data.operation ∈ divOperations

section Select

variable {s : State cfg} {port : Fin 2} {op : Op cfg}

/-- Only the one port has its bit set. -/
theorem any_eq_of_other {valid : Fin 2 → Bool}
    (other : ∀ second, second ≠ port → valid second = false) : any valid = valid port := by
  match port with
  | 0 => simp [any, other 1 (by decide)]
  | 1 => simp [any, other 0 (by decide)]

theorem selectData_of_other {select : Fin 2 → Bool}
    (superscalar : port = 1 → cfg.superscalarEn = true)
    (selected : select port = true) (other : ∀ second, second ≠ port → select second = false) :
    selectData s select = s.fuDataQ port := by
  match port with
  | 0 => simp [selectData, other 1 (by decide), selected]
  | 1 => simp [selectData, selected, superscalar rfl]

theorem oneCycle_none (unselected : ∀ port, oneCycleSelect s port = false) : OneCycle s none := by
  have first := unselected 0
  have second := unselected 1
  simp only [oneCycleSelect, Bool.or_eq_false_iff] at first second
  exact
    { alu := by simp [any, first, second]
      csr := by simp [any, first, second]
      aes := by simp [any, first, second]
      select := by simp [any, oneCycleSelect, first, second]
      data := by simp
      unit := by simp
      bits := by simp
      target := by simp }

theorem oneCycle_some (presents : Presents s port (some op)) (single : op.fu ≠ .mult)
    (superscalar : port = 1 → cfg.superscalarEn = true)
    (other : ∀ second, second ≠ port → oneCycleSelect s second = false) :
    OneCycle s (some op) := by
  have selected : oneCycleSelect s port = true := by
    rw [presents.oneCycleSelect_eq]
    simp [Option.filter, single]
  have quiet : ∀ second, second ≠ port → s.aluValidQ second = false ∧
      s.csrValidQ second = false ∧ s.aesValidQ second = false := by
    intro second apart
    have unselected := other second apart
    simp only [oneCycleSelect, Bool.or_eq_false_iff] at unselected
    exact ⟨unselected.1.1.1, unselected.1.2, unselected.2⟩
  exact
    { alu := by
        rw [any_eq_of_other fun second apart => (quiet second apart).1]
        exact presents.alu
      csr := by
        rw [any_eq_of_other fun second apart => (quiet second apart).2.1]
        exact presents.csr
      aes := by
        rw [any_eq_of_other fun second apart => (quiet second apart).2.2]
        exact presents.aes
      select := by
        rw [any_eq_of_other other, selected]
        rfl
      data := by
        intro o same
        rw [oneCycleData, selectData_of_other superscalar selected other]
        exact presents.data o same
      unit := by
        intro o same
        cases same
        exact ⟨presents.unit op rfl, single⟩
      bits := presents.bits
      target := presents.target }

theorem multCycle_none (unselected : ∀ port, s.multValidQ port = false) : MultCycle s none where
  valid := by simp [any, unselected]
  data := by simp
  fu := by simp
  decoded := by simp

theorem multCycle_some (presents : Presents s port (some op)) (multiplies : op.fu = .mult)
    (superscalar : port = 1 → cfg.superscalarEn = true)
    (other : ∀ second, second ≠ port → s.multValidQ second = false) :
    MultCycle s (some op) := by
  have selected : s.multValidQ port = true := by simp [presents.mult, multiplies]
  exact
    { valid := by
        rw [any_eq_of_other other, selected]
        rfl
      data := by
        intro o same
        rw [multData, selectData_of_other superscalar selected other]
        exact presents.data o same
      fu := by
        intro o same
        cases same
        exact multiplies
      decoded := by
        intro o same
        cases same
        exact presents.decoded op rfl multiplies }

end Select

namespace Stage

variable {s : State cfg} {held : List (Nat × Op cfg)} {first second : Option (Op cfg)}

/-- At most one port has an instruction of a kind that is not issued in pairs. -/
theorem selected (stage : Stage s held first second) (kind : Op cfg → Bool)
    {select : Fin 2 → Bool} (firstSelect : select 0 = (first.filter kind).isSome)
    (secondSelect : select 1 = (second.filter kind).isSome)
    (single : ∀ a ∈ first, ∀ b ∈ second, ¬(kind a = true ∧ kind b = true)) :
    ((first.filter kind).or (second.filter kind) = none ∧ ∀ port, select port = false) ∨
      ∃ port op, (first.filter kind).or (second.filter kind) = some op ∧
        Presents s port (some op) ∧ kind op = true ∧ (port = 1 → cfg.superscalarEn = true) ∧
        ∀ other, other ≠ port → select other = false := by
  cases filtered : first.filter kind with
  | some a =>
      rcases Option.filter_eq_some_iff.mp filtered with ⟨same, isKind⟩
      have presents := stage.presentsFirst
      rw [same] at presents
      refine Or.inr ⟨0, a, rfl, presents, isKind, by simp, fun other apart => ?_⟩
      obtain rfl : other = 1 := by omega
      rw [secondSelect]
      cases second with
      | none => rfl
      | some b =>
          have unlike := single a same b rfl
          simpa [isKind, Option.filter] using unlike
  | none =>
      rw [filtered] at firstSelect
      cases filteredSecond : second.filter kind with
      | some b =>
          rcases Option.filter_eq_some_iff.mp filteredSecond with ⟨same, isKind⟩
          have presents := stage.presentsSecond
          rw [same] at presents
          refine Or.inr ⟨1, b, rfl, presents, isKind,
            fun _ => stage.superscalar (by simp [same]), fun other apart => ?_⟩
          obtain rfl : other = 0 := by omega
          exact firstSelect
      | none =>
          rw [filteredSecond] at secondSelect
          refine Or.inl ⟨rfl, fun port => ?_⟩
          match port with
          | 0 => exact firstSelect
          | 1 => exact secondSelect

theorem oneCycle (stage : Stage s held first second) : OneCycle s (quick first second) := by
  have cases := stage.selected (fun op => op.fu ≠ .mult)
    stage.presentsFirst.oneCycleSelect_eq stage.presentsSecond.oneCycleSelect_eq
    (fun a isFirst b isSecond => by
      have unlike := stage.apart a isFirst b isSecond
      simp only [decide_eq_true_eq]
      tauto)
  rcases cases with ⟨none, unselected⟩ | ⟨port, op, some, presents, single, superscalar, other⟩
  · rw [quick, none]
    exact oneCycle_none unselected
  · rw [quick, some]
    exact oneCycle_some presents (by simpa using single) superscalar other

theorem multCycle (stage : Stage s held first second) : MultCycle s (slow first second) := by
  have cases := stage.selected (fun op => op.fu = .mult)
    stage.presentsFirst.multValidQ_eq stage.presentsSecond.multValidQ_eq
    (fun a isFirst b isSecond => by
      have unlike := stage.apart a isFirst b isSecond
      simp only [decide_eq_true_eq]
      tauto)
  rcases cases with ⟨none, unselected⟩ | ⟨port, op, some, presents, multiplies, superscalar, other⟩
  · rw [slow, none]
    exact multCycle_none unselected
  · rw [slow, some]
    exact multCycle_some presents (by simpa using multiplies) superscalar other

/-- Behind a multiplication and while the divider works nothing takes one cycle. -/
theorem quick_eq_none (stage : Stage s held first second)
    (busy : s.mulValidQ = true ∨ s.serdiv.stateQ ≠ .idle) : quick first second = none := by
  rcases busy with mul | div
  · rcases stage.behindMul mul with ⟨isFirst, isSecond⟩
    simp only [quick, Option.or_eq_none_iff, Option.filter_eq_none_iff]
    exact ⟨fun op member => by simp [isFirst op member],
      fun op member => by simp [isSecond op member]⟩
  · rcases stage.behindDiv div with ⟨isFirst, isSecond⟩
    subst isFirst isSecond
    rfl

end Stage

/-! ## The result of the port -/

section Result

variable {s : State cfg} {op : Op cfg}

theorem multValid_of_idle (mul : s.mulValidQ = false) (div : s.serdiv.stateQ = .idle) :
    multValid s = false := by
  simp [multValid, divValid, Serdiv.outVld, mul, div]

/-- The result of an instruction of one cycle. -/
theorem writeBack_of_oneCycle (units : Units cfg) (one : OneCycle s (some op))
    (free : multValid s = false) : writeBack units s = [op.writes units] := by
  rcases one.unit op rfl with ⟨unit, single⟩
  have valid : fluValid s = true := by simp [fluValid, one.select]
  have data := one.data op rfl
  have transId : fluTransId s = op.data.transId := by simp [fluTransId, free, data]
  have result : fluResult units s = op.result units := by
    simp only [fluResult, one.alu, one.csr, one.aes, free, data]
    simp only [fluFus, List.mem_cons, List.not_mem_nil, or_false] at unit
    rcases unit with fu | fu | fu | fu | fu
    · simp [fu, Op.result]
    · have target := one.target op rfl fu
      simp [fu, Op.result, target]
    · simp [fu, Op.result]
    · simp [fu, Op.result, one.bits op rfl fu]
    · exact absurd fu single
  simp [writeBack, valid, transId, result, Op.writes]

theorem writeBack_of_none (units : Units cfg) (one : OneCycle s none)
    (free : multValid s = false) : writeBack units s = [] := by
  simp [writeBack, fluValid, one.select, free]

theorem writeBack_of_mult (units : Units cfg) (one : OneCycle s none) (busy : multValid s = true)
    (transId : multTransId s = op.data.transId) (result : multResult s = op.result units) :
    writeBack units s = [op.writes units] := by
  simp [writeBack, fluValid, busy, fluTransId, fluResult, one.alu, one.csr, transId, result,
    Op.writes]

end Result

theorem Dividing.regs_eq {s : State cfg} {age : Nat} {op : Op cfg} (dividing : Dividing s age op)
    (valid : divValid s = true) : s.serdiv.regs = op.divided := by
  cases state : s.serdiv.stateQ with
  | idle => exact absurd state dividing.under_way
  | divide =>
      have known : Serdiv.known s.serdiv.regs = true := by
        simpa [divValid, Serdiv.outVld, state] using valid
      rw [← (dividing.divide state).1, Serdiv.divided, if_pos known]
  | finish => exact (dividing.finish state).1

theorem count_true_cons (first : Bool) (rest : List Bool) :
    (first :: rest).count true = first.toNat + rest.count true := by
  cases first
  · simp
  · simp [Nat.add_comm]

theorem completes_one (s : State cfg) (op : Op cfg) :
    completes s (1, op) = decide (op.fu ≠ .mult) := by
  by_cases multiplies : op.fu = .mult <;> simp [completes, multiplies]

theorem filter_toList_append {α : Type} {first second : Option α} {kind : α → Bool}
    (single : ∀ a ∈ first, ∀ b ∈ second, ¬(kind a = true ∧ kind b = true)) :
    (first.toList ++ second.toList).filter kind =
      ((first.filter kind).or (second.filter kind)).toList := by
  rcases first with _ | a <;> rcases second with _ | b
  · rfl
  · cases isKind : kind b <;> simp [Option.filter, isKind]
  · cases isKind : kind a <;> simp [Option.filter, isKind]
  · have unlike := single a rfl b rfl
    cases firstKind : kind a <;> cases secondKind : kind b <;>
      simp_all [Option.filter]

namespace Stage

variable {s : State cfg} {held : List (Nat × Op cfg)} {first second : Option (Op cfg)}
  {h : History cfg}

theorem filter_quick (stage : Stage s held first second) :
    (first.toList ++ second.toList).filter (fun op => op.fu ≠ .mult) =
      (quick first second).toList := by
  refine filter_toList_append fun a isFirst b isSecond => ?_
  have unlike := stage.apart a isFirst b isSecond
  simp only [decide_eq_true_eq]
  tauto

theorem filter_slow (stage : Stage s held first second) :
    (first.toList ++ second.toList).filter (fun op => op.fu = .mult) =
      (slow first second).toList := by
  refine filter_toList_append fun a isFirst b isSecond => ?_
  have unlike := stage.apart a isFirst b isSecond
  simp only [decide_eq_true_eq]
  tauto

theorem due_eq (stage : Stage s held first second)
    (inFlight : h.inFlight = held ++ (first.toList ++ second.toList).map fun op => (1, op)) :
    due s h = (held.filter (completes s)).map Prod.snd ++ (quick first second).toList := by
  rw [due, inFlight, List.filter_append, List.map_append, List.filter_map, List.map_map,
    ← stage.filter_quick]
  congr 1
  simp [Function.comp_def, completes_one]

theorem staying_eq (stage : Stage s held first second)
    (inFlight : h.inFlight = held ++ (first.toList ++ second.toList).map fun op => (1, op)) :
    staying s h = (held.filter fun entry => !completes s entry) ++
      (slow first second).toList.map fun op => (1, op) := by
  rw [staying, inFlight, List.filter_append, List.filter_map, ← stage.filter_slow]
  congr 2
  simp [Function.comp_def, completes_one]

/-- The port has the result of the instruction that is due. -/
theorem writeBack_eq (units : Units cfg) (stage : Stage s held first second)
    (inFlight : h.inFlight = held ++ (first.toList ++ second.toList).map fun op => (1, op)) :
    writeBack units s = (due s h).map (Op.writes units) := by
  rw [stage.due_eq inFlight]
  have one := stage.oneCycle
  cases stage.isHeld with
  | none mul div =>
      have free := multValid_of_idle mul div
      cases some : quick first second with
      | none =>
          rw [some] at one
          exact writeBack_of_none units one free
      | some op =>
          rw [some] at one
          exact writeBack_of_oneCycle units one free
  | mul op valid div fu isMul regs =>
      have none := stage.quick_eq_none (Or.inl valid)
      rw [none] at one ⊢
      have completed : completes s (2, op) = true := by simp [completes, fu, isMul]
      simp only [List.filter_cons, completed, if_true, List.filter_nil, List.map_cons,
        List.map_nil, Option.toList_none, List.append_nil]
      refine writeBack_of_mult units one (by simp [multValid, valid]) ?_ ?_
      · simp [multTransId, valid, regs, Multiplier.latch]
      · simp [multResult, valid, regs, Op.result, fu, isMul]
  | div age op mul fu isDiv dividing =>
      have none := stage.quick_eq_none (Or.inr dividing.under_way)
      rw [none] at one ⊢
      have completed : completes s (age, op) = divValid s := by
        simp [completes, fu, isDiv, dividing.age_ge]
      simp only [List.filter_cons, completed, List.filter_nil, Option.toList_none,
        List.append_nil]
      cases valid : divValid s with
      | true =>
          have regs := dividing.regs_eq valid
          refine writeBack_of_mult units one (by simp [multValid, valid]) ?_ ?_
          · simp [multTransId, mul, dividing.transId]
          · simp [multResult, mul, regs, Op.result, fu, isDiv, ← dividing.word]
      | false => exact writeBack_of_none units one (by simp [multValid, mul, valid])

theorem not_both_selected (stage : Stage s held first second) :
    ¬(oneCycleSelect s 0 = true ∧ oneCycleSelect s 1 = true) := by
  rw [stage.presentsFirst.oneCycleSelect_eq, stage.presentsSecond.oneCycleSelect_eq]
  rintro ⟨isFirst, isSecond⟩
  rcases Option.isSome_iff_exists.mp isFirst with ⟨a, filteredFirst⟩
  rcases Option.isSome_iff_exists.mp isSecond with ⟨b, filteredSecond⟩
  rcases Option.filter_eq_some_iff.mp filteredFirst with ⟨sameFirst, singleFirst⟩
  rcases Option.filter_eq_some_iff.mp filteredSecond with ⟨sameSecond, singleSecond⟩
  have unlike := stage.apart a sameFirst b sameSecond
  simp only [decide_eq_true_eq] at singleFirst singleSecond
  tauto

/-- A division takes at most as many cycles as its operands have bits, and two more. -/
theorem age_le (stage : Stage s held first second) :
    ∀ entry ∈ held, entry.1 ≤ cfg.xlen + 2 := by
  intro entry member
  cases stage.isHeld with
  | none mul div => cases member
  | mul op valid div fu isMul regs =>
      cases List.mem_singleton.mp member
      exact Nat.le_add_left 2 _
  | div age op mul fu isDiv dividing =>
      cases List.mem_singleton.mp member
      cases state : s.serdiv.stateQ with
      | idle => exact absurd state dividing.under_way
      | divide =>
          have bound := (dividing.divide state).2
          simp only
          omega
      | finish => exact (dividing.finish state).2

/-- At most one unit has a result. -/
theorem exclusive (stage : Stage s held first second) : (validUnits s).count true ≤ 1 := by
  have countFirst := stage.presentsFirst.toNat_valid
  have countSecond := stage.presentsSecond.toNat_valid
  have single := stage.not_both_selected
  have behind : s.mulValidQ = true ∨ s.serdiv.stateQ ≠ .idle → any (oneCycleSelect s) = false := by
    intro busy
    have one := stage.oneCycle
    rw [stage.quick_eq_none busy] at one
    exact one.select
  have total : (validUnits s).count true = (oneCycleSelect s 0).toNat +
      (oneCycleSelect s 1).toNat + s.mulValidQ.toNat + (divValid s).toNat := by
    simp only [validUnits, count_true_cons, List.count_nil]
    omega
  rw [total]
  cases stage.isHeld with
  | none mul div =>
      have idle : divValid s = false := by simp [divValid, Serdiv.outVld, div]
      rw [mul, idle]
      cases isFirst : oneCycleSelect s 0 <;> cases isSecond : oneCycleSelect s 1 <;> simp_all
  | mul op valid div fu isMul regs =>
      have idle : divValid s = false := by simp [divValid, Serdiv.outVld, div]
      have none := behind (Or.inl valid)
      simp only [any, Bool.or_eq_false_iff] at none
      simp [valid, idle, none]
  | div age op mul fu isDiv dividing =>
      have none := behind (Or.inr dividing.under_way)
      simp only [any, Bool.or_eq_false_iff] at none
      rw [mul, none.1, none.2]
      cases divValid s <;> decide

end Stage

/-! ## One cycle -/

section Step

variable {s : State cfg} {i : Input cfg} {held : List (Nat × Op cfg)}
  {first second : Option (Op cfg)} {h : History cfg}

theorem mul_not_div {op : FuOp} (isMul : op ∈ Multiplier.operations) : op ∉ divOperations := by
  simp only [Multiplier.operations, List.mem_cons, List.not_mem_nil, or_false] at isMul
  rcases isMul with rfl | rfl | rfl | rfl | rfl | rfl | rfl | rfl <;> decide

theorem two_pow_cntBits (cfg : Cfg) : 2 ^ Serdiv.cntBits cfg = cfg.xlen := by
  rw [Serdiv.cntBits, Cfg.xlen]
  split <;> rfl

theorem held_of_multCycle {op : Option (Op cfg)} (mult : MultCycle s op)
    (free : s.serdiv.stateQ = .idle) (kept : i.flush = false) :
    Held (step s i) (op.toList.map fun op => (2, op)) := by
  cases op with
  | none =>
      have idle : any s.multValidQ = false := mult.valid
      refine Held.none ?_ ?_
      · simp [step, mulValidOp, idle]
      · simp [step, Serdiv.step, Serdiv.advances, free, serdivInput, divValidOp, idle]
  | some op =>
      have busy : any s.multValidQ = true := mult.valid
      have data := mult.data op rfl
      by_cases isMul : op.data.operation ∈ Multiplier.operations
      · refine Held.mul op ?_ ?_ (mult.fu op rfl) (by simpa [Op.isMul] using isMul) ?_
        · simp [step, mulValidOp, busy, data, isMul, kept]
        · have noDiv := mul_not_div isMul
          simp [step, Serdiv.step, Serdiv.advances, free, serdivInput, divValidOp, data, noDiv]
        · simp [step, data]
      · have isDiv : op.data.operation ∈ divOperations := by
          have decoded := mult.decoded op rfl
          simpa [Op.isMul, isMul] using decoded
        have loads : divValidOp s i = true := by simp [divValidOp, busy, data, isDiv, kept]
        refine Held.div 2 op ?_ (mult.fu op rfl) (by simpa [Op.isMul] using isMul) ?_
        · simp [step, mulValidOp, data, isMul]
        · have state : (step s i).serdiv.stateQ = .divide := by
            simp [step, Serdiv.step, Serdiv.advances, free, serdivInput, loads, kept]
          have regs : (step s i).serdiv.regs = Serdiv.load (divRequest op.data) := by
            simp [step, Serdiv.step, free, serdivInput, loads, kept, data]
          exact
            { under_way := by simp [state]
              transId := by
                rw [regs]
                rfl
              word := by
                simp only [step, busy, data, isDiv, isWordOp]
                cases cfg.isXlen64 <;> simp
              divide := fun _ => by
                refine ⟨by rw [regs]; rfl, ?_⟩
                have counts := (step s i).serdiv.regs.cntQ.isLt
                rw [two_pow_cntBits] at counts
                omega
              finish := by simp [state]
              age_ge := Nat.le_refl 2 }

/-- The divider goes on, and its result is taken when it is there. -/
theorem held_of_dividing {age : Nat} {op : Op cfg} (mult : MultCycle s none)
    (mul : s.mulValidQ = false) (fu : op.fu = .mult) (isDiv : op.isMul = false)
    (dividing : Dividing s age op) (kept : i.flush = false) :
    Held (step s i)
      (([(age, op)].filter fun entry => !completes s entry).map aged) := by
  have completed : completes s (age, op) = divValid s := by
    simp [completes, fu, isDiv, dividing.age_ge]
  have idle : any s.multValidQ = false := mult.valid
  have noMul : (step s i).mulValidQ = false := by simp [step, mulValidOp, idle]
  have word : (step s i).wordOpQ = s.wordOpQ := by simp [step, idle]
  cases state : s.serdiv.stateQ with
  | idle => exact absurd state dividing.under_way
  | finish =>
      have valid : divValid s = true := by simp [divValid, Serdiv.outVld, state]
      simp only [List.filter_cons, completed, valid, Bool.not_true, List.filter_nil]
      refine Held.none noMul ?_
      simp [step, Serdiv.step, Serdiv.advances, state, serdivInput, mul]
  | divide =>
      rcases dividing.divide state with ⟨same, bound⟩
      cases known : Serdiv.known s.serdiv.regs with
      | true =>
          have valid : divValid s = true := by simp [divValid, Serdiv.outVld, state, known]
          simp only [List.filter_cons, completed, valid, Bool.not_true, List.filter_nil]
          refine Held.none noMul ?_
          simp [step, Serdiv.step, Serdiv.advances, state, serdivInput, mul, known]
      | false =>
          have invalid : divValid s = false := by simp [divValid, Serdiv.outVld, state, known]
          have regs : (step s i).serdiv.regs = Serdiv.divide s.serdiv.regs := by
            simp [step, Serdiv.step, state, known, serdivInput, kept]
          simp only [List.filter_cons, completed, invalid, Bool.not_false, if_true,
            List.filter_nil, List.map_cons, List.map_nil, aged]
          refine Held.div (age + 1) op noMul fu isDiv ?_
          by_cases last : s.serdiv.regs.cntQ = 0
          · have next : (step s i).serdiv.stateQ = .finish := by
              simp [step, Serdiv.step, Serdiv.advances, state, known, serdivInput, kept, last]
            exact
              { under_way := by simp [next]
                transId := by rw [regs, Serdiv.idQ_divide, dividing.transId]
                word := by rw [word, dividing.word]
                divide := by simp [next]
                finish := fun _ => by
                  refine ⟨?_, by omega⟩
                  rw [regs, ← same, Serdiv.divided_of_zero known last]
                age_ge := Nat.le_succ_of_le dividing.age_ge }
          · have next : (step s i).serdiv.stateQ = .divide := by
              simpa [step, Serdiv.step, Serdiv.advances, state, known, serdivInput, kept]
                using last
            exact
              { under_way := by simp [next]
                transId := by rw [regs, Serdiv.idQ_divide, dividing.transId]
                word := by rw [word, dividing.word]
                divide := fun _ => by
                  rw [regs, Serdiv.divided_divide_of_pos known last]
                  refine ⟨same, ?_⟩
                  have counted := Serdiv.toNat_cntQ_divide last
                  omega
                finish := by simp [next]
                age_ge := Nat.le_succ_of_le dividing.age_ge }

/-- The instructions that stay in the units. -/
theorem Stage.held_step (stage : Stage s held first second)
    (inFlight : h.inFlight = held ++ (first.toList ++ second.toList).map fun op => (1, op)) :
    Held (step s i) (if i.flush then [] else (staying s h).map aged) := by
  cases flush : i.flush with
  | true =>
      rw [if_pos rfl]
      refine Held.none ?_ ?_
      · simp [step, mulValidOp, flush]
      · simp [step, Serdiv.step, serdivInput, flush]
  | false =>
      rw [if_neg Bool.false_ne_true, stage.staying_eq inFlight, List.map_append, List.map_map]
      have mult := stage.multCycle
      cases stage.isHeld with
      | none mul div => exact held_of_multCycle mult div flush
      | mul op valid div fu isMul regs =>
          have completed : completes s (2, op) = true := by simp [completes, fu, isMul]
          simp only [List.filter_cons, completed, Bool.not_true, List.filter_nil]
          exact held_of_multCycle mult div flush
      | div age op mul fu isDiv dividing =>
          rcases stage.behindDiv dividing.under_way with ⟨isFirst, isSecond⟩
          subst isFirst isSecond
          simpa [slow] using held_of_dividing mult mul fu isDiv dividing flush

theorem Stage.step (stage : Stage s held first second)
    (inFlight : h.inFlight = held ++ (first.toList ++ second.toList).map fun op => (1, op))
    (env : Environment i) (separate : Separate s i) :
    Stage (Execute.step s i) (if i.flush then [] else (staying s h).map aged)
      (startedOp s i 0) (startedOp s i 1) where
  isHeld := stage.held_step inFlight
  presentsFirst := presents_step env separate 0
  presentsSecond := presents_step env separate 1
  superscalar started := by
    rcases Option.ne_none_iff_exists'.mp started with ⟨op, same⟩
    exact superscalar_of_startsIn (fu_mem_of_startedOp same).2
  apart a isFirst b isSecond := by
    rcases fu_mem_of_startedOp isFirst with ⟨firstUnit, firstStarts⟩
    rcases fu_mem_of_startedOp isSecond with ⟨secondUnit, secondStarts⟩
    rcases startsIn_pair firstUnit secondUnit firstStarts secondStarts with
      apart | apart | ⟨crypto, other⟩ | ⟨crypto, other⟩
    · exact Or.inl apart
    · exact Or.inr apart
    · rw [crypto] at firstStarts
      have alone := separate.first firstStarts
      simp only [List.mem_cons, List.not_mem_nil, or_false] at other
      rcases other with fu | fu | fu <;> simp_all
    · rw [crypto] at secondStarts
      have alone := separate.second secondStarts
      simp only [List.mem_cons, List.not_mem_nil, or_false] at other
      rcases other with fu | fu <;> simp_all
  behindMul busy := by
    have multiplies : any s.multValidQ = true := by
      simp only [Execute.step, mulValidOp, Bool.and_eq_true] at busy
      exact busy.1.2
    have onlyMult : ∀ port, ∀ op ∈ startedOp s i port, op.fu = .mult := by
      intro port op started
      rcases fu_mem_of_startedOp started with ⟨unit, starts⟩
      by_contra other
      rw [startsIn_of_multValid unit other multiplies] at starts
      cases starts
    exact ⟨onlyMult 0, onlyMult 1⟩
  behindDiv busy := by
    have blocked : fluReady s i = false := by
      have waits : Serdiv.inRdy s.serdiv (serdivInput s i) = false := by
        rw [Bool.eq_false_iff]
        intro ready
        simp only [Serdiv.inRdy, Bool.and_eq_true, decide_eq_true_eq, Bool.not_eq_true'] at ready
        exact busy (by simp [Execute.step, Serdiv.step, Serdiv.advances, ready])
      simp [fluReady, waits]
    have nothing : ∀ port, startedOp s i port = none := by
      intro port
      rw [Option.eq_none_iff_forall_not_mem]
      intro op started
      rcases fu_mem_of_startedOp started with ⟨unit, starts⟩
      rw [startsIn_of_not_ready unit blocked] at starts
      cases starts
    exact ⟨nothing 0, nothing 1⟩

end Step

/-! ## The invariant -/

/-- The instructions in flight are those of the registers, and the results are those of the
instructions that were due. -/
structure Follows (units : Units cfg) (s : State cfg) (h : History cfg) : Prop where
  stage : ∃ held first second, Stage s held first second ∧
    h.inFlight = held ++ (first.toList ++ second.toList).map fun op => (1, op)
  written : h.written = h.done.map (Op.writes units)
  conserved : h.issued.Perm (h.done ++ h.flushed ++ h.inFlight.map Prod.snd)

theorem map_snd_aged (entries : List (Nat × Op cfg)) :
    (entries.map aged).map Prod.snd = entries.map Prod.snd := by
  simp [Function.comp_def, aged]

theorem conserved_record (units : Units cfg) {s : State cfg} {i : Input cfg} {h : History cfg}
    (conserved : h.issued.Perm (h.done ++ h.flushed ++ h.inFlight.map Prod.snd)) :
    (record units s i h).issued.Perm
      ((record units s i h).done ++ (record units s i h).flushed ++
        (record units s i h).inFlight.map Prod.snd) := by
  have split : (h.inFlight.map Prod.snd).Perm (due s h ++ (staying s h).map Prod.snd) := by
    rw [due, staying, ← List.map_append]
    exact ((List.filter_append_perm (completes s) h.inFlight).symm).map Prod.snd
  have ops : ((startedOps s i).map fun op => (1, op)).map Prod.snd = startedOps s i := by
    simp [Function.comp_def]
  have total : h.issued.Perm (h.done ++ h.flushed ++ (due s h ++ (staying s h).map Prod.snd)) :=
    conserved.trans (split.append_left _)
  simp only [record, List.map_append, ops]
  rw [List.perm_iff_count] at total ⊢
  intro op
  have counted := total op
  simp only [List.count_append] at counted ⊢
  cases i.flush
  · simp only [Bool.false_eq_true, if_false, map_snd_aged, List.count_nil]
    omega
  · simp only [if_true, List.map_nil, List.count_nil]
    omega

namespace Follows

variable {units : Units cfg} {s : State cfg} {i : Input cfg} {h : History cfg}

theorem step (follows : Follows units s h) (env : Environment i) (separate : Separate s i) :
    Follows units (Execute.step s i) (record units s i h) where
  stage := by
    rcases follows.stage with ⟨held, first, second, stage, inFlight⟩
    exact ⟨_, _, _, stage.step inFlight env separate, rfl⟩
  written := by
    rcases follows.stage with ⟨held, first, second, stage, inFlight⟩
    simp only [record, List.map_append, follows.written, stage.writeBack_eq units inFlight]
  conserved := conserved_record units follows.conserved

theorem writtenOnce (follows : Follows units s h) : WrittenOnce units s h := by
  rcases follows.stage with ⟨held, first, second, stage, inFlight⟩
  exact
    { exclusive := stage.exclusive
      written := follows.written
      conserved := follows.conserved
      bounded := by
        intro entry member
        rw [inFlight, List.mem_append] at member
        rcases member with isHeld | recent
        · exact stage.age_le entry isHeld
        · rcases List.mem_map.mp recent with ⟨op, _, same⟩
          rw [← same]
          exact Nat.le_add_left 1 _ }

end Follows

theorem follows_reset (units : Units cfg) : Follows units (reset : State cfg) .initial where
  stage := by
    have empty : ∀ port, Presents (reset : State cfg) port none := fun port =>
      { alu := rfl
        branch := rfl
        csr := rfl
        aes := rfl
        mult := rfl
        unit := by simp
        data := by simp
        bits := by simp
        target := by simp
        decoded := by simp }
    exact ⟨[], none, none,
      { isHeld := Held.none rfl rfl
        presentsFirst := empty 0
        presentsSecond := empty 1
        superscalar := by simp
        apart := by simp
        behindMul := by simp [reset]
        behindDiv := by simp }, rfl⟩
  written := rfl
  conserved := List.Perm.refl _

/-- In a run that keeps the scalar cryptography apart, each instruction of the port is written
back once, with its identifier and its result. -/
theorem written_back_once (units : Units cfg) {inputs : List (Input cfg)}
    (along : (recorded units).RunAlong
      (fun state i => Environment i ∧ Separate state.1 i) inputs) :
    WrittenOnce units ((recorded units).run inputs).1 ((recorded units).run inputs).2 := by
  have follows := (recorded units).run_invariant_along
    (fun state => Follows units state.1 state.2) (follows_reset units)
    (fun _ _ follows cycle => follows.step cycle.1 cycle.2) along
  exact follows.writtenOnce

/-! ## Runs -/

instance decidableEnvironment (i : Input cfg) : Decidable (Environment i) :=
  decidable_of_iff
    ((∀ port, (i.ports.instr port).fu = .mult →
        (i.ports.instr port).instr.op ∈ Multiplier.operations ∨
          (i.ports.instr port).instr.op ∈ divOperations) ∧
      ∀ port, (i.ports.instr port).fu = .aes → cfg.zkn = true)
    ⟨fun holds => ⟨holds.1, holds.2⟩, fun env => ⟨env.mult, env.aes⟩⟩

instance decidableSeparate (s : State cfg) (i : Input cfg) : Decidable (Separate s i) :=
  decidable_of_iff
    ((startsIn s i .aes 0 = true → startsIn s i .alu 1 = false ∧
        startsIn s i .ctrlFlow 1 = false ∧ startsIn s i .aes 1 = false) ∧
      (startsIn s i .aes 1 = true → startsIn s i .alu 0 = false ∧
        startsIn s i .ctrlFlow 0 = false) ∧
      (startsIn s i .aes 1 = true →
        usedBits (i.ports.instr 1).instr.op (i.origInstr 0) =
          usedBits (i.ports.instr 1).instr.op (i.origInstr 1)))
    ⟨fun holds => ⟨holds.1, holds.2.1, holds.2.2⟩,
      fun separate => ⟨separate.first, separate.second, separate.bits⟩⟩

/-- An adder, and the part of the cryptography that leaves out the substitutions. -/
def sampleUnits : Units Cfg.sample where
  alu data := data.operandA + data.operandB
  aes data _ := data.operandA ^^^ data.operandB

def sampleEntry (transId : Cfg.sample.TransId) (fu : Fu) (op : FuOp) : Issue.Entry Cfg.sample where
  instr := { pc := 4 * transId, op := op, isCompressed := false }
  transId := transId
  fu := fu
  rd := 1
  result := 0
  valid := false
  ex := { cause := 0, tval := 0, tval2 := 0, tinst := 0, gva := false, valid := false }
  predictAddress := 0
  isMacroInstr := false
  isLastMacroInstr := false
  isDoubleRdMacroInstr := false

/-- A cycle in which nothing is offered. -/
def Input.idle : Input Cfg.sample where
  ports :=
    { instr := fun _ => sampleEntry 0 .none .add
      valid := fun _ => false
      stallRaw := fun _ => false
      xTransactionAccepted := false
      xTransactionRejected := false }
  operandA _ := 7
  operandB _ := 2
  imm _ := 0
  origInstr _ := 0
  flushUnissued := false
  flush := false
  csrCommit := false
  fpuReady := true
  lsuReady := true
  fpuEarlyValid := false

/-- Two instructions are offered. -/
def Input.offer (i : Input Cfg.sample) (first second : Issue.Entry Cfg.sample) :
    Input Cfg.sample :=
  { i with
    ports := { i.ports with instr := fun port => if port = 0 then first else second,
                            valid := fun _ => true } }

/-- A multiplication beside an encryption, and a division beside a jump. -/
def multiplications : List (Input Cfg.sample) :=
  let idle := Input.idle
  [idle.offer (sampleEntry 0 .mult .mul) (sampleEntry 1 .aes .aes64es), idle,
    idle.offer (sampleEntry 2 .mult .div) (sampleEntry 3 .ctrlFlow .jalr), idle, idle, idle, idle,
    idle, idle]

theorem written_back_once_multiplications :
    WrittenOnce sampleUnits ((recorded sampleUnits).run multiplications).1
      ((recorded sampleUnits).run multiplications).2 :=
  written_back_once sampleUnits (by decide +kernel)

example : ((recorded sampleUnits).run multiplications).2.written =
    [(1, 5), (0, 14), (3, 16), (2, 3)] := by
  decide +kernel

/-- Two encryptions are issued together. -/
def encryptions : List (Input Cfg.sample) :=
  [Input.idle.offer (sampleEntry 0 .aes .aes64es) (sampleEntry 1 .aes .aes64es), .idle]

/-- Only the second one is written back. -/
theorem encryption_lost :
    (recorded sampleUnits).RunAlong (fun _ i => Environment i) encryptions ∧
      ((recorded sampleUnits).run encryptions).2.issued.map (fun op => op.data.transId) = [0, 1] ∧
      ((recorded sampleUnits).run encryptions).2.written.map Prod.fst = [1] ∧
      ¬WrittenOnce sampleUnits ((recorded sampleUnits).run encryptions).1
        ((recorded sampleUnits).run encryptions).2 := by
  refine ⟨by decide +kernel, by decide +kernel, by decide +kernel, ?_⟩
  intro once
  exact absurd once.written (by decide +kernel)

end Cva6Hpd.Execute
