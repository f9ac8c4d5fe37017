import Cva6Hpd.Execute.Branch
import Cva6Hpd.Pipeline.Core
import Cva6Hpd.Scoreboard.Entries
import Cva6Hpd.Commit.Dual

/-!
# Instructions of the wrong path

A control-flow instruction is resolved in the cycle after its issue, in which nothing else is
issued if it was mispredicted. So only the instruction that is issued beside it can be of the
wrong path, and this one the scoreboard cancels. The commit stage takes a cancelled instruction
without an effect, but for a trap of the trigger module; and the identifier by which it is
cancelled is not that of the branch if the instruction is one of the scalar cryptography.
-/

namespace Cva6Hpd.Pipeline

open Cva6Hpd.Ariane
open Cva6Hpd.Common
open Cva6Hpd.Hw
open Cva6Hpd.Scoreboard (Fu SbMem Departure)

variable {cfg : Cfg}

/-! ## Histories -/

/-- What the commit stage does to a register file or to the flags, or asks of another unit. -/
inductive Effect (cfg : Cfg) where
  | gpr
  | fpr
  | fflags
  | request (request : Commit.Request cfg.commit)

/-- The instructions are numbered in the order of their issue. -/
structure History (cfg : Cfg) where
  queue : Scoreboard.History Instr
  /-- The instructions that the commit ports acknowledged, and whether each was dropped. -/
  commits : List (Nat × Bool)
  /-- The effects, each with the instruction at the commit port that had it. -/
  effects : List (Nat × Effect cfg)
  /-- The instruction that the branch unit resolves. -/
  branch : Option Nat
  /-- The mispredicted instructions, each with the number of instructions that were issued up
  to the cycle in which it was resolved. -/
  mispredicts : List (Nat × Nat)

def History.initial : History cfg where
  queue := ⟨[], [], []⟩
  commits := []
  effects := []
  branch := none
  mispredicts := []

/-- The instruction was issued behind a mispredicted one before that was resolved. -/
def Wrong (h : History cfg) (n : Nat) : Prop :=
  ∃ mispredict ∈ h.mispredicts, mispredict.1 < n ∧ n < mispredict.2

section Record

variable (units : Execute.Units cfg.issue) (s : State cfg) (i : Input cfg) (h : History cfg)

def acknowledged : List (Nat × Bool) :=
  (commitAck s i).indices.map fun port =>
    (h.queue.left.length + port.val, Scoreboard.commitDrop s.scoreboard port)

def firstEffects (ports : Commit.Ports cfg.commit) (i : Commit.Input) : List (Effect cfg) :=
  Commit.given (Commit.firstWeGpr ports.first i) .gpr
    ++ Commit.given (Commit.firstWeFpr ports.first i) .fpr
    ++ Commit.given (Commit.firstWriteFflags ports.first i) .fflags
    ++ (Commit.requests ports i).map .request

def secondEffects (ports : Commit.Ports cfg.commit) (i : Commit.Input) : List (Effect cfg) :=
  Commit.given (Commit.secondWeGpr ports i) .gpr
    ++ Commit.given (Commit.secondWeFpr ports i) .fpr
    ++ Commit.given (Commit.secondWriteFflags ports i) .fflags

def cycleEffects : List (Nat × Effect cfg) :=
  (firstEffects (commitPorts s) i.commit).map (h.queue.left.length, ·)
    ++ (secondEffects (commitPorts s) i.commit).map (h.queue.left.length + 1, ·)

def recordQueue : Scoreboard.History Instr :=
  Scoreboard.record s.scoreboard (scoreboardInput s i units) h.queue

/-- The instruction that starts in the branch unit. -/
def startedBranch : Option Nat :=
  if Execute.startsIn s.execute (executeInput s i units) .ctrlFlow 0 then
    some h.queue.issued.length
  else if Execute.startsIn s.execute (executeInput s i units) .ctrlFlow 1 then
    some (h.queue.issued.length + 1)
  else none

def record : History cfg where
  queue := recordQueue units s i h
  commits := h.commits ++ acknowledged s i h
  effects := h.effects ++ cycleEffects s i h
  branch := startedBranch units s i h
  mispredicts :=
    h.mispredicts ++
      if mispredicts s i then
        h.branch.toList.map (·, (recordQueue units s i h).issued.length)
      else []

end Record

def recorded (units : Execute.Units cfg.issue) : Machine (State cfg × History cfg) (Input cfg) :=
  (machine units).withHistory History.initial (record units)

/-- The decoder gives the atomic operations to the store unit, and an instruction is valid
before it is executed only with an exception. -/
structure Environment (i : Input cfg) : Prop where
  amo : ∀ port, (i.decodedInstr port).instr.op.isAmo = true → (i.decodedInstr port).fu = .store
  valid : ∀ port, (i.decodedInstr port).valid = (i.decodedInstr port).ex.valid

/-- The queue of the scoreboard keeps its instructions, no instruction of the scalar
cryptography starts behind a control-flow instruction, and the trigger module does not trap at
a cancelled instruction. -/
structure Undisturbed (units : Execute.Units cfg.issue) (s : State cfg) (i : Input cfg) :
    Prop where
  regular : Scoreboard.Regular s.scoreboard (scoreboardInput s i units)
  apart : Execute.startsIn s.execute (executeInput s i units) .ctrlFlow 0 = true →
    Execute.startsIn s.execute (executeInput s i units) .aes 1 = false
  noTrap : Scoreboard.commitDrop s.scoreboard 0 = true →
    (cfg.sdtrig && !cfg.debugEn && i.commit.breakFromTrigger) = false

/-- The instructions of the wrong path have no effect: each issued instruction leaves once and
in order, the commit ports acknowledge no instruction twice, and drop exactly those of the wrong
path. -/
structure RightPath (h : History cfg) : Prop where
  conserved : h.queue.issued = h.queue.left.map Prod.fst ++ h.queue.window
  once : h.commits.Pairwise fun first second => first.1 < second.1
  committed : ∀ n, n ∈ h.commits.map Prod.fst ↔
    ∃ instr, h.queue.left[n]? = some (instr, Departure.commit)
  dropped : ∀ commit ∈ h.commits, commit.2 = true ↔ Wrong h commit.1
  quiet : ∀ effect ∈ h.effects, ¬Wrong h effect.1

/-! ## Ports in order -/

section Ports

variable {units : Execute.Units cfg.issue} {s : State cfg} {i : Input cfg}

theorem commitAck_of_secondAck
    (acks : Commit.secondAck (commitPorts s) i.commit = true) :
    ∃ there : 1 < cfg.scoreboard.nrCommitPorts,
      (commitPorts s).second = some (commitPort s ⟨1, there⟩) ∧
        Commit.firstAck (commitPorts s).first i.commit = true ∧
        Commit.pairs i.commit (commitPorts s).first (commitPort s ⟨1, there⟩) = true := by
  by_cases there : 1 < cfg.scoreboard.nrCommitPorts
  · have second : (commitPorts s).second = some (commitPort s ⟨1, there⟩) := dif_pos there
    rw [Commit.secondAck, second, Bool.and_eq_true] at acks
    exact ⟨there, second, acks⟩
  · have second : (commitPorts s).second = none := dif_neg there
    rw [Commit.secondAck, second] at acks
    cases acks

theorem commitAck_inOrder : (commitAck s i).InOrder := by
  intro low high order set
  rw [Fin.le_def] at order
  match place : high.val with
  | 0 =>
      have same : low = high := Fin.ext (by omega)
      rwa [same]
  | 1 =>
      rw [commitAck, place] at set
      rcases commitAck_of_secondAck set with ⟨_, _, first, _⟩
      match lower : low.val with
      | 0 =>
          rw [commitAck, lower]
          exact first
      | 1 =>
          rw [commitAck, lower]
          exact set
      | n + 2 => omega
  | n + 2 =>
      rw [commitAck, place] at set
      cases set

theorem commitValid_of_ack {port : Fin cfg.scoreboard.nrCommitPorts}
    (acks : commitAck s i port = true) :
    (Scoreboard.commitInstr s.scoreboard port).valid = true := by
  rcases place : port.val with _ | _ | n
  · rw [commitAck, place] at acks
    have considered := (Commit.considered_of_firstAck acks).1
    rw [Commit.considered, Bool.and_eq_true] at considered
    have same : port = 0 := Fin.ext place
    rw [same]
    exact considered.1
  · rw [commitAck, place] at acks
    rcases commitAck_of_secondAck acks with ⟨there, _, _, pairs⟩
    have same : port = ⟨1, there⟩ := Fin.ext place
    rw [same]
    exact (Commit.pairs_iff.mp pairs).2.2.1
  · rw [commitAck, place] at acks
    cases acks

theorem decoded_of_firstAck {status : Issue.Status}
    (acks : Issue.firstAck (issuePorts s i units) status = true)
    (port : Fin cfg.scoreboard.nrIssuePorts) (first : port.val = 0) :
    i.decodedInstrValid port = true := by
  have valid : (issuePorts s i units).valid 0 = true := by
    rw [Issue.firstAck] at acks
    split at acks
    · exact (Bool.and_eq_true_iff.mp acks).2
    · simp only [Issue.issueAck, Bool.and_eq_true] at acks
      exact acks.1.1
  have there : 0 < cfg.scoreboard.nrIssuePorts := first ▸ port.isLt
  have same : port = ⟨0, there⟩ := Fin.ext first
  rw [same]
  change atPort false _ 0 = true at valid
  rw [atPort] at valid
  split at valid
  · rw [Scoreboard.issueInstrValid, Bool.and_eq_true] at valid
    exact valid.1
  · cases valid

theorem firstAck_of_secondAck {status : Issue.Status}
    (acks : Issue.issueAckO (issuePorts s i units) status 1 = true) :
    cfg.superscalarEn = true ∧ Issue.firstAck (issuePorts s i units) status = true ∧
      Issue.issueAck (issuePorts s i units) status 1 = true := by
  change (cfg.superscalarEn && Issue.firstAck _ status && Issue.issueAck _ status 1) = true at acks
  simpa only [Bool.and_eq_true, and_assoc] using acks

/-- The neighbours of the scoreboard are as it expects them. -/
theorem neighbours (units : Execute.Units cfg.issue) (s : State cfg) (i : Input cfg) :
    Scoreboard.Neighbours s.scoreboard (scoreboardInput s i units) where
  issueInOrder := by
    intro low high order set
    rw [Bool.and_eq_true] at set ⊢
    by_cases same : low = high
    · rwa [same]
    · have bound := high.isLt
      have two := cfg.scoreboard.issuePorts_le
      have first : low.val = 0 := by omega
      have second : high.val = 1 := by omega
      have acks : issueAck s i units 1 = true := by
        have port : (⟨high.val, high.isLt.trans_le two⟩ : Fin 2) = 1 := Fin.ext second
        rw [← port]
        exact set.2
      rcases firstAck_of_secondAck acks with ⟨_, firstAck, _⟩
      refine ⟨decoded_of_firstAck firstAck low first, ?_⟩
      change issueAck s i units ⟨low.val, _⟩ = true
      have port : (⟨low.val, low.isLt.trans_le two⟩ : Fin 2) = 0 := Fin.ext first
      rw [port]
      exact firstAck
  commitInOrder := commitAck_inOrder
  commitValid _ acks := commitValid_of_ack acks

end Ports

/-! ## Cancelled instructions -/

section Dropped

/-- The instruction asks no unit for anything when it is dropped. -/
def Harmless (entry : SbMem cfg.scoreboard Instr) : Prop :=
  entry.sbe.fu ≠ .csr ∧ entry.sbe.fu ≠ .store ∧ entry.sbe.instr.op.isAmo = false

theorem Harmless.of_kept {old new : SbMem cfg.scoreboard Instr} (harmless : Harmless old)
    (same : new.kept = old.kept) : Harmless new := by
  rcases Prod.mk.inj same with ⟨instr, fu⟩
  rw [Harmless, instr, fu]
  exact harmless

theorem firstEffects_of_dropped {ports : Commit.Ports cfg.commit} {i : Commit.Input}
    (dropped : ports.first.drop = true) (notCsr : ports.first.fu ≠ .csr)
    (notStore : ports.first.fu ≠ .store) (notAmo : ports.first.op.isAmo = false)
    (noTrap : (cfg.sdtrig && !cfg.debugEn && i.breakFromTrigger) = false) :
    firstEffects ports i = [] := by
  have isAmo : ports.first.isAmo = false := by rw [Commit.Port.isAmo, notAmo, Bool.and_false]
  have quiet : (Commit.exceptionO ports.first i).valid = false := by
    have trap : (cfg.commit.sdtrig && !cfg.commit.debugEn && i.breakFromTrigger) = false := noTrap
    simp [Commit.exceptionO, dropped, trap]
  have writes : Commit.firstWeGpr ports.first i = false := by
    simp [Commit.firstWeGpr, isAmo, dropped]
  simp [firstEffects, Commit.given, Commit.requests, writes, Commit.firstWeFpr,
    Commit.firstWriteFflags, Commit.commitLsu, Commit.isStore, Commit.csrOp, Commit.commitCsr,
    Commit.sfenceVma, Commit.hfenceVvma, Commit.hfenceGvma, Commit.fenceI, Commit.fence,
    Commit.amoValidCommit, Commit.flushCommit, dropped, notCsr, notStore, isAmo, quiet]

theorem secondEffects_of_dropped {ports : Commit.Ports cfg.commit} {i : Commit.Input}
    (dropped : ∀ second ∈ ports.second, second.drop = true) : secondEffects ports i = [] := by
  cases there : ports.second with
  | none =>
      simp [secondEffects, Commit.given, Commit.secondWeGpr, Commit.secondWeFpr,
        Commit.secondWriteFflags, there]
  | some second =>
      have drop := dropped second there
      simp [secondEffects, Commit.given, Commit.secondWeGpr, Commit.secondWeFpr,
        Commit.secondWriteFflags, there, drop]

theorem secondEffects_of_not_ack {ports : Commit.Ports cfg.commit} {i : Commit.Input}
    (waits : Commit.secondAck ports i = false) : secondEffects ports i = [] := by
  cases there : ports.second <;>
    simp [secondEffects, Commit.given, Commit.secondWeGpr, Commit.secondWeFpr,
      Commit.secondWriteFflags, there, waits]

end Dropped

/-! ## What is issued with a branch -/

section Issue

variable {units : Execute.Units cfg.issue} {s : State cfg} {i : Input cfg}

theorem second_of_branch {instr : Fin 2 → Issue.Entry cfg.issue} {status : Issue.Status}
    (superscalar : cfg.superscalarEn = true) (branch : (instr 0).fu = .ctrlFlow)
    (free : Issue.fuBusy instr status 1 = false) :
    (instr 1).fu ≠ .csr ∧ (instr 1).fu ≠ .store := by
  have speculative : cfg.issue.speculativeSb = true := superscalar
  have busy : Issue.fusBusy instr status 1 = Issue.secondFusBusy instr status := rfl
  constructor <;> intro unit <;>
    simp [Issue.fuBusy, unit, busy, Issue.secondFusBusy, branch, speculative] at free

theorem issues_of_startsIn {fu : Fu} {port : Fin 2}
    (started : Execute.startsIn s.execute (executeInput s i units) fu port = true) :
    flushUnissued s i = false ∧
      ∃ there : port.val < cfg.scoreboard.nrIssuePorts,
        Scoreboard.issues s.scoreboard (scoreboardInput s i units) ⟨port.val, there⟩ = true ∧
          (i.decodedInstr ⟨port.val, there⟩).ex.valid = false ∧
          ((issuePorts s i units).instr port).transId =
            Scoreboard.issuePointer s.scoreboard port.val := by
  simp only [Execute.startsIn, Execute.starts, Issue.issues, Bool.and_eq_true,
    Bool.not_eq_true'] at started
  rcases started with ⟨⟨⟨⟨⟨regular, valid⟩, acks⟩, running⟩, _⟩, _⟩
  change ((issuePorts s i units).instr port).ex.valid = false at regular
  change flushUnissued s i = false at running
  change atPort false _ port = true at valid
  rw [atPort] at valid
  split at valid
  case isFalse => cases valid
  case isTrue there =>
    rw [Scoreboard.issueInstrValid, Bool.and_eq_true] at valid
    have entry : (issuePorts s i units).instr port =
        issueEntry (Scoreboard.issueInstr s.scoreboard (offered s i units) ⟨port.val, there⟩) :=
      dif_pos there
    rw [entry] at regular ⊢
    refine ⟨running, there, ?_, ?_, rfl⟩
    · have given : i.decodedInstrValid ⟨port.val, there⟩ = true := valid.1
      have acknowledged : (scoreboardInput s i units).issueAck ⟨port.val, there⟩ = true := acks
      have room : (!Scoreboard.issueFull s.scoreboard ⟨port.val, there⟩) = true := valid.2
      have unflushed : (!(scoreboardInput s i units).flushUnissuedInstr) = true := by
        change (!flushUnissued s i) = true
        rw [running]
        rfl
      change (i.decodedInstrValid _ && ((scoreboardInput s i units).issueAck _ && _) && _) = true
      rw [given, acknowledged, room, unflushed]
      rfl
    · exact regular

end Issue

/-! ## The invariant -/

/-- The instruction that the branch unit resolves is at place `k` of the window, one from its
end at most. -/
structure Resolving (s : State cfg) (h : History cfg) (k : Nat) : Prop where
  number : h.branch = some (h.queue.left.length + k)
  inside : k < h.queue.window.length
  transId : Execute.fluTransId s.execute = Ring.slot (s.scoreboard.commitPointerQ 0) k
  pending : (s.scoreboard.memQ (Ring.slot (s.scoreboard.commitPointerQ 0) k)).sbe.valid = false
  behind : h.queue.window.length = k + 1 ∨
    cfg.superscalarEn = true ∧ h.queue.window.length = k + 2 ∧
      Harmless (s.scoreboard.memQ (Ring.slot (s.scoreboard.commitPointerQ 0) (k + 1)))

/-- The cancelled instructions of the window are those of the wrong path. -/
structure Tracked (s : State cfg) (h : History cfg) : Prop where
  windowed : Scoreboard.Windowed s.scoreboard h.queue
  cancelled : ∀ k, k < h.queue.window.length →
    ((s.scoreboard.memQ (Ring.slot (s.scoreboard.commitPointerQ 0) k)).cancelled = true ↔
      Wrong h (h.queue.left.length + k))
  harmless : ∀ k, k < h.queue.window.length →
    (s.scoreboard.memQ (Ring.slot (s.scoreboard.commitPointerQ 0) k)).cancelled = true →
      Harmless (s.scoreboard.memQ (Ring.slot (s.scoreboard.commitPointerQ 0) k))
  resolving : Execute.any s.execute.branchValidQ = true → ∃ k, Resolving s h k
  resolved : ∀ mispredict ∈ h.mispredicts, mispredict.2 ≤ h.queue.issued.length
  commitsLeft : ∀ commit ∈ h.commits, commit.1 < h.queue.left.length
  effectsLeft : ∀ effect ∈ h.effects, effect.1 ≤ h.queue.left.length
  rightPath : RightPath h

section Cycle

variable {units : Execute.Units cfg.issue} {s : State cfg} {i : Input cfg} {h : History cfg}

theorem length_issued (windowed : Scoreboard.Windowed s.scoreboard h.queue) :
    h.queue.issued.length = h.queue.left.length + h.queue.window.length := by
  rw [windowed.conserved, List.length_append, List.length_map]

/-- Nothing is issued in the cycle of a misprediction. -/
theorem accepted_of_flushUnissued (flushed : flushUnissued s i = true) :
    Scoreboard.accepted s.scoreboard (scoreboardInput s i units) = [] := by
  have none (port : Fin cfg.scoreboard.nrIssuePorts) :
      Scoreboard.issues s.scoreboard (scoreboardInput s i units) port = false := by
    have flag : (scoreboardInput s i units).flushUnissuedInstr = true := flushed
    rw [Scoreboard.issues, flag, Bool.not_true, Bool.and_false]
  have empty : (Scoreboard.issues s.scoreboard (scoreboardInput s i units)).indices = [] := by
    rw [List.eq_nil_iff_forall_not_mem]
    intro port member
    have set := Bits.mem_indices.mp member
    rw [none port] at set
    cases set
  rw [Scoreboard.accepted, empty]
  rfl

theorem issued_of_mispredicts (mispredicted : mispredicts s i = true) :
    (recordQueue units s i h).issued = h.queue.issued := by
  have flushed : flushUnissued s i = true := by rw [flushUnissued, mispredicted, Bool.or_true]
  change h.queue.issued ++ Scoreboard.accepted _ _ = _
  rw [accepted_of_flushUnissued flushed, List.append_nil]

theorem mispredicts_of_issues {port : Fin cfg.scoreboard.nrIssuePorts}
    (enters : Scoreboard.issues s.scoreboard (scoreboardInput s i units) port = true) :
    mispredicts s i = false := by
  simp only [Scoreboard.issues, Bool.and_eq_true, Bool.not_eq_true'] at enters
  have running : flushUnissued s i = false := enters.2
  exact (Bool.or_eq_false_iff.mp running).2

theorem bmiss_eq : Scoreboard.bmiss (scoreboardInput s i units) = mispredicts s i := by
  change (Execute.any s.execute.branchValidQ && mispredicts s i) = mispredicts s i
  rw [mispredicts, ← Bool.and_assoc, Bool.and_self]

/-- A misprediction puts the instruction behind the branch on the wrong path. -/
theorem wrong_record (tracked : Tracked s h) (j : Nat) :
    Wrong (record units s i h) (h.queue.left.length + j) ↔
      Wrong h (h.queue.left.length + j) ∨
        mispredicts s i = true ∧ j < h.queue.window.length ∧ ∃ k, k < j ∧ Resolving s h k := by
  have length := length_issued tracked.windowed
  by_cases mispredicted : mispredicts s i = true
  · have busy : Execute.any s.execute.branchValidQ = true :=
      (Bool.and_eq_true_iff.mp mispredicted).1
    rcases tracked.resolving busy with ⟨k, resolving⟩
    have pair : (record units s i h).mispredicts =
        h.mispredicts ++ [(h.queue.left.length + k, h.queue.issued.length)] := by
      rw [record, if_pos mispredicted, resolving.number, issued_of_mispredicts mispredicted]
      rfl
    simp only [Wrong, pair, List.mem_append, List.mem_singleton, or_and_right, exists_or,
      exists_eq_left]
    refine or_congr_right ⟨fun ⟨behind, before⟩ => ?_, fun ⟨_, before, k', behind, other⟩ => ?_⟩
    · exact ⟨mispredicted, by omega, k, by omega, resolving⟩
    · have same : h.queue.left.length + k = h.queue.left.length + k' :=
        Option.some.inj (resolving.number.symm.trans other.number)
      omega
  · have none : (record units s i h).mispredicts = h.mispredicts := by
      rw [record, if_neg mispredicted, List.append_nil]
    simp only [Wrong, none, mispredicted, Bool.false_eq_true, false_and, or_false]

/-- The branch waits for its write-back while it is resolved. -/
theorem Resolving.numAck_le {k : Nat} (resolving : Resolving s h k) (tracked : Tracked s h)
    (counted : Scoreboard.Counted (scoreboardInput s i units)) :
    Scoreboard.numAck (scoreboardInput s i units) ≤ k := by
  by_contra behind
  have ports : Scoreboard.numAck (scoreboardInput s i units) ≤ cfg.scoreboard.nrCommitPorts :=
    Bits.length_indices_le _
  have acks : commitAck s i ⟨k, by omega⟩ = true :=
    (commitAck_inOrder.eq_true_iff ⟨k, by omega⟩).mpr (Nat.lt_of_not_le behind)
  have pointer := (tracked.windowed.acked (neighbours units s i) counted acks).2
  have valid := commitValid_of_ack acks
  rw [Scoreboard.commitInstr, pointer] at valid
  change (s.scoreboard.memQ (Ring.slot _ k)).sbe.valid = true at valid
  rw [resolving.pending] at valid
  cases valid

/-- Before the branch, a misprediction changes nothing. -/
theorem wrong_record_of_early (tracked : Tracked s h) {n : Nat}
    (early : ∀ k, Resolving s h k → n ≤ h.queue.left.length + k) :
    Wrong (record units s i h) n ↔ Wrong h n := by
  constructor
  · rintro ⟨mispredict, member, behind, before⟩
    rcases List.mem_append.mp member with old | new
    · exact ⟨mispredict, old, behind, before⟩
    · split at new
      case isTrue mispredicted =>
        have busy : Execute.any s.execute.branchValidQ = true :=
          (Bool.and_eq_true_iff.mp mispredicted).1
        rcases tracked.resolving busy with ⟨k, resolving⟩
        rw [resolving.number] at new
        rcases List.mem_map.mp new with ⟨_, same, pair⟩
        have number := early k resolving
        rw [Option.toList_some, List.mem_singleton] at same
        rw [← pair, same] at behind
        omega
      case isFalse => cases new
  · rintro ⟨mispredict, member, bounds⟩
    exact ⟨mispredict, List.mem_append_left _ member, bounds⟩

theorem cancels_eq (tracked : Tracked s h) {j : Nat} (inside : j < h.queue.window.length) :
    Scoreboard.cancels s.scoreboard (scoreboardInput s i units)
        (Ring.slot (s.scoreboard.commitPointerQ 0) j) = true ↔
      mispredicts s i = true ∧ ∃ k, k < j ∧ Resolving s h k := by
  have bounded := tracked.windowed.bounded
  by_cases mispredicted : mispredicts s i = true
  · have busy : Execute.any s.execute.branchValidQ = true :=
      (Bool.and_eq_true_iff.mp mispredicted).1
    rcases tracked.resolving busy with ⟨k, resolving⟩
    have target : Scoreboard.afterFluWb (scoreboardInput s i units) =
        Ring.slot (s.scoreboard.commitPointerQ 0) (k + 1) := by
      have port : (scoreboardInput s i units).transId cfg.scoreboard.fluWb =
          Execute.fluTransId s.execute := by
        simp [scoreboardInput, offered]
      rw [Scoreboard.afterFluWb, port, resolving.transId, Ring.slot_slot]
    have pointer : Scoreboard.issuePointer s.scoreboard 0 =
        Ring.slot (s.scoreboard.commitPointerQ 0) h.queue.window.length := by
      rw [tracked.windowed.issuePointer_eq, Nat.add_zero]
    have unique (k' : Nat) (other : Resolving s h k') : k' = k := by
      have same := Option.some.inj (other.number.symm.trans resolving.number)
      omega
    rw [Scoreboard.cancels, bmiss_eq, mispredicted, target, pointer]
    rcases resolving.behind with last | ⟨superscalar, second, _⟩
    · rw [last]
      simp only [ne_eq, not_true_eq_false, decide_false, Bool.and_false, Bool.false_and,
        Bool.false_eq_true, true_and, false_iff]
      rintro ⟨k', behind, other⟩
      have same := unique k' other
      omega
    · have speculative : cfg.scoreboard.speculativeSb = true := superscalar
      have apart : Ring.slot (s.scoreboard.commitPointerQ 0) (k + 1) ≠
          Ring.slot (s.scoreboard.commitPointerQ 0) (k + 2) := by
        rw [← Ring.slot_slot _ (k + 1) 1, Ne, eq_comm]
        exact Ring.slot_ne_head _ Nat.one_pos cfg.scoreboard.two_le_entries
      rw [second, speculative]
      simp only [ne_eq, apart, not_false_eq_true, decide_true, Bool.and_self, Bool.true_and,
        decide_eq_true_eq, true_and]
      constructor
      · intro same
        refine ⟨k, ?_, resolving⟩
        by_contra before
        exact Ring.slot_ne _ (by omega) (by omega) (by omega) same
      · rintro ⟨k', behind, other⟩
        have same := unique k' other
        have place : j = k + 1 := by omega
        rw [place]
  · rw [Scoreboard.cancels, bmiss_eq, Bool.eq_false_iff.mpr mispredicted]
    simp

/-! ## What leaves in a cycle -/

variable (units) in
theorem acknowledged_of_mem (tracked : Tracked s h)
    (counted : Scoreboard.Counted (scoreboardInput s i units)) {commit : Nat × Bool}
    (member : commit ∈ acknowledged s i h) :
    ∃ k, k < Scoreboard.numAck (scoreboardInput s i units) ∧ k < h.queue.window.length ∧
      commit.1 = h.queue.left.length + k ∧
        commit.2 =
          (s.scoreboard.memQ (Ring.slot (s.scoreboard.commitPointerQ 0) k)).cancelled := by
  rcases List.mem_map.mp member with ⟨port, acked, same⟩
  have acks : commitAck s i port = true := Bits.mem_indices.mp acked
  rcases tracked.windowed.acked (neighbours units s i) counted acks with ⟨inside, pointer⟩
  refine ⟨port.val, (commitAck_inOrder.eq_true_iff port).mp acks, inside, ?_, ?_⟩
  · rw [← same]
  · rw [← same, Scoreboard.commitDrop, pointer]

theorem map_fst_acknowledged :
    (acknowledged s i h).map Prod.fst =
      List.range' h.queue.left.length (Scoreboard.numAck (scoreboardInput s i units)) := by
  apply List.ext_getElem
  · simp only [acknowledged, List.length_map, List.length_range']
    rfl
  · intro k inside _
    simp only [acknowledged, List.length_map] at inside
    simp only [acknowledged, List.getElem_map, List.getElem_range', Nat.one_mul,
      commitAck_inOrder.val_getElem_indices inside]

variable (units) in
/-- The instructions that leave in a cycle: those that are acknowledged, and behind them those
that are flushed. -/
theorem left_recordQueue (tracked : Tracked s h)
    (counted : Scoreboard.Counted (scoreboardInput s i units)) :
    ∃ flushed : List Instr, (recordQueue units s i h).left =
      h.queue.left ++
          (h.queue.window.take (Scoreboard.numAck (scoreboardInput s i units))).map
            (·, Departure.commit) ++
        flushed.map (·, Departure.flush) := by
  have committed := tracked.windowed.committed_eq (neighbours units s i) counted
  cases flush : (scoreboardInput s i units).flush with
  | true =>
      refine ⟨Scoreboard.remaining s.scoreboard (scoreboardInput s i units) h.queue, ?_⟩
      simp only [recordQueue, Scoreboard.record, flush, if_true, committed]
  | false =>
      refine ⟨[], ?_⟩
      simp only [recordQueue, Scoreboard.record, flush, Bool.false_eq_true, if_false, committed,
        List.map_nil]

theorem not_wrong_of_cycleEffects (tracked : Tracked s h) (undisturbed : Undisturbed units s i)
    {effect : Nat × Effect cfg} (member : effect ∈ cycleEffects s i h) :
    ¬Wrong (record units s i h) effect.1 ∧
      (effect.1 = h.queue.left.length ∨ effect.1 = h.queue.left.length + 1 ∧
        1 < Scoreboard.numAck (scoreboardInput s i units)) := by
  have counted := undisturbed.regular.1
  have length := length_issued tracked.windowed
  rcases List.mem_append.mp member with first | second
  · rcases List.mem_map.mp first with ⟨own, has, same⟩
    rw [← same]
    refine ⟨fun wrong => ?_, .inl rfl⟩
    rw [wrong_record_of_early tracked fun k _ => Nat.le_add_right _ k] at wrong
    have inside : 0 < h.queue.window.length := by
      rcases wrong with ⟨mispredict, pair, _, before⟩
      have bound := tracked.resolved mispredict pair
      change h.queue.left.length < _ at before
      omega
    have drop := (tracked.cancelled 0 inside).mpr wrong
    rcases tracked.harmless 0 inside drop with ⟨notCsr, notStore, notAmo⟩
    rw [Ring.slot_zero] at drop notCsr notStore notAmo
    have nothing : firstEffects (commitPorts s) i.commit = [] :=
      firstEffects_of_dropped drop notCsr notStore notAmo (undisturbed.noTrap drop)
    rw [nothing] at has
    cases has
  · rcases List.mem_map.mp second with ⟨own, has, same⟩
    rw [← same]
    cases acks : Commit.secondAck (commitPorts s) i.commit with
    | false =>
        rw [secondEffects_of_not_ack acks] at has
        cases has
    | true =>
        rcases commitAck_of_secondAck acks with ⟨there, isSecond, _, _⟩
        have acked : (scoreboardInput s i units).commitAck ⟨1, there⟩ = true := acks
        have both : 1 < Scoreboard.numAck (scoreboardInput s i units) :=
          (commitAck_inOrder.eq_true_iff ⟨1, there⟩).mp acked
        refine ⟨fun wrong => ?_, .inr ⟨rfl, both⟩⟩
        rcases tracked.windowed.acked (neighbours units s i) counted acked with ⟨inside, pointer⟩
        have early : ∀ k, Resolving s h k → h.queue.left.length + 1 ≤ h.queue.left.length + k := by
          intro k resolving
          have waits := resolving.numAck_le tracked counted
          omega
        rw [wrong_record_of_early tracked early] at wrong
        have drop := (tracked.cancelled 1 inside).mpr wrong
        have dropped : (commitPort s ⟨1, there⟩).drop = true := by
          change (s.scoreboard.memQ (s.scoreboard.commitPointerQ ⟨1, there⟩)).cancelled = true
          rw [pointer]
          exact drop
        have nothing : secondEffects (commitPorts s) i.commit = [] := by
          apply secondEffects_of_dropped
          intro second isThis
          rw [isSecond, Option.mem_some_iff] at isThis
          rw [← isThis]
          exact dropped
        rw [nothing] at has
        cases has

/-! ## What enters in a cycle -/

theorem recordQueue_running (tracked : Tracked s h)
    (counted : Scoreboard.Counted (scoreboardInput s i units)) (running : i.flush = false) :
    (recordQueue units s i h).left.length =
        h.queue.left.length + Scoreboard.numAck (scoreboardInput s i units) ∧
      (recordQueue units s i h).window.length =
        h.queue.window.length - Scoreboard.numAck (scoreboardInput s i units) +
          Scoreboard.numIssue s.scoreboard (scoreboardInput s i units) := by
  have few := tracked.windowed.numAck_le (neighbours units s i) counted
  have committed := tracked.windowed.committed_eq (neighbours units s i) counted
  have unflushed : (scoreboardInput s i units).flush = false := running
  constructor
  · simp only [recordQueue, Scoreboard.record, unflushed, Bool.false_eq_true, if_false, committed,
      List.append_nil, List.length_append, List.length_map, List.length_take, Nat.min_eq_left few]
  · simp only [recordQueue, Scoreboard.record, unflushed, Bool.false_eq_true, if_false,
      Scoreboard.remaining, List.length_append, List.length_drop, Scoreboard.length_accepted]

theorem startedBranch_eq {port : Fin 2}
    (started : Execute.startsIn s.execute (executeInput s i units) .ctrlFlow port = true) :
    startedBranch units s i h = some (h.queue.issued.length + port.val) := by
  match port with
  | 0 => rw [startedBranch, if_pos started]; rfl
  | 1 =>
      have alone :
          Execute.startsIn s.execute (executeInput s i units) .ctrlFlow 0 = false := by
        rw [Bool.eq_false_iff]
        intro both
        have pair := Execute.startsIn_pair (by decide) (by decide) both started
        simp at pair
      rw [startedBranch, alone, if_neg Bool.false_ne_true, if_pos started]
      rfl

theorem harmless_behind (env : Environment i)
    (started : Execute.startsIn s.execute (executeInput s i units) .ctrlFlow 0 = true)
    {port : Fin cfg.scoreboard.nrIssuePorts} (second : port.val = 1)
    (enters : Scoreboard.issues s.scoreboard (scoreboardInput s i units) port = true) :
    cfg.superscalarEn = true ∧ (i.decodedInstr port).fu ≠ .csr ∧
      (i.decodedInstr port).fu ≠ .store ∧ (i.decodedInstr port).instr.op.isAmo = false := by
  have acks : issueAck s i units 1 = true := by
    simp only [Scoreboard.issues, Scoreboard.decodedInstrAck, Bool.and_eq_true] at enters
    have acked : issueAck s i units ⟨port.val, _⟩ = true := enters.1.2.1
    have same : (⟨port.val, port.isLt.trans_le cfg.scoreboard.issuePorts_le⟩ : Fin 2) = 1 :=
      Fin.ext second
    rwa [same] at acked
  rcases firstAck_of_secondAck acks with ⟨superscalar, _, own⟩
  have entry : (issuePorts s i units).instr 1 =
      issueEntry (Scoreboard.issueInstr s.scoreboard (offered s i units) port) := by
    have there : 1 < cfg.scoreboard.nrIssuePorts := by
      have bound := port.isLt
      omega
    have same : (⟨1, there⟩ : Fin cfg.scoreboard.nrIssuePorts) = port := Fin.ext second.symm
    rw [← same]
    exact dif_pos there
  simp only [Issue.issueAck, Bool.and_eq_true, Bool.not_eq_true'] at own
  obtain ⟨notCsr, notStore⟩ : ((issuePorts s i units).instr 1).fu ≠ .csr ∧
      ((issuePorts s i units).instr 1).fu ≠ .store :=
    second_of_branch superscalar (Execute.fu_of_startsIn started) own.1.2
  rw [entry] at notCsr notStore
  refine ⟨superscalar, notCsr, notStore, ?_⟩
  rw [Bool.eq_false_iff]
  intro amo
  exact notStore (env.amo port amo)

theorem resolving_step (tracked : Tracked s h) (env : Environment i)
    (undisturbed : Undisturbed units s i) {port : Fin 2}
    (started : Execute.startsIn s.execute (executeInput s i units) .ctrlFlow port = true) :
    Resolving (step units s i) (record units s i h)
      (h.queue.window.length - Scoreboard.numAck (scoreboardInput s i units) + port.val) := by
  rcases issues_of_startsIn started with ⟨unflushed, there, enters, regular, transId⟩
  have running : i.flush = false := (Bool.or_eq_false_iff.mp unflushed).1
  have counted := undisturbed.regular.1
  have near := neighbours units s i
  have few := tracked.windowed.numAck_le near counted
  rcases recordQueue_running tracked counted running with ⟨leftLength, windowLength⟩
  have length := length_issued tracked.windowed
  have ordered : (Scoreboard.issues s.scoreboard (scoreboardInput s i units)).InOrder :=
    Scoreboard.issues_inOrder near.issueInOrder
  have place := (ordered.eq_true_iff _).mp enters
  change port.val < Scoreboard.numIssue s.scoreboard (scoreboardInput s i units) at place
  have ports : Scoreboard.numIssue s.scoreboard (scoreboardInput s i units) ≤ 2 :=
    (Bits.length_indices_le _).trans cfg.scoreboard.issuePorts_le
  have slot (j : Nat) : Ring.slot ((step units s i).scoreboard.commitPointerQ 0)
        (h.queue.window.length - Scoreboard.numAck (scoreboardInput s i units) + j) =
      Ring.slot (s.scoreboard.commitPointerQ 0) (h.queue.window.length + j) := by
    have pointer := Scoreboard.step_commitPointer near counted running
    change Ring.slot ((Scoreboard.step _ _).commitPointerQ 0) _ = _
    rw [pointer, Ring.slot_slot]
    congr 1
    omega
  rcases tracked.windowed.step_enters near undisturbed.regular running enters with ⟨_, _, valid⟩
  constructor
  · change startedBranch units s i h = some ((recordQueue units s i h).left.length + _)
    rw [startedBranch_eq started, leftLength]
    congr 1
    omega
  · change _ < (recordQueue units s i h).window.length
    omega
  · rw [slot, ← tracked.windowed.issuePointer_eq, ← transId]
    exact Execute.fluTransId_step_of_branch started fun first => undisturbed.apart (first ▸ started)
  · rw [slot, Bool.eq_false_iff]
    intro set
    have decoded := valid set
    rw [show (scoreboardInput s i units).decodedInstr = i.decodedInstr from rfl, env.valid,
      regular] at decoded
    cases decoded
  · change (recordQueue units s i h).window.length = _ ∨ _ ∧
      (recordQueue units s i h).window.length = _ ∧ _
    rw [windowLength]
    by_cases last : Scoreboard.numIssue s.scoreboard (scoreboardInput s i units) = port.val + 1
    · left
      omega
    · right
      have first : port = 0 := by omega
      subst first
      have second : 1 < cfg.scoreboard.nrIssuePorts := by
        have bound : Scoreboard.numIssue s.scoreboard (scoreboardInput s i units) ≤
          cfg.scoreboard.nrIssuePorts := Bits.length_indices_le _
        change _ ≠ 0 + 1 at last
        omega
      have behind : Scoreboard.issues s.scoreboard (scoreboardInput s i units) ⟨1, second⟩ =
          true := by
        rw [ordered.eq_true_iff]
        change 1 < Scoreboard.numIssue s.scoreboard (scoreboardInput s i units)
        change _ ≠ 0 + 1 at last
        omega
      rcases harmless_behind env started rfl behind with ⟨superscalar, harmless⟩
      rcases tracked.windowed.step_enters near undisturbed.regular running behind with ⟨kept, _, _⟩
      refine ⟨superscalar, ?_, ?_⟩
      · change _ ≠ 0 + 1 at last
        change _ = _ + 0 + 2
        omega
      · rw [Nat.add_assoc, slot]
        rcases Prod.mk.inj kept with ⟨instr, fu⟩
        have entry : Harmless
            ((Scoreboard.step s.scoreboard (scoreboardInput s i units)).memQ
              (Ring.slot (s.scoreboard.commitPointerQ 0) (h.queue.window.length + 1))) := by
          rw [Harmless, instr, fu]
          exact harmless
        exact entry

/-! ## One cycle -/

theorem committed_append (left : List (Instr × Departure)) (committed flushed : List Instr)
    (n : Nat) :
    (∃ instr, (left ++ committed.map (·, Departure.commit) ++
          flushed.map (·, Departure.flush))[n]? = some (instr, .commit)) ↔
      (∃ instr, left[n]? = some (instr, Departure.commit)) ∨
        left.length ≤ n ∧ n < left.length + committed.length := by
  rw [List.append_assoc]
  rcases Nat.lt_or_ge n left.length with early | late
  · rw [List.getElem?_append_left early]
    exact ⟨.inl, fun either => either.resolve_right fun bounds => by omega⟩
  · rw [List.getElem?_append_right late, List.getElem?_eq_none_iff.mpr late]
    rcases Nat.lt_or_ge (n - left.length) committed.length with inside | behind
    · rw [List.getElem?_append_left (by rwa [List.length_map]), List.getElem?_map,
        List.getElem?_eq_getElem inside]
      simp only [Option.map_some, Option.some.injEq, Prod.mk.injEq, and_true, exists_eq',
        reduceCtorEq, exists_false, false_or, true_iff]
      omega
    · rw [List.getElem?_append_right (by rwa [List.length_map]), List.getElem?_map]
      simp only [Option.map_eq_some_iff, Prod.mk.injEq, reduceCtorEq, and_false, exists_false,
        false_or, false_iff]
      omega

/-- The instructions in front of what leaves keep their path. -/
theorem Tracked.wrong_old (tracked : Tracked s h) {n : Nat} (old : n ≤ h.queue.left.length) :
    Wrong (record units s i h) n ↔ Wrong h n :=
  wrong_record_of_early tracked fun _ _ => Nat.le_add_right_of_le old

theorem Tracked.rightPath_step (tracked : Tracked s h) (undisturbed : Undisturbed units s i)
    (windowed : Scoreboard.Windowed (step units s i).scoreboard (record units s i h).queue) :
    RightPath (record units s i h) := by
  have counted := undisturbed.regular.1
  have few := tracked.windowed.numAck_le (neighbours units s i) counted
  have before := tracked.rightPath
  have numbers : (acknowledged s i h).map Prod.fst =
      List.range' h.queue.left.length (Scoreboard.numAck (scoreboardInput s i units)) :=
    map_fst_acknowledged
  constructor
  · exact windowed.conserved
  · change (h.commits ++ acknowledged s i h).Pairwise _
    rw [List.pairwise_append]
    refine ⟨before.once, ?_, ?_⟩
    · have increasing : ((acknowledged s i h).map Prod.fst).Pairwise (· < ·) := by
        rw [numbers]
        exact List.pairwise_lt_range'
      exact List.pairwise_map.mp increasing
    · intro old inOld new inNew
      have bound := tracked.commitsLeft old inOld
      rcases acknowledged_of_mem units tracked counted inNew with ⟨k, _, _, place, _⟩
      omega
  · intro n
    rcases left_recordQueue units tracked counted with ⟨flushed, left⟩
    change n ∈ (h.commits ++ acknowledged s i h).map Prod.fst ↔
      ∃ instr, (recordQueue units s i h).left[n]? = _
    rw [List.map_append, List.mem_append, before.committed, numbers, List.mem_range'_1, left,
      committed_append, List.length_take, Nat.min_eq_left few]
  · intro commit member
    rcases List.mem_append.mp member with old | new
    · rw [before.dropped commit old, tracked.wrong_old (tracked.commitsLeft commit old).le]
    · rcases acknowledged_of_mem units tracked counted new with ⟨k, acks, inside, place, drop⟩
      rw [drop, tracked.cancelled k inside, place, wrong_record_of_early tracked]
      intro k' resolving
      have waits := resolving.numAck_le tracked counted
      omega
  · intro effect member
    rcases List.mem_append.mp member with old | new
    · rw [tracked.wrong_old (tracked.effectsLeft effect old)]
      exact before.quiet effect old
    · exact (not_wrong_of_cycleEffects tracked undisturbed new).1

/-- What the window is after a cycle without a flush: what stays and what enters. -/
theorem Tracked.entry_step (tracked : Tracked s h) (undisturbed : Undisturbed units s i)
    (running : i.flush = false) {k : Nat}
    (inside : k < (recordQueue units s i h).window.length) :
    let entry := (step units s i).scoreboard.memQ
      (Ring.slot ((step units s i).scoreboard.commitPointerQ 0) k)
    (entry.cancelled = true ↔ Wrong (record units s i h)
        ((recordQueue units s i h).left.length + k)) ∧
      (entry.cancelled = true → Harmless entry) := by
  intro entry
  have counted := undisturbed.regular.1
  have near := neighbours units s i
  have few := tracked.windowed.numAck_le near counted
  rcases recordQueue_running tracked counted running with ⟨leftLength, windowLength⟩
  have length := length_issued tracked.windowed
  have ordered : (Scoreboard.issues s.scoreboard (scoreboardInput s i units)).InOrder :=
    Scoreboard.issues_inOrder near.issueInOrder
  have pointer : (step units s i).scoreboard.commitPointerQ 0 =
      Ring.slot (s.scoreboard.commitPointerQ 0)
        (Scoreboard.numAck (scoreboardInput s i units)) :=
    Scoreboard.step_commitPointer near counted running
  have number : (recordQueue units s i h).left.length + k = h.queue.left.length +
      (Scoreboard.numAck (scoreboardInput s i units) + k) := by omega
  have place : entry = (Scoreboard.step s.scoreboard (scoreboardInput s i units)).memQ
      (Ring.slot (s.scoreboard.commitPointerQ 0)
        (Scoreboard.numAck (scoreboardInput s i units) + k)) := by
    rw [← Ring.slot_slot, ← pointer]
    rfl
  rw [number, place]
  by_cases old : Scoreboard.numAck (scoreboardInput s i units) + k < h.queue.window.length
  · obtain ⟨kept, cancelled⟩ := tracked.windowed.step_stays near counted running
      (Nat.le_add_right _ k) old
    rw [cancelled, Bool.or_eq_true, cancels_eq tracked old, wrong_record tracked,
      tracked.cancelled _ old]
    refine ⟨by simp only [old, true_and], fun either => ?_⟩
    rcases either with before | ⟨_, k', behind, resolving⟩
    · exact (tracked.harmless _ old ((tracked.cancelled _ old).mpr before)).of_kept kept
    · rcases resolving.behind with last | ⟨_, second, harmless⟩
      · omega
      · have same : Scoreboard.numAck (scoreboardInput s i units) + k = k' + 1 := by omega
        rw [same] at kept ⊢
        exact harmless.of_kept kept
  · have issued : k - (h.queue.window.length -
        Scoreboard.numAck (scoreboardInput s i units)) <
          Scoreboard.numIssue s.scoreboard (scoreboardInput s i units) := by omega
    have ports : Scoreboard.numIssue s.scoreboard (scoreboardInput s i units) ≤
      cfg.scoreboard.nrIssuePorts := Bits.length_indices_le _
    have enters := (ordered.eq_true_iff ⟨k - (h.queue.window.length -
        Scoreboard.numAck (scoreboardInput s i units)), by omega⟩).mpr issued
    obtain ⟨_, cancelled, _⟩ :=
      tracked.windowed.step_enters near undisturbed.regular running enters
    have same : h.queue.window.length + (k - (h.queue.window.length -
        Scoreboard.numAck (scoreboardInput s i units))) =
      Scoreboard.numAck (scoreboardInput s i units) + k := by omega
    have regular : mispredicts s i = false := mispredicts_of_issues enters
    have stays : ((Scoreboard.step s.scoreboard (scoreboardInput s i units)).memQ
        (Ring.slot (s.scoreboard.commitPointerQ 0)
          (Scoreboard.numAck (scoreboardInput s i units) + k))).cancelled = false := by
      rw [← same]
      refine cancelled.trans ?_
      rw [Scoreboard.cancels, bmiss_eq, regular, Bool.and_false, Bool.false_and, Bool.false_and]
    have fresh : ¬Wrong h (h.queue.left.length +
        (Scoreboard.numAck (scoreboardInput s i units) + k)) := by
      rintro ⟨mispredict, member, _, before⟩
      have bound := tracked.resolved mispredict member
      omega
    rw [stays, wrong_record tracked, regular]
    simp [fresh]

theorem Tracked.step (tracked : Tracked s h) (env : Environment i)
    (undisturbed : Undisturbed units s i) :
    Tracked (Pipeline.step units s i) (record units s i h) := by
  have counted := undisturbed.regular.1
  have near := neighbours units s i
  have windowed : Scoreboard.Windowed (Pipeline.step units s i).scoreboard
      (record units s i h).queue := tracked.windowed.step near undisturbed.regular
  have few := tracked.windowed.numAck_le near counted
  rcases left_recordQueue units tracked counted with ⟨flushed, left⟩
  have leftLength : (recordQueue units s i h).left.length =
      h.queue.left.length + Scoreboard.numAck (scoreboardInput s i units) + flushed.length := by
    rw [left, List.length_append, List.length_append, List.length_map, List.length_take,
      Nat.min_eq_left few, List.length_map]
  have running {k : Nat} (inside : k < (recordQueue units s i h).window.length) :
      i.flush = false := by
    by_contra flush
    have set : i.flush = true := by simpa using flush
    have empty : (recordQueue units s i h).window = [] := if_pos set
    rw [empty] at inside
    exact absurd inside (Nat.not_lt_zero k)
  have issued : (recordQueue units s i h).issued.length =
      h.queue.issued.length +
        (Scoreboard.accepted s.scoreboard (scoreboardInput s i units)).length :=
    List.length_append
  constructor
  · exact windowed
  · exact fun k inside => (tracked.entry_step undisturbed (running inside) inside).1
  · exact fun k inside => (tracked.entry_step undisturbed (running inside) inside).2
  · intro busy
    rcases (Bool.or_eq_true _ _).mp busy with first | second
    · exact ⟨_, resolving_step tracked env undisturbed first⟩
    · exact ⟨_, resolving_step tracked env undisturbed second⟩
  · intro mispredict member
    change mispredict.2 ≤ (recordQueue units s i h).issued.length
    rcases List.mem_append.mp member with old | new
    · have bound := tracked.resolved mispredict old
      omega
    · split at new
      · rcases List.mem_map.mp new with ⟨_, _, same⟩
        rw [← same]
      · cases new
  · intro commit member
    change commit.1 < (recordQueue units s i h).left.length
    rcases List.mem_append.mp member with old | new
    · have bound := tracked.commitsLeft commit old
      omega
    · rcases acknowledged_of_mem units tracked counted new with ⟨k, acks, _, place, _⟩
      omega
  · intro effect member
    change effect.1 ≤ (recordQueue units s i h).left.length
    rcases List.mem_append.mp member with old | new
    · have bound := tracked.effectsLeft effect old
      omega
    · rcases not_wrong_of_cycleEffects tracked undisturbed new with ⟨_, place⟩
      omega
  · exact tracked.rightPath_step undisturbed windowed

end Cycle

theorem tracked_reset : Tracked (reset : State cfg) History.initial where
  windowed := Scoreboard.windowed_reset
  cancelled _ inside := absurd inside (Nat.not_lt_zero _)
  harmless _ inside := absurd inside (Nat.not_lt_zero _)
  resolving busy := absurd busy Bool.false_ne_true
  resolved _ member := absurd member List.not_mem_nil
  commitsLeft _ member := absurd member List.not_mem_nil
  effectsLeft _ member := absurd member List.not_mem_nil
  rightPath :=
    { conserved := rfl
      once := List.Pairwise.nil
      committed := by simp [History.initial]
      dropped := by simp [History.initial]
      quiet := by simp [History.initial] }

/-- For every run of undisturbed cycles: the instructions of the wrong path have no effect, and
the others are committed once. -/
theorem wrong_path_has_no_effect (units : Execute.Units cfg.issue) {inputs : List (Input cfg)}
    (along : (recorded units).RunAlong
      (fun state i => Environment i ∧ Undisturbed units state.1 i) inputs) :
    RightPath ((recorded units).run inputs).2 := by
  have tracked := (recorded units).run_invariant_along
    (fun state => Tracked state.1 state.2) tracked_reset
    (fun _ _ tracked cycle => tracked.step cycle.1 cycle.2) along
  exact tracked.rightPath

/-! ## Runs -/

instance decidableWrong (h : History cfg) (n : Nat) : Decidable (Wrong h n) :=
  inferInstanceAs (Decidable (∃ mispredict ∈ h.mispredicts, mispredict.1 < n ∧ n < mispredict.2))

instance decidableEnvironment (i : Input cfg) : Decidable (Environment i) :=
  decidable_of_iff
    ((∀ port, (i.decodedInstr port).instr.op.isAmo = true → (i.decodedInstr port).fu = .store) ∧
      ∀ port, (i.decodedInstr port).valid = (i.decodedInstr port).ex.valid)
    ⟨fun holds => ⟨holds.1, holds.2⟩, fun env => ⟨env.amo, env.valid⟩⟩

instance decidableUndisturbed (units : Execute.Units cfg.issue) (s : State cfg) (i : Input cfg) :
    Decidable (Undisturbed units s i) :=
  decidable_of_iff
    (Scoreboard.Regular s.scoreboard (scoreboardInput s i units) ∧
      (Execute.startsIn s.execute (executeInput s i units) .ctrlFlow 0 = true →
        Execute.startsIn s.execute (executeInput s i units) .aes 1 = false) ∧
      (Scoreboard.commitDrop s.scoreboard 0 = true →
        (cfg.sdtrig && !cfg.debugEn && i.commit.breakFromTrigger) = false))
    ⟨fun holds => ⟨holds.1, holds.2.1, holds.2.2⟩,
      fun undisturbed => ⟨undisturbed.regular, undisturbed.apart, undisturbed.noTrap⟩⟩

def sampleUnits : Execute.Units Cfg.sample.issue := Execute.sampleUnits

def sampleEntry (fu : Fu) (op : FuOp) (pc : Nat) : Entry Cfg.sample where
  instr := { pc := pc, op := op, isCompressed := false, vfp := false }
  transId := 0
  fu := fu
  rd := 1
  result := 0
  valid := false
  ex := { cause := 0, tval := 0, tval2 := 0, tinst := 0, gva := false, valid := false }
  predictAddress := 0
  isMacroInstr := false
  isLastMacroInstr := false
  isDoubleRdMacroInstr := false

/-- A cycle in which nothing is decoded or written back. -/
def Input.idle : Input Cfg.sample where
  decodedInstr _ := sampleEntry .none .add 0
  decodedInstrValid := Bits.zero
  stallRaw _ := false
  operandA _ := 0
  operandB _ := 0
  imm _ := 0
  origInstr _ := 0
  xTransactionAccepted := false
  xTransactionRejected := false
  xIssueWriteback := false
  fpuReady := true
  lsuReady := true
  fpuEarlyValid := false
  isMispredict := false
  targetAddress := 0
  transId _ := 0
  wbdata _ := 0
  ex _ := { cause := 0, tval := 0, tval2 := 0, tinst := 0, gva := false, valid := false }
  wtValid := Bits.zero
  xWe := false
  xRd := 0
  commit := Commit.sampleCycle false
  flush := false

/-- A jump is issued together with a load and was mispredicted; the load is written back when
the jump is committed, and the trigger module may trap in the cycle after it. -/
def mispredictedJump (trap : Bool) : List (Input Cfg.sample) :=
  let idle := Input.idle
  [{ idle with
      decodedInstr := fun port =>
        if port.val = 0 then sampleEntry .ctrlFlow .jalr 0 else sampleEntry .load .ld 4
      decodedInstrValid := fun _ => true },
    { idle with isMispredict := true },
    { idle with transId := fun _ => 1, wtValid := fun port => decide (port.val = 2) },
    { idle with commit := Commit.sampleCycle trap, flush := trap }]

theorem wrong_path_has_no_effect_jump :
    RightPath ((recorded sampleUnits).run (mispredictedJump false)).2 :=
  wrong_path_has_no_effect sampleUnits (by decide +kernel)

example : ((recorded sampleUnits).run (mispredictedJump false)).2.commits =
    [(0, false), (1, true)] := by
  decide +kernel

/-- The trap is taken at the load that is dropped. -/
theorem trap_on_wrong_path :
    (recorded sampleUnits).RunAlong (fun _ i => Environment i)
        (mispredictedJump true) ∧
      ¬RightPath ((recorded sampleUnits).run (mispredictedJump true)).2 := by
  refine ⟨by decide +kernel, fun rightPath => ?_⟩
  have traps : 1 ∈
      ((recorded sampleUnits).run (mispredictedJump true)).2.effects.map
        Prod.fst := by
    decide +kernel
  rcases List.mem_map.mp traps with ⟨effect, member, number⟩
  have quiet := rightPath.quiet effect member
  rw [number] at quiet
  exact absurd quiet (by decide +kernel)

end Cva6Hpd.Pipeline
