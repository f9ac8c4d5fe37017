import Cva6Hpd.Commit.Stage
import Cva6Hpd.Lsu.StoreQueues
import Cva6Hpd.Lsu.StoreUnit

/-!
# Atomic operations at the commit port

An atomic operation waits in its buffer from its write-back until it is the oldest
instruction, and is asked for at the commit port when all committed stores are written. The
answer of the data cache retires it. What was asked for has to retire: the buffer is not
flushed while the commit stage shows the operation, but the pipeline around it is, and then
the data cache performs an operation that is executed again later.
-/

namespace Cva6Hpd.Lsu.AmoCommit

open Cva6Hpd.Ariane
open Cva6Hpd.Common
open Cva6Hpd.Hw
open Cva6Hpd.Lsu.AmoBuffer (AmoOp AmoReq)

/-! ## The store unit below the commit stage -/

/-- The parameters of the store unit and of the commit stage of one core. -/
structure Cfg where
  lsu : Lsu.Cfg
  commit : Commit.Cfg
  rva_eq : commit.rva = lsu.rva
  isXlen64_eq : commit.isXlen64 = lsu.isXlen64
  transIdBits_eq : commit.transIdBits = lsu.transIdBits

variable {cfg : Cfg}

abbrev State (cfg : Cfg) : Type := StoreUnit.State cfg.lsu

/-- The inputs of the store unit and of the first commit port; the signals between the two
are overridden. `take` says that the data cache takes the request for an atomic operation. -/
structure Input (cfg : Cfg) where
  unit : StoreUnit.Input cfg.lsu
  port : Commit.Port cfg.commit
  commit : Commit.Input
  take : Bool

section Wires

variable (s : State cfg) (i : Input cfg)

def commitInput : Commit.Input :=
  { i.commit with
    commitLsuReady := StoreBuffer.commitReady s.storeBuffer
    noStPending := StoreBuffer.noStPending s.storeBuffer }

def unitInput : StoreUnit.Input cfg.lsu :=
  { i.unit with
    commit := Commit.commitLsu i.port (commitInput s i)
    amoValidCommit := Commit.amoValidCommit i.port (commitInput s i)
    amoResp := i.commit.amoResp }

/-- `amo_req_o` of the store unit. -/
def request : AmoReq :=
  AmoBuffer.amoReq s.amoBuffer (StoreUnit.amoBufferInput s (unitInput s i))

/-- An atomic operation without an exception is the oldest instruction. -/
def atCommit : Bool := i.port.instr.valid && i.port.isAmo && !i.port.instr.ex.valid

/-- It retires. -/
def retires : Bool := atCommit i && Commit.firstAck i.port (commitInput s i)

end Wires

def machine (cfg : Cfg) : Machine (State cfg) (Input cfg) where
  reset := StoreUnit.reset
  step s i := StoreUnit.step s (unitInput s i)

/-! ## Histories -/

/-- An atomic operation that was written back without an exception: the request of the issue
stage, the endianness and the translation of its address, and whether the data cache was
asked for it. -/
structure Waiting (cfg : Lsu.Cfg) where
  ctrl : LsuCtrl cfg
  mbe : Bool
  paddr : BitVec cfg.plen
  presented : Bool
deriving DecidableEq

namespace Waiting

variable {cfg : Lsu.Cfg} (amo : Waiting cfg)

/-- What the data cache has to be asked for. -/
def request : AmoReq where
  req := true
  amoOp := StoreUnit.amoOp cfg amo.ctrl.operation
  size := amo.ctrl.operation.extractTransferSize
  operandA := amo.paddr.setWidth 64
  operandB := (StoreUnit.stData amo.mbe amo.ctrl).setWidth 64

/-- Its entry in the buffer. -/
def entry : AmoOp cfg where
  op := StoreUnit.amoOp cfg amo.ctrl.operation
  paddr := amo.paddr
  data := StoreUnit.stData amo.mbe amo.ctrl
  size := amo.ctrl.operation.extractTransferSize

/-- The data cache is asked for it. -/
def present : Waiting cfg := { amo with presented := true }

end Waiting

/-- An operation that committed, and the write of its destination. -/
structure Committed (cfg : Lsu.Cfg) where
  amo : Waiting cfg
  rd : Nat
  we : Bool
  wdata : Nat
deriving DecidableEq

structure History (cfg : Lsu.Cfg) where
  /-- The request in the last cycle, and the endianness. -/
  last : Option (LsuCtrl cfg × Bool)
  /-- The operations that were written back, and neither committed nor flushed. -/
  amos : List (Waiting cfg)
  flushed : List (Waiting cfg)
  commits : List (Committed cfg)
  /-- The requests that the data cache took. -/
  issued : List AmoReq
  responses : List (BitVec 64)
  /-- The data cache has not answered the last request. -/
  busy : Bool

/-- The data cache was asked for an operation that still waits. -/
def History.Asked {cfg : Lsu.Cfg} (h : History cfg) : Prop :=
  ∃ amo ∈ h.amos, amo.presented = true

def History.initial (cfg : Lsu.Cfg) : History cfg where
  last := none
  amos := []
  flushed := []
  commits := []
  issued := []
  responses := []
  busy := false

section Record

variable (s : State cfg) (i : Input cfg) (h : History cfg.lsu)

/-- The operation that is written back in this cycle. -/
def inserted : List (Waiting cfg.lsu) :=
  match h.last with
  | none => []
  | some (ctrl, mbe) =>
    if StoreUnit.amoBufferValid s (unitInput s i) then
      [{ ctrl := ctrl, mbe := mbe, paddr := i.unit.paddr, presented := false }]
    else []

/-- The oldest operation is the one that the data cache is asked for. -/
def shown : List (Waiting cfg.lsu) :=
  if (request s i).req then h.amos.modifyHead Waiting.present else h.amos

def remaining : List (Waiting cfg.lsu) :=
  if retires s i then (shown s i h).tail else shown s i h

/-- The commit of an operation, with the write port of the first commit port. -/
def commit (amo : Waiting cfg.lsu) : Committed cfg.lsu where
  amo := amo
  rd := i.port.instr.rd
  we := Commit.firstWeGpr i.port (commitInput s i)
  wdata := Commit.firstWdata i.port (commitInput s i)

def record : History cfg.lsu where
  last := some (i.unit.lsuCtrl, i.unit.mbe)
  amos := if i.unit.flush then [] else remaining s i h ++ inserted s i h
  flushed := h.flushed ++ (if i.unit.flush then remaining s i h else [])
  commits :=
    h.commits ++ (if retires s i then ((shown s i h).take 1).map (commit s i) else [])
  issued := h.issued ++ (if i.take then [request s i] else [])
  responses := h.responses ++ (if i.commit.amoResp.ack then [i.commit.amoResp.result] else [])
  busy := i.take || (h.busy && !i.commit.amoResp.ack)

end Record

/-- The store unit below the commit stage, and what happened to the atomic operations. -/
def recorded (cfg : Cfg) : Machine (State cfg × History cfg.lsu) (Input cfg) :=
  (machine cfg).withHistory (History.initial cfg.lsu) record

/-- The commit port takes the instructions in the order of the issue, once they are written
back, and keeps one that has not retired. The decoder gives the atomic operations to the
store unit, and none is issued behind an unresolved branch. The data cache takes one request
at a time and answers it later. -/
structure Environment (state : State cfg × History cfg.lsu) (i : Input cfg) : Prop where
  oldest : atCommit i = true →
    state.2.amos.head?.map (·.ctrl.transId.toNat) = some i.port.instr.transId.val
  decoded : atCommit i = true → i.port.fu = .store ∧ i.port.drop = false
  keeps : state.2.Asked → atCommit i = true
  takes : i.take = true → (request state.1 i).req = true ∧ state.2.busy = false
  answers : i.commit.amoResp.ack = true → state.2.busy = true

/-- The oldest instruction is an atomic operation that the commit stage may commit, and no
store is pending. -/
def Presentable (s : State cfg) (i : Input cfg) : Prop :=
  atCommit i = true ∧ i.commit.halt = false ∧ i.commit.breakFromTrigger = false ∧
    StoreBuffer.noStPending s.storeBuffer = true

/-- The pipeline is flushed in a cycle in which the data cache is asked for an operation, or
was before, only with the answer; and the answer finds the commit stage running. -/
structure Undisturbed (state : State cfg × History cfg.lsu) (i : Input cfg) : Prop where
  flush : i.unit.flush = true → Presentable state.1 i ∨ state.2.Asked →
    i.commit.amoResp.ack = true
  answer : i.commit.amoResp.ack = true → state.2.Asked →
    i.commit.halt = false ∧ i.commit.breakFromTrigger = false

/-- The data cache is asked for the operation at the commit port, after all stores; the
operations that committed are the ones that it was asked for and answered, each once and
with the result that is written; and it is not asked for a flushed one. -/
structure CommittedOnce (s : State cfg) (h : History cfg.lsu) : Prop where
  presented : ∀ i, Environment (s, h) i → (request s i).req = true →
    ∃ amo rest, h.amos = amo :: rest ∧ atCommit i = true ∧
      amo.ctrl.transId.toNat = i.port.instr.transId.val ∧
      (StoreBuffer.commitQueue s.storeBuffer).contents = [] ∧ request s i = amo.request
  issued : h.issued =
    h.commits.map (·.amo.request) ++ if h.busy then h.amos.map Waiting.request else []
  issued_length : h.issued.length = h.responses.length + if h.busy then 1 else 0
  answered : h.commits.map (fun c => (c.we, c.wdata)) =
    h.responses.map fun result => (true, result.toNat % 2 ^ cfg.commit.xlen)
  flushed : ∀ amo ∈ h.flushed, amo.presented = false

/-! ## One cycle -/

theorem amoBuffer_empty_of_validStore {cfg : Lsu.Cfg} {s : StoreUnit.State cfg}
    {i : StoreUnit.Input cfg} (valid : (StoreUnit.step s i).stateQ = .validStore)
    (isAmo : (StoreUnit.step s i).amoOpQ ≠ .none) :
    (StoreUnit.step s i).amoBuffer.statusCntQ = false := by
  have op : StoreUnit.amoOp cfg i.lsuCtrl.operation ≠ .none := isAmo
  have rva : cfg.rva = true := by
    by_contra disabled
    exact op (by simp [StoreUnit.amoOp, disabled])
  have operation : i.lsuCtrl.operation.isAmo = true := by
    revert op
    simp only [StoreUnit.amoOp, rva, if_true]
    cases i.lsuCtrl.operation <;> simp <;> decide
  have running : StoreUnit.advances s i = .validStore := by
    simp only [StoreUnit.step, StoreUnit.stateD] at valid
    split at valid
    · cases valid
    · exact valid
  have idle : s.stateQ = .idle ∧ StoreUnit.stReady s i = true := by
    simp only [StoreUnit.advances, StoreUnit.starts, rva, operation] at running
    cases state : s.stateQ <;> simp [state] at running ⊢ <;> grind
  have empty : s.amoBuffer.statusCntQ = false := by
    have ready := idle.2
    simp only [StoreUnit.stReady, rva, AmoBuffer.ready] at ready
    simpa using (Bool.and_eq_true_iff.mp ready).2
  simp [StoreUnit.step, rva, AmoBuffer.step, AmoBuffer.push, AmoBuffer.pop, empty,
    StoreUnit.amoBufferInput, StoreUnit.amoBufferValid, StoreUnit.stValid, idle.1]

variable {s : State cfg} {i : Input cfg} {h : History cfg.lsu}

theorem amoValidCommit_eq_true_iff :
    Commit.amoValidCommit i.port (commitInput s i) = true ↔
      atCommit i = true ∧ i.commit.halt = false ∧ i.commit.breakFromTrigger = false := by
  simp only [Commit.amoValidCommit, Commit.commits, Commit.considered, Commit.excepts,
    commitInput, atCommit, Bool.and_eq_true, Bool.not_eq_true', Bool.or_eq_false_iff]
  tauto

theorem request_req_iff :
    (request s i).req = true ↔ Presentable s i ∧ s.amoBuffer.statusCntQ = true := by
  have valid := amoValidCommit_eq_true_iff (s := s) (i := i)
  simp only [request, AmoBuffer.amoReq, StoreUnit.amoBufferInput, unitInput, AmoBuffer.amoValid,
    Presentable, Bool.and_eq_true, valid]
  tauto

namespace Environment

variable (env : Environment (s, h) i)
include env

theorem retires_eq_true_iff :
    retires s i = true ↔ atCommit i = true ∧ i.commit.halt = false ∧
      i.commit.breakFromTrigger = false ∧ i.commit.amoResp.ack = true := by
  simp only [retires, Bool.and_eq_true]
  refine and_congr_right fun oldest => ?_
  have kept := (env.decoded oldest).2
  simp only [atCommit, Bool.and_eq_true, Bool.not_eq_true'] at oldest
  simp [Commit.firstAck, Commit.considered, Commit.excepts, commitInput, oldest, kept]

theorem commit_of_retires (retired : retires s i = true) (amo : Waiting cfg.lsu) :
    (commit s i amo).we = true ∧
      (commit s i amo).wdata = i.commit.amoResp.result.toNat % 2 ^ cfg.commit.xlen := by
  rcases env.retires_eq_true_iff.mp retired with ⟨oldest, running, unbroken, ack⟩
  have unit := (env.decoded oldest).1
  simp only [atCommit, Bool.and_eq_true, Bool.not_eq_true'] at oldest
  have rva : cfg.commit.rva = true := by
    have isAmo := oldest.1.2
    simp only [Commit.Port.isAmo, Bool.and_eq_true] at isAmo
    exact isAmo.1
  simp [commit, Commit.firstWeGpr, Commit.firstWdata, Commit.commits, Commit.considered,
    Commit.excepts, commitInput, oldest, running, unbroken, ack, unit, rva]

end Environment

/-! ## The invariant -/

/-- The registers hold the request of the last cycle. -/
def Latched (s : State cfg) (ctrl : LsuCtrl cfg.lsu) (mbe : Bool) : Prop :=
  s.amoOpQ = StoreUnit.amoOp cfg.lsu ctrl.operation ∧
    s.stDataQ = StoreUnit.stData mbe ctrl ∧ s.stDataSizeQ = ctrl.operation.extractTransferSize

/-- The buffer holds the operation that waits, if there is one; it may also hold one that was
flushed before the stores were written. -/
structure Follows (s : State cfg) (h : History cfg.lsu) : Prop where
  latched : s.stateQ = .validStore → ∃ ctrl mbe, h.last = some (ctrl, mbe) ∧ Latched s ctrl mbe
  empty : s.stateQ = .validStore → s.amoOpQ ≠ .none → s.amoBuffer.statusCntQ = false
  single : h.amos.length ≤ 1
  held : ∀ amo ∈ h.amos, s.amoBuffer.statusCntQ = true ∧ s.amoBuffer.memQ = amo.entry
  asked : h.busy = true → h.Asked
  issued : h.issued =
    h.commits.map (·.amo.request) ++ if h.busy then h.amos.map Waiting.request else []
  answered : h.commits.map (fun c => (c.we, c.wdata)) =
    h.responses.map fun result => (true, result.toNat % 2 ^ cfg.commit.xlen)
  flushed : ∀ amo ∈ h.flushed, amo.presented = false

namespace Follows

/-- No operation waits: nothing is asked for and nothing retires, and one may be inserted. -/
theorem idle (follows : Follows s h) (env : Environment (s, h) i) (none : h.amos = []) :
    atCommit i = false ∧ (request s i).req = false ∧ i.take = false ∧ h.busy = false ∧
      i.commit.amoResp.ack = false := by
  have away : atCommit i = false := by
    rw [Bool.eq_false_iff]
    intro oldest
    have shown := env.oldest oldest
    simp [none] at shown
  have unasked : (request s i).req = false := by
    rw [Bool.eq_false_iff]
    intro req
    have present := (request_req_iff.mp req).1.1
    simp [away] at present
  have untaken : i.take = false := by
    rw [Bool.eq_false_iff]
    intro takes
    have req := (env.takes takes).1
    simp [unasked] at req
  have free : h.busy = false := by
    rw [Bool.eq_false_iff]
    intro busy
    rcases follows.asked busy with ⟨amo, member, _⟩
    simp [none] at member
  refine ⟨away, unasked, untaken, free, ?_⟩
  rw [Bool.eq_false_iff]
  intro ack
  have busy := env.answers ack
  simp [free] at busy

theorem length_inserted (s : State cfg) (i : Input cfg) (h : History cfg.lsu) :
    (inserted s i h).length ≤ 1 := by
  unfold inserted
  split
  · exact Nat.zero_le 1
  · split <;> simp

/-- An operation that is written back is put into the empty buffer. -/
theorem held_of_inserted (follows : Follows s h) {amo : Waiting cfg.lsu}
    (member : amo ∈ inserted s i h) :
    ((machine cfg).step s i).amoBuffer.statusCntQ = true ∧
      ((machine cfg).step s i).amoBuffer.memQ = amo.entry := by
  have valid : StoreUnit.amoBufferValid s (unitInput s i) = true := by
    by_contra invalid
    unfold inserted at member
    split at member <;> simp [invalid] at member
  rcases Bool.and_eq_true_iff.mp valid with ⟨stored, isAmo⟩
  simp only [StoreUnit.stValid, Bool.and_eq_true, decide_eq_true_eq, Bool.not_eq_true'] at stored
  simp only [Bool.and_eq_true, decide_eq_true_eq] at isAmo
  have empty := follows.empty stored.1.1 isAmo.2
  rcases follows.latched stored.1.1 with ⟨ctrl, mbe, last, op, data, size⟩
  simp only [inserted, last, valid, if_true, List.mem_singleton] at member
  subst member
  have translated : (unitInput s i).paddr = i.unit.paddr := rfl
  simp [machine, StoreUnit.step, AmoBuffer.step, AmoBuffer.push, AmoBuffer.flushAmoBuffer,
    StoreUnit.amoBufferInput, valid, empty, isAmo.1, stored.1.2, translated, Waiting.entry, op,
    data, size]

theorem step_of_idle (follows : Follows s h) (env : Environment (s, h) i)
    (none : h.amos = []) : Follows ((machine cfg).step s i) (record s i h) := by
  rcases follows.idle env none with ⟨away, unasked, untaken, free, unanswered⟩
  have unretired : retires s i = false := by simp [retires, away]
  have remains : remaining s i h = [] := by simp [remaining, shown, none, unasked, unretired]
  exact
    { latched := fun _ => ⟨_, _, rfl, rfl, rfl, rfl⟩
      empty := amoBuffer_empty_of_validStore
      single := by
        simp only [record, remains, List.nil_append]
        split
        · exact Nat.zero_le 1
        · exact length_inserted s i h
      held := fun amo member => by
        have fresh : amo ∈ inserted s i h := by
          simp only [record, remains, List.nil_append] at member
          split at member
          · cases member
          · exact member
        exact follows.held_of_inserted fresh
      asked := by simp [record, untaken, free]
      issued := by simpa [record, untaken, free, unretired] using follows.issued
      answered := by simpa [record, unretired, unanswered] using follows.answered
      flushed := by simpa [record, remains] using follows.flushed }

/-- While an operation waits, none is written back. -/
theorem inserted_eq_nil (follows : Follows s h) {amo : Waiting cfg.lsu} (waits : h.amos = [amo]) :
    inserted s i h = [] := by
  have full := (follows.held amo (by simp [waits])).1
  have invalid : StoreUnit.amoBufferValid s (unitInput s i) = false := by
    rw [Bool.eq_false_iff]
    intro valid
    simp only [StoreUnit.amoBufferValid, StoreUnit.stValid, Bool.and_eq_true,
      decide_eq_true_eq] at valid
    have empty := follows.empty valid.1.1.1 valid.2.2
    simp [full] at empty
  unfold inserted
  split <;> simp [invalid]

/-- The answer retires the operation that waits. -/
theorem retires_eq_ack (env : Environment (s, h) i) (follows : Follows s h)
    (undisturbed : Undisturbed (s, h) i) : retires s i = i.commit.amoResp.ack := by
  rw [Bool.eq_iff_iff, env.retires_eq_true_iff]
  refine ⟨fun retired => retired.2.2.2, fun ack => ?_⟩
  have asked := follows.asked (env.answers ack)
  rcases undisturbed.answer ack asked with ⟨running, unbroken⟩
  exact ⟨env.keeps asked, running, unbroken, ack⟩

/-- The operation that waits retires. -/
theorem step_of_ack (follows : Follows s h) (env : Environment (s, h) i)
    (undisturbed : Undisturbed (s, h) i) {amo : Waiting cfg.lsu} (waits : h.amos = [amo])
    (ack : i.commit.amoResp.ack = true) :
    Follows ((machine cfg).step s i) (record s i h) := by
  have retired : retires s i = true := by
    rw [follows.retires_eq_ack env undisturbed, ack]
  have busy : h.busy = true := env.answers ack
  have untaken : i.take = false := by
    rw [Bool.eq_false_iff]
    intro takes
    simpa [busy] using (env.takes takes).2
  obtain ⟨shownAmo, shows, same⟩ : ∃ shownAmo, shown s i h = [shownAmo] ∧
      shownAmo.request = amo.request := by
    unfold shown
    split <;> simp [waits, Waiting.present, Waiting.request]
  have remains : remaining s i h = [] := by simp [remaining, retired, shows]
  rcases env.commit_of_retires retired shownAmo with ⟨we, wdata⟩
  have committed : (commit s i shownAmo).amo = shownAmo := rfl
  exact
    { latched := fun _ => ⟨_, _, rfl, rfl, rfl, rfl⟩
      empty := amoBuffer_empty_of_validStore
      single := by simp [record, remains, follows.inserted_eq_nil waits]
      held := by simp [record, remains, follows.inserted_eq_nil waits]
      asked := by simp [record, untaken, ack]
      issued := by
        simp [record, untaken, ack, retired, shows, committed, same, follows.issued, busy, waits]
      answered := by
        simp [record, retired, ack, shows, we, wdata, follows.answered]
      flushed := by simpa [record, remains] using follows.flushed }

theorem step_of_flush (follows : Follows s h) (env : Environment (s, h) i)
    (undisturbed : Undisturbed (s, h) i) {amo : Waiting cfg.lsu} (waits : h.amos = [amo])
    (unanswered : i.commit.amoResp.ack = false) (flush : i.unit.flush = true) :
    Follows ((machine cfg).step s i) (record s i h) := by
  have unretired : retires s i = false := by
    rw [follows.retires_eq_ack env undisturbed, unanswered]
  have quiet : ¬(Presentable s i ∨ h.Asked) := by
    intro asked
    have ack := undisturbed.flush flush asked
    simp [unanswered] at ack
  rw [not_or] at quiet
  have unasked : (request s i).req = false := by
    rw [Bool.eq_false_iff]
    exact fun req => quiet.1 (request_req_iff.mp req).1
  have untaken : i.take = false := by
    rw [Bool.eq_false_iff]
    intro takes
    simpa [unasked] using (env.takes takes).1
  have free : h.busy = false := by
    rw [Bool.eq_false_iff]
    exact fun busy => quiet.2 (follows.asked busy)
  have remains : remaining s i h = [amo] := by simp [remaining, unretired, shown, unasked, waits]
  have unpresented : amo.presented = false := by
    rw [Bool.eq_false_iff]
    exact fun presented => quiet.2 ⟨amo, by simp [waits], presented⟩
  exact
    { latched := fun _ => ⟨_, _, rfl, rfl, rfl, rfl⟩
      empty := amoBuffer_empty_of_validStore
      single := by simp [record, flush]
      held := by simp [record, flush]
      asked := by simp [record, untaken, free]
      issued := by simpa [record, untaken, free, unretired] using follows.issued
      answered := by simpa [record, unretired, unanswered] using follows.answered
      flushed := by
        intro gone member
        simp only [record, flush, if_true, remains, List.mem_append, List.mem_singleton] at member
        rcases member with before | rfl
        · exact follows.flushed gone before
        · exact unpresented }

/-- The data cache is asked for the operation that waits. -/
theorem request_eq (follows : Follows s h) {amo : Waiting cfg.lsu} (member : amo ∈ h.amos)
    (req : (request s i).req = true) : request s i = amo.request := by
  have entry := (follows.held amo member).2
  have fields : request s i =
      { req := (request s i).req
        amoOp := s.amoBuffer.memQ.op
        size := s.amoBuffer.memQ.size
        operandA := s.amoBuffer.memQ.paddr.setWidth 64
        operandB := s.amoBuffer.memQ.data.setWidth 64 } := rfl
  rw [fields, req, entry]
  rfl

theorem step_of_waits (follows : Follows s h) (env : Environment (s, h) i)
    (undisturbed : Undisturbed (s, h) i) {amo : Waiting cfg.lsu} (waits : h.amos = [amo])
    (unanswered : i.commit.amoResp.ack = false) (kept : i.unit.flush = false) :
    Follows ((machine cfg).step s i) (record s i h) := by
  have unretired : retires s i = false := by
    rw [follows.retires_eq_ack env undisturbed, unanswered]
  rcases follows.held amo (by simp [waits]) with ⟨full, entry⟩
  obtain ⟨shownAmo, shows, same, sameEntry, presented⟩ : ∃ shownAmo, shown s i h = [shownAmo] ∧
      shownAmo.request = amo.request ∧ shownAmo.entry = amo.entry ∧
      ((request s i).req = true ∨ amo.presented = true → shownAmo.presented = true) := by
    unfold shown
    split <;> simp_all [Waiting.present, Waiting.request, Waiting.entry]
  have amos : (record s i h).amos = [shownAmo] := by
    simp [record, kept, remaining, unretired, shows, follows.inserted_eq_nil waits]
  exact
    { latched := fun _ => ⟨_, _, rfl, rfl, rfl, rfl⟩
      empty := amoBuffer_empty_of_validStore
      single := by simp [amos]
      held := by
        intro still member
        rw [amos, List.mem_singleton] at member
        subst member
        have unflushed : (unitInput s i).flush = false := kept
        have unacknowledged : (unitInput s i).amoResp.ack = false := unanswered
        rw [sameEntry, ← entry]
        simp only [machine, StoreUnit.step]
        split <;> simp [AmoBuffer.step, AmoBuffer.push, AmoBuffer.pop, AmoBuffer.flushAmoBuffer,
          StoreUnit.amoBufferInput, full, unflushed, unacknowledged]
      asked := by
        intro busy
        refine ⟨shownAmo, by simp [amos], presented ?_⟩
        simp only [record, unanswered, Bool.not_false, Bool.and_true, Bool.or_eq_true] at busy
        rcases busy with takes | before
        · exact Or.inl (env.takes takes).1
        · rcases follows.asked before with ⟨old, member, shown⟩
          rw [waits, List.mem_singleton] at member
          subst member
          exact Or.inr shown
      issued := by
        rw [amos]
        cases takes : i.take with
        | true =>
            have req : (request s i).req = true := (env.takes takes).1
            have free : h.busy = false := (env.takes takes).2
            have asked : request s i = amo.request := follows.request_eq (by simp [waits]) req
            simp [record, takes, unretired, follows.issued, free, asked, same]
        | false => simp [record, takes, unretired, unanswered, follows.issued, waits, same]
      answered := by simpa [record, unretired, unanswered] using follows.answered
      flushed := by simpa [record, kept] using follows.flushed }

theorem step (follows : Follows s h) (env : Environment (s, h) i)
    (undisturbed : Undisturbed (s, h) i) :
    Follows ((machine cfg).step s i) (record s i h) := by
  have single := follows.single
  rcases waits : h.amos with _ | ⟨amo, _ | ⟨next, rest⟩⟩
  · exact follows.step_of_idle env waits
  · cases ack : i.commit.amoResp.ack with
    | true => exact follows.step_of_ack env undisturbed waits ack
    | false =>
        cases flush : i.unit.flush with
        | true => exact follows.step_of_flush env undisturbed waits ack flush
        | false => exact follows.step_of_waits env undisturbed waits ack flush
  · simp [waits] at single

theorem committedOnce (follows : Follows s h) : CommittedOnce s h where
  presented i env req := by
    rcases (request_req_iff.mp req).1 with ⟨oldest, _, _, noPending⟩
    have first := env.oldest oldest
    rcases amos : h.amos with _ | ⟨amo, rest⟩
    · simp [amos] at first
    · have empty : (StoreBuffer.commitQueue s.storeBuffer).count = 0 := by
        simp only [StoreBuffer.noStPending, decide_eq_true_eq] at noPending
        simp [StoreBuffer.commitQueue, noPending]
      refine ⟨amo, rest, rfl, oldest, by simpa [amos] using first,
        RingQueue.contents_of_empty empty, follows.request_eq (by simp [amos]) req⟩
  issued := follows.issued
  issued_length := by
    have lengths := congrArg List.length follows.answered
    rw [List.length_map, List.length_map] at lengths
    rw [follows.issued, List.length_append, List.length_map, lengths]
    split
    case isTrue busy =>
      rcases follows.asked busy with ⟨amo, member, _⟩
      have filled := List.length_pos_of_mem member
      have single := follows.single
      rw [List.length_map]
      omega
    case isFalse => rfl
  answered := follows.answered
  flushed := follows.flushed

end Follows

theorem follows_reset : Follows (StoreUnit.reset : State cfg) (History.initial cfg.lsu) where
  latched valid := by cases valid
  empty valid := by cases valid
  single := Nat.zero_le 1
  held _ member := by cases member
  asked busy := by cases busy
  issued := rfl
  answered := rfl
  flushed _ member := by cases member

/-- In a run in which what was asked for is not flushed without the answer, and the answer
finds the commit stage running, the operations commit once. -/
theorem amos_committed_once {inputs : List (Input cfg)}
    (along : (recorded cfg).RunAlong
      (fun state i => Environment state i ∧ Undisturbed state i) inputs) :
    CommittedOnce ((recorded cfg).run inputs).1 ((recorded cfg).run inputs).2 := by
  have follows := (recorded cfg).run_invariant_along
    (fun state => Follows state.1 state.2) follows_reset
    (fun _ _ follows cycle => follows.step cycle.1 cycle.2) along
  exact follows.committedOnce

/-! ## Runs -/

instance decidableAsked (h : History cfg.lsu) : Decidable h.Asked :=
  inferInstanceAs (Decidable (∃ amo ∈ h.amos, amo.presented = true))

instance decidablePresentable (s : State cfg) (i : Input cfg) : Decidable (Presentable s i) :=
  inferInstanceAs (Decidable (_ ∧ _ ∧ _ ∧ _))

instance decidableEnvironment (state : State cfg × History cfg.lsu) (i : Input cfg) :
    Decidable (Environment state i) :=
  decidable_of_iff
    ((atCommit i = true →
        state.2.amos.head?.map (·.ctrl.transId.toNat) = some i.port.instr.transId.val) ∧
      (atCommit i = true → i.port.fu = .store ∧ i.port.drop = false) ∧
      (state.2.Asked → atCommit i = true) ∧
      (i.take = true → (request state.1 i).req = true ∧ state.2.busy = false) ∧
      (i.commit.amoResp.ack = true → state.2.busy = true))
    ⟨fun holds => ⟨holds.1, holds.2.1, holds.2.2.1, holds.2.2.2.1, holds.2.2.2.2⟩,
      fun env => ⟨env.oldest, env.decoded, env.keeps, env.takes, env.answers⟩⟩

instance decidableUndisturbed (state : State cfg × History cfg.lsu) (i : Input cfg) :
    Decidable (Undisturbed state i) :=
  decidable_of_iff
    ((i.unit.flush = true → Presentable state.1 i ∨ state.2.Asked →
        i.commit.amoResp.ack = true) ∧
      (i.commit.amoResp.ack = true → state.2.Asked →
        i.commit.halt = false ∧ i.commit.breakFromTrigger = false))
    ⟨fun holds => ⟨holds.1, holds.2⟩, fun undisturbed => ⟨undisturbed.flush, undisturbed.answer⟩⟩

/-- A core with all extensions and the debug mode. -/
def Cfg.sample : Cfg where
  lsu := Lsu.Cfg.sample
  commit := { Commit.Cfg.sample with debugEn := true }
  rva_eq := rfl
  isXlen64_eq := rfl
  transIdBits_eq := rfl

def noException : ExceptionT := ⟨0, 0, 0, 0, false, false⟩

/-- A cycle in which nothing is requested and nothing is at the commit port; the translation
hits. -/
def Input.idle : Input Cfg.sample where
  unit :=
    { flush := false
      stallStPending := false
      valid := false
      lsuCtrl := ⟨false, 0, 0, 0, .none, .add, 0, false, false⟩
      commit := false
      amoValidCommit := false
      mbe := false
      paddr := 0
      ex := noException
      dtlbHit := true
      amoResp := { ack := false, result := 0 }
      reqPort := { dataGnt := false, dataRvalid := false, dataRid := 0, dataRdata := 0 } }
  port :=
    { instr :=
        { instr := { pc := 0, op := .add, vfp := false }
          transId := 0
          fu := .none
          rd := 0
          result := 0
          valid := false
          ex := noException
          predictAddress := 0
          isMacroInstr := false
          isLastMacroInstr := false
          isDoubleRdMacroInstr := false }
      drop := false }
  commit :=
    { halt := false
      flushDcache := false
      singleStep := false
      amoResp := { ack := false, result := 0 }
      csrRdata := 0
      csrException := noException
      commitLsuReady := true
      noStPending := true
      breakFromTrigger := false }
  take := false

/-- An addition of 7 to the double word at the address is requested. -/
def Input.amoAdd (i : Input Cfg.sample) (vaddr : Nat) : Input Cfg.sample :=
  { i with
    unit :=
      { i.unit with
        valid := true
        lsuCtrl :=
          ⟨true, BitVec.ofNat _ vaddr, BitVec.ofNat _ 7, BitVec.ofNat _ 255, .store, .amoAddd,
            0, false, false⟩ } }

/-- The physical address of the request of the last cycle. -/
def Input.translated (i : Input Cfg.sample) (paddr : Nat) : Input Cfg.sample :=
  { i with unit := { i.unit with paddr := BitVec.ofNat _ paddr } }

/-- The addition, to register 5, is the oldest instruction. -/
def Input.showsAmoAdd (i : Input Cfg.sample) : Input Cfg.sample :=
  { i with
    port :=
      { i.port with
        instr :=
          { i.port.instr with
            instr := { pc := 4, op := .amoAddd, vfp := false }
            fu := .store
            rd := 5
            valid := true } } }

/-- The data cache takes the request. -/
def Input.takes (i : Input Cfg.sample) : Input Cfg.sample := { i with take := true }

/-- The data cache answers. -/
def Input.answers (i : Input Cfg.sample) (result : Nat) : Input Cfg.sample :=
  { i with
    commit := { i.commit with amoResp := { ack := true, result := BitVec.ofNat _ result } } }

/-- The pipeline is flushed. -/
def Input.flushes (i : Input Cfg.sample) : Input Cfg.sample :=
  { i with unit := { i.unit with flush := true } }

/-- An addition is written back and committed; its commit flushes the pipeline. -/
def addition : List (Input Cfg.sample) :=
  let idle := Input.idle
  [idle.amoAdd 64, idle.translated 64, idle.showsAmoAdd.takes, idle.showsAmoAdd,
    (idle.showsAmoAdd.answers 3).flushes, idle]

theorem amos_committed_once_addition :
    CommittedOnce ((recorded Cfg.sample).run addition).1
      ((recorded Cfg.sample).run addition).2 :=
  amos_committed_once (by decide +kernel)

example : ((recorded Cfg.sample).run addition).2.commits.map
    (fun c => (c.rd, c.we, c.wdata)) = [(5, true, 3)] := by
  decide +kernel

/-- The trigger module sends the core to the debug mode when the addition is the oldest
instruction. -/
def flushedAddition : List (Input Cfg.sample) :=
  let idle := Input.idle
  [idle.amoAdd 64, idle.translated 64, idle.showsAmoAdd.takes.flushes]

/-- The data cache was asked for the addition, and it is flushed. -/
theorem flushed_amo_presented :
    (recorded Cfg.sample).RunAlong Environment flushedAddition ∧
      ((recorded Cfg.sample).run flushedAddition).2.issued.length = 1 ∧
      ((recorded Cfg.sample).run flushedAddition).2.commits = [] ∧
      ¬CommittedOnce ((recorded Cfg.sample).run flushedAddition).1
        ((recorded Cfg.sample).run flushedAddition).2 := by
  refine ⟨by decide +kernel, by decide +kernel, by decide +kernel, ?_⟩
  intro once
  exact absurd once.flushed (by decide +kernel)

end Cva6Hpd.Lsu.AmoCommit
