import Cva6Hpd.CacheSubsystem.WtAxiAdapter.Pairing

/-!
# The queues of the adapter

What one cycle does to the queues: the head of the request queue is granted, and its identifier
goes to the queue of reads or to that of writes; responses take identifiers from there.
-/

namespace Cva6Hpd.CacheSubsystem.WtAxiAdapter

open Cva6Hpd.Hw
open Cva6Hpd.Common
open Cva6Hpd.Ariane (AmoT)

variable {cfg : Cfg}

/-! ## Identifiers -/

theorem axiId_getLsbD_zero (dcache atomic : Bool) :
    (axiId dcache atomic : BitVec cfg.idBits).getLsbD 0 = dcache := by
  have bound := cfg.two_le_idBits
  have inside : 0 < cfg.idBits := by omega
  rw [axiId, BitVec.getLsbD_ofNat, decide_eq_true inside, Bool.true_and]
  cases dcache <;> cases atomic <;> decide

theorem axiId_getLsbD_one (dcache atomic : Bool) :
    (axiId dcache atomic : BitVec cfg.idBits).getLsbD 1 = atomic := by
  have bound := cfg.two_le_idBits
  have inside : 1 < cfg.idBits := by omega
  rw [axiId, BitVec.getLsbD_ofNat, decide_eq_true inside, Bool.true_and]
  cases dcache <;> cases atomic <;> decide

/-! ## The request path -/

section Request

variable {s : State cfg} {c : Cycle cfg}

theorem decodes_eq_true_iff (rtype : DcacheOut) :
    decodes s rtype = true ↔
      (arbReq s).any = true ∧ arbIdx s = true ∧ (dcacheData s).rtype = rtype := by
  simp [decodes, and_assoc]

theorem any_of_axiWrReq (writes : axiWrReq s = true) :
    (arbReq s).any = true ∧ arbIdx s = true := by
  simp only [axiWrReq, Bool.or_eq_true, Bool.and_eq_true, decodes_eq_true_iff] at writes
  rcases writes with writes | writes
  · exact ⟨writes.1, writes.2.1⟩
  · exact ⟨writes.1.1, writes.1.2.1⟩

theorem any_of_axiRdReq (reads : axiRdReq s = true) : (arbReq s).any = true := by
  simp only [axiRdReq, Bool.or_eq_true, Bool.and_eq_true, decodes_eq_true_iff] at reads
  rcases reads with (reads | reads) | reads
  · exact reads.1
  · exact reads.1
  · exact reads.1.1

theorem grants_eq : grants s c = (arbGnt s c.toInput && arbIdx s) :=
  rfl

/-- The queues are formed, the arbiter holds requests that stay, and the shim works on a
request that is presented. -/
structure Wired (s : State cfg) : Prop where
  held : s.arb.Held (arbReq s)
  shim : s.wrStateQ ≠ .idle → axiWrReq s = true
  icacheQueue : s.icacheDataFifo.Formed
  dcacheQueue : s.dcacheDataFifo.Formed
  icacheReads : s.rdIcacheId.Formed
  dcacheReads : s.rdDcacheId.Formed
  dcacheWrites : s.wrDcacheId.Formed
  responses : s.bFifo.Formed

theorem wired_reset : Wired (reset : State cfg) where
  held := RrArbTree.held_reset _
  shim presents := absurd rfl presents
  icacheQueue := FifoV3.formed_init _
  dcacheQueue := FifoV3.formed_init _
  icacheReads := FifoV3.formed_init _
  dcacheReads := FifoV3.formed_init _
  dcacheWrites := FifoV3.formed_init _
  responses := FifoV3.formed_init _

theorem Wired.any_of_axiWrGnt (wired : Wired s) (granted : axiWrGnt s c.toInput = true) :
    axiWrReq s = true := by
  cases state : s.wrStateQ with
  | idle =>
      simp only [axiWrGnt, state, Bool.and_eq_true] at granted
      exact granted.1.1
  | waitAwReady => exact wired.shim (by simp [state])
  | waitLastWReady => exact wired.shim (by simp [state])

theorem Wired.any_of_arbGnt (wired : Wired s) (granted : arbGnt s c.toInput = true) :
    (arbReq s).any = true := by
  rcases Bool.or_eq_true_iff.mp granted with reads | writes
  · exact any_of_axiRdReq (Bool.and_eq_true_iff.mp reads).1
  · exact (any_of_axiWrReq (wired.any_of_axiWrGnt writes)).1

/-- The request at the head of the queue of the data cache is presented. -/
structure Head (s : State cfg) (req : DcacheReq cfg) (rest : List (DcacheReq cfg)) : Prop where
  any : (arbReq s).any = true
  idx : arbIdx s = true
  queue : s.dcacheDataFifo.contents = req :: rest
  data : dcacheData s = req
  reads : s.rdDcacheId.full = false
  writes : s.wrDcacheId.full = false

theorem Wired.head (wired : Wired s) (any : (arbReq s).any = true) (idx : arbIdx s = true) :
    ∃ req rest, Head s req rest := by
  have requests := wired.held.req_of_idx any
  rw [show s.arb.idx (arbReq s) = true from idx, if_pos rfl] at requests
  have free : s.dcacheDataFifo.empty = false ∧ s.wrDcacheId.full = false ∧
      s.rdDcacheId.full = false := by
    simpa [arbReq, and_assoc] using requests
  cases stored : s.dcacheDataFifo.contents with
  | nil =>
      rw [FifoV3.empty_eq_true_iff.mpr stored] at free
      exact absurd free.1.symm Bool.false_ne_true
  | cons req rest =>
      exact ⟨req, rest, any, idx, stored, FifoV3.dataOut_eq stored, free.2.2, free.2.1⟩

theorem Head.some {req : DcacheReq cfg} {rest : List (DcacheReq cfg)} (head : Head s req rest) :
    s.dcacheDataFifo.empty = false := by
  rw [Bool.eq_false_iff]
  intro none
  have stored := head.queue
  rw [FifoV3.empty_eq_true_iff.mp none] at stored
  contradiction

theorem Head.decodes_eq {req : DcacheReq cfg} {rest : List (DcacheReq cfg)} (head : Head s req rest)
    (rtype : DcacheOut) : decodes s rtype = decide (req.rtype = rtype) := by
  simp [decodes, head.any, head.idx, head.data]

/-- A request that is read from the memory. -/
def DcacheReq.isRead (req : DcacheReq cfg) : Bool :=
  req.rtype = .load || (req.rtype = .atomic && req.amoOp = .lr)

/-- A request that is written to the memory. -/
def DcacheReq.isWrite (req : DcacheReq cfg) : Bool :=
  req.rtype = .store || (req.rtype = .atomic && req.amoOp ≠ .lr)

theorem DcacheReq.not_isWrite_of_isRead {req : DcacheReq cfg} (isRead : req.isRead = true) :
    req.isWrite = false := by
  simp only [DcacheReq.isRead, Bool.or_eq_true, Bool.and_eq_true, decide_eq_true_eq] at isRead
  rcases isRead with isLoad | ⟨isAtomic, isLr⟩
  · simp [DcacheReq.isWrite, isLoad]
  · simp [DcacheReq.isWrite, isAtomic, isLr]

theorem Head.axiRdReq_eq {req : DcacheReq cfg} {rest : List (DcacheReq cfg)}
    (head : Head s req rest) : axiRdReq s = req.isRead := by
  simp [axiRdReq, DcacheReq.isRead, head.any, head.idx, head.data, head.decodes_eq]

theorem Head.axiWrReq_eq {req : DcacheReq cfg} {rest : List (DcacheReq cfg)}
    (head : Head s req rest) : axiWrReq s = req.isWrite := by
  simp [axiWrReq, DcacheReq.isWrite, head.data, head.decodes_eq]

/-- What is granted: nothing of the data cache, a read of it, or a write of it. -/
theorem Wired.grants_cases (wired : Wired s) (c : Cycle cfg) :
    grants s c = false ∨
      (grants s c = true ∧ ∃ req rest, Head s req rest ∧
        ((req.isRead = true ∧ axiRdGnt s c.toInput = true ∧ axiWrGnt s c.toInput = false) ∨
          (req.isRead = false ∧ req.isWrite = true ∧ axiRdGnt s c.toInput = false ∧
            axiWrGnt s c.toInput = true))) := by
  cases granted : grants s c with
  | false => exact Or.inl rfl
  | true =>
      right
      rw [grants_eq, Bool.and_eq_true] at granted
      obtain ⟨req, rest, head⟩ := wired.head (wired.any_of_arbGnt granted.1) granted.2
      refine ⟨rfl, req, rest, head, ?_⟩
      have noWrite (other : req.isWrite = false) : axiWrGnt s c.toInput = false := by
        rw [Bool.eq_false_iff]
        intro writes
        have presented := wired.any_of_axiWrGnt writes
        rw [head.axiWrReq_eq, other] at presented
        exact Bool.false_ne_true presented
      have reads : axiRdGnt s c.toInput = (req.isRead && c.arReady) := by
        rw [axiRdGnt, head.axiRdReq_eq]
      cases isRead : req.isRead with
      | true =>
          have other := noWrite (DcacheReq.not_isWrite_of_isRead isRead)
          have some := granted.1
          rw [arbGnt, other, Bool.or_false] at some
          exact Or.inl ⟨rfl, some, other⟩
      | false =>
          rw [isRead, Bool.false_and] at reads
          have some := granted.1
          rw [arbGnt, reads, Bool.false_or] at some
          have isWrite := wired.any_of_axiWrGnt some
          rw [head.axiWrReq_eq] at isWrite
          exact Or.inr ⟨rfl, isWrite, reads, some⟩

/-! ## The queues after a cycle -/

/-- What enters the request queue of the data cache. -/
def entering (s : State cfg) (c : Cycle cfg) : List (DcacheReq cfg) :=
  if dcacheDataAck s c.toInput then [c.dcacheData] else []

/-- The identifiers that enter the queue of reads. -/
def pushedReads (s : State cfg) (c : Cycle cfg) : List (BitVec cfg.tidBits) :=
  if grants s c && axiRdGnt s c.toInput then [(dcacheData s).tid] else []

/-- The identifiers that enter the queue of writes. -/
def pushedWrites (s : State cfg) (c : Cycle cfg) : List (BitVec cfg.tidBits) :=
  if grants s c && axiWrGnt s c.toInput then [(dcacheData s).tid] else []

theorem Wired.queue_step (wired : Wired s) (c : Cycle cfg) :
    (step s c.toInput).dcacheDataFifo.contents =
      (if grants s c then s.dcacheDataFifo.contents.tail else s.dcacheDataFifo.contents) ++
        entering s c := by
  have after := FifoV3.contents_step (dcacheDataAck s c.toInput) c.dcacheData
    (arbAck s c.toInput 1) wired.dcacheQueue
  have room : (dcacheDataAck s c.toInput && !s.dcacheDataFifo.full) =
      dcacheDataAck s c.toInput := by simp [dcacheDataAck]
  rw [room] at after
  exact after

theorem Wired.full_of_grants (wired : Wired s) (granted : grants s c = true) :
    s.rdDcacheId.full = false ∧ s.wrDcacheId.full = false := by
  rw [grants_eq, Bool.and_eq_true] at granted
  obtain ⟨_, _, head⟩ := wired.head (wired.any_of_arbGnt granted.1) granted.2
  exact ⟨head.reads, head.writes⟩

theorem Wired.reads_step (wired : Wired s) (c : Cycle cfg) :
    (step s c.toInput).rdDcacheId.contents =
      (if (decode s c.toInput).rdPop then s.rdDcacheId.contents.tail
        else s.rdDcacheId.contents) ++ pushedReads s c := by
  have after := FifoV3.contents_step (arbAck s c.toInput 1 && axiRdGnt s c.toInput)
    (dcacheData s).tid (decode s c.toInput).rdPop wired.dcacheReads
  have room : (arbAck s c.toInput 1 && axiRdGnt s c.toInput && !s.rdDcacheId.full) =
      (grants s c && axiRdGnt s c.toInput) := by
    cases granted : grants s c with
    | false => rw [← grants, granted, Bool.false_and, Bool.false_and]
    | true =>
        rw [← grants, granted, (wired.full_of_grants granted).1, Bool.not_false, Bool.and_true]
  rw [room] at after
  exact after

theorem Wired.writes_step (wired : Wired s) (c : Cycle cfg) :
    (step s c.toInput).wrDcacheId.contents =
      (if (decode s c.toInput).wrPop then s.wrDcacheId.contents.tail
        else s.wrDcacheId.contents) ++ pushedWrites s c := by
  have after := FifoV3.contents_step (arbAck s c.toInput 1 && axiWrGnt s c.toInput)
    (dcacheData s).tid (decode s c.toInput).wrPop wired.dcacheWrites
  have room : (arbAck s c.toInput 1 && axiWrGnt s c.toInput && !s.wrDcacheId.full) =
      (grants s c && axiWrGnt s c.toInput) := by
    cases granted : grants s c with
    | false => rw [← grants, granted, Bool.false_and, Bool.false_and]
    | true =>
        rw [← grants, granted, (wired.full_of_grants granted).2, Bool.not_false, Bool.and_true]
  rw [room] at after
  exact after

/-! ## What waits stays -/

theorem Wired.dcacheData_stays (wired : Wired s) (some : s.dcacheDataFifo.empty = false)
    (waits : arbGnt s c.toInput = false) :
    (step s c.toInput).dcacheDataFifo.empty = false ∧
      dcacheData (step s c.toInput) = dcacheData s := by
  have noPop : arbAck s c.toInput 1 = false := by simp [arbAck, RrArbTree.gntO, waits]
  have same : (step s c.toInput).dcacheDataFifo =
      s.dcacheDataFifo.step (dcacheDataAck s c.toInput) c.dcacheData false false := by
    simp only [step, noPop]
  rw [dcacheData, dcacheData, same]
  exact FifoV3.dataOut_step_of_stays wired.dcacheQueue some _ _

theorem Wired.arbReq_stays (wired : Wired s) (waits : arbGnt s c.toInput = false) (port : Fin 2)
    (requests : arbReq s port = true) : arbReq (step s c.toInput) port = true := by
  have noAck (port : Fin 2) : arbAck s c.toInput port = false := by
    simp [arbAck, RrArbTree.gntO, waits]
  match port with
  | 0 =>
      have now : s.icacheDataFifo.empty = false ∧ s.rdIcacheId.full = false := by
        simpa [arbReq] using requests
      have data := (FifoV3.dataOut_step_of_stays wired.icacheQueue now.1
        (icacheDataAck s c.toInput) c.icacheData).1
      have room := FifoV3.full_step_of_pops wired.icacheReads now.2 (icacheData s).tid
        (icacheRtrnVldD s c.toInput)
      simp [arbReq, step, noAck, data, room]
  | 1 =>
      have now : s.dcacheDataFifo.empty = false ∧ s.wrDcacheId.full = false ∧
          s.rdDcacheId.full = false := by
        simpa [arbReq, and_assoc] using requests
      have data := (FifoV3.dataOut_step_of_stays wired.dcacheQueue now.1
        (dcacheDataAck s c.toInput) c.dcacheData).1
      have writes := FifoV3.full_step_of_pops wired.dcacheWrites now.2.1
        (dcacheData s).tid (decode s c.toInput).wrPop
      have reads := FifoV3.full_step_of_pops wired.dcacheReads now.2.2
        (dcacheData s).tid (decode s c.toInput).rdPop
      simp [arbReq, step, noAck, data, writes, reads]

/-- What is presented and not granted stays presented. -/
theorem Wired.decodes_stays (wired : Wired s) (any : (arbReq s).any = true)
    (waits : arbGnt s c.toInput = false) (rtype : DcacheOut) :
    decodes (step s c.toInput) rtype = decodes s rtype := by
  have still : (arbReq (step s c.toInput)).any = true := by
    obtain ⟨port, requests⟩ := (Bits.any_eq_true_iff _).mp any
    exact (Bits.any_eq_true_iff _).mpr ⟨port, wired.arbReq_stays waits port requests⟩
  have idx : arbIdx (step s c.toInput) = arbIdx s := by
    rw [arbIdx, arbIdx, step, waits]
    exact wired.held.idx_step any
  cases chosen : arbIdx s with
  | false => simp [decodes, idx, chosen]
  | true =>
      obtain ⟨req, rest, head⟩ := wired.head any chosen
      have same := (wired.dcacheData_stays head.some waits).2
      simp [decodes, any, still, idx, chosen, same]

theorem Wired.shim_step (wired : Wired s) (busy : (step s c.toInput).wrStateQ ≠ .idle) :
    axiWrReq (step s c.toInput) = true := by
  have presents : axiWrReq s = true := by
    cases state : s.wrStateQ with
    | idle =>
        cases requests : axiWrReq s with
        | true => rfl
        | false => simp [step, wrStateD, state, requests] at busy
    | waitAwReady => exact wired.shim (by simp [state])
    | waitLastWReady => exact wired.shim (by simp [state])
  obtain ⟨any, idx⟩ := any_of_axiWrReq presents
  obtain ⟨req, rest, head⟩ := wired.head any idx
  have isWrite : req.isWrite = true := head.axiWrReq_eq ▸ presents
  have noRead : axiRdReq s = false := by
    rw [head.axiRdReq_eq, Bool.eq_false_iff]
    intro isRead
    rw [DcacheReq.not_isWrite_of_isRead isRead] at isWrite
    contradiction
  have waits : arbGnt s c.toInput = false := by
    have noGrant : axiWrGnt s c.toInput = false := by
      cases state : s.wrStateQ with
      | idle =>
          cases aw : c.awReady <;> cases w : c.wReady <;>
            simp [step, wrStateD, axiWrGnt, state, presents, aw, w] at busy ⊢
      | waitAwReady =>
          cases aw : c.awReady <;> simp [step, wrStateD, axiWrGnt, state, aw] at busy ⊢
      | waitLastWReady =>
          cases w : c.wReady <;> simp [step, wrStateD, axiWrGnt, state, w] at busy ⊢
    rw [arbGnt, axiRdGnt, noRead, noGrant]
    rfl
  have same := (wired.dcacheData_stays head.some waits).2
  rw [axiWrReq] at presents ⊢
  rw [wired.decodes_stays any waits, wired.decodes_stays any waits, same]
  exact presents

theorem Wired.step (wired : Wired s) (c : Cycle cfg) : Wired (step s c.toInput) where
  held := wired.held.step fun waits port requests => wired.arbReq_stays waits port requests
  shim := wired.shim_step
  icacheQueue := wired.icacheQueue.step _ _ _ _
  dcacheQueue := wired.dcacheQueue.step _ _ _ _
  icacheReads := wired.icacheReads.step _ _ _ _
  dcacheReads := wired.dcacheReads.step _ _ _ _
  dcacheWrites := wired.dcacheWrites.step _ _ _ _
  responses := wired.responses.stepThrough

end Request

end Cva6Hpd.CacheSubsystem.WtAxiAdapter
