import Cva6Hpd.CacheSubsystem.WtAxiAdapter.Wiring

/-!
# Loads and stores

While no atomic is requested, loads are answered on the read channel and stores on the write
channel, each in the order in which they were granted. Write responses of earlier atomics are
dropped in between.
-/

/-!
## The responses of a cycle

What is decoded in a cycle, in the terms of the memory: an invalidation, a beat of a read, or
the oldest write response that waits.
-/

namespace Cva6Hpd.CacheSubsystem.WtAxiAdapter

open Cva6Hpd.Hw
open Cva6Hpd.Common

variable {cfg : Cfg} {s : State cfg} {c : Cycle cfg} {h : History cfg}

/-! ## Write responses that wait -/

def bEntry (entry : WriteKind × Bool) : Bool × BitVec cfg.idBits := (entry.2, entry.1.id)

/-- The queue holds the responses of the history. -/
def Buffers (s : State cfg) (h : History cfg) : Prop := s.bFifo.contents = h.buffered.map bEntry

theorem bPush_and_room : (bPush s c.toInput && !s.bFifo.full) = bPush s c.toInput := by
  simp [bPush]

theorem Buffers.shown (buffers : Buffers s h) (env : Environment (s, h) c) :
    s.bFifo.shown (bPush s c.toInput) (bData c.toInput) = (shownWrites s c h).map bEntry := by
  rw [FifoV3.shown, bPush_and_room, buffers, shownWrites, List.map_append]
  cases pushes : bPush s c.toInput with
  | false => rfl
  | true =>
      have id := env.writeId (Bool.and_eq_true_iff.mp pushes).1
      simp [bData, bEntry, id]

theorem Buffers.step (buffers : Buffers s h) (wired : Wired s) (env : Environment (s, h) c) :
    Buffers (step s c.toInput) (record s c h) := by
  have after := @FifoV3.contents_stepThrough _ _ s.bFifo (bPush s c.toInput) (bData c.toInput)
    (decode s c.toInput).bPop _ wired.responses
  rw [buffers.shown env] at after
  rw [Buffers, record]
  refine Eq.trans after ?_
  dsimp only
  split
  · rw [List.map_tail]
  · rfl

/-- A response that can be used was waiting, or is owed. -/
theorem mem_shownWrites (env : Environment (s, h) c) {entry : WriteKind × Bool}
    (shown : entry ∈ shownWrites s c h) : entry ∈ h.buffered ∨ 0 < h.owedWrites entry.1 := by
  rcases List.mem_append.mp shown with waits | arrives
  · exact Or.inl waits
  · cases pushes : bPush s c.toInput with
    | false => simp [pushes] at arrives
    | true =>
        have same : entry = (c.bFor, decide (c.b.resp = 1)) := by simpa [pushes] using arrives
        rw [same]
        exact Or.inr (env.writes (Bool.and_eq_true_iff.mp pushes).1)

/-- A response that arrives is not owed any more, and can be used. -/
theorem count_shownWrites (env : Environment (s, h) c) (kind : WriteKind) :
    (h.owedWrites kind - if bPush s c.toInput ∧ c.bFor = kind then 1 else 0) +
        (shownWrites s c h).countP (fun entry => entry.1 = kind) =
      h.owedWrites kind + h.buffered.countP fun entry => entry.1 = kind := by
  rw [shownWrites, List.countP_append]
  cases pushes : bPush s c.toInput with
  | false => simp
  | true =>
      have owed : 0 < h.owedWrites c.bFor := env.writes (Bool.and_eq_true_iff.mp pushes).1
      by_cases same : c.bFor = kind
      · rw [same] at owed
        simp [same]
        omega
      · simp [same]

/-! ## What is decoded -/

/-- A write response is decoded by its identifier. -/
def writeDecode (s : State cfg) (kind : WriteKind) : Decode cfg :=
  let default : Decode cfg := .idle
  if kind = .store then
    { default with bPop := true, rtype := .storeAck, rtrnVld := true, wrPop := true }
  else
    { default with
      bPop := true, rtype := .atomicAck
      rtrnVld := !s.amoGenRQ, wrPop := !s.amoGenRQ, scRtrn := !s.amoGenRQ }

/-- No read response of the data cache is taken. -/
structure NoReads (s : State cfg) (c : Cycle cfg) : Prop where
  load : takesRead s c .load = false
  atomic : takesRead s c .atomic = false

inductive Decoded (s : State cfg) (c : Cycle cfg) (h : History cfg) : Prop where
  | invalidates (now : invalidate s c.toInput = true) (noReads : NoReads s c)
      (same : decode s c.toInput =
        { (Decode.idle : Decode cfg) with
          rtype := .inv, rtrnVld := true, invAll := true
          invIdx := (dcacheData s).paddr.setWidth _ })
  | load (takes : takesRead s c .load = true) (other : takesRead s c .atomic = false)
      (same : decode s c.toInput =
        { (Decode.idle : Decode cfg) with
          rtrnRdEn := true, rtrnVld := c.r.last, rdPop := c.r.last })
  | atomic (takes : takesRead s c .atomic = true) (other : takesRead s c .load = false)
      (same : decode s c.toInput =
        { (Decode.idle : Decode cfg) with
          rtrnRdEn := true, rtrnVld := c.r.last, rtype := .atomicAck
          wrPop := c.r.last && !s.wrDcacheId.empty
          rdPop := c.r.last && s.wrDcacheId.empty })
  | silent (noReads : NoReads s c) (none : shownWrites s c h = [])
      (same : decode s c.toInput = .idle)
  | write (noReads : NoReads s c) (entry : WriteKind × Bool) (rest : List (WriteKind × Bool))
      (shown : shownWrites s c h = entry :: rest)
      (same : decode s c.toInput = writeDecode s entry.1)
      (out : bOut s c.toInput = bEntry entry)

theorem decoded_of_noReads (buffers : Buffers s h) (env : Environment (s, h) c)
    (rests : invalidate s c.toInput = false) (noReads : NoReads s c)
    (notDcache : (c.rValid && c.r.id.getLsbD 0 && axiRdRdy s c.toInput) = false) :
    Decoded s c h := by
  have shown := buffers.shown env
  cases waiting : shownWrites s c h with
  | nil =>
      rw [waiting, List.map_nil] at shown
      have empty : bEmpty s c.toInput = true := FifoV3.emptyThrough_eq_true_iff.mpr shown
      refine .silent noReads waiting ?_
      rw [decode]
      simp only [env.noInval, rests, notDcache, empty, Bool.not_true, Bool.false_eq_true, if_false]
  | cons entry rest =>
      rw [waiting, List.map_cons] at shown
      have some : bEmpty s c.toInput = false := by
        rw [Bool.eq_false_iff]
        intro empty
        rw [FifoV3.emptyThrough_eq_true_iff.mp empty] at shown
        contradiction
      have out : bOut s c.toInput = bEntry entry := FifoV3.dataOutThrough_eq shown
      refine .write noReads entry rest waiting ?_ out
      rw [decode]
      simp only [env.noInval, rests, notDcache, some, out, bEntry, Bool.not_false,
        Bool.false_eq_true, if_false, if_true]
      cases kind : entry.1 <;>
        simp [WriteKind.id, axiId_getLsbD_one, writeDecode]

theorem decoded (buffers : Buffers s h) (env : Environment (s, h) c) : Decoded s c h := by
  cases now : invalidate s c.toInput with
  | true =>
      have notReady : axiRdRdy s c.toInput = false := by simp [axiRdRdy, now]
      refine .invalidates now ⟨by simp [takesRead, notReady], by simp [takesRead, notReady]⟩ ?_
      rw [decode]
      simp only [env.noInval, now, Bool.false_eq_true, if_false, if_true]
  | false =>
      have ready : axiRdRdy s c.toInput = true := by simp [axiRdRdy, now]
      cases valid : c.rValid with
      | false =>
          exact decoded_of_noReads buffers env now
            ⟨by simp [takesRead, valid], by simp [takesRead, valid]⟩ (by simp [valid])
      | true =>
          have id := env.readId valid
          cases kind : c.rFor with
          | icache =>
              rw [kind] at id
              refine decoded_of_noReads buffers env now
                ⟨by simp [takesRead, kind], by simp [takesRead, kind]⟩ ?_
              rw [id, ReadKind.id, axiId_getLsbD_zero, Bool.and_false, Bool.false_and]
          | load =>
              rw [kind] at id
              refine .load (by simp [takesRead, valid, kind, ready]) (by simp [takesRead, kind]) ?_
              rw [decode]
              simp only [env.noInval, now, valid, ready, id, ReadKind.id, axiId_getLsbD_zero,
                axiId_getLsbD_one, Bool.and_self, Bool.false_eq_true, if_false, if_true]
          | atomic =>
              rw [kind] at id
              refine .atomic (by simp [takesRead, valid, kind, ready]) (by simp [takesRead, kind])
                ?_
              rw [decode]
              simp only [env.noInval, now, valid, ready, id, ReadKind.id, axiId_getLsbD_zero,
                axiId_getLsbD_one, Bool.and_self, Bool.false_eq_true, if_false, if_true]

end Cva6Hpd.CacheSubsystem.WtAxiAdapter

namespace Cva6Hpd.CacheSubsystem.WtAxiAdapter

open Cva6Hpd.Hw
open Cva6Hpd.Common
open Cva6Hpd.Ariane (AmoT)

variable {cfg : Cfg}

/-! ## What is on its way -/

/-- The identifier of an answer of this type in the register. -/
def inRegister (s : State cfg) (rtype : DcacheIn) : List (BitVec cfg.tidBits) :=
  if acks s rtype then [s.dcacheRtrnTidQ] else []

/-- The identifiers of the requests of this type. -/
def tids (rtype : DcacheOut) (requests : List (DcacheReq cfg)) : List (BitVec cfg.tidBits) :=
  (requests.filter fun req => req.rtype = rtype).map DcacheReq.tid

@[simp]
theorem tids_nil (rtype : DcacheOut) : tids rtype ([] : List (DcacheReq cfg)) = [] :=
  rfl

theorem tids_append (rtype : DcacheOut) (first second : List (DcacheReq cfg)) :
    tids rtype (first ++ second) = tids rtype first ++ tids rtype second := by
  rw [tids, List.filter_append, List.map_append]
  rfl

theorem tids_cons (rtype : DcacheOut) (req : DcacheReq cfg) (rest : List (DcacheReq cfg)) :
    tids rtype (req :: rest) =
      (if req.rtype = rtype then [req.tid] else []) ++ tids rtype rest := by
  by_cases same : req.rtype = rtype <;> simp [tids, same]

/-- The number of store responses that wait. -/
def waitingStores (h : History cfg) : Nat := h.buffered.countP fun entry => entry.1 = .store

/-- A write response of an atomic that loads will be dropped. -/
def AmosDropped (s : State cfg) (h : History cfg) : Prop :=
  (0 < h.owedWrites .amo ∨ ∃ entry ∈ h.buffered, entry.1 = .amo) → s.amoGenRQ = true

/-- No response to a store-conditional is owed or waits. -/
structure NoSc (h : History cfg) : Prop where
  owed : h.owedWrites .sc = 0
  buffered : ∀ entry ∈ h.buffered, entry.1 ≠ .sc

/-- Loads and stores are answered, in the register, sent or queued, in this order. -/
structure Accounted (s : State cfg) (h : History cfg) : Prop where
  reads : s.rdDcacheId.contents.length = h.owedLoads.length
  writes : s.wrDcacheId.contents.length = h.owedWrites .store + waitingStores h
  loads : tids .load h.accepted = h.loadAcks ++ inRegister s .loadAck ++
    s.rdDcacheId.contents ++ tids .load s.dcacheDataFifo.contents
  stores : tids .store h.accepted = h.storeAcks ++ inRegister s .storeAck ++
    s.wrDcacheId.contents ++ tids .store s.dcacheDataFifo.contents

/-- No atomic is on its way. -/
structure Ordinary (s : State cfg) (h : History cfg) : Prop where
  current : h.current = none
  queue : ∀ req ∈ s.dcacheDataFifo.contents, req.rtype = .load ∨ req.rtype = .store
  atomicReads : h.owedAtomicReads = []
  noSc : NoSc h
  noAck : acks s .atomicAck = false
  accounted : Accounted s h

section Step

variable {s : State cfg} {c : Cycle cfg} {h : History cfg}

/-! ## Responses -/

theorem mem_shown_ne_sc (noSc : NoSc h) (env : Environment (s, h) c) {entry : WriteKind × Bool}
    (shown : entry ∈ shownWrites s c h) : entry.1 ≠ .sc := by
  intro isSc
  rcases mem_shownWrites env shown with waits | owed
  · exact noSc.buffered entry waits isSc
  · rw [isSc, noSc.owed] at owed
    exact Nat.lt_irrefl 0 owed

theorem AmosDropped.of_shown (dropped : AmosDropped s h) (env : Environment (s, h) c)
    {entry : WriteKind × Bool} (shown : entry ∈ shownWrites s c h) (isAmo : entry.1 = .amo) :
    s.amoGenRQ = true := by
  apply dropped
  rcases mem_shownWrites env shown with waits | owed
  · exact Or.inr ⟨entry, waits, isAmo⟩
  · rw [isAmo] at owed
    exact Or.inl owed

/-- The answers that a cycle takes from the queues of identifiers. -/
structure Answers (s : State cfg) (c : Cycle cfg) (h : History cfg) : Prop where
  loads : inRegister (step s c.toInput) .loadAck ++
      (if (decode s c.toInput).rdPop then s.rdDcacheId.contents.tail
        else s.rdDcacheId.contents) = s.rdDcacheId.contents
  stores : inRegister (step s c.toInput) .storeAck ++
      (if (decode s c.toInput).wrPop then s.wrDcacheId.contents.tail
        else s.wrDcacheId.contents) = s.wrDcacheId.contents
  noAck : acks (step s c.toInput) .atomicAck = false
  reads : (if (decode s c.toInput).rdPop then s.rdDcacheId.contents.tail
      else s.rdDcacheId.contents).length =
    (if takesRead s c .load then served h.owedLoads else h.owedLoads).length
  writes : (if (decode s c.toInput).wrPop then s.wrDcacheId.contents.tail
      else s.wrDcacheId.contents).length =
    (h.owedWrites .store - if bPush s c.toInput ∧ c.bFor = .store then 1 else 0) +
      waitingStores (record s c h)

theorem inRegister_step (rtype : DcacheIn) :
    inRegister (step s c.toInput) rtype =
      if (decode s c.toInput).rtrnVld && (decode s c.toInput).rtype = rtype then
        [if (decode s c.toInput).wrPop then s.wrDcacheId.dataOut else s.rdDcacheId.dataOut]
      else [] :=
  rfl

theorem acks_step (rtype : DcacheIn) :
    acks (step s c.toInput) rtype =
      ((decode s c.toInput).rtrnVld && (decode s c.toInput).rtype = rtype) :=
  rfl

theorem waitingStores_record :
    waitingStores (record s c h) =
      (if (decode s c.toInput).bPop then (shownWrites s c h).tail
        else shownWrites s c h).countP fun entry => entry.1 = .store :=
  rfl

theorem length_served (bursts : List Nat) {left : Nat} {rest : List Nat}
    (first : bursts = left :: rest) :
    (served bursts).length = if left = 1 then rest.length else rest.length + 1 := by
  rw [first, served]
  split <;> simp

theorem Ordinary.answers (ordinary : Ordinary s h) (buffers : Buffers s h)
    (dropped : AmosDropped s h) (env : Environment (s, h) c) : Answers s c h := by
  have count := count_shownWrites env .store
  have writes := ordinary.accounted.writes
  rw [waitingStores] at writes
  cases decoded buffers env with
  | invalidates now noReads same =>
      constructor <;>
        simp only [inRegister_step, acks_step, waitingStores_record, same, Decode.idle,
          noReads.load] <;> simp [ordinary.accounted.reads, writes, count]
  | load takes other same =>
      have valid : c.rValid = true ∧ c.rFor = .load := by
        simp only [takesRead, Bool.and_eq_true, decide_eq_true_eq] at takes
        exact takes.1
      obtain ⟨left, bursts, owed, isLast⟩ := env.loads valid.1 valid.2
      have length := length_served h.owedLoads owed
      have reads := ordinary.accounted.reads
      rw [show h.owedLoads = left :: bursts from owed, List.length_cons] at reads
      cases last : c.r.last with
      | false =>
          have more : left ≠ 1 := fun one => by simp [isLast.mpr one] at last
          rw [if_neg more] at length
          constructor <;>
            simp only [inRegister_step, acks_step, waitingStores_record, same, Decode.idle, takes,
              last] <;> simp [reads, writes, count, length]
      | true =>
          rw [if_pos (isLast.mp last)] at length
          obtain ⟨tid, rest, stored⟩ := List.exists_cons_of_length_eq_add_one reads
          have out := FifoV3.dataOut_eq stored
          rw [stored, List.length_cons, Nat.add_right_cancel_iff] at reads
          constructor <;>
            simp only [inRegister_step, acks_step, waitingStores_record, same, Decode.idle, takes,
              last] <;> simp [stored, out, reads, writes, count, length]
  | atomic takes other same =>
      have valid : c.rValid = true ∧ c.rFor = .atomic := by
        simp only [takesRead, Bool.and_eq_true, decide_eq_true_eq] at takes
        exact takes.1
      obtain ⟨left, bursts, owed, _⟩ := env.atomics valid.1 valid.2
      rw [ordinary.atomicReads] at owed
      contradiction
  | silent noReads none same =>
      constructor <;>
        simp only [inRegister_step, acks_step, waitingStores_record, same, Decode.idle,
          noReads.load] <;> simp [ordinary.accounted.reads, writes, count]
  | write noReads entry rest shown same out =>
      have among : entry ∈ shownWrites s c h := by simp [shown]
      rw [shown, List.countP_cons] at count
      cases kind : entry.1 with
      | store =>
          rw [kind] at same
          simp only [kind, decide_true, if_true] at count
          rw [← writes, ← Nat.add_assoc] at count
          obtain ⟨tid, ids, stored⟩ := List.exists_cons_of_length_eq_add_one count.symm
          have first := FifoV3.dataOut_eq stored
          rw [stored, List.length_cons, Nat.add_right_cancel_iff] at count
          constructor <;>
            simp only [inRegister_step, acks_step, waitingStores_record, same, writeDecode,
              Decode.idle, noReads.load, shown] <;>
            simp [stored, first, ordinary.accounted.reads, count]
      | sc => exact absurd kind (mem_shown_ne_sc ordinary.noSc env among)
      | amo =>
          rw [kind] at same
          have drops := dropped.of_shown env among kind
          simp only [kind] at count
          constructor <;>
            simp only [inRegister_step, acks_step, waitingStores_record, same, writeDecode,
              Decode.idle, noReads.load, shown, drops] <;>
            simp [ordinary.accounted.reads, writes, ← count]

/-! ## Requests -/

theorem Ordinary.noAtomic (ordinary : Ordinary s h) (wired : Wired s) :
    decodes s .atomic = false := by
  rw [Bool.eq_false_iff]
  intro now
  obtain ⟨any, idx, isAtomic⟩ := (decodes_eq_true_iff _).mp now
  obtain ⟨req, rest, head⟩ := wired.head any idx
  rw [head.data] at isAtomic
  rcases ordinary.queue req (by simp [head.queue]) with isLoad | isStore
  · rw [isLoad] at isAtomic
    contradiction
  · rw [isStore] at isAtomic
    contradiction

theorem lock_of_noAtomic (noAtomic : decodes s .atomic = false) : (axiAr s).lock = false := by
  simp [axiAr, noAtomic]

theorem returnsRead_of_noAtomic (noAtomic : decodes s .atomic = false) :
    (axiAw s c.toInput).returnsRead = false := by
  simp [axiAw, Aw.returnsRead, noAtomic]

theorem kind_of_noAtomic (noAtomic : decodes s .atomic = false) :
    (axiAw s c.toInput).kind = .store := by
  simp [axiAw, Aw.kind, Aw.returnsRead, noAtomic]

/-- What is left of the request queue. -/
def unsent (s : State cfg) (c : Cycle cfg) : List (DcacheReq cfg) :=
  if grants s c then s.dcacheDataFifo.contents.tail else s.dcacheDataFifo.contents

/-- The requests that a cycle sends. -/
structure Sends (s : State cfg) (c : Cycle cfg) : Prop where
  loads : pushedReads s c ++ tids .load (unsent s c) = tids .load s.dcacheDataFifo.contents
  stores : pushedWrites s c ++ tids .store (unsent s c) = tids .store s.dcacheDataFifo.contents
  reads : (if axiRdGnt s c.toInput && decodes s .load then [(axiAr s).len + 1] else []).length =
    (pushedReads s c).length
  writes : (if axiWrGnt s c.toInput then 1 else 0) = (pushedWrites s c).length

theorem Wired.noWrite_of_noGrant (wired : Wired s) (waits : grants s c = false) :
    axiWrGnt s c.toInput = false := by
  rw [Bool.eq_false_iff]
  intro writes
  have idx := (any_of_axiWrReq (wired.any_of_axiWrGnt writes)).2
  rw [grants_eq, arbGnt, writes, Bool.or_true, idx] at waits
  contradiction

theorem noLoad_of_noGrant (waits : grants s c = false) (rtype : DcacheOut) :
    (axiRdGnt s c.toInput && decodes s rtype) = false := by
  rw [Bool.eq_false_iff]
  intro both
  rw [Bool.and_eq_true, decodes_eq_true_iff] at both
  rw [grants_eq, arbGnt, both.1, Bool.true_or, both.2.2.1] at waits
  contradiction

theorem Ordinary.sends (ordinary : Ordinary s h) (wired : Wired s) (c : Cycle cfg) :
    Sends s c := by
  rcases wired.grants_cases c with waits | ⟨granted, req, rest, head, access⟩
  · have noWrite := wired.noWrite_of_noGrant waits
    have noLoad := noLoad_of_noGrant waits .load
    constructor <;> simp [pushedReads, pushedWrites, unsent, waits, noWrite, noLoad]
  · have queue := head.queue
    have data := head.data
    have decodes := head.decodes_eq .load
    rcases access with ⟨isRead, reads, writes⟩ | ⟨_, isWrite, reads, writes⟩
    · have isLoad : req.rtype = .load := by
        rcases ordinary.queue req (by simp [queue]) with isLoad | isStore
        · exact isLoad
        · simp [DcacheReq.isRead, isStore] at isRead
      constructor <;>
        simp [pushedReads, pushedWrites, unsent, granted, reads, writes, queue, data, isLoad,
          decodes, tids_cons]
    · have isStore : req.rtype = .store := by
        rcases ordinary.queue req (by simp [queue]) with isLoad | isStore
        · simp [DcacheReq.isWrite, isLoad] at isWrite
        · exact isStore
      constructor <;>
        simp [pushedReads, pushedWrites, unsent, granted, reads, writes, queue, data, isStore,
          tids_cons]

/-! ## One cycle -/

theorem Ordinary.accounted_step (ordinary : Ordinary s h) (wired : Wired s)
    (buffers : Buffers s h) (dropped : AmosDropped s h) (env : Environment (s, h) c) :
    Accounted (step s c.toInput) (record s c h) := by
  have answers := ordinary.answers buffers dropped env
  have sends := ordinary.sends wired c
  have noAtomic := ordinary.noAtomic wired
  have queue := wired.queue_step c
  have reads := wired.reads_step c
  have writes := wired.writes_step c
  have accepted : (record s c h).accepted = h.accepted ++ entering s c := rfl
  constructor
  · have owed : (record s c h).owedLoads =
        (if takesRead s c .load then served h.owedLoads else h.owedLoads) ++
          if axiRdGnt s c.toInput && decodes s .load then [(axiAr s).len + 1] else [] := rfl
    rw [reads, owed, List.length_append, List.length_append, answers.reads, sends.reads]
  · have owed : (record s c h).owedWrites .store =
        (h.owedWrites .store - if bPush s c.toInput ∧ c.bFor = .store then 1 else 0) +
          if axiWrGnt s c.toInput ∧ (axiAw s c.toInput).kind = .store then 1 else 0 := rfl
    rw [kind_of_noAtomic noAtomic] at owed
    simp only [and_true] at owed
    rw [writes, List.length_append, answers.writes, owed, sends.writes]
    omega
  · have acks : (record s c h).loadAcks = h.loadAcks ++ inRegister s .loadAck := rfl
    rw [accepted, tids_append, ordinary.accounted.loads, acks, reads, queue, ← unsent,
      tids_append, ← sends.loads]
    nth_rewrite 1 [← answers.loads]
    simp only [List.append_assoc]
  · have acks : (record s c h).storeAcks = h.storeAcks ++ inRegister s .storeAck := rfl
    rw [accepted, tids_append, ordinary.accounted.stores, acks, writes, queue, ← unsent,
      tids_append, ← sends.stores]
    nth_rewrite 1 [← answers.stores]
    simp only [List.append_assoc]

theorem mem_buffered_record {entry : WriteKind × Bool}
    (among : entry ∈ (record s c h).buffered) : entry ∈ shownWrites s c h := by
  have same : (record s c h).buffered =
      if (decode s c.toInput).bPop then (shownWrites s c h).tail else shownWrites s c h := rfl
  rw [same] at among
  split at among
  · exact List.mem_of_mem_tail among
  · exact among

theorem owedWrites_record (kind : WriteKind) :
    (record s c h).owedWrites kind =
      (h.owedWrites kind - if bPush s c.toInput ∧ c.bFor = kind then 1 else 0) +
        if axiWrGnt s c.toInput ∧ (axiAw s c.toInput).kind = kind then 1 else 0 :=
  rfl

/-- The flag is set while a write response has to be dropped. -/
theorem AmosDropped.step (dropped : AmosDropped s h) (env : Environment (s, h) c)
    (clear : Clear (s, h) c) : AmosDropped (step s c.toInput) (record s c h) := by
  intro pending
  have flag : (WtAxiAdapter.step s c.toInput).amoGenRQ = amoGenRD s := rfl
  rw [flag, amoGenRD]
  cases now : decodes s .atomic with
  | true =>
      rw [if_pos rfl, decide_eq_true_eq]
      intro isSc
      obtain ⟨none, other⟩ := clear.presents now isSc
      rcases pending with owed | ⟨entry, waits, isAmo⟩
      · exact absurd none owed.ne'
      · exact other entry waits isAmo
  | false =>
      rw [if_neg Bool.false_ne_true]
      rcases pending with owed | ⟨entry, waits, isAmo⟩
      · rw [owedWrites_record, kind_of_noAtomic now] at owed
        simp only [reduceCtorEq, and_false, if_false, Nat.add_zero] at owed
        exact dropped (Or.inl (Nat.lt_of_lt_of_le owed (Nat.sub_le _ _)))
      · exact dropped.of_shown env (mem_buffered_record waits) isAmo

theorem NoSc.step (noSc : NoSc h) (env : Environment (s, h) c)
    (notSent : axiWrGnt s c.toInput = true → (axiAw s c.toInput).kind ≠ .sc) :
    NoSc (record s c h) := by
  constructor
  · have none : ¬(axiWrGnt s c.toInput = true ∧ (axiAw s c.toInput).kind = .sc) :=
      fun both => notSent both.1 both.2
    rw [owedWrites_record, noSc.owed, Nat.zero_sub, if_neg none]
  · intro entry waits
    exact mem_shown_ne_sc noSc env (mem_buffered_record waits)

/-- Without a request for an atomic, loads and stores go on. -/
theorem Ordinary.step (ordinary : Ordinary s h) (wired : Wired s) (buffers : Buffers s h)
    (dropped : AmosDropped s h) (env : Environment (s, h) c)
    (noneAccepted : acceptsAtomic s c = false) :
    Ordinary (step s c.toInput) (record s c h) := by
  have noAtomic := ordinary.noAtomic wired
  constructor
  · simp [record, noneAccepted, ordinary.noAck, ordinary.current]
  · intro req among
    rw [wired.queue_step, ← unsent] at among
    rcases List.mem_append.mp among with before | enters
    · refine ordinary.queue req ?_
      rw [unsent] at before
      split at before
      · exact List.mem_of_mem_tail before
      · exact before
    · cases accepts : dcacheDataAck s c.toInput with
      | false => simp [entering, accepts] at enters
      | true =>
          have same : req = c.dcacheData := by simpa [entering, accepts] using enters
          rw [same]
          rcases env.rtype accepts with isLoad | isStore | isAtomic
          · exact Or.inl isLoad
          · exact Or.inr isStore
          · simp [acceptsAtomic, accepts, isAtomic.1] at noneAccepted
  · simp [record, ordinary.atomicReads, lock_of_noAtomic noAtomic, served,
      returnsRead_of_noAtomic noAtomic]
  · exact ordinary.noSc.step env fun _ => by simp [kind_of_noAtomic noAtomic]
  · exact (ordinary.answers buffers dropped env).noAck
  · exact ordinary.accounted_step wired buffers dropped env

end Step

end Cva6Hpd.CacheSubsystem.WtAxiAdapter
