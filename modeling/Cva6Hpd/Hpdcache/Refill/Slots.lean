import Cva6Hpd.Hpdcache.Refill.Data

/-!
# The misses behind the responses

Each read that is sent, answered or waiting for its refill owns the MSHR slot
its identifier names, and each valid slot holds the miss it was allocated for,
its coalesced bytes in a buffer of its own.
-/

namespace Cva6Hpd.Hpdcache.Refill

open Cva6Hpd.Hw
open Cva6Hpd.Common

variable {cfg : Cfg} {widths : Widths cfg}

/-! ## Identifiers and slots -/

theorem memId_injective {w w' : cfg.MshrWay} {s s' : cfg.MshrSet}
    (same : MissHandler.memId w s = MissHandler.memId w' s') : w = w' ∧ s = s' := by
  have positive := cfg.mshrSets_pos
  have quotient (w : cfg.MshrWay) (s : cfg.MshrSet) :
      MissHandler.memId w s / cfg.mshrSets = w.val := by
    rw [MissHandler.memId, Nat.mul_comm, Nat.mul_add_div positive,
      Nat.div_eq_of_lt s.isLt, Nat.add_zero]
  have remainder (w : cfg.MshrWay) (s : cfg.MshrSet) :
      MissHandler.memId w s % cfg.mshrSets = s.val := by
    rw [MissHandler.memId, Nat.mul_add_mod_self_right, Nat.mod_eq_of_lt s.isLt]
  constructor
  · apply Fin.ext
    rw [← quotient w s, same, quotient]
  · apply Fin.ext
    rw [← remainder w s, same, remainder]

theorem ackSlot_of_memId {miss : MissHandler.State cfg} {w : cfg.MshrWay} {s : cfg.MshrSet}
    (id : (MissHandler.respMeta miss).rId = MissHandler.memId w s) :
    MissHandler.mshrAckWay miss = w ∧ MissHandler.mshrAckSet miss = s := by
  have positive := cfg.mshrSets_pos
  constructor
  · apply Fin.ext
    rw [MissHandler.mshrAckWay, id, Fin.val_ofNat, MissHandler.memId, Nat.mul_comm,
      Nat.mul_add_div positive, Nat.div_eq_of_lt s.isLt, Nat.add_zero,
      Nat.mod_eq_of_lt w.isLt]
  · apply Fin.ext
    rw [MissHandler.mshrAckSet, id, Fin.val_ofNat, MissHandler.memId,
      Nat.mul_add_mod_self_right, Nat.mod_eq_of_lt s.isLt]

/-! ## The log -/

/-- A read miss, as it is allocated. -/
structure Miss (cfg : Cfg) where
  nline : Nat
  tid : Nat
  sid : Nat
  word : Nat
  way : cfg.Way
  needRsp : Bool
  isPrefetch : Bool
  wback : Bool
  dirty : Bool
  data : MissHandler.CbufEntry cfg

def Miss.none : Miss cfg where
  nline := 0
  tid := 0
  sid := 0
  word := 0
  way := 0
  needRsp := false
  isPrefetch := false
  wback := false
  dirty := false
  data := MissHandler.CbufEntry.zero

/-- The miss on the allocation port. -/
def offeredMiss (ports : MissHandler.Input cfg) : Miss cfg where
  nline := ports.mshrAllocNline
  tid := ports.mshrAllocTid
  sid := ports.mshrAllocSid
  word := ports.mshrAllocWord
  way := ports.mshrAllocVictimWay.lastIndex
  needRsp := ports.mshrAllocNeedRsp
  isPrefetch := ports.mshrAllocIsPrefetch
  wback := ports.mshrAllocWback
  dirty := ports.mshrAllocDirty
  data := ports.mshrAllocData

/-- The fields of the slot of a miss. -/
def Miss.entry (miss : Miss cfg) (cbufId : cfg.CbufId) : Mshr.Entry cfg where
  tag := cfg.tagOf miss.nline
  reqId := miss.tid
  srcId := miss.sid
  wordIdx := miss.word
  victimWayIdx := miss.way
  wback := miss.wback
  dirty := miss.dirty
  needRsp := miss.needRsp
  isPrefetch := miss.isPrefetch
  cbufId := cbufId

/-- The bursts in flight, the identifiers of the reads that the memory has not
answered, and the last miss allocated under each identifier. -/
structure Log (widths : Widths cfg) where
  ledger : Ledger widths
  requested : List Nat
  missOf : Nat → Miss cfg

section Record

variable (state : State widths) (input : Input widths)

/-- A miss is allocated in this cycle. -/
def allocates : Bool := MissHandler.mshrAlloc state.miss input.ports

/-- The slot of the miss allocated in this cycle. -/
def allocSlot : cfg.MshrWay × cfg.MshrSet :=
  (Mshr.allocWay state.miss.mshr input.ports.mshrAllocNline,
    cfg.mshrSetOf input.ports.mshrAllocNline)

def allocId : Nat := MissHandler.memId (allocSlot state input).1 (allocSlot state input).2

/-- The memory takes the read request in this cycle. -/
def sendsRead : Bool := MissHandler.memReqValid state.miss && input.ports.memReqReady

/-- A burst is completed in this cycle. -/
def takesLast : Bool := takesBeat state input && input.ports.memRespLast

def Log.record (log : Log widths) : Log widths where
  ledger := log.ledger.record state input
  requested :=
    (if takesLast state input then log.requested.erase input.ports.memRespId
      else log.requested) ++
      (if sendsRead state input then [MissHandler.memReqId state.miss] else [])
  missOf :=
    if allocates state input then
      Function.update log.missOf (allocId state input) (offeredMiss input.ports)
    else log.missOf

end Record

/-- The refill path with its log. -/
def logged (widths : Widths cfg)
    (powerUp : Sram cfg.mshrSets cfg.mshrWays (Mshr.Entry cfg)) :
    Machine (State widths × Log widths) (Input widths) :=
  (machine widths powerUp).withHistory
    { ledger := { arriving := [], pending := [] }, requested := [], missOf := fun _ => Miss.none }
    fun state input log => log.record state input

/-- What the memory and the controller promise in a cycle: the memory answers
each read once, with the beats of one line and without interleaving; the
controller allocates a miss only to a free slot, with a free buffer for its
bytes, and not while a refill is granted. -/
structure Promised (state : State widths × Log widths) (input : Input widths) : Prop where
  whole : WholeLines (state.1, state.2.ledger) input
  answers : offersBeat input = true →
    input.ports.memRespId ∈ state.2.requested ∧
      ∀ beat ∈ state.2.ledger.arriving, beat.id = input.ports.memRespId
  alone : input.ports.mshrAlloc = true → input.ports.refillReqReady = false
  selects : input.ports.mshrAlloc = true → input.ports.mshrAllocCs = true
  free : allocates state.1 input = true →
    ∃ w, state.1.miss.mshr.mshrValidQ w (cfg.mshrSetOf input.ports.mshrAllocNline) = false
  coalesces : allocates state.1 input = true → input.ports.mshrAllocDirty = true →
    cfg.wbEn = true ∧ MissHandler.cbufFull state.1.miss = false
  inLine : input.ports.mshrAlloc = true → input.ports.mshrAllocWord < cfg.clWords

instance decidableWholeLines (state : State widths × Ledger widths) (input : Input widths) :
    Decidable (WholeLines state input) :=
  inferInstanceAs (Decidable (_ → _))

instance decidablePromised (state : State widths × Log widths) (input : Input widths) :
    Decidable (Promised state input) :=
  decidable_of_iff
    (WholeLines (state.1, state.2.ledger) input ∧
      (offersBeat input = true → input.ports.memRespId ∈ state.2.requested ∧
        ∀ beat ∈ state.2.ledger.arriving, beat.id = input.ports.memRespId) ∧
      (input.ports.mshrAlloc = true → input.ports.refillReqReady = false) ∧
      (input.ports.mshrAlloc = true → input.ports.mshrAllocCs = true) ∧
      (allocates state.1 input = true →
        ∃ w, state.1.miss.mshr.mshrValidQ w (cfg.mshrSetOf input.ports.mshrAllocNline) =
          false) ∧
      (allocates state.1 input = true → input.ports.mshrAllocDirty = true →
        cfg.wbEn = true ∧ MissHandler.cbufFull state.1.miss = false) ∧
      (input.ports.mshrAlloc = true → input.ports.mshrAllocWord < cfg.clWords))
    ⟨fun ⟨whole, answers, alone, selects, free, coalesces, inLine⟩ =>
        ⟨whole, answers, alone, selects, free, coalesces, inLine⟩,
      fun ⟨whole, answers, alone, selects, free, coalesces, inLine⟩ =>
        ⟨whole, answers, alone, selects, free, coalesces, inLine⟩⟩

/-! ## Slots in a cycle -/

/-- What a cycle does to the slots. -/
inductive SlotMove (state : State widths) (input : Input widths) : Prop where
  | keep (alloc : allocates state input = false) (ack : (out state input).mshrAck = false)
      (valid : (step state input).miss.mshr.mshrValidQ = state.miss.mshr.mshrValidQ)
      (sets : (step state input).miss.mshr.mshrCacheSetQ = state.miss.mshr.mshrCacheSetQ)
      (mem : (step state input).miss.mshr.mshrMem.mem = state.miss.mshr.mshrMem.mem)
  | alloc (alloc : allocates state input = true) (ack : (out state input).mshrAck = false)
      (free : state.miss.mshr.mshrValidQ (allocSlot state input).1 (allocSlot state input).2 =
        false)
      (valid : ∀ w s, (step state input).miss.mshr.mshrValidQ w s = true ↔
        (w, s) = allocSlot state input ∨ state.miss.mshr.mshrValidQ w s = true)
      (sets : ∀ w s, (step state input).miss.mshr.mshrCacheSetQ w s =
        if (w, s) = allocSlot state input then cfg.setOf input.ports.mshrAllocNline
        else state.miss.mshr.mshrCacheSetQ w s)
      (mem : ∀ w s, (step state input).miss.mshr.mshrMem.mem s w =
        if (w, s) = allocSlot state input then
          (offeredMiss input.ports).entry (MissHandler.cbufAllocId state.miss)
        else state.miss.mshr.mshrMem.mem s w)
  | ack (alloc : allocates state input = false) (ack : (out state input).mshrAck = true)
      (valid : ∀ w s, (step state input).miss.mshr.mshrValidQ w s = true ↔
        state.miss.mshr.mshrValidQ w s = true ∧
          ¬(w = MissHandler.mshrAckWay state.miss ∧ s = MissHandler.mshrAckSet state.miss))
      (sets : (step state input).miss.mshr.mshrCacheSetQ = state.miss.mshr.mshrCacheSetQ)
      (mem : (step state input).miss.mshr.mshrMem.mem = state.miss.mshr.mshrMem.mem)
      (entry : MissHandler.mshrAckEntry (step state input).miss =
        state.miss.mshr.mshrMem.mem (MissHandler.mshrAckSet state.miss)
          (MissHandler.mshrAckWay state.miss))

theorem alone_of_ack {state : State widths} {log : Log widths} {input : Input widths}
    (promised : Promised (state, log) input) (ack : (out state input).mshrAck = true) :
    allocates state input = false ∧ (out state input).mshrAckCs = true := by
  have turn := MissHandler.turn state.miss (missInput state input)
  change MissHandler.Turn _ _ (out state input) at turn
  cases turn with
  | startRefill fsm filled granted refill next cnt pops reads acks selects =>
      refine ⟨?_, selects⟩
      rw [Bool.eq_false_iff]
      intro alloc
      simp only [allocates, MissHandler.mshrAlloc, Bool.and_eq_true] at alloc
      have refused := promised.alone alloc.2
      rw [missInput, refused] at granted
      exact Bool.noConfusion granted
  | _ => simp_all

theorem slotMove {state : State widths} {log : Log widths} {input : Input widths}
    (promised : Promised (state, log) input) : SlotMove state input := by
  have allocIn : (MissHandler.mshrInput state.miss (missInput state input)).alloc =
      allocates state input := rfl
  have ackIn : (MissHandler.mshrInput state.miss (missInput state input)).ack =
      (out state input).mshrAck := rfl
  cases ack : (out state input).mshrAck with
  | true =>
      rcases alone_of_ack promised ack with ⟨alloc, selects⟩
      have ackCsIn : (MissHandler.mshrInput state.miss (missInput state input)).ackCs = true :=
        selects
      have reads (w : cfg.MshrWay) : (Mshr.mshrAccess state.miss.mshr
          (MissHandler.mshrInput state.miss (missInput state input))).we w = false := by
        simp only [Mshr.mshrAccess, allocIn, alloc]
      rw [alloc] at allocIn
      rw [ack] at ackIn
      refine SlotMove.ack alloc ack ?_ ?_ ?_ ?_
      · intro w s
        simp only [step, MissHandler.step, Mshr.step, Mshr.allocAt, Mshr.ackAt, allocIn, ackIn,
          Bool.false_and, Bool.and_false, Bool.false_or, Bool.true_and, Bool.and_eq_true,
          Bool.not_eq_true', Bool.and_eq_false_iff, decide_eq_false_iff_not]
        rw [← not_and_or]
        rfl
      · funext w s
        simp only [step, MissHandler.step, Mshr.step, Mshr.allocAt, allocIn, Bool.false_and,
          Bool.false_eq_true, if_false]
      · exact Sram.mem_step_of_read _ _ reads
      · have selected : (Mshr.mshrAccess state.miss.mshr (MissHandler.mshrInput state.miss
            (missInput state input))).cs (MissHandler.mshrAckWay state.miss) = true := by
          simp only [Mshr.mshrAccess, ackCsIn, Bool.or_true]
        have port := Sram.rdata_step_of_read cfg.mshrUseRegbank state.miss.mshr.mshrMem
          selected (reads _)
        have addr : (Mshr.mshrAccess state.miss.mshr (MissHandler.mshrInput state.miss
            (missInput state input))).addr = MissHandler.mshrAckSet state.miss := by
          simp only [Mshr.mshrAccess, ackIn, if_true]
          rfl
        have way : (step state input).miss.mshr.ackWayQ = MissHandler.mshrAckWay state.miss := by
          simp only [step, MissHandler.step, Mshr.step, ackIn, if_true]
          rfl
        rw [addr] at port
        rw [MissHandler.mshrAckEntry, Mshr.ackEntry, way]
        exact port
  | false =>
      rw [ack] at ackIn
      cases alloc : allocates state input with
      | true =>
          rw [alloc] at allocIn
          have asked : input.ports.mshrAlloc = true := by
            simp only [allocates, MissHandler.mshrAlloc, Bool.and_eq_true] at alloc
            exact alloc.2
          have free : state.miss.mshr.mshrValidQ (allocSlot state input).1
              (allocSlot state input).2 = false := by
            rcases promised.free alloc with ⟨w, free⟩
            change state.miss.mshr.mshrValidQ w _ = false at free
            have hit := @Bits.firstIndex_hit _ _ (fun w => !state.miss.mshr.mshrValidQ w
              (cfg.mshrSetOf input.ports.mshrAllocNline)) w (by simp [free])
            simpa [allocSlot, Mshr.allocWay] using hit
          have here (w : cfg.MshrWay) (s : cfg.MshrSet) : Mshr.allocAt state.miss.mshr
              (MissHandler.mshrInput state.miss (missInput state input)) w s =
              decide ((w, s) = allocSlot state input) := by
            simp only [Mshr.allocAt, allocIn, Bool.true_and, allocSlot, Prod.mk.injEq,
              Bool.decide_and]
            rfl
          have selected (w : cfg.MshrWay) : (Mshr.mshrAccess state.miss.mshr
              (MissHandler.mshrInput state.miss (missInput state input))).cs w = true := by
            have ready : MissHandler.mshrAllocReady state.miss = true := by
              simp only [allocates, MissHandler.mshrAlloc, Bool.and_eq_true] at alloc
              exact alloc.1
            have cs : (MissHandler.mshrInput state.miss (missInput state input)).allocCs =
                true := by
              simp only [MissHandler.mshrInput, missInput, ready, promised.selects asked,
                Bool.and_self]
            simp only [Mshr.mshrAccess, cs, Bool.or_true, Bool.true_or]
          refine SlotMove.alloc alloc ack free ?_ ?_ ?_
          · intro w s
            simp only [step, MissHandler.step, Mshr.step, here, Mshr.ackAt, ackIn,
              Bool.false_and, Bool.not_false, Bool.and_true, Bool.or_eq_true, Bool.and_eq_true,
              Bool.not_eq_true', decide_eq_true_eq]
            by_cases slot : (w, s) = allocSlot state input
            · have unused : state.miss.mshr.mshrValidQ w s = false := by
                rw [← free, ← slot]
              simp [slot, unused]
            · simp [slot]
          · intro w s
            simp only [step, MissHandler.step, Mshr.step, here, decide_eq_true_eq]
            rfl
          · intro w s
            simp only [step, MissHandler.step, Mshr.step, Sram.step, SramAccess.Writes, selected,
              true_and]
            simp only [Mshr.mshrAccess, allocIn, ackIn, true_and, decide_eq_true_eq,
              Bool.false_eq_true, if_false, if_true, allocSlot, Prod.mk.injEq, and_comm]
            rfl
      | false =>
          rw [alloc] at allocIn
          refine SlotMove.keep alloc ack ?_ ?_ ?_
          · funext w s
            simp [step, MissHandler.step, Mshr.step, Mshr.allocAt, Mshr.ackAt, allocIn, ackIn]
          · funext w s
            simp [step, MissHandler.step, Mshr.step, Mshr.allocAt, allocIn]
          · refine Sram.mem_step_of_read _ _ fun w => ?_
            simp only [Mshr.mshrAccess, allocIn]

/-! ## Identifiers in a cycle -/

/-- The bursts whose refill is not granted yet. -/
def waiting (state : State widths) (ledger : Ledger widths) : List (Burst widths) :=
  match state.miss.refillFsmQ with
  | .refillIdle => ledger.pending
  | .refillWrite => ledger.pending.tail
  | .refillWriteDir => ledger.pending.tail
  | .refillInval => ledger.pending

/-- The identifier of the read request being sent. -/
def sending (state : State widths) : List Nat :=
  if MissHandler.memReqValid state.miss then [MissHandler.memReqId state.miss] else []

/-- The identifiers in use: those of the waiting bursts, of the reads without
answer and of the read being sent. -/
def openIds (state : State widths) (log : Log widths) : List Nat :=
  (waiting state log.ledger).map (fun burst => burst.last.id) ++
    (log.requested ++ sending state)

section Identifiers

variable {state : State widths} {log : Log widths} {input : Input widths}

theorem waiting_step (input : Input widths) {ledger : Ledger widths}
    (tracked : Tracked state ledger) :
    waiting (step state input) (ledger.record state input) =
      (if (out state input).mshrAck then (waiting state ledger).tail
        else waiting state ledger) ++
        (if takesLast state input then [⟨ledger.arriving, beat input⟩] else []) := by
  have fsmD : (step state input).miss.refillFsmQ = (out state input).refillFsmD := rfl
  have turn := MissHandler.turn state.miss (missInput state input)
  change MissHandler.Turn _ _ (out state input) at turn
  have refilling (busy : state.miss.refillFsmQ = .refillWrite ∨
      state.miss.refillFsmQ = .refillWriteDir) :
      ∃ burst rest, ledger.pending = burst :: rest := by
    rcases tracked.oldest_of_busy busy with ⟨burst, rest, oldest, _⟩
    exact ⟨burst, rest, oldest⟩
  cases turn with
  | wait fsm held next pops reads acks =>
      simp [waiting, fsmD, next, fsm, acks, Ledger.record, endsRefill, pops, takesLast]
  | startInval fsm filled inval next pops reads acks =>
      simp [waiting, fsmD, next, fsm, acks, Ledger.record, endsRefill, pops, takesLast]
  | startRefill fsm filled granted refill next cnt pops reads acks =>
      rcases tracked.oldest ((respMetaRok_iff _).mp filled) refill with
        ⟨burst, rest, oldest, _⟩
      simp [waiting, fsmD, next, fsm, acks, Ledger.record, endsRefill, pops, takesLast, oldest]
  | chunk fsm more next cnt pops reads acks =>
      rcases refilling (Or.inl fsm) with ⟨burst, rest, oldest⟩
      simp [waiting, fsmD, next, fsm, acks, Ledger.record, endsRefill, pops, takesLast, oldest]
  | onlyChunk fsm last only next pops reads acks =>
      rcases refilling (Or.inl fsm) with ⟨burst, rest, oldest⟩
      simp [waiting, fsmD, next, fsm, acks, Ledger.record, endsRefill, pops, takesLast, oldest]
  | lastChunk fsm last several next pops reads acks =>
      have refill := tracked.refill (Or.inl fsm)
      simp [waiting, fsmD, next, fsm, acks, Ledger.record, endsRefill, pops, takesLast, refill]
  | writeDir fsm next pops reads acks =>
      have refill := tracked.refill (Or.inr fsm)
      simp [waiting, fsmD, next, fsm, acks, Ledger.record, endsRefill, pops, takesLast, refill]
  | inval fsm next pops reads acks =>
      have inval := tracked.inval fsm
      simp [waiting, fsmD, next, fsm, acks, Ledger.record, endsRefill, pops, takesLast, inval]

theorem sending_step :
    (if sendsRead state input then [MissHandler.memReqId state.miss] else []) ++
        sending (step state input) =
      sending state ++ (if allocates state input then [allocId state input] else []) := by
  cases fsm : state.miss.missReqFsmQ with
  | missReqIdle =>
      cases asks : input.ports.mshrAlloc with
      | false =>
          simp [sending, sendsRead, allocates, MissHandler.memReqValid, MissHandler.mshrAlloc,
            MissHandler.mshrAllocReady, step, MissHandler.step, MissHandler.missReqFsmD,
            missInput, fsm, asks]
      | true =>
          simp [sending, sendsRead, allocates, MissHandler.memReqValid, MissHandler.mshrAlloc,
            MissHandler.mshrAllocReady, step, MissHandler.step, MissHandler.missReqFsmD,
            MissHandler.memReqId, missInput, fsm, asks, allocId, allocSlot]
  | missReqSend =>
      cases taken : input.ports.memReqReady <;>
        simp [sending, sendsRead, allocates, MissHandler.memReqValid, MissHandler.mshrAlloc,
          MissHandler.mshrAllocReady, step, MissHandler.step, MissHandler.missReqFsmD,
          MissHandler.memReqId, missInput, fsm, taken]

/-- A cycle moves identifiers along, gives up that of a granted burst and adds
that of an allocated miss. -/
theorem openIds_step (tracked : Tracked state log.ledger)
    (promised : Promised (state, log) input) :
    (openIds (step state input) (log.record state input)).Perm
      ((if (out state input).mshrAck then (waiting state log.ledger).tail
          else waiting state log.ledger).map (fun burst => burst.last.id) ++
        (log.requested ++
          (sending state ++ if allocates state input then [allocId state input] else []))) := by
  have moved : (openIds (step state input) (log.record state input)) =
      ((if (out state input).mshrAck then (waiting state log.ledger).tail
          else waiting state log.ledger).map (fun burst => burst.last.id) ++
        (if takesLast state input then [input.ports.memRespId] else [])) ++
        ((if takesLast state input then log.requested.erase input.ports.memRespId
            else log.requested) ++
          (sending state ++ if allocates state input then [allocId state input] else [])) := by
    rw [openIds, ← sending_step]
    simp only [Log.record]
    rw [waiting_step input tracked, List.map_append]
    congr 1
    · congr 1
      split_ifs <;> rfl
    · exact List.append_assoc _ _ _
  rw [moved, List.append_assoc]
  refine List.Perm.append_left _ ?_
  rw [← List.append_assoc]
  refine List.Perm.append_right _ ?_
  cases last : takesLast state input with
  | false => exact List.Perm.refl _
  | true =>
      have offers : offersBeat input = true := by
        simp only [takesLast, takesBeat, Bool.and_eq_true] at last
        exact last.1.1
      exact (List.perm_cons_erase (promised.answers offers).1).symm

/-- Every identifier in use is used once, and names a valid slot. -/
structure Owned (state : State widths) (log : Log widths) : Prop where
  distinct : (openIds state log).Nodup
  live : ∀ id ∈ openIds state log,
    ∃ w s, id = MissHandler.memId w s ∧ state.miss.mshr.mshrValidQ w s = true

theorem Owned.acked (tracked : Tracked state log.ledger) (owned : Owned state log)
    (ack : (out state input).mshrAck = true) :
    ∃ burst rest, waiting state log.ledger = burst :: rest ∧
      log.ledger.pending = burst :: rest ∧
      (MissHandler.respMeta state.miss).rError = burst.last.error ∧
      burst.last.id = MissHandler.memId (MissHandler.mshrAckWay state.miss)
        (MissHandler.mshrAckSet state.miss) ∧
      state.miss.mshr.mshrValidQ (MissHandler.mshrAckWay state.miss)
        (MissHandler.mshrAckSet state.miss) = true := by
  have turn := MissHandler.turn state.miss (missInput state input)
  change MissHandler.Turn _ _ (out state input) at turn
  cases turn with
  | startRefill fsm filled granted refill =>
      rcases tracked.oldest ((respMetaRok_iff _).mp filled) refill with
        ⟨burst, rest, oldest, error, id⟩
      have first : waiting state log.ledger = burst :: rest := by
        rw [waiting, fsm, oldest]
      have open' : burst.last.id ∈ openIds state log := by
        rw [openIds, first]
        simp
      rcases owned.live _ open' with ⟨w, s, named, valid⟩
      rcases ackSlot_of_memId (id.trans named) with ⟨rfl, rfl⟩
      exact ⟨burst, rest, first, oldest, error, named, valid⟩
  | _ => simp_all

theorem Owned.step (tracked : Tracked state log.ledger) (owned : Owned state log)
    (promised : Promised (state, log) input) :
    Owned (Refill.step state input) (log.record state input) := by
  have moved := openIds_step tracked promised
  have before : openIds state log = (waiting state log.ledger).map (fun b => b.last.id) ++
      (log.requested ++ sending state) := rfl
  have distinct := owned.distinct
  have live := owned.live
  cases slotMove promised with
  | keep alloc ack valid =>
      simp only [ack, alloc, Bool.false_eq_true, if_false, List.append_nil] at moved
      rw [← before] at moved
      constructor
      · exact moved.nodup_iff.mpr distinct
      · intro id member
        rw [valid]
        exact live id (moved.mem_iff.mp member)
  | alloc alloc ack free valid =>
      simp only [ack, alloc, Bool.false_eq_true, if_false, if_true] at moved
      rw [← List.append_assoc (log.requested), ← List.append_assoc, ← before] at moved
      have fresh : allocId state input ∉ openIds state log := by
        intro member
        rcases live _ member with ⟨w, s, named, used⟩
        rcases memId_injective named with ⟨way, set⟩
        rw [← way, ← set, free] at used
        exact Bool.noConfusion used
      constructor
      · refine moved.nodup_iff.mpr (List.nodup_append.mpr ⟨distinct, List.nodup_singleton _, ?_⟩)
        intro id member other new same
        rw [List.mem_singleton] at new
        rw [same, new] at member
        exact fresh member
      · intro id member
        rcases List.mem_append.mp (moved.mem_iff.mp member) with old | new
        · rcases live id old with ⟨w, s, named, used⟩
          exact ⟨w, s, named, (valid w s).mpr (Or.inr used)⟩
        · rw [List.mem_singleton] at new
          exact ⟨_, _, new, (valid _ _).mpr (Or.inl rfl)⟩
  | ack alloc ack valid =>
      simp only [ack, alloc, if_true, Bool.false_eq_true, if_false, List.append_nil] at moved
      rcases owned.acked tracked ack with ⟨burst, rest, first, _, _, named, _⟩
      rw [first, List.tail_cons] at moved
      have cons : openIds state log = burst.last.id ::
          (rest.map (fun b => b.last.id) ++ (log.requested ++ sending state)) := by
        rw [before, first]
        rfl
      rw [cons, List.nodup_cons] at distinct
      constructor
      · exact moved.nodup_iff.mpr distinct.2
      · intro id member
        have kept := moved.mem_iff.mp member
        rcases live id (by rw [cons]; exact List.mem_cons_of_mem _ kept) with ⟨w, s, slot, used⟩
        refine ⟨w, s, slot, (valid w s).mpr ⟨used, ?_⟩⟩
        rintro ⟨rfl, rfl⟩
        rw [slot, ← named] at kept
        exact distinct.1 kept

end Identifiers

/-! ## The contents of the slots -/

/-- The slot holds the miss it was allocated for. -/
structure Holds (state : State widths) (miss : Miss cfg) (w : cfg.MshrWay) (s : cfg.MshrSet) :
    Prop where
  entry : state.miss.mshr.mshrMem.mem s w =
    miss.entry (state.miss.mshr.mshrMem.mem s w).cbufId
  set : state.miss.mshr.mshrCacheSetQ w s = cfg.setOf miss.nline
  inLine : miss.word < cfg.clWords
  coalesced : miss.dirty = true → cfg.wbEn = true ∧
    state.miss.cbuf.validQ (state.miss.mshr.mshrMem.mem s w).cbufId = true ∧
    state.miss.cbuf.entriesQ (state.miss.mshr.mshrMem.mem s w).cbufId = miss.data

/-- Every valid slot holds its miss, and the coalesced bytes of two misses are in
two buffers. -/
structure Kept (state : State widths) (log : Log widths) : Prop where
  slots : ∀ w s, state.miss.mshr.mshrValidQ w s = true →
    Holds state (log.missOf (MissHandler.memId w s)) w s
  buffers : ∀ w s w' s', state.miss.mshr.mshrValidQ w s = true →
    state.miss.mshr.mshrValidQ w' s' = true →
    (state.miss.mshr.mshrMem.mem s w).dirty = true →
    (state.miss.mshr.mshrMem.mem s' w').dirty = true →
    (state.miss.mshr.mshrMem.mem s w).cbufId = (state.miss.mshr.mshrMem.mem s' w').cbufId →
    w = w' ∧ s = s'
  first : MissHandler.firstChunk state.miss = true →
    (MissHandler.mshrAckEntry state.miss).dirty = true →
    ∀ w s, state.miss.mshr.mshrValidQ w s = true →
      (state.miss.mshr.mshrMem.mem s w).dirty = true →
      (state.miss.mshr.mshrMem.mem s w).cbufId ≠ (MissHandler.mshrAckEntry state.miss).cbufId

section Contents

variable {state : State widths} {log : Log widths} {input : Input widths}

theorem Holds.dirty_eq {miss : Miss cfg} {w : cfg.MshrWay} {s : cfg.MshrSet}
    (holds : Holds state miss w s) :
    (state.miss.mshr.mshrMem.mem s w).dirty = miss.dirty := by
  rw [holds.entry]
  rfl

/-- A buffer is given back with the first access of a refill with coalesced
bytes. -/
theorem cbufAck_iff :
    MissHandler.cbufAck state.miss (missInput state input) = true ↔
      cfg.wbEn = true ∧ MissHandler.firstChunk state.miss = true ∧
        (MissHandler.mshrAckEntry state.miss).dirty = true := by
  have dirty (first : MissHandler.firstChunk state.miss = true) :
      (MissHandler.missRespFsmComb state.miss (missInput state input)).refillDirty =
        (MissHandler.mshrAckEntry state.miss).dirty := by
    simp only [MissHandler.firstChunk, Bool.and_eq_true, decide_eq_true_eq] at first
    simp only [MissHandler.missRespFsmComb, first.1, MissHandler.refillWrite, first.2, if_true]
    split_ifs <;> rfl
  simp only [MissHandler.cbufAck, Bool.and_eq_true]
  constructor
  · rintro ⟨enabled, answers, first⟩
    exact ⟨enabled, first, by rw [← dirty first]; exact answers⟩
  · rintro ⟨enabled, first, coalesced⟩
    exact ⟨enabled, by rw [dirty first]; exact coalesced, first⟩

theorem cbufAllocId_free (promised : Promised (state, log) input)
    (alloc : MissHandler.cbufAlloc state.miss (missInput state input) = true) :
    state.miss.cbuf.validQ (MissHandler.cbufAllocId state.miss) = false := by
  simp only [MissHandler.cbufAlloc, Bool.and_eq_true] at alloc
  have room := (promised.coalesces alloc.2.2 alloc.2.1).2
  simp only [MissHandler.cbufFull, alloc.1, Bool.true_and, Bits.all_eq_false_iff] at room
  rcases room with ⟨b, free⟩
  have hit := @Bits.firstIndex_hit _ _ (fun b => !state.miss.cbuf.validQ b) b (by simp [free])
  simpa [MissHandler.cbufAllocId, alloc.1] using hit

theorem cbuf_step_of_used (promised : Promised (state, log) input) {b : cfg.CbufId}
    (used : state.miss.cbuf.validQ b = true)
    (stays : MissHandler.cbufAck state.miss (missInput state input) = true →
      b ≠ (MissHandler.mshrAckEntry state.miss).cbufId) :
    (step state input).miss.cbuf.validQ b = true ∧
      (step state input).miss.cbuf.entriesQ b = state.miss.cbuf.entriesQ b := by
  have other : (MissHandler.cbufAlloc state.miss (missInput state input) &&
      decide (b = MissHandler.cbufAllocId state.miss)) = false := by
    rw [Bool.and_eq_false_iff, decide_eq_false_iff_not]
    by_cases alloc : MissHandler.cbufAlloc state.miss (missInput state input) = true
    · refine Or.inr fun same => ?_
      rw [same, cbufAllocId_free promised alloc] at used
      exact Bool.noConfusion used
    · exact Or.inl (Bool.eq_false_iff.mpr alloc)
  have kept : (MissHandler.cbufAck state.miss (missInput state input) &&
      decide (b = (MissHandler.mshrAckEntry state.miss).cbufId)) = false := by
    rw [Bool.and_eq_false_iff, decide_eq_false_iff_not]
    by_cases ack : MissHandler.cbufAck state.miss (missInput state input) = true
    · exact Or.inr (stays ack)
    · exact Or.inl (Bool.eq_false_iff.mpr ack)
  simp only [step, MissHandler.step, MissHandler.cbufD, other, kept, Bool.false_eq_true,
    if_false]
  exact ⟨used, trivial⟩

theorem Kept.holds_step (promised : Promised (state, log) input) (kept : Kept state log)
    {w : cfg.MshrWay} {s : cfg.MshrSet}
    (valid : state.miss.mshr.mshrValidQ w s = true)
    (mem : (step state input).miss.mshr.mshrMem.mem s w = state.miss.mshr.mshrMem.mem s w)
    (sets : (step state input).miss.mshr.mshrCacheSetQ w s =
      state.miss.mshr.mshrCacheSetQ w s) :
    Holds (step state input) (log.missOf (MissHandler.memId w s)) w s := by
  have holds := kept.slots w s valid
  constructor
  · rw [mem]
    exact holds.entry
  · rw [sets]
    exact holds.set
  · exact holds.inLine
  · intro dirty
    rcases holds.coalesced dirty with ⟨enabled, used, data⟩
    have stays := cbuf_step_of_used promised used fun ack => by
      rcases cbufAck_iff.mp ack with ⟨_, first, acked⟩
      exact kept.first first acked w s valid (holds.dirty_eq.trans dirty)
    rw [mem]
    exact ⟨enabled, stays.1, stays.2.trans data⟩

/-- The first access of a line follows the grant of its refill. -/
theorem ack_of_firstChunk (first : MissHandler.firstChunk (step state input).miss = true) :
    (out state input).mshrAck = true := by
  have fsmD : (step state input).miss.refillFsmQ = (out state input).refillFsmD := rfl
  have cntD : (step state input).miss.refillCntQ = (out state input).refillCntD := rfl
  have words := cfg.accessWords_pos
  have turn := MissHandler.turn state.miss (missInput state input)
  change MissHandler.Turn _ _ (out state input) at turn
  simp only [MissHandler.firstChunk, Bool.and_eq_true, decide_eq_true_eq, fsmD, cntD] at first
  cases turn with
  | startRefill fsm filled granted refill next cnt pops reads acks => exact acks
  | chunk fsm more next cnt =>
      rw [cnt] at first
      omega
  | _ => simp_all

theorem Kept.step (tracked : Tracked state log.ledger) (owned : Owned state log)
    (promised : Promised (state, log) input) (kept : Kept state log) :
    Kept (Refill.step state input) (log.record state input) := by
  cases slotMove promised with
  | keep alloc ack valid sets mem =>
      have same : (log.record state input).missOf = log.missOf := by
        simp only [Log.record, alloc, Bool.false_eq_true, if_false]
      constructor
      · intro w s used
        rw [valid] at used
        rw [same]
        exact kept.holds_step promised used (by rw [mem]) (by rw [sets])
      · rw [valid, mem]
        exact kept.buffers
      · intro first
        rw [ack_of_firstChunk first] at ack
        exact Bool.noConfusion ack
  | ack alloc ack valid sets mem entry =>
      have same : (log.record state input).missOf = log.missOf := by
        simp only [Log.record, alloc, Bool.false_eq_true, if_false]
      rcases owned.acked tracked ack with ⟨_, _, _, _, _, _, acked⟩
      constructor
      · intro w s used
        rw [same]
        exact kept.holds_step promised ((valid w s).mp used).1 (by rw [mem]) (by rw [sets])
      · intro w s w' s' used used'
        rw [mem]
        exact kept.buffers w s w' s' ((valid w s).mp used).1 ((valid w' s').mp used').1
      · intro _ dirty w s used other equal
        rw [mem] at other equal
        rw [entry] at dirty equal
        rcases (valid w s).mp used with ⟨used, different⟩
        exact different (kept.buffers w s _ _ used acked other dirty equal)
  | alloc alloc ack free valid sets mem =>
      have newMiss : (log.record state input).missOf (allocId state input) =
          offeredMiss input.ports := by
        simp only [Log.record, alloc, if_true, Function.update_self]
      have oldMiss {w : cfg.MshrWay} {s : cfg.MshrSet}
          (other : (w, s) ≠ allocSlot state input) :
          (log.record state input).missOf (MissHandler.memId w s) =
            log.missOf (MissHandler.memId w s) := by
        simp only [Log.record, alloc, if_true]
        refine Function.update_of_ne (fun same => other ?_) _ _
        rcases memId_injective same with ⟨way, set⟩
        exact Prod.ext way set
      -- The buffer of the new slot is not that of an old one.
      have apart {w w' : cfg.MshrWay} {s s' : cfg.MshrSet}
          (new : (w, s) = allocSlot state input)
          (used : state.miss.mshr.mshrValidQ w' s' = true)
          (dirty : ((Refill.step state input).miss.mshr.mshrMem.mem s w).dirty = true)
          (other : (state.miss.mshr.mshrMem.mem s' w').dirty = true) :
          (state.miss.mshr.mshrMem.mem s' w').cbufId ≠
            ((Refill.step state input).miss.mshr.mshrMem.mem s w).cbufId := by
        intro same
        rw [mem, if_pos new] at dirty same
        have holds := kept.slots w' s' used
        rcases holds.coalesced (holds.dirty_eq.symm.trans other) with ⟨enabled, taken, _⟩
        have asks : MissHandler.cbufAlloc state.miss (missInput state input) = true := by
          have asked : input.ports.mshrAllocDirty = true := dirty
          simp only [MissHandler.cbufAlloc, enabled, Bool.true_and, Bool.and_eq_true]
          exact ⟨asked, alloc⟩
        have free := cbufAllocId_free promised asks
        rw [same] at taken
        rw [show ((offeredMiss input.ports).entry (MissHandler.cbufAllocId state.miss)).cbufId =
          MissHandler.cbufAllocId state.miss from rfl, free] at taken
        exact Bool.noConfusion taken
      constructor
      · intro w s used
        by_cases new : (w, s) = allocSlot state input
        · have id : MissHandler.memId w s = allocId state input := by
            rw [allocId, ← new]
          rw [id, newMiss]
          have asked : input.ports.mshrAlloc = true := by
            simp only [allocates, MissHandler.mshrAlloc, Bool.and_eq_true] at alloc
            exact alloc.2
          constructor
          · rw [mem, if_pos new]
            rfl
          · rw [sets, if_pos new]
            rfl
          · exact promised.inLine asked
          · intro dirty
            have enabled := (promised.coalesces alloc dirty).1
            have asks : MissHandler.cbufAlloc state.miss (missInput state input) = true := by
              simp only [MissHandler.cbufAlloc, enabled, Bool.true_and, Bool.and_eq_true]
              exact ⟨dirty, alloc⟩
            rw [mem, if_pos new]
            refine ⟨enabled, ?_, ?_⟩
            · simp [Miss.entry, Refill.step, MissHandler.step, MissHandler.cbufD, asks]
            · simp only [Miss.entry, Refill.step, MissHandler.step, MissHandler.cbufD, asks,
                Bool.true_and, decide_true, if_true]
              rfl
        · have before : state.miss.mshr.mshrValidQ w s = true :=
            ((valid w s).mp used).resolve_left new
          rw [oldMiss new]
          exact kept.holds_step promised before (by rw [mem, if_neg new])
            (by rw [sets, if_neg new])
      · intro w s w' s' used used' dirty dirty' same
        by_cases new : (w, s) = allocSlot state input
        · by_cases new' : (w', s') = allocSlot state input
          · have slots := new.trans new'.symm
            exact Prod.mk.inj slots
          · have before := ((valid w' s').mp used').resolve_left new'
            rw [mem w' s', if_neg new'] at dirty' same
            exact absurd same.symm (apart new before dirty dirty')
        · have before := ((valid w s).mp used).resolve_left new
          rw [mem w s, if_neg new] at dirty same
          by_cases new' : (w', s') = allocSlot state input
          · exact absurd same (apart new' before dirty' dirty)
          · have before' := ((valid w' s').mp used').resolve_left new'
            rw [mem w' s', if_neg new'] at dirty' same
            exact kept.buffers w s w' s' before before' dirty dirty' same
      · intro first
        rw [ack_of_firstChunk first] at ack
        exact Bool.noConfusion ack

end Contents

/-! ## Runs -/

/-- Bursts, identifiers, slots and data in one state of a run. -/
structure Consistent (state : State widths × Log widths) : Prop where
  tracked : Tracked state.1 state.2.ledger
  stored : Stored state.1 state.2.ledger
  owned : Owned state.1 state.2
  kept : Kept state.1 state.2

theorem Consistent.reset (powerUp : Sram cfg.mshrSets cfg.mshrWays (Mshr.Entry cfg)) :
    Consistent (logged widths powerUp).reset where
  tracked := Tracked.reset powerUp
  stored := Stored.reset powerUp
  owned := by
    have none : openIds (logged widths powerUp).reset.1 (logged widths powerUp).reset.2 =
        [] := by
      simp [openIds, waiting, sending, logged, Machine.withHistory, machine, Refill.reset,
        MissHandler.reset, MissHandler.memReqValid]
    constructor
    · rw [none]
      exact List.nodup_nil
    · intro id member
      rw [none] at member
      exact absurd member List.not_mem_nil
  kept := by
    constructor
    · intro w s valid
      exact Bool.noConfusion valid
    · intro w s w' s' valid
      exact Bool.noConfusion valid
    · intro _ _ w s valid
      exact Bool.noConfusion valid

theorem Consistent.step {state : State widths × Log widths} {input : Input widths}
    (consistent : Consistent state) (promised : Promised state input) :
    Consistent (Refill.step state.1 input, state.2.record state.1 input) where
  tracked := consistent.tracked.step input
  stored := consistent.stored.step input consistent.tracked promised.whole
  owned := consistent.owned.step consistent.tracked promised
  kept := consistent.kept.step consistent.tracked consistent.owned promised

theorem consistent_run (powerUp : Sram cfg.mshrSets cfg.mshrWays (Mshr.Entry cfg))
    {inputs : List (Input widths)}
    (promised : (logged widths powerUp).RunAlong Promised inputs) :
    Consistent ((logged widths powerUp).run inputs) :=
  (logged widths powerUp).run_invariant_along Consistent (Consistent.reset powerUp)
    (fun _ _ consistent promised => consistent.step promised) promised

end Cva6Hpd.Hpdcache.Refill
