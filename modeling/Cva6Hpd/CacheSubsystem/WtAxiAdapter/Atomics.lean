import Cva6Hpd.CacheSubsystem.WtAxiAdapter.Ordinary

/-!
# Atomics

An atomic is alone from its request to its answer. It waits in the request queue, then for its
read response or, if it is a store-conditional, for its write response, and then its answer is
in the register.
-/

namespace Cva6Hpd.CacheSubsystem.WtAxiAdapter

open Cva6Hpd.Hw
open Cva6Hpd.Common
open Cva6Hpd.Ariane (AmoT)

variable {cfg : Cfg}

/-- An atomic that loads and stores. -/
def DcacheReq.loadsAndStores (req : DcacheReq cfg) : Bool := req.amoOp ≠ .lr && req.amoOp ≠ .sc

/-- All loads and stores are answered, and nothing else is requested. -/
structure Alone (s : State cfg) (h : History cfg) (req : DcacheReq cfg) : Prop where
  current : h.current = some req
  isAtomic : req.rtype = .atomic
  isSupported : supported req.amoOp = true
  loads : tids .load h.accepted = h.loadAcks
  stores : tids .store h.accepted = h.storeAcks
  owedLoads : h.owedLoads = []
  owedStores : h.owedWrites .store = 0
  waiting : waitingStores h = 0
  noLoadAck : acks s .loadAck = false
  noStoreAck : acks s .storeAck = false

/-- The atomic is in the request queue; its address may have been taken before its data. -/
structure Waits (s : State cfg) (h : History cfg) (req : DcacheReq cfg) : Prop where
  queue : s.dcacheDataFifo.contents = [req]
  reads : s.rdDcacheId.contents = []
  writes : s.wrDcacheId.contents = []
  atomicReads : h.owedAtomicReads =
    if s.wrStateQ = .waitLastWReady ∧ req.loadsAndStores = true then [1] else []
  noSc : NoSc h
  noAck : acks s .atomicAck = false

/-- The atomic waits for its read response. -/
structure Loads (s : State cfg) (h : History cfg) (req : DcacheReq cfg) : Prop where
  queue : s.dcacheDataFifo.contents = []
  ids : (s.rdDcacheId.contents = [req.tid] ∧ s.wrDcacheId.contents = []) ∨
    (s.rdDcacheId.contents = [] ∧ s.wrDcacheId.contents = [req.tid])
  atomicReads : ∃ left, h.owedAtomicReads = [left]
  notSc : req.amoOp ≠ .sc
  noSc : NoSc h
  noAck : acks s .atomicAck = false

/-- The store-conditional waits for its write response. -/
structure Stores (s : State cfg) (h : History cfg) (req : DcacheReq cfg) : Prop where
  queue : s.dcacheDataFifo.contents = []
  isSc : req.amoOp = .sc
  reads : s.rdDcacheId.contents = []
  writes : s.wrDcacheId.contents = [req.tid]
  atomicReads : h.owedAtomicReads = []
  owed : h.owedWrites .sc = 1
  noAmo : h.owedWrites .amo = 0
  buffered : h.buffered = []
  gen : s.amoGenRQ = false
  off : s.amoOffQ = amoOff req
  noAck : acks s .atomicAck = false

/-- The answer is in the register. -/
structure Answered (s : State cfg) (h : History cfg) (req : DcacheReq cfg) : Prop where
  queue : s.dcacheDataFifo.contents = []
  reads : s.rdDcacheId.contents = []
  writes : s.wrDcacheId.contents = []
  atomicReads : h.owedAtomicReads = []
  noSc : NoSc h
  ack : acks s .atomicAck = true
  tid : s.dcacheRtrnTidQ = req.tid
  sc : req.amoOp = .sc → ∃ succeeded, h.succeeded = some succeeded ∧
    s.dcacheRdShiftQ 0 = scWord (amoOff req) succeeded

/-- The stages of an atomic. -/
inductive Stage (s : State cfg) (h : History cfg) (req : DcacheReq cfg) : Prop where
  | waits (waits : Waits s h req)
  | loads (loads : Loads s h req)
  | stores (stores : Stores s h req)
  | answered (answered : Answered s h req)

section Step

variable {s : State cfg} {c : Cycle cfg} {h : History cfg} {req : DcacheReq cfg}

/-! ## The request -/

theorem wrStateQ_of_noRequest (wired : Wired s) (none : axiWrReq s = false) :
    s.wrStateQ = .idle := by
  by_contra busy
  exact Bool.false_ne_true (none.symm.trans (wired.shim busy))

theorem noRequest_of_empty (wired : Wired s) (queue : s.dcacheDataFifo.contents = []) :
    (∀ rtype, decodes s rtype = false) ∧ axiWrReq s = false ∧ grants s c = false := by
  have none (rtype : DcacheOut) : decodes s rtype = false := by
    rw [Bool.eq_false_iff]
    intro now
    obtain ⟨any, idx, _⟩ := (decodes_eq_true_iff _).mp now
    obtain ⟨req, rest, head⟩ := wired.head any idx
    rw [head.queue] at queue
    contradiction
  refine ⟨none, by simp [axiWrReq, none], ?_⟩
  rcases wired.grants_cases c with waits | ⟨_, req, rest, head, _⟩
  · exact waits
  · rw [head.queue] at queue
    contradiction

theorem waitingStores_eq_zero_iff (h : History cfg) :
    waitingStores h = 0 ↔ ∀ entry ∈ h.buffered, entry.1 ≠ .store := by
  simp [waitingStores, List.countP_eq_zero]

theorem eq_nil_of_answered {α : Type} {requests acks register sent queue : List α}
    (whole : requests = acks ++ register ++ sent ++ queue)
    (all : requests.length = acks.length) :
    requests = acks ∧ register = [] ∧ sent = [] ∧ queue = [] := by
  have lengths := congrArg List.length whole
  simp only [List.length_append] at lengths
  have first : register = [] := List.length_eq_zero_iff.mp (by omega)
  have second : sent = [] := List.length_eq_zero_iff.mp (by omega)
  have third : queue = [] := List.length_eq_zero_iff.mp (by omega)
  refine ⟨?_, first, second, third⟩
  rw [whole, first, second, third]
  simp

theorem acks_of_inRegister {rtype : DcacheIn} (none : inRegister s rtype = []) :
    acks s rtype = false := by
  rw [Bool.eq_false_iff]
  intro ack
  simp [inRegister, ack] at none

/-- All loads and stores are answered. -/
structure Drained (s : State cfg) (h : History cfg) : Prop where
  loads : tids .load h.accepted = h.loadAcks
  stores : tids .store h.accepted = h.storeAcks
  noLoadAck : inRegister s .loadAck = []
  noStoreAck : inRegister s .storeAck = []
  reads : s.rdDcacheId.contents = []
  writes : s.wrDcacheId.contents = []
  queuedLoads : tids .load s.dcacheDataFifo.contents = []
  queuedStores : tids .store s.dcacheDataFifo.contents = []

theorem Accounted.drained (accounted : Accounted s h)
    (loads : (tids .load h.accepted).length = h.loadAcks.length)
    (stores : (tids .store h.accepted).length = h.storeAcks.length) : Drained s h := by
  obtain ⟨sameLoads, noLoadAck, reads, queuedLoads⟩ := eq_nil_of_answered accounted.loads loads
  obtain ⟨sameStores, noStoreAck, writes, queuedStores⟩ :=
    eq_nil_of_answered accounted.stores stores
  exact ⟨sameLoads, sameStores, noLoadAck, noStoreAck, reads, writes, queuedLoads, queuedStores⟩

theorem length_tids_of_answered {rtype : DcacheOut} {acks : List (BitVec cfg.tidBits)}
    (all : h.Answered rtype acks) : (tids rtype h.accepted).length = acks.length := by
  rw [tids, List.length_map]
  exact all

theorem Ordinary.accepts (ordinary : Ordinary s h) (wired : Wired s) (buffers : Buffers s h)
    (dropped : AmosDropped s h) (env : Environment (s, h) c)
    (accepts : acceptsAtomic s c = true) :
    Alone (WtAxiAdapter.step s c.toInput) (record s c h) c.dcacheData ∧
      Waits (WtAxiAdapter.step s c.toInput) (record s c h) c.dcacheData := by
  have ack : dcacheDataAck s c.toInput = true ∧ c.dcacheData.rtype = .atomic := by
    simpa [acceptsAtomic] using accepts
  have accepted : (record s c h).accepted = h.accepted ++ [c.dcacheData] := by
    simp [record, ack.1]
  have accounted := ordinary.accounted_step wired buffers dropped env
  obtain ⟨allLoads, allStores⟩ := env.atomic accepts
  have before := ordinary.accounted.drained (length_tids_of_answered allLoads)
    (length_tids_of_answered allStores)
  have loadAcks : (record s c h).loadAcks = h.loadAcks := by
    simp [record, acks_of_inRegister before.noLoadAck]
  have storeAcks : (record s c h).storeAcks = h.storeAcks := by
    simp [record, acks_of_inRegister before.noStoreAck]
  have after : Drained (WtAxiAdapter.step s c.toInput) (record s c h) := by
    apply accounted.drained
    · rw [accepted, tids_append, tids_cons, ack.2, loadAcks, before.loads]
      simp
    · rw [accepted, tids_append, tids_cons, ack.2, storeAcks, before.stores]
      simp
  have empty : s.dcacheDataFifo.contents = [] := by
    rw [List.eq_nil_iff_forall_not_mem]
    intro req among
    rcases ordinary.queue req among with isLoad | isStore
    · have listed : req.tid ∈ tids .load s.dcacheDataFifo.contents :=
        List.mem_map_of_mem (List.mem_filter.mpr ⟨among, decide_eq_true isLoad⟩)
      rw [before.queuedLoads] at listed
      contradiction
    · have listed : req.tid ∈ tids .store s.dcacheDataFifo.contents :=
        List.mem_map_of_mem (List.mem_filter.mpr ⟨among, decide_eq_true isStore⟩)
      rw [before.queuedStores] at listed
      contradiction
  obtain ⟨none, noWrite, waits⟩ := @noRequest_of_empty _ s c wired empty
  have idle := wrStateQ_of_noRequest wired noWrite
  have shim : (WtAxiAdapter.step s c.toInput).wrStateQ = .idle := by
    simp [WtAxiAdapter.step, wrStateD, idle, noWrite]
  have reads := accounted.reads
  have writes := accounted.writes
  rw [after.reads, List.length_nil] at reads
  rw [after.writes, List.length_nil] at writes
  constructor
  · constructor
    · simp [record, accepts]
    · exact ack.2
    · rcases env.rtype ack.1 with isLoad | isStore | isAtomic
      · simp [isLoad] at ack
      · simp [isStore] at ack
      · exact isAtomic.2
    · exact after.loads
    · exact after.stores
    · exact List.length_eq_zero_iff.mp reads.symm
    · omega
    · omega
    · exact acks_of_inRegister after.noLoadAck
    · exact acks_of_inRegister after.noStoreAck
  · constructor
    · rw [wired.queue_step, waits, empty]
      simp [entering, ack.1]
    · exact after.reads
    · exact after.writes
    · have other := lock_of_noAtomic (none .atomic)
      have noRead := @returnsRead_of_noAtomic _ s c (none .atomic)
      simp [record, ordinary.atomicReads, other, noRead, served, shim]
    · exact ordinary.noSc.step env fun _ => by simp [kind_of_noAtomic (none .atomic)]
    · exact (ordinary.answers buffers dropped env).noAck

/-! ## An atomic that is presented -/

theorem atop_returnsRead {op : AmoT} (isSupported : supported op = true) (mbe : Bool) :
    (atop mbe op).getLsbD 5 = (op ≠ .lr && op ≠ .sc) := by
  cases op <;> cases mbe <;> first | rfl | contradiction

theorem Head.returnsRead_eq {rest : List (DcacheReq cfg)} (head : Head s req rest)
    (isAtomic : req.rtype = .atomic) (isSupported : supported req.amoOp = true) :
    (axiAw s c.toInput).returnsRead = req.loadsAndStores := by
  have now : decodes s .atomic = true := by simp [head.decodes_eq, isAtomic]
  simp only [Aw.returnsRead, axiAw, now, if_true, head.data]
  exact atop_returnsRead isSupported c.mbe

theorem Head.kind_eq {rest : List (DcacheReq cfg)} (head : Head s req rest)
    (isAtomic : req.rtype = .atomic) (isSupported : supported req.amoOp = true)
    (notLr : req.amoOp ≠ .lr) :
    (axiAw s c.toInput).kind = if req.amoOp = .sc then .sc else .amo := by
  have now : decodes s .atomic = true := by simp [head.decodes_eq, isAtomic]
  rw [Aw.kind, head.returnsRead_eq isAtomic isSupported]
  by_cases isSc : req.amoOp = .sc <;>
    simp [DcacheReq.loadsAndStores, notLr, isSc, axiAw, now, head.data]

/-! ## One cycle of an atomic -/

theorem Alone.noEnter (alone : Alone s h req) (env : Environment (s, h) c) :
    dcacheDataAck s c.toInput = false := by
  rw [Bool.eq_false_iff]
  intro accepts
  have none := env.alone accepts
  rw [alone.current] at none
  contradiction

theorem Alone.shown_ne_store (alone : Alone s h req) (env : Environment (s, h) c)
    {entry : WriteKind × Bool} (shown : entry ∈ shownWrites s c h) : entry.1 ≠ .store := by
  intro isStore
  rcases mem_shownWrites env shown with waits | owed
  · exact (waitingStores_eq_zero_iff h).mp alone.waiting entry waits isStore
  · rw [isStore, alone.owedStores] at owed
    exact Nat.lt_irrefl 0 owed

theorem Alone.noLoad (alone : Alone s h req) (env : Environment (s, h) c) :
    takesRead s c .load = false := by
  rw [Bool.eq_false_iff]
  intro takes
  simp only [takesRead, Bool.and_eq_true, decide_eq_true_eq] at takes
  obtain ⟨left, bursts, owed, _⟩ := env.loads takes.1.1 takes.1.2
  rw [alone.owedLoads] at owed
  contradiction

theorem Alone.noAcks_step (alone : Alone s h req) (buffers : Buffers s h)
    (env : Environment (s, h) c) :
    acks (step s c.toInput) .loadAck = false ∧ acks (step s c.toInput) .storeAck = false := by
  simp only [acks_step]
  cases decoded buffers env with
  | invalidates now noReads same => simp [same]
  | load takes other same =>
      rw [alone.noLoad env] at takes
      contradiction
  | atomic takes other same => simp [same]
  | silent noReads none same => simp [same, Decode.idle]
  | write noReads entry rest shown same out =>
      have notStore := alone.shown_ne_store env (shown ▸ List.mem_cons_self)
      simp [same, writeDecode, notStore]

theorem Alone.step (alone : Alone s h req) (buffers : Buffers s h)
    (env : Environment (s, h) c) (noAck : acks s .atomicAck = false)
    (noLoad : decodes s .load = false)
    (noStore : axiWrGnt s c.toInput = true → (axiAw s c.toInput).kind ≠ .store) :
    Alone (step s c.toInput) (record s c h) req := by
  have noEnter := alone.noEnter env
  have noAcks := alone.noAcks_step buffers env
  constructor
  · simp [record, acceptsAtomic, noEnter, noAck, alone.current]
  · exact alone.isAtomic
  · exact alone.isSupported
  · simp [record, noEnter, alone.noLoadAck, alone.loads]
  · simp [record, noEnter, alone.noStoreAck, alone.stores]
  · simp [record, alone.noLoad env, alone.owedLoads, noLoad]
  · have none : ¬(axiWrGnt s c.toInput = true ∧ (axiAw s c.toInput).kind = .store) :=
      fun both => noStore both.1 both.2
    rw [owedWrites_record, alone.owedStores, Nat.zero_sub, if_neg none]
  · rw [waitingStores_eq_zero_iff]
    intro entry waits
    exact alone.shown_ne_store env (mem_buffered_record waits)
  · exact noAcks.1
  · exact noAcks.2

theorem Alone.noAtomicAck (alone : Alone s h req) (noSc : NoSc h) (dropped : AmosDropped s h)
    (buffers : Buffers s h) (env : Environment (s, h) c)
    (noRead : takesRead s c .atomic = false) :
    acks (WtAxiAdapter.step s c.toInput) .atomicAck = false := by
  rw [acks_step]
  cases decoded buffers env with
  | invalidates now noReads same => simp [same]
  | load takes other same =>
      rw [alone.noLoad env] at takes
      contradiction
  | atomic takes other same =>
      rw [noRead] at takes
      contradiction
  | silent noReads none same => simp [same, Decode.idle]
  | write noReads entry rest shown same out =>
      have among : entry ∈ shownWrites s c h := shown ▸ List.mem_cons_self
      cases kind : entry.1 with
      | store => exact absurd kind (alone.shown_ne_store env among)
      | sc => exact absurd kind (mem_shown_ne_sc noSc env among)
      | amo => simp [same, writeDecode, kind, dropped.of_shown env among kind]

theorem Alone.noPops (alone : Alone s h req) (noSc : NoSc h) (dropped : AmosDropped s h)
    (buffers : Buffers s h) (env : Environment (s, h) c)
    (noRead : takesRead s c .atomic = false) :
    (decode s c.toInput).rdPop = false ∧ (decode s c.toInput).wrPop = false := by
  cases decoded buffers env with
  | invalidates now noReads same => simp [same, Decode.idle]
  | load takes other same =>
      rw [alone.noLoad env] at takes
      contradiction
  | atomic takes other same =>
      rw [noRead] at takes
      contradiction
  | silent noReads none same => simp [same, Decode.idle]
  | write noReads entry rest shown same out =>
      have among : entry ∈ shownWrites s c h := shown ▸ List.mem_cons_self
      cases kind : entry.1 with
      | store => exact absurd kind (alone.shown_ne_store env among)
      | sc => exact absurd kind (mem_shown_ne_sc noSc env among)
      | amo => simp [same, writeDecode, Decode.idle, kind, dropped.of_shown env among kind]

theorem owedAtomicReads_record :
    (record s c h).owedAtomicReads =
      (if takesRead s c .atomic then served h.owedAtomicReads else h.owedAtomicReads) ++
        (if axiRdGnt s c.toInput && (axiAr s).lock then [(axiAr s).len + 1] else []) ++
          if sendsAw s c && (axiAw s c.toInput).returnsRead then [1] else [] :=
  rfl

/-! ### In the request queue -/

theorem Waits.head (waits : Waits s h req) (wired : Wired s) (any : (arbReq s).any = true)
    (idx : arbIdx s = true) : Head s req [] := by
  obtain ⟨other, rest, head⟩ := wired.head any idx
  have same := head.queue
  rw [waits.queue] at same
  obtain ⟨rfl, rfl⟩ := List.cons.inj same
  exact head

theorem Waits.noRead (waits : Waits s h req) (clear : Clear (s, h) c) :
    takesRead s c .atomic = false := by
  rw [Bool.eq_false_iff]
  intro takes
  have none := FifoV3.empty_eq_true_iff.mp (clear.granted takes)
  rw [waits.queue] at none
  contradiction

theorem Waits.noLoad (waits : Waits s h req) (alone : Alone s h req) (wired : Wired s) :
    decodes s .load = false := by
  rw [Bool.eq_false_iff]
  intro now
  obtain ⟨any, idx, _⟩ := (decodes_eq_true_iff _).mp now
  rw [(waits.head wired any idx).decodes_eq, alone.isAtomic] at now
  simp at now

theorem lock_of_noGrant (waits : grants s c = false) :
    (axiRdGnt s c.toInput && (axiAr s).lock) = false := by
  have none := noLoad_of_noGrant waits .atomic
  cases granted : axiRdGnt s c.toInput with
  | false => rfl
  | true =>
      rw [granted, Bool.true_and] at none
      simp [axiAr, none]

theorem Waits.stays (waits : Waits s h req) (alone : Alone s h req) (wired : Wired s)
    (buffers : Buffers s h) (dropped : AmosDropped s h) (env : Environment (s, h) c)
    (clear : Clear (s, h) c) (notGranted : grants s c = false) :
    Waits (step s c.toInput) (record s c h) req := by
  have noRead := waits.noRead clear
  have noWrite := wired.noWrite_of_noGrant notGranted
  constructor
  · rw [wired.queue_step, notGranted, waits.queue]
    simp [entering, alone.noEnter env]
  · rw [wired.reads_step, waits.reads]
    simp [pushedReads, notGranted]
  · rw [wired.writes_step, waits.writes]
    simp [pushedWrites, notGranted]
  · have shim : (step s c.toInput).wrStateQ = wrStateD s c.toInput := rfl
    rw [owedAtomicReads_record, noRead, if_neg Bool.false_ne_true, lock_of_noGrant notGranted,
      if_neg Bool.false_ne_true, waits.atomicReads, List.append_nil, shim]
    cases state : s.wrStateQ with
    | idle =>
        cases presents : axiWrReq s with
        | false => simp [wrStateD, sendsAw, awValid, state, presents]
        | true =>
            obtain ⟨any, idx⟩ := any_of_axiWrReq presents
            have returns := @Head.returnsRead_eq _ s c req [] (waits.head wired any idx)
              alone.isAtomic alone.isSupported
            simp only [axiWrGnt, state, presents, Bool.true_and] at noWrite
            cases aw : c.awReady <;> cases w : c.wReady <;>
              simp [wrStateD, sendsAw, awValid, state, presents, returns, aw, w] at noWrite ⊢
    | waitAwReady =>
        simp only [axiWrGnt, state] at noWrite
        simp [wrStateD, sendsAw, awValid, state, noWrite]
    | waitLastWReady =>
        simp only [axiWrGnt, state] at noWrite
        simp [wrStateD, sendsAw, awValid, state, noWrite]
  · exact waits.noSc.step env fun writes => by simp [noWrite] at writes
  · exact alone.noAtomicAck waits.noSc dropped buffers env noRead

/-- A granted atomic is read or written, or both. -/
theorem Waits.sent (waits : Waits s h req) (alone : Alone s h req) (wired : Wired s)
    (buffers : Buffers s h) (dropped : AmosDropped s h) (env : Environment (s, h) c)
    (clear : Clear (s, h) c) (granted : grants s c = true) :
    Stage (step s c.toInput) (record s c h) req := by
  have noRead := waits.noRead clear
  have noAck := alone.noAtomicAck waits.noSc dropped buffers env noRead
  have queue : (step s c.toInput).dcacheDataFifo.contents = [] := by
    rw [wired.queue_step, granted, waits.queue]
    simp [entering, alone.noEnter env]
  have reads : (step s c.toInput).rdDcacheId.contents = pushedReads s c := by
    rw [wired.reads_step, waits.reads]
    simp
  have writes : (step s c.toInput).wrDcacheId.contents = pushedWrites s c := by
    rw [wired.writes_step, waits.writes]
    simp
  have owed := @owedAtomicReads_record _ s c h
  rw [noRead, if_neg Bool.false_ne_true, waits.atomicReads] at owed
  rcases wired.grants_cases c with other | ⟨_, first, rest, head, access⟩
  · rw [granted] at other
    contradiction
  have same := head.queue
  rw [waits.queue] at same
  obtain ⟨rfl, rfl⟩ := List.cons.inj same
  have now : decodes s .atomic = true := by simp [head.decodes_eq, alone.isAtomic]
  have returns := @Head.returnsRead_eq _ s c req [] head alone.isAtomic alone.isSupported
  rw [returns] at owed
  rcases access with ⟨isRead, reading, notWriting⟩ | ⟨_, isWrite, notReading, writing⟩
  · have isLr : req.amoOp = .lr := by simpa [DcacheReq.isRead, alone.isAtomic] using isRead
    have notSc : req.amoOp ≠ .sc := by simp [isLr]
    have lock : (axiAr s).lock = true := by simp [axiAr, now, head.data, isLr]
    refine .loads ⟨queue, Or.inl ⟨?_, ?_⟩, ⟨(axiAr s).len + 1, ?_⟩, notSc, ?_, noAck⟩
    · rw [reads, pushedReads, granted, reading, head.data]
      rfl
    · rw [writes, pushedWrites, notWriting, Bool.and_false, if_neg Bool.false_ne_true]
    · rw [owed, reading, lock]
      simp [DcacheReq.loadsAndStores, isLr]
    · exact waits.noSc.step env fun writing => by simp [notWriting] at writing
  · have notLr : req.amoOp ≠ .lr := by simpa [DcacheReq.isWrite, alone.isAtomic] using isWrite
    have kind := @Head.kind_eq _ s c req [] head alone.isAtomic alone.isSupported notLr
    have noReads : (step s c.toInput).rdDcacheId.contents = [] := by
      rw [reads, pushedReads, notReading, Bool.and_false, if_neg Bool.false_ne_true]
    have ids : (step s c.toInput).wrDcacheId.contents = [req.tid] := by
      rw [writes, pushedWrites, granted, writing, head.data]
      rfl
    rw [notReading, Bool.false_and, if_neg Bool.false_ne_true, List.append_nil] at owed
    by_cases isSc : req.amoOp = .sc
    · rw [if_pos isSc] at kind
      obtain ⟨noAmo, noneWaits⟩ := clear.presents now (by rw [head.data, isSc])
      refine .stores ⟨queue, isSc, noReads, ids, ?_, ?_, noAmo, ?_, ?_, ?_, noAck⟩
      · rw [owed]
        simp [DcacheReq.loadsAndStores, isSc]
      · rw [owedWrites_record, waits.noSc.owed, writing, kind]
        simp
      · rw [List.eq_nil_iff_forall_not_mem]
        intro entry among
        have shown := mem_buffered_record among
        cases kind : entry.1 with
        | store => exact alone.shown_ne_store env shown kind
        | sc => exact mem_shown_ne_sc waits.noSc env shown kind
        | amo => exact noneWaits entry among kind
      · simp [step, amoGenRD, now, head.data, isSc]
      · simp [step, amoOffD, now, head.data, isSc]
    · rw [if_neg isSc] at kind
      have loads : req.loadsAndStores = true := by simp [DcacheReq.loadsAndStores, notLr, isSc]
      refine .loads ⟨queue, Or.inr ⟨noReads, ids⟩, ⟨1, ?_⟩, isSc, ?_, noAck⟩
      · rw [owed, loads]
        -- the address is taken with the data, or before them
        cases state : s.wrStateQ <;>
          simp only [axiWrGnt, state, Bool.and_eq_true] at writing <;>
          simp [sendsAw, awValid, state, writing]
      · exact waits.noSc.step env fun _ => by simp [kind]

/-! ### Behind the request queue -/

/-- With an empty request queue, the memory is not asked for anything. -/
structure Silent (s : State cfg) (c : Cycle cfg) : Prop where
  decodes : ∀ rtype, decodes s rtype = false
  notGranted : grants s c = false
  noWrite : axiWrGnt s c.toInput = false
  noAw : sendsAw s c = false
  noInvalidate : invalidate s c.toInput = false
  reads : pushedReads s c = []
  writes : pushedWrites s c = []

theorem Wired.silent (wired : Wired s) (queue : s.dcacheDataFifo.contents = []) (c : Cycle cfg) :
    Silent s c := by
  obtain ⟨none, noRequest, notGranted⟩ := @noRequest_of_empty _ s c wired queue
  have idle := wrStateQ_of_noRequest wired noRequest
  constructor
  · exact none
  · exact notGranted
  · exact wired.noWrite_of_noGrant notGranted
  · simp [sendsAw, awValid, idle, noRequest]
  · simp [invalidate, none]
  · simp [pushedReads, notGranted]
  · simp [pushedWrites, notGranted]

theorem Silent.owedAtomicReads (silent : Silent s c) :
    (record s c h).owedAtomicReads =
      if takesRead s c .atomic then served h.owedAtomicReads else h.owedAtomicReads := by
  rw [owedAtomicReads_record, lock_of_noGrant silent.notGranted, silent.noAw]
  simp

theorem Silent.queue (silent : Silent s c) (wired : Wired s) (alone : Alone s h req)
    (env : Environment (s, h) c) (queue : s.dcacheDataFifo.contents = []) :
    (step s c.toInput).dcacheDataFifo.contents = [] := by
  rw [wired.queue_step, silent.notGranted, queue]
  simp [entering, alone.noEnter env]

theorem Silent.owedWrites (silent : Silent s c) (kind : WriteKind) :
    (record s c h).owedWrites kind =
      h.owedWrites kind - if bPush s c.toInput ∧ c.bFor = kind then 1 else 0 := by
  rw [owedWrites_record, silent.noWrite]
  simp

/-- The last beat of the read response answers the atomic, whichever queue has its
identifier. -/
theorem Loads.step (loads : Loads s h req) (alone : Alone s h req) (wired : Wired s)
    (buffers : Buffers s h) (dropped : AmosDropped s h) (env : Environment (s, h) c) :
    Stage (step s c.toInput) (record s c h) req := by
  have silent := wired.silent loads.queue c
  have queue := silent.queue wired alone env loads.queue
  have noSc : NoSc (record s c h) :=
    loads.noSc.step env fun writing => by simp [silent.noWrite] at writing
  have reads := wired.reads_step c
  have writes := wired.writes_step c
  have owed := @Silent.owedAtomicReads _ s c h silent
  rw [silent.reads, List.append_nil] at reads
  rw [silent.writes, List.append_nil] at writes
  obtain ⟨left, atomicReads⟩ := loads.atomicReads
  cases takes : takesRead s c .atomic with
  | false =>
      obtain ⟨rdPop, wrPop⟩ := alone.noPops loads.noSc dropped buffers env takes
      rw [rdPop, if_neg Bool.false_ne_true] at reads
      rw [wrPop, if_neg Bool.false_ne_true] at writes
      rw [takes, if_neg Bool.false_ne_true, atomicReads] at owed
      refine .loads ⟨queue, ?_, ⟨left, owed⟩, loads.notSc, noSc,
        alone.noAtomicAck loads.noSc dropped buffers env takes⟩
      rw [reads, writes]
      exact loads.ids
  | true =>
      have same : decode s c.toInput =
          { (Decode.idle : Decode cfg) with
            rtrnRdEn := true, rtrnVld := c.r.last, rtype := .atomicAck
            wrPop := c.r.last && !s.wrDcacheId.empty
            rdPop := c.r.last && s.wrDcacheId.empty } := by
        cases decoded buffers env with
        | invalidates now noReads same => simp [silent.noInvalidate] at now
        | load load other same => simp [takes] at other
        | atomic takes other same => exact same
        | silent noReads none same => simp [noReads.atomic] at takes
        | write noReads entry rest shown same out => simp [noReads.atomic] at takes
      have valid : c.rValid = true ∧ c.rFor = .atomic := by
        simp only [takesRead, Bool.and_eq_true, decide_eq_true_eq] at takes
        exact takes.1
      obtain ⟨first, bursts, due, isLast⟩ := env.atomics valid.1 valid.2
      rw [show h.owedAtomicReads = first :: bursts from due] at atomicReads
      obtain ⟨rfl, rfl⟩ := List.cons.inj atomicReads
      rw [takes, if_pos rfl, show h.owedAtomicReads = [first] from due, served] at owed
      simp only [same, Decode.idle] at reads writes
      cases last : c.r.last with
      | false =>
          have more : first ≠ 1 := fun one => by simp [isLast.mpr one] at last
          rw [if_neg more] at owed
          simp only [last, Bool.false_and, Bool.false_eq_true, if_false] at reads writes
          refine .loads ⟨queue, ?_, ⟨first - 1, owed⟩, loads.notSc, noSc, ?_⟩
          · rw [reads, writes]
            exact loads.ids
          · simp [acks_step, same, last]
      | true =>
          rw [if_pos (isLast.mp last)] at owed
          have ack : acks (WtAxiAdapter.step s c.toInput) .atomicAck = true := by
            simp [acks_step, same, last]
          have tid : (WtAxiAdapter.step s c.toInput).dcacheRtrnTidQ =
              if !s.wrDcacheId.empty then s.wrDcacheId.dataOut else s.rdDcacheId.dataOut := by
            simp [WtAxiAdapter.step, dcacheRtrnTidD, same, last]
          simp only [last, Bool.true_and] at reads writes
          rcases loads.ids with ⟨inReads, inWrites⟩ | ⟨inReads, inWrites⟩
          · have empty := FifoV3.empty_eq_true_iff.mpr inWrites
            rw [empty] at reads writes tid
            refine .answered ⟨queue, ?_, ?_, owed, noSc, ack, ?_,
              fun isSc => absurd isSc loads.notSc⟩
            · rw [reads, inReads]
              rfl
            · rw [writes, inWrites]
              rfl
            · exact tid.trans (FifoV3.dataOut_eq inReads)
          · have some : s.wrDcacheId.empty = false := by
              rw [Bool.eq_false_iff]
              intro empty
              rw [FifoV3.empty_eq_true_iff.mp empty] at inWrites
              contradiction
            rw [some] at reads writes tid
            refine .answered ⟨queue, ?_, ?_, owed, noSc, ack, ?_,
              fun isSc => absurd isSc loads.notSc⟩
            · rw [reads, inReads]
              rfl
            · rw [writes, inWrites]
              rfl
            · exact tid.trans (FifoV3.dataOut_eq inWrites)

theorem noRead_of_noneOwed (atomicReads : h.owedAtomicReads = [])
    (env : Environment (s, h) c) : takesRead s c .atomic = false := by
  rw [Bool.eq_false_iff]
  intro takes
  simp only [takesRead, Bool.and_eq_true, decide_eq_true_eq] at takes
  obtain ⟨left, bursts, owed, _⟩ := env.atomics takes.1.1 takes.1.2
  rw [atomicReads] at owed
  contradiction

/-- The write response answers the store-conditional with its own outcome. -/
theorem Stores.step (stores : Stores s h req) (alone : Alone s h req) (wired : Wired s)
    (buffers : Buffers s h) (env : Environment (s, h) c) :
    Stage (step s c.toInput) (record s c h) req := by
  have silent := wired.silent stores.queue c
  have queue := silent.queue wired alone env stores.queue
  have noRead := noRead_of_noneOwed stores.atomicReads env
  have reads := wired.reads_step c
  have writes := wired.writes_step c
  have owed := @Silent.owedAtomicReads _ s c h silent
  rw [silent.reads, List.append_nil, stores.reads] at reads
  rw [silent.writes, List.append_nil, stores.writes] at writes
  rw [noRead, if_neg Bool.false_ne_true, stores.atomicReads] at owed
  have noReads : (WtAxiAdapter.step s c.toInput).rdDcacheId.contents = [] := by
    rw [reads]
    simp
  cases decoded buffers env with
  | invalidates now noReads same => simp [silent.noInvalidate] at now
  | load takes other same => simp [alone.noLoad env] at takes
  | atomic takes other same => simp [noRead] at takes
  | silent quiet none same =>
      have noPush : bPush s c.toInput = false := by
        rw [Bool.eq_false_iff]
        intro pushes
        simp [shownWrites, pushes] at none
      simp only [same, Decode.idle, Bool.false_eq_true, if_false] at writes
      refine .stores ⟨queue, stores.isSc, noReads, writes, owed, ?_, ?_, ?_, ?_, ?_, ?_⟩
      · simp [silent.owedWrites, noPush, stores.owed]
      · simp [silent.owedWrites, noPush, stores.noAmo]
      · have none' : (record s c h).buffered = if (decode s c.toInput).bPop then
            (shownWrites s c h).tail else shownWrites s c h := rfl
        rw [none', none]
        simp
      · simp [WtAxiAdapter.step, amoGenRD, silent.decodes, stores.gen]
      · simp [WtAxiAdapter.step, amoOffD, silent.decodes, stores.off]
      · simp [acks_step, same, Decode.idle]
  | write quiet entry rest shown same out =>
      rw [shownWrites, stores.buffered, List.nil_append] at shown
      cases pushes : bPush s c.toInput with
      | false => simp [pushes] at shown
      | true =>
          have due : 0 < h.owedWrites c.bFor := env.writes (Bool.and_eq_true_iff.mp pushes).1
          have isSc : c.bFor = .sc := by
            cases kind : c.bFor with
            | store => simp [kind, alone.owedStores] at due
            | sc => rfl
            | amo => simp [kind, stores.noAmo] at due
          rw [pushes, if_pos rfl] at shown
          obtain ⟨rfl, rfl⟩ := List.cons.inj shown
          have buffered : (record s c h).buffered = [] := by
            simp [record, same, writeDecode, Decode.idle, isSc, shownWrites, stores.buffered,
              pushes]
          simp only [same, writeDecode, isSc, stores.gen, reduceCtorEq, if_false, Bool.not_false,
            if_true, List.tail_cons] at writes
          refine .answered ⟨queue, noReads, writes, owed, ⟨?_, ?_⟩, ?_, ?_, fun _ =>
            ⟨decide (c.b.resp = 1), ?_, ?_⟩⟩
          · simp [silent.owedWrites, pushes, isSc, stores.owed]
          · simp [buffered]
          · simp [acks_step, same, writeDecode, isSc, stores.gen]
          · have first := FifoV3.dataOut_eq stores.writes
            simp [WtAxiAdapter.step, dcacheRtrnTidD, same, writeDecode, isSc, stores.gen, first]
          · simp [record, acceptsAtomic, alone.noEnter env, pushes, isSc]
          · simp [WtAxiAdapter.step, dcacheRdShiftD, same, writeDecode, isSc, stores.gen,
              Decode.idle, out, bEntry, stores.off]

theorem Answered.step (answered : Answered s h req) (alone : Alone s h req) (wired : Wired s)
    (buffers : Buffers s h) (dropped : AmosDropped s h) (env : Environment (s, h) c) :
    Ordinary (step s c.toInput) (record s c h) := by
  have silent := wired.silent answered.queue c
  have queue := silent.queue wired alone env answered.queue
  have noRead := noRead_of_noneOwed answered.atomicReads env
  have noEnter := alone.noEnter env
  have noAcks := alone.noAcks_step buffers env
  have reads := wired.reads_step c
  have writes := wired.writes_step c
  rw [silent.reads, List.append_nil, answered.reads] at reads
  rw [silent.writes, List.append_nil, answered.writes] at writes
  have noReads : (WtAxiAdapter.step s c.toInput).rdDcacheId.contents = [] := by
    rw [reads]
    simp
  have noWrites : (WtAxiAdapter.step s c.toInput).wrDcacheId.contents = [] := by
    rw [writes]
    simp
  have noStores : waitingStores (record s c h) = 0 := by
    rw [waitingStores_eq_zero_iff]
    intro entry waits
    exact alone.shown_ne_store env (mem_buffered_record waits)
  have owedLoads : (record s c h).owedLoads = [] := by
    simp [record, alone.noLoad env, alone.owedLoads, silent.decodes]
  refine ⟨?_, ?_, ?_, ?_, ?_, ?_, ?_, ?_, ?_⟩
  · simp [record, acceptsAtomic, noEnter, answered.ack]
  · simp [queue]
  · rw [silent.owedAtomicReads, noRead, if_neg Bool.false_ne_true, answered.atomicReads]
  · exact answered.noSc.step env fun writing => by simp [silent.noWrite] at writing
  · exact alone.noAtomicAck answered.noSc dropped buffers env noRead
  · rw [noReads, owedLoads]
    rfl
  · rw [noWrites, noStores, silent.owedWrites, alone.owedStores]
    simp
  · rw [noReads, queue]
    simp [record, noEnter, alone.noLoadAck, alone.loads, inRegister, noAcks.1]
  · rw [noWrites, queue]
    simp [record, noEnter, alone.noStoreAck, alone.stores, inRegister, noAcks.2]

end Step

end Cva6Hpd.CacheSubsystem.WtAxiAdapter
