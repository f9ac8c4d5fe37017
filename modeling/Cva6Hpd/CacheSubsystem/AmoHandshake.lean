import Cva6Hpd.CacheSubsystem.IfAdapter
import Cva6Hpd.Hw.Machine

/-!
# Atomic operations through the interface adapter

The core keeps an atomic operation and its operands until the acknowledgement, and the data
cache answers each request that it took once, in a later cycle. Every operation of the core
becomes one request of the data cache, and is acknowledged by the answer to this request,
with its data.
-/

namespace Cva6Hpd.IfAdapter

open Cva6Hpd.Ariane
open Cva6Hpd.Hw
open Cva6Hpd.Lsu.AmoBuffer (AmoReq AmoResp)

variable {cfg : Cfg}

/-! ## Histories -/

/-- An atomic operation of the core, the requests that the data cache took for it with their
numbers, and the responses that acknowledged it with the results. -/
structure Transaction (cfg : Cfg) where
  req : AmoReq
  issued : List (Nat × HpdcacheReq cfg)
  acked : List (HpdcacheRsp cfg × BitVec 64)
deriving DecidableEq

/-- The requests that the data cache took in their order, the numbers of those that it
answered, the operations of the core that were acknowledged and the one that waits, and the
acknowledgements that no operation waited for. -/
structure History (cfg : Cfg) where
  accepted : List (HpdcacheReq cfg)
  answered : List Nat
  completed : List (Transaction cfg)
  current : Option (Transaction cfg)
  strays : List (HpdcacheRsp cfg)

def History.initial : History cfg where
  accepted := []
  answered := []
  completed := []
  current := none
  strays := []

section Record

variable (s : State) (i : Input cfg) (h : History cfg)

/-- The operation that the core holds in this cycle: the one that waits, or a new one. -/
def held : Option (Transaction cfg) :=
  match h.current with
  | some transaction => some transaction
  | none => if i.amoReq.req then some { req := i.amoReq, issued := [], acked := [] } else none

/-- The operation after the data cache took its request. -/
def issue (transaction : Transaction cfg) : Transaction cfg :=
  if accepts s i && forwardAmo i then
    { transaction with
      issued := transaction.issued ++ [(h.accepted.length, hpdcacheReq i)] }
  else transaction

/-- The response that acknowledges an atomic operation, with the result. -/
def acknowledgement : Option (HpdcacheRsp cfg × BitVec 64) :=
  match i.rsp with
  | none => none
  | some rsp => if (amoResp i).ack then some (rsp, (amoResp i).result) else none

def record : History cfg :=
  let held := (held i h).map (issue s i h)
  { accepted := h.accepted ++ if accepts s i then [hpdcacheReq i] else []
    answered := h.answered ++ (i.rsp.map (·.request)).toList
    completed :=
      h.completed ++
        match acknowledgement i, held with
        | some ack, some transaction =>
          [{ transaction with acked := transaction.acked ++ [ack] }]
        | _, _ => []
    current := if (acknowledgement i).isSome then none else held
    strays :=
      h.strays ++
        match acknowledgement i, held with
        | some ack, none => [ack.1]
        | _, _ => [] }

end Record

/-- The adapter together with what happened at its ports. -/
def recorded (cfg : Cfg) : Machine (State × History cfg) (Input cfg) where
  reset := (reset, History.initial)
  step state i := (step state.1 i, record state.1 i state.2)

/-- The core keeps an operation that waits, asserts at most one of its three requests, and
the data cache answers requests that it took in an earlier cycle, each once and under its
identifier. -/
structure Protocol (state : State × History cfg) (i : Input cfg) : Prop where
  stable : ∀ transaction ∈ state.2.current, i.amoReq = transaction.req
  forwardOne :
    (forwardAmo i = true → forwardStore i = false ∧ forwardFlush state.1 i = false) ∧
      (forwardStore i = true → forwardFlush state.1 i = false)
  answers : ∀ rsp ∈ i.rsp, ∃ req, state.2.accepted[rsp.request]? = some req ∧
    req.needRsp = true ∧ rsp.request ∉ state.2.answered ∧ rsp.tid = req.tid

/-! ## What is claimed of a history -/

/-- The lowest bit of the word that a word operation addresses. -/
def wordBit (cfg : Cfg) (req : AmoReq) : Nat :=
  if cfg.isXlen64 && amoIsWordHi req then 32 else 0

/-- A request carries the operand of a word operation to the addressed word and enables its
bytes, and the result is the addressed word of the response, sign extended. -/
structure WordAccess (req : AmoReq) (request : HpdcacheReq cfg) (rdata : BitVec cfg.xlen)
    (result : BitVec 64) : Prop where
  operand : request.wdata.extractLsb' (wordBit cfg req) 32 = req.operandB.extractLsb' 0 32
  enabled : ∀ byte < cfg.xlen / 8, request.be.getLsbD byte =
    decide (wordBit cfg req / 8 ≤ byte ∧ byte < wordBit cfg req / 8 + 4)
  result : result.setWidth cfg.xlen =
    (rdata.extractLsb' (wordBit cfg req) 32).signExtend cfg.xlen

/-- One request was issued for the operation, and its answer was the one acknowledgement. -/
def Served (transaction : Transaction cfg) : Prop :=
  ∃ number rsp,
    transaction.issued = [(number, hpdcacheReqAmo transaction.req)] ∧
      transaction.acked = [(rsp, amoResult transaction.req rsp.rdata)] ∧
      rsp.request = number ∧
      (amoIsWord transaction.req = true →
        WordAccess transaction.req (hpdcacheReqAmo transaction.req : HpdcacheReq cfg) rsp.rdata
          (amoResult transaction.req rsp.rdata))

/-- At most one request was issued for the operation, which is not acknowledged. -/
def Waits (transaction : Transaction cfg) : Prop :=
  transaction.acked = [] ∧
    (transaction.issued = [] ∨
      ∃ number, transaction.issued = [(number, hpdcacheReqAmo transaction.req)])

structure Conserved (h : History cfg) : Prop where
  completed : ∀ transaction ∈ h.completed, Served transaction
  current : ∀ transaction ∈ h.current, Waits transaction
  strays : h.strays = []

/-- In this cycle an operation that was not issued is offered to the data cache, and the
acknowledgement is the answer to the request of the operation that waits. -/
structure Handshake (i : Input cfg) (s : State) (h : History cfg) : Prop where
  offered : ∀ transaction ∈ held i h, transaction.issued = [] →
    reqValid s i = true ∧ hpdcacheReq i = hpdcacheReqAmo transaction.req
  acknowledged : (amoResp i).ack = true ↔
    ∃ rsp ∈ i.rsp, ∃ transaction ∈ h.current,
      transaction.issued = [(rsp.request, hpdcacheReqAmo transaction.req)]

/-! ## Words -/

theorem operand_word (req : AmoReq) (word : amoIsWord req = true) :
    (amoData req : BitVec cfg.xlen).extractLsb' (wordBit cfg req) 32 =
      req.operandB.extractLsb' 0 32 := by
  apply BitVec.eq_of_getLsbD_eq
  intro k bound
  rw [BitVec.getLsbD_extractLsb', BitVec.getLsbD_extractLsb', amoData, wordBit]
  cases wide : cfg.isXlen64
  · have width : cfg.xlen = 32 := by rw [Lsu.Cfg.xlen, wide]; rfl
    simp [bound, width]
  · have width : cfg.xlen = 64 := by rw [Lsu.Cfg.xlen, wide]; rfl
    simp only [if_true, word, BitVec.getLsbD_setWidth, BitVec.getLsbD_append, width, bound,
      decide_true, Bool.true_and, BitVec.getLsbD_extractLsb', Nat.zero_add]
    cases high : amoIsWordHi req
    · have inside : k < 64 := by omega
      simp [bound, inside]
    · have inside : 32 + k < 64 := by omega
      simp [bound, inside]

theorem enabled_word (req : AmoReq) (word : amoIsWord req = true) (byte : Nat)
    (bound : byte < cfg.xlen / 8) :
    (amoDataBe req : BitVec (cfg.xlen / 8)).getLsbD byte =
      decide (wordBit cfg req / 8 ≤ byte ∧ byte < wordBit cfg req / 8 + 4) := by
  rw [amoDataBe, wordBit]
  cases wide : cfg.isXlen64
  · have width : cfg.xlen = 32 := by rw [Lsu.Cfg.xlen, wide]; rfl
    rw [width] at bound ⊢
    revert byte
    simp only [Bool.false_and, Bool.false_eq_true, if_false]
    decide
  · have width : cfg.xlen = 64 := by rw [Lsu.Cfg.xlen, wide]; rfl
    rw [width] at bound ⊢
    revert byte
    cases high : amoIsWordHi req
    · simp only [word, Bool.and_false, Bool.false_eq_true, if_false, if_true]
      decide
    · simp only [Bool.and_true, if_true]
      decide

theorem result_word (req : AmoReq) (word : amoIsWord req = true) (rdata : BitVec cfg.xlen) :
    (amoResult req rdata).setWidth cfg.xlen =
      (rdata.extractLsb' (wordBit cfg req) 32).signExtend cfg.xlen := by
  have respWord : amoRespWord req rdata = rdata.extractLsb' (wordBit cfg req) 32 := by
    rw [amoRespWord, wordBit]
    split <;> rfl
  have width : cfg.xlen ≤ 64 := by
    rw [Lsu.Cfg.xlen]
    split <;> decide
  rw [amoResult, if_pos word, respWord]
  apply BitVec.eq_of_getLsbD_eq
  intro k bound
  have inside : k < 64 := by omega
  simp only [BitVec.getLsbD_setWidth, BitVec.getLsbD_signExtend, bound, inside, decide_true,
    Bool.true_and]

theorem wordAccess (req : AmoReq) (word : amoIsWord req = true) (rdata : BitVec cfg.xlen) :
    WordAccess req (hpdcacheReqAmo req : HpdcacheReq cfg) rdata (amoResult req rdata) where
  operand := operand_word req word
  enabled := enabled_word req word
  result := result_word req word rdata

/-! ## The cases of a cycle -/

section Cycle

variable {s : State} {i : Input cfg} {h : History cfg}

/-- The identifier of the atomic operations is not the one of the other requests. -/
theorem zero_ne_allOnes (cfg : Cfg) :
    (0 : BitVec cfg.dcacheIdWidth) ≠ BitVec.allOnes cfg.dcacheIdWidth := by
  intro equal
  have bit := congrArg (fun tid => tid.getLsbD 0) equal
  simp [cfg.dcacheIdWidth_pos] at bit

theorem hpdcacheReq_of_amo (amo : i.amoReq.req = true) :
    hpdcacheReq i = hpdcacheReqAmo i.amoReq := by
  rw [hpdcacheReq, forwardAmo, if_pos amo]

theorem tid_of_not_amo (other : i.amoReq.req = false) : (hpdcacheReq i).tid = 0 := by
  rw [hpdcacheReq, forwardAmo, if_neg (by simp [other])]
  split <;> rfl

theorem acknowledgement_eq_some {ack : HpdcacheRsp cfg × BitVec 64} :
    acknowledgement i = some ack ↔
      i.rsp = some ack.1 ∧ ack.1.tid = BitVec.allOnes _ ∧
        ack.2 = amoResult i.amoReq ack.1.rdata := by
  rcases ack with ⟨rsp, result⟩
  rw [acknowledgement, amoResp]
  cases i.rsp with
  | none => simp
  | some answer =>
    simp only [decide_eq_true_eq, Option.ite_none_right_eq_some, Option.some.injEq,
      Prod.mk.injEq]
    constructor
    · rintro ⟨own, rfl, rfl⟩
      exact ⟨rfl, own, rfl⟩
    · rintro ⟨rfl, own, rfl⟩
      exact ⟨own, rfl, rfl⟩

theorem acknowledgement_eq_none_iff : acknowledgement i = none ↔ (amoResp i).ack = false := by
  rw [acknowledgement, amoResp]
  cases i.rsp <;> simp

end Cycle

/-! ## The invariant -/

/-- The flag says whether the operation that waits was issued, and the data cache owes no
other answer under the identifier of the atomic operations. -/
structure Follows (s : State) (h : History cfg) : Prop where
  completed : ∀ transaction ∈ h.completed, Served transaction
  strays : h.strays = []
  current : ∀ transaction ∈ h.current, transaction.acked = [] ∧ transaction.req.req = true
  issued : s.amoPendingQ = true → ∃ transaction number, h.current = some transaction ∧
    transaction.issued = [(number, hpdcacheReqAmo transaction.req)] ∧
      h.accepted[number]? = some (hpdcacheReqAmo transaction.req)
  unissued : s.amoPendingQ = false → ∀ transaction ∈ h.current, transaction.issued = []
  awaited : ∀ number req, h.accepted[number]? = some req → number ∉ h.answered →
    req.tid = BitVec.allOnes _ →
      s.amoPendingQ = true ∧
        ∀ transaction ∈ h.current, transaction.issued = [(number, req)]

namespace Follows

variable {s : State} {i : Input cfg} {h : History cfg}

/-- While the operation waits for its answer, the adapter requests nothing. -/
theorem accepts_of_pending (protocol : Protocol (s, h) i) (amo : i.amoReq.req = true)
    (pending : s.amoPendingQ = true) : accepts s i = false := by
  rcases protocol.forwardOne.1 amo with ⟨noStore, noFlush⟩
  simp [accepts, reqValid, pending, noStore, noFlush]

theorem issued_of_ack (follows : Follows s h) (protocol : Protocol (s, h) i)
    {rsp : HpdcacheRsp cfg} (answer : i.rsp = some rsp) (own : rsp.tid = BitVec.allOnes _) :
    s.amoPendingQ = true ∧ ∃ transaction, h.current = some transaction ∧
      transaction.issued = [(rsp.request, hpdcacheReqAmo transaction.req)] := by
  rcases protocol.answers rsp answer with ⟨req, accepted, _, owed, tid⟩
  rcases follows.awaited rsp.request req accepted owed (tid ▸ own) with ⟨pending, only⟩
  rcases follows.issued pending with ⟨transaction, number, current, issued, _⟩
  refine ⟨pending, transaction, current, ?_⟩
  have equal := (only transaction current).symm.trans issued
  simp only [List.cons.injEq, Prod.mk.injEq, and_true] at equal
  rw [issued, equal.1]

theorem step_waiting (follows : Follows s h) (protocol : Protocol (s, h) i)
    (pending : s.amoPendingQ = true) (noAck : acknowledgement i = none) :
    Follows (step s i) (record s i h) := by
  rcases follows.issued pending with ⟨transaction, number, current, issued, taken⟩
  have amo : i.amoReq.req = true := by
    rw [protocol.stable transaction current]
    exact (follows.current transaction current).2
  have idle := accepts_of_pending protocol amo pending
  have holds : held i h = some transaction := by rw [held, current]
  have stays : (step s i).amoPendingQ = true := by
    simp [step, pending, acknowledgement_eq_none_iff.mp noAck]
  have same : (record s i h).current = some transaction := by
    simp [record, noAck, holds, issue, idle]
  exact
    { completed := by simpa [record, noAck] using follows.completed
      strays := by simpa [record, noAck] using follows.strays
      current := by
        rw [same, ← current]
        exact follows.current
      issued := fun _ =>
        ⟨transaction, number, same, issued, by simpa [record, idle] using taken⟩
      unissued := fun free => absurd stays (by simp [free])
      awaited := by
        intro other req accepted owed tid
        simp only [record, idle, Bool.false_eq_true, if_false, List.append_nil] at accepted
        have owedBefore : other ∉ h.answered := by
          intro member
          exact owed (by simp [record, member])
        refine ⟨stays, ?_⟩
        rw [same, ← current]
        exact (follows.awaited other req accepted owedBefore tid).2 }

/-- The operation waits, and its answer acknowledges it. -/
theorem step_acknowledged (follows : Follows s h) (protocol : Protocol (s, h) i)
    {ack : HpdcacheRsp cfg × BitVec 64} (acks : acknowledgement i = some ack) :
    Follows (step s i) (record s i h) := by
  rcases acknowledgement_eq_some.mp acks with ⟨answer, own, result⟩
  rcases follows.issued_of_ack protocol answer own with ⟨pending, transaction, current, issued⟩
  have kept := protocol.stable transaction current
  rcases follows.current transaction current with ⟨unacked, asserted⟩
  have idle := accepts_of_pending protocol (kept ▸ asserted) pending
  have holds : held i h = some transaction := by rw [held, current]
  have clears : (step s i).amoPendingQ = false := by
    have asserts : (amoResp i).ack = true := by
      by_contra noAck
      have none := acknowledgement_eq_none_iff.mpr (by simpa using noAck)
      rw [none] at acks
      cases acks
    simp [step, pending, asserts]
  have gone : (record s i h).current = none := by simp [record, acks]
  have served : Served { transaction with acked := transaction.acked ++ [ack] } := by
    refine ⟨ack.1.request, ack.1, issued, ?_, rfl, fun word => wordAccess _ word _⟩
    rw [unacked, List.nil_append, ← kept, ← result]
  exact
    { completed := by
        intro other member
        simp only [record, acks, holds, Option.map_some, issue, idle, Bool.false_and,
          Bool.false_eq_true, if_false, List.mem_append, List.mem_singleton] at member
        rcases member with before | rfl
        · exact follows.completed other before
        · exact served
      strays := by simpa [record, acks, holds] using follows.strays
      current := by simp [gone]
      issued := fun busy => absurd clears (by simp [busy])
      unissued := by simp [gone]
      awaited := by
        intro other req accepted owed tid
        simp only [record, idle, Bool.false_eq_true, if_false, List.append_nil, answer,
          List.mem_append, not_or] at accepted owed
        have only := (follows.awaited other req accepted owed.1 tid).2 transaction current
        rw [issued] at only
        simp only [List.cons.injEq, Prod.mk.injEq, and_true] at only
        exact absurd only.1.symm (by simpa using owed.2) }

/-- Without an issued operation the core holds one that is not issued, or none. -/
theorem held_of_free (follows : Follows s h) (protocol : Protocol (s, h) i)
    (free : s.amoPendingQ = false) :
    held i h =
      if i.amoReq.req then some { req := i.amoReq, issued := [], acked := [] } else none := by
  rw [held]
  cases current : h.current with
  | none => rfl
  | some transaction =>
    have kept := protocol.stable transaction current
    have unissued := follows.unissued free transaction current
    rcases follows.current transaction current with ⟨unacked, asserted⟩
    rw [kept, if_pos asserted, ← unissued]
    conv_rhs => rw [← unacked, unissued]
    rw [← unissued]

/-- No answer to an atomic operation is owed, and none comes. -/
theorem noAck_of_free (follows : Follows s h) (protocol : Protocol (s, h) i)
    (free : s.amoPendingQ = false) : acknowledgement i = none := by
  rw [Option.eq_none_iff_forall_ne_some]
  intro ack acks
  rcases acknowledgement_eq_some.mp acks with ⟨answer, own, _⟩
  have pending := (follows.issued_of_ack protocol answer own).1
  simp [free] at pending

theorem taken_of_awaited (follows : Follows s h) (free : s.amoPendingQ = false) {number : Nat}
    {req : HpdcacheReq cfg} (accepted : (record s i h).accepted[number]? = some req)
    (owed : number ∉ (record s i h).answered) (tid : req.tid = BitVec.allOnes _) :
    number = h.accepted.length ∧ req = hpdcacheReq i ∧ accepts s i = true := by
  simp only [record, List.mem_append, not_or] at accepted owed
  rcases Nat.lt_or_ge number h.accepted.length with before | late
  · rw [List.getElem?_append_left before] at accepted
    have pending := (follows.awaited number req accepted owed.1 tid).1
    simp [free] at pending
  · rw [List.getElem?_append_right late] at accepted
    cases taken : accepts s i <;> simp only [taken] at accepted
    · simp at accepted
    · simp only [if_true, List.getElem?_singleton, Option.ite_none_right_eq_some,
        Option.some.injEq] at accepted
      exact ⟨by omega, accepted.2.symm, rfl⟩

/-- No operation waits for an answer, and the core may raise or hold one. -/
theorem step_free (follows : Follows s h) (protocol : Protocol (s, h) i)
    (free : s.amoPendingQ = false) : Follows (step s i) (record s i h) := by
  have noAck := noAck_of_free follows protocol free
  have holds := held_of_free follows protocol free
  have next : (step s i).amoPendingQ = (i.amoReq.req && i.reqReady) := by simp [step, free]
  have completed : ∀ transaction ∈ (record s i h).completed, Served transaction := by
    simpa [record, noAck] using follows.completed
  have strays : (record s i h).strays = [] := by simpa [record, noAck] using follows.strays
  cases amo : i.amoReq.req
  · have gone : (record s i h).current = none := by simp [record, noAck, holds, amo]
    exact
      { completed := completed
        strays := strays
        current := by simp [gone]
        issued := fun busy => absurd next (by simp [busy, amo])
        unissued := by simp [gone]
        awaited := by
          intro number req accepted owed tid
          rcases taken_of_awaited follows free accepted owed tid with ⟨_, equal, _⟩
          rw [equal, tid_of_not_amo amo] at tid
          exact absurd tid (zero_ne_allOnes cfg) }
  · have takes : accepts s i = i.reqReady := by simp [accepts, reqValid, forwardAmo, amo, free]
    have now : (record s i h).current =
        some { req := i.amoReq
               issued :=
                if i.reqReady then [(h.accepted.length, hpdcacheReqAmo i.amoReq)] else []
               acked := [] } := by
      cases ready : i.reqReady
        <;> simp [record, noAck, holds, amo, issue, takes, ready, forwardAmo,
          hpdcacheReq_of_amo amo]
    exact
      { completed := completed
        strays := strays
        current := by simp [now, amo]
        issued := by
          intro busy
          have ready : i.reqReady = true := by simpa [next, amo] using busy
          exact ⟨_, h.accepted.length, now, by simp [ready],
            by simp [record, takes, ready, hpdcacheReq_of_amo amo]⟩
        unissued := by
          intro idle
          have notReady : i.reqReady = false := by simpa [next, amo] using idle
          simp [now, notReady]
        awaited := by
          intro number req accepted owed tid
          rcases taken_of_awaited follows free accepted owed tid with ⟨position, equal, taken⟩
          rw [takes] at taken
          simp [next, amo, taken, now, position, equal, hpdcacheReq_of_amo amo] }

theorem step (follows : Follows s h) (protocol : Protocol (s, h) i) :
    Follows (IfAdapter.step s i) (record s i h) := by
  cases pending : s.amoPendingQ
  · exact follows.step_free protocol pending
  · cases acks : acknowledgement i with
    | none => exact follows.step_waiting protocol pending acks
    | some ack => exact follows.step_acknowledged protocol acks

theorem conserved (follows : Follows s h) : Conserved h where
  completed := follows.completed
  current := by
    intro transaction current
    refine ⟨(follows.current transaction current).1, ?_⟩
    cases pending : s.amoPendingQ
    · exact Or.inl (follows.unissued pending transaction current)
    · rcases follows.issued pending with ⟨other, number, equal, issued, _⟩
      obtain rfl : other = transaction := Option.some.inj (equal.symm.trans current)
      exact Or.inr ⟨number, issued⟩
  strays := follows.strays

theorem handshake (follows : Follows s h) (protocol : Protocol (s, h) i) : Handshake i s h where
  offered := by
    intro transaction holds unissued
    cases pending : s.amoPendingQ
    · rw [held_of_free follows protocol pending] at holds
      simp only [Option.mem_def, Option.ite_none_right_eq_some, Option.some.injEq] at holds
      rcases holds with ⟨amo, rfl⟩
      exact ⟨by simp [reqValid, forwardAmo, amo, pending], hpdcacheReq_of_amo amo⟩
    · rcases follows.issued pending with ⟨other, number, current, issued, _⟩
      obtain rfl : other = transaction := by simpa [held, current] using holds
      simp [issued] at unissued
  acknowledged := by
    constructor
    · intro acks
      cases answer : i.rsp with
      | none => simp [amoResp, answer] at acks
      | some rsp =>
        have own : rsp.tid = BitVec.allOnes _ := by simpa [amoResp, answer] using acks
        rcases (follows.issued_of_ack protocol answer own).2 with ⟨transaction, current, issued⟩
        exact ⟨rsp, rfl, transaction, current, issued⟩
    · rintro ⟨rsp, answer, transaction, current, issued⟩
      rcases protocol.answers rsp answer with ⟨req, accepted, _, _, tid⟩
      have pending : s.amoPendingQ = true := by
        by_contra idle
        have unissued := follows.unissued (by simpa using idle) transaction current
        simp [issued] at unissued
      rcases follows.issued pending with ⟨other, number, same, only, taken⟩
      obtain rfl : other = transaction := Option.some.inj (same.symm.trans current)
      rw [issued] at only
      simp only [List.cons.injEq, Prod.mk.injEq, and_true] at only
      rw [only, taken, Option.some.injEq] at accepted
      have rspEq : i.rsp = some rsp := answer
      simp [amoResp, rspEq, tid, ← accepted, hpdcacheReqAmo]

end Follows

theorem follows_reset : Follows reset (History.initial : History cfg) where
  completed := by simp [History.initial]
  strays := rfl
  current := by simp [History.initial]
  issued busy := by cases busy
  unissued := by simp [History.initial]
  awaited := by simp [History.initial]

/-- In every run in which the core keeps an operation until its acknowledgement and the data
cache answers each request once, every operation of the core is issued once and acknowledged
by its own answer, an operation that is not issued is offered in every cycle, and only the
answer to an operation acknowledges one. -/
theorem amo_handshake {inputs : List (Input cfg)} {i : Input cfg}
    (along : (recorded cfg).RunAlong Protocol (inputs ++ [i])) :
    Conserved ((recorded cfg).run (inputs ++ [i])).2 ∧
      Handshake i ((recorded cfg).run inputs).1 ((recorded cfg).run inputs).2 := by
  rw [Machine.runAlong_concat] at along
  rcases along with ⟨along, protocol⟩
  have follows := (recorded cfg).run_invariant_along
    (fun state => Follows state.1 state.2) follows_reset
    (fun _ _ follows protocol => follows.step protocol) along
  refine ⟨?_, follows.handshake protocol⟩
  rw [Machine.run_concat]
  exact (follows.step protocol).conserved

/-! ## A run -/

instance decidableProtocol (state : State × History cfg) (i : Input cfg) :
    Decidable (Protocol state i) :=
  decidable_of_iff
    ((∀ transaction ∈ state.2.current, i.amoReq = transaction.req) ∧
      ((forwardAmo i = true → forwardStore i = false ∧ forwardFlush state.1 i = false) ∧
        (forwardStore i = true → forwardFlush state.1 i = false)) ∧
      ∀ rsp ∈ i.rsp, ∃ req ∈ state.2.accepted[rsp.request]?,
        req.needRsp = true ∧ rsp.request ∉ state.2.answered ∧ rsp.tid = req.tid)
    ⟨fun holds => ⟨holds.1, holds.2.1, holds.2.2⟩,
      fun protocol => ⟨protocol.stable, protocol.forwardOne, protocol.answers⟩⟩

def Cfg.sample : Cfg where
  toCfg := Lsu.Cfg.sample
  sid := 3
  invalidateOnFlush := false
  cacheable _ := true
  dcacheIdWidth_pos := by decide

def Input.idle : Input Cfg.sample where
  req :=
    { addressIndex := 0, addressTag := 0, dataWdata := 0, dataReq := false, dataWe := false
      dataBe := 0, dataSize := 0, dataId := 0, killReq := false, tagValid := false
      cboOp := .cboNone }
  amoReq := { req := false, amoOp := .none, size := 0, operandA := 0, operandB := 0 }
  dcacheFlush := false
  reqReady := true
  rsp := none

/-- The core adds 5 to the word at the address. -/
def Input.addWord (i : Input Cfg.sample) (address : Nat) : Input Cfg.sample :=
  { i with
    amoReq :=
      { req := true, amoOp := .add, size := 2, operandA := BitVec.ofNat 64 address
        operandB := 5 } }

/-- The data cache answers a request with the identifier of the atomic operations. -/
def Input.answer (i : Input Cfg.sample) (request data : Nat) : Input Cfg.sample :=
  { i with
    rsp := some
      { rdata := BitVec.ofNat _ data, tid := BitVec.allOnes _, request := request } }

/-- Two operations, the second one raised in the cycle after the acknowledgement; the first
one waits for the data cache to take it. -/
def twoOperations : List (Input Cfg.sample) :=
  [{ Input.idle.addWord 68 with reqReady := false }, Input.idle.addWord 68,
    Input.idle.addWord 68, (Input.idle.addWord 68).answer 0 0xffff_fff0_0000_0000,
    Input.idle.addWord 64, Input.idle.addWord 64]

theorem amo_handshake_twoOperations :
    let last := (Input.idle.addWord 64).answer 1 7
    Conserved ((recorded Cfg.sample).run (twoOperations ++ [last])).2 ∧
      Handshake last ((recorded Cfg.sample).run twoOperations).1
        ((recorded Cfg.sample).run twoOperations).2 :=
  amo_handshake (by decide +kernel)

example : ((recorded Cfg.sample).run
      (twoOperations ++ [(Input.idle.addWord 64).answer 1 7])).2.completed.map
      (fun transaction => transaction.acked.map (·.2.toInt)) = [[-16], [7]] := by
  decide +kernel

end Cva6Hpd.IfAdapter
