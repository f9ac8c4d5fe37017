import Cva6Hpd.Lsu.Control
import Cva6Hpd.Lsu.StoreOrder

/-!
# Loads stay behind the older stores

A history of the load and store unit numbers the requests in the order in which they
arrive, and tells which of them the bypass queue holds. When the load unit confirms the tag
of a load, no older store is left that writes one of its bytes and is not granted: in every
run without a flush in the cycle of a commit, as long as no store faults right after it was
taken, which takes the wrong request out of the bypass queue.
-/

namespace Cva6Hpd.Lsu

open Cva6Hpd.Common
open Cva6Hpd.Hw

variable {cfg : Cfg}

/-! ## Bytes of an access -/

theorem pageDword_setWidth {width : Nat} (address : BitVec width) :
    pageDword (address.setWidth 12) = pageDword address := by
  apply BitVec.eq_of_getLsbD_eq
  intro bit inside
  simp only [pageDword, BitVec.getLsbD_extractLsb', BitVec.getLsbD_setWidth]
  have low : 3 + bit < 12 := by omega
  simp [low]

/-- The bytes of memory that a request with these byte enables reads or writes. -/
def Accesses (address : BitVec cfg.plen) (be : BitVec (cfg.xlen / 8)) (byte : Nat) : Prop :=
  byte / (cfg.xlen / 8) = address.toNat / (cfg.xlen / 8) ∧
    be.getLsbD (byte % (cfg.xlen / 8)) = true

theorem pageDword_eq_of_accesses {first second : BitVec cfg.plen}
    {firstBe secondBe : BitVec (cfg.xlen / 8)} {byte : Nat}
    (one : Accesses first firstBe byte) (other : Accesses second secondBe byte) :
    pageDword first = pageDword second := by
  have words : first.toNat / (cfg.xlen / 8) = second.toNat / (cfg.xlen / 8) :=
    one.1.symm.trans other.1
  have dwords : first.toNat / 8 = second.toNat / 8 := by
    unfold Cfg.xlen at words
    split at words <;> omega
  apply BitVec.eq_of_toNat_eq
  simp only [pageDword, BitVec.extractLsb'_toNat, Nat.shiftRight_eq_div_pow]
  rw [show 2 ^ 3 = 8 from rfl, dwords]

namespace LoadStoreUnit

/-! ## Histories -/

structure History (cfg : Cfg) where
  /-- What happened to the store buffer. -/
  buffer : StoreBuffer.History cfg
  /-- `lsu_ready_o` in the last cycle. -/
  ready : Bool
  /-- The address that was presented for translation in the last cycle. -/
  mmuVaddr : BitVec cfg.vlen
  /-- A store has faulted after it was taken, and there was no flush since. -/
  faulted : Bool
  /-- The number of the next request. -/
  accepted : Nat
  /-- The requests of the bypass queue with their numbers, oldest first. -/
  requests : List (Nat × LsuCtrl cfg)
  /-- The number and the byte enables of the load that was taken last. -/
  tagged : Nat
  taggedBe : BitVec (cfg.xlen / 8)

def History.initial : History cfg where
  buffer := .initial
  ready := true
  mmuVaddr := 0
  faulted := false
  accepted := 1
  requests := []
  tagged := 0
  taggedBe := 0

section Record

variable (s : State cfg) (i : Input cfg) (h : History cfg)

/-- The store that was taken in the last cycle faults. -/
def faults : Bool := decide (s.storeUnit.stateQ = .validStore) && i.ex.valid

/-- The requests with the one that arrives. -/
def present : List (Nat × LsuCtrl cfg) :=
  h.requests ++
    (if i.lsuReq.valid then [(h.accepted, LsuBypass.resolved (bypassInput s i))] else [])

def record : History cfg where
  buffer := StoreBuffer.record s.storeUnit.storeBuffer (bufferInput s i) h.buffer
  ready := lsuReady s
  mmuVaddr := mmuVaddr s i
  faulted := !i.flush && (h.faulted || faults s i)
  accepted := if i.lsuReq.valid then h.accepted + 1 else h.accepted
  requests :=
    if i.flush then []
    else if popLd s i || popSt s i then (present s i h).tail
    else present s i h
  tagged :=
    if popLd s i then ((present s i h).head?.map Prod.fst).getD h.tagged else h.tagged
  taggedBe := if popLd s i then (lsuCtrl s i).be else h.taggedBe

end Record

def recorded (cfg : Cfg) : Machine (State cfg × History cfg) (Input cfg) :=
  (machine cfg).withHistory History.initial record

/-- The neighbours of the unit: a request arrives in the cycle after one in which the unit
was ready; a store commits after it was inserted, when the commit queue is ready; and the
translation keeps the page offset of the address that was presented one cycle ago. -/
structure Environment (state : State cfg × History cfg) (i : Input cfg) : Prop where
  arrive : i.lsuReq.valid = true → state.2.ready = true
  commit : i.commit = true → state.2.buffer.uncommitted ≠ [] ∧
    StoreBuffer.commitReady state.1.storeUnit.storeBuffer = true
  translate : i.paddr.setWidth 12 = state.2.mmuVaddr.setWidth 12

/-- The stores that were inserted and that the data cache has not granted. -/
def outstanding (h : History cfg) : List (StoreBuffer.Store cfg) :=
  h.buffer.committed.drop h.buffer.written.length ++ h.buffer.uncommitted

/-! ## The invariant -/

/-- The numbers grow with the arrival of the requests. -/
def Numbered (h : History cfg) : Prop :=
  (h.tagged :: (h.requests.map Prod.fst ++ [h.accepted])).Pairwise (· < ·)

open LsuBypass (queue arrived taken)
open StoreBuffer (held)

/-- What the registers of the units tell about the request at the head. -/
structure Heads (s : State cfg) (h : History cfg) : Prop where
  formed : (queue s.bypass).Formed LsuCtrl.valid
  contents : (queue s.bypass).contents = h.requests.map Prod.snd
  ready : h.ready = true → (queue s.bypass).count < 2
  storeWaits : s.storeUnit.stateQ.holds = true →
    0 < (queue s.bypass).count ∧ (queue s.bypass).oldest.fu = .store
  loadWaits : s.loadUnit.stateQ.holds = true →
    0 < (queue s.bypass).count ∧ (queue s.bypass).oldest.fu = .load
  exclusive : s.loadUnit.stateQ ≠ .idle → s.storeUnit.stateQ = .idle
  checked : s.loadUnit.stateQ.checked = true → ∀ store ∈ held s.storeUnit.storeBuffer,
    pageDword (queue s.bypass).oldest.vaddr ≠ pageDword store.address
  tag : s.loadUnit.stateQ = .sendTag → ∀ store ∈ held s.storeUnit.storeBuffer,
    pageDword h.mmuVaddr ≠ pageDword store.address

structure Invariant (s : State cfg) (h : History cfg) : Prop where
  buffer : StoreBuffer.Follows s.storeUnit.storeBuffer h.buffer
  inserted : s.storeUnit.stateQ = .validStore → h.buffer.ready = true
  numbered : Numbered h
  heads : h.faulted = false → Heads s h

theorem numbered_record {h : History cfg} (numbered : Numbered h) (s : State cfg)
    (i : Input cfg) : Numbered (record s i h) := by
  have extended : (h.tagged :: ((present s i h).map Prod.fst ++
      [if i.lsuReq.valid then h.accepted + 1 else h.accepted])).Pairwise (· < ·) := by
    unfold Numbered at numbered
    unfold present
    cases i.lsuReq.valid with
    | false => simpa using numbered
    | true =>
        simp only [if_true, List.map_append, List.map_cons, List.map_nil]
        rw [← List.cons_append, List.pairwise_append]
        refine ⟨numbered, List.pairwise_singleton _ _, ?_⟩
        intro number member last final
        rw [List.mem_singleton.mp final]
        rw [← List.cons_append, List.pairwise_append] at numbered
        rcases List.mem_cons.mp member with rfl | inside
        · exact (numbered.2.2 _ (List.mem_cons_self ..) _ (List.mem_singleton_self _)).trans
            (Nat.lt_succ_self _)
        · rcases List.mem_append.mp inside with old | new
          · exact (numbered.2.2 _ (List.mem_cons_of_mem _ old) _
              (List.mem_singleton_self _)).trans (Nat.lt_succ_self _)
          · rw [List.mem_singleton.mp new]
            exact Nat.lt_succ_self _
  unfold Numbered record
  rcases all : present s i h with _ | ⟨first, rest⟩
  · simp only [all, List.map_nil, List.nil_append] at extended
    cases popLd s i <;> cases popSt s i <;> cases i.flush <;> simpa using extended
  · simp only [all, List.map_cons, List.cons_append] at extended
    refine extended.sublist ?_
    cases popLd s i <;> cases popSt s i <;> cases i.flush <;> simp

/-! ## The request at the head -/

section Head

variable {s : State cfg} {i : Input cfg} {h : History cfg}

/-- The bypass queue with the request that arrives. -/
abbrev waitingRequests (s : State cfg) (i : Input cfg) : RingQueue 2 (LsuCtrl cfg) :=
  arrived s.bypass (bypassInput s i)

namespace Heads

theorem room (heads : Heads s h) (env : Environment (s, h) i) :
    (bypassInput s i).lsuReqValid = true → s.bypass.statusCntQ.toNat < 2 :=
  fun arrives => heads.ready (env.arrive arrives)

theorem arrived_of_filled (heads : Heads s h) (env : Environment (s, h) i)
    (filled : 0 < (queue s.bypass).count) :
    0 < (waitingRequests s i).count ∧
      (waitingRequests s i).oldest = (queue s.bypass).oldest := by
  unfold waitingRequests arrived
  split
  case isTrue arrives =>
    exact ⟨Nat.succ_pos _,
      RingQueue.oldest_push heads.formed filled (heads.room env arrives) _⟩
  case isFalse => exact ⟨filled, rfl⟩

theorem oldest_of_valid (heads : Heads s h) (env : Environment (s, h) i)
    (isValid : (lsuCtrl s i).valid = true) :
    0 < (waitingRequests s i).count ∧
      (lsuCtrl s i).fu = (waitingRequests s i).oldest.fu ∧
      (lsuCtrl s i).vaddr = (waitingRequests s i).oldest.vaddr := by
  have filled : 0 < (waitingRequests s i).count := by
    cases none : LsuBypass.empty s.bypass with
    | true =>
        have arrives : i.lsuReq.valid = true := by
          simpa [lsuCtrl, LsuBypass.lsuCtrl, none] using isValid
        simp [waitingRequests, arrived, bypassInput, arrives, RingQueue.push]
    | false =>
        have some_ : s.bypass.statusCntQ ≠ 0 := by simpa [LsuBypass.empty] using none
        have positive : 0 < (queue s.bypass).count := by
          simp only [queue]
          bv_omega
        exact (heads.arrived_of_filled env positive).1
  exact ⟨filled, LsuBypass.lsuCtrl_eq heads.formed (heads.room env) filled⟩

theorem load_oldest (heads : Heads s h) (env : Environment (s, h) i)
    (works : (loadInput s i).valid = true ∨ s.loadUnit.stateQ.holds = true) :
    0 < (waitingRequests s i).count ∧ (waitingRequests s i).oldest.fu = .load := by
  rcases works with isValid | holds
  · change (decide ((lsuCtrl s i).fu = .load) && (lsuCtrl s i).valid) = true at isValid
    rw [Bool.and_eq_true, decide_eq_true_eq] at isValid
    have oldest := heads.oldest_of_valid env isValid.2
    exact ⟨oldest.1, oldest.2.1.symm.trans isValid.1⟩
  · have waits := heads.loadWaits holds
    have oldest := heads.arrived_of_filled env waits.1
    exact ⟨oldest.1, oldest.2.symm ▸ waits.2⟩

theorem store_oldest (heads : Heads s h) (env : Environment (s, h) i)
    (works : (storeInput s i).valid = true ∨ s.storeUnit.stateQ.holds = true) :
    0 < (waitingRequests s i).count ∧ (waitingRequests s i).oldest.fu = .store := by
  rcases works with isValid | holds
  · change (decide ((lsuCtrl s i).fu = .store) && (lsuCtrl s i).valid) = true at isValid
    rw [Bool.and_eq_true, decide_eq_true_eq] at isValid
    have oldest := heads.oldest_of_valid env isValid.2
    exact ⟨oldest.1, oldest.2.1.symm.trans isValid.1⟩
  · have waits := heads.storeWaits holds
    have oldest := heads.arrived_of_filled env waits.1
    exact ⟨oldest.1, oldest.2.symm ▸ waits.2⟩

/-- The head of the queue is presented for translation. -/
theorem mmuVaddr_eq (heads : Heads s h) (env : Environment (s, h) i)
    (filled : 0 < (waitingRequests s i).count)
    (fu : (waitingRequests s i).oldest.fu = .load) :
    mmuVaddr s i = (waitingRequests s i).oldest.vaddr := by
  have oldest := LsuBypass.lsuCtrl_eq heads.formed (heads.room env) filled
  have isLoad : (lsuCtrl s i).fu = .load := oldest.1.trans fu
  unfold mmuVaddr
  rw [isLoad]
  exact oldest.2

/-- The units do not take a request in the same cycle. -/
theorem single (heads : Heads s h) (env : Environment (s, h) i)
    (sound : faults s i = false) : ¬(popLd s i = true ∧ popSt s i = true) := by
  rintro ⟨load, store⟩
  have healthy : ¬(s.storeUnit.stateQ = .validStore ∧ (storeInput s i).ex.valid = true) := by
    simpa [faults, storeInput] using sound
  have one := heads.load_oldest env (LoadUnit.valid_of_popLd load)
  have other := heads.store_oldest env (StoreUnit.valid_of_popSt store healthy)
  rw [one.2] at other
  cases other.2

theorem filled_of_pop (heads : Heads s h) (env : Environment (s, h) i)
    (sound : faults s i = false) (pop : popLd s i = true ∨ popSt s i = true) :
    0 < (waitingRequests s i).count := by
  have healthy : ¬(s.storeUnit.stateQ = .validStore ∧ (storeInput s i).ex.valid = true) := by
    simpa [faults, storeInput] using sound
  rcases pop with load | store
  · exact (heads.load_oldest env (LoadUnit.valid_of_popLd load)).1
  · exact (heads.store_oldest env (StoreUnit.valid_of_popSt store healthy)).1

theorem queue_step (heads : Heads s h) (env : Environment (s, h) i)
    (sound : faults s i = false) (kept : i.flush = false) :
    queue (step s i).bypass =
      if popLd s i || popSt s i then (waitingRequests s i).pop taken
      else waitingRequests s i :=
  LsuBypass.queue_step kept (heads.single env sound) (heads.room env) heads.formed.count_le
    (heads.filled_of_pop env sound)

theorem formed_arrived (heads : Heads s h) (env : Environment (s, h) i) :
    (waitingRequests s i).Formed LsuCtrl.valid := by
  unfold waitingRequests arrived
  split
  case isTrue arrives =>
    exact heads.formed.push (heads.room env arrives)
      (LsuBypass.resolved_valid.trans arrives)
  case isFalse => exact heads.formed

theorem contents_arrived (heads : Heads s h) (env : Environment (s, h) i) :
    (waitingRequests s i).contents = (present s i h).map Prod.snd := by
  rw [present, List.map_append, ← heads.contents]
  cases arrives : i.lsuReq.valid with
  | true =>
      have pushed := RingQueue.contents_push heads.formed (heads.room env arrives)
        (LsuBypass.resolved (bypassInput s i))
      simpa [waitingRequests, arrived, bypassInput, arrives] using pushed
  | false => simp [waitingRequests, arrived, bypassInput, arrives]

end Heads

end Head

/-! ## One cycle -/

section Step

variable {s : State cfg} {i : Input cfg} {h : History cfg}

namespace Invariant

theorem bufferProtocol (invariant : Invariant s h) (env : Environment (s, h) i) :
    StoreBuffer.Protocol (s.storeUnit.storeBuffer, h.buffer) (bufferInput s i) where
  insert inserts := by
    apply invariant.inserted
    change StoreUnit.storeBufferValid s.storeUnit (storeInput s i) = true at inserts
    simp only [StoreUnit.storeBufferValid, StoreUnit.stValid, Bool.and_eq_true,
      decide_eq_true_eq] at inserts
    exact inserts.1.1.1
  commit := env.commit

theorem inserted_step (s : State cfg) (i : Input cfg) (h : History cfg)
    (next : (step s i).storeUnit.stateQ = .validStore) : (record s i h).buffer.ready = true := by
  have isReady := (StoreUnit.validStore_of_stateD next).2.2
  simp only [StoreUnit.stReady, Bool.and_eq_true] at isReady
  exact isReady.1

end Invariant

namespace Heads

theorem ready_step (heads : Heads s h) (env : Environment (s, h) i)
    (sound : faults s i = false) (kept : i.flush = false)
    (wasReady : (record s i h).ready = true) : (queue (step s i).bypass).count < 2 := by
  have empty : (queue s.bypass).count = 0 := by
    change decide (s.bypass.statusCntQ = 0) = true at wasReady
    simp [queue, of_decide_eq_true wasReady]
  have bound : (waitingRequests s i).count < 2 := by
    unfold waitingRequests arrived
    split
    · simp [RingQueue.push, empty]
    · omega
  rw [heads.queue_step env sound kept]
  split
  · exact (Nat.sub_le _ _).trans_lt bound
  · exact bound

theorem storeWaits_step (heads : Heads s h) (env : Environment (s, h) i)
    (sound : faults s i = false)
    (next : (step s i).storeUnit.stateQ.holds = true) :
    0 < (queue (step s i).bypass).count ∧ (queue (step s i).bypass).oldest.fu = .store := by
  have waits := StoreUnit.holds_of_stateD next
  have oldest := heads.store_oldest env waits.2.2
  have stays : popLd s i = false := by
    cases load : popLd s i with
    | false => rfl
    | true =>
        have other := heads.load_oldest env (LoadUnit.valid_of_popLd load)
        rw [oldest.2] at other
        cases other.2
  have untaken : (popLd s i || popSt s i) = false := by
    rw [stays, Bool.false_or]
    exact waits.2.1
  rw [heads.queue_step env sound waits.1, untaken]
  exact oldest

theorem loadWaits_step (heads : Heads s h) (env : Environment (s, h) i)
    (sound : faults s i = false) (kept : i.flush = false)
    (next : (step s i).loadUnit.stateQ.holds = true) :
    queue (step s i).bypass = waitingRequests s i ∧
      0 < (waitingRequests s i).count ∧ (waitingRequests s i).oldest.fu = .load := by
  change (LoadUnit.stateD s.loadUnit (loadInput s i)).holds = true at next
  have undisturbed : (loadInput s i).flush = false := kept
  rw [LoadUnit.stateD, undisturbed, if_neg Bool.false_ne_true] at next
  have waits := LoadUnit.holds_of_advances next
  have oldest := heads.load_oldest env waits.2
  have healthy : ¬(s.storeUnit.stateQ = .validStore ∧ (storeInput s i).ex.valid = true) := by
    simpa [faults, storeInput] using sound
  have stays : popSt s i = false := by
    cases store : popSt s i with
    | false => rfl
    | true =>
        have other := heads.store_oldest env (StoreUnit.valid_of_popSt store healthy)
        rw [oldest.2] at other
        cases other.2
  have untaken : (popLd s i || popSt s i) = false := by
    rw [stays, Bool.or_false]
    exact waits.1
  refine ⟨?_, oldest⟩
  rw [heads.queue_step env sound kept, untaken]
  rfl

/-- Only one unit works on a request. -/
theorem exclusive_step (heads : Heads s h) (env : Environment (s, h) i)
    (kept : i.flush = false)
    (next : (step s i).loadUnit.stateQ ≠ .idle) : (step s i).storeUnit.stateQ = .idle := by
  change LoadUnit.stateD s.loadUnit (loadInput s i) ≠ .idle at next
  have undisturbed : (loadInput s i).flush = false := kept
  rw [LoadUnit.stateD, undisturbed, if_neg Bool.false_ne_true] at next
  have works : (loadInput s i).valid = true ∨ s.loadUnit.stateQ.holds = true :=
    LoadUnit.works_of_advances next
  have oldest := heads.load_oldest env works
  by_contra busy
  have store := heads.store_oldest env (StoreUnit.works_of_stateD busy)
  rw [oldest.2] at store
  cases store.2

theorem clear_step (heads : Heads s h) (env : Environment (s, h) i)
    (invariant : Invariant s h) (separate : ¬(i.flush = true ∧ i.commit = true))
    (filled : 0 < (waitingRequests s i).count)
    (clear : pageOffsetMatches s i = false ∨ s.loadUnit.stateQ.checked = true)
    {store : StoreBuffer.Store cfg} (member : store ∈ held (step s i).storeUnit.storeBuffer) :
    pageDword (waitingRequests s i).oldest.vaddr ≠ pageDword store.address := by
  have consistent := invariant.buffer.consistent
  have fits := invariant.buffer.fits (invariant.bufferProtocol env)
  have origin := StoreBuffer.held_of_step consistent fits separate member
  rcases clear with unmatched | checked
  · have presented := LsuBypass.lsuCtrl_eq heads.formed (heads.room env) filled
    have vaddr : (lsuCtrl s i).vaddr = (waitingRequests s i).oldest.vaddr := presented.2
    rw [← vaddr, ← pageDword_setWidth (lsuCtrl s i).vaddr]
    have missed := mt (StoreBuffer.pageOffsetMatches_iff (i := bufferInput s i) consistent
      ((lsuCtrl s i).vaddr.setWidth 12)).mpr (Bool.eq_false_iff.mp unmatched)
    rw [not_or] at missed
    intro equal
    rcases origin with old | ⟨inserts, rfl⟩
    · exact missed.1 ⟨store, old, equal⟩
    · refine missed.2 ⟨?_, equal⟩
      change StoreUnit.storeBufferValid s.storeUnit (storeInput s i) = true at inserts
      simp only [StoreUnit.storeBufferValid, StoreUnit.stValid, Bool.and_eq_true] at inserts
      exact inserts.1.1.1
  · have holds := LoadUnit.holds_of_checked checked
    have oldest := heads.arrived_of_filled env (heads.loadWaits holds).1
    rw [oldest.2]
    rcases origin with old | ⟨inserts, _⟩
    · exact heads.checked checked store old
    · have idle : s.storeUnit.stateQ = .idle := by
        apply heads.exclusive
        intro none
        rw [none] at holds
        cases holds
      change StoreUnit.storeBufferValid s.storeUnit (storeInput s i) = true at inserts
      simp [StoreUnit.storeBufferValid, StoreUnit.stValid, idle] at inserts

theorem checked_step (heads : Heads s h) (env : Environment (s, h) i)
    (invariant : Invariant s h) (separate : ¬(i.flush = true ∧ i.commit = true))
    (sound : faults s i = false) (kept : i.flush = false)
    (next : (step s i).loadUnit.stateQ.checked = true) :
    ∀ store ∈ held (step s i).storeUnit.storeBuffer,
      pageDword (queue (step s i).bypass).oldest.vaddr ≠ pageDword store.address := by
  intro store member
  have waits := heads.loadWaits_step env sound kept (LoadUnit.holds_of_checked next)
  rw [waits.1]
  change (LoadUnit.stateD s.loadUnit (loadInput s i)).checked = true at next
  have undisturbed : (loadInput s i).flush = false := kept
  rw [LoadUnit.stateD, undisturbed, if_neg Bool.false_ne_true] at next
  exact heads.clear_step env invariant separate waits.2.1
    (LoadUnit.checked_of_advances next) member

theorem tag_step (heads : Heads s h) (env : Environment (s, h) i)
    (invariant : Invariant s h) (separate : ¬(i.flush = true ∧ i.commit = true))
    (kept : i.flush = false)
    (next : (step s i).loadUnit.stateQ = .sendTag) :
    ∀ store ∈ held (step s i).storeUnit.storeBuffer,
      pageDword (record s i h).mmuVaddr ≠ pageDword store.address := by
  intro store member
  change LoadUnit.stateD s.loadUnit (loadInput s i) = .sendTag at next
  have undisturbed : (loadInput s i).flush = false := kept
  rw [LoadUnit.stateD, undisturbed, if_neg Bool.false_ne_true] at next
  have sent := LoadUnit.sendTag_of_advances next
  have oldest := heads.load_oldest env (LoadUnit.valid_of_popLd sent.1)
  change pageDword (mmuVaddr s i) ≠ _
  rw [heads.mmuVaddr_eq env oldest.1 oldest.2]
  exact heads.clear_step env invariant separate oldest.1 sent.2 member

theorem contents_step (heads : Heads s h) (env : Environment (s, h) i)
    (sound : faults s i = false) (kept : i.flush = false) :
    (queue (step s i).bypass).contents = (record s i h).requests.map Prod.snd := by
  rw [heads.queue_step env sound kept]
  simp only [record, kept, Bool.false_eq_true, if_false]
  split
  case isTrue pops =>
    have filled := heads.filled_of_pop env sound (Bool.or_eq_true_iff.mp pops)
    rw [RingQueue.contents_pop (heads.formed_arrived env) filled, heads.contents_arrived env,
      List.map_tail]
  case isFalse => exact heads.contents_arrived env

theorem formed_step (heads : Heads s h) (env : Environment (s, h) i)
    (sound : faults s i = false) (kept : i.flush = false) :
    (queue (step s i).bypass).Formed LsuCtrl.valid := by
  rw [heads.queue_step env sound kept]
  split
  case isTrue pops =>
    have filled := heads.filled_of_pop env sound (Bool.or_eq_true_iff.mp pops)
    exact (heads.formed_arrived env).pop filled rfl
  case isFalse => exact heads.formed_arrived env

theorem step (heads : Heads s h) (env : Environment (s, h) i) (invariant : Invariant s h)
    (separate : ¬(i.flush = true ∧ i.commit = true)) (sound : faults s i = false)
    (kept : i.flush = false) : Heads (LoadStoreUnit.step s i) (record s i h) where
  formed := heads.formed_step env sound kept
  contents := heads.contents_step env sound kept
  ready := heads.ready_step env sound kept
  storeWaits := heads.storeWaits_step env sound
  loadWaits next := by
    have waits := heads.loadWaits_step env sound kept next
    rw [waits.1]
    exact waits.2
  exclusive := heads.exclusive_step env kept
  checked := heads.checked_step env invariant separate sound kept
  tag := heads.tag_step env invariant separate kept

end Heads

/-- A flush empties the bypass queue and the units. -/
theorem heads_step_of_flush (h : History cfg) (flushed : i.flush = true) :
    Heads (step s i) (record s i h) := by
  have queues : queue (step s i).bypass = queue (LsuBypass.reset : LsuBypass.State cfg) :=
    LsuBypass.queue_step_of_flush flushed
  have loads : (step s i).loadUnit.stateQ = .waitFlush := by
    simp [step, LoadUnit.step, LoadUnit.stateD, loadInput, flushed]
  have stores : (step s i).storeUnit.stateQ = .idle := by
    simp [step, StoreUnit.step, StoreUnit.stateD, storeInput, flushed]
  exact
    { formed := queues ▸ LsuBypass.formed_reset
      contents := by rw [queues]; simp [record, flushed]; rfl
      ready := fun _ => by rw [queues]; exact Nat.two_pos
      storeWaits := fun next => by rw [stores] at next; cases next
      loadWaits := fun next => by rw [loads] at next; cases next
      exclusive := fun _ => stores
      checked := fun next => by rw [loads] at next; cases next
      tag := fun next => by rw [loads] at next; cases next }

theorem Invariant.step (invariant : Invariant s h) (env : Environment (s, h) i)
    (separate : ¬(i.flush = true ∧ i.commit = true)) :
    Invariant (LoadStoreUnit.step s i) (record s i h) where
  buffer := invariant.buffer.step (invariant.bufferProtocol env) separate
  inserted := Invariant.inserted_step s i h
  numbered := numbered_record invariant.numbered s i
  heads unfaulted := by
    cases flushes : i.flush with
    | true => exact heads_step_of_flush h flushes
    | false =>
        have sound : h.faulted = false ∧ faults s i = false := by
          simpa [record, flushes] using unfaulted
        exact (invariant.heads sound.1).step env invariant separate sound.2 flushes

end Step

theorem invariant_reset : Invariant (reset : State cfg) History.initial where
  buffer := StoreBuffer.follows_reset
  inserted next := by cases next
  numbered := by simp [Numbered, History.initial]
  heads _ :=
    { formed := LsuBypass.formed_reset
      contents := rfl
      ready := fun _ => Nat.two_pos
      storeWaits := fun next => by cases next
      loadWaits := fun next => by cases next
      exclusive := fun _ => rfl
      checked := fun next => by cases next
      tag := fun next => by cases next }

theorem invariant_run {inputs : List (Input cfg)}
    (along : (recorded cfg).RunAlong
      (fun state i => Environment state i ∧ ¬(i.flush = true ∧ i.commit = true)) inputs) :
    Invariant ((recorded cfg).run inputs).1 ((recorded cfg).run inputs).2 :=
  (recorded cfg).run_invariant_along (fun state => Invariant state.1 state.2) invariant_reset
    (fun _ _ invariant cycle => invariant.step cycle.1 cycle.2) along

/-! ## Confirmed loads -/

theorem sendTag_of_confirms {s : State cfg} {i : Input cfg} (confirmed : confirms s i = true) :
    s.loadUnit.stateQ = .sendTag := by
  unfold confirms at confirmed
  cases state : s.loadUnit.stateQ <;>
    simp_all [LoadUnit.tagValid, LoadUnit.killReq]

/-- No store that is older than the confirmed load writes one of its bytes and is not
granted: the requests that wait for a translation are younger, none is being inserted, and
the ones in the queues are to other bytes. -/
structure Ahead (s : State cfg) (i : Input cfg) (h : History cfg) : Prop where
  translated : ∀ request ∈ h.requests, h.tagged < request.1
  inserted : StoreUnit.stValidWithoutFlush s.storeUnit = false
  granted : ∀ store ∈ outstanding h, ∀ byte, Accesses i.paddr h.taggedBe byte →
    ¬Accesses store.address store.be byte

/-- A store that stalls a load at the head: one that is not granted, a cache-block operation
whose answer is missing, or the store that is being inserted. -/
def Stalls (s : State cfg) (i : Input cfg) (h : History cfg) (store : StoreBuffer.Store cfg) :
    Prop :=
  pageDword (lsuCtrl s i).vaddr = pageDword store.address ∧
    (store ∈ outstanding h ∨
      (h.buffer.written.getLast? = some store ∧ store.cboOp ≠ .cboNone) ∨
      (StoreUnit.stValidWithoutFlush s.storeUnit = true ∧ store = (bufferInput s i).store))

/-- A confirmed load is behind the older stores to its bytes, and only a store that has not
left stalls a load. -/
structure LoadsBehindStores (s : State cfg) (h : History cfg) : Prop where
  confirmed : ∀ i, Environment (s, h) i → confirms s i = true → Ahead s i h
  stalled : ∀ i, pageOffsetMatches s i = true → ∃ store, Stalls s i h store
  released : ∀ i, s.loadUnit.stateQ = .waitPageOffset → i.flush = false →
    (∀ store, ¬Stalls s i h store) → (step s i).loadUnit.stateQ = .waitGnt

namespace Invariant

variable {s : State cfg} {h : History cfg}

theorem outstanding_eq (invariant : Invariant s h) :
    outstanding h = StoreBuffer.waiting s.storeUnit.storeBuffer ++
      StoreBuffer.uncommitted s.storeUnit.storeBuffer := by
  rw [outstanding, invariant.buffer.committed_eq, List.drop_left,
    invariant.buffer.uncommitted_eq]

theorem clear_of_confirms (invariant : Invariant s h) (unfaulted : h.faulted = false)
    {i : Input cfg} (env : Environment (s, h) i) (confirmed : confirms s i = true) :
    ∀ store ∈ outstanding h, pageDword i.paddr ≠ pageDword store.address := by
  intro store member
  have inside : store ∈ held s.storeUnit.storeBuffer := by
    rw [invariant.outstanding_eq] at member
    rcases List.mem_append.mp member with committed | speculative
    · exact StoreBuffer.mem_held_of_waiting committed
    · exact List.mem_append_right _ speculative
  have apart := (invariant.heads unfaulted).tag (sendTag_of_confirms confirmed) store inside
  rwa [← pageDword_setWidth h.mmuVaddr, ← env.translate, pageDword_setWidth] at apart

theorem stalls_of_matches (invariant : Invariant s h) {i : Input cfg}
    (matched : pageOffsetMatches s i = true) : ∃ store, Stalls s i h store := by
  have found := (StoreBuffer.pageOffsetMatches_iff (i := bufferInput s i)
    invariant.buffer.consistent ((lsuCtrl s i).vaddr.setWidth 12)).mp matched
  rw [pageDword_setWidth] at found
  rcases found with ⟨store, member, equal⟩ | ⟨inserts, equal⟩
  · refine ⟨store, equal, ?_⟩
    rw [outstanding, invariant.buffer.committed_eq, List.drop_left, List.mem_append]
    rcases invariant.buffer.of_mem_held member with speculative | committed | answered
    · exact Or.inl (Or.inr speculative)
    · exact Or.inl (Or.inl committed)
    · exact Or.inr (Or.inl answered)
  · exact ⟨_, equal, Or.inr (Or.inr ⟨inserts, rfl⟩)⟩

theorem loadsBehindStores (invariant : Invariant s h) (unfaulted : h.faulted = false) :
    LoadsBehindStores s h where
  confirmed i env confirmed :=
    { translated := by
        intro request member
        exact (List.pairwise_cons.mp invariant.numbered).1 _
          (List.mem_append_left _ (List.mem_map_of_mem member))
      inserted := by
        have idle := (invariant.heads unfaulted).exclusive
          (by rw [sendTag_of_confirms confirmed]; decide)
        simp [StoreUnit.stValidWithoutFlush, idle]
      granted := fun store member byte load write =>
        invariant.clear_of_confirms unfaulted env confirmed store member
          (pageDword_eq_of_accesses load write) }
  stalled _ matched := invariant.stalls_of_matches matched
  released i state kept free := by
    have unmatched : pageOffsetMatches s i = false := by
      rw [Bool.eq_false_iff]
      intro matched
      rcases invariant.stalls_of_matches matched with ⟨store, stalls⟩
      exact free store stalls
    simp [LoadStoreUnit.step, LoadUnit.step, LoadUnit.stateD, LoadUnit.advances, loadInput,
      state, kept, unmatched]

end Invariant

/-- In every run without a flush in the cycle of a commit, as long as no store has faulted
after it was taken, the loads stay behind the older stores. -/
theorem loads_behind_stores {inputs : List (Input cfg)}
    (along : (recorded cfg).RunAlong
      (fun state i => Environment state i ∧ ¬(i.flush = true ∧ i.commit = true)) inputs)
    (unfaulted : ((recorded cfg).run inputs).2.faulted = false) :
    LoadsBehindStores ((recorded cfg).run inputs).1 ((recorded cfg).run inputs).2 :=
  (invariant_run along).loadsBehindStores unfaulted

/-! ## Runs -/

instance decidableEnvironment (state : State cfg × History cfg) (i : Input cfg) :
    Decidable (Environment state i) :=
  decidable_of_iff
    ((i.lsuReq.valid = true → state.2.ready = true) ∧
      (i.commit = true → state.2.buffer.uncommitted ≠ [] ∧
        StoreBuffer.commitReady state.1.storeUnit.storeBuffer = true) ∧
      i.paddr.setWidth 12 = state.2.mmuVaddr.setWidth 12)
    ⟨fun holds => ⟨holds.1, holds.2.1, holds.2.2⟩,
      fun env => ⟨env.arrive, env.commit, env.translate⟩⟩

def ExceptionT.none : ExceptionT := ⟨0, 0, 0, 0, false, false⟩

/-- A cycle in which the translation hits and the store port is not granted. -/
def Input.idle (cfg : Cfg) : Input cfg where
  flush := false
  stallStPending := false
  lsuReq := LsuBypass.noRequest
  resolvedBranch := { valid := false, isMispredict := false }
  commit := false
  amoValidCommit := false
  commitTranId := 0
  mbe := false
  paddr := 0
  ex := ExceptionT.none
  dtlbHit := true
  paddrNi := false
  dcacheWbufferNotNi := true
  loadPort := { dataGnt := true, dataRvalid := false, dataRid := 0, dataRdata := 0 }
  storePort := { dataGnt := false, dataRvalid := false, dataRid := 0, dataRdata := 0 }
  amoResp := { ack := false, result := 0 }

/-- A request for a double word arrives. -/
def Input.request (i : Input cfg) (fu : Fu) (operation : Ariane.FuOp) (vaddr : Nat) :
    Input cfg :=
  { i with
    lsuReq :=
      { LsuBypass.noRequest with
        valid := true
        vaddr := BitVec.ofNat _ vaddr
        be := BitVec.ofNat _ 255
        fu := fu
        operation := operation } }

/-- The physical address of the request of the last cycle. -/
def Input.translated (i : Input cfg) (paddr : Nat) : Input cfg :=
  { i with paddr := BitVec.ofNat _ paddr }

/-- A load arrives while a store to its double word is inserted, waits until the store has
committed and is granted, and sends its tag. -/
def storeThenLoad : List (Input Cfg.sample) :=
  let idle := Input.idle Cfg.sample
  [idle.request .store .sd 64, (idle.translated 64).request .load .ld 64,
    { idle.translated 64 with commit := true },
    { idle.translated 64 with storePort := { idle.storePort with dataGnt := true } },
    idle.translated 64, idle.translated 64]

theorem loads_behind_stores_storeThenLoad :
    LoadsBehindStores ((recorded Cfg.sample).run storeThenLoad).1
      ((recorded Cfg.sample).run storeThenLoad).2 :=
  loads_behind_stores (by decide +kernel) (by decide +kernel)

example : confirms ((recorded Cfg.sample).run storeThenLoad).1
    ((Input.idle Cfg.sample).translated 64) = true := by decide +kernel

/-- The pipeline is flushed in the cycle in which a store commits; the next store commits
from the wrong entry, and the next flush clears the entry of that store. -/
def lostStore : List (Input Cfg.sample) :=
  let idle := Input.idle Cfg.sample
  [idle.request .store .sd 64, idle.translated 64, { idle with commit := true, flush := true },
    idle.request .store .sd 72, idle.translated 72, { idle with commit := true },
    { idle with flush := true }, idle.request .load .ld 72, idle.translated 72]

/-- A store faults while a load arrives at the head, and the load unit goes on with the
request behind that load. -/
def faultedStore : List (Input Cfg.sample) :=
  let idle := Input.idle Cfg.sample
  [idle.request .store .sd 64, (idle.translated 64).request .store .sd 80,
    { (idle.translated 80).request .load .ld 128 with
      commit := true
      ex := { ExceptionT.none with valid := true }
      loadPort := { idle.loadPort with dataGnt := false } },
    (idle.translated 128).request .load .ld 64]

/-- The store of a double word without data. -/
def sampleStore (address : Nat) : StoreBuffer.Store Cfg.sample where
  address := BitVec.ofNat _ address
  data := 0
  be := BitVec.ofNat _ 255
  dataSize := 3
  cboOp := .cboNone

theorem not_ahead {s : State Cfg.sample} {i : Input Cfg.sample} {h : History Cfg.sample}
    (address : Nat) (ungranted : sampleStore address ∈ outstanding h)
    (load : Accesses i.paddr h.taggedBe address)
    (store : Accesses (sampleStore address).address (sampleStore address).be address) :
    ¬Ahead s i h :=
  fun ahead => ahead.granted _ ungranted address load store

/-- A load is confirmed ahead of a store to its bytes that has committed and is not
granted. -/
theorem load_confirmed_ahead :
    ((recorded Cfg.sample).RunAlong Environment lostStore ∧
        ((recorded Cfg.sample).run lostStore).2.faulted = false ∧
        ¬LoadsBehindStores ((recorded Cfg.sample).run lostStore).1
          ((recorded Cfg.sample).run lostStore).2) ∧
      (recorded Cfg.sample).RunAlong
          (fun state i => Environment state i ∧ ¬(i.flush = true ∧ i.commit = true))
          faultedStore ∧
        ¬LoadsBehindStores ((recorded Cfg.sample).run faultedStore).1
          ((recorded Cfg.sample).run faultedStore).2 := by
  refine ⟨⟨by decide +kernel, by decide +kernel, ?_⟩, by decide +kernel, ?_⟩
  · intro behind
    have ahead := behind.confirmed ((Input.idle Cfg.sample).translated 72) (by decide +kernel)
      (by decide +kernel)
    exact not_ahead 72 (by decide +kernel) ⟨by decide +kernel, by decide +kernel⟩
      ⟨by decide, by decide⟩ ahead
  · intro behind
    have ahead := behind.confirmed ((Input.idle Cfg.sample).translated 64) (by decide +kernel)
      (by decide +kernel)
    exact not_ahead 64 (by decide +kernel) ⟨by decide +kernel, by decide +kernel⟩
      ⟨by decide, by decide⟩ ahead

end LoadStoreUnit

end Cva6Hpd.Lsu

/-!
## Loads and cache-block operations

A cache-block operation goes through the store buffer like a store, and acts on a whole
cache line. The check of a load compares double words, so that only a load of the double
word that the operation names waits for it.
-/

namespace Cva6Hpd.Lsu.LoadStoreUnit

open Cva6Hpd.Hw

variable {cfg : Cfg}

/-- The physical addresses are in one cache line. -/
def SameLine (lineBytes : Nat) (first second : BitVec cfg.plen) : Prop :=
  first.toNat / lineBytes = second.toNat / lineBytes

/-- The cache-block operations that the data cache has not granted. -/
def outstandingCbos (h : History cfg) : List (StoreBuffer.Store cfg) :=
  (outstanding h).filter fun store => decide (store.cboOp ≠ .cboNone)

/-- No cache-block operation that is older than the confirmed load is on its line and has
not been handed to the data cache. -/
structure AheadOfCbos (lineBytes : Nat) (s : State cfg) (i : Input cfg) (h : History cfg) :
    Prop where
  translated : ∀ request ∈ h.requests, h.tagged < request.1
  inserted : StoreUnit.stValidWithoutFlush s.storeUnit = false
  granted : ∀ op ∈ outstandingCbos h, ¬SameLine lineBytes i.paddr op.address

/-- A confirmed load is behind the older cache-block operations on its line if and only if
they all name its double word. -/
theorem loads_behind_cbos (lineBytes : Nat) {inputs : List (Input cfg)}
    (along : (recorded cfg).RunAlong
      (fun state i => Environment state i ∧ ¬(i.flush = true ∧ i.commit = true)) inputs)
    (unfaulted : ((recorded cfg).run inputs).2.faulted = false) {i : Input cfg}
    (env : Environment ((recorded cfg).run inputs) i)
    (confirmed : confirms ((recorded cfg).run inputs).1 i = true) :
    AheadOfCbos lineBytes ((recorded cfg).run inputs).1 i ((recorded cfg).run inputs).2 ↔
      ∀ op ∈ outstandingCbos ((recorded cfg).run inputs).2,
        SameLine lineBytes i.paddr op.address → pageDword i.paddr = pageDword op.address := by
  have invariant := invariant_run along
  constructor
  · intro ahead op member line
    exact absurd line (ahead.granted op member)
  · intro named
    have behind := (invariant.loadsBehindStores unfaulted).confirmed i env confirmed
    refine ⟨behind.translated, behind.inserted, fun op member line => ?_⟩
    exact invariant.clear_of_confirms unfaulted env confirmed op (List.mem_of_mem_filter member)
      (named op member line)

/-- A load of the double word that the operation names waits until the operation is
granted. -/
def cboThenLoad : List (Input Cfg.sample) :=
  let idle := Input.idle Cfg.sample
  [idle.request .store .cboClean 64, (idle.translated 64).request .load .ld 64,
    { idle.translated 64 with commit := true },
    { idle.translated 64 with storePort := { idle.storePort with dataGnt := true } },
    { idle.translated 64 with storePort := { idle.storePort with dataRvalid := true } },
    idle.translated 64, idle.translated 64]

theorem loads_behind_cbos_cboThenLoad :
    AheadOfCbos 64 ((recorded Cfg.sample).run cboThenLoad).1
        ((Input.idle Cfg.sample).translated 64) ((recorded Cfg.sample).run cboThenLoad).2 ↔
      ∀ op ∈ outstandingCbos ((recorded Cfg.sample).run cboThenLoad).2,
        SameLine 64 ((Input.idle Cfg.sample).translated 64).paddr op.address →
          pageDword ((Input.idle Cfg.sample).translated 64).paddr = pageDword op.address :=
  loads_behind_cbos 64 (by decide +kernel) (by decide +kernel) (by decide +kernel)
    (by decide +kernel)

/-- A load arrives while an operation on another double word of its line is inserted. -/
def loadBesideCbo : List (Input Cfg.sample) :=
  let idle := Input.idle Cfg.sample
  [idle.request .store .cboClean 64, (idle.translated 64).request .load .ld 72]

/-- The load is confirmed before the operation has committed. -/
theorem load_ahead_of_cbo :
    (recorded Cfg.sample).RunAlong
        (fun state i => Environment state i ∧ ¬(i.flush = true ∧ i.commit = true))
        loadBesideCbo ∧
      ((recorded Cfg.sample).run loadBesideCbo).2.faulted = false ∧
      Environment ((recorded Cfg.sample).run loadBesideCbo)
        ((Input.idle Cfg.sample).translated 72) ∧
      confirms ((recorded Cfg.sample).run loadBesideCbo).1
        ((Input.idle Cfg.sample).translated 72) = true ∧
      ¬AheadOfCbos 64 ((recorded Cfg.sample).run loadBesideCbo).1
        ((Input.idle Cfg.sample).translated 72) ((recorded Cfg.sample).run loadBesideCbo).2 := by
  refine ⟨by decide +kernel, by decide +kernel, by decide +kernel, by decide +kernel, ?_⟩
  intro ahead
  exact ahead.granted { sampleStore 64 with cboOp := .cboClean, dataSize := 0 }
    (by decide +kernel) (by unfold SameLine; decide +kernel)

end Cva6Hpd.Lsu.LoadStoreUnit
