import Cva6Hpd.Lsu.StoreQueues

/-!
# Committed stores are written in order

A history of the store buffer records the stores that are inserted, the stores that commit,
and the writes that the data cache grants. The writes are the committed stores in order,
and what is missing still waits in the commit queue: in every run without a flush in the
cycle of a commit. Such a flush sets the write pointer of the speculative queue to where
the read pointer was before the commit, and the next committed store is lost.
-/

namespace Cva6Hpd.Lsu.StoreBuffer

open Cva6Hpd.Ariane
open Cva6Hpd.Common
open Cva6Hpd.Hw

variable {cfg : Cfg}

/-! ## Granted writes -/

/-- The store that a granted request writes. -/
def writtenStore (port : DcacheReqI cfg) : Store cfg where
  address := BitVec.ofNat cfg.plen
    (port.addressIndex.toNat + 2 ^ cfg.dcacheIndexWidth * port.addressTag.toNat)
  data := port.dataWdata
  be := port.dataBe
  dataSize := port.dataSize
  cboOp := port.cboOp

theorem index_add_tag (address : BitVec cfg.plen) :
    (address.setWidth cfg.dcacheIndexWidth).toNat +
        2 ^ cfg.dcacheIndexWidth *
          (address.extractLsb' cfg.dcacheIndexWidth cfg.dcacheTagWidth).toNat =
      address.toNat := by
  have bound := address.isLt
  have high : address.toNat / 2 ^ cfg.dcacheIndexWidth < 2 ^ cfg.dcacheTagWidth := by
    rw [Nat.div_lt_iff_lt_mul (Nat.two_pow_pos _), ← Nat.pow_add]
    exact bound.trans_le (Nat.pow_le_pow_right Nat.two_pos (by simp [Cfg.dcacheTagWidth]; omega))
  rw [BitVec.toNat_setWidth, BitVec.extractLsb'_toNat, Nat.shiftRight_eq_div_pow,
    Nat.mod_eq_of_lt high, Nat.mod_add_div]

theorem writtenStore_reqPort (s : State cfg) (i : Input cfg) :
    writtenStore (reqPort s i) = (head s).toStore := by
  simp only [writtenStore, reqPort, index_add_tag, BitVec.ofNat_toNat, BitVec.setWidth_eq]

/-! ## Histories -/

structure History (cfg : Cfg) where
  /-- `ready_o` in the last cycle. -/
  ready : Bool
  /-- The stores that were inserted, and neither committed nor flushed. -/
  uncommitted : List (Store cfg)
  committed : List (Store cfg)
  written : List (Store cfg)

def History.initial : History cfg where
  ready := true
  uncommitted := []
  committed := []
  written := []

/-- A flush in the cycle of a commit removes what has not committed by then. -/
def record (s : State cfg) (i : Input cfg) (h : History cfg) : History cfg where
  ready := ready s i
  uncommitted :=
    if i.flush then []
    else (if i.commit then h.uncommitted.tail else h.uncommitted) ++
      (if i.valid then [i.store] else [])
  committed := h.committed ++ (if i.commit then h.uncommitted.take 1 else [])
  written := h.written ++ (if granted s i then [writtenStore (reqPort s i)] else [])

/-- The store buffer and what happened to it. -/
def recorded (cfg : Cfg) : Machine (State cfg × History cfg) (Input cfg) :=
  (machine cfg).withHistory History.initial record

/-- A store is inserted in the cycle after one in which the buffer was ready for it, and a
store commits after it was inserted, when the commit queue is ready. -/
structure Protocol (state : State cfg × History cfg) (i : Input cfg) : Prop where
  insert : i.valid = true → state.2.ready = true
  commit : i.commit = true → state.2.uncommitted ≠ [] ∧ commitReady state.1 = true

/-- The writes so far are the committed stores in order, and those that are missing wait in
the commit queue. -/
structure InOrder (s : State cfg) (h : History cfg) : Prop where
  committed_eq : h.committed = h.written ++ waiting s
  /-- The next write that is requested is the oldest waiting store. -/
  presented : ∀ i, dataReq s i = true → (waiting s).head? = some (writtenStore (reqPort s i))
  /-- A waiting store is requested, unless the port is stalled or the answer to the last
  write, a cache-block operation, is missing. -/
  requested : ∀ i, waiting s ≠ [] → i.stallStPending = false → dataReq s i = false →
    ∃ last, h.written.getLast? = some last ∧ last.cboOp ≠ .cboNone ∧ (head s).waitRvalid = true
  uncommitted_eq : uncommitted s = h.uncommitted
  insert_room : ∀ i, Protocol (s, h) i → i.valid = true → (uncommitted s).length < depthSpec
  commit_room : ∀ i, Protocol (s, h) i → i.commit = true →
    (commitQueue s).count < depthCommit
  not_pending : noStPending s = true → h.written = h.committed

/-! ## The invariant -/

/-- The buffer and its history agree. -/
structure Follows (s : State cfg) (h : History cfg) : Prop where
  consistent : Consistent s
  uncommitted_eq : uncommitted s = h.uncommitted
  committed_eq : h.committed = h.written ++ waiting s
  room : h.ready = true → (specQueue s).count < depthSpec
  awaited : (head s).valid = true → (head s).waitRvalid = true →
    h.written.getLast? = some (head s).toStore ∧ (head s).cboOp ≠ .cboNone

theorem length_uncommitted (s : State cfg) : (uncommitted s).length = (specQueue s).count := by
  rw [uncommitted, List.length_map, RingQueue.length_contents]

namespace Follows

variable {s : State cfg} {h : History cfg} {i : Input cfg}

theorem fits (follows : Follows s h) (protocol : Protocol (s, h) i) : Fits s i where
  insert inserts := follows.room (protocol.insert inserts)
  commit commits := by
    have filled := (protocol.commit commits).1
    rw [← follows.uncommitted_eq, ← List.length_pos_iff, length_uncommitted] at filled
    exact filled
  store commits := by
    have free := (protocol.commit commits).2
    rwa [commitReady, decide_eq_true_eq] at free

theorem room_step (follows : Follows s h) (protocol : Protocol (s, h) i)
    (isReady : ready s i = true) : (specQueue (step s i)).count < depthSpec := by
  have fits := follows.fits protocol
  have limit : s.speculativeStatusCntQ.toNat ≤ 4 := follows.consistent.spec.count_le
  have counted := toNat_statusCnt fits.insert limit fits.commit
  have insert : i.valid = true → s.speculativeStatusCntQ.toNat < 4 := fits.insert
  change (speculativeStatusCntD s i).toNat < 4
  simp only [ready, Bool.or_eq_true, decide_eq_true_eq] at isReady
  rcases isReady with below | commits
  · exact below
  · unfold speculativeStatusCntD
    split
    · decide
    · rw [counted, commits]
      split
      case isTrue inserts =>
        have below := insert inserts
        simp only [if_true]
        omega
      case isFalse =>
        have filled : 0 < s.speculativeStatusCntQ.toNat := fits.commit commits
        simp only [if_true]
        omega

theorem awaited_step (follows : Follows s h) (protocol : Protocol (s, h) i)
    (isValid : (head (step s i)).valid = true)
    (waits : (head (step s i)).waitRvalid = true) :
    (record s i h).written.getLast? = some (head (step s i)).toStore ∧
      (head (step s i)).cboOp ≠ .cboNone := by
  have fits := follows.fits protocol
  have consistent := follows.consistent
  have filled : 0 < (commitQueue (step s i)).count :=
    (formed_commitQueue_step consistent fits).valid_oldest_iff.mp isValid
  have first := RingQueue.contents_eq_cons filled
  rw [oldest_commitQueue, contents_commitQueue_step consistent fits] at first
  rcases kept : (stored s i).contents with _ | ⟨next, rest⟩
  · -- the commit queue was empty, so that the head has just committed
    rw [kept, List.nil_append] at first
    split at first
    case isTrue commits =>
      have fresh := fresh_oldest consistent fits commits
      rw [(List.cons.inj first).1, waits] at fresh
      cases fresh
    case isFalse => cases first
  · rw [kept, List.cons_append] at first
    have same := (List.cons.inj first).1
    subst same
    rw [contents_stored consistent] at kept
    cases evict : evicts s i with
    | true =>
        rw [evict, if_pos rfl] at kept
        have fresh := consistent.commit_fresh (head (step s i)) (by rw [kept]; simp)
        rw [waits] at fresh
        cases fresh
    | false =>
        rw [evict, if_neg Bool.false_ne_true] at kept
        cases await : awaits s i with
        | true =>
            have grant := granted_of_awaits await
            rw [await, if_pos rfl] at kept
            rw [← (List.cons.inj kept).1]
            simp only [awaits, grant, Bool.true_and, Bool.not_eq_true', Bool.or_eq_false_iff,
              decide_eq_false_iff_not] at await
            simp [record, grant, writtenStore_reqPort, Entry.await, await.1]
        | false =>
            have ungranted : granted s i = false := by
              simp only [evicts, awaits] at evict await
              grind
            rw [await, if_neg Bool.false_ne_true] at kept
            have old : head (step s i) = head s := by
              have filled : 0 < (commitQueue s).count := by
                rw [← RingQueue.length_contents, kept]
                exact Nat.succ_pos _
              rw [RingQueue.contents_eq_cons filled] at kept
              exact (List.cons.inj kept).1.symm
            rw [old] at isValid waits ⊢
            simpa [record, ungranted] using follows.awaited isValid waits

/-- A store of the queues has not committed, or it is not granted, or it is a cache-block
operation whose answer is missing. -/
theorem of_mem_held (follows : Follows s h) {store : Store cfg} (member : store ∈ held s) :
    store ∈ h.uncommitted ∨ store ∈ waiting s ∨
      (h.written.getLast? = some store ∧ store.cboOp ≠ .cboNone) := by
  rw [← follows.uncommitted_eq]
  rcases List.mem_append.mp member with committed | speculative
  · rcases List.mem_map.mp committed with ⟨entry, inside, rfl⟩
    cases waits : entry.waitRvalid with
    | false =>
        refine Or.inr (Or.inl (List.mem_map_of_mem (List.mem_filter.mpr ⟨inside, ?_⟩)))
        simp [waits]
    | true =>
        have filled : 0 < (commitQueue s).count := by
          rw [← RingQueue.length_contents]
          exact List.length_pos_of_mem inside
        have isValid := follows.consistent.commit.valid_oldest_iff.mpr filled
        rw [commitQueue_contents_of_valid follows.consistent isValid] at inside
        rcases List.mem_cons.mp inside with rfl | rest
        · exact Or.inr (Or.inr (follows.awaited isValid waits))
        · have fresh := follows.consistent.commit_fresh entry rest
          rw [waits] at fresh
          cases fresh
  · exact Or.inl speculative

theorem step (follows : Follows s h) (protocol : Protocol (s, h) i)
    (separate : ¬(i.flush = true ∧ i.commit = true)) :
    Follows (StoreBuffer.step s i) (record s i h) where
  consistent := consistent_step follows.consistent (follows.fits protocol) separate
  uncommitted_eq := by
    rw [uncommitted_step follows.consistent (follows.fits protocol) separate,
      follows.uncommitted_eq]
    rfl
  committed_eq := by
    rw [waiting_step follows.consistent (follows.fits protocol), follows.uncommitted_eq]
    simp only [record, follows.committed_eq, List.append_assoc]
    cases grant : granted s i with
    | false => simp
    | true =>
        have request : dataReq s i = true := by
          simp only [granted, Bool.and_eq_true] at grant
          exact grant.1
        rw [waiting, ungranted_of_dataReq follows.consistent request]
        simp [writtenStore_reqPort]
  room := follows.room_step protocol
  awaited := follows.awaited_step protocol

theorem inOrder (follows : Follows s h) : InOrder s h where
  committed_eq := follows.committed_eq
  presented i request := by
    rw [waiting, ungranted_of_dataReq follows.consistent request, writtenStore_reqPort]
    rfl
  requested i missing running idle := by
    have filled : 0 < (commitQueue s).count := by
      rw [← RingQueue.length_contents, List.length_pos_iff]
      intro empty
      exact missing (by simp [waiting, ungranted, empty])
    have isValid : (head s).valid = true := follows.consistent.commit.valid_oldest_iff.mpr filled
    have waits : (head s).waitRvalid = true := by
      simpa [dataReq, isValid, running] using idle
    have last := follows.awaited isValid waits
    exact ⟨_, last.1, last.2, waits⟩
  uncommitted_eq := follows.uncommitted_eq
  insert_room i protocol inserts := by
    rw [length_uncommitted]
    exact (follows.fits protocol).insert inserts
  commit_room i protocol := (follows.fits protocol).store
  not_pending idle := by
    simp only [noStPending, decide_eq_true_eq] at idle
    have empty : (commitQueue s).count = 0 := by simp [commitQueue, idle]
    rw [follows.committed_eq, waiting, ungranted, RingQueue.contents_of_empty empty]
    simp

end Follows

theorem follows_reset : Follows (reset : State cfg) History.initial where
  consistent := consistent_reset
  uncommitted_eq := rfl
  committed_eq := rfl
  room _ := Nat.succ_pos 3
  awaited isValid := by cases isValid

/-- In a run without a flush in the cycle of a commit, the writes are the committed stores
in order, and the missing ones wait. -/
theorem writes_in_order {inputs : List (Input cfg)}
    (along : (recorded cfg).RunAlong
      (fun state i => Protocol state i ∧ ¬(i.flush = true ∧ i.commit = true)) inputs) :
    InOrder ((recorded cfg).run inputs).1 ((recorded cfg).run inputs).2 := by
  have follows := (recorded cfg).run_invariant_along
    (fun state => Follows state.1 state.2) follows_reset
    (fun _ _ follows cycle => follows.step cycle.1 cycle.2) along
  exact follows.inOrder

/-! ## Runs -/

instance decidableProtocol (state : State cfg × History cfg) (i : Input cfg) :
    Decidable (Protocol state i) :=
  decidable_of_iff
    ((i.valid = true → state.2.ready = true) ∧
      (i.commit = true → state.2.uncommitted ≠ [] ∧ commitReady state.1 = true))
    ⟨fun holds => ⟨holds.1, holds.2⟩, fun protocol => ⟨protocol.insert, protocol.commit⟩⟩

def Input.idle : Input cfg where
  flush := false
  stallStPending := false
  commit := false
  valid := false
  validWithoutFlush := false
  store := Entry.zero.toStore
  dataGnt := true
  dataRvalid := false

/-- The cycle also inserts a double word. -/
def Input.insert (i : Input cfg) (address data : Nat) : Input cfg :=
  { i with
    valid := true
    validWithoutFlush := true
    store :=
      { address := BitVec.ofNat _ address
        data := BitVec.ofNat _ data
        be := BitVec.ofNat _ 255
        dataSize := 3
        cboOp := .cboNone } }

/-- Two stores are inserted, one of them commits while the other one is inserted, and a
flush removes the second one. -/
def flushAfterCommit : List (Input Cfg.sample) :=
  [Input.idle.insert 64 1, { Input.idle.insert 72 2 with commit := true },
    { Input.idle with flush := true }, Input.idle.insert 80 3,
    { Input.idle with commit := true }, .idle]

theorem writes_in_order_flushAfterCommit :
    InOrder ((recorded Cfg.sample).run flushAfterCommit).1
      ((recorded Cfg.sample).run flushAfterCommit).2 :=
  writes_in_order (by decide +kernel)

example : ((recorded Cfg.sample).run flushAfterCommit).2.written.map
    (fun store => (store.address.toNat, store.data.toNat)) = [(64, 1), (80, 3)] := by
  decide +kernel

/-- The pipeline is flushed in the cycle in which a store commits, and the store behind the
flush commits and stays in the buffer. -/
def flushWithCommit : List (Input Cfg.sample) :=
  [Input.idle.insert 64 1, { Input.idle with commit := true, flush := true },
    Input.idle.insert 72 2, { Input.idle with commit := true }]

/-- The second store has committed, is not written, and is not requested. -/
theorem write_lost :
    (recorded Cfg.sample).RunAlong Protocol flushWithCommit ∧
      ((recorded Cfg.sample).run flushWithCommit).2.committed.length = 2 ∧
      ((recorded Cfg.sample).run flushWithCommit).2.written.length = 1 ∧
      dataReq ((recorded Cfg.sample).run flushWithCommit).1 .idle = false ∧
      ¬InOrder ((recorded Cfg.sample).run flushWithCommit).1
        ((recorded Cfg.sample).run flushWithCommit).2 := by
  refine ⟨by decide +kernel, by decide +kernel, by decide +kernel, by decide +kernel, ?_⟩
  intro inOrder
  exact absurd inOrder.committed_eq (by decide +kernel)

end Cva6Hpd.Lsu.StoreBuffer
