import Cva6Hpd.Lsu.StoreBuffer

/-!
# The two queues of the store buffer

Read as lists, the speculative queue holds the stores that have not committed and the
commit queue holds those that have committed and are not yet granted, behind at most one
cache-block operation that waits for its answer. A commit moves the oldest store from one
list to the other, and the data cache takes them from the other list in order, as long as
no flush falls into the cycle of a commit.
-/

namespace Cva6Hpd.Lsu.StoreBuffer

open Cva6Hpd.Ariane
open Cva6Hpd.Common

variable {cfg : Cfg}

/-! ## The queues as lists -/

section Views

variable (s : State cfg)

def specQueue : RingQueue depthSpec (Entry cfg) where
  mem := s.speculativeQueueQ
  rptr := s.speculativeReadPointerQ
  wptr := s.speculativeWritePointerQ
  count := s.speculativeStatusCntQ.toNat

def commitQueue : RingQueue depthCommit (Entry cfg) where
  mem := s.commitQueueQ
  rptr := s.commitReadPointerQ
  wptr := s.commitWritePointerQ
  count := s.commitStatusCntQ.toNat

/-- The stores that have not committed, oldest first. -/
def uncommitted : List (Store cfg) := (specQueue s).contents.map Entry.toStore

/-- The entries that have committed and are not yet granted. -/
def ungranted : List (Entry cfg) := (commitQueue s).contents.filter fun entry => !entry.waitRvalid

/-- The stores that have committed and are not yet granted, oldest first. -/
def waiting : List (Store cfg) := (ungranted s).map Entry.toStore

/-- Both rings are formed, and only the head of the commit queue can wait for an answer. -/
structure Consistent : Prop where
  spec : (specQueue s).Formed Entry.valid
  commit : (commitQueue s).Formed Entry.valid
  spec_fresh : ∀ entry ∈ (specQueue s).contents, entry.waitRvalid = false
  commit_fresh : ∀ entry ∈ (commitQueue s).contents.tail, entry.waitRvalid = false

end Views

/-- What the store unit and the commit stage keep to: a store is inserted where there is
room for it, and a commit finds a store and room for it. -/
structure Fits (s : State cfg) (i : Input cfg) : Prop where
  insert : i.valid = true → (specQueue s).count < depthSpec
  commit : i.commit = true → 0 < (specQueue s).count
  store : i.commit = true → (commitQueue s).count < depthCommit

theorem consistent_reset : Consistent (reset : State cfg) where
  spec :=
    { count_le := Nat.zero_le _
      wptr_eq := rfl
      valid_iff := fun k _ => by simp [specQueue, reset, Entry.zero] }
  commit :=
    { count_le := Nat.zero_le _
      wptr_eq := rfl
      valid_iff := fun k _ => by simp [commitQueue, reset, Entry.zero] }
  spec_fresh := by simp [RingQueue.contents, specQueue, reset]
  commit_fresh := by simp [RingQueue.contents, commitQueue, reset]

/-! ## One cycle of the speculative queue -/

section Speculative

variable {s : State cfg} {i : Input cfg}

/-- The queue with the inserted store. -/
def pushed (s : State cfg) (i : Input cfg) : RingQueue depthSpec (Entry cfg) :=
  if i.valid then (specQueue s).push (inserted i) else specQueue s

theorem toNat_statusCnt {cnt : BitVec 3} {up down : Bool} (room : up = true → cnt.toNat < 4)
    (limit : cnt.toNat ≤ 4) (filled : down = true → 0 < cnt.toNat) :
    (statusCnt cnt up down).toNat =
      (if up then cnt.toNat + 1 else cnt.toNat) - (if down then 1 else 0) := by
  unfold statusCnt
  cases up <;> cases down <;> simp at room filled ⊢ <;> bv_omega

theorem specQueue_step (consistent : Consistent s) (fits : Fits s i) (kept : i.flush = false) :
    specQueue (step s i) =
      if i.commit then (pushed s i).pop Entry.invalidate else pushed s i := by
  have limit : s.speculativeStatusCntQ.toNat ≤ depthSpec := consistent.spec.count_le
  have counted := toNat_statusCnt fits.insert limit fits.commit
  have reads := fits.commit
  cases commits : i.commit <;> cases inserts : i.valid <;>
    simp_all [specQueue, step, speculativeQueueD, evictQueue, insertQueue, pushed,
      speculativeReadPointerD, speculativeWritePointerD, speculativeStatusCntD, RingQueue.pop,
      RingQueue.push, RingQueue.modifyOldest]

theorem specQueue_step_of_flush (flushed : i.flush = true) (kept : i.commit = false) :
    specQueue (step s i) = (pushed s i).clear Entry.invalidate := by
  cases inserts : i.valid <;>
    simp [specQueue, step, speculativeQueueD, evictQueue, insertQueue, pushed, inserts, flushed,
      kept, speculativeReadPointerD, speculativeWritePointerD, speculativeStatusCntD,
      RingQueue.clear, RingQueue.push]

theorem formed_pushed (consistent : Consistent s) (fits : Fits s i) :
    (pushed s i).Formed Entry.valid := by
  unfold pushed
  split
  case isTrue inserts => exact consistent.spec.push (fits.insert inserts) rfl
  case isFalse => exact consistent.spec

theorem contents_pushed (consistent : Consistent s) (fits : Fits s i) :
    (pushed s i).contents =
      (specQueue s).contents ++ (if i.valid then [inserted i] else []) := by
  unfold pushed
  split
  case isTrue inserts => exact RingQueue.contents_push consistent.spec (fits.insert inserts) _
  case isFalse => rw [List.append_nil]

theorem count_pushed_pos (fits : Fits s i) (commits : i.commit = true) :
    0 < (pushed s i).count := by
  have filled := fits.commit commits
  unfold pushed
  split
  · exact Nat.succ_pos _
  · exact filled

theorem contents_specQueue_step (consistent : Consistent s) (fits : Fits s i)
    (kept : i.flush = false) :
    (specQueue (step s i)).contents =
      (if i.commit then (specQueue s).contents.tail else (specQueue s).contents) ++
        (if i.valid then [inserted i] else []) := by
  rw [specQueue_step consistent fits kept]
  cases commits : i.commit with
  | false =>
      simp only [Bool.false_eq_true, if_false]
      exact contents_pushed consistent fits
  | true =>
      have filled : (specQueue s).contents ≠ [] := by
        rw [← List.length_pos_iff, RingQueue.length_contents]
        exact fits.commit commits
      simp only [if_true]
      rw [RingQueue.contents_pop (formed_pushed consistent fits)
          (count_pushed_pos fits commits),
        contents_pushed consistent fits, List.tail_append_of_ne_nil filled]

theorem formed_specQueue_step (consistent : Consistent s) (fits : Fits s i)
    (separate : ¬(i.flush = true ∧ i.commit = true)) :
    (specQueue (step s i)).Formed Entry.valid := by
  cases flushes : i.flush with
  | true =>
      have kept : i.commit = false := by simpa [flushes] using separate
      rw [specQueue_step_of_flush flushes kept]
      exact RingQueue.formed_clear _ fun _ => rfl
  | false =>
      rw [specQueue_step consistent fits flushes]
      split
      case isTrue commits =>
        exact (formed_pushed consistent fits).pop (count_pushed_pos fits commits) rfl
      case isFalse => exact formed_pushed consistent fits

/-- A flush removes the stores that have not committed; otherwise a commit removes the
oldest of them, and an insertion appends one. -/
theorem uncommitted_step (consistent : Consistent s) (fits : Fits s i)
    (separate : ¬(i.flush = true ∧ i.commit = true)) :
    uncommitted (step s i) =
      if i.flush then []
      else (if i.commit then (uncommitted s).tail else uncommitted s) ++
        (if i.valid then [i.store] else []) := by
  cases flushes : i.flush with
  | true =>
      have kept : i.commit = false := by simpa [flushes] using separate
      rw [uncommitted, specQueue_step_of_flush flushes kept, RingQueue.contents_clear]
      rfl
  | false =>
      rw [uncommitted, contents_specQueue_step consistent fits flushes]
      cases i.commit <;> cases i.valid <;> simp [uncommitted, inserted]

end Speculative

/-! ## One cycle of the commit queue -/

section Commit

variable {s : State cfg} {i : Input cfg}

/-- The queue without what the data cache has taken. -/
def stored (s : State cfg) (i : Input cfg) : RingQueue depthCommit (Entry cfg) :=
  if evicts s i then (commitQueue s).pop Entry.invalidate
  else if awaits s i then (commitQueue s).modifyOldest Entry.await
  else commitQueue s

theorem oldest_commitQueue : (commitQueue s).oldest = head s :=
  rfl

theorem valid_of_granted (grant : granted s i = true) : (head s).valid = true := by
  simp only [granted, dataReq, Bool.and_eq_true] at grant
  exact grant.1.1.1

theorem valid_of_evicts (evict : evicts s i = true) : (head s).valid = true := by
  simp only [evicts, Bool.or_eq_true, Bool.and_eq_true] at evict
  rcases evict with ⟨grant, _⟩ | ⟨⟨isValid, _⟩, _⟩
  · exact valid_of_granted grant
  · exact isValid

theorem granted_of_awaits (await : awaits s i = true) : granted s i = true := by
  simp only [awaits, Bool.and_eq_true] at await
  exact await.1

theorem filled_of_valid (consistent : Consistent s) (isValid : (head s).valid = true) :
    0 < (commitQueue s).count :=
  consistent.commit.valid_oldest_iff.mp isValid

theorem toNat_commitStatusCntD (consistent : Consistent s) (fits : Fits s i) :
    (commitStatusCntD s i).toNat =
      (if evicts s i then s.commitStatusCntQ.toNat - 1 else s.commitStatusCntQ.toNat) +
        (if i.commit then 1 else 0) := by
  have limit : s.commitStatusCntQ.toNat ≤ 4 := consistent.commit.count_le
  have room : i.commit = true → s.commitStatusCntQ.toNat < 4 := fits.store
  have filled : evicts s i = true → 0 < s.commitStatusCntQ.toNat := fun evict =>
    filled_of_valid consistent (valid_of_evicts evict)
  revert room filled
  unfold commitStatusCntD
  cases evicts s i <;> cases i.commit <;> intro room filled <;> simp at room filled ⊢ <;>
    bv_omega

theorem commitQueue_step (consistent : Consistent s) (fits : Fits s i) :
    commitQueue (step s i) =
      if i.commit then (stored s i).push (specQueue s).oldest else stored s i := by
  have counted := toNat_commitStatusCntD consistent fits
  cases evict : evicts s i <;> cases await : awaits s i <;> cases commits : i.commit <;>
    simp_all [commitQueue, step, commitQueueD, storeQueue, stored, specQueue,
      commitReadPointerD, commitWritePointerD, RingQueue.pop, RingQueue.push,
      RingQueue.modifyOldest, RingQueue.oldest, head]

theorem formed_stored (consistent : Consistent s) : (stored s i).Formed Entry.valid := by
  unfold stored
  split
  case isTrue evict =>
    exact consistent.commit.pop (filled_of_valid consistent (valid_of_evicts evict)) rfl
  case isFalse =>
    split
    case isTrue => exact consistent.commit.modifyOldest rfl
    case isFalse => exact consistent.commit

theorem count_stored_le : (stored s i).count ≤ (commitQueue s).count := by
  unfold stored
  split
  · exact Nat.sub_le _ _
  · split <;> exact le_rfl

theorem contents_stored (consistent : Consistent s) :
    (stored s i).contents =
      if evicts s i then (commitQueue s).contents.tail
      else if awaits s i then (head s).await :: (commitQueue s).contents.tail
      else (commitQueue s).contents := by
  unfold stored
  split
  case isTrue evict =>
    exact RingQueue.contents_pop consistent.commit
      (filled_of_valid consistent (valid_of_evicts evict)) _
  case isFalse =>
    split
    case isTrue await =>
      have filled := filled_of_valid consistent (valid_of_granted (granted_of_awaits await))
      exact RingQueue.contents_modifyOldest consistent.commit filled _
    case isFalse => rfl

theorem formed_commitQueue_step (consistent : Consistent s) (fits : Fits s i) :
    (commitQueue (step s i)).Formed Entry.valid := by
  rw [commitQueue_step consistent fits]
  split
  case isTrue commits =>
    have room := fits.store commits
    exact (formed_stored consistent).push (count_stored_le.trans_lt room)
      (consistent.spec.valid_oldest_iff.mpr (fits.commit commits))
  case isFalse => exact formed_stored consistent

theorem contents_commitQueue_step (consistent : Consistent s) (fits : Fits s i) :
    (commitQueue (step s i)).contents =
      (stored s i).contents ++ (if i.commit then [(specQueue s).oldest] else []) := by
  rw [commitQueue_step consistent fits]
  split
  case isTrue commits =>
    have room := fits.store commits
    exact RingQueue.contents_push (formed_stored consistent) (count_stored_le.trans_lt room) _
  case isFalse => rw [List.append_nil]

theorem specQueue_contents_of_commit (fits : Fits s i) (commits : i.commit = true) :
    (specQueue s).contents = (specQueue s).oldest :: (specQueue s).contents.tail := by
  rw [RingQueue.contents_eq_cons (fits.commit commits), List.tail_cons]

theorem commitQueue_contents_of_valid (consistent : Consistent s)
    (isValid : (head s).valid = true) :
    (commitQueue s).contents = head s :: (commitQueue s).contents.tail := by
  rw [RingQueue.contents_eq_cons (filled_of_valid consistent isValid), List.tail_cons]
  rfl

theorem fresh_oldest (consistent : Consistent s) (fits : Fits s i) (commits : i.commit = true) :
    (specQueue s).oldest.waitRvalid = false := by
  apply consistent.spec_fresh
  rw [specQueue_contents_of_commit fits commits]
  exact List.mem_cons_self ..

theorem fresh_tail_stored (consistent : Consistent s) :
    ∀ entry ∈ (stored s i).contents.tail, entry.waitRvalid = false := by
  intro entry member
  rw [contents_stored consistent] at member
  split at member
  case isTrue => exact consistent.commit_fresh entry (List.mem_of_mem_tail member)
  case isFalse => split at member <;> exact consistent.commit_fresh entry member

theorem commit_fresh_step (consistent : Consistent s) (fits : Fits s i) :
    ∀ entry ∈ (commitQueue (step s i)).contents.tail, entry.waitRvalid = false := by
  rw [contents_commitQueue_step consistent fits]
  split
  case isTrue commits =>
    intro entry member
    rcases empty : (stored s i).contents with _ | ⟨first, rest⟩
    · simp [empty] at member
    · rw [empty, List.cons_append, List.tail_cons, List.mem_append,
        List.mem_singleton] at member
      rcases member with older | rfl
      · exact fresh_tail_stored consistent entry (by rwa [empty])
      · exact fresh_oldest consistent fits commits
  case isFalse =>
    rw [List.append_nil]
    exact fresh_tail_stored consistent

theorem spec_fresh_step (consistent : Consistent s) (fits : Fits s i)
    (separate : ¬(i.flush = true ∧ i.commit = true)) :
    ∀ entry ∈ (specQueue (step s i)).contents, entry.waitRvalid = false := by
  cases flushes : i.flush with
  | true =>
      have kept : i.commit = false := by simpa [flushes] using separate
      rw [specQueue_step_of_flush flushes kept, RingQueue.contents_clear]
      simp
  | false =>
      intro entry member
      rw [contents_specQueue_step consistent fits flushes, List.mem_append] at member
      rcases member with old | new
      · apply consistent.spec_fresh
        split at old
        · exact List.mem_of_mem_tail old
        · exact old
      · split at new
        · rw [List.mem_singleton.mp new, inserted]
        · simp at new

theorem consistent_step (consistent : Consistent s) (fits : Fits s i)
    (separate : ¬(i.flush = true ∧ i.commit = true)) : Consistent (step s i) where
  spec := formed_specQueue_step consistent fits separate
  commit := formed_commitQueue_step consistent fits
  spec_fresh := spec_fresh_step consistent fits separate
  commit_fresh := commit_fresh_step consistent fits

/-! ### What the data cache still has to grant -/

theorem ungranted_eq (consistent : Consistent s) (isValid : (head s).valid = true) :
    ungranted s =
      (if (head s).waitRvalid then [] else [head s]) ++ (commitQueue s).contents.tail := by
  have rest := List.filter_eq_self.mpr fun entry member =>
    congrArg not (consistent.commit_fresh entry member)
  rw [ungranted, commitQueue_contents_of_valid consistent isValid, List.filter_cons,
    List.tail_cons, rest]
  cases (head s).waitRvalid <;> simp

/-- The port presents the oldest ungranted store. -/
theorem ungranted_of_dataReq (consistent : Consistent s) (request : dataReq s i = true) :
    ungranted s = head s :: (commitQueue s).contents.tail := by
  simp only [dataReq, Bool.and_eq_true, Bool.not_eq_true'] at request
  rw [ungranted_eq consistent request.1.1, request.2]
  simp

theorem ungranted_stored (consistent : Consistent s) :
    ((stored s i).contents.filter fun entry => !entry.waitRvalid) =
      if granted s i then (ungranted s).tail else ungranted s := by
  have rest := List.filter_eq_self.mpr fun entry member =>
    congrArg not (consistent.commit_fresh entry member)
  rw [contents_stored consistent]
  cases grant : granted s i with
  | true =>
      have request : dataReq s i = true := by
        simp only [granted, Bool.and_eq_true] at grant
        exact grant.1
      have taken : evicts s i = true ∨ awaits s i = true := by
        simp only [evicts, awaits, grant]
        grind
      rw [ungranted_of_dataReq consistent request, if_pos rfl, List.tail_cons]
      split
      case isTrue => exact rest
      case isFalse stays =>
        rw [if_pos (taken.resolve_left stays), List.filter_cons]
        simpa [Entry.await] using rest
  | false =>
      have stays : awaits s i = false := by simp [awaits, grant]
      rw [if_neg Bool.false_ne_true, stays, if_neg Bool.false_ne_true]
      split
      case isTrue evict =>
        have answered : (head s).waitRvalid = true := by
          simp only [evicts, grant, Bool.false_and, Bool.false_or, Bool.and_eq_true] at evict
          exact evict.1.2
        rw [ungranted_eq consistent (valid_of_evicts evict), answered, rest]
        simp
      case isFalse => rfl

theorem waiting_step (consistent : Consistent s) (fits : Fits s i) :
    waiting (step s i) =
      (if granted s i then (waiting s).tail else waiting s) ++
        (if i.commit then (uncommitted s).take 1 else []) := by
  rw [waiting, ungranted, contents_commitQueue_step consistent fits, List.filter_append,
    ungranted_stored consistent, List.map_append]
  congr 1
  · cases granted s i <;> simp [waiting]
  · cases commits : i.commit with
    | false => rfl
    | true =>
        have fresh := fresh_oldest consistent fits commits
        rw [uncommitted, specQueue_contents_of_commit fits commits]
        simp [fresh]

end Commit

/-! ## What a load is checked against -/

section Checker

/-- The stores in both queues. -/
def held (s : State cfg) : List (Store cfg) :=
  (commitQueue s).contents.map Entry.toStore ++ uncommitted s

variable {s : State cfg} {i : Input cfg}

theorem mem_held_of_waiting {store : Store cfg} (member : store ∈ waiting s) :
    store ∈ held s := by
  rw [waiting, ungranted, List.mem_map] at member
  rcases member with ⟨entry, inside, rfl⟩
  exact List.mem_append_left _ (List.mem_map_of_mem (List.mem_of_mem_filter inside))

/-- The checker finds exactly the stores of the queues and the one that is inserted. -/
theorem pageOffsetMatches_iff (consistent : Consistent s) (pageOffset : BitVec 12) :
    pageOffsetMatches s i pageOffset = true ↔
      (∃ store ∈ held s, pageDword pageOffset = pageDword store.address) ∨
        (i.validWithoutFlush = true ∧ pageDword pageOffset = pageDword i.store.address) := by
  have committed := consistent.commit.exists_valid_iff
    fun entry => pageDword pageOffset = pageDword entry.address
  have speculative := consistent.spec.exists_valid_iff
    fun entry => pageDword pageOffset = pageDword entry.address
  rw [pageOffsetMatches, Bool.or_eq_true, Bool.or_eq_true, decide_eq_true_eq, decide_eq_true_eq,
    Bool.and_eq_true, decide_eq_true_eq]
  refine or_congr ((or_congr committed speculative).trans ?_) and_comm
  simp [held, uncommitted, or_and_right, exists_or]

theorem committed_of_step (consistent : Consistent s) (fits : Fits s i) {entry : Entry cfg}
    (member : entry ∈ (commitQueue (step s i)).contents) : entry.toStore ∈ held s := by
  rw [contents_commitQueue_step consistent fits, List.mem_append,
    contents_stored consistent] at member
  rcases member with kept | new
  · apply List.mem_append_left
    split at kept
    · exact List.mem_map_of_mem (List.mem_of_mem_tail kept)
    · split at kept
      case isTrue await =>
        have first := commitQueue_contents_of_valid consistent
          (valid_of_granted (granted_of_awaits await))
        rcases List.mem_cons.mp kept with rfl | rest
        · rw [first, List.map_cons]
          exact List.mem_cons_self ..
        · exact List.mem_map_of_mem (List.mem_of_mem_tail rest)
      case isFalse => exact List.mem_map_of_mem kept
  · split at new
    case isTrue commits =>
      apply List.mem_append_right
      rw [uncommitted, specQueue_contents_of_commit fits commits, List.map_cons,
        List.mem_singleton.mp new]
      exact List.mem_cons_self ..
    case isFalse => simp at new

/-- A store of either queue was there before, or it has just been inserted. -/
theorem held_of_step (consistent : Consistent s) (fits : Fits s i)
    (separate : ¬(i.flush = true ∧ i.commit = true)) {store : Store cfg}
    (member : store ∈ held (step s i)) :
    store ∈ held s ∨ (i.valid = true ∧ store = i.store) := by
  rcases List.mem_append.mp member with committed | speculative
  · rcases List.mem_map.mp committed with ⟨entry, inside, rfl⟩
    exact Or.inl (committed_of_step consistent fits inside)
  · rw [uncommitted_step consistent fits separate] at speculative
    split at speculative
    · simp at speculative
    · rcases List.mem_append.mp speculative with old | new
      · left
        apply List.mem_append_right
        split at old
        · exact List.mem_of_mem_tail old
        · exact old
      · right
        split at new
        case isTrue inserts => exact ⟨inserts, List.mem_singleton.mp new⟩
        case isFalse => simp at new

end Checker

end Cva6Hpd.Lsu.StoreBuffer
