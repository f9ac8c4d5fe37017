import Cva6Hpd.Common.Ring
import Cva6Hpd.Lsu.LoadStoreUnit

/-!
# What the two units do with the request at the head

The states in which the load unit or the store unit waits for a request that stays in the
bypass queue, and what one cycle without a flush leads to: which state follows which, and
when the request is taken. The bypass queue is read as a list.
-/

namespace Cva6Hpd.Lsu

open Cva6Hpd.Common

variable {cfg : Cfg}

/-! ## Load unit -/

namespace LoadUnit

/-- The load stays at the head of the bypass queue. -/
def FsmState.holds : FsmState → Bool
  | .idle | .sendTag | .waitFlush => false
  | _ => true

/-- The load has passed the check against the stores. -/
def FsmState.checked : FsmState → Bool
  | .waitGnt | .abortTransaction | .abortTransactionNi | .waitTranslation | .waitWbEmpty => true
  | _ => false

variable {s : State cfg} {i : Input cfg}

theorem holds_of_checked {state : FsmState} (checked : state.checked = true) :
    state.holds = true := by
  cases state <;> simp_all [FsmState.checked, FsmState.holds]

theorem valid_of_asks (ask : asks s i = true) : i.valid = true := by
  simp only [asks, acceptReq, Bool.and_eq_true] at ask
  exact ask.1.1.1

theorem unmatched_of_asks (ask : asks s i = true) : i.pageOffsetMatches = false := by
  simp only [asks, Bool.and_eq_true, Bool.not_eq_true'] at ask
  exact ask.2

/-- Only a load at the head is taken. -/
theorem valid_of_popLd (pop : popLd s i = true) : i.valid = true ∨ s.stateQ.holds = true := by
  cases state : s.stateQ <;> simp only [popLd, state, Bool.and_eq_true, Bool.false_eq_true] at pop
  case idle => exact Or.inl (valid_of_asks pop.1.1)
  case sendTag => exact Or.inl (valid_of_asks pop.1.1)
  all_goals exact Or.inr rfl

/-- What follows a request for a load that is kept if it is neither granted nor refused. -/
theorem requested_cases (i : Input cfg) (kept : FsmState) :
    (requested i kept = .sendTag ∧ i.reqPort.dataGnt = true ∧ sendsTag i = true) ∨
      (requested i kept ∈ [FsmState.waitGnt, .abortTransaction, .abortTransactionNi] ∧
        (i.reqPort.dataGnt && sendsTag i) = false) := by
  have gated : stallNi i = true → cfg.nonIdemPotenceEn = true := by
    simp only [stallNi, Bool.and_eq_true]
    exact fun stall => stall.2.2
  unfold requested sendsTag
  cases i.reqPort.dataGnt <;> cases cfg.mmuPresent <;> cases i.dtlbHit <;>
    cases stall : stallNi i <;> simp_all

/-- What follows `IDLE` and `SEND_TAG`. -/
theorem accepts_cases (s : State cfg) (i : Input cfg) :
    (accepts s i = .idle ∧ acceptReq s i = false) ∨
      (accepts s i ∈ [FsmState.waitPageOffset, .waitSpecLoad] ∧ i.valid = true ∧
        asks s i = false) ∨
      (accepts s i = requested i .idle ∧ asks s i = true) := by
  unfold accepts asks
  have valid : acceptReq s i = true → i.valid = true := by
    simp only [acceptReq, Bool.and_eq_true]
    exact And.left
  cases accept : acceptReq s i <;> cases mayAccess i <;> cases i.pageOffsetMatches <;>
    simp_all

/-- A load that waits in the next state is at the head, and it is not taken. -/
theorem holds_of_advances (next : (advances s i).holds = true) :
    popLd s i = false ∧ (i.valid = true ∨ s.stateQ.holds = true) := by
  have fresh : s.stateQ = .idle ∨ s.stateQ = .sendTag →
      popLd s i = false ∧ (i.valid = true ∨ s.stateQ.holds = true) := by
    intro state
    have advanced : advances s i = accepts s i := by
      rcases state with state | state <;> simp only [advances, state]
    have popped : popLd s i = (asks s i && i.reqPort.dataGnt && sendsTag i) := by
      rcases state with state | state <;> simp only [popLd, state]
    rw [advanced] at next
    rw [popped]
    rcases accepts_cases s i with ⟨idle, _⟩ | ⟨_, isValid, ask⟩ | ⟨request, ask⟩
    · rw [idle] at next
      cases next
    · exact ⟨by simp [ask], Or.inl isValid⟩
    · rw [request] at next
      rcases requested_cases i .idle with ⟨sent, _⟩ | ⟨_, kept⟩
      · rw [sent] at next
        cases next
      · exact ⟨by rw [ask, Bool.true_and, kept], Or.inl (valid_of_asks ask)⟩
  cases state : s.stateQ
  case idle => exact fresh (Or.inl state) |>.imp_right fun valid => by rwa [state] at valid
  case sendTag => exact fresh (Or.inr state) |>.imp_right fun valid => by rwa [state] at valid
  case waitGnt =>
    refine ⟨?_, Or.inr rfl⟩
    simp only [advances, state] at next
    simp only [popLd, state]
    rcases requested_cases i .waitGnt with ⟨sent, _⟩ | ⟨_, kept⟩
    · rw [sent] at next
      cases next
    · exact kept
  case waitSpecLoad =>
    refine ⟨?_, Or.inr rfl⟩
    simp only [advances, state] at next
    simp only [popLd, state]
    cases missed : misspeculated i <;> cases answer : i.reqPort.dataRvalid <;>
      simp_all [FsmState.holds]
  case waitTranslation =>
    refine ⟨?_, Or.inr rfl⟩
    simp only [advances, state] at next
    simp only [popLd, state]
    cases translated : cfg.mmuPresent || cfg.nonIdemPotenceEn <;> cases fault : i.ex.valid <;>
      simp_all [FsmState.holds]
  all_goals simp_all [advances, popLd, FsmState.holds]

/-- A load that has passed the check has passed it now, or it had before. -/
theorem checked_of_advances (next : (advances s i).checked = true) :
    i.pageOffsetMatches = false ∨ s.stateQ.checked = true := by
  have fresh : advances s i = accepts s i →
      i.pageOffsetMatches = false ∨ s.stateQ.checked = true := by
    intro advanced
    rw [advanced] at next
    rcases accepts_cases s i with ⟨idle, _⟩ | ⟨waits, _⟩ | ⟨_, ask⟩
    · rw [idle] at next
      cases next
    · simp only [List.mem_cons, List.not_mem_nil, or_false] at waits
      rcases waits with waits | waits <;> rw [waits] at next <;> cases next
    · exact Or.inl (unmatched_of_asks ask)
  cases state : s.stateQ
  case idle =>
    exact fresh (by simp only [advances, state]) |>.imp_right fun h => by rwa [state] at h
  case sendTag =>
    exact fresh (by simp only [advances, state]) |>.imp_right fun h => by rwa [state] at h
  case waitPageOffset =>
    left
    simp only [advances, state] at next
    cases matched : i.pageOffsetMatches with
    | false => rfl
    | true =>
        simp only [matched] at next
        cases next
  case waitSpecLoad =>
    simp only [advances, state] at next
    split at next
    · split at next <;> cases next
    · cases next
  case waitFlush =>
    simp only [advances, state] at next
    cases next
  all_goals exact Or.inr rfl

theorem sendTag_of_advances (next : advances s i = .sendTag) :
    popLd s i = true ∧ (i.pageOffsetMatches = false ∨ s.stateQ.checked = true) := by
  have fresh : advances s i = accepts s i →
      asks s i = true ∧ i.reqPort.dataGnt = true ∧ sendsTag i = true := by
    intro advanced
    rw [advanced] at next
    rcases accepts_cases s i with ⟨idle, _⟩ | ⟨waits, _⟩ | ⟨request, ask⟩
    · rw [idle] at next
      cases next
    · rw [next] at waits
      simp at waits
    · rw [request] at next
      rcases requested_cases i .idle with ⟨_, sent⟩ | ⟨other, _⟩
      · exact ⟨ask, sent⟩
      · rw [next] at other
        simp at other
  cases state : s.stateQ
  case idle =>
    rcases fresh (by simp only [advances, state]) with ⟨ask, grant, sent⟩
    exact ⟨by simp only [popLd, state, ask, grant, sent, Bool.and_self],
      Or.inl (unmatched_of_asks ask)⟩
  case sendTag =>
    rcases fresh (by simp only [advances, state]) with ⟨ask, grant, sent⟩
    exact ⟨by simp only [popLd, state, ask, grant, sent, Bool.and_self],
      Or.inl (unmatched_of_asks ask)⟩
  case waitGnt =>
    simp only [advances, state] at next
    rcases requested_cases i .waitGnt with ⟨_, grant, sent⟩ | ⟨other, _⟩
    · exact ⟨by simp only [popLd, state, grant, sent, Bool.and_self], Or.inr rfl⟩
    · rw [next] at other
      simp at other
  case waitFlush =>
    simp only [advances, state] at next
    cases next
  all_goals
    simp only [advances, state] at next
    split_ifs at next

/-- In a state other than `IDLE` the unit works on a load at the head. -/
theorem works_of_advances (next : advances s i ≠ .idle) :
    i.valid = true ∨ s.stateQ.holds = true := by
  cases target : advances s i
  case idle => exact absurd target next
  case sendTag => exact valid_of_popLd (sendTag_of_advances target).1
  case waitFlush =>
    cases state : s.stateQ
    case idle | sendTag =>
      have accepted : accepts s i = .waitFlush := by simpa only [advances, state] using target
      rcases accepts_cases s i with ⟨idle, _⟩ | ⟨_, isValid, _⟩ | ⟨_, ask⟩
      · rw [accepted] at idle
        cases idle
      · exact Or.inl isValid
      · exact Or.inl (valid_of_asks ask)
    case waitFlush => simp [advances, state] at target
    all_goals exact Or.inr rfl
  all_goals exact (holds_of_advances (by rw [target]; rfl)).2

end LoadUnit

/-! ## Store unit -/

namespace StoreUnit

/-- The store stays at the head of the bypass queue. -/
def FsmState.holds : FsmState → Bool
  | .waitTranslation | .waitStoreReady => true
  | _ => false

variable {s : State cfg} {i : Input cfg}

theorem valid_of_starts (start : starts s i = true) : i.valid = true := by
  unfold starts at start
  split at start
  · exact start
  · exact (Bool.and_eq_true_iff.mp start).1
  · cases start

/-- Only a store at the head is taken, unless the store that was taken last faults. -/
theorem valid_of_popSt (pop : popSt s i = true)
    (sound : ¬(s.stateQ = .validStore ∧ i.ex.valid = true)) :
    i.valid = true ∨ s.stateQ.holds = true := by
  simp only [popSt, excepts, Bool.or_eq_true, Bool.and_eq_true, decide_eq_true_eq] at pop
  rcases pop with ⟨⟨start, _⟩, _⟩ | ⟨fault, busy⟩
  · exact Or.inl (valid_of_starts start)
  · right
    cases state : s.stateQ with
    | idle => exact absurd state busy
    | validStore => exact absurd ⟨state, fault⟩ sound
    | waitTranslation => rfl
    | waitStoreReady => rfl

/-- The states behind a request. -/
theorem advances_cases (s : State cfg) (i : Input cfg) :
    advances s i = .idle ∨
      (advances s i = .validStore ∧ starts s i = true ∧ stReady s i = true) ∨
      ((advances s i).holds = true ∧ (starts s i && translates i && stReady s i) = false ∧
        (i.valid = true ∨ s.stateQ.holds = true)) := by
  have valid := valid_of_starts (s := s) (i := i)
  unfold advances
  cases state : s.stateQ <;> simp only
  case waitTranslation =>
    split
    · exact Or.inl rfl
    · exact Or.inr (Or.inr ⟨rfl, by simp [starts, state], Or.inr rfl⟩)
  case waitStoreReady =>
    split
    · exact Or.inl rfl
    · exact Or.inr (Or.inr ⟨rfl, by simp [starts, state], Or.inr rfl⟩)
  all_goals
    cases start : starts s i <;> cases isReady : stReady s i <;> cases translates i <;>
      simp_all [FsmState.holds]

theorem validStore_of_stateD (next : stateD s i = .validStore) :
    i.flush = false ∧ i.valid = true ∧ stReady s i = true := by
  unfold stateD at next
  split at next
  case isTrue => cases next
  case isFalse undisturbed =>
    rcases advances_cases s i with idle | ⟨_, start, isReady⟩ | ⟨holds, _⟩
    · rw [idle] at next
      cases next
    · exact ⟨by simp_all, valid_of_starts start, isReady⟩
    · rw [next] at holds
      cases holds

/-- In a state other than `IDLE` the unit works on a store at the head. -/
theorem works_of_stateD (next : stateD s i ≠ .idle) : i.valid = true ∨ s.stateQ.holds = true := by
  unfold stateD at next
  split at next
  case isTrue => exact absurd rfl next
  case isFalse =>
    rcases advances_cases s i with idle | ⟨_, start, _⟩ | ⟨_, _, works⟩
    · exact absurd idle next
    · exact Or.inl (valid_of_starts start)
    · exact works

/-- A store that waits in the next state is at the head, and it is not taken. -/
theorem holds_of_stateD (next : (stateD s i).holds = true) :
    i.flush = false ∧ popSt s i = false ∧ (i.valid = true ∨ s.stateQ.holds = true) := by
  unfold stateD at next
  split at next
  case isTrue => cases next
  case isFalse undisturbed =>
    simp only [Bool.or_eq_true, not_or, Bool.not_eq_true] at undisturbed
    rcases advances_cases s i with idle | ⟨valid, _⟩ | ⟨_, kept, head⟩
    · rw [idle] at next
      cases next
    · rw [valid] at next
      cases next
    · exact ⟨undisturbed.1, by rw [popSt, kept, undisturbed.2, Bool.or_false], head⟩

end StoreUnit

/-! ## Bypass queue -/

namespace LsuBypass

open Cva6Hpd.Common.FifoRegs (advance)

/-- The registers as a queue. -/
def queue (s : State cfg) : RingQueue 2 (LsuCtrl cfg) where
  mem := s.memQ
  rptr := s.readPointerQ
  wptr := s.writePointerQ
  count := s.statusCntQ.toNat

def taken (request : LsuCtrl cfg) : LsuCtrl cfg := { request with valid := false }

variable {s : State cfg} {i : Input cfg}

/-- The queue with the request that arrives. -/
def arrived (s : State cfg) (i : Input cfg) : RingQueue 2 (LsuCtrl cfg) :=
  if i.lsuReqValid then (queue s).push (resolved i) else queue s

theorem toNat_statusCnt (single : ¬(i.popLd = true ∧ i.popSt = true))
    (room : i.lsuReqValid = true → s.statusCntQ.toNat < 2) (limit : s.statusCntQ.toNat ≤ 2)
    (filled : i.popLd = true ∨ i.popSt = true → 0 < (arrived s i).count) :
    (statusCnt s i).toNat =
      (arrived s i).count - (if i.popLd || i.popSt then 1 else 0) := by
  revert room filled single
  unfold statusCnt arrived
  cases i.lsuReqValid <;> cases i.popLd <;> cases i.popSt <;> intro single room filled <;>
    simp [RingQueue.push, queue] at single room filled ⊢ <;> bv_omega

theorem queue_step (kept : i.flush = false) (single : ¬(i.popLd = true ∧ i.popSt = true))
    (room : i.lsuReqValid = true → s.statusCntQ.toNat < 2) (limit : s.statusCntQ.toNat ≤ 2)
    (filled : i.popLd = true ∨ i.popSt = true → 0 < (arrived s i).count) :
    queue (step s i) =
      if i.popLd || i.popSt then (arrived s i).pop taken else arrived s i := by
  have counted := toNat_statusCnt single room limit filled
  cases arrives : i.lsuReqValid <;> cases load : i.popLd <;> cases store : i.popSt <;>
    simp_all [queue, step, arrived, popMem, writeMem, readPointer, RingQueue.push,
      RingQueue.pop, RingQueue.modifyOldest, taken]

theorem queue_step_of_flush (flushed : i.flush = true) :
    queue (step s i) = queue (reset : State cfg) := by
  simp [queue, step, reset, flushed]

theorem formed_reset : (queue (reset : State cfg)).Formed LsuCtrl.valid where
  count_le := Nat.zero_le _
  wptr_eq := rfl
  valid_iff k _ := by simp [queue, reset, noRequest]

theorem resolved_fu : (resolved i).fu = i.lsuReq.fu := by
  unfold resolved
  split_ifs <;> rfl

theorem resolved_vaddr : (resolved i).vaddr = i.lsuReq.vaddr := by
  unfold resolved
  split_ifs <;> rfl

theorem resolved_valid : (resolved i).valid = i.lsuReq.valid := by
  unfold resolved
  split_ifs <;> rfl

/-- The oldest request is the one at the head, up to what its branch has told. -/
theorem lsuCtrl_eq (formed : (queue s).Formed LsuCtrl.valid)
    (room : i.lsuReqValid = true → s.statusCntQ.toNat < 2)
    (filled : 0 < (arrived s i).count) :
    (lsuCtrl s i.lsuReq).fu = (arrived s i).oldest.fu ∧
      (lsuCtrl s i.lsuReq).vaddr = (arrived s i).oldest.vaddr := by
  cases none : empty s with
  | true =>
      have zero : s.statusCntQ = 0 := by simpa [empty] using none
      have behind : s.writePointerQ = s.readPointerQ := by
        have place := formed.wptr_eq
        simpa [queue, zero] using place
      unfold arrived at filled ⊢
      split at filled
      case isTrue arrives =>
        rw [if_pos arrives]
        simp [lsuCtrl, none, RingQueue.oldest, RingQueue.push, queue, behind, resolved_fu,
          resolved_vaddr]
      case isFalse => simp [queue, zero] at filled
  | false =>
      have positive : 0 < s.statusCntQ.toNat := by
        have some_ : s.statusCntQ ≠ 0 := by simpa [empty] using none
        bv_omega
      have same : (arrived s i).oldest = (queue s).oldest := by
        unfold arrived
        split
        case isTrue arrives => exact RingQueue.oldest_push formed positive (room arrives) _
        case isFalse => rfl
      rw [same]
      simp [lsuCtrl, none, RingQueue.oldest, queue]

end LsuBypass

end Cva6Hpd.Lsu
