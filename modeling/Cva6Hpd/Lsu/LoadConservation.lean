import Cva6Hpd.Lsu.LoadBuffer

/-!
# Every load is written back once

The loads that leave the head of the queue are numbered in this order. In every run each of
them has one write-back, or was flushed before, or waits for the answer to one request. Its
write-back has its identifier, is an exception exactly if its translation faulted, and has the
data of the answer to its own request; only a load that is removed behind a branch that was
predicted wrongly is written back without data.
-/

namespace Cva6Hpd.Lsu.LoadUnit

open Cva6Hpd.Hw

variable {cfg : Cfg}

/-! ## What a cycle does -/

/-- A request was granted whose load stays at the head. -/
def Aborts (cfg : Cfg) (state : FsmState) : Prop :=
  (state = .abortTransaction ∧ cfg.mmuPresent = true) ∨
    (state = .abortTransactionNi ∧ cfg.nonIdemPotenceEn = true)

/-- The unit will write an entry that has to be free. -/
def FsmState.needsRoom : FsmState → Bool
  | .waitGnt | .waitPageOffset | .waitTranslation | .waitWbEmpty => true
  | _ => false

section Control

variable {s : State cfg} {i : Input cfg}

/-- The load at the head is taken without a request. -/
def Leaves (s : State cfg) (i : Input cfg) : Prop :=
  i.reqPort.dataRvalid = false ∧
    ((s.stateQ = .waitSpecLoad ∧ misspeculated i = true) ∨
      (s.stateQ = .waitTranslation ∧ (cfg.mmuPresent || cfg.nonIdemPotenceEn) = true ∧
        i.ex.valid = true))

theorem requested_of_grant (kept : FsmState) (grant : i.reqPort.dataGnt = true) :
    (sendsTag i = true ∧ requested i kept = .sendTag) ∨
      (sendsTag i = false ∧ Aborts cfg (requested i kept)) := by
  have gated : stallNi i = true → cfg.nonIdemPotenceEn = true := by
    simp only [stallNi, Bool.and_eq_true]
    exact fun stall => stall.2.2
  unfold requested sendsTag Aborts
  cases cfg.mmuPresent <;> cases i.dtlbHit <;> cases stall : stallNi i <;> simp_all

theorem requested_of_refusal (kept : FsmState) (grant : i.reqPort.dataGnt = false) :
    requested i kept = .waitGnt := by
  simp [requested, grant]

/-- What a cycle without a flush does with the load at the head: its tag follows a granted
request, it stays behind one, it leaves without one, or it waits. -/
inductive Does (s : State cfg) (i : Input cfg) : Prop where
  | sends (popped : popLd s i = true) (granted : ldbufW s i = true)
      (next : advances s i = .sendTag)
      (room : acceptReq s i = true ∨ s.stateQ = .waitGnt) : Does s i
  | aborts (popped : popLd s i = false) (granted : ldbufW s i = true)
      (next : Aborts cfg (advances s i))
      (room : acceptReq s i = true ∨ s.stateQ = .waitGnt) : Does s i
  | leaves (popped : popLd s i = true) (granted : ldbufW s i = false)
      (next : advances s i = .idle) (leaves : Leaves s i) : Does s i
  | waits (popped : popLd s i = false) (granted : ldbufW s i = false)
      (next : advances s i = .idle ∨ advances s i = .waitSpecLoad ∨
        (advances s i).needsRoom = true ∧
          (acceptReq s i = true ∨ s.stateQ.needsRoom = true ∨ Aborts cfg s.stateQ))
      (stays : ¬ Leaves s i) : Does s i

theorem does_of_request (kept : FsmState) (asks : dataReq s i = true)
    (popped : popLd s i = (i.reqPort.dataGnt && sendsTag i))
    (next : advances s i = requested i kept)
    (room : acceptReq s i = true ∨ s.stateQ = .waitGnt) (stays : ¬ Leaves s i) : Does s i := by
  cases grant : i.reqPort.dataGnt
  · refine .waits (by simp [popped, grant]) (by simp [ldbufW, grant]) ?_ stays
    rw [next, requested_of_refusal kept grant]
    refine Or.inr (Or.inr ⟨rfl, ?_⟩)
    rcases room with accepted | waits
    · exact Or.inl accepted
    · exact Or.inr (Or.inl (by rw [waits]; rfl))
  · have granted : ldbufW s i = true := by simp [ldbufW, asks, grant]
    rcases requested_of_grant kept grant with ⟨sent, equal⟩ | ⟨kept', abort⟩
    · exact .sends (by simp [popped, grant, sent]) granted (next.trans equal) room
    · exact .aborts (by simp [popped, kept']) granted (next ▸ abort) room

theorem does_of_wait (asks : dataReq s i = false) (popped : popLd s i = false)
    (next : advances s i = .idle ∨ advances s i = .waitSpecLoad ∨
      (advances s i).needsRoom = true ∧
        (acceptReq s i = true ∨ s.stateQ.needsRoom = true ∨ Aborts cfg s.stateQ))
    (stays : ¬ Leaves s i) : Does s i :=
  .waits popped (by simp [ldbufW, asks]) next stays

/-- A new load is considered. -/
theorem does_of_fresh (fresh : s.stateQ = .idle ∨ s.stateQ = .sendTag) : Does s i := by
  have advanced : advances s i = accepts s i := by
    rcases fresh with state | state <;> simp only [advances, state]
  have popped : popLd s i = (asks s i && i.reqPort.dataGnt && sendsTag i) := by
    rcases fresh with state | state <;> simp only [popLd, state]
  have requests : dataReq s i = asks s i := by
    rcases fresh with state | state <;> simp only [dataReq, state]
  have stays : ¬ Leaves s i := by
    rintro ⟨_, ⟨state, _⟩ | ⟨state, _⟩⟩ <;> rcases fresh with other | other <;>
      simp [other] at state
  cases asked : asks s i
  · refine .waits (by simp [popped, asked]) (by simp [ldbufW, requests, asked]) ?_ stays
    rw [advanced]
    cases accepted : acceptReq s i
    · exact Or.inl (by simp [accepts, accepted])
    · rcases accepts_cases s i with ⟨_, refused⟩ | ⟨next, _⟩ | ⟨_, yes⟩
      · simp [accepted] at refused
      · simp only [List.mem_cons, List.not_mem_nil, or_false] at next
        rcases next with next | next
        · exact Or.inr (Or.inr ⟨by rw [next]; rfl, Or.inl rfl⟩)
        · exact Or.inr (Or.inl next)
      · simp [asked] at yes
  · have accepted : acceptReq s i = true := by
      simp only [asks, Bool.and_eq_true] at asked
      exact asked.1.1
    have next : advances s i = requested i .idle := by
      rcases accepts_cases s i with ⟨_, refused⟩ | ⟨_, _, no⟩ | ⟨next, _⟩
      · simp [accepted] at refused
      · simp [asked] at no
      · exact advanced.trans next
    exact does_of_request .idle (requests.trans asked) (by simp [popped, asked]) next
      (Or.inl accepted) stays

theorem does (s : State cfg) (i : Input cfg) : Does s i := by
  cases state : s.stateQ
  case idle => exact does_of_fresh (Or.inl state)
  case sendTag => exact does_of_fresh (Or.inr state)
  case waitGnt =>
    refine does_of_request .waitGnt (by simp only [dataReq, state])
      (by simp only [popLd, state]) (by simp only [advances, state]) (Or.inr state) ?_
    rintro ⟨_, ⟨other, _⟩ | ⟨other, _⟩⟩ <;> simp [state] at other
  case waitPageOffset =>
    refine does_of_wait (by simp only [dataReq, state]) (by simp only [popLd, state]) ?_
      (by simp [Leaves, state])
    right; right
    simp only [advances, state]
    split <;> simp [FsmState.needsRoom]
  case abortTransaction =>
    refine does_of_wait (by simp only [dataReq, state]) (by simp only [popLd, state]) ?_
      (by simp [Leaves, state])
    simp only [advances, state]
    split
    · next present => exact Or.inr (Or.inr ⟨rfl, Or.inr (Or.inr (Or.inl ⟨rfl, present⟩))⟩)
    · exact Or.inl rfl
  case abortTransactionNi =>
    refine does_of_wait (by simp only [dataReq, state]) (by simp only [popLd, state]) ?_
      (by simp [Leaves, state])
    simp only [advances, state]
    split
    · next present => exact Or.inr (Or.inr ⟨rfl, Or.inr (Or.inr (Or.inr ⟨rfl, present⟩))⟩)
    · exact Or.inl rfl
  case waitWbEmpty =>
    refine does_of_wait (by simp only [dataReq, state]) (by simp only [popLd, state]) ?_
      (by simp [Leaves, state])
    simp only [advances, state]
    split
    · exact Or.inr (Or.inr ⟨rfl, Or.inr (Or.inl rfl)⟩)
    · exact Or.inl rfl
  case waitFlush =>
    exact does_of_wait (by simp only [dataReq, state]) (by simp only [popLd, state])
      (Or.inl (by simp only [advances, state])) (by simp [Leaves, state])
  case waitSpecLoad =>
    have asks : dataReq s i = false := by simp only [dataReq, state]
    have popped : popLd s i = (misspeculated i && !i.reqPort.dataRvalid) := by
      simp only [popLd, state]
    have next : advances s i =
        if misspeculated i && i.reqPort.dataRvalid then .waitSpecLoad else .idle := by
      simp only [advances, state]
      cases misspeculated i <;> cases i.reqPort.dataRvalid <;> rfl
    by_cases leaves : Leaves s i
    · obtain ⟨unanswered, missed⟩ : i.reqPort.dataRvalid = false ∧ misspeculated i = true := by
        simpa [Leaves, state] using leaves
      exact .leaves (by simp [popped, unanswered, missed]) (by simp [ldbufW, asks])
        (by simp [next, unanswered]) leaves
    · have stays : (misspeculated i && !i.reqPort.dataRvalid) = false := by
        cases missed : misspeculated i <;> cases answered : i.reqPort.dataRvalid <;>
          simp_all [Leaves]
      refine does_of_wait asks (popped.trans stays) ?_ leaves
      rw [next]
      split
      · exact Or.inr (Or.inl rfl)
      · exact Or.inl rfl
  case waitTranslation =>
    have asks : dataReq s i = false := by simp only [dataReq, state]
    have popped : popLd s i =
        ((cfg.mmuPresent || cfg.nonIdemPotenceEn) && i.ex.valid && !i.reqPort.dataRvalid) := by
      simp only [popLd, state]
    by_cases leaves : Leaves s i
    · obtain ⟨unanswered, translates, fault⟩ : i.reqPort.dataRvalid = false ∧
          (cfg.mmuPresent || cfg.nonIdemPotenceEn) = true ∧ i.ex.valid = true := by
        simpa only [Leaves, state, true_and, reduceCtorEq, false_and, false_or] using leaves
      exact .leaves (by simp [popped, unanswered, translates, fault]) (by simp [ldbufW, asks])
        (by simp [advances, state, fault]) leaves
    · have stays :
          ((cfg.mmuPresent || cfg.nonIdemPotenceEn) && i.ex.valid && !i.reqPort.dataRvalid) =
            false := by
        cases translates : cfg.mmuPresent || cfg.nonIdemPotenceEn <;>
          cases fault : i.ex.valid <;> cases answered : i.reqPort.dataRvalid <;>
          simp_all [Leaves]
      refine does_of_wait asks (popped.trans stays) ?_ leaves
      simp only [advances, state]
      split
      · split
        · exact Or.inl rfl
        · split <;> exact Or.inr (Or.inr ⟨rfl, Or.inr (Or.inl rfl)⟩)
      · exact Or.inl rfl

theorem leaves_iff_popLd :
    Leaves s i ↔ popLd s i = true ∧ ldbufW s i = false := by
  constructor
  · rintro ⟨unanswered, ⟨state, missed⟩ | ⟨state, translates, fault⟩⟩
    · simp [popLd, ldbufW, dataReq, state, missed, unanswered]
    · simp [popLd, ldbufW, dataReq, state, fault, unanswered, translates]
  · rintro ⟨popped, refused⟩
    cases does s i with
    | sends _ granted => simp [refused] at granted
    | aborts _ granted => simp [refused] at granted
    | leaves _ _ _ leaves => exact leaves
    | waits stays => simp [popped] at stays

end Control

/-! ## What is claimed of a history -/

/-- What the unit makes of the data of a cycle for a load. -/
def resultOf (ctrl : LsuCtrl cfg) (i : Input cfg) : BitVec cfg.xlen :=
  result { (reset : State cfg) with ldbufQ := fun _ => entryOf ctrl } i

/-- The write-back has the identifier of its load; an exception is a fault of the load, and
otherwise it has the data of the answer to the request of the load, or the load was dropped. -/
def Owned (h : History cfg) (write : WriteBack cfg) : Prop :=
  ∃ ctrl, h.taken[write.load]? = some ctrl ∧ write.transId = ctrl.transId ∧
    (write.exception = true → write.load ∈ h.faults) ∧
    (write.exception = false →
      (∃ number request, write.answer = some number ∧ h.requests[number]? = some request ∧
        request.load = write.load ∧ request.ctrl = ctrl ∧
        write.result = resultOf ctrl write.input) ∨
      write.load ∈ h.dropped)

/-- Each load has one write-back, or was flushed, or waits for one answer. -/
structure Conserved (h : History cfg) : Prop where
  account : (h.writes.map WriteBack.load ++ h.flushed ++ h.waiting.map Prod.fst).Perm
    (List.range h.taken.length)
  owned : ∀ write ∈ h.writes, Owned h write
  exception : ∀ write ∈ h.writes, write.load ∈ h.faults → write.exception = true
  waits : ∀ load ∈ h.waiting, ∃ request, Open h load.2 request ∧ request.load = load.1 ∧
    h.taken[load.1]? = some request.ctrl

/-! ## The invariant -/

/-- The request of the last cycle is killed in this one whatever its translation is. -/
def Kills (cfg : Cfg) (state : FsmState) : Prop :=
  state = .waitFlush ∨ Aborts cfg state

structure Follows (s : State cfg) (h : History cfg) : Prop where
  tracks : Tracks s h
  waits : ∀ load ∈ h.waiting, ∃ request, Open h load.2 request ∧ request.load = load.1 ∧
    s.ldbufFlushedQ request.id = false ∧ h.taken[load.1]? = some request.ctrl
  live : ∀ {number request}, Open h number request → s.ldbufFlushedQ request.id = false →
    (request.load, number) ∈ h.waiting ∨ (h.tag = some number ∧ Kills cfg s.stateQ)
  tag : ∀ {number}, h.tag = some number → ∃ request, Open h number request ∧
    request.id = s.ldbufLastIdQ ∧
      ((s.stateQ = .sendTag ∧ (request.load, number) ∈ h.waiting) ∨
        (Kills cfg s.stateQ ∧ ∀ load ∈ h.waiting, load.2 ≠ number))
  tagged : s.stateQ = .sendTag ∨ Aborts cfg s.stateQ → ∃ number, h.tag = some number
  flushed : s.stateQ = .waitFlush → h.waiting = []
  room : s.stateQ.needsRoom = true → ∃ entry, s.ldbufValidQ entry = false
  head : s.stateQ.holds = true → ∃ load, h.head = some load
  account : (h.writes.map WriteBack.load ++ h.flushed ++ h.waiting.map Prod.fst).Perm
    (List.range h.taken.length)
  owned : ∀ write ∈ h.writes, Owned h write
  faults : ∀ load ∈ h.faults, ∃ write ∈ h.writes, write.load = load ∧ write.exception = true

namespace Follows

variable {s : State cfg} {c : Cycle cfg} {h : History cfg}

theorem killReq_of_kills {i : Input cfg} (kills : Kills cfg s.stateQ) : killReq s i = true := by
  rcases kills with state | ⟨state, present⟩ | ⟨state, present⟩
  · simp only [killReq, state]
  · simp only [killReq, state, present]
  · simp only [killReq, state, present]

/-- The load at the head stays there. -/
theorem valid_of_holds (follows : Follows s h) (env : Environment (s, h) c)
    (holds : s.stateQ.holds = true) : c.input.valid = true := by
  rcases follows.head holds with ⟨load, head⟩
  exact (env.head load head).1

/-! ### Entries -/

theorem free_of_room (follows : Follows s h)
    (room : acceptReq s c.input = true ∨ s.stateQ.needsRoom = true) :
    (fallthrough cfg = true ∧ c.input.reqPort.dataRvalid = true) ∨
      ∃ entry, s.ldbufValidQ entry = false := by
  rcases room with accepted | needs
  · simp only [acceptReq, ldbufR, Bool.and_eq_true, Bool.or_eq_true, Bool.not_eq_true'] at accepted
    rcases accepted.2 with free | falls
    · right
      simpa [ldbufFull, Bits.all] using free
    · exact Or.inl falls
  · exact Or.inr (follows.room needs)

theorem handed (follows : Follows s h) (fits : cfg.nrLoadBufEntries ≤ 2 ^ cfg.dcacheIdWidth)
    (env : Environment (s, h) c) : Handed s c h := by
  intro write number request opened live same
  have room : acceptReq s c.input = true ∨ s.stateQ.needsRoom = true := by
    cases does s c.input with
    | sends _ _ _ room => exact room.imp_right fun state => by rw [state]; rfl
    | aborts _ _ _ room => exact room.imp_right fun state => by rw [state]; rfl
    | leaves _ granted => simp [write] at granted
    | waits _ granted => simp [write] at granted
  by_cases falls : fallthrough cfg = true ∧ c.input.reqPort.dataRvalid = true
  · have index : ldbufWindex s c.input = ldbufRindex c.input := by
      simp [ldbufWindex, ldbufR, falls]
    exact live ((freed_iff fits follows.tracks env opened).mpr
      ⟨falls.2, index.symm.trans same.symm⟩)
  · rcases follows.free_of_room room with falls' | ⟨entry, free⟩
    · exact falls falls'
    · have unused : s.ldbufValidQ (ldbufWindex s c.input) = false := by
        have index : ldbufWindex s c.input =
            Bits.firstIndex fun entry => !s.ldbufValidQ entry := by
          rw [ldbufWindex, if_neg (by simpa [ldbufR] using falls)]
        have hit :=
          @Bits.firstIndex_hit _ _ (fun entry => !s.ldbufValidQ entry) entry (by simp [free])
        rw [index]
        simpa using hit
      have used := (follows.tracks.valid_iff _).mpr ⟨number, request, opened, same⟩
      simp [unused] at used

/-! ### Write-backs -/

theorem index_of_answer (follows : Follows s h)
    (fits : cfg.nrLoadBufEntries ≤ 2 ^ cfg.dcacheIdWidth) (env : Environment (s, h) c)
    {number : Nat} {request : Request cfg} (opened : Open h number request)
    (answered : answer c = some number) :
    c.input.reqPort.dataRvalid = true ∧ ldbufRindex c.input = request.id :=
  (freed_iff fits follows.tracks env opened).mp answered

theorem answersValid_of_waiting (follows : Follows s h)
    (fits : cfg.nrLoadBufEntries ≤ 2 ^ cfg.dcacheIdWidth) (env : Environment (s, h) c)
    {load : Nat × Nat} (member : load ∈ h.waiting) (answered : answer c = some load.2) :
    answers s c.input = true ∧ answersValid s c.input = true := by
  rcases follows.waits load member with ⟨request, opened, _, unflushed, _⟩
  rcases follows.index_of_answer fits env opened answered with ⟨valid, index⟩
  have isAnswer : answers s c.input = true := by simp [answers, valid, index, unflushed]
  refine ⟨isAnswer, ?_⟩
  cases kill : killReq s c.input
  · simp [answersValid, isAnswer, kill]
  · -- a killed request is answered in this cycle, so that this load is the one of the tag
    cases tag : h.tag with
    | none =>
      have untagged := fun state => follows.tagged state
      simp only [tag, reduceCtorEq, exists_false, imp_false, not_or] at untagged
      cases state : s.stateQ <;> simp only [killReq, state, Bool.false_eq_true] at kill
      case sendTag => exact absurd state untagged.1
      case waitFlush => simp [follows.flushed state] at member
      case abortTransaction => exact absurd (Or.inl ⟨state, kill⟩) untagged.2
      case abortTransactionNi => exact absurd (Or.inr ⟨state, kill⟩) untagged.2
    | some number =>
      have same := (env.kills number tag kill).2
      have number_eq : number = load.2 := by
        rw [answer, if_pos valid, Option.some.injEq] at answered
        exact same.symm.trans answered
      rcases follows.tag tag with ⟨_, _, _, ⟨state, _⟩ | ⟨_, absent⟩⟩
      · have fault : c.input.ex.valid = true := by simpa only [killReq, state] using kill
        simp [answersValid, answersEx, isAnswer, fault, state]
      · exact absurd number_eq.symm (absent load member)

theorem waiting_of_answersValid (follows : Follows s h)
    (fits : cfg.nrLoadBufEntries ≤ 2 ^ cfg.dcacheIdWidth) (env : Environment (s, h) c)
    (valid : answersValid s c.input = true) :
    ∃ load ∈ h.waiting, answer c = some load.2 := by
  have isAnswer : answers s c.input = true := by
    simp only [answersValid, answersEx, Bool.or_eq_true, Bool.and_eq_true] at valid
    rcases valid with ⟨isAnswer, _⟩ | ⟨⟨isAnswer, _⟩, _⟩ <;> exact isAnswer
  simp only [answers, Bool.and_eq_true, Bool.not_eq_true'] at isAnswer
  rcases env.answers isAnswer.1 with ⟨request, opened, rid⟩
  have index := ldbufRindex_eq fits rid
  have answered : answer c = some c.request := by rw [answer, if_pos isAnswer.1]
  rcases follows.live opened (index ▸ isAnswer.2) with member | ⟨tag, kills⟩
  · exact ⟨_, member, answered⟩
  · rcases follows.tag tag with ⟨last, opened', id, _⟩
    obtain rfl : last = request := by simpa [opened.1] using opened'.1.symm
    have notTag : s.stateQ ≠ .sendTag := by
      intro state
      rcases kills with other | ⟨other, _⟩ | ⟨other, _⟩ <;> simp [state] at other
    simp [answersValid, answersEx, notTag, killReq_of_kills kills, index, id] at valid

/-- A load that leaves the head is written back in the same cycle. -/
theorem leaves_iff (follows : Follows s h) (env : Environment (s, h) c) :
    (excepts s c.input || drops s c.input) = true ↔ Leaves s c.input := by
  have holds : s.stateQ = .waitTranslation ∨ s.stateQ = .waitSpecLoad →
      c.input.valid = true := by
    rintro (state | state) <;> exact follows.valid_of_holds env (by rw [state]; rfl)
  simp only [excepts, drops, Leaves, Bool.or_eq_true, Bool.and_eq_true, Bool.not_eq_true',
    decide_eq_true_eq]
  constructor
  · rintro (⟨⟨⟨⟨translates, state⟩, unanswered⟩, fault⟩, _⟩ | ⟨⟨⟨state, missed⟩, unanswered⟩, _⟩)
    · exact ⟨unanswered, Or.inr ⟨state, translates, fault⟩⟩
    · exact ⟨unanswered, Or.inl ⟨state, missed⟩⟩
  · rintro ⟨unanswered, ⟨state, missed⟩ | ⟨state, translates, fault⟩⟩
    · exact Or.inr ⟨⟨⟨state, missed⟩, unanswered⟩, holds (Or.inr state)⟩
    · exact Or.inl ⟨⟨⟨⟨translates, state⟩, unanswered⟩, fault⟩, holds (Or.inl state)⟩

/-! ### Account -/

theorem account_nodup (follows : Follows s h) :
    (h.writes.map WriteBack.load ++ h.flushed ++ h.waiting.map Prod.fst).Nodup :=
  follows.account.nodup_iff.mpr List.nodup_range

theorem waiting_nodup (follows : Follows s h) : h.waiting.Nodup :=
  (List.nodup_append'.mp follows.account_nodup).2.1.of_map

theorem eq_of_request (follows : Follows s h) {load other : Nat × Nat}
    (member : load ∈ h.waiting) (member' : other ∈ h.waiting) (same : load.2 = other.2) :
    load = other := by
  rcases follows.waits load member with ⟨request, opened, number, _⟩
  rcases follows.waits other member' with ⟨request', opened', number', _⟩
  rw [same] at opened
  have equal := opened.1.symm.trans opened'.1
  rw [Option.some.injEq] at equal
  exact Prod.ext (number.symm.trans ((congrArg Request.load equal).trans number')) same

theorem waiting_perm (follows : Follows s h) {load : Nat × Nat} (member : load ∈ h.waiting)
    (answered : answer c = some load.2) :
    h.waiting.Perm (load :: h.waiting.filter fun other => some other.2 ≠ answer c) := by
  have others : (h.waiting.filter fun other => some other.2 ≠ answer c) =
      h.waiting.erase load := by
    rw [follows.waiting_nodup.erase_eq_filter]
    refine List.filter_congr fun other inside => ?_
    rw [answered]
    have apart : other.2 = load.2 ↔ other = load :=
      ⟨follows.eq_of_request inside member, fun same => by rw [same]⟩
    simp [apart, bne, beq_eq_decide]
  rw [others]
  exact List.perm_cons_erase member

theorem waiting_eq (other : ∀ load ∈ h.waiting, answer c ≠ some load.2) :
    (h.waiting.filter fun load => some load.2 ≠ answer c) = h.waiting := by
  refine List.filter_eq_self.mpr fun load member => ?_
  exact decide_eq_true fun same => other load member same.symm

/-- The load of the write-back of this cycle. -/
def written (s : State cfg) (c : Cycle cfg) (h : History cfg) : List Nat :=
  if validO s c.input then [owner c h] else []

theorem owner_of_waiting (follows : Follows s h) {load : Nat × Nat} (member : load ∈ h.waiting)
    (answered : answer c = some load.2) : owner c h = load.1 := by
  rcases follows.waits load member with ⟨request, opened, number, _⟩
  simp [owner, answered, opened.1, number]

theorem answer_of_leaves (leaves : Leaves s c.input) : answer c = none := by
  simp [answer, leaves.1]

/-- What is written back in this cycle: the answer to a load that waits, a load that leaves
the head, or nothing. -/
theorem written_cases (follows : Follows s h)
    (fits : cfg.nrLoadBufEntries ≤ 2 ^ cfg.dcacheIdWidth) (env : Environment (s, h) c) :
    (∃ load ∈ h.waiting, answer c = some load.2 ∧ written s c h = [load.1] ∧
        ¬ Leaves s c.input) ∨
      ((∀ load ∈ h.waiting, answer c ≠ some load.2) ∧ Leaves s c.input ∧
        written s c h = [h.taken.length]) ∨
      ((∀ load ∈ h.waiting, answer c ≠ some load.2) ∧ ¬ Leaves s c.input ∧
        written s c h = []) := by
  by_cases waited : ∃ load ∈ h.waiting, answer c = some load.2
  · rcases waited with ⟨load, member, answered⟩
    left
    refine ⟨load, member, answered, ?_, ?_⟩
    · have valid := (follows.answersValid_of_waiting fits env member answered).2
      simp [written, validO, valid, follows.owner_of_waiting member answered]
    · intro leaves
      simp [answer_of_leaves leaves] at answered
  · have invalid : answersValid s c.input = false := by
      rw [← Bool.not_eq_true]
      exact mt (follows.waiting_of_answersValid fits env) waited
    push Not at waited
    have valid : validO s c.input = (excepts s c.input || drops s c.input) := by
      simp [validO, invalid]
    right
    by_cases leaves : Leaves s c.input
    · left
      refine ⟨waited, leaves, ?_⟩
      rw [written, valid, if_pos ((follows.leaves_iff env).mpr leaves), owner,
        answer_of_leaves leaves]
    · right
      refine ⟨waited, leaves, ?_⟩
      rw [written, valid, if_neg (mt (follows.leaves_iff env).mp leaves)]

theorem taken_of_stays (stays : ¬ Leaves s c.input) :
    (if popLd s c.input && ldbufW s c.input then
        [(h.taken.length, h.requests.length)] else []).map Prod.fst =
      if popLd s c.input then [h.taken.length] else [] := by
  rw [leaves_iff_popLd] at stays
  cases popped : popLd s c.input <;> cases granted : ldbufW s c.input <;> simp_all

theorem written_perm (follows : Follows s h)
    (fits : cfg.nrLoadBufEntries ≤ 2 ^ cfg.dcacheIdWidth) (env : Environment (s, h) c) :
    (written s c h ++ (remaining s c h).map Prod.fst).Perm
      (h.waiting.map Prod.fst ++ if popLd s c.input then [h.taken.length] else []) := by
  rcases follows.written_cases fits env with
    ⟨load, member, answered, writes, stays⟩ | ⟨other, leaves, writes⟩ | ⟨other, stays, writes⟩
  · have split := (follows.waiting_perm member answered).map Prod.fst
    rw [writes, remaining, List.map_append, ← List.append_assoc]
    refine split.symm.append ?_
    rw [taken_of_stays stays]
  · rw [writes, remaining, List.map_append, waiting_eq other]
    rcases leaves_iff_popLd.mp leaves with ⟨popped, refused⟩
    simp only [popped, refused, Bool.and_false, Bool.false_eq_true, if_false, List.map_nil,
      List.append_nil, if_true]
    exact List.perm_append_comm
  · rw [writes, remaining, List.map_append, waiting_eq other, List.nil_append,
      taken_of_stays stays]

theorem account_step (follows : Follows s h)
    (fits : cfg.nrLoadBufEntries ≤ 2 ^ cfg.dcacheIdWidth) (env : Environment (s, h) c) :
    ((record s c h).writes.map WriteBack.load ++ (record s c h).flushed ++
        (record s c h).waiting.map Prod.fst).Perm
      (List.range (record s c h).taken.length) := by
  have writes : (record s c h).writes.map WriteBack.load =
      h.writes.map WriteBack.load ++ written s c h := by
    simp only [record, written, List.map_append]
    split <;> rfl
  have kept : ((record s c h).flushed ++ (record s c h).waiting.map Prod.fst) =
      h.flushed ++ (remaining s c h).map Prod.fst := by
    cases flush : c.input.flush <;> simp [record, flush]
  have taken : List.range (record s c h).taken.length =
      List.range h.taken.length ++ if popLd s c.input then [h.taken.length] else [] := by
    cases popped : popLd s c.input <;> simp [record, popped, List.range_succ]
  rw [List.append_assoc, kept, writes, taken]
  calc
    (h.writes.map WriteBack.load ++ written s c h ++
          (h.flushed ++ (remaining s c h).map Prod.fst)).Perm
        (h.writes.map WriteBack.load ++
          (h.flushed ++ (written s c h ++ (remaining s c h).map Prod.fst))) := by
      rw [List.append_assoc]
      refine List.Perm.append_left _ ?_
      rw [← List.append_assoc, ← List.append_assoc]
      exact List.perm_append_comm.append_right _
    List.Perm _ (h.writes.map WriteBack.load ++
          (h.flushed ++ (h.waiting.map Prod.fst ++
            if popLd s c.input then [h.taken.length] else []))) :=
      ((follows.written_perm fits env).append_left _).append_left _
    List.Perm _ (List.range h.taken.length ++
        if popLd s c.input then [h.taken.length] else []) := by
      rw [← List.append_assoc, ← List.append_assoc]
      exact follows.account.append_right _

/-! ### Faults and data -/

theorem answered_of_fault (follows : Follows s h) (env : Environment (s, h) c)
    (state : s.stateQ = .sendTag) (fault : c.input.ex.valid = true) :
    ∃ load ∈ h.waiting, answer c = some load.2 ∧ h.tag = some load.2 := by
  rcases follows.tagged (Or.inl state) with ⟨number, tag⟩
  have kill : killReq s c.input = true := by simpa only [killReq, state] using fault
  rcases env.kills number tag kill with ⟨valid, same⟩
  rcases follows.tag tag with ⟨request, _, _, ⟨_, member⟩ | ⟨kills, _⟩⟩
  · exact ⟨_, member, by rw [answer, if_pos valid, same], tag⟩
  · rcases kills with other | ⟨other, _⟩ | ⟨other, _⟩ <;> simp [state] at other

theorem faulting_of_stays (stays : ¬ Leaves s c.input)
    (untagged : ¬ (s.stateQ = .sendTag ∧ c.input.ex.valid = true)) : faulting s c h = [] := by
  rw [leaves_iff_popLd] at stays
  rw [faulting]
  split
  · next fault =>
    cases state : s.stateQ <;> try rfl
    case sendTag => exact absurd ⟨state, fault⟩ untagged
    case waitTranslation =>
      have refused : ldbufW s c.input = false := by simp [ldbufW, dataReq, state]
      have kept : popLd s c.input = false := by simpa [refused] using stays
      simp [kept]
  · rfl

theorem exValid_of_stays (follows : Follows s h) (env : Environment (s, h) c)
    (stays : ¬ Leaves s c.input) : exValid s c.input = answersEx s c.input := by
  have quiet := mt (follows.leaves_iff env).mp stays
  simp only [Bool.or_eq_true, not_or, Bool.not_eq_true] at quiet
  simp [exValid, quiet]

theorem faulting_eq (follows : Follows s h)
    (fits : cfg.nrLoadBufEntries ≤ 2 ^ cfg.dcacheIdWidth) (env : Environment (s, h) c) :
    faulting s c h = if exValid s c.input then written s c h else [] := by
  rcases follows.written_cases fits env with
    ⟨load, member, answered, writes, stays⟩ | ⟨_, leaves, writes⟩ | ⟨other, stays, writes⟩
  · have isAnswer := (follows.answersValid_of_waiting fits env member answered).1
    rw [follows.exValid_of_stays env stays, writes]
    by_cases tagged : s.stateQ = .sendTag ∧ c.input.ex.valid = true
    · rcases follows.answered_of_fault env tagged.1 tagged.2 with ⟨last, member', answer', tag⟩
      obtain rfl : last = load := by
        refine follows.eq_of_request member' member ?_
        simpa [answered] using answer'.symm
      rcases follows.waits last member with ⟨request, opened, number, _⟩
      simp [faulting, answersEx, tagged, isAnswer, tag, opened.1, number]
    · have fine : answersEx s c.input = false := by
        simp only [answersEx, isAnswer, Bool.true_and, Bool.and_eq_false_iff,
          decide_eq_false_iff_not]
        by_contra both
        push Not at both
        exact tagged ⟨both.2, by simpa using both.1⟩
      rw [faulting_of_stays stays tagged, fine]
      simp
  · rcases leaves_iff_popLd.mp leaves with ⟨popped, _⟩
    have valid : c.input.valid = true := by
      refine follows.valid_of_holds env ?_
      rcases leaves.2 with ⟨state, _⟩ | ⟨state, _⟩ <;> rw [state] <;> rfl
    rw [writes]
    rcases leaves with ⟨unanswered, ⟨state, missed⟩ | ⟨state, translates, fault⟩⟩
    · simp [faulting, exValid, drops, state, missed, unanswered, valid]
    · simp [faulting, exValid, drops, excepts, state, translates, fault, unanswered, valid,
        popped]
  · have untagged : ¬ (s.stateQ = .sendTag ∧ c.input.ex.valid = true) := by
      rintro ⟨state, fault⟩
      rcases follows.answered_of_fault env state fault with ⟨load, member, answered, _⟩
      exact other load member answered
    rw [faulting_of_stays stays untagged, writes]
    simp

theorem owned_record {write : WriteBack cfg} (owned : Owned h write) :
    Owned (record s c h) write := by
  rcases owned with ⟨ctrl, taken, transId, exception, data⟩
  refine ⟨ctrl, ?_, transId, ?_, ?_⟩
  · rcases List.getElem?_eq_some_iff.mp taken with ⟨inside, _⟩
    simpa [record, List.getElem?_append_left inside] using taken
  · exact fun fault => List.mem_append_left _ (exception fault)
  · intro fine
    rcases data fine with ⟨number, request, answered, requested, rest⟩ | dropped
    · left
      rcases List.getElem?_eq_some_iff.mp requested with ⟨inside, _⟩
      refine ⟨number, request, answered, ?_, rest⟩
      simpa [record, List.getElem?_append_left inside] using requested
    · exact Or.inr (List.mem_append_left _ dropped)

theorem result_eq {i : Input cfg} {ctrl : LsuCtrl cfg}
    (data : ldbufRdata s i = entryOf ctrl) : result s i = resultOf ctrl i := by
  have entry : ldbufRdata { (reset : State cfg) with ldbufQ := fun _ => entryOf ctrl } i =
      ldbufRdata s i := data.symm
  simp only [resultOf, result, shiftedData, rdataSignBit, entry]

theorem owned_written (follows : Follows s h)
    (fits : cfg.nrLoadBufEntries ≤ 2 ^ cfg.dcacheIdWidth) (env : Environment (s, h) c)
    (valid : validO s c.input = true) :
    Owned (record s c h)
      { load := owner c h, transId := transId s c.input, exception := exValid s c.input
        result := result s c.input, input := c.input, answer := answer c } := by
  have writes : written s c h = [owner c h] := by rw [written, if_pos valid]
  have exception : exValid s c.input = true → owner c h ∈ (record s c h).faults := by
    intro fault
    refine List.mem_append_right _ ?_
    rw [follows.faulting_eq fits env, if_pos fault, writes]
    exact List.mem_singleton_self _
  rcases follows.written_cases fits env with
    ⟨load, member, answered, _, stays⟩ | ⟨_, leaves, owner_eq⟩ | ⟨_, _, none⟩
  · rcases follows.waits load member with ⟨request, opened, number, _, taken⟩
    rcases follows.index_of_answer fits env opened answered with ⟨_, index⟩
    have data : ldbufRdata s c.input = entryOf request.ctrl := by
      rw [ldbufRdata, index, follows.tracks.data opened]
    have own := follows.owner_of_waiting member answered
    have quiet := mt (follows.leaves_iff env).mp stays
    rcases List.getElem?_eq_some_iff.mp taken with ⟨inside, _⟩
    refine ⟨request.ctrl, ?_, ?_, exception, fun _ => Or.inl ?_⟩
    · rw [own]
      simpa [record, List.getElem?_append_left inside] using taken
    · change transId s c.input = request.ctrl.transId
      rw [transId, if_neg quiet, data]
      rfl
    · refine ⟨load.2, request, answered, ?_, number.trans own.symm, rfl, result_eq data⟩
      simpa [record, List.getElem?_append_left (lt_of_open opened)] using opened.1
  · rw [writes, List.cons.injEq] at owner_eq
    rcases leaves_iff_popLd.mp leaves with ⟨popped, _⟩
    refine ⟨c.input.lsuCtrl, ?_, ?_, exception, fun fine => Or.inr ?_⟩
    · rw [owner_eq.1]
      simp [record, popped]
    · change transId s c.input = c.input.lsuCtrl.transId
      rw [transId, if_pos ((follows.leaves_iff env).mpr leaves)]
    · have dropped : s.stateQ = .waitSpecLoad := by
        rcases leaves with ⟨unanswered, ⟨state, _⟩ | ⟨state, translates, fault⟩⟩
        · exact state
        · have valid' : c.input.valid = true :=
            follows.valid_of_holds env (by rw [state]; rfl)
          simp [exValid, drops, excepts, state, translates, fault, unanswered, valid'] at fine
      rw [owner_eq.1]
      simp [record, dropped, popped]
  · rw [writes] at none
    cases none

/-! ### The step -/

theorem ldbufFlushedD_of_open (follows : Follows s h)
    (fits : cfg.nrLoadBufEntries ≤ 2 ^ cfg.dcacheIdWidth) (env : Environment (s, h) c)
    {number : Nat} {request : Request cfg} (opened : Open h number request)
    (live : answer c ≠ some number) :
    ldbufFlushedD s c.input request.id =
      (c.input.flush || s.ldbufFlushedQ request.id) := by
  have apart := follows.handed fits env
  rw [ldbufFlushedD, if_neg]
  rw [Bool.and_eq_true, decide_eq_true_eq]
  exact fun both => apart both.1 number request opened live both.2

/-- The state behind a cycle. -/
theorem stateQ_step : (step s c.input).stateQ =
    if c.input.flush then .waitFlush else advances s c.input :=
  rfl

theorem waits_step (follows : Follows s h)
    (fits : cfg.nrLoadBufEntries ≤ 2 ^ cfg.dcacheIdWidth) (env : Environment (s, h) c) :
    ∀ load ∈ (record s c h).waiting, ∃ request, Open (record s c h) load.2 request ∧
      request.load = load.1 ∧ (step s c.input).ldbufFlushedQ request.id = false ∧
        (record s c h).taken[load.1]? = some request.ctrl := by
  intro load member
  cases flush : c.input.flush
  · simp only [record, flush, Bool.false_eq_true, if_false, remaining, List.mem_append,
      List.mem_filter, decide_eq_true_eq] at member
    rcases member with ⟨waited, live⟩ | new
    · rcases follows.waits load waited with ⟨request, opened, number, unflushed, taken⟩
      have live' : answer c ≠ some load.2 := Ne.symm live
      rcases List.getElem?_eq_some_iff.mp taken with ⟨inside, _⟩
      refine ⟨request, (open_record follows.tracks env).mpr (Or.inl ⟨opened, live'⟩), number,
        ?_, ?_⟩
      · change ldbufFlushedD s c.input request.id = false
        rw [follows.ldbufFlushedD_of_open fits env opened live', flush, unflushed]
        rfl
      · simpa [record, List.getElem?_append_left inside] using taken
    · cases taken : popLd s c.input && ldbufW s c.input <;> simp only [taken] at new
      · simp at new
      · rw [Bool.and_eq_true] at taken
        obtain rfl : load = (h.taken.length, h.requests.length) := by simpa using new
        refine ⟨_, (open_record follows.tracks env).mpr (Or.inr ⟨taken.2, rfl, rfl⟩), rfl, ?_, ?_⟩
        · change ldbufFlushedD s c.input (ldbufWindex s c.input) = false
          simp [ldbufFlushedD, taken.2]
        · simp [record, taken.1]
  · simp [record, flush] at member

theorem live_step (follows : Follows s h)
    (fits : cfg.nrLoadBufEntries ≤ 2 ^ cfg.dcacheIdWidth) (env : Environment (s, h) c)
    {number : Nat} {request : Request cfg} (opened : Open (record s c h) number request)
    (unflushed : (step s c.input).ldbufFlushedQ request.id = false) :
    (request.load, number) ∈ (record s c h).waiting ∨
      ((record s c h).tag = some number ∧ Kills cfg (step s c.input).stateQ) := by
  rcases (open_record follows.tracks env).mp opened with ⟨old, live⟩ | ⟨write, rfl, rfl⟩
  · change ldbufFlushedD s c.input request.id = false at unflushed
    rw [follows.ldbufFlushedD_of_open fits env old live, Bool.or_eq_false_iff] at unflushed
    rcases follows.live old unflushed.2 with member | ⟨tag, kills⟩
    · left
      simp only [record, unflushed.1, Bool.false_eq_true, if_false, remaining, List.mem_append,
        List.mem_filter, decide_eq_true_eq]
      exact Or.inl ⟨member, Ne.symm live⟩
    · rcases env.kills number tag (killReq_of_kills kills) with ⟨valid, same⟩
      exact absurd (by rw [answer, if_pos valid, same]) live
  · have tag : (record s c h).tag = some h.requests.length := by simp [record, write]
    cases flush : c.input.flush
    · cases does s c.input with
      | sends popped _ _ _ =>
        left
        simp [record, flush, remaining, popped, write]
      | aborts _ _ next _ =>
        right
        refine ⟨tag, ?_⟩
        rw [stateQ_step, flush]
        exact Or.inr next
      | leaves _ refused => simp [write] at refused
      | waits _ refused => simp [write] at refused
    · right
      refine ⟨tag, ?_⟩
      rw [stateQ_step, flush]
      exact Or.inl rfl

theorem tag_step (follows : Follows s h) (env : Environment (s, h) c) {number : Nat}
    (tag : (record s c h).tag = some number) :
    ∃ request, Open (record s c h) number request ∧
      request.id = (step s c.input).ldbufLastIdQ ∧
        (((step s c.input).stateQ = .sendTag ∧
            (request.load, number) ∈ (record s c h).waiting) ∨
          (Kills cfg (step s c.input).stateQ ∧
            ∀ load ∈ (record s c h).waiting, load.2 ≠ number)) := by
  have write : ldbufW s c.input = true := by
    by_contra refused
    simp [record, refused] at tag
  obtain rfl : h.requests.length = number := by simpa [record, write] using tag
  refine ⟨_, (open_record follows.tracks env).mpr (Or.inr ⟨write, rfl, rfl⟩), ?_, ?_⟩
  · simp [step, write]
  · cases flush : c.input.flush
    · cases does s c.input with
      | sends popped _ next _ =>
        left
        refine ⟨by rw [stateQ_step, flush]; exact next, ?_⟩
        simp [record, flush, remaining, popped, write]
      | aborts popped _ next _ =>
        right
        refine ⟨by rw [stateQ_step, flush]; exact Or.inr next, ?_⟩
        intro load member
        simp only [record, flush, Bool.false_eq_true, if_false, remaining, popped,
          Bool.false_and, List.append_nil, List.mem_filter] at member
        rcases follows.waits load member.1 with ⟨_, opened, _⟩
        exact Nat.ne_of_lt (lt_of_open opened)
      | leaves _ refused => simp [write] at refused
      | waits _ refused => simp [write] at refused
    · right
      refine ⟨by rw [stateQ_step, flush]; exact Or.inl rfl, ?_⟩
      simp [record, flush]

theorem tagged_step (state : (step s c.input).stateQ = .sendTag ∨
      Aborts cfg (step s c.input).stateQ) :
    ∃ number, (record s c h).tag = some number := by
  rw [stateQ_step] at state
  cases flush : c.input.flush <;> simp only [flush] at state
  · cases does s c.input with
    | sends _ granted => exact ⟨h.requests.length, by simp only [record, granted, if_true]⟩
    | aborts _ granted => exact ⟨h.requests.length, by simp only [record, granted, if_true]⟩
    | leaves _ _ next => simp [next, Aborts] at state
    | waits _ _ next =>
      rcases next with next | next | ⟨needs, _⟩
      · simp [next, Aborts] at state
      · simp [next, Aborts] at state
      · rcases state with state | ⟨state, _⟩ | ⟨state, _⟩ <;>
          simp [FsmState.needsRoom, show advances s c.input = _ from state] at needs
  · simp [Aborts] at state

theorem flushed_step (state : (step s c.input).stateQ = .waitFlush) :
    (record s c h).waiting = [] := by
  rw [stateQ_step] at state
  cases flush : c.input.flush <;> simp only [flush] at state
  · cases does s c.input with
    | sends _ _ next => simp [next] at state
    | aborts _ _ next =>
      rcases next with ⟨next, _⟩ | ⟨next, _⟩ <;> simp [next] at state
    | leaves _ _ next => simp [next] at state
    | waits _ _ next =>
      rcases next with next | next | ⟨needs, _⟩
      · simp [next] at state
      · simp [next] at state
      · simp [FsmState.needsRoom, show advances s c.input = _ from state] at needs
  · simp [record, flush]

/-- Without a request, a free entry stays free and an answer frees another one. -/
theorem room_step (follows : Follows s h) (env : Environment (s, h) c)
    (needs : (step s c.input).stateQ.needsRoom = true) :
    ∃ entry, (step s c.input).ldbufValidQ entry = false := by
  have free {entry : Fin cfg.nrLoadBufEntries} (refused : ldbufW s c.input = false)
      (unused : s.ldbufValidQ entry = false ∨
        (c.input.reqPort.dataRvalid = true ∧ ldbufRindex c.input = entry)) :
      ∃ entry, (step s c.input).ldbufValidQ entry = false := by
    refine ⟨entry, ?_⟩
    change ldbufValidD s c.input entry = false
    rw [← Bool.not_eq_true, ldbufValidD_eq]
    rintro (⟨write, _⟩ | ⟨used, kept⟩)
    · simp [refused] at write
    · rcases unused with unused | read
      · simp [unused] at used
      · exact kept read
  rw [stateQ_step] at needs
  cases flush : c.input.flush <;> simp only [flush] at needs
  · cases does s c.input with
    | sends _ _ next => rw [if_neg (by decide), next] at needs; cases needs
    | aborts _ _ next =>
      rcases next with ⟨next, _⟩ | ⟨next, _⟩ <;> rw [if_neg (by decide), next] at needs <;>
        cases needs
    | leaves _ _ next => rw [if_neg (by decide), next] at needs; cases needs
    | waits _ refused next =>
      rcases next with next | next | ⟨_, room⟩
      · rw [if_neg (by decide), next] at needs; cases needs
      · rw [if_neg (by decide), next] at needs; cases needs
      · rcases or_assoc.mpr room with room | aborts
        · rcases follows.free_of_room room with ⟨_, valid⟩ | ⟨entry, unused⟩
          · exact free refused (Or.inr ⟨valid, rfl⟩)
          · exact free refused (Or.inl unused)
        · -- the request of the last cycle is killed and answered
          rcases follows.tagged (Or.inr aborts) with ⟨number, tag⟩
          rcases env.kills number tag (killReq_of_kills (Or.inr aborts)) with ⟨valid, _⟩
          exact free refused (Or.inr ⟨valid, rfl⟩)
  · cases needs

theorem head_step (follows : Follows s h) (env : Environment (s, h) c)
    (holds : (step s c.input).stateQ.holds = true) :
    ∃ load, (record s c h).head = some load := by
  rw [stateQ_step] at holds
  cases flush : c.input.flush <;> simp only [flush] at holds
  · rcases holds_of_advances holds with ⟨kept, works⟩
    have valid : c.input.valid = true := works.elim id (follows.valid_of_holds env)
    exact ⟨c.input.lsuCtrl, by simp [record, flush, kept, valid]⟩
  · cases holds

theorem faults_step (follows : Follows s h)
    (fits : cfg.nrLoadBufEntries ≤ 2 ^ cfg.dcacheIdWidth) (env : Environment (s, h) c) :
    ∀ load ∈ (record s c h).faults, ∃ write ∈ (record s c h).writes,
      write.load = load ∧ write.exception = true := by
  intro load member
  rcases List.mem_append.mp member with before | now
  · rcases follows.faults load before with ⟨write, inside, same⟩
    exact ⟨write, List.mem_append_left _ inside, same⟩
  · rw [follows.faulting_eq fits env, written] at now
    split at now
    · next exception =>
      split at now
      · next valid =>
        refine ⟨_, List.mem_append_right _ (by rw [if_pos valid]; exact List.mem_singleton_self _),
          ?_, exception⟩
        exact (List.mem_singleton.mp now).symm
      · cases now
    · cases now

theorem step (follows : Follows s h) (fits : cfg.nrLoadBufEntries ≤ 2 ^ cfg.dcacheIdWidth)
    (env : Environment (s, h) c) : Follows (LoadUnit.step s c.input) (record s c h) where
  tracks := tracks_step fits follows.tracks env (follows.handed fits env)
  waits := follows.waits_step fits env
  live := follows.live_step fits env
  tag := follows.tag_step env
  tagged := tagged_step
  flushed := flushed_step
  room := follows.room_step env
  head := follows.head_step env
  account := follows.account_step fits env
  owned := by
    intro write member
    rcases List.mem_append.mp member with before | now
    · exact owned_record (follows.owned write before)
    · split at now
      · next valid =>
        rw [List.mem_singleton.mp now]
        exact follows.owned_written fits env valid
      · cases now
  faults := follows.faults_step fits env

theorem conserved (follows : Follows s h) : Conserved h where
  account := follows.account
  owned := follows.owned
  exception := by
    intro write member fault
    rcases follows.faults write.load fault with ⟨other, inside, same, exception⟩
    have nodup := (List.nodup_append'.mp (List.nodup_append'.mp follows.account_nodup).1).1
    rw [← List.inj_on_of_nodup_map nodup inside member same]
    exact exception
  waits := by
    intro load member
    rcases follows.waits load member with ⟨request, opened, number, _, taken⟩
    exact ⟨request, opened, number, taken⟩

end Follows

theorem follows_reset : Follows (reset : State cfg) History.initial where
  tracks :=
    { bounded := by simp [History.initial]
      valid_iff := by simp [Open, History.initial, reset, Bits.zero]
      distinct := by simp [Open, History.initial]
      data := by simp [Open, History.initial] }
  waits := by simp [History.initial]
  live := by simp [Open, History.initial]
  tag := by simp [History.initial]
  tagged := by simp [reset, Aborts]
  flushed := by simp [reset]
  room := by simp [reset, FsmState.needsRoom]
  head := by simp [reset, FsmState.holds]
  account := List.Perm.refl _
  owned := by simp [History.initial]
  faults := by simp [History.initial]

/-- In every run, each load that is taken from the head is written back once, or was flushed
before, or waits for one answer; the write-backs are owned by their loads, as exceptions
exactly if these fault; and no request takes an entry in use. -/
theorem loads_conserved (fits : cfg.nrLoadBufEntries ≤ 2 ^ cfg.dcacheIdWidth)
    {cycles : List (Cycle cfg)} {c : Cycle cfg}
    (along : (recorded cfg).RunAlong Environment (cycles ++ [c])) :
    Conserved ((recorded cfg).run (cycles ++ [c])).2 ∧
      Handed ((recorded cfg).run cycles).1 c ((recorded cfg).run cycles).2 := by
  rw [Machine.runAlong_concat] at along
  rcases along with ⟨along, env⟩
  have follows := (recorded cfg).run_invariant_along
    (fun state => Follows state.1 state.2) follows_reset
    (fun _ _ follows env => follows.step fits env) along
  refine ⟨?_, follows.handed fits env⟩
  rw [Machine.run_concat]
  exact (follows.step fits env).conserved

/-! ## Runs -/

instance decidableEnvironment (state : State cfg × History cfg) (c : Cycle cfg) :
    Decidable (Environment state c) :=
  decidable_of_iff
    ((∀ load ∈ state.2.head, c.input.valid = true ∧
        c.input.lsuCtrl.transId = load.transId ∧ c.input.lsuCtrl.vaddr = load.vaddr ∧
          c.input.lsuCtrl.operation = load.operation) ∧
      (c.input.reqPort.dataRvalid = true → ∃ request ∈ state.2.requests[c.request]?,
        c.request ∉ state.2.answered ∧
          c.input.reqPort.dataRid = BitVec.ofNat _ request.id.val) ∧
      ∀ number ∈ state.2.tag, killReq state.1 c.input = true →
        c.input.reqPort.dataRvalid = true ∧ c.request = number)
    ⟨fun holds =>
      ⟨holds.1,
        fun valid =>
          let ⟨request, requested, unanswered, rid⟩ := holds.2.1 valid
          ⟨request, ⟨requested, unanswered⟩, rid⟩,
        holds.2.2⟩,
      fun env =>
        ⟨env.head,
          fun valid =>
            let ⟨request, opened, rid⟩ := env.answers valid
            ⟨request, opened.1, opened.2, rid⟩,
          env.kills⟩⟩

/-- A cycle without a load in which the data cache grants every request. -/
def Cycle.idle : Cycle Cfg.sample where
  input :=
    { flush := false
      valid := false
      lsuCtrl :=
        { valid := false, vaddr := 0, data := 0, be := 255, fu := .load, operation := .ld
          transId := 0, isSpeculativeLoad := false, isSpeculativeLoadMiss := false }
      mbe := false
      paddr := 0
      ex := { cause := 0, tval := 0, tval2 := 0, tinst := 0, gva := false, valid := false }
      dtlbHit := true
      paddrNi := false
      pageOffsetMatches := false
      storeBufferEmpty := true
      commitTranId := 0
      reqPort := { dataGnt := true, dataRvalid := false, dataRid := 0, dataRdata := 0 }
      dcacheWbufferNotNi := true }
  request := 0

/-- A load with this identifier is at the head. -/
def Cycle.load (c : Cycle Cfg.sample) (transId : Nat) : Cycle Cfg.sample :=
  { c with
    input :=
      { c.input with
        valid := true
        lsuCtrl := { c.input.lsuCtrl with valid := true, transId := BitVec.ofNat _ transId } } }

/-- The data cache answers a request under this identifier. -/
def Cycle.answered (c : Cycle Cfg.sample) (request rid rdata : Nat) : Cycle Cfg.sample :=
  { input :=
      { c.input with
        reqPort :=
          { c.input.reqPort with
            dataRvalid := true, dataRid := BitVec.ofNat _ rid
            dataRdata := BitVec.ofNat _ rdata } }
    request := request }

/-- The load whose tag is sent faults. -/
def Cycle.faulting (c : Cycle Cfg.sample) : Cycle Cfg.sample :=
  { c with input := { c.input with ex := { c.input.ex with valid := true } } }

/-- Two loads are taken one after the other; the second one faults and its request is killed
and answered, and the first one is answered afterwards. -/
def faultBehindLoad : List (Cycle Cfg.sample) :=
  [Cycle.idle.load 1, Cycle.idle.load 2, (Cycle.idle.faulting).answered 1 1 0]

theorem loads_conserved_faultBehindLoad :
    let last := Cycle.idle.answered 0 0 42
    Conserved ((recorded Cfg.sample).run (faultBehindLoad ++ [last])).2 ∧
      Handed ((recorded Cfg.sample).run faultBehindLoad).1 last
        ((recorded Cfg.sample).run faultBehindLoad).2 :=
  loads_conserved (by decide) (by decide +kernel)

example : ((recorded Cfg.sample).run (faultBehindLoad ++ [Cycle.idle.answered 0 0 42])).2.writes.map
    (fun write => (write.load, write.transId.toNat, write.exception, write.result.toNat)) =
      [(1, 2, true, 0), (0, 1, false, 42)] := by
  decide +kernel

/-- A load behind a branch waits, because its translation is not there, and the branch turns
out to be predicted wrongly. -/
def misspeculatedLoad : List (Cycle Cfg.sample) :=
  [true, false].map fun predicted =>
    let c := Cycle.idle.load 1
    { c with
      input :=
        { c.input with
          dtlbHit := false
          lsuCtrl :=
            { c.input.lsuCtrl with
              isSpeculativeLoad := true, isSpeculativeLoadMiss := !predicted } } }

/-- Without a flush a load is written back, not as an exception, and without any answer. -/
theorem misspeculatedLoad_without_data :
    (recorded Cfg.sample).RunAlong
        (fun state c => Environment state c ∧ c.input.flush = false) misspeculatedLoad ∧
      ∃ write ∈ ((recorded Cfg.sample).run misspeculatedLoad).2.writes,
        write.exception = false ∧ write.answer = none := by
  decide +kernel

end Cva6Hpd.Lsu.LoadUnit
