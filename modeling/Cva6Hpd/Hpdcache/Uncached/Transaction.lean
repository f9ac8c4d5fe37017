import Cva6Hpd.Hpdcache.Uncached.Agreement
import Cva6Hpd.Hpdcache.Uncached.Errors

/-!
# AMOs from the request to the answer

Over a run, the address and the data that the memory accepted, and the read
response that it gave, are those of the request in service when the handler
writes the cached copy and when it answers the core.
-/

namespace Cva6Hpd.Hpdcache.Uncached

open Cva6Hpd.Hw

variable {cfg : Cfg}

/-! ## What was exchanged with the memory -/

/-- The write request, its data and the read response of the request in
service. -/
structure Transaction (cfg : Cfg) where
  aw : Option Aw
  w : Option (W cfg)
  r : Option (MemData cfg)

def Transaction.none (cfg : Cfg) : Transaction cfg where
  aw := Option.none
  w := Option.none
  r := Option.none

def recordTransaction (s : State cfg) (i : Input cfg) (log : Transaction cfg) :
    Transaction cfg :=
  if i.reqValid && reqReady s then Transaction.none cfg
  else
    { aw := if memReqWriteValid s && i.memReqWriteReady then some (axiAw s) else log.aw
      w := if memReqWriteDataValid s && i.memReqWriteDataReady then some (axiW s) else log.w
      r := if i.memRespReadValid then some i.memRespRData else log.r }

/-- The addressed request word of a read response. -/
def received (s : State cfg) (data : MemData cfg) : cfg.wbuf.Data := fun byte =>
  data (memLane cfg (memWordIdx cfg s.reqQ.addr) byte)

/-- What the states of an AMO say about the exchange. -/
structure Exchanged (s : State cfg) (log : Transaction cfg) : Prop where
  aw : ∀ aw ∈ log.aw, aw = axiAw s
  w : ∀ w ∈ log.w, w = axiW s
  r : ∀ data ∈ log.r, s.rspRdataQ = received s data
  awSent : reqIsAmo s.reqQ.op = true →
    s.ucFsmQ = .memWdataReq ∨ s.ucFsmQ = .memWaitRsp ∨ s.ucFsmQ = .amoWriteData →
    log.aw.isSome = true
  wSent : reqIsAmo s.reqQ.op = true →
    s.ucFsmQ = .memWReq ∨ s.ucFsmQ = .memWaitRsp ∨ s.ucFsmQ = .amoWriteData →
    log.w.isSome = true
  rSeen : s.ucFsmQ = .memWReq ∨ s.ucFsmQ = .memWdataReq ∨ s.ucFsmQ = .memWaitRsp →
    s.memRespReadValidQ = true → log.r.isSome = true
  rDone : reqIsAmo s.reqQ.op = true → s.ucFsmQ = .amoWriteData → log.r.isSome = true
  answered : reqIsAmo s.reqQ.op = true → s.ucFsmQ = .coreRsp → s.rspErrorQ = false →
    log.aw.isSome = true ∧ log.w.isSome = true ∧ log.r.isSome = true

section Step

variable {s : State cfg} {log : Transaction cfg} {i : Input cfg}

theorem recordTransaction_of_kept (kept : (i.reqValid && reqReady s) = false) :
    recordTransaction s i log =
      { aw := if memReqWriteValid s && i.memReqWriteReady then some (axiAw s) else log.aw
        w := if memReqWriteDataValid s && i.memReqWriteDataReady then some (axiW s) else log.w
        r := if i.memRespReadValid then some i.memRespRData else log.r } := by
  rw [recordTransaction, if_neg (by simp [kept])]

/-- The request in service fixes what is sent. -/
theorem axi_step_of_kept (kept : (i.reqValid && reqReady s) = false) :
    axiAw (step s i) = axiAw s ∧ axiW (step s i) = axiW s ∧
      received (step s i) = received s := by
  have same : (step s i).reqQ = s.reqQ := by simp [step, kept]
  have data : memReqWData (step s i) = memReqWData s := by
    funext lane
    simp only [memReqWData, memReqWriteData, same]
  have strb : memReqWBe (step s i) = memReqWBe s := by
    funext lane
    simp only [memReqWBe, same]
  refine ⟨?_, ?_, ?_⟩
  · simp only [axiAw, same]
  · rw [axiW, axiW, data, strb]
  · funext data byte
    simp only [received, same]

theorem reqIsWrite_of_reqIsAmo {op : ReqOp} (amo : reqIsAmo op = true) :
    reqIsWrite op = true := by
  simp [reqIsWrite, amo]

theorem memReq_of_reqIsAmo (i : Input cfg) (state : s.ucFsmQ = .memReq)
    (amo : reqIsAmo s.reqQ.op = true) :
    (step s i).ucFsmQ =
        (if i.memReqWriteReady && i.memReqWriteDataReady then .memWaitRsp
        else if i.memReqWriteReady then .memWdataReq
        else if i.memReqWriteDataReady then .memWReq
        else .memReq) ∧
      (step s i).memRespReadValidQ = false := by
  simp only [step, fsm, state, memReqComb, isLoad_of_reqIsAmo amo, reqIsWrite_of_reqIsAmo amo,
    beq_eq_false_iff_ne.mpr (ne_amoLr_of_reqIsAmo amo), Bool.or_self, Bool.false_eq_true,
    if_false, if_true]
  split_ifs
  · exact ⟨rfl, rfl⟩
  · exact ⟨rfl, rfl⟩
  · exact ⟨rfl, rfl⟩
  · exact ⟨state, rfl⟩

theorem eq_or_mem_of_mem_ite {α : Type} {condition : Bool} {value x : α} {old : Option α}
    (member : x ∈ if condition then some value else old) :
    (condition = true ∧ x = value) ∨ (condition = false ∧ x ∈ old) := by
  cases condition with
  | true => exact .inl ⟨rfl, (Option.some.inj member).symm⟩
  | false => exact .inr ⟨rfl, member⟩

theorem isSome_ite {α : Type} {condition : Bool} {value : α} {old : Option α}
    (filled : condition = true ∨ old.isSome = true) :
    (if condition then some value else old).isSome = true := by
  cases condition with
  | true => rfl
  | false => simpa using filled

theorem exchanged_data_of_kept (kept : (i.reqValid && reqReady s) = false)
    (exchanged : Exchanged s log) :
    (∀ aw ∈ (recordTransaction s i log).aw, aw = axiAw (step s i)) ∧
      (∀ w ∈ (recordTransaction s i log).w, w = axiW (step s i)) ∧
      ∀ data ∈ (recordTransaction s i log).r,
        (step s i).rspRdataQ = received (step s i) data := by
  rcases axi_step_of_kept (i := i) kept with ⟨sameAw, sameW, sameR⟩
  rw [recordTransaction_of_kept kept, sameAw, sameW, sameR]
  refine ⟨fun aw member => ?_, fun w member => ?_, fun data member => ?_⟩
  · rcases eq_or_mem_of_mem_ite member with ⟨_, equal⟩ | ⟨_, old⟩
    · exact equal
    · exact exchanged.aw aw old
  · rcases eq_or_mem_of_mem_ite member with ⟨_, equal⟩ | ⟨_, old⟩
    · exact equal
    · exact exchanged.w w old
  · rcases eq_or_mem_of_mem_ite member with ⟨arrives, rfl⟩ | ⟨nothing, old⟩
    · simp only [step, arrives, if_true]
      rfl
    · simp only [step, nothing, Bool.false_eq_true, if_false]
      exact exchanged.r data old

theorem kept_of_busy (busy : s.ucFsmQ ≠ .idle) : (i.reqValid && reqReady s) = false := by
  simp [reqReady, busy]

theorem rspErrorQ_of_refused (state : s.ucFsmQ = .idle) (amo : reqIsAmo (step s i).reqQ.op = true)
    (accepted : (i.reqValid && reqReady s) = true)
    (answered : (step s i).ucFsmQ = .coreRsp) : (step s i).rspErrorQ = true := by
  have op : (step s i).reqQ = i.req := by simp [step, accepted]
  rw [op] at amo
  have valid : i.reqValid = true := (Bool.and_eq_true_iff.mp accepted).1
  simp only [step, fsm, state, idleComb, fsmDefaults, valid, if_true, isLoad_of_reqIsAmo amo,
    isStore_of_reqIsAmo amo, amo, Bool.or_self, Bool.true_or, Bool.false_eq_true,
    if_false] at answered ⊢
  split_ifs at answered ⊢
  cases s.rspErrorQ <;> rfl

/-- A taken request starts an empty exchange. -/
theorem exchanged_of_idle (state : s.ucFsmQ = .idle) (exchanged : Exchanged s log) :
    Exchanged (step s i) (recordTransaction s i log) := by
  by_cases accepted : (i.reqValid && reqReady s) = true
  · have empty : recordTransaction s i log = Transaction.none cfg := if_pos accepted
    rw [empty]
    have next : (step s i).ucFsmQ = .idle ∨ (step s i).ucFsmQ = .memReq ∨
        (step s i).ucFsmQ = .coreRsp := by
      rcases next_of_idle i state with ⟨stays, _⟩ | ⟨_, ⟨sent, _⟩ | answered⟩
      · exact .inl stays
      · exact .inr (.inl sent)
      · exact .inr (.inr answered)
    exact {
      aw := by intro aw member; cases member
      w := by intro w member; cases member
      r := by intro data member; cases member
      awSent := fun _ elsewhere => by rcases next with h | h | h <;> simp [h] at elsewhere
      wSent := fun _ elsewhere => by rcases next with h | h | h <;> simp [h] at elsewhere
      rSeen := fun elsewhere => by rcases next with h | h | h <;> simp [h] at elsewhere
      rDone := fun _ elsewhere => by rcases next with h | h | h <;> simp [h] at elsewhere
      answered := fun amo answered clean => by
        rw [rspErrorQ_of_refused state amo accepted answered] at clean
        contradiction }
  · have kept : (i.reqValid && reqReady s) = false := Bool.eq_false_iff.mpr accepted
    have stays : (step s i).ucFsmQ = .idle := by
      have noRequest : i.reqValid = false := by simpa [reqReady, state] using kept
      simp [step, fsm, state, idleComb, fsmDefaults, noRequest]
    rcases exchanged_data_of_kept kept exchanged with ⟨aw, w, r⟩
    exact { aw, w, r, awSent := by simp [stays], wSent := by simp [stays],
            rSeen := by simp [stays], rDone := by simp [stays], answered := by simp [stays] }

/-- The first cycle of an AMO sends its address, its data, both or none. -/
theorem exchanged_of_memReq (state : s.ucFsmQ = .memReq) (exchanged : Exchanged s log) :
    Exchanged (step s i) (recordTransaction s i log) := by
  have busy : s.ucFsmQ ≠ .idle := by simp [state]
  have same := reqQ_step_of_busy i busy
  rcases exchanged_data_of_kept (kept_of_busy busy) exchanged with ⟨aw, w, r⟩
  have unread : (step s i).memRespReadValidQ = false := by
    simp only [step, fsm, state, memReqComb]
    split_ifs <;> rfl
  have sent (amo : reqIsAmo s.reqQ.op = true) :
      memReqWriteValid s = true ∧ memReqWriteDataValid s = true := by
    simp [memReqWriteValid, memReqWriteDataValid, state, reqIsWrite_of_reqIsAmo amo]
  refine { aw, w, r, awSent := fun amo next => ?_, wSent := fun amo next => ?_,
           rSeen := fun _ seen => absurd (seen.symm.trans unread) (by decide),
           rDone := fun amo next => ?_, answered := fun amo next => ?_ }
  · rw [same] at amo
    rw [(memReq_of_reqIsAmo i state amo).1] at next
    rw [recordTransaction_of_kept (kept_of_busy busy), (sent amo).1]
    cases ready : i.memReqWriteReady <;> cases dataReady : i.memReqWriteDataReady <;>
      simp [ready, dataReady] at next ⊢
  · rw [same] at amo
    rw [(memReq_of_reqIsAmo i state amo).1] at next
    rw [recordTransaction_of_kept (kept_of_busy busy), (sent amo).2]
    cases ready : i.memReqWriteReady <;> cases dataReady : i.memReqWriteDataReady <;>
      simp [ready, dataReady] at next ⊢
  · rw [same] at amo
    rw [(memReq_of_reqIsAmo i state amo).1] at next
    split_ifs at next
  · rw [same] at amo
    rw [(memReq_of_reqIsAmo i state amo).1] at next
    split_ifs at next

/-- The address follows the data. -/
theorem exchanged_of_memWReq (state : s.ucFsmQ = .memWReq) (exchanged : Exchanged s log) :
    Exchanged (step s i) (recordTransaction s i log) := by
  have busy : s.ucFsmQ ≠ .idle := by simp [state]
  have same := reqQ_step_of_busy i busy
  rcases exchanged_data_of_kept (kept_of_busy busy) exchanged with ⟨aw, w, r⟩
  have record : recordTransaction s i log = _ := recordTransaction_of_kept (kept_of_busy busy)
  have next : (step s i).ucFsmQ = if i.memReqWriteReady then .memWaitRsp else .memWReq := by
    simp only [step, fsm, state, memWReqComb]
    split_ifs
    · rfl
    · exact state
  have unread : (step s i).memRespReadValidQ = s.memRespReadValidQ := by
    simp only [step, fsm, state, memWReqComb]
    split_ifs <;> rfl
  refine { aw, w, r, awSent := fun amo later => ?_, wSent := fun amo _ => ?_,
           rSeen := fun _ seen => ?_, rDone := fun amo later => ?_,
           answered := fun amo later => ?_ }
  · rw [next] at later
    rw [record]
    have ready : i.memReqWriteReady = true := by
      by_contra waits
      simp [waits] at later
    exact isSome_ite (.inl (by simp [memReqWriteValid, state, ready]))
  · rw [record]
    exact isSome_ite (.inr (exchanged.wSent (same ▸ amo) (.inl state)))
  · rw [record]
    exact isSome_ite (.inr (exchanged.rSeen (.inl state) (unread ▸ seen)))
  · rw [next] at later
    split_ifs at later
  · rw [next] at later
    split_ifs at later

/-- The data follows the address. -/
theorem exchanged_of_memWdataReq (state : s.ucFsmQ = .memWdataReq)
    (exchanged : Exchanged s log) : Exchanged (step s i) (recordTransaction s i log) := by
  have busy : s.ucFsmQ ≠ .idle := by simp [state]
  have same := reqQ_step_of_busy i busy
  rcases exchanged_data_of_kept (kept_of_busy busy) exchanged with ⟨aw, w, r⟩
  have record : recordTransaction s i log = _ := recordTransaction_of_kept (kept_of_busy busy)
  have next : (step s i).ucFsmQ =
      if i.memReqWriteDataReady then .memWaitRsp else .memWdataReq := by
    simp only [step, fsm, state, memWdataReqComb]
    split_ifs
    · rfl
    · exact state
  have read : (step s i).memRespReadValidQ = (s.memRespReadValidQ || i.memRespReadValid) := by
    simp only [step, fsm, state, memWdataReqComb]
    split_ifs <;> rfl
  refine { aw, w, r, awSent := fun amo _ => ?_, wSent := fun amo later => ?_,
           rSeen := fun _ seen => ?_, rDone := fun amo later => ?_,
           answered := fun amo later => ?_ }
  · rw [record]
    exact isSome_ite (.inr (exchanged.awSent (same ▸ amo) (.inl state)))
  · rw [next] at later
    rw [record]
    have ready : i.memReqWriteDataReady = true := by
      by_contra waits
      simp [waits] at later
    exact isSome_ite (.inl (by simp [memReqWriteDataValid, state, ready]))
  · rw [read, Bool.or_eq_true] at seen
    rw [record]
    exact isSome_ite (seen.symm.imp_right (exchanged.rSeen (.inr (.inl state))))
  · rw [next] at later
    split_ifs at later
  · rw [next] at later
    split_ifs at later

/-- Waiting for the responses; the last of them completes the exchange. -/
theorem exchanged_of_memWaitRsp (state : s.ucFsmQ = .memWaitRsp)
    (exchanged : Exchanged s log) : Exchanged (step s i) (recordTransaction s i log) := by
  have busy : s.ucFsmQ ≠ .idle := by simp [state]
  have same := reqQ_step_of_busy i busy
  rcases exchanged_data_of_kept (kept_of_busy busy) exchanged with ⟨aw, w, r⟩
  have record : recordTransaction s i log = _ := recordTransaction_of_kept (kept_of_busy busy)
  have read : (step s i).memRespReadValidQ = (s.memRespReadValidQ || i.memRespReadValid) := by
    simp only [step, fsm, state, memWaitRspComb]
    split_ifs <;> rfl
  have awKept (amo : reqIsAmo s.reqQ.op = true) : (recordTransaction s i log).aw.isSome := by
    rw [record]
    exact isSome_ite (.inr (exchanged.awSent amo (.inr (.inl state))))
  have wKept (amo : reqIsAmo s.reqQ.op = true) : (recordTransaction s i log).w.isSome := by
    rw [record]
    exact isSome_ite (.inr (exchanged.wSent amo (.inr (.inl state))))
  have rKept (seen : i.memRespReadValid = true ∨ s.memRespReadValidQ = true) :
      (recordTransaction s i log).r.isSome := by
    rw [record]
    exact isSome_ite (seen.imp_right (exchanged.rSeen (.inr (.inr state))))
  -- An AMO leaves this state only with its read response.
  have complete (amo : reqIsAmo s.reqQ.op = true)
      (left : (step s i).ucFsmQ ≠ .memWaitRsp) : (recordTransaction s i log).r.isSome := by
    rw [memWaitRsp_of_reqIsAmo i state amo] at left
    split_ifs at left with responded
    · exact rKept (by simp [amoResponded] at responded; tauto)
    · exact rKept (by simp [amoResponded] at responded; tauto)
    · exact absurd rfl left
  exact {
    aw, w, r
    awSent := fun amo _ => awKept (same ▸ amo)
    wSent := fun amo _ => wKept (same ▸ amo)
    rSeen := fun _ seen => rKept (by rw [read, Bool.or_eq_true] at seen; exact seen.symm)
    rDone := fun amo next => complete (same ▸ amo) (by simp [next])
    answered := fun amo next _ =>
      ⟨awKept (same ▸ amo), wKept (same ▸ amo), complete (same ▸ amo) (by simp [next])⟩ }

theorem exchanged_of_amoWriteData (state : s.ucFsmQ = .amoWriteData)
    (exchanged : Exchanged s log) : Exchanged (step s i) (recordTransaction s i log) := by
  have busy : s.ucFsmQ ≠ .idle := by simp [state]
  have same := reqQ_step_of_busy i busy
  have next := (next_of_writing i state).1
  rcases exchanged_data_of_kept (kept_of_busy busy) exchanged with ⟨aw, w, r⟩
  have record : recordTransaction s i log = _ := recordTransaction_of_kept (kept_of_busy busy)
  refine { aw, w, r, awSent := by simp [next], wSent := by simp [next],
           rSeen := by simp [next], rDone := by simp [next], answered := fun amo _ _ => ?_ }
  rw [same] at amo
  rw [record]
  exact ⟨isSome_ite (.inr (exchanged.awSent amo (.inr (.inr state)))),
    isSome_ite (.inr (exchanged.wSent amo (.inr (.inr state)))),
    isSome_ite (.inr (exchanged.rDone amo state))⟩

theorem exchanged_of_coreRsp (state : s.ucFsmQ = .coreRsp) (exchanged : Exchanged s log) :
    Exchanged (step s i) (recordTransaction s i log) := by
  have busy : s.ucFsmQ ≠ .idle := by simp [state]
  have same := reqQ_step_of_busy i busy
  rcases exchanged_data_of_kept (kept_of_busy busy) exchanged with ⟨aw, w, r⟩
  have record : recordTransaction s i log = _ := recordTransaction_of_kept (kept_of_busy busy)
  rcases next_of_answering i state with ⟨next, error⟩ | ⟨next, _⟩
  · refine { aw, w, r, awSent := by simp [next], wSent := by simp [next],
             rSeen := by simp [next], rDone := by simp [next],
             answered := fun amo _ clean => ?_ }
    have before := exchanged.answered (same ▸ amo) state (error ▸ clean)
    rw [record]
    exact ⟨isSome_ite (.inr before.1), isSome_ite (.inr before.2.1),
      isSome_ite (.inr before.2.2)⟩
  · exact { aw, w, r, awSent := by simp [next], wSent := by simp [next],
            rSeen := by simp [next], rDone := by simp [next], answered := by simp [next] }

theorem Exchanged.step (exchanged : Exchanged s log) :
    Exchanged (step s i) (recordTransaction s i log) := by
  cases state : s.ucFsmQ with
  | idle => exact exchanged_of_idle state exchanged
  | memReq => exact exchanged_of_memReq state exchanged
  | memWReq => exact exchanged_of_memWReq state exchanged
  | memWdataReq => exact exchanged_of_memWdataReq state exchanged
  | memWaitRsp => exact exchanged_of_memWaitRsp state exchanged
  | coreRsp => exact exchanged_of_coreRsp state exchanged
  | amoWriteData => exact exchanged_of_amoWriteData state exchanged

end Step

/-! ## Runs -/

/-- The small configuration with request words of 64 bits. -/
def doubleWords : Cfg :=
  { Cfg.small with
    wbuf := { Cfg.small.wbuf with reqBytes := 8, reqBytes_pos := Nat.succ_pos 7 }
    lineBytes := 8
    lineBytes_pos := Nat.succ_pos 7
    lineBytes_eq := by decide }

end Cva6Hpd.Hpdcache.Uncached
