import Cva6Hpd.Hpdcache.Uncached.Transaction

/-!
# The LR/SC reservation

A load-reserved that succeeds reserves its double word. The reservation is lost
with the next SC, with an AMO on the double word, and with a store to one of its
bytes in stage 1 of the cache. An SC is sent to the memory only when the handler
still holds the reservation of its double word; otherwise it is answered as a
failure. An SC that the configuration refuses is answered with an error and leaves
the reservation as it is.
-/

namespace Cva6Hpd.Hpdcache.Uncached

open Cva6Hpd.Hw

variable {cfg : Cfg}

/-! ## Events -/

/-- What matters to a reservation: a successful LR and an AMO of a double word,
an SC, and a store of `2 ^ size` bytes. -/
inductive Event where
  | lr (word : Nat)
  | sc
  | amo (word : Nat)
  | store (addr size : Nat)
deriving DecidableEq, Repr

/-- The event ends a reservation of the double word. -/
def Event.Breaks (word : Nat) : Event → Prop
  | lr _ => False
  | sc => True
  | amo other => other = word
  | store addr size => ∃ byte, addr ≤ byte ∧ byte < addr + 2 ^ size ∧ byte / 8 = word

/-- In a list of events, the last one first, an LR reserved the double word and
nothing ended the reservation since. -/
def Reserved (events : List Event) (word : Nat) : Prop :=
  ∃ since before, events = since ++ Event.lr word :: before ∧ ∀ event ∈ since, ¬event.Breaks word

theorem reserved_lr (events : List Event) (word : Nat) :
    Reserved (.lr word :: events) word :=
  ⟨[], events, rfl, by simp⟩

theorem not_reserved_of_breaks {event : Event} {word : Nat} (breaks : event.Breaks word)
    (events : List Event) : ¬Reserved (event :: events) word := by
  rintro ⟨since, before, same, unbroken⟩
  cases since with
  | nil =>
      obtain rfl := (List.cons.inj same).1
      exact breaks
  | cons last since =>
      obtain rfl := (List.cons.inj same).1
      exact unbroken event List.mem_cons_self breaks

theorem Reserved.append {events : List Event} {word : Nat} (reserved : Reserved events word)
    {more : List Event} (keeps : ∀ event ∈ more, ¬event.Breaks word) :
    Reserved (more ++ events) word := by
  rcases reserved with ⟨since, before, rfl, unbroken⟩
  refine ⟨more ++ since, before, by simp, fun event member => ?_⟩
  rcases List.mem_append.mp member with new | old
  · exact keeps event new
  · exact unbroken event old

section Signals

variable (s : State cfg) (i : Input cfg)

/-- The handler takes a request. -/
def taken : Bool := i.reqValid && reqReady s

/-- The read response of an LR arrives without an error. -/
def lrSucceeds : Bool :=
  s.ucFsmQ == .memWaitRsp && s.reqQ.op == .amoLr && i.memRespReadValid && !i.memRespRError

/-- The store in stage 1. -/
def storeEvents : List Event :=
  if i.lrscSnoop then [.store i.lrscSnoopAddr i.lrscSnoopSize] else []

/-- The SC or AMO that the handler takes. -/
def requestEvents : List Event :=
  if taken s i then
    if i.req.op = .amoSc then [.sc]
    else if reqIsAmo i.req.op then [.amo (i.req.addr / 8)]
    else []
  else []

def lrEvents : List Event := if lrSucceeds s i then [.lr (s.reqQ.addr / 8)] else []

/-- The events of a cycle, the last one first. -/
def cycleEvents : List Event := lrEvents s i ++ requestEvents s i ++ storeEvents i

end Signals

/-! ## What a cycle does to the reservation -/

section Step

variable {s : State cfg} {i : Input cfg}

/-- The answer to an LR: the reservation is set at its address, or reset. -/
theorem lrsc_of_lr (state : s.ucFsmQ = .memWaitRsp) (lr : s.reqQ.op = .amoLr)
    (answered : i.memRespReadValid = true) :
    (fsm s i).lrscUcSet = !i.memRespRError ∧
      (fsm s i).lrscRsrvAddrD =
        (if i.memRespRError then s.lrscRsrvAddrQ else s.reqQ.addr) := by
  simp only [fsm, state, memWaitRspComb, lr, ReqOp.isLoad, ReqOp.isStore, answered,
    Bool.false_eq_true, if_false, if_true, rdError, Bool.true_and, beq_self_eq_true]
  cases i.memRespRError with
  | false =>
      simp only [Bool.false_eq_true, if_false]
      split_ifs <;> exact ⟨rfl, rfl⟩
  | true =>
      simp only [if_true]
      split_ifs <;> exact ⟨rfl, rfl⟩

/-- Otherwise the reservation is not set. -/
theorem lrsc_of_other
    (other : ¬(s.ucFsmQ = .memWaitRsp ∧ s.reqQ.op = .amoLr ∧ i.memRespReadValid = true)) :
    (fsm s i).lrscUcSet = false ∧ (fsm s i).lrscRsrvAddrD = s.lrscRsrvAddrQ := by
  cases state : s.ucFsmQ with
  | idle =>
      simp only [fsm, state, idleComb]
      split_ifs <;> exact ⟨rfl, rfl⟩
  | memReq =>
      simp only [fsm, state, memReqComb]
      split_ifs <;> exact ⟨rfl, rfl⟩
  | memWReq =>
      simp only [fsm, state, memWReqComb]
      split_ifs <;> exact ⟨rfl, rfl⟩
  | memWdataReq =>
      simp only [fsm, state, memWdataReqComb]
      split_ifs <;> exact ⟨rfl, rfl⟩
  | memWaitRsp =>
      by_cases lr : s.reqQ.op = .amoLr
      · have unanswered : i.memRespReadValid = false :=
          Bool.eq_false_iff.mpr fun answered => other ⟨state, lr, answered⟩
        simp only [fsm, state, memWaitRspComb, lr, ReqOp.isLoad, ReqOp.isStore, unanswered,
          Bool.false_eq_true, if_false, beq_self_eq_true, if_true]
        exact ⟨rfl, rfl⟩
      · simp only [fsm, state, memWaitRspComb, beq_eq_false_iff_ne.mpr lr, Bool.false_eq_true,
          if_false]
        split_ifs <;> exact ⟨rfl, rfl⟩
  | coreRsp =>
      simp only [fsm, state]
      split_ifs <;> exact ⟨rfl, rfl⟩
  | amoWriteData => simp only [fsm, state]; exact ⟨rfl, rfl⟩

theorem rsrv_step (valid : (step s i).lrscRsrvValidQ = true) :
    (lrSucceeds s i = true ∧ (step s i).lrscRsrvAddrQ = s.reqQ.addr) ∨
      (lrSucceeds s i = false ∧ (step s i).lrscRsrvAddrQ = s.lrscRsrvAddrQ ∧
        s.lrscRsrvValidQ = true ∧ (fsm s i).lrscUcReset = false ∧
        lrscSnoopReset s i = false) := by
  by_cases lr : s.ucFsmQ = .memWaitRsp ∧ s.reqQ.op = .amoLr ∧ i.memRespReadValid = true
  · rcases lr with ⟨state, lr, answered⟩
    have facts := lrsc_of_lr state lr answered
    cases error : i.memRespRError with
    | false =>
        refine .inl ⟨by simp [lrSucceeds, state, lr, answered, error], ?_⟩
        change (fsm s i).lrscRsrvAddrD = _
        rw [facts.2, error]
        rfl
    | true =>
        refine .inr ⟨by simp [lrSucceeds, error], ?_, ?_⟩
        · change (fsm s i).lrscRsrvAddrD = _
          rw [facts.2, error]
          rfl
        · simp only [step, facts.1, error] at valid
          simpa using valid
  · have facts := lrsc_of_other (i := i) lr
    refine .inr ⟨?_, facts.2, ?_⟩
    · refine Bool.eq_false_iff.mpr fun succeeds => lr ?_
      simp only [lrSucceeds, Bool.and_eq_true, beq_iff_eq] at succeeds
      exact ⟨succeeds.1.1.1, succeeds.1.1.2, succeeds.1.2⟩
    · simp only [step, facts.1] at valid
      simpa using valid

end Step

/-! ## The snoop of stage 1 -/

/-- A store of `2 ^ size` bytes that is aligned to its size, inside one line. -/
structure StoreAligned (cfg : Cfg) (addr size : Nat) : Prop where
  sizeBits : size ≤ 7
  fits : 2 ^ size ≤ cfg.lineBytes
  dvd : 2 ^ size ∣ addr

/-- Lines of a power of two of bytes, at least a double word. -/
def LineWidth (cfg : Cfg) : Prop := ∃ offsetWidth, cfg.lineBytes = 2 ^ (3 + offsetWidth)

instance decidableStoreAligned (addr size : Nat) : Decidable (StoreAligned cfg addr size) :=
  decidable_of_iff (size ≤ 7 ∧ 2 ^ size ≤ cfg.lineBytes ∧ 2 ^ size ∣ addr)
    ⟨fun ⟨sizeBits, fits, dvd⟩ => ⟨sizeBits, fits, dvd⟩,
      fun aligned => ⟨aligned.sizeBits, aligned.fits, aligned.dvd⟩⟩

section Snoop

variable {s : State cfg} {i : Input cfg}

theorem line_of_word {words : Nat} (line : cfg.lineBytes = 8 * words) {a b : Nat}
    (same : a / 8 = b / 8) : nlineOf cfg a = nlineOf cfg b ∧ wordOf cfg a = wordOf cfg b := by
  constructor
  · rw [nlineOf, nlineOf, line, ← Nat.div_div_eq_div_mul, ← Nat.div_div_eq_div_mul, same]
  · rw [wordOf, wordOf, line, Nat.mod_mul_right_div_self, Nat.mod_mul_right_div_self, same]

/-- The double words of a store end below the end that the snoop computes. -/
theorem snoop_covers {offset size words k : Nat} (small : size ≤ 7)
    (aligned : 2 ^ size ∣ offset) (inside : offset + 2 ^ size ≤ 8 * words)
    (byte : k < 2 ^ size) :
    (offset + k) / 8 <
      (offset / 8 + (if size < 3 then 1 else 2 ^ size % 2 ^ 8 / 8 % (8 * words))) %
        (8 * words) := by
  split_ifs with short
  · have dvd : 2 ^ size ∣ 8 := pow_dvd_pow 2 (by omega : size ≤ 3)
    have same := (div_mod_of_aligned (by decide) dvd aligned byte).1
    have fits : 2 ^ size ≤ 8 := Nat.le_of_dvd (by decide) dvd
    rw [same, Nat.mod_eq_of_lt (by omega)]
    exact Nat.lt_succ_self _
  · obtain ⟨half, rfl⟩ := Nat.exists_eq_add_of_le (Nat.not_lt.mp short)
    have bound : 2 ^ (3 + half) < 2 ^ 8 := Nat.pow_lt_pow_right (by decide) (by omega)
    have whole : 2 ^ (3 + half) = 8 * 2 ^ half := by rw [Nat.pow_add]
    rw [Nat.mod_eq_of_lt bound]
    rw [whole] at aligned inside byte ⊢
    have eight : 8 ∣ offset := Nat.dvd_trans (Nat.dvd_mul_right _ _) aligned
    rw [Nat.mul_div_cancel_left _ (by decide), Nat.mod_eq_of_lt (by omega : 2 ^ half < 8 * words),
      Nat.mod_eq_of_lt (by omega)]
    omega

theorem lrscSnoopHit_of_byte (line : LineWidth cfg) (valid : s.lrscRsrvValidQ = true)
    (aligned : StoreAligned cfg i.lrscSnoopAddr i.lrscSnoopSize) {byte : Nat}
    (low : i.lrscSnoopAddr ≤ byte) (high : byte < i.lrscSnoopAddr + 2 ^ i.lrscSnoopSize)
    (same : byte / 8 = s.lrscRsrvAddrQ / 8) : lrscSnoopHit s i = true := by
  rcases line with ⟨offsetWidth, line⟩
  have words : cfg.lineBytes = 8 * 2 ^ offsetWidth := by rw [line, Nat.pow_add]
  have sizeDvd : 2 ^ i.lrscSnoopSize ∣ cfg.lineBytes := by
    have fits := aligned.fits
    rw [line] at fits ⊢
    exact pow_dvd_pow 2 ((Nat.pow_le_pow_iff_right (by decide)).mp fits)
  obtain ⟨k, rfl⟩ := Nat.exists_eq_add_of_le low
  have inside : k < 2 ^ i.lrscSnoopSize := by omega
  rcases div_mod_of_aligned cfg.lineBytes_pos sizeDvd aligned.dvd inside with
    ⟨sameLine, sameByte⟩
  rcases line_of_word words same.symm with ⟨rsrvLine, rsrvWord⟩
  have offset : i.lrscSnoopAddr % cfg.lineBytes + 2 ^ i.lrscSnoopSize ≤ 8 * 2 ^ offsetWidth := by
    have positive := Nat.two_pow_pos i.lrscSnoopSize
    have last := mod_add_lt_of_aligned cfg.lineBytes_pos sizeDvd aligned.dvd
      (Nat.sub_lt positive Nat.one_pos)
    omega
  have offsetDvd : 2 ^ i.lrscSnoopSize ∣ i.lrscSnoopAddr % cfg.lineBytes :=
    (Nat.dvd_mod_iff sizeDvd).mpr aligned.dvd
  have covered := snoop_covers aligned.sizeBits offsetDvd offset inside
  simp only [lrscSnoopHit, Bool.and_eq_true, beq_iff_eq, decide_eq_true_eq]
  refine ⟨⟨⟨valid, ?_⟩, ?_⟩, ?_⟩
  · rw [rsrvLine]
    exact sameLine
  · rw [rsrvWord, wordOf, sameByte, lrscSnoopBase, wordOf]
    exact Nat.div_le_div_right (Nat.le_add_right _ _)
  · rw [rsrvWord, wordOf, sameByte, lrscSnoopEnd, lrscSnoopBase, wordOf, lrscSnoopWords, words]
    rw [words] at covered
    exact covered

end Snoop

/-! ## The requests that the handler takes -/

section Requests

variable {s : State cfg} {i : Input cfg}

theorem taken_iff : taken s i = true ↔ i.reqValid = true ∧ s.ucFsmQ = .idle := by
  simp [taken, reqReady]

theorem reqQ_of_taken (accepted : taken s i = true) : (step s i).reqQ = i.req :=
  if_pos accepted

theorem lrscUcReset_of_amo (accepted : taken s i = true) (amo : reqIsAmo i.req.op = true) :
    (fsm s i).lrscUcReset = lrscUcHit s i := by
  rcases taken_iff.mp accepted with ⟨valid, state⟩
  simp only [fsm, state, idleComb, valid, if_true, isLoad_of_reqIsAmo amo,
    isStore_of_reqIsAmo amo, amo, Bool.or_self, Bool.true_or, Bool.false_eq_true, if_false,
    ne_amoLr_of_reqIsAmo amo, ne_eq, not_false_eq_true, decide_true, Bool.true_and]
  split_ifs <;> rfl

theorem step_of_sc (accepted : taken s i = true) (sc : i.req.op = .amoSc) :
    (refused i = true ∧ (fsm s i).ucFsmD = .coreRsp ∧ (fsm s i).rspErrorSet = true ∧
        (fsm s i).rspErrorRst = false) ∨
      (refused i = false ∧ (fsm s i).lrscUcReset = true ∧
        (fsm s i).rspErrorSet = false ∧
        ((lrscUcHit s i = true ∧ (fsm s i).ucFsmD = .memReq) ∨
          (lrscUcHit s i = false ∧ (fsm s i).ucFsmD = .coreRsp ∧
            (fsm s i).ucScRetcodeD = amoScFailure))) := by
  rcases taken_iff.mp accepted with ⟨valid, state⟩
  simp only [fsm, state, idleComb, valid, if_true, sc, ReqOp.isLoad, ReqOp.isStore, reqIsAmo,
    Bool.or_self, Bool.false_eq_true, if_false, beq_self_eq_true]
  cases refused i with
  | true => exact .inl ⟨rfl, rfl, rfl, rfl⟩
  | false =>
      cases lrscUcHit s i with
      | true => exact .inr ⟨rfl, rfl, rfl, .inl ⟨rfl, rfl⟩⟩
      | false => exact .inr ⟨rfl, rfl, rfl, .inr ⟨rfl, rfl, rfl⟩⟩

/-- The handler holds the reservation of a double word. -/
theorem lrscUcHit_iff (line : LineWidth cfg) :
    lrscUcHit s i = true ↔
      s.lrscRsrvValidQ = true ∧ s.lrscRsrvAddrQ / 8 = i.req.addr / 8 := by
  rcases line with ⟨offsetWidth, line⟩
  have words : cfg.lineBytes = 8 * 2 ^ offsetWidth := by rw [line, Nat.pow_add]
  simp only [lrscUcHit, Bool.and_eq_true, beq_iff_eq, and_assoc]
  refine and_congr_right fun _ => ⟨?_, line_of_word words⟩
  rintro ⟨sameLine, sameWord⟩
  have split (a : Nat) : a / 8 = nlineOf cfg a * 2 ^ offsetWidth + wordOf cfg a := by
    rw [nlineOf, wordOf, words, Nat.mod_mul_right_div_self, ← Nat.div_div_eq_div_mul,
      Nat.div_add_mod']
  rw [split, split i.req.addr, sameLine, sameWord]

end Requests

/-! ## Runs -/

/-- The events of the run, those before the request in service, and how the
handler found that request: with its reservation held, or refused. -/
structure RsrvLog where
  events : List Event
  atTake : List Event
  granted : Bool
  refused : Bool

def RsrvLog.empty : RsrvLog where
  events := []
  atTake := []
  granted := false
  refused := false

def recordEvents (s : State cfg) (i : Input cfg) (log : RsrvLog) : RsrvLog where
  events := cycleEvents s i ++ log.events
  atTake := if taken s i then log.events else log.atTake
  granted := if taken s i then lrscUcHit s i && !refused i else log.granted
  refused := if taken s i then refused i else log.refused

/-- The handler with the history of its reservations. -/
def rsrvMachine (cfg : Cfg) : Machine (State cfg × RsrvLog) (Input cfg) :=
  (machine cfg).withHistory RsrvLog.empty recordEvents

/-- The stores of stage 1 are aligned. -/
def StoresAligned (i : Input cfg) : Prop :=
  i.lrscSnoop = true → StoreAligned cfg i.lrscSnoopAddr i.lrscSnoopSize

/-- No SC is refused while the handler holds a reservation. -/
def NotRefused (s : State cfg) (i : Input cfg) : Prop :=
  taken s i = true → i.req.op = .amoSc → s.lrscRsrvValidQ = true → refused i = false

instance decidableStoresAligned (i : Input cfg) : Decidable (StoresAligned i) :=
  inferInstanceAs (Decidable (_ → _))

instance decidableNotRefused (s : State cfg) (i : Input cfg) : Decidable (NotRefused s i) :=
  inferInstanceAs (Decidable (_ → _ → _ → _))

/-- A held reservation is that of an LR; an SC is sent to the memory only with its
reservation, and is otherwise on its way to an error or a failure. -/
structure Kept (s : State cfg) (log : RsrvLog) : Prop where
  valid : s.lrscRsrvValidQ = true → Reserved log.events (s.lrscRsrvAddrQ / 8)
  granted : s.ucFsmQ ≠ .idle → log.granted = true → Reserved log.atTake (s.reqQ.addr / 8)
  sent : s.reqQ.op = .amoSc → s.ucFsmQ ≠ .idle → s.ucFsmQ ≠ .coreRsp → log.granted = true
  denied : s.reqQ.op = .amoSc → s.ucFsmQ = .coreRsp → log.granted = false →
    if log.refused then s.rspErrorQ = true
    else s.rspErrorQ = false ∧ s.ucScRetcodeQ = amoScFailure

theorem kept_reset : Kept (reset cfg) RsrvLog.empty where
  valid := by intro valid; contradiction
  granted := by intro busy; contradiction
  sent := by intro sc; contradiction
  denied := by intro sc; contradiction

section Kept

variable {s : State cfg} {i : Input cfg} {log : RsrvLog}

/-- What the handler takes and what stage 1 stores leaves a reservation that is
not reset. -/
theorem keeps_of_valid (line : LineWidth cfg) (stores : StoresAligned i)
    (notRefused : NotRefused s i) (valid : s.lrscRsrvValidQ = true)
    (kept : (fsm s i).lrscUcReset = false) (missed : lrscSnoopReset s i = false) :
    ∀ event ∈ requestEvents s i ++ storeEvents i, ¬event.Breaks (s.lrscRsrvAddrQ / 8) := by
  intro event member
  rcases List.mem_append.mp member with request | store
  · rw [requestEvents] at request
    split_ifs at request with accepted sc amo
    · rcases step_of_sc accepted sc with ⟨deny, -⟩ | ⟨-, reset, -⟩
      · rw [notRefused accepted sc valid] at deny
        contradiction
      · rw [kept] at reset
        contradiction
    · obtain rfl := List.mem_singleton.mp request
      intro same
      have hit := (lrscUcHit_iff line).mpr ⟨valid, same.symm⟩
      rw [lrscUcReset_of_amo accepted amo, hit] at kept
      contradiction
    · contradiction
    · contradiction
  · rw [storeEvents] at store
    split_ifs at store with snoop
    · obtain rfl := List.mem_singleton.mp store
      rintro ⟨byte, low, high, same⟩
      have hit := lrscSnoopHit_of_byte line valid (stores snoop) low high same
      rw [lrscSnoopReset, snoop, hit] at missed
      contradiction
    · contradiction

theorem Kept.valid_step (before : Kept s log) (line : LineWidth cfg)
    (stores : StoresAligned i) (notRefused : NotRefused s i)
    (valid : (step s i).lrscRsrvValidQ = true) :
    Reserved (recordEvents s i log).events ((step s i).lrscRsrvAddrQ / 8) := by
  rw [recordEvents, cycleEvents]
  rcases rsrv_step valid with ⟨succeeds, addr⟩ | ⟨fails, addr, held, kept, missed⟩
  · rw [addr, lrEvents, if_pos succeeds]
    exact reserved_lr _ _
  · rw [addr, lrEvents, fails]
    exact (before.valid held).append
      (keeps_of_valid line stores notRefused held kept missed)

theorem retcode_of_answering (state : s.ucFsmQ = .coreRsp) :
    (step s i).ucScRetcodeQ = s.ucScRetcodeQ := by
  simp only [step, fsm, state]
  split_ifs <;> rfl

theorem taken_of_leaves (state : s.ucFsmQ = .idle) (leaves : (step s i).ucFsmQ ≠ .idle) :
    taken s i = true := by
  rcases next_of_idle i state with ⟨stays, -⟩ | ⟨valid, -⟩
  · exact absurd stays leaves
  · exact taken_iff.mpr ⟨valid, state⟩

theorem recordEvents_of_busy (busy : s.ucFsmQ ≠ .idle) :
    (recordEvents s i log).atTake = log.atTake ∧
      (recordEvents s i log).granted = log.granted ∧
      (recordEvents s i log).refused = log.refused := by
  have idle : taken s i = false := by simp [taken, reqReady, busy]
  simp [recordEvents, idle]

theorem recordEvents_of_taken (accepted : taken s i = true) :
    (recordEvents s i log).atTake = log.events ∧
      (recordEvents s i log).granted = (lrscUcHit s i && !refused i) ∧
      (recordEvents s i log).refused = refused i := by
  simp [recordEvents, accepted]

theorem Kept.granted_step (before : Kept s log) (line : LineWidth cfg)
    (busy : (step s i).ucFsmQ ≠ .idle) (granted : (recordEvents s i log).granted = true) :
    Reserved (recordEvents s i log).atTake ((step s i).reqQ.addr / 8) := by
  by_cases state : s.ucFsmQ = .idle
  · have accepted := taken_of_leaves state busy
    rw [(recordEvents_of_taken accepted).2.1, Bool.and_eq_true] at granted
    rw [reqQ_of_taken accepted, (recordEvents_of_taken accepted).1]
    have held := (lrscUcHit_iff line).mp granted.1
    rw [← held.2]
    exact before.valid held.1
  · rw [(recordEvents_of_busy state).2.1] at granted
    rw [reqQ_step_of_busy i state, (recordEvents_of_busy state).1]
    exact before.granted state granted

theorem Kept.sent_step (before : Kept s log) (sc : (step s i).reqQ.op = .amoSc)
    (busy : (step s i).ucFsmQ ≠ .idle) (waits : (step s i).ucFsmQ ≠ .coreRsp) :
    (recordEvents s i log).granted = true := by
  by_cases state : s.ucFsmQ = .idle
  · have accepted := taken_of_leaves state busy
    rw [reqQ_of_taken accepted] at sc
    rw [(recordEvents_of_taken accepted).2.1]
    rcases step_of_sc accepted sc with ⟨-, next, -⟩ | ⟨allowed, -, -, ⟨hit, -⟩ | ⟨-, next, -⟩⟩
    · exact absurd next waits
    · rw [hit, allowed]
      rfl
    · exact absurd next waits
  · rw [reqQ_step_of_busy i state] at sc
    rw [(recordEvents_of_busy state).2.1]
    refine before.sent sc state fun answering => ?_
    rcases next_of_answering i answering with ⟨next, -⟩ | ⟨next, -⟩
    · exact waits next
    · exact busy next

theorem Kept.denied_step (before : Kept s log) (clean : Clean s)
    (sc : (step s i).reqQ.op = .amoSc) (answering : (step s i).ucFsmQ = .coreRsp)
    (denied : (recordEvents s i log).granted = false) :
    if (recordEvents s i log).refused then (step s i).rspErrorQ = true
    else (step s i).rspErrorQ = false ∧ (step s i).ucScRetcodeQ = amoScFailure := by
  by_cases state : s.ucFsmQ = .idle
  · have accepted := taken_of_leaves (i := i) state (by simp [answering])
    rw [reqQ_of_taken accepted] at sc
    rw [(recordEvents_of_taken accepted).2.1] at denied
    rw [(recordEvents_of_taken accepted).2.2]
    have quiet := clean.resting (.inl state)
    rcases step_of_sc accepted sc with
      ⟨deny, -, set, -⟩ | ⟨granted, -, noError, ⟨hit, -⟩ | ⟨-, -, failure⟩⟩
    · rw [if_pos deny]
      simp [step, quiet, set]
    · rw [hit, granted] at denied
      contradiction
    · rw [granted]
      exact ⟨by simp [step, quiet, noError], failure⟩
  · have same := reqQ_step_of_busy i state
    rw [same] at sc
    rw [(recordEvents_of_busy state).2.1] at denied
    rw [(recordEvents_of_busy state).2.2]
    by_cases answered : s.ucFsmQ = .coreRsp
    · rcases next_of_answering i answered with ⟨-, error⟩ | ⟨next, -⟩
      · rw [error, retcode_of_answering answered]
        exact before.denied sc answered denied
      · rw [answering] at next
        contradiction
    · rw [before.sent sc state answered] at denied
      contradiction

theorem Kept.step (before : Kept s log) (clean : Clean s) (line : LineWidth cfg)
    (stores : StoresAligned i) (notRefused : NotRefused s i) :
    Kept (step s i) (recordEvents s i log) where
  valid := before.valid_step line stores notRefused
  granted := before.granted_step line
  sent := before.sent_step
  denied := before.denied_step clean

end Kept

/-! ## Store-conditionals -/

/-- A request to the memory is valid. -/
def memReqValid (s : State cfg) : Bool :=
  memReqReadValid s || memReqWriteValid s || memReqWriteDataValid s

/-- The answer to an SC is the failure code, without an error. -/
def AnswersFailure (s : State cfg) : Prop :=
  s.rspErrorQ = false ∧
    coreRspRdata s = fun byte => byteAt (prepareAmoDataResult 1 s.reqQ.size) (byte.val % 8)

/-- An SC requests the memory only after an LR of its double word, with no SC and
no AMO or store to it since. An SC clears the reservation. An SC that found no
reservation in the handler requests nothing from the memory, and is answered as a
failure, or with an error when it is refused. -/
structure ScChecked (s : State cfg) (i : Input cfg) (log : RsrvLog) : Prop where
  reserved : s.reqQ.op = .amoSc → memReqValid s = true → Reserved log.atTake (s.reqQ.addr / 8)
  clears : taken s i = true → i.req.op = .amoSc → (step s i).lrscRsrvValidQ = false
  unsent : s.reqQ.op = .amoSc → memReqValid s = true → log.granted = true
  fails : s.reqQ.op = .amoSc → coreRspValid s = true →
    ¬Reserved log.atTake (s.reqQ.addr / 8) ∨ log.granted = false →
      if log.refused then s.rspErrorQ = true else AnswersFailure s

section Checked

variable {s : State cfg} {i : Input cfg} {log : RsrvLog}

theorem sending_of_memReqValid (valid : memReqValid s = true) :
    s.ucFsmQ ≠ .idle ∧ s.ucFsmQ ≠ .coreRsp := by
  simp only [memReqValid, memReqReadValid, memReqWriteValid, memReqWriteDataValid,
    Bool.or_eq_true, Bool.and_eq_true, beq_iff_eq] at valid
  rcases valid with (⟨state, -⟩ | ⟨state, -⟩ | state) | ⟨state, -⟩ | state <;> simp [state]

theorem answersFailure_of_retcode (sc : s.reqQ.op = .amoSc) (quiet : s.rspErrorQ = false)
    (failure : s.ucScRetcodeQ = amoScFailure) : AnswersFailure s := by
  refine ⟨quiet, ?_⟩
  rw [coreRspRdata, if_pos sc]
  unfold scRdata
  rw [failure]
  rfl

/-- An SC that is not refused resets the reservation. -/
theorem cleared_of_sc (notRefused : NotRefused s i) (accepted : taken s i = true)
    (sc : i.req.op = .amoSc) : (step s i).lrscRsrvValidQ = false := by
  refine Bool.eq_false_iff.mpr fun valid => ?_
  rcases rsrv_step valid with ⟨succeeds, -⟩ | ⟨-, -, held, kept, -⟩
  · simp [lrSucceeds, (taken_iff.mp accepted).2] at succeeds
  · rcases step_of_sc accepted sc with ⟨deny, -⟩ | ⟨-, reset, -⟩
    · rw [notRefused accepted sc held] at deny
      contradiction
    · rw [kept] at reset
      contradiction

theorem Kept.checked (kept : Kept s log) (notRefused : NotRefused s i) : ScChecked s i log where
  reserved sc valid := by
    rcases sending_of_memReqValid valid with ⟨busy, waits⟩
    exact kept.granted busy (kept.sent sc busy waits)
  clears := cleared_of_sc notRefused
  unsent sc valid := by
    rcases sending_of_memReqValid valid with ⟨busy, waits⟩
    exact kept.sent sc busy waits
  fails sc answering found := by
    have state : s.ucFsmQ = .coreRsp := beq_iff_eq.mp answering
    have denied : log.granted = false := by
      rcases found with unreserved | denied
      · exact Bool.eq_false_iff.mpr fun granted =>
          unreserved (kept.granted (by simp [state]) granted)
      · exact denied
    have answer := kept.denied sc state denied
    split_ifs at answer ⊢ with deny
    · exact answer
    · exact answersFailure_of_retcode sc answer.1 answer.2

end Checked

theorem kept_run (line : LineWidth cfg) {inputs : List (Input cfg)}
    (along : (rsrvMachine cfg).RunAlong (fun s i => StoresAligned i ∧ NotRefused s.1 i)
      inputs) :
    Kept ((rsrvMachine cfg).run inputs).1 ((rsrvMachine cfg).run inputs).2 :=
  ((rsrvMachine cfg).run_invariant_along (fun s => Clean s.1 ∧ Kept s.1 s.2)
    ⟨clean_reset, kept_reset⟩
    (fun _ i before condition =>
      ⟨before.1.step i, before.2.step before.1 line condition.1 condition.2⟩) along).2

/-- In every run in which no SC is refused while the handler holds a reservation,
SCs respect the reservation. -/
theorem scChecked_run (line : LineWidth cfg) (inputs : List (Input cfg)) (i : Input cfg)
    (along : (rsrvMachine cfg).RunAlong (fun s i => StoresAligned i ∧ NotRefused s.1 i)
      inputs)
    (notRefused : NotRefused ((rsrvMachine cfg).run inputs).1 i) :
    ScChecked ((rsrvMachine cfg).run inputs).1 i ((rsrvMachine cfg).run inputs).2 :=
  (kept_run line along).checked notRefused

/-- An LR of an uncacheable double word. -/
def Request.lr (cfg : Cfg) : Request cfg :=
  { Request.zero cfg with op := .amoLr, uc := true, size := 3, needRsp := true }

/-- An SC to a double word. -/
def Request.sc (cfg : Cfg) (addr : Nat) (uc : Bool) : Request cfg :=
  { Request.lr cfg with op := .amoSc, addr := addr, uc := uc }

/-- An LR that succeeds, up to its answer. -/
def lrTaken : List (Input doubleWords) :=
  [{ Input.quiet doubleWords with reqValid := true, req := Request.lr doubleWords },
    { Input.quiet doubleWords with memReqReadReady := true },
    { Input.quiet doubleWords with memRespReadValid := true },
    { Input.quiet doubleWords with coreRspReady := true }]

/-- An SC that the handler takes. -/
def scTaken (addr : Nat) (uc : Bool) : Input doubleWords :=
  { Input.quiet doubleWords with
    reqValid := true, req := Request.sc doubleWords addr uc, cfgErrorOnCacheableAmo := true }

theorem scChecked_lrSc :
    ScChecked ((rsrvMachine doubleWords).run (lrTaken ++ [scTaken 0 true])).1
      (Input.quiet doubleWords)
      ((rsrvMachine doubleWords).run (lrTaken ++ [scTaken 0 true])).2 :=
  scChecked_run ⟨0, rfl⟩ (lrTaken ++ [scTaken 0 true]) (Input.quiet doubleWords)
    (by decide +kernel) (by decide +kernel)

/-- The LR, an SC of another, cacheable double word that is refused, and an SC of the
double word of the LR. -/
def scRefused : List (Input doubleWords) :=
  lrTaken ++ [scTaken 8 false, { Input.quiet doubleWords with coreRspReady := true },
    scTaken 0 true]

/-- The second SC is sent to the memory, though the first one came after the LR. -/
theorem sc_unreserved :
    (rsrvMachine doubleWords).RunAlong (fun _ i => StoresAligned i) scRefused ∧
      ∀ i, ¬ScChecked ((rsrvMachine doubleWords).run scRefused).1 i
        ((rsrvMachine doubleWords).run scRefused).2 := by
  refine ⟨by decide +kernel, fun i checked => ?_⟩
  have reserved := checked.reserved (by decide +kernel) (by decide +kernel)
  have history : ((rsrvMachine doubleWords).run scRefused).2.atTake = [.sc, .lr 0] := by
    decide +kernel
  rw [history] at reserved
  exact not_reserved_of_breaks (show Event.sc.Breaks _ from trivial) _ reserved

end Cva6Hpd.Hpdcache.Uncached
