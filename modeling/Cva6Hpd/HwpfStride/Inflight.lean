import Cva6Hpd.HwpfStride.Engine

/-!
# Requests in flight

The engine counts the requests that it sent and that were not answered. It compares the counter
with the limit before it counts the request that is granted in the cycle, and so one request too
many may be sent behind the one that reaches the limit.
-/

namespace Cva6Hpd.HwpfStride

open Cva6Hpd.Hw

variable {nlineWidth : Nat}

/-! ## Outstanding requests -/

/-- The requests that were sent and not answered. -/
def outstandingNext (s : State nlineWidth) (i : Input) (outstanding : Nat) : Nat :=
  outstanding + (grants s i).toNat - i.hpdcacheRspValid.toNat

/-- The engine with the number of its outstanding requests. -/
def counted (nlineWidth : Nat) (csrThrottle : Throttle) :
    Machine (State nlineWidth × Nat) Input :=
  (machine nlineWidth csrThrottle).withHistory 0 outstandingNext

/-- The engine leaves the idle state for a run. -/
def arms (s : State nlineWidth) : Bool :=
  decide (s.stateQ = .idle) && s.csrBaseQ.enable &&
    (0 < s.csrParamQ.nlines || 0 < s.csrParamQ.nblocks)

/-- Only what was sent is answered, and an engine is armed with a limit only. -/
structure Limited (s : State nlineWidth × Nat) (i : Input) : Prop where
  answers : i.hpdcacheRspValid = true → 0 < s.2
  limit : arms s.1 = true → s.1.csrThrottleQ.ninflight ≠ 0

/-- The counter is right, and the limit is kept. -/
structure Bounded (s : State nlineWidth × Nat) : Prop where
  counter : s.1.inflightCntQ.toNat = s.2
  limit : s.2 ≤ s.1.shadowThrottleQ.ninflight.toNat

/-- An engine that does not wait between its requests is not granted one at the limit, unless a
response comes in the same cycle. -/
def Restrained (s : State nlineWidth × Nat) (i : Input) : Prop :=
  s.1.stateQ = .sendReq → s.1.shadowThrottleQ.nwait = 0 → i.hpdcacheReqReady = true →
    isInflightMax s.1 = true → i.hpdcacheRspValid = true

instance decidableLimited (s : State nlineWidth × Nat) (i : Input) : Decidable (Limited s i) :=
  decidable_of_iff
    ((i.hpdcacheRspValid = true → 0 < s.2) ∧
      (arms s.1 = true → s.1.csrThrottleQ.ninflight ≠ 0))
    ⟨fun ⟨answers, limit⟩ => ⟨answers, limit⟩, fun limited => ⟨limited.answers, limited.limit⟩⟩

instance decidableBounded (s : State nlineWidth × Nat) : Decidable (Bounded s) :=
  decidable_of_iff
    (s.1.inflightCntQ.toNat = s.2 ∧ s.2 ≤ s.1.shadowThrottleQ.ninflight.toNat)
    ⟨fun ⟨counter, limit⟩ => ⟨counter, limit⟩, fun bounded => ⟨bounded.counter, bounded.limit⟩⟩

instance decidableRestrained (s : State nlineWidth × Nat) (i : Input) :
    Decidable (Restrained s i) :=
  inferInstanceAs (Decidable (_ → _ → _ → _ → _))

/-! ## One clock edge -/

section Step

variable {s : State nlineWidth} {i : Input} {outstanding : Nat}

theorem silent_of_ne (other : s.stateQ ≠ .sendReq) :
    (control s i).hpdcacheReqValid = false ∧ (control s i).inflightInc = false := by
  cases state : s.stateQ with
  | sendReq => exact absurd state other
  | idle =>
      simp only [control, state, controlIdle]
      repeat' split
      all_goals exact ⟨rfl, rfl⟩
  | snoop =>
      simp only [control, state, controlSnoop]
      repeat' split
      all_goals exact ⟨rfl, rfl⟩
  | wait =>
      simp only [control, state, controlWait]
      split <;> exact ⟨rfl, rfl⟩
  | done =>
      simp only [control, state, controlDone]
      repeat' split
      all_goals exact ⟨rfl, rfl⟩
  | abort =>
      simp only [control, state, controlAbort]
      split <;> exact ⟨rfl, rfl⟩

theorem grants_eq (s : State nlineWidth) (i : Input) :
    grants s i = (decide (s.stateQ = .sendReq) && i.hpdcacheReqReady) := by
  rw [grants]
  by_cases state : s.stateQ = .sendReq
  · simp only [control, state, controlSendReq, decide_true, Bool.true_and]
    repeat' split
    all_goals rfl
  · rw [(silent_of_ne state).1, decide_eq_false state]

theorem inflightInc_eq (s : State nlineWidth) (i : Input) :
    (control s i).inflightInc = grants s i := by
  by_cases state : s.stateQ = .sendReq
  · rw [grants_eq, decide_eq_true state, Bool.true_and]
    simp only [control, state, controlSendReq]
    cases i.hpdcacheReqReady with
    | true =>
        rw [if_pos rfl]
        split <;> rfl
    | false => rfl
  · rw [(silent_of_ne state).2, grants_eq, decide_eq_false state, Bool.false_and]

theorem toNat_inflightCntD (counter : s.inflightCntQ.toNat = outstanding)
    (answers : i.hpdcacheRspValid = true → 0 < outstanding)
    (room : outstanding + (grants s i).toNat ≤ 65535 + i.hpdcacheRspValid.toNat) :
    (inflightCntD s i).toNat = outstandingNext s i outstanding := by
  subst counter
  rw [inflightCntD, outstandingNext, inflightInc_eq]
  generalize s.inflightCntQ = count at answers room ⊢
  cases answer : i.hpdcacheRspValid with
  | false =>
      cases sent : grants s i with
      | false => simp
      | true =>
          simp only [answer, sent, Bool.toNat_true, Bool.toNat_false] at room
          simp only [if_true, Bool.false_and, Bool.false_eq_true, if_false, Bool.toNat_true,
            Bool.toNat_false]
          bv_omega
  | true =>
      have positive := answers answer
      have busy : 0 < count := by bv_omega
      simp only [decide_eq_true busy, Bool.and_self, if_true, Bool.toNat_true]
      cases grants s i with
      | false =>
          simp only [Bool.false_eq_true, if_false, Bool.toNat_false]
          bv_omega
      | true =>
          simp only [if_true, Bool.toNat_true]
          bv_omega

/-! ## The next state -/

/-- The limit is taken when the engine is armed. -/
theorem shadowThrottleD_eq (s : State nlineWidth) (i : Input) :
    (control s i).shadowThrottleD = if arms s then s.csrThrottleQ else s.shadowThrottleQ := by
  cases state : s.stateQ with
  | idle =>
      simp only [control, state, controlIdle, arms, decide_true, Bool.true_and]
      cases s.csrBaseQ.enable with
      | false => rfl
      | true =>
          rw [if_pos rfl, Bool.true_and]
          split <;> rfl
  | _ =>
      simp only [control, state, controlSnoop, controlSendReq, controlWait, controlDone,
        controlAbort, arms, reduceCtorEq, decide_false, Bool.false_and]
      repeat' split
      all_goals first | rfl | contradiction

/-- An engine starts to run only when it is armed. -/
theorem arms_of_leaves (idle : s.stateQ = .idle) (leaves : (control s i).stateD ≠ .idle) :
    arms s = true := by
  simp only [control, idle, controlIdle] at leaves
  rw [arms, decide_eq_true idle, Bool.true_and, Bool.and_eq_true]
  split at leaves
  · rename_i enable
    split at leaves
    · rename_i lines
      exact ⟨enable, lines⟩
    · exact absurd idle leaves
  · exact absurd idle leaves

/-- An engine stops to run only when nothing is in flight. -/
theorem stops (next : (control s i).stateD = .idle ∨ (control s i).stateD = .snoop) :
    s.stateQ = .idle ∨ s.stateQ = .snoop ∨ s.stateQ ≠ .sendReq ∧ s.inflightCntQ = 0 := by
  cases state : s.stateQ with
  | idle => exact .inl rfl
  | snoop => exact .inr (.inl rfl)
  | sendReq =>
      simp only [control, state, controlSendReq, sentStateD, controlDefault] at next
      repeat' split at next
      all_goals simp_all
  | wait =>
      simp only [control, state, controlWait] at next
      repeat' split at next
      all_goals simp_all
  | done =>
      simp only [control, state, controlDone, controlDefault] at next
      repeat' split at next
      all_goals simp_all
  | abort =>
      simp only [control, state, controlAbort, controlDefault] at next
      split at next
      all_goals simp_all

theorem sends (spaced : s.shadowThrottleQ.nwait ≠ 0) (next : (control s i).stateD = .sendReq) :
    s.stateQ = .snoop ∨ s.stateQ = .wait ∧ isInflightMax s = false ∨
      s.stateQ = .sendReq ∧ grants s i = false := by
  cases state : s.stateQ with
  | snoop => exact .inl rfl
  | sendReq =>
      rw [grants_eq, decide_eq_true state, Bool.true_and]
      refine .inr (.inr ⟨rfl, ?_⟩)
      rw [Bool.eq_false_iff]
      intro ready
      simp only [control, state, controlSendReq, ready, if_true, sentStateD, spaced] at next
      repeat' split at next
      all_goals simp_all
  | wait =>
      refine .inr (.inl ⟨rfl, ?_⟩)
      simp only [control, state, controlWait] at next
      repeat' split at next
      all_goals simp_all
  | idle =>
      simp only [control, state, controlIdle, controlDefault] at next
      repeat' split at next
      all_goals simp_all
  | done =>
      simp only [control, state, controlDone, controlDefault] at next
      repeat' split at next
      all_goals simp_all
  | abort =>
      simp only [control, state, controlAbort, controlDefault] at next
      split at next
      all_goals simp_all

end Step

/-! ## Runs -/

/-- The invariant: nothing is in flight around a run, and an engine that waits between its
requests has room for the next one. -/
structure Keeps (s : State nlineWidth × Nat) : Prop extends Bounded s where
  limited : s.1.stateQ ≠ .idle → s.1.shadowThrottleQ.ninflight ≠ 0
  quiet : s.1.stateQ = .idle ∨ s.1.stateQ = .snoop → s.2 = 0
  below : s.1.stateQ = .sendReq → s.1.shadowThrottleQ.nwait ≠ 0 →
    s.2 < s.1.shadowThrottleQ.ninflight.toNat

section Invariant

variable {s : State nlineWidth × Nat} {i : Input}

theorem below_of_not_max (bounded : Bounded s) (limited : s.1.shadowThrottleQ.ninflight ≠ 0)
    (room : isInflightMax s.1 = false) : s.2 < s.1.shadowThrottleQ.ninflight.toNat := by
  rw [isInflightMax, decide_eq_true limited, Bool.true_and, decide_eq_false_iff_not,
    BitVec.not_le] at room
  rw [← bounded.counter]
  exact room

/-- A request that is granted leaves the limit kept exactly if the engine is restrained. -/
theorem outstandingNext_le_iff (keeps : Keeps s) (granted : grants s.1 i = true) :
    outstandingNext s.1 i s.2 ≤ s.1.shadowThrottleQ.ninflight.toNat ↔ Restrained s i := by
  rw [grants_eq, Bool.and_eq_true, decide_eq_true_eq] at granted
  obtain ⟨sending, ready⟩ := granted
  have limited := keeps.limited (by rw [sending]; exact Fsm.noConfusion)
  have limit := keeps.limit
  rw [outstandingNext, grants_eq, decide_eq_true sending, ready, Bool.and_self, Bool.toNat_true]
  constructor
  · intro kept _ spaced _ full
    by_contra silent
    have most : ¬s.2 < s.1.shadowThrottleQ.ninflight.toNat := by
      rw [isInflightMax, Bool.and_eq_true, decide_eq_true_eq, decide_eq_true_eq] at full
      rw [← keeps.counter]
      exact BitVec.not_lt.mpr full.2
    rw [Bool.eq_false_iff.mpr silent, Bool.toNat_false] at kept
    omega
  · intro restrained
    by_cases spaced : s.1.shadowThrottleQ.nwait = 0
    · cases full : isInflightMax s.1 with
      | true =>
          rw [restrained sending spaced ready full, Bool.toNat_true]
          omega
      | false =>
          have room := below_of_not_max keeps.toBounded limited full
          omega
    · have room := keeps.below sending spaced
      omega

theorem Keeps.step (keeps : Keeps s) (limited : Limited s i) (restrained : Restrained s i) :
    Keeps ((counted nlineWidth s.1.csrThrottleQ).step s i) := by
  have bound : outstandingNext s.1 i s.2 ≤ s.1.shadowThrottleQ.ninflight.toNat := by
    cases granted : grants s.1 i with
    | true => exact (outstandingNext_le_iff keeps granted).mpr restrained
    | false =>
        rw [outstandingNext, granted, Bool.toNat_false]
        exact (Nat.sub_le _ _).trans keeps.limit
  have counter : (inflightCntD s.1 i).toNat = outstandingNext s.1 i s.2 := by
    apply toNat_inflightCntD keeps.counter limited.answers
    have small := s.1.shadowThrottleQ.ninflight.isLt
    rw [outstandingNext] at bound
    omega
  have calm (idle : s.1.stateQ = .idle ∨ s.1.stateQ = .snoop) :
      outstandingNext s.1 i s.2 = 0 := by
    have none := keeps.quiet idle
    have silent : grants s.1 i = false := by
      rw [grants_eq]
      rcases idle with state | state <;> rw [state] <;> rfl
    rw [outstandingNext, silent, none, Bool.toNat_false, Nat.zero_add, Nat.zero_sub]
  have throttle := shadowThrottleD_eq s.1 i
  constructor
  · constructor
    · exact counter
    · change outstandingNext s.1 i s.2 ≤ (control s.1 i).shadowThrottleD.ninflight.toNat
      rw [throttle]
      split
      · rename_i armed
        rw [arms, Bool.and_eq_true, Bool.and_eq_true, decide_eq_true_eq] at armed
        rw [calm (.inl armed.1.1)]
        exact Nat.zero_le _
      · exact bound
  · intro runs
    change (control s.1 i).stateD ≠ .idle at runs
    change (control s.1 i).shadowThrottleD.ninflight ≠ 0
    rw [throttle]
    split
    · rename_i armed
      exact limited.limit armed
    · rename_i unarmed
      apply keeps.limited
      intro idle
      exact unarmed (arms_of_leaves idle runs)
  · intro next
    change outstandingNext s.1 i s.2 = 0
    rcases stops next with idle | snoop | ⟨other, empty⟩
    · exact calm (.inl idle)
    · exact calm (.inr snoop)
    · have none : s.2 = 0 := by
        rw [← keeps.counter, empty]
        rfl
      rw [outstandingNext, grants_eq, decide_eq_false other, none, Bool.false_and,
        Bool.toNat_false, Nat.zero_add, Nat.zero_sub]
  · intro next spaced
    change (control s.1 i).stateD = .sendReq at next
    change (control s.1 i).shadowThrottleD.nwait ≠ 0 at spaced
    change outstandingNext s.1 i s.2 < (control s.1 i).shadowThrottleD.ninflight.toNat
    have unarmed : arms s.1 = false := by
      rw [Bool.eq_false_iff]
      intro armed
      rw [arms, Bool.and_eq_true, Bool.and_eq_true, decide_eq_true_eq] at armed
      simp only [control, armed.1.1, controlIdle, controlDefault] at next
      repeat' split at next
      all_goals simp_all
    rw [throttle, unarmed, if_neg Bool.false_ne_true] at spaced ⊢
    have runs (other : s.1.stateQ ≠ .idle) := keeps.limited other
    rcases sends spaced next with state | ⟨state, room⟩ | ⟨state, stalled⟩
    · rw [calm (.inr state)]
      have limit := runs (by rw [state]; exact Fsm.noConfusion)
      bv_omega
    · have room := below_of_not_max keeps.toBounded (runs (by rw [state]; exact Fsm.noConfusion))
        room
      rw [outstandingNext, grants_eq, state]
      exact Nat.lt_of_le_of_lt (Nat.sub_le _ _) room
    · rw [outstandingNext, stalled]
      exact Nat.lt_of_le_of_lt (Nat.sub_le _ _) (keeps.below state spaced)

end Invariant

section Theorem

variable (nlineWidth) (csrThrottle : Throttle)

theorem keeps_reset : Keeps (counted nlineWidth csrThrottle).reset where
  counter := rfl
  limit := Nat.zero_le _
  limited runs := absurd rfl runs
  quiet _ := rfl
  below sending := Fsm.noConfusion sending

theorem keeps_run {inputs : List Input}
    (limited : (counted nlineWidth csrThrottle).RunAlong Limited inputs)
    (restrained : (counted nlineWidth csrThrottle).RunAlong Restrained inputs) :
    Keeps ((counted nlineWidth csrThrottle).run inputs) := by
  induction inputs using List.reverseRecOn with
  | nil => exact keeps_reset nlineWidth csrThrottle
  | append_singleton inputs input inductionHypothesis =>
      rw [Machine.runAlong_concat] at limited restrained
      rw [Machine.run_concat]
      exact (inductionHypothesis limited.1 restrained.1).step limited.2 restrained.2

/-- The counter is right and the limit is kept in every state of a run exactly if the engine is
restrained in every cycle. -/
theorem bounded_iff_restrained {inputs : List Input}
    (limited : (counted nlineWidth csrThrottle).RunAlong Limited inputs) :
    (∀ first, first <+: inputs → Bounded ((counted nlineWidth csrThrottle).run first)) ↔
      (counted nlineWidth csrThrottle).RunAlong Restrained inputs := by
  induction inputs using List.reverseRecOn with
  | nil =>
      refine iff_of_true (fun first start => ?_) trivial
      rw [List.prefix_nil.mp start]
      exact (keeps_reset nlineWidth csrThrottle).toBounded
  | append_singleton inputs input inductionHypothesis =>
      rw [Machine.runAlong_concat] at limited ⊢
      rw [← inductionHypothesis limited.1]
      constructor
      · intro bounded
        have earlier (first : List Input) (start : first <+: inputs) :=
          bounded first (start.trans (List.prefix_append inputs [input]))
        refine ⟨earlier, fun sending spaced ready full => ?_⟩
        have keeps := keeps_run nlineWidth csrThrottle limited.1
          ((inductionHypothesis limited.1).mp earlier)
        have granted : grants ((counted nlineWidth csrThrottle).run inputs).1 input = true := by
          rw [grants_eq, decide_eq_true sending, ready, Bool.and_self]
        have unarmed : arms ((counted nlineWidth csrThrottle).run inputs).1 = false := by
          rw [arms, sending]
          rfl
        have limit := (bounded _ List.prefix_rfl).limit
        rw [Machine.run_concat] at limit
        change outstandingNext _ input _ ≤ (control _ input).shadowThrottleD.ninflight.toNat
          at limit
        rw [shadowThrottleD_eq, unarmed, if_neg Bool.false_ne_true] at limit
        exact (outstandingNext_le_iff keeps granted).mp limit sending spaced ready full
      · rintro ⟨earlier, restrained⟩ first start
        rcases List.prefix_concat_iff.mp start with rfl | before
        · rw [Machine.run_concat]
          have keeps := keeps_run nlineWidth csrThrottle limited.1
            ((inductionHypothesis limited.1).mp earlier)
          exact (keeps.step limited.2 restrained).toBounded
        · exact earlier first before

end Theorem

/-! ## A run that waits between its requests, and one that does not -/

/-- Nothing happens. -/
def quiet : Input where
  csrBaseSet := false
  csrBase := ⟨0, 0, false, false, false⟩
  csrParamSet := false
  csrParam := ⟨0, 0, 0⟩
  csrThrottleSet := false
  csrThrottle := ⟨0, 0⟩
  snoopMatch := false
  hpdcacheReqReady := false
  hpdcacheRspValid := false

/-- The engine is enabled for four lines from line 16, with one request in flight. -/
def configure (nwait : BitVec 16) : Input :=
  { quiet with
    csrBaseSet := true
    csrBase := ⟨16, 0, false, false, true⟩
    csrParamSet := true
    csrParam := ⟨0, 3, 0⟩
    csrThrottleSet := true
    csrThrottle := ⟨1, nwait⟩ }

/-- The base line is accessed, and the cache takes every request. -/
def twoGrants (nwait : BitVec 16) : List Input :=
  [configure nwait, quiet, { quiet with snoopMatch := true },
    { quiet with hpdcacheReqReady := true }, { quiet with hpdcacheReqReady := true }]

theorem twoGrants_bounded : Bounded ((counted 8 ⟨0, 0⟩).run (twoGrants 1)) :=
  (bounded_iff_restrained 8 ⟨0, 0⟩ (by decide)).mpr (by decide) _ List.prefix_rfl

/-- Two requests are in flight where the limit is one. -/
theorem twoGrants_not_bounded :
    (counted 8 ⟨0, 0⟩).RunAlong Limited (twoGrants 0) ∧
      ¬Bounded ((counted 8 ⟨0, 0⟩).run (twoGrants 0)) := by
  decide

end Cva6Hpd.HwpfStride
