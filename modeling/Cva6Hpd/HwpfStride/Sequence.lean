import Cva6Hpd.HwpfStride.Inflight

/-!
# The lines that a run requests

A run starts when the base line is accessed. It requests the lines of all blocks but the line that
was accessed, in order, and then writes the base line of the block behind the last one back to the
configuration register.
-/

namespace Cva6Hpd.HwpfStride

open Cva6Hpd.Hw

variable {nlineWidth : Nat}

/-! ## The lines of a run -/

/-- The `count` lines from `first`. -/
def block (first : BitVec nlineWidth) (count : Nat) : List (BitVec nlineWidth) :=
  (List.range count).map fun line => first + BitVec.ofNat nlineWidth line

/-- The lines of `number` blocks, the first of which is at `first`. -/
def blocks (first increment : BitVec nlineWidth) (number count : Nat) :
    List (BitVec nlineWidth) :=
  (List.range number).flatMap fun index =>
    block (first + BitVec.ofNat nlineWidth index * increment) count

/-- The lines that a run with the parameters requests from the base line on; the base line itself
was accessed. -/
def requests (base : BitVec nlineWidth) (param : Param) : List (BitVec nlineWidth) :=
  (blocks base (param.stride.setWidth nlineWidth + 1) (param.nblocks.toNat + 1)
    (param.nlines.toNat + 1)).tail

/-- The base line behind a run. -/
def behind (base : BitVec nlineWidth) (param : Param) : BitVec nlineWidth :=
  base + BitVec.ofNat nlineWidth (param.nblocks.toNat + 1) *
    (param.stride.setWidth nlineWidth + 1)

theorem block_succ (first : BitVec nlineWidth) (count : Nat) :
    block first (count + 1) = first :: block (first + 1) count := by
  rw [block, List.range_succ_eq_map, List.map_cons, List.map_map, BitVec.ofNat_eq_ofNat,
    BitVec.add_zero]
  apply congrArg (first :: ·)
  apply List.map_congr_left
  intro line _
  rw [Function.comp_apply, Nat.succ_eq_add_one, BitVec.ofNat_add,
    BitVec.add_comm _ (BitVec.ofNat nlineWidth 1),
    ← BitVec.add_assoc]

@[simp]
theorem block_zero (first : BitVec nlineWidth) : block first 0 = [] :=
  rfl

theorem blocks_succ (first increment : BitVec nlineWidth) (number count : Nat) :
    blocks first increment (number + 1) count =
      block first count ++ blocks (first + increment) increment number count := by
  rw [blocks, List.range_succ_eq_map, List.flatMap_cons, List.flatMap_map, BitVec.zero_mul,
    BitVec.add_zero]
  apply congrArg (block first count ++ ·)
  apply List.flatMap_congr
  intro index _
  rw [Nat.succ_eq_add_one, BitVec.ofNat_add, BitVec.add_mul, BitVec.one_mul,
    BitVec.add_comm _ increment, ← BitVec.add_assoc]

@[simp]
theorem blocks_zero (first increment : BitVec nlineWidth) (count : Nat) :
    blocks first increment 0 count = [] :=
  rfl

/-! ## What is left of a run -/

/-- The lines that a running engine has not requested yet. -/
def remaining (s : State nlineWidth) : List (BitVec nlineWidth) :=
  if s.stateQ = .done then []
  else
    block s.requestNlineQ (s.nlinesCntQ.toNat + 1) ++
      blocks (nextBlock s) (incrementStride s) s.nblocksCntQ.toNat (s.shadowParamQ.nlines.toNat + 1)

/-- The base register that a running engine ends with. -/
def lastBase (s : State nlineWidth) : BitVec 58 :=
  if s.stateQ = .done then s.shadowBaseQ.baseCline
  else
    (snoopNline s + BitVec.ofNat nlineWidth (s.nblocksCntQ.toNat + 1) *
      incrementStride s).setWidth 58

/-- An armed engine has lines to request. -/
def Purposeful (s : State nlineWidth) : Prop :=
  s.stateQ ≠ .idle → s.shadowParamQ.nlines ≠ 0 ∨ s.shadowParamQ.nblocks ≠ 0

/-- An access to the base line of an armed engine starts a run. -/
structure Triggers (s : State nlineWidth) (i : Input) : Prop where
  state : s.stateQ = .snoop
  enable : s.csrBaseQ.enable = true
  snoopMatch : i.snoopMatch = true

/-- The engine runs. -/
def Runs (s : State nlineWidth) : Prop :=
  s.stateQ = .sendReq ∨ s.stateQ = .wait ∨ s.stateQ = .done

/-- The last cycle of a run. -/
structure Finishes (s : State nlineWidth) : Prop where
  state : s.stateQ = .done
  inflight : s.inflightCntQ = 0
  nwait : s.nwaitCntQ = 0

section Step

variable {s : State nlineWidth} {i : Input}

theorem remaining_of_ne (running : s.stateQ ≠ .done) :
    remaining s = block s.requestNlineQ (s.nlinesCntQ.toNat + 1) ++
      blocks (nextBlock s) (incrementStride s) s.nblocksCntQ.toNat
        (s.shadowParamQ.nlines.toNat + 1) :=
  if_neg running

theorem remaining_of_done (done : s.stateQ = .done) : remaining s = [] :=
  if_pos done

theorem lastBase_of_ne (running : s.stateQ ≠ .done) :
    lastBase s = (snoopNline s + BitVec.ofNat nlineWidth (s.nblocksCntQ.toNat + 1) *
      incrementStride s).setWidth 58 :=
  if_neg running

theorem lastBase_of_done (done : s.stateQ = .done) : lastBase s = s.shadowBaseQ.baseCline :=
  if_pos done

theorem withBase_baseCline (narrow : nlineWidth ≤ 58) (base : Base) (nline : BitVec nlineWidth) :
    (withBase base nline).baseCline.setWidth nlineWidth = nline := by
  rw [withBase, BitVec.setWidth_setWidth_of_le _ narrow, BitVec.setWidth_eq]

theorem ofNat_succ_mul (count : Nat) (increment : BitVec nlineWidth) :
    BitVec.ofNat nlineWidth (count + 1) * increment =
      BitVec.ofNat nlineWidth count * increment + increment := by
  rw [BitVec.ofNat_add, BitVec.add_mul, BitVec.one_mul]

theorem toNat_sub_one {count : BitVec 16} (some : count ≠ 0) :
    (count - 1).toNat + 1 = count.toNat := by
  bv_omega

/-- Where a granted request leads. -/
theorem sentStateD_eq (enable : s.csrBaseQ.enable = true) :
    sentStateD s = .done ∧ s.nblocksCntQ = 0 ∧ s.nlinesCntQ = 0 ∨
      (sentStateD s = .sendReq ∨ sentStateD s = .wait) ∧
        ¬(s.nblocksCntQ = 0 ∧ s.nlinesCntQ = 0) := by
  rw [sentStateD, enable]
  by_cases last : s.nblocksCntQ = 0 ∧ s.nlinesCntQ = 0
  · exact .inl ⟨if_pos last, last⟩
  · right
    refine ⟨?_, last⟩
    simp only [Bool.not_true, Bool.false_eq_true, if_false, if_neg last]
    split
    · split
      · exact .inr rfl
      · exact .inl rfl
    · exact .inr rfl

theorem step_block (narrow : nlineWidth ≤ 58) (state : s.stateQ = .sendReq)
    (ready : i.hpdcacheReqReady = true) (lines : s.nlinesCntQ = 0) :
    (step s i).stateQ = sentStateD s ∧ (step s i).requestNlineQ = nextBlock s ∧
      snoopNline (step s i) = nextBlock s ∧
      (step s i).shadowBaseQ = withBase s.shadowBaseQ (nextBlock s) ∧
      (step s i).shadowParamQ = s.shadowParamQ ∧
      (step s i).nlinesCntQ = s.shadowParamQ.nlines ∧
      (step s i).nblocksCntQ = if 0 < s.nblocksCntQ then s.nblocksCntQ - 1 else 0 := by
  simp only [snoopNline, step, control, state, controlSendReq, ready, lines, if_true,
    controlDefault, true_and, and_self, and_true]
  exact withBase_baseCline narrow _ _

/-- The registers behind another line of a block. -/
theorem step_line (state : s.stateQ = .sendReq) (ready : i.hpdcacheReqReady = true)
    (lines : s.nlinesCntQ ≠ 0) :
    (step s i).stateQ = sentStateD s ∧ (step s i).requestNlineQ = s.requestNlineQ + 1 ∧
      (step s i).shadowBaseQ = s.shadowBaseQ ∧ (step s i).shadowParamQ = s.shadowParamQ ∧
      (step s i).nlinesCntQ = s.nlinesCntQ - 1 ∧
      (step s i).nblocksCntQ = s.nblocksCntQ := by
  simp only [step, control, state, controlSendReq, ready, lines, if_true, if_false,
    controlDefault, and_self]

/-- A granted request takes the first of the lines that are left. -/
theorem sent_step (narrow : nlineWidth ≤ 58) (state : s.stateQ = .sendReq)
    (enable : s.csrBaseQ.enable = true) (ready : i.hpdcacheReqReady = true) :
    Runs (step s i) ∧ remaining s = s.requestNlineQ :: remaining (step s i) ∧
      lastBase (step s i) = lastBase s := by
  have running : s.stateQ ≠ .done := by
    rw [state]
    exact Fsm.noConfusion
  rw [remaining_of_ne running, lastBase_of_ne running, block_succ, List.cons_append]
  by_cases lines : s.nlinesCntQ = 0
  · obtain ⟨next, request, base, register, param, count, left⟩ :=
      step_block narrow state ready lines
    have increment : incrementStride (step s i) = incrementStride s := by
      rw [incrementStride, incrementStride, param]
    rcases sentStateD_eq enable with ⟨done, noBlocks, -⟩ | ⟨again, more⟩
    · rw [done] at next
      rw [Runs, remaining_of_done next, lastBase_of_done next, next, lines, noBlocks, register]
      refine ⟨.inr (.inr rfl), rfl, ?_⟩
      change (snoopNline s + incrementStride s).setWidth 58 =
        (snoopNline s + BitVec.ofNat nlineWidth 1 * incrementStride s).setWidth 58
      rw [BitVec.one_mul]
    · have blocksLeft : s.nblocksCntQ ≠ 0 := fun none => more ⟨none, lines⟩
      have positive : 0 < s.nblocksCntQ := by bv_omega
      have onward : (step s i).stateQ ≠ .done := by
        rw [next]
        rcases again with again | again <;> rw [again] <;> exact Fsm.noConfusion
      rw [if_pos positive] at left
      have next' : nextBlock (step s i) = nextBlock s + incrementStride s := by
        rw [nextBlock, base, increment]
      rw [remaining_of_ne onward, lastBase_of_ne onward, request, base, increment, count, left,
        param, next', lines, toNat_sub_one blocksLeft, ← toNat_sub_one blocksLeft, blocks_succ,
        ofNat_succ_mul ((s.nblocksCntQ - 1).toNat + 1), nextBlock]
      refine ⟨?_, rfl, ?_⟩
      · rw [Runs, next]
        rcases again with again | again
        · exact .inl again
        · exact .inr (.inl again)
      · rw [BitVec.add_assoc, BitVec.add_comm (incrementStride s)]
  · obtain ⟨next, request, register, param, count, left⟩ := step_line state ready lines
    have onward : (step s i).stateQ = .sendReq ∨ (step s i).stateQ = .wait := by
      rw [next]
      rcases sentStateD_eq enable with ⟨-, -, none⟩ | ⟨again, -⟩
      · exact absurd none lines
      · exact again
    have running' : (step s i).stateQ ≠ .done := by
      rcases onward with again | again <;> rw [again] <;> exact Fsm.noConfusion
    rw [remaining_of_ne running', lastBase_of_ne running', request, count, left,
      toNat_sub_one lines, nextBlock, nextBlock, snoopNline, snoopNline, incrementStride,
      incrementStride, register, param]
    refine ⟨?_, rfl, rfl⟩
    rcases onward with again | again
    · exact .inl again
    · exact .inr (.inl again)

/-- An access to the base line leaves all lines but the accessed one. -/
theorem trigger_step (narrow : nlineWidth ≤ 58) (purposeful : Purposeful s)
    (triggers : Triggers s i) :
    (step s i).stateQ = .sendReq ∧
      remaining (step s i) = requests (snoopNline s) s.shadowParamQ ∧
      lastBase (step s i) = (behind (snoopNline s) s.shadowParamQ).setWidth 58 := by
  obtain ⟨state, enable, access⟩ := triggers
  have some := purposeful (by rw [state]; exact Fsm.noConfusion)
  rw [requests, blocks_succ, block_succ, List.cons_append, List.tail_cons, behind]
  by_cases lines : s.shadowParamQ.nlines = 0
  · have blocksLeft : s.shadowParamQ.nblocks ≠ 0 := some.resolve_left (absurd lines)
    have positive : 0 < s.shadowParamQ.nblocks := by bv_omega
    have next : (step s i).stateQ = .sendReq ∧ (step s i).requestNlineQ = nextBlock s ∧
        snoopNline (step s i) = nextBlock s ∧ (step s i).shadowParamQ = s.shadowParamQ ∧
        (step s i).nlinesCntQ = 0 ∧ (step s i).nblocksCntQ = s.shadowParamQ.nblocks - 1 := by
      simp only [snoopNline, step, control, state, controlSnoop, enable, access, lines, positive,
        if_true, controlDefault, true_and, and_true]
      exact withBase_baseCline narrow _ _
    obtain ⟨sending, request, base, param, count, left⟩ := next
    have running : (step s i).stateQ ≠ .done := by
      rw [sending]
      exact Fsm.noConfusion
    have increment : incrementStride (step s i) = incrementStride s := by
      rw [incrementStride, incrementStride, param]
    refine ⟨sending, ?_, ?_⟩
    · rw [remaining_of_ne running, request, count, left, param, lines, increment,
        ← toNat_sub_one blocksLeft, blocks_succ, nextBlock, nextBlock, base, increment]
      rfl
    · rw [lastBase_of_ne running, base, left, increment, toNat_sub_one blocksLeft, ofNat_succ_mul,
        nextBlock, BitVec.add_assoc, BitVec.add_comm (incrementStride s)]
      rfl
  · have next : (step s i).stateQ = .sendReq ∧
        (step s i).requestNlineQ = snoopNline s + 1 ∧
        (step s i).shadowBaseQ = s.shadowBaseQ ∧ (step s i).shadowParamQ = s.shadowParamQ ∧
        (step s i).nlinesCntQ = s.shadowParamQ.nlines - 1 ∧
        (step s i).nblocksCntQ = s.shadowParamQ.nblocks := by
      simp only [step, control, state, controlSnoop, enable, access, lines, if_true, if_false,
        controlDefault, and_self]
    obtain ⟨sending, request, register, param, count, left⟩ := next
    have running : (step s i).stateQ ≠ .done := by
      rw [sending]
      exact Fsm.noConfusion
    rw [remaining_of_ne running, lastBase_of_ne running, request, count, left, param,
      toNat_sub_one lines, nextBlock, snoopNline, snoopNline, incrementStride, register, param]
    exact ⟨sending, rfl, rfl⟩

/-! ## Between two requests -/

/-- The engine waits for the cache. -/
def Waits (s : State nlineWidth) (i : Input) : Prop :=
  if s.stateQ = .sendReq then i.hpdcacheReqReady = false
  else s.inflightCntQ ≠ 0 ∧ i.hpdcacheRspValid = false

/-- How long the engine waits until it sends the next request. -/
def pace (s : State nlineWidth) : Nat :=
  if s.stateQ = .sendReq then 0 else 1 + s.nwaitCntQ.toNat + s.inflightCntQ.toNat

/-- The registers of the position in a run are the same. -/
structure Stays (s next : State nlineWidth) : Prop where
  done : next.stateQ = .done ↔ s.stateQ = .done
  registers : next.requestNlineQ = s.requestNlineQ ∧ next.nlinesCntQ = s.nlinesCntQ ∧
    next.nblocksCntQ = s.nblocksCntQ ∧ next.shadowBaseQ = s.shadowBaseQ ∧
    next.shadowParamQ = s.shadowParamQ

theorem Stays.position {next : State nlineWidth} (stays : Stays s next) :
    remaining next = remaining s ∧ lastBase next = lastBase s := by
  obtain ⟨done, request, lines, left, base, param⟩ := stays
  simp only [remaining, lastBase, nextBlock, snoopNline, incrementStride, done, request, lines,
    left, base, param, and_self]

theorem waited (stalled : grants s i = false) :
    (waitedNwaitCntD s).toNat + (inflightCntD s i).toNat <
        s.nwaitCntQ.toNat + s.inflightCntQ.toNat ∨
      waitedNwaitCntD s = s.nwaitCntQ ∧ inflightCntD s i = s.inflightCntQ ∧ s.nwaitCntQ = 0 ∧
        (s.inflightCntQ = 0 ∨ i.hpdcacheRspValid = false) := by
  rw [inflightCntD, inflightInc_eq, stalled, waitedNwaitCntD]
  simp only [Bool.false_eq_true, if_false]
  by_cases counting : 0 < s.nwaitCntQ
  · left
    rw [if_pos counting]
    split
    · rename_i answered
      rw [Bool.and_eq_true, decide_eq_true_eq] at answered
      have positive := answered.2
      bv_omega
    · bv_omega
  · have none : s.nwaitCntQ = 0 := by bv_omega
    rw [if_neg counting]
    by_cases answered : (i.hpdcacheRspValid && decide (0 < s.inflightCntQ)) = true
    · left
      rw [if_pos answered]
      rw [Bool.and_eq_true, decide_eq_true_eq] at answered
      have positive := answered.2
      bv_omega
    · right
      rw [if_neg answered]
      refine ⟨rfl, rfl, none, ?_⟩
      cases response : i.hpdcacheRspValid with
      | false => exact .inr rfl
      | true =>
          rw [response, Bool.true_and, decide_eq_true_eq] at answered
          left
          bv_omega

theorem pace_sendReq (state : s.stateQ = .sendReq) : pace s = 0 :=
  if_pos state

theorem pace_of_ne (other : s.stateQ ≠ .sendReq) :
    pace s = 1 + s.nwaitCntQ.toNat + s.inflightCntQ.toNat :=
  if_neg other

theorem pace_step_of_waits (stalled : grants s i = false) (other : s.stateQ ≠ .sendReq)
    (same : (step s i).stateQ = s.stateQ) (count : (step s i).nwaitCntQ = waitedNwaitCntD s)
    (blocked : s.nwaitCntQ = 0 → s.inflightCntQ ≠ 0) :
    pace (step s i) < pace s ∨
      (step s i).stateQ = s.stateQ ∧ pace (step s i) = pace s ∧ Waits s i := by
  have other' : (step s i).stateQ ≠ .sendReq := by rwa [same]
  rw [pace_of_ne other, pace_of_ne other', count]
  change 1 + _ + (inflightCntD s i).toNat < _ ∨ _ ∧ 1 + _ + (inflightCntD s i).toNat = _ ∧ _
  rcases waited stalled with less | ⟨wait, inflight, none, answer⟩
  · left
    rw [Nat.add_assoc, Nat.add_assoc]
    exact Nat.add_lt_add_left less 1
  · right
    rw [wait, inflight, Waits, if_neg other]
    exact ⟨same, rfl, blocked none, answer.resolve_left (blocked none)⟩

theorem stalled_step (runs : Runs s) (enable : s.csrBaseQ.enable = true)
    (stalled : grants s i = false) (unfinished : ¬Finishes s) :
    Runs (step s i) ∧ Stays s (step s i) ∧
      (pace (step s i) < pace s ∨
        (step s i).stateQ = s.stateQ ∧ pace (step s i) = pace s ∧ Waits s i) := by
  rcases runs with state | state | state
  · have idle : i.hpdcacheReqReady = false := by
      rwa [grants_eq, decide_eq_true state, Bool.true_and] at stalled
    have next : (step s i).stateQ = .sendReq := by
      simp only [step, control, state, controlSendReq, idle, Bool.false_eq_true, if_false,
        controlDefault]
    refine ⟨.inl next, ⟨by rw [next, state], ?_⟩, .inr ⟨next.trans state.symm, ?_, ?_⟩⟩
    · simp only [step, control, state, controlSendReq, idle, Bool.false_eq_true, if_false,
        controlDefault, and_self]
    · rw [pace_sendReq state, pace_sendReq next]
    · rw [Waits, if_pos state]
      exact idle
  · have other : s.stateQ ≠ .sendReq := by
      rw [state]
      exact Fsm.noConfusion
    have registers : (step s i).requestNlineQ = s.requestNlineQ ∧
        (step s i).nlinesCntQ = s.nlinesCntQ ∧ (step s i).nblocksCntQ = s.nblocksCntQ ∧
        (step s i).shadowBaseQ = s.shadowBaseQ ∧ (step s i).shadowParamQ = s.shadowParamQ := by
      simp only [step, control, state, controlWait, enable, if_true, controlDefault, and_self]
    by_cases ready : (!isInflightMax s && decide (s.nwaitCntQ = 0)) = true
    · have next : (step s i).stateQ = .sendReq := by
        simp only [step, control, state, controlWait, enable, ready, if_true]
      have undone : (step s i).stateQ = .done ↔ s.stateQ = .done := by
        rw [next, state]
        exact ⟨Fsm.noConfusion, Fsm.noConfusion⟩
      refine ⟨.inl next, ⟨undone, registers⟩, .inl ?_⟩
      rw [pace_sendReq next, pace_of_ne other]
      omega
    · have next : (step s i).stateQ = .wait := by
        simp only [step, control, state, controlWait, enable, ready, if_true, Bool.false_eq_true,
          if_false]
      have count : (step s i).nwaitCntQ = waitedNwaitCntD s := by
        simp only [step, control, state, controlWait, enable, if_true]
      refine ⟨.inr (.inl next), ⟨by rw [next, state], registers⟩,
        pace_step_of_waits stalled other (next.trans state.symm) count ?_⟩
      intro none empty
      rw [none, decide_eq_true rfl, Bool.and_true, Bool.not_eq_true', Bool.not_eq_false,
        isInflightMax, empty, Bool.and_eq_true, decide_eq_true_eq, decide_eq_true_eq] at ready
      have limit := ready.1
      have most := ready.2
      bv_omega
  · have other : s.stateQ ≠ .sendReq := by
      rw [state]
      exact Fsm.noConfusion
    have busy : (decide (s.inflightCntQ = 0) && !isInflightMax s && decide (s.nwaitCntQ = 0)) =
        false := by
      rw [Bool.eq_false_iff]
      intro finished
      rw [Bool.and_eq_true, Bool.and_eq_true, decide_eq_true_eq, decide_eq_true_eq] at finished
      exact unfinished ⟨state, finished.1.1, finished.2⟩
    have next : (step s i).stateQ = .done := by
      simp only [step, control, state, controlDone, enable, busy, if_true, Bool.false_eq_true,
        if_false, controlDefault]
    have count : (step s i).nwaitCntQ = waitedNwaitCntD s := by
      simp only [step, control, state, controlDone, enable, busy, if_true, Bool.false_eq_true,
        if_false]
    refine ⟨.inr (.inr next), ⟨by rw [next, state], ?_⟩,
      pace_step_of_waits stalled other (next.trans state.symm) count ?_⟩
    · simp only [step, control, state, controlDone, enable, busy, if_true, Bool.false_eq_true,
        if_false, controlDefault, and_self]
    · intro none empty
      exact unfinished ⟨state, empty, none⟩

/-! ## The end of a run -/

/-- A running engine leaves the configuration register alone until it finishes. -/
theorem csrBaseQ_of_runs (runs : Runs s) (unwritten : i.csrBaseSet = false)
    (unfinished : ¬Finishes s) : (step s i).csrBaseQ = s.csrBaseQ := by
  have silent : (control s i).csrBaseUpdate = false := by
    rcases runs with state | state | state
    · simp only [control, state, controlSendReq]
      repeat' split
      all_goals rfl
    · simp only [control, state, controlWait]
      split <;> rfl
    · simp only [control, state, controlDone]
      split
      · split
        · rename_i finished
          rw [Bool.and_eq_true, Bool.and_eq_true, decide_eq_true_eq, decide_eq_true_eq]
            at finished
          exact absurd ⟨state, finished.1.1, finished.2⟩ unfinished
        · rfl
      · rfl
  rw [step, unwritten, silent]
  rfl

theorem cycle_of_runs (runs : Runs s) :
    (step s i).shadowBaseQ.cycle = s.shadowBaseQ.cycle := by
  rcases runs with state | state | state
  · simp only [step, control, state, controlSendReq]
    repeat' split
    all_goals rfl
  · simp only [step, control, state, controlWait]
    split <;> rfl
  · simp only [step, control, state, controlDone]
    repeat' split
    all_goals rfl

theorem busy_of_runs (runs : Runs s) : (control s i).busy = true := by
  rcases runs with state | state | state
  · simp only [control, state, controlSendReq]
    repeat' split
    all_goals rfl
  · simp only [control, state, controlWait]
    split <;> rfl
  · simp only [control, state, controlDone]
    repeat' split
    all_goals rfl

theorem hpdcacheReqValid_of_sendReq (state : s.stateQ = .sendReq) :
    (control s i).hpdcacheReqValid = true := by
  simp only [control, state, controlSendReq]
  repeat' split
  all_goals rfl

theorem not_busy_of_rests (rests : s.stateQ = .idle ∨ s.stateQ = .snoop) :
    (control s i).busy = false := by
  rcases rests with state | state
  · simp only [control, state, controlIdle]
    repeat' split
    all_goals rfl
  · simp only [control, state, controlSnoop]
    repeat' split
    all_goals rfl

/-- The last cycle writes the base line back, or leaves the line that the configuration has. -/
theorem finish_step (finishes : Finishes s) (enable : s.csrBaseQ.enable = true)
    (unwritten : i.csrBaseSet = false) :
    ((step s i).stateQ = .idle ∨ (step s i).stateQ = .snoop) ∧
      (step s i).csrBaseQ.baseCline =
        if s.shadowBaseQ.cycle then s.csrBaseQ.baseCline else lastBase s := by
  obtain ⟨state, inflight, nwait⟩ := finishes
  have below : isInflightMax s = false := by
    rw [isInflightMax, inflight, Bool.and_eq_false_iff, decide_eq_false_iff_not,
      decide_eq_false_iff_not]
    by_cases limit : s.shadowThrottleQ.ninflight = 0
    · exact .inl (absurd limit)
    · right
      bv_omega
  have finished : (decide (s.inflightCntQ = 0) && !isInflightMax s &&
      decide (s.nwaitCntQ = 0)) = true := by
    rw [inflight, nwait, below]
    rfl
  rw [lastBase_of_done state]
  simp only [step, control, state, controlDone, enable, finished, unwritten, if_true,
    Bool.false_eq_true, if_false, finishedBase, and_true]
  split
  · exact .inr rfl
  · exact .inl rfl

theorem disarm_step (state : s.stateQ = .idle) (enable : s.csrBaseQ.enable = true)
    (lines : s.csrParamQ.nlines = 0) (none : s.csrParamQ.nblocks = 0)
    (unwritten : i.csrBaseSet = false) :
    grants s i = false ∧ (step s i).stateQ = .idle ∧
      (step s i).csrBaseQ = { s.csrBaseQ with enable := false } := by
  rw [grants_eq, decide_eq_false (by rw [state]; exact Fsm.noConfusion), Bool.false_and]
  simp only [step, control, state, controlIdle, enable, lines, none, unwritten, if_true,
    Bool.false_eq_true, if_false, controlDefault, BitVec.lt_irrefl, decide_false, Bool.or_self,
    and_self]

end Step

/-! ## The engine with the lines that it issued -/

/-- The requests that are not answered, and the lines of all requests. -/
structure Ledger (nlineWidth : Nat) where
  outstanding : Nat
  issued : List (BitVec nlineWidth)
deriving DecidableEq

def record (s : State nlineWidth) (i : Input) (ledger : Ledger nlineWidth) : Ledger nlineWidth where
  outstanding := outstandingNext s i ledger.outstanding
  issued := ledger.issued ++ if grants s i then [s.requestNlineQ] else []

/-- The engine with its ledger. -/
def recorded (nlineWidth : Nat) (csrThrottle : Throttle) :
    Machine (State nlineWidth × Ledger nlineWidth) Input :=
  (machine nlineWidth csrThrottle).withHistory ⟨0, []⟩ record

/-- Only what was sent is answered. -/
def Answers (s : State nlineWidth × Ledger nlineWidth) (i : Input) : Prop :=
  i.hpdcacheRspValid = true → 0 < s.2.outstanding

/-- The invariant: an armed engine has lines to request, and it counts no request that is not in
flight. -/
structure Sound (s : State nlineWidth × Ledger nlineWidth) : Prop where
  purposeful : Purposeful s.1
  counted : s.1.inflightCntQ.toNat ≤ s.2.outstanding

section Invariant

variable {s : State nlineWidth × Ledger nlineWidth} {i : Input}

theorem shadowParamD_eq (s : State nlineWidth) (i : Input) :
    (control s i).shadowParamD = if arms s then s.csrParamQ else s.shadowParamQ := by
  cases state : s.stateQ with
  | idle =>
      simp only [control, state, controlIdle, arms, decide_true, Bool.true_and]
      cases s.csrBaseQ.enable with
      | false => rfl
      | true =>
          rw [if_pos rfl, Bool.true_and]
          split <;> rfl
  | _ =>
      simp only [control, state, controlSnoop, controlSendReq, controlWait, controlDone,
        controlAbort, arms, reduceCtorEq, decide_false, Bool.false_and]
      repeat' split
      all_goals first | rfl | contradiction

theorem Purposeful.step {s : State nlineWidth} (purposeful : Purposeful s) :
    Purposeful (step s i) := by
  intro runs
  change (control s i).stateD ≠ .idle at runs
  change (control s i).shadowParamD.nlines ≠ 0 ∨ (control s i).shadowParamD.nblocks ≠ 0
  rw [shadowParamD_eq]
  cases armed : arms s with
  | true =>
      rw [if_pos rfl]
      rw [arms, Bool.and_eq_true, Bool.or_eq_true, decide_eq_true_eq, decide_eq_true_eq] at armed
      rcases armed.2 with lines | number
      · left
        bv_omega
      · right
        bv_omega
  | false =>
      apply purposeful
      intro idle
      rw [arms_of_leaves idle runs] at armed
      exact Bool.noConfusion armed

/-- A counter that wraps still counts no request too many. -/
theorem toNat_inflightCntD_le (counted : s.1.inflightCntQ.toNat ≤ s.2.outstanding)
    (answers : Answers s i) :
    (inflightCntD s.1 i).toNat ≤ outstandingNext s.1 i s.2.outstanding := by
  rw [inflightCntD, outstandingNext, inflightInc_eq]
  generalize s.1.inflightCntQ = count at counted ⊢
  cases answer : i.hpdcacheRspValid with
  | false =>
      rw [Bool.false_and, if_neg Bool.false_ne_true]
      cases grants s.1 i with
      | false => exact counted
      | true =>
          rw [if_pos rfl, Bool.toNat_true, Bool.toNat_false]
          bv_omega
  | true =>
      have positive := answers answer
      rw [Bool.true_and, Bool.toNat_true]
      by_cases busy : 0 < count
      · rw [if_pos (decide_eq_true busy)]
        cases grants s.1 i with
        | false =>
            rw [if_neg Bool.false_ne_true, Bool.toNat_false]
            bv_omega
        | true =>
            rw [if_pos rfl, Bool.toNat_true]
            bv_omega
      · rw [if_neg (by simpa only [decide_eq_true_eq] using busy)]
        cases grants s.1 i with
        | false =>
            rw [if_neg Bool.false_ne_true, Bool.toNat_false]
            bv_omega
        | true =>
            rw [if_pos rfl, Bool.toNat_true]
            bv_omega

theorem sound_reset (csrThrottle : Throttle) : Sound (recorded nlineWidth csrThrottle).reset where
  purposeful runs := absurd rfl runs
  counted := Nat.le_refl 0

theorem Sound.step (csrThrottle : Throttle) (sound : Sound s) (answers : Answers s i) :
    Sound ((recorded nlineWidth csrThrottle).step s i) where
  purposeful := sound.purposeful.step
  counted := toNat_inflightCntD_le sound.counted answers

end Invariant

/-! ## A run from its start -/

/-- The engine is in the run that was started in the state `start`. -/
structure Running (start s : State nlineWidth × Ledger nlineWidth) : Prop where
  runs : Runs s.1
  csrBase : s.1.csrBaseQ = start.1.csrBaseQ
  cycle : s.1.shadowBaseQ.cycle = start.1.shadowBaseQ.cycle
  lines : s.2.issued ++ remaining s.1 =
    start.2.issued ++ requests (snoopNline start.1) start.1.shadowParamQ
  base : lastBase s.1 = (behind (snoopNline start.1) start.1.shadowParamQ).setWidth 58

/-- The work that is left, above all the lines. -/
def work (s : State nlineWidth) : Nat :=
  (remaining s).length * 2 ^ 17 + pace s

theorem pace_lt (s : State nlineWidth) : pace s < 2 ^ 17 := by
  have wait := s.nwaitCntQ.isLt
  have inflight := s.inflightCntQ.isLt
  rw [pace]
  split <;> omega

section Run

variable {csrThrottle : Throttle} {start s : State nlineWidth × Ledger nlineWidth} {i : Input}

theorem running_trigger (narrow : nlineWidth ≤ 58) (sound : Sound start)
    (triggers : Triggers start.1 i) (unwritten : i.csrBaseSet = false) :
    Running start ((recorded nlineWidth csrThrottle).step start i) := by
  obtain ⟨sending, lines, base⟩ := trigger_step narrow sound.purposeful triggers
  have silent : grants start.1 i = false := by
    rw [grants_eq, triggers.state]
    rfl
  constructor
  · exact .inl sending
  · change (step start.1 i).csrBaseQ = _
    have update : (control start.1 i).csrBaseUpdate = false := by
      simp only [control, triggers.state, controlSnoop, triggers.enable, triggers.snoopMatch,
        if_true]
      split <;> rfl
    rw [step, unwritten, update]
    rfl
  · change (step start.1 i).shadowBaseQ.cycle = _
    simp only [step, control, triggers.state, controlSnoop, triggers.enable, triggers.snoopMatch,
      if_true, controlDefault]
    split <;> rfl
  · change start.2.issued ++ (if grants start.1 i then _ else _) ++ remaining (step start.1 i) = _
    rw [silent, if_neg Bool.false_ne_true, List.append_nil, lines]
  · exact base

theorem Running.step (narrow : nlineWidth ≤ 58) (running : Running start s)
    (enable : start.1.csrBaseQ.enable = true) (unwritten : i.csrBaseSet = false)
    (unfinished : ¬Finishes s.1) :
    Running start ((recorded nlineWidth csrThrottle).step s i) ∧
      (work (step s.1 i) < work s.1 ∨
        (step s.1 i).stateQ = s.1.stateQ ∧ work (step s.1 i) = work s.1 ∧ Waits s.1 i) := by
  have enable' : s.1.csrBaseQ.enable = true := by rw [running.csrBase, enable]
  have csrBase := (csrBaseQ_of_runs running.runs unwritten unfinished).trans running.csrBase
  have cycle := (cycle_of_runs (i := i) running.runs).trans running.cycle
  have lines := running.lines
  cases granted : grants s.1 i with
  | true =>
      have sent := granted
      rw [grants_eq, Bool.and_eq_true, decide_eq_true_eq] at sent
      obtain ⟨runs, left, base⟩ := sent_step narrow sent.1 enable' sent.2
      refine ⟨⟨runs, csrBase, cycle, ?_, base.trans running.base⟩, .inl ?_⟩
      · change s.2.issued ++ (if grants s.1 i then [s.1.requestNlineQ] else []) ++
          remaining (HwpfStride.step s.1 i) = _
        rw [granted, if_pos rfl, List.append_assoc, List.singleton_append, ← left, lines]
      · have quick := pace_lt (HwpfStride.step s.1 i)
        rw [work, work, left, List.length_cons]
        omega
  | false =>
      obtain ⟨runs, stays, next⟩ := stalled_step running.runs enable' granted unfinished
      obtain ⟨left, base⟩ := stays.position
      refine ⟨⟨runs, csrBase, cycle, ?_, base.trans running.base⟩, ?_⟩
      · change s.2.issued ++ (if grants s.1 i then [s.1.requestNlineQ] else []) ++
          remaining (HwpfStride.step s.1 i) = _
        rw [granted, if_neg Bool.false_ne_true, List.append_nil, left, lines]
      · rw [work, work, left]
        rcases next with less | ⟨same, equal, waits⟩
        · exact .inl (Nat.add_lt_add_left less _)
        · exact .inr ⟨same, by rw [equal], waits⟩

end Run

/-! ## Endless runs -/

section Environment

variable (nlineWidth) (csrThrottle : Throttle) (cycles : Nat → Input)

/-- The cache takes a request in the end, and it answers what is in flight in the end. -/
structure Fair : Prop where
  ready : ∀ n, ∃ m, n ≤ m ∧
    ((control ((recorded nlineWidth csrThrottle).after cycles m).1 (cycles m)).hpdcacheReqValid =
      true → (cycles m).hpdcacheReqReady = true)
  answer : ∀ n, ∃ m, n ≤ m ∧
    (0 < ((recorded nlineWidth csrThrottle).after cycles m).2.outstanding →
      (cycles m).hpdcacheRspValid = true)

/-- The engine is busy in the cycles from `start` on, up to `n`. -/
def BusySince (start n : Nat) : Prop :=
  ∀ m, start < m → m ≤ n →
    (control ((recorded nlineWidth csrThrottle).after cycles m).1 (cycles m)).busy = true

/-- The base register is not written between the start of a run and its end. -/
def Unwritten (start : Nat) : Prop :=
  ∀ n, start ≤ n → BusySince nlineWidth csrThrottle cycles start n →
    (cycles n).csrBaseSet = false

/-- The engine is in the run that starts in the cycle `start`, and was since. -/
structure RunningSince (start n : Nat) : Prop where
  later : start < n
  running : Running ((recorded nlineWidth csrThrottle).after cycles start)
    ((recorded nlineWidth csrThrottle).after cycles n)
  busy : BusySince nlineWidth csrThrottle cycles start n

end Environment

section Endless

variable {csrThrottle : Throttle} {cycles : Nat → Input} {start n : Nat}

theorem sound_after
    (answers : ∀ n, Answers ((recorded nlineWidth csrThrottle).after cycles n) (cycles n))
    (n : Nat) : Sound ((recorded nlineWidth csrThrottle).after cycles n) :=
  (recorded nlineWidth csrThrottle).after_invariant Sound (sound_reset csrThrottle)
    (fun _ _ sound answers => sound.step csrThrottle answers) answers n

theorem BusySince.succ (busy : BusySince nlineWidth csrThrottle cycles start n)
    (runs : Runs ((recorded nlineWidth csrThrottle).after cycles (n + 1)).1) :
    BusySince nlineWidth csrThrottle cycles start (n + 1) := by
  intro m later bound
  rcases Nat.lt_or_eq_of_le bound with before | rfl
  · exact busy m later (Nat.le_of_lt_succ before)
  · exact busy_of_runs runs

theorem runningSince_trigger (narrow : nlineWidth ≤ 58)
    (sound : Sound ((recorded nlineWidth csrThrottle).after cycles start))
    (triggers : Triggers ((recorded nlineWidth csrThrottle).after cycles start).1 (cycles start))
    (unwritten : Unwritten nlineWidth csrThrottle cycles start) :
    RunningSince nlineWidth csrThrottle cycles start (start + 1) := by
  have none : BusySince nlineWidth csrThrottle cycles start start :=
    fun m later bound => absurd bound (Nat.not_le.mpr later)
  have running : Running ((recorded nlineWidth csrThrottle).after cycles start)
      ((recorded nlineWidth csrThrottle).after cycles (start + 1)) :=
    running_trigger narrow sound triggers (unwritten start (Nat.le_refl start) none)
  exact ⟨Nat.lt_succ_self start, running, none.succ running.runs⟩

theorem RunningSince.step (narrow : nlineWidth ≤ 58)
    (enable : ((recorded nlineWidth csrThrottle).after cycles start).1.csrBaseQ.enable = true)
    (unwritten : Unwritten nlineWidth csrThrottle cycles start)
    (since : RunningSince nlineWidth csrThrottle cycles start n)
    (unfinished : ¬Finishes ((recorded nlineWidth csrThrottle).after cycles n).1) :
    RunningSince nlineWidth csrThrottle cycles start (n + 1) ∧
      (work ((recorded nlineWidth csrThrottle).after cycles (n + 1)).1 <
          work ((recorded nlineWidth csrThrottle).after cycles n).1 ∨
        ((recorded nlineWidth csrThrottle).after cycles (n + 1)).1.stateQ =
            ((recorded nlineWidth csrThrottle).after cycles n).1.stateQ ∧
          work ((recorded nlineWidth csrThrottle).after cycles (n + 1)).1 =
            work ((recorded nlineWidth csrThrottle).after cycles n).1 ∧
          Waits ((recorded nlineWidth csrThrottle).after cycles n).1 (cycles n)) := by
  have quiet := unwritten n (Nat.le_of_lt since.later) since.busy
  obtain ⟨running, next⟩ := @Running.step _ csrThrottle _ _ _ narrow since.running enable quiet
    unfinished
  exact ⟨⟨Nat.lt_succ_of_lt since.later, running, since.busy.succ running.runs⟩, next⟩

theorem not_waits_of_fair
    (answers : ∀ n, Answers ((recorded nlineWidth csrThrottle).after cycles n) (cycles n))
    (fair : Fair nlineWidth csrThrottle cycles) (n : Nat) (state : Fsm) :
    ∃ m, n ≤ m ∧ (((recorded nlineWidth csrThrottle).after cycles m).1.stateQ = state →
      ¬Waits ((recorded nlineWidth csrThrottle).after cycles m).1 (cycles m)) := by
  by_cases sending : state = .sendReq
  · obtain ⟨m, later, taken⟩ := fair.ready n
    refine ⟨m, later, fun same waits => ?_⟩
    rw [sending] at same
    rw [Waits, if_pos same, taken (hpdcacheReqValid_of_sendReq same)] at waits
    exact Bool.noConfusion waits
  · obtain ⟨m, later, answered⟩ := fair.answer n
    refine ⟨m, later, fun same waits => ?_⟩
    rw [Waits, if_neg (by rwa [same])] at waits
    obtain ⟨some, silent⟩ := waits
    have positive : 0 < ((recorded nlineWidth csrThrottle).after cycles m).2.outstanding := by
      have counted := (sound_after answers m).counted
      bv_omega
    rw [answered positive] at silent
    exact Bool.noConfusion silent

/-- The run has neither gone on nor left its state since the cycle `n`. -/
structure StalledSince (nlineWidth : Nat) (csrThrottle : Throttle) (cycles : Nat → Input)
    (start n m : Nat) : Prop where
  since : RunningSince nlineWidth csrThrottle cycles start m
  state : ((recorded nlineWidth csrThrottle).after cycles m).1.stateQ =
    ((recorded nlineWidth csrThrottle).after cycles n).1.stateQ
  work : work ((recorded nlineWidth csrThrottle).after cycles m).1 =
    work ((recorded nlineWidth csrThrottle).after cycles n).1

theorem StalledSince.step (narrow : nlineWidth ≤ 58)
    (enable : ((recorded nlineWidth csrThrottle).after cycles start).1.csrBaseQ.enable = true)
    (unwritten : Unwritten nlineWidth csrThrottle cycles start) {m : Nat}
    (stalled : StalledSince nlineWidth csrThrottle cycles start n m) :
    (Finishes ((recorded nlineWidth csrThrottle).after cycles m).1 ∨
      RunningSince nlineWidth csrThrottle cycles start (m + 1) ∧
        HwpfStride.work ((recorded nlineWidth csrThrottle).after cycles (m + 1)).1 <
          HwpfStride.work ((recorded nlineWidth csrThrottle).after cycles n).1) ∨
      StalledSince nlineWidth csrThrottle cycles start n (m + 1) ∧
        Waits ((recorded nlineWidth csrThrottle).after cycles m).1 (cycles m) := by
  by_cases finishes : Finishes ((recorded nlineWidth csrThrottle).after cycles m).1
  · exact .inl (.inl finishes)
  · obtain ⟨onward, less | ⟨same, keeps, waits⟩⟩ :=
      stalled.since.step narrow enable unwritten finishes
    · exact .inl (.inr ⟨onward, Nat.lt_of_lt_of_eq less stalled.work⟩)
    · exact .inr ⟨⟨onward, same.trans stalled.state, keeps.trans stalled.work⟩, waits⟩

theorem RunningSince.progress (narrow : nlineWidth ≤ 58)
    (answers : ∀ n, Answers ((recorded nlineWidth csrThrottle).after cycles n) (cycles n))
    (fair : Fair nlineWidth csrThrottle cycles)
    (enable : ((recorded nlineWidth csrThrottle).after cycles start).1.csrBaseQ.enable = true)
    (unwritten : Unwritten nlineWidth csrThrottle cycles start) (n : Nat)
    (since : RunningSince nlineWidth csrThrottle cycles start n) :
    ∃ m, n ≤ m ∧
      ((RunningSince nlineWidth csrThrottle cycles start m ∧
          Finishes ((recorded nlineWidth csrThrottle).after cycles m).1) ∨
        RunningSince nlineWidth csrThrottle cycles start m ∧
          work ((recorded nlineWidth csrThrottle).after cycles m).1 <
            work ((recorded nlineWidth csrThrottle).after cycles n).1) := by
  have reached : ∃ m, n ≤ m ∧
      ((RunningSince nlineWidth csrThrottle cycles start m ∧
          Finishes ((recorded nlineWidth csrThrottle).after cycles m).1) ∨
        RunningSince nlineWidth csrThrottle cycles start (m + 1) ∧
          work ((recorded nlineWidth csrThrottle).after cycles (m + 1)).1 <
            work ((recorded nlineWidth csrThrottle).after cycles n).1) := by
    apply eventually_of_persists (StalledSince nlineWidth csrThrottle cycles start n)
      ⟨since, rfl, rfl⟩
    · intro m _ stalled
      rcases stalled.step narrow enable unwritten with (finishes | onward) | again
      · exact .inl (.inl ⟨stalled.since, finishes⟩)
      · exact .inl (.inr onward)
      · exact .inr again.1
    · obtain ⟨m, later, moves⟩ := not_waits_of_fair answers fair n
        ((recorded nlineWidth csrThrottle).after cycles n).1.stateQ
      refine ⟨m, later, fun stalled => ?_⟩
      rcases stalled.step narrow enable unwritten with (finishes | onward) | again
      · exact .inl ⟨stalled.since, finishes⟩
      · exact .inr onward
      · exact absurd again.2 (moves stalled.state)
  obtain ⟨m, later, finished | less⟩ := reached
  · exact ⟨m, later, .inl finished⟩
  · exact ⟨m + 1, Nat.le_succ_of_le later, .inr less⟩

theorem finishes_of_triggers (narrow : nlineWidth ≤ 58)
    (answers : ∀ n, Answers ((recorded nlineWidth csrThrottle).after cycles n) (cycles n))
    (fair : Fair nlineWidth csrThrottle cycles)
    (triggers : Triggers ((recorded nlineWidth csrThrottle).after cycles start).1 (cycles start))
    (unwritten : Unwritten nlineWidth csrThrottle cycles start) :
    ∃ finish, start < finish ∧ RunningSince nlineWidth csrThrottle cycles start finish ∧
      Finishes ((recorded nlineWidth csrThrottle).after cycles finish).1 := by
  obtain ⟨finish, later, reached⟩ := eventually_of_decreases
    (RunningSince nlineWidth csrThrottle cycles start)
    (fun m => work ((recorded nlineWidth csrThrottle).after cycles m).1)
    (RunningSince.progress narrow answers fair triggers.enable unwritten)
    (runningSince_trigger narrow (sound_after answers start) triggers unwritten)
  exact ⟨finish, later, reached⟩

end Endless

/-! ## The sequence of a run -/

/-- What one run leaves behind: the lines that it issued and the base register, if the engine
rests in the cycle after `finish`. -/
structure Completes (nlineWidth : Nat) (csrThrottle : Throttle) (cycles : Nat → Input)
    (start finish : Nat) : Prop where
  later : start < finish
  busy : BusySince nlineWidth csrThrottle cycles start finish
  rests : (control ((recorded nlineWidth csrThrottle).after cycles (finish + 1)).1
    (cycles (finish + 1))).busy = false
  issued : ((recorded nlineWidth csrThrottle).after cycles (finish + 1)).2.issued =
    ((recorded nlineWidth csrThrottle).after cycles start).2.issued ++
      requests (snoopNline ((recorded nlineWidth csrThrottle).after cycles start).1)
        ((recorded nlineWidth csrThrottle).after cycles start).1.shadowParamQ
  base : ((recorded nlineWidth csrThrottle).after cycles (finish + 1)).1.csrBaseQ.baseCline =
    if ((recorded nlineWidth csrThrottle).after cycles start).1.shadowBaseQ.cycle then
      ((recorded nlineWidth csrThrottle).after cycles start).1.csrBaseQ.baseCline
    else
      (behind (snoopNline ((recorded nlineWidth csrThrottle).after cycles start).1)
        ((recorded nlineWidth csrThrottle).after cycles start).1.shadowParamQ).setWidth 58

theorem completes_of_triggers (narrow : nlineWidth ≤ 58) {csrThrottle : Throttle}
    {cycles : Nat → Input} {start : Nat}
    (answers : ∀ n, Answers ((recorded nlineWidth csrThrottle).after cycles n) (cycles n))
    (fair : Fair nlineWidth csrThrottle cycles)
    (triggers : Triggers ((recorded nlineWidth csrThrottle).after cycles start).1 (cycles start))
    (unwritten : Unwritten nlineWidth csrThrottle cycles start) :
    ∃ finish, Completes nlineWidth csrThrottle cycles start finish := by
  obtain ⟨finish, later, since, finishes⟩ :=
    finishes_of_triggers narrow answers fair triggers unwritten
  have enable : ((recorded nlineWidth csrThrottle).after cycles finish).1.csrBaseQ.enable =
      true := by
    rw [since.running.csrBase, triggers.enable]
  have quiet := unwritten finish (Nat.le_of_lt later) since.busy
  obtain ⟨rests, base⟩ := finish_step finishes enable quiet
  refine ⟨finish, later, since.busy, not_busy_of_rests rests, ?_, ?_⟩
  · have lines := since.running.lines
    rw [remaining_of_done finishes.state, List.append_nil] at lines
    have silent : grants ((recorded nlineWidth csrThrottle).after cycles finish).1
        (cycles finish) = false := by
      rw [grants_eq, finishes.state]
      rfl
    change _ ++ (if grants _ _ then _ else _) = _
    rw [silent, if_neg Bool.false_ne_true, List.append_nil, lines]
  · change (step _ _).csrBaseQ.baseCline = _
    rw [base, since.running.cycle, since.running.csrBase, since.running.base]

/-- The engine is enabled, and there is nothing to prefetch. -/
structure Pointless (s : State nlineWidth) (i : Input) : Prop where
  state : s.stateQ = .idle
  enable : s.csrBaseQ.enable = true
  nlines : s.csrParamQ.nlines = 0
  nblocks : s.csrParamQ.nblocks = 0
  unwritten : i.csrBaseSet = false

/-- Each run issues the lines of its blocks, once and in order, and then leaves the base line of
the next block, whatever the grants and the throttle are. There is no run for a single line; the
engine is disarmed then, and the base line stays. -/
theorem sequence_of_runs (nlineWidth : Nat) (narrow : nlineWidth ≤ 58) (csrThrottle : Throttle)
    (cycles : Nat → Input)
    (answers : ∀ n, Answers ((recorded nlineWidth csrThrottle).after cycles n) (cycles n))
    (fair : Fair nlineWidth csrThrottle cycles) :
    (∀ start,
      Triggers ((recorded nlineWidth csrThrottle).after cycles start).1 (cycles start) →
      Unwritten nlineWidth csrThrottle cycles start →
      ∃ finish, Completes nlineWidth csrThrottle cycles start finish) ∧
    ∀ n, Pointless ((recorded nlineWidth csrThrottle).after cycles n).1 (cycles n) →
      ((recorded nlineWidth csrThrottle).after cycles (n + 1)).2.issued =
          ((recorded nlineWidth csrThrottle).after cycles n).2.issued ∧
        ((recorded nlineWidth csrThrottle).after cycles (n + 1)).1.stateQ = .idle ∧
        ((recorded nlineWidth csrThrottle).after cycles (n + 1)).1.csrBaseQ =
          { ((recorded nlineWidth csrThrottle).after cycles n).1.csrBaseQ with
            enable := false } := by
  constructor
  · intro start triggers unwritten
    exact completes_of_triggers narrow answers fair triggers unwritten
  · rintro n ⟨state, enable, nlines, nblocks, unwritten⟩
    obtain ⟨silent, idle, base⟩ := disarm_step state enable nlines nblocks unwritten
    refine ⟨?_, idle, base⟩
    change _ ++ (if grants _ _ then _ else _) = _
    rw [silent, if_neg Bool.false_ne_true, List.append_nil]

/-! ## A run of two blocks of two lines -/

/-- The engine is enabled for the blocks from line 16. -/
def enableBlocks (nblocks nlines : BitVec 16) : Input :=
  { quiet with
    csrBaseSet := true
    csrBase := ⟨16, 0, false, false, true⟩
    csrParamSet := true
    csrParam := ⟨nblocks, nlines, 1⟩
    csrThrottleSet := true
    csrThrottle := ⟨0, 0⟩ }

/-- The base line is accessed in the third cycle; three requests are granted and answered. -/
def twoBlocks : Nat → Input
  | 0 => enableBlocks 1 1
  | 2 => { quiet with snoopMatch := true }
  | 3 | 4 | 5 => { quiet with hpdcacheReqReady := true }
  | 6 | 7 | 8 => { quiet with hpdcacheRspValid := true }
  | _ => { quiet with hpdcacheReqReady := true }

theorem twoBlocks_of_le {n : Nat} (late : 9 ≤ n) :
    twoBlocks n = { quiet with hpdcacheReqReady := true } := by
  obtain ⟨steps, rfl⟩ := Nat.exists_eq_add_of_le' late
  rfl

/-- The engine rests behind the run. -/
theorem twoBlocks_rests {n : Nat} (late : 10 ≤ n) :
    (recorded 8 ⟨0, 0⟩).after twoBlocks n = (recorded 8 ⟨0, 0⟩).after twoBlocks 10 := by
  induction n, late using Nat.le_induction with
  | base => rfl
  | succ n late inductionHypothesis =>
      rw [Machine.after, inductionHypothesis, twoBlocks_of_le (Nat.le_of_succ_le late)]
      decide +kernel

theorem twoBlocks_completes :
    ∃ finish, Completes 8 ⟨0, 0⟩ twoBlocks 2 finish := by
  have early : ∀ n, n < 10 → (twoBlocks n).hpdcacheRspValid = true →
      0 < ((recorded 8 ⟨0, 0⟩).after twoBlocks n).2.outstanding := by
    decide +kernel
  apply (sequence_of_runs 8 (by decide) ⟨0, 0⟩ twoBlocks ?_ ?_).1 2
  · exact ⟨by decide, by decide, by decide⟩
  · intro n after _
    obtain ⟨steps, rfl⟩ := Nat.exists_eq_add_of_le' after
    rcases steps with _ | _ | _ | _ | _ | _ | _ | steps <;> rfl
  · intro n answer
    rcases Nat.lt_or_ge n 10 with soon | late
    · exact early n soon answer
    · rw [twoBlocks_of_le (Nat.le_of_succ_le late)] at answer
      exact Bool.noConfusion answer
  · constructor
    · intro n
      refine ⟨n + 9, Nat.le_add_right n 9, fun _ => ?_⟩
      rw [twoBlocks_of_le (Nat.le_add_left 9 n)]
    · intro n
      refine ⟨n + 10, Nat.le_add_right n 10, fun some => ?_⟩
      rw [twoBlocks_rests (Nat.le_add_left 10 n)] at some
      exact absurd some (by decide +kernel)

/-- With nothing to prefetch the engine leaves the base line where it was, and a base line that is
wider than the base register loses its upper bits between the blocks. -/
theorem sequence_not_general :
    (((machine 8 ⟨0, 0⟩).run [enableBlocks 0 0, quiet]).csrBaseQ.enable = false ∧
      ((machine 8 ⟨0, 0⟩).run [enableBlocks 0 0, quiet]).csrBaseQ.baseCline.setWidth 8 ≠
        behind (16 : BitVec 8) ⟨0, 0, 1⟩) ∧
    let wide : Input := { enableBlocks 2 0 with
      csrBase := ⟨BitVec.allOnes 58, 0, false, false, true⟩ }
    let accessed : Input := { quiet with snoopMatch := true }
    let ready : Input := { quiet with hpdcacheReqReady := true }
    ((recorded 59 ⟨0, 0⟩).runFrom (recorded 59 ⟨0, 0⟩).reset
        [wide, quiet, accessed, ready, ready]).2.issued ≠
      requests ((BitVec.allOnes 58).setWidth 59) ⟨2, 0, 1⟩ := by
  decide +kernel

end Cva6Hpd.HwpfStride
