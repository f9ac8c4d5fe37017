import Cva6Hpd.Hpdcache.Wbuf.Conservation
import Mathlib.Algebra.Order.BigOperators.Group.Finset

/-!
# Draining the write buffer

While no new write comes in, the work left in the directory and in the send
FIFOs never grows, and it shrinks in every cycle in which the buffer is flushed
and the memory accepts on both channels. After enough such cycles, however they
are interleaved with stalls, every acknowledged write has been sent.
-/

namespace Cva6Hpd.Hpdcache.Wbuf

open Cva6Hpd.Hw
open Cva6Hpd.Common

variable {cfg : Cfg}

/-- Closing, granting, and the two handshakes that an entry still has ahead. -/
def pendingSteps : DirState → Nat
  | .wbufFree => 0
  | .wbufOpen => 4
  | .wbufPend => 3
  | .wbufSent => 0

/-- The work left before everything acknowledged is sent. -/
def backlog (state : State cfg) : Nat :=
  ∑ i, pendingSteps (state.wbufDirStateQ i) + state.sendDataFifo.contents.length +
    state.sendMetaFifo.contents.length

/-- The buffer is flushed and the memory accepts on both channels. -/
def drains (input : Input cfg) : Bool :=
  input.flushAll && input.memReqWriteReady && input.memReqWriteDataReady

/-- The worst backlog of any state. -/
def drainBound (cfg : Cfg) : Nat :=
  4 * cfg.wbufDirEntries + 2 * cfg.wbufDataEntries

theorem backlog_le_drainBound (state : State cfg) : backlog state ≤ drainBound cfg := by
  have entries : ∑ i, pendingSteps (state.wbufDirStateQ i) ≤ ∑ _i : cfg.DirPtr, 4 := by
    apply Finset.sum_le_sum
    intro i _
    cases state.wbufDirStateQ i <;> simp [pendingSteps]
  have dataBound := state.sendDataFifo.length_contents_le
  have metaBound := state.sendMetaFifo.length_contents_le
  simp only [Finset.sum_const, Finset.card_univ, Fintype.card_fin, nsmul_eq_mul] at entries
  push_cast at entries
  unfold backlog drainBound
  omega

section Step

variable {state : State cfg} {input : Input cfg} (quiet : input.write = false)

include quiet

/-- Without writes an entry only moves forward. -/
theorem pendingSteps_step (i : cfg.DirPtr) :
    pendingSteps ((step state input).wbufDirStateQ i) +
        (if sendAt state input i then 3 else 0) ≤
      pendingSteps (state.wbufDirStateQ i) := by
  have noAlloc : allocAt state input i = false := by
    rw [Bool.eq_false_iff]
    intro alloc
    rw [(allocAt_implies alloc).2.1] at quiet
    contradiction
  simp only [step, wbufDirStateD]
  cases dirState : state.wbufDirStateQ i with
  | wbufFree => simp [noAlloc, sendAt, dirState, pendingSteps]
  | wbufOpen =>
      simp only [sendAt, dirState]
      split_ifs <;> simp_all [pendingSteps]
  | wbufPend => cases sendAt state input i <;> simp [pendingSteps]
  | wbufSent => cases ackAt state input i <;> simp [sendAt, dirState, pendingSteps]

theorem sum_pendingSteps_step (arbiters : ArbitersHold state) :
    ∑ i, pendingSteps ((step state input).wbufDirStateQ i) +
        (if sends state input then 3 else 0) ≤
      ∑ i, pendingSteps (state.wbufDirStateQ i) := by
  have forward := Finset.sum_le_sum fun i (_ : i ∈ Finset.univ) =>
    @pendingSteps_step cfg state input quiet i
  rw [Finset.sum_add_distrib] at forward
  have departures : ∑ i, (if sendAt state input i then 3 else 0) =
      if sends state input then 3 else 0 := by
    cases sent : sends state input with
    | false => simp [sendAt_eq_false sent]
    | true => simp [(sendAt_single arbiters sent).1]
  rw [departures] at forward
  exact forward

omit quiet in
theorem fifo_lengths_step :
    (step state input).sendDataFifo.contents.length +
          (if input.memReqWriteDataReady && memReqWriteDataValid state input then 1 else 0) =
        state.sendDataFifo.contents.length + (if sends state input then 1 else 0) ∧
      (step state input).sendMetaFifo.contents.length +
          (if input.memReqWriteReady && memReqWriteValid state input then 1 else 0) =
        state.sendMetaFifo.contents.length + (if sends state input then 1 else 0) := by
  have dataConserved := congrArg List.length (sendDataFifo_conserved state input)
  have metaConserved := congrArg List.length (sendMetaFifo_conserved state input)
  simp only [memAccepted, List.length_append] at dataConserved metaConserved
  constructor
  · split_ifs at dataConserved ⊢ <;> simp at dataConserved ⊢ <;> omega
  · split_ifs at metaConserved ⊢ <;> simp at metaConserved ⊢ <;> omega

theorem backlog_step_le (arbiters : ArbitersHold state) :
    backlog (step state input) ≤ backlog state := by
  have forward := sum_pendingSteps_step quiet arbiters
  have lengths := @fifo_lengths_step cfg state input
  unfold backlog
  split_ifs at forward lengths <;> omega

theorem sum_pendingSteps_flush (flush : input.flushAll = true) {i : cfg.DirPtr}
    (isOpen : state.wbufDirStateQ i = .wbufOpen) :
    ∑ j, pendingSteps ((step state input).wbufDirStateQ j) <
      ∑ j, pendingSteps (state.wbufDirStateQ j) := by
  apply Finset.sum_lt_sum
  · intro j _
    have forward := @pendingSteps_step cfg state input quiet j
    split_ifs at forward <;> omega
  · refine ⟨i, Finset.mem_univ i, ?_⟩
    simp [step, wbufDirStateD, isOpen, flush, pendingSteps]

/-- A draining cycle makes progress. -/
theorem backlog_step_lt (arbiters : ArbitersHold state) (draining : drains input = true)
    (busy : backlog state ≠ 0) : backlog (step state input) < backlog state := by
  have forward := sum_pendingSteps_step quiet arbiters
  have lengths := @fifo_lengths_step cfg state input
  simp only [drains, Bool.and_eq_true] at draining
  rcases draining with ⟨⟨flush, metaReady⟩, dataReady⟩
  simp only [metaReady, dataReady, Bool.true_and, memReqWriteValid,
    memReqWriteDataValid, FifoRegs.rok, FifoReg.empty_eq_decide, Bool.false_and,
    Bool.or_false, Bool.not_eq_true', decide_eq_false_iff_not] at lengths
  by_cases dataEmpty : state.sendDataFifo.contents = []
  · by_cases metaEmpty : state.sendMetaFifo.contents = []
    · by_cases opened : ∃ i, state.wbufDirStateQ i = .wbufOpen
      · -- The flush closes an open entry; a grant keeps the balance.
        rcases opened with ⟨i, isOpen⟩
        have closes := sum_pendingSteps_flush quiet flush isOpen
        unfold backlog
        simp only [dataEmpty, metaEmpty, not_true_eq_false, if_false,
          List.length_nil] at lengths ⊢
        split_ifs at forward lengths <;> omega
      · have pending : (wbufDirPendBv state).any = true := by
          by_contra none
          rw [Bool.not_eq_true, Bits.any_eq_false_iff] at none
          apply busy
          have zero : ∀ i, pendingSteps (state.wbufDirStateQ i) = 0 := by
            intro i
            have notPend := none i
            have notOpen : state.wbufDirStateQ i ≠ .wbufOpen := fun h => opened ⟨i, h⟩
            simp only [wbufDirPendBv, decide_eq_false_iff_not] at notPend
            cases dirState : state.wbufDirStateQ i <;> simp_all [pendingSteps]
          simp [backlog, zero, dataEmpty, metaEmpty]
        have depth : cfg.wbufDataEntries ≠ 0 := Nat.ne_of_gt cfg.dataEntries_pos
        have sent : sends state input = true := by
          simp [sends, pending, sendDataReady, sendMetaReady, FifoRegs.wok,
            FifoReg.full_eq_decide, dataEmpty, metaEmpty, depth.symm]
        unfold backlog
        simp only [dataEmpty, metaEmpty, sent, not_true_eq_false, if_false, if_true,
          List.length_nil] at forward lengths ⊢
        omega
    · unfold backlog
      simp only [metaEmpty, not_false_eq_true, if_true] at lengths
      split_ifs at forward lengths <;> omega
  · unfold backlog
    simp only [dataEmpty, not_false_eq_true, if_true] at lengths
    split_ifs at forward lengths <;> omega

end Step

/-- Enough draining cycles leave nothing to be sent. -/
theorem backlog_runFrom {state : State cfg} {inputs : List (Input cfg)}
    (wellFormed : WellFormed state) (quiet : ∀ input ∈ inputs, input.write = false)
    (enough : backlog state ≤ inputs.countP drains) :
    backlog ((machine cfg).runFrom state inputs) = 0 := by
  induction inputs generalizing state with
  | nil => simpa using enough
  | cons input inputs inductionHypothesis =>
      have quietNow : input.write = false := quiet input List.mem_cons_self
      have quietLater : ∀ later ∈ inputs, later.write = false := fun later member =>
        quiet later (List.mem_cons_of_mem input member)
      refine inductionHypothesis (wellFormed_step wellFormed) quietLater ?_
      change backlog (step state input) ≤ _
      have notMore := @backlog_step_le cfg state input quietNow wellFormed.arbiters
      cases draining : drains input with
      | false =>
          simp only [List.countP_cons, draining, Bool.false_eq_true, if_false] at enough
          omega
      | true =>
          simp only [List.countP_cons, draining, if_true] at enough
          by_cases busy : backlog state = 0
          · omega
          · have less := backlog_step_lt quietNow wellFormed.arbiters draining busy
            omega

/-- Nothing is left in the directory or in the FIFOs. -/
theorem quiescent_of_backlog {state : State cfg} (drained : backlog state = 0) :
    (∀ i, ¬Live state i) ∧ state.sendDataFifo.contents = [] ∧
      state.sendMetaFifo.contents = [] := by
  simp only [backlog, Nat.add_eq_zero_iff, Finset.sum_eq_zero_iff, Finset.mem_univ,
    true_implies, List.length_eq_zero_iff] at drained
  refine ⟨?_, drained.1.2, drained.2⟩
  rintro i (isOpen | isPend)
  · have steps := drained.1.1 i
    simp [isOpen, pendingSteps] at steps
  · have steps := drained.1.1 i
    simp [isPend, pendingSteps] at steps

/-! ## The conservation theorem -/

/-- The memory has accepted a request and a data beat for every granted entry,
and every acknowledged write is in exactly one of them. -/
def AllSent (history : History cfg) : Prop :=
  history.reqs.length = history.granted.length ∧
    history.datas.length = history.granted.length ∧
      (history.granted.map fun granted =>
          (granted.log : Multiset (Ranked cfg))).sum =
        (history.acked.zipIdx : Multiset (Ranked cfg))

theorem allSent_of_quiescent {state : State cfg} {history : History cfg}
    (held : Conserved state history) (drained : backlog state = 0) : AllSent history := by
  rcases quiescent_of_backlog drained with ⟨notLive, dataEmpty, metaEmpty⟩
  refine ⟨?_, ?_, ?_⟩
  · have lengths := congrArg List.length held.metaChannel
    simpa [metaEmpty] using lengths.symm
  · rcases held.dataChannel with ⟨sent, queued, split, contents, carries, _⟩
    have none : queued = [] := by
      rw [dataEmpty] at contents
      exact List.map_eq_nil_iff.mp contents.symm
    rw [split, none, List.append_nil]
    exact carries.length_eq
  · have noLogs : ∀ i, history.log i = [] := fun i => held.idle i (notLive i)
    simpa [noLogs] using held.ranks

/-- The k-th accepted request with the k-th accepted data beat. -/
def RequestsCarryMerges (history : History cfg) : Prop :=
  ∀ (k : Nat) (req : MemReq cfg) (data : MemReqW cfg),
    history.reqs[k]? = some req → history.datas[k]? = some data →
      ∃ granted, history.granted[k]? = some granted ∧
        req = memReqOf granted.sendMeta ∧
          ∀ address, requestByte req.memReqAddr data address =
            mergeByte (writesOf granted.log) address

theorem requestsCarryMerges {state : State cfg} {history : History cfg}
    (held : Conserved state history) : RequestsCarryMerges history := by
  intro k req data reqAt dataAt
  rcases held.dataChannel with ⟨sent, queued, split, _, carries, _⟩
  have dataBound : k < history.datas.length := (List.getElem?_eq_some_iff.mp dataAt).1
  have sentBound : k < sent.length := carries.length_eq ▸ dataBound
  have grantedAt : history.granted[k]? = some sent[k] := by
    rw [split, List.getElem?_append_left sentBound, List.getElem?_eq_getElem sentBound]
  have request : some req = (history.granted[k]?).map
      fun granted => memReqOf granted.sendMeta := by
    have reqBound : k < history.reqs.length := (List.getElem?_eq_some_iff.mp reqAt).1
    rw [← List.getElem?_map, held.metaChannel, List.getElem?_append_left reqBound, reqAt]
  rw [grantedAt, Option.map_some, Option.some.injEq] at request
  refine ⟨sent[k], grantedAt, request, ?_⟩
  have carried := List.Forall₂.get carries dataBound sentBound
  have dataIs : history.datas.get ⟨k, dataBound⟩ = data :=
    Option.some.inj ((List.getElem?_eq_getElem dataBound).symm.trans dataAt)
  rw [dataIs] at carried
  rw [request]
  exact carried

/-- In every run, with arbitrary writes, evaluations, flushes, acknowledgements
and back-pressure: each request accepted by the memory stores exactly the merge
of the writes acknowledged into its entry; every acknowledged write is in
exactly one granted entry or live entry, in the order of acknowledgement;
the data buffers in use are valid and pairwise different; and once the buffer
is drained every acknowledged write has been sent. -/
theorem writesConserved_run (inputs : List (Input cfg)) :
    let state := ((historyMachine cfg).run inputs).1
    let history := ((historyMachine cfg).run inputs).2
    RequestsCarryMerges history ∧
      (history.reqs.length ≤ history.granted.length ∧
        history.datas.length ≤ history.granted.length) ∧
      ((history.granted.map fun granted =>
            (granted.log : Multiset (Ranked cfg))).sum +
          ∑ i, (history.log i : Multiset (Ranked cfg)) =
        (history.acked.zipIdx : Multiset (Ranked cfg)) ∧
        ∀ i, ¬Live state i → history.log i = []) ∧
      ((∀ i, (history.log i).Sublist history.acked.zipIdx) ∧
        ∀ granted ∈ history.granted, granted.log.Sublist history.acked.zipIdx) ∧
      BuffersDisjoint state ∧
      ∀ quiet : List (Input cfg), (∀ input ∈ quiet, input.write = false) →
        drainBound cfg ≤ quiet.countP drains →
          AllSent ((historyMachine cfg).run (inputs ++ quiet)).2 := by
  intro state history
  have held : Conserved state history := conserved_run inputs
  refine ⟨requestsCarryMerges held, ⟨?_, ?_⟩, ⟨held.ranks, held.idle⟩,
    ⟨held.liveOrder, held.grantedOrder⟩, held.wellFormed.buffers, ?_⟩
  · have lengths := congrArg List.length held.metaChannel
    simp only [List.length_map, List.length_append] at lengths
    omega
  · rcases held.dataChannel with ⟨sent, queued, split, _, carries, _⟩
    rw [split, List.length_append, carries.length_eq]
    exact Nat.le_add_right _ _
  · intro quiet quietWrites enough
    apply allSent_of_quiescent (conserved_run (inputs ++ quiet))
    have sameState : ((historyMachine cfg).run (inputs ++ quiet)).1 =
        (machine cfg).runFrom ((machine cfg).run inputs) quiet := by
      rw [historyMachine, Machine.withHistory_run_fst, Machine.run_append]
    rw [sameState]
    exact backlog_runFrom (wellFormed_run inputs) quietWrites
      ((backlog_le_drainBound _).trans enough)

end Cva6Hpd.Hpdcache.Wbuf
