import Cva6Hpd.Hpdcache.Wbuf.Core

/-!
# Write buffer invariants

The free-entry, free-buffer and send arbiters always hold a grant that is still
eligible, so a write opens or merges into exactly one entry and a send takes
exactly one. From this follow the uniqueness of tags among the entries that can
still change, and the disjointness of the data buffers in use.
-/

namespace Cva6Hpd.Hpdcache.Wbuf

open Cva6Hpd.Hw
open Cva6Hpd.Common

variable {cfg : Cfg}

/-- An entry whose data buffer can still be written: open or pending. -/
def Live (state : State cfg) (i : cfg.DirPtr) : Prop :=
  state.wbufDirStateQ i = .wbufOpen ∨ state.wbufDirStateQ i = .wbufPend

instance decidableLive (state : State cfg) (i : cfg.DirPtr) : Decidable (Live state i) :=
  inferInstanceAs (Decidable (_ ∨ _))

/-- The three arbiters hold only grants that are still eligible. -/
structure ArbitersHold (state : State cfg) : Prop where
  dirFree : Fxarb.Holds state.dirFreeArb fun i => wbufDirFreeBv state i = true
  dataFree : Fxarb.Holds state.dataFreeArb fun p => wbufDataFreeBv state p = true
  pend : Rrarb.Holds state.pendArb fun i => wbufDirPendBv state i = true

/-! ## The entry a write opens -/

section Allocation

variable {state : State cfg} {input : Input cfg}

theorem wbufDirFree_of_writeFree (free : wbufWriteFree state input = true) :
    (wbufDirFreeBv state).any = true ∧ (wbufDataFreeBv state).any = true := by
  simp only [wbufWriteFree, Bool.and_eq_true, wbufDirFree, wbufDataFree] at free
  refine ⟨free.1.1.1.1, ?_⟩
  have notAll := free.1.1.1.2
  rw [Bool.not_eq_true', Bits.all_eq_false_iff] at notAll
  rcases notAll with ⟨p, invalid⟩
  exact (Bits.any_eq_true_iff _).mpr ⟨p, by simp [wbufDataFreeBv, invalid]⟩

/-- A granted write opens exactly one entry, which is free. -/
theorem allocAt_single (arbiters : ArbitersHold state) (write : input.write = true)
    (free : wbufWriteFree state input = true) :
    ∃ i, allocAt state input = Bits.single i ∧ state.wbufDirStateQ i = .wbufFree := by
  have pending := (wbufDirFree_of_writeFree free).1
  rcases Fxarb.gnt_oneHot arbiters.dirFree pending with ⟨i, granted, isFree⟩
  have stateFree : state.wbufDirStateQ i = .wbufFree := by
    simpa [wbufDirFreeBv] using isFree
  refine ⟨i, ?_, stateFree⟩
  funext j
  rw [Bool.eq_iff_iff, Bits.single_eq_true_iff]
  simp only [allocAt, matchFree, wbufDirFreePtrBv, granted, write, free,
    Bool.true_and, Bool.and_eq_true, decide_eq_true_eq, Bits.single_eq_true_iff]
  constructor
  · rintro ⟨_, equal⟩
    exact equal
  · rintro rfl
    exact ⟨stateFree, rfl⟩

theorem allocAt_implies {i : cfg.DirPtr} (alloc : allocAt state input i = true) :
    state.wbufDirStateQ i = .wbufFree ∧ input.write = true ∧
      wbufWriteFree state input = true := by
  simp only [allocAt, matchFree, Bool.and_eq_true, decide_eq_true_eq] at alloc
  exact ⟨alloc.1, alloc.2.1, alloc.2.2.1⟩

theorem allocAt_unique (arbiters : ArbitersHold state) :
    (allocAt state input).AtMostOne := by
  intro i j first second
  rcases allocAt_implies first with ⟨_, write, free⟩
  rcases allocAt_single arbiters write free with ⟨k, isSingle, _⟩
  rw [isSingle, Bits.single_eq_true_iff] at first second
  exact first.trans second.symm

theorem wbufDataFreePtr_invalid (arbiters : ArbitersHold state)
    (free : wbufWriteFree state input = true) :
    state.wbufDataValidQ (wbufDataFreePtr state) = false := by
  have pending := (wbufDirFree_of_writeFree free).2
  rcases Fxarb.gnt_oneHot arbiters.dataFree pending with ⟨p, granted, isFree⟩
  have pointer : wbufDataFreePtr state = p := by
    simp [wbufDataFreePtr, wbufDataFreePtrBv, granted]
  rw [pointer]
  simpa [wbufDataFreeBv] using isFree

/-- A new entry is opened only when no live entry has the written tag. -/
theorem tag_ne_of_writeFree {i : cfg.DirPtr} (free : wbufWriteFree state input = true)
    (live : Live state i) : (state.wbufDirQ i).tag ≠ writeTag input := by
  intro equal
  simp only [wbufWriteFree, Bool.and_eq_true, Bool.not_eq_true', wbufWriteHitOpen,
    wbufWriteHitPend, Bits.any_eq_false_iff, wbufWriteHitBv, decide_eq_false_iff_not,
    not_and] at free
  rcases live with isOpen | isPend
  · exact free.1.1.2 i equal isOpen
  · exact free.1.2 i equal isPend

theorem tag_ne_of_writeFree_of_sequential {i : cfg.DirPtr}
    (free : wbufWriteFree state input = true) (sequential : input.cfgSequentialWaw = true)
    (used : state.wbufDirStateQ i ≠ .wbufFree) :
    (state.wbufDirQ i).tag ≠ writeTag input := by
  intro equal
  cases dirState : state.wbufDirStateQ i with
  | wbufFree => exact used dirState
  | wbufOpen => exact tag_ne_of_writeFree free (Or.inl dirState) equal
  | wbufPend => exact tag_ne_of_writeFree free (Or.inr dirState) equal
  | wbufSent =>
      simp only [wbufWriteFree, Bool.and_eq_true, Bool.not_eq_true', sequential,
        Bool.and_true, wbufWriteHitSent, Bits.any_eq_false_iff, wbufWriteHitBv,
        decide_eq_false_iff_not, not_and] at free
      exact free.2 i equal dirState

end Allocation

/-! ## The life cycle of one entry -/

section LifeCycle

variable (state : State cfg) (input : Input cfg) (i : cfg.DirPtr)

theorem used_step (used : (step state input).wbufDirStateQ i ≠ .wbufFree) :
    (state.wbufDirStateQ i ≠ .wbufFree ∧
        ((step state input).wbufDirQ i).tag = (state.wbufDirQ i).tag) ∨
      (allocAt state input i = true ∧
        ((step state input).wbufDirQ i).tag = writeTag input) := by
  simp only [step, wbufDirStateD, wbufDirD] at used ⊢
  cases dirState : state.wbufDirStateQ i with
  | wbufFree =>
      cases alloc : allocAt state input i with
      | true => simp
      | false => simp [dirState, alloc] at used
  | wbufOpen =>
      refine Or.inl ⟨by simp, ?_⟩
      simp only
      split_ifs <;> rfl
  | wbufPend => simp
  | wbufSent => simp

/-- A live entry after the edge was live before and did not leave, with the
same tag, buffer and attribute, or has just been opened on the free buffer. -/
theorem live_step (live : Live (step state input) i) :
    (Live state i ∧ sendAt state input i = false ∧
        ((step state input).wbufDirQ i).tag = (state.wbufDirQ i).tag ∧
        ((step state input).wbufDirQ i).ptr = (state.wbufDirQ i).ptr) ∨
      (allocAt state input i = true ∧
        ((step state input).wbufDirQ i).tag = writeTag input ∧
        ((step state input).wbufDirQ i).ptr = wbufDataFreePtr state) := by
  simp only [Live, step, wbufDirStateD, wbufDirD] at live ⊢
  cases dirState : state.wbufDirStateQ i with
  | wbufFree =>
      cases alloc : allocAt state input i with
      | true => simp
      | false => simp [dirState, alloc] at live
  | wbufOpen =>
      refine Or.inl ⟨by simp, by simp [sendAt, dirState], ?_⟩
      simp only
      split_ifs <;> exact ⟨rfl, rfl⟩
  | wbufPend =>
      cases sent : sendAt state input i with
      | true => simp [dirState, sent] at live
      | false => simp
  | wbufSent =>
      cases acked : ackAt state input i <;> simp [dirState, acked] at live

theorem live_step_of_live {i : cfg.DirPtr} (live : Live state i)
    (stays : sendAt state input i = false) : Live (step state input) i := by
  simp only [Live, step, wbufDirStateD]
  rcases live with isOpen | isPend
  · simp only [isOpen]
    split_ifs <;> simp
  · simp [isPend, stays]

theorem live_step_of_alloc {i : cfg.DirPtr} (alloc : allocAt state input i = true) :
    Live (step state input) i := by
  have isFree := (allocAt_implies alloc).1
  simp only [Live, step, wbufDirStateD, isFree, alloc, if_true]
  split_ifs <;> simp

theorem pend_step_of_pend {i : cfg.DirPtr} (isPend : wbufDirPendBv state i = true)
    (stays : sendAt state input i = false) :
    wbufDirPendBv (step state input) i = true := by
  simp only [wbufDirPendBv, decide_eq_true_eq] at isPend ⊢
  simp [step, wbufDirStateD, isPend, stays]

end LifeCycle

/-! ## Preservation of the arbiter grants -/

theorem arbitersHold_reset : ArbitersHold (reset cfg) where
  dirFree := Fxarb.holds_reset _
  dataFree := Fxarb.holds_reset _
  pend := Rrarb.holds_reset _

theorem arbitersHold_step {state : State cfg} (input : Input cfg)
    (arbiters : ArbitersHold state) : ArbitersHold (step state input) where
  dirFree := by
    apply Fxarb.holds_step arbiters.dirFree
    intro stalled i isFree
    have noAlloc : allocAt state input i = false := by
      rw [Bool.eq_false_iff]
      intro alloc
      rcases allocAt_implies alloc with ⟨_, write, free⟩
      simp [write, free] at stalled
    simp only [wbufDirFreeBv, decide_eq_true_eq] at isFree ⊢
    simp [step, wbufDirStateD, isFree, noAlloc]
  dataFree := by
    apply Fxarb.holds_step arbiters.dataFree
    intro stalled p isFree
    simp only [wbufDataFreeBv, Bool.not_eq_true'] at isFree ⊢
    simp only [step, wbufDataValidD, stalled, Bool.false_eq_true, if_false]
    split_ifs
    · by_cases same : p = (sendDataQ state).dataPtr
      · rw [same, Function.update_self]
      · rw [Function.update_of_ne same, isFree]
    · exact isFree
  pend := by
    have stays : (sendDataReady state input && sendMetaReady state input) = false →
        ∀ i, sendAt state input i = false := by
      intro stalled i
      simp only [sendAt, Bool.and_assoc, stalled, Bool.and_false]
    apply Rrarb.holds_step arbiters.pend
    · intro stalled i isPend
      exact pend_step_of_pend state input isPend (stays stalled i)
    · intro stalled i isPend
      exact pend_step_of_pend state input isPend (stays stalled i)

theorem arbitersHold_run (inputs : List (Input cfg)) :
    ArbitersHold ((machine cfg).run inputs) :=
  (machine cfg).run_invariant ArbitersHold arbitersHold_reset
    (fun _ input arbiters => arbitersHold_step input arbiters) inputs

/-! ## Tag uniqueness -/

/-- Live entries have pairwise different tags. -/
def LiveTagsUnique (state : State cfg) : Prop :=
  ∀ i j, Live state i → Live state j →
    (state.wbufDirQ i).tag = (state.wbufDirQ j).tag → i = j

/-- Entries in use have pairwise different tags. -/
def UsedTagsUnique (state : State cfg) : Prop :=
  ∀ i j, state.wbufDirStateQ i ≠ .wbufFree → state.wbufDirStateQ j ≠ .wbufFree →
    (state.wbufDirQ i).tag = (state.wbufDirQ j).tag → i = j

theorem liveTagsUnique_step {state : State cfg} (input : Input cfg)
    (arbiters : ArbitersHold state) (unique : LiveTagsUnique state) :
    LiveTagsUnique (step state input) := by
  intro i j liveI liveJ equal
  rcases live_step state input i liveI with ⟨beforeI, _, tagI, _⟩ | ⟨allocI, tagI, _⟩
  · rcases live_step state input j liveJ with ⟨beforeJ, _, tagJ, _⟩ | ⟨allocJ, tagJ, _⟩
    · exact unique i j beforeI beforeJ (tagI.symm.trans (equal.trans tagJ))
    · have free := (allocAt_implies allocJ).2.2
      exact absurd (tagI.symm.trans (equal.trans tagJ)) (tag_ne_of_writeFree free beforeI)
  · rcases live_step state input j liveJ with ⟨beforeJ, _, tagJ, _⟩ | ⟨allocJ, tagJ, _⟩
    · have free := (allocAt_implies allocI).2.2
      exact absurd (tagJ.symm.trans (equal.symm.trans tagI))
        (tag_ne_of_writeFree free beforeJ)
    · exact allocAt_unique arbiters i j allocI allocJ

theorem usedTagsUnique_step {state : State cfg} {input : Input cfg}
    (sequential : input.cfgSequentialWaw = true) (arbiters : ArbitersHold state)
    (unique : UsedTagsUnique state) : UsedTagsUnique (step state input) := by
  intro i j usedI usedJ equal
  rcases used_step state input i usedI with ⟨beforeI, tagI⟩ | ⟨allocI, tagI⟩
  · rcases used_step state input j usedJ with ⟨beforeJ, tagJ⟩ | ⟨allocJ, tagJ⟩
    · exact unique i j beforeI beforeJ (tagI.symm.trans (equal.trans tagJ))
    · have free := (allocAt_implies allocJ).2.2
      exact absurd (tagI.symm.trans (equal.trans tagJ))
        (tag_ne_of_writeFree_of_sequential free sequential beforeI)
  · rcases used_step state input j usedJ with ⟨beforeJ, tagJ⟩ | ⟨allocJ, tagJ⟩
    · have free := (allocAt_implies allocI).2.2
      exact absurd (tagJ.symm.trans (equal.symm.trans tagI))
        (tag_ne_of_writeFree_of_sequential free sequential beforeJ)
    · exact allocAt_unique arbiters i j allocI allocJ

theorem liveTagsUnique_run (inputs : List (Input cfg)) :
    LiveTagsUnique ((machine cfg).run inputs) := by
  induction inputs using List.reverseRecOn with
  | nil =>
      intro i j live
      simp [Live, machine, reset] at live
  | append_singleton inputs input inductionHypothesis =>
      rw [Machine.run_concat]
      exact liveTagsUnique_step input (arbitersHold_run inputs) inductionHypothesis

theorem usedTagsUnique_run (inputs : List (Input cfg))
    (sequential : ∀ input ∈ inputs, input.cfgSequentialWaw = true) :
    UsedTagsUnique ((machine cfg).run inputs) := by
  induction inputs using List.reverseRecOn with
  | nil =>
      intro i j used
      simp [machine, reset] at used
  | append_singleton inputs input inductionHypothesis =>
      rw [Machine.run_concat]
      have before := inductionHypothesis fun other member =>
        sequential other (List.mem_append_left [input] member)
      exact usedTagsUnique_step (sequential input (by simp)) (arbitersHold_run inputs)
        before

/-! ## The entry that leaves -/

section Send

variable {state : State cfg} {input : Input cfg}

/-- The send handshake: some entry is pending and both FIFOs accept. -/
def sends (state : State cfg) (input : Input cfg) : Bool :=
  (wbufDirPendBv state).any && (sendDataReady state input && sendMetaReady state input)

/-- Exactly the granted entry leaves, and it is pending. -/
theorem sendAt_single (arbiters : ArbitersHold state) (sent : sends state input = true) :
    sendAt state input = Bits.single (wbufSendPtr state) ∧
      state.wbufDirStateQ (wbufSendPtr state) = .wbufPend := by
  simp only [sends, Bool.and_eq_true] at sent
  rcases sent with ⟨pending, dataReady, metaReady⟩
  rcases Rrarb.gnt_oneHot arbiters.pend pending with ⟨i, granted, eligible⟩
  have isPend : state.wbufDirStateQ i = .wbufPend := by
    simpa [wbufDirPendBv] using eligible
  have pointer : wbufSendPtr state = i := by
    simp [wbufSendPtr, wbufSendGrant, granted]
  rw [pointer]
  refine ⟨?_, isPend⟩
  funext j
  rw [Bool.eq_iff_iff, Bits.single_eq_true_iff]
  simp only [sendAt, wbufSendGrant, granted, dataReady, metaReady, Bool.and_true,
    Bool.and_eq_true, decide_eq_true_eq, Bits.single_eq_true_iff]
  constructor
  · rintro ⟨_, equal⟩
    exact equal
  · rintro rfl
    exact ⟨isPend, rfl⟩

theorem sends_of_sendAt {i : cfg.DirPtr} (sent : sendAt state input i = true) :
    sends state input = true := by
  simp only [sendAt, Bool.and_eq_true, decide_eq_true_eq] at sent
  simp only [sends, Bool.and_eq_true, Bits.any_eq_true_iff]
  exact ⟨⟨i, by simp [wbufDirPendBv, sent.1]⟩, sent.2.1.2, sent.2.2⟩

theorem sendAt_eq_false (quiet : sends state input = false) (i : cfg.DirPtr) :
    sendAt state input i = false := by
  rw [Bool.eq_false_iff]
  intro sent
  rw [sends_of_sendAt sent] at quiet
  contradiction

end Send

/-! ## Requests outstanding at the memory -/

/-- The requests handed over to the memory in this cycle. -/
def memAccepted (state : State cfg) (input : Input cfg) : List (SendMeta cfg) :=
  if input.memReqWriteReady && memReqWriteValid state input then
    [wbufMetaSendQ state]
  else
    []

/-- The memory acknowledges the request of entry `id`. -/
def acknowledges (input : Input cfg) (id : cfg.DirPtr) : Bool :=
  input.memRespWriteValid && decide (id.val = ackId input)

/-- Requests handed over to the memory and not acknowledged yet. -/
def recordOutstanding (state : State cfg) (input : Input cfg)
    (outstanding : List (SendMeta cfg)) : List (SendMeta cfg) :=
  (outstanding ++ memAccepted state input).filter fun request =>
    !acknowledges input request.metaId

/-- The write buffer together with the requests outstanding at the memory. -/
def outstandingMachine (cfg : Cfg) :
    Machine (State cfg × List (SendMeta cfg)) (Input cfg) :=
  (machine cfg).withHistory [] recordOutstanding

/-- The memory protocol: an acknowledgement answers an outstanding request. -/
def AcksOutstanding (state : State cfg × List (SendMeta cfg)) (input : Input cfg) :
    Prop :=
  input.memRespWriteValid = true →
    ∃ request ∈ state.2 ++ memAccepted state.1 input,
      request.metaId.val = ackId input

/-- Every request on its way to the memory, or outstanding there, belongs to a
sent entry of its own that still has its tag. -/
structure OutstandingSent (state : State cfg × List (SendMeta cfg)) : Prop where
  nodup : ((state.2 ++ state.1.sendMetaFifo.contents).map SendMeta.metaId).Nodup
  sent : ∀ request ∈ state.2 ++ state.1.sendMetaFifo.contents,
    state.1.wbufDirStateQ request.metaId = .wbufSent ∧
      (state.1.wbufDirQ request.metaId).tag = request.metaTag

theorem sendMetaFifo_conserved (state : State cfg) (input : Input cfg) :
    state.sendMetaFifo.contents ++
        (if sends state input then [wbufMetaSend state] else []) =
      memAccepted state input ++ (step state input).sendMetaFifo.contents := by
  have conserved := state.sendMetaFifo.contents_conserved false
    (sendMetaValid state input) (wbufMetaSend state) input.memReqWriteReady
  have handshake : (sendMetaValid state input &&
      state.sendMetaFifo.wok false input.memReqWriteReady) = sends state input := by
    simp only [sendMetaValid, sends, sendMetaReady, Bool.and_assoc]
  rw [handshake] at conserved
  exact conserved

theorem outstandingSent_step {state : State cfg × List (SendMeta cfg)} {input : Input cfg}
    (arbiters : ArbitersHold state.1) (held : OutstandingSent state)
    (protocol : AcksOutstanding state input) :
    OutstandingSent ((outstandingMachine cfg).step state input) := by
  rcases state with ⟨state, outstanding⟩
  have conserved := sendMetaFifo_conserved state input
  -- Everything outstanding or queued, with the request that joins the queue.
  have known : ∀ request ∈ outstanding ++ (state.sendMetaFifo.contents ++
      (if sends state input then [wbufMetaSend state] else [])),
      (state.wbufDirStateQ request.metaId = .wbufSent ∨
          sendAt state input request.metaId = true) ∧
        (state.wbufDirQ request.metaId).tag = request.metaTag := by
    intro request member
    rw [← List.append_assoc, List.mem_append] at member
    rcases member with old | new
    · have fact := held.sent request old
      exact ⟨Or.inl fact.1, fact.2⟩
    · cases sent : sends state input with
      | true =>
          rw [sent, if_pos rfl, List.mem_singleton] at new
          subst new
          have single := (sendAt_single arbiters sent).1
          exact ⟨Or.inr (by simp [wbufMetaSend, single]), rfl⟩
      | false => simp [sent] at new
  have distinct : ((outstanding ++ (state.sendMetaFifo.contents ++
      (if sends state input then [wbufMetaSend state] else []))).map
        SendMeta.metaId).Nodup := by
    cases sent : sends state input with
    | false => simpa using held.nodup
    | true =>
        have pend := (sendAt_single arbiters sent).2
        rw [if_pos rfl, ← List.append_assoc, List.map_append, List.nodup_append]
        refine ⟨held.nodup, by simp, ?_⟩
        intro first firstMember second secondMember equal
        rcases List.mem_map.mp firstMember with ⟨request, member, rfl⟩
        simp only [List.map_cons, List.map_nil, List.mem_singleton] at secondMember
        have isSent := (held.sent request member).1
        rw [equal, secondMember, show (wbufMetaSend state).metaId = wbufSendPtr state
          from rfl, pend] at isSent
        contradiction
  rw [conserved, ← List.append_assoc] at known distinct
  -- The acknowledged request is not in the queue, so it leaves the whole list.
  have queued : (step state input).sendMetaFifo.contents.filter
      (fun request => !acknowledges input request.metaId) =
        (step state input).sendMetaFifo.contents := by
    rw [List.filter_eq_self]
    intro request member
    rw [Bool.not_eq_true', Bool.eq_false_iff]
    intro acked
    simp only [acknowledges, Bool.and_eq_true, decide_eq_true_eq] at acked
    rcases protocol acked.1 with ⟨other, otherMember, otherId⟩
    rw [List.map_append, List.nodup_append] at distinct
    exact distinct.2.2 other.metaId (List.mem_map_of_mem otherMember) request.metaId
      (List.mem_map_of_mem member) (Fin.ext (otherId.trans acked.2.symm))
  have remaining : recordOutstanding state input outstanding ++
      (step state input).sendMetaFifo.contents =
        (outstanding ++ memAccepted state input ++
          (step state input).sendMetaFifo.contents).filter
            fun request => !acknowledges input request.metaId := by
    rw [List.filter_append, queued]
    rfl
  refine ⟨?_, ?_⟩
  · change ((recordOutstanding state input outstanding ++
      (step state input).sendMetaFifo.contents).map SendMeta.metaId).Nodup
    rw [remaining]
    exact distinct.sublist (List.filter_sublist.map _)
  · intro request member
    change request ∈ recordOutstanding state input outstanding ++
      (step state input).sendMetaFifo.contents at member
    rw [remaining, List.mem_filter, Bool.not_eq_true'] at member
    rcases known request member.1 with ⟨wasSent, tag⟩
    change (step state input).wbufDirStateQ request.metaId = .wbufSent ∧
      ((step state input).wbufDirQ request.metaId).tag = request.metaTag
    rcases wasSent with wasSent | leaves
    · have notAcked : ackAt state input request.metaId = false := by
        simpa [ackAt, acknowledges, wasSent] using member.2
      simp [step, wbufDirStateD, wbufDirD, wasSent, notAcked, tag]
    · have wasPend : state.wbufDirStateQ request.metaId = .wbufPend := by
        simp only [sendAt, Bool.and_eq_true, decide_eq_true_eq] at leaves
        exact leaves.1
      simp [step, wbufDirStateD, wbufDirD, wasPend, leaves, tag]

theorem outstandingSent_run (inputs : List (Input cfg))
    (protocol : (outstandingMachine cfg).RunAlong AcksOutstanding inputs) :
    OutstandingSent ((outstandingMachine cfg).run inputs) := by
  induction inputs using List.reverseRecOn with
  | nil =>
      refine ⟨?_, ?_⟩ <;>
        simp [outstandingMachine, Machine.withHistory, machine, reset]
  | append_singleton inputs input inductionHypothesis =>
      rw [Machine.runAlong_concat] at protocol
      rw [Machine.run_concat]
      refine outstandingSent_step ?_ (inductionHypothesis protocol.1) protocol.2
      rw [outstandingMachine, Machine.withHistory_run_fst]
      exact arbitersHold_run inputs

/-- In every reachable state the open and pending entries have pairwise
different tags. When write-after-write is sequential from reset, so have all
entries in use; and with a memory that acknowledges only what it was given, so
have the requests outstanding there. -/
theorem tagsUnique_run (inputs : List (Input cfg)) :
    LiveTagsUnique ((machine cfg).run inputs) ∧
      ((∀ input ∈ inputs, input.cfgSequentialWaw = true) →
        UsedTagsUnique ((machine cfg).run inputs) ∧
          ((outstandingMachine cfg).RunAlong AcksOutstanding inputs →
            ((outstandingMachine cfg).run inputs).2.Pairwise fun first second =>
              first.metaTag ≠ second.metaTag)) := by
  refine ⟨liveTagsUnique_run inputs, ?_⟩
  intro sequential
  have unique := usedTagsUnique_run inputs sequential
  refine ⟨unique, ?_⟩
  intro protocol
  have held := outstandingSent_run inputs protocol
  have sameState : ((outstandingMachine cfg).run inputs).1 = (machine cfg).run inputs :=
    (machine cfg).withHistory_run_fst _ _ inputs
  have distinct : ((outstandingMachine cfg).run inputs).2.Pairwise fun first second =>
      first.metaId ≠ second.metaId := by
    have nodup := held.nodup
    rw [List.map_append, List.nodup_append] at nodup
    exact List.pairwise_map.mp nodup.1
  refine distinct.imp_of_mem ?_
  intro first second firstMember secondMember different equal
  have firstSent := held.sent first (List.mem_append_left _ firstMember)
  have secondSent := held.sent second (List.mem_append_left _ secondMember)
  rw [sameState] at firstSent secondSent
  apply different
  apply unique
  · rw [firstSent.1]
    simp
  · rw [secondSent.1]
    simp
  · rw [firstSent.2, secondSent.2, equal]

end Cva6Hpd.Hpdcache.Wbuf
