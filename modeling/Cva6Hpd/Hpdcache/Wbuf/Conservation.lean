import Cva6Hpd.Hpdcache.Wbuf.Buffers
import Cva6Hpd.Hpdcache.Wbuf.Merge
import Mathlib.Algebra.BigOperators.Group.Finset.Piecewise
import Mathlib.Algebra.Order.Group.Multiset

/-!
# No write is lost, duplicated or reordered

The history of a run records every acknowledged write with its rank, the writes
acknowledged into each entry since it was opened, the entries granted for
sending with the writes they carry, and the requests the memory has accepted on
its two channels. The k-th accepted request and the k-th accepted data beat
belong to the k-th granted entry and store exactly the merge of its writes.
-/

namespace Cva6Hpd.Hpdcache.Wbuf

open Cva6Hpd.Hw
open Cva6Hpd.Common

variable {cfg : Cfg}

/-- A write with its rank among the acknowledged writes of the run. -/
abbrev Ranked (cfg : Cfg) := Write cfg × Nat

/-- An entry granted for sending, with the writes acknowledged into it. -/
structure Granted (cfg : Cfg) where
  sendMeta : SendMeta cfg
  sendData : SendData cfg
  log : List (Ranked cfg)

/-- What a run has done so far, as seen on the ports and at the grants. -/
structure History (cfg : Cfg) where
  acked : List (Write cfg)
  log : cfg.DirPtr → List (Ranked cfg)
  granted : List (Granted cfg)
  reqs : List (MemReq cfg)
  datas : List (MemReqW cfg)

def History.initial : History cfg where
  acked := []
  log := fun _ => []
  granted := []
  reqs := []
  datas := []

/-- The writes of a log, without their ranks. -/
def writesOf (log : List (Ranked cfg)) : List (Write cfg) :=
  log.map Prod.fst

/-- A write is acknowledged. -/
def acks (state : State cfg) (input : Input cfg) : Bool :=
  input.write && writeReady state input

/-- The log of entry `i` with the write acknowledged into it in this cycle: the
first one when it opens the entry, a further one when it is merged. -/
def logD (state : State cfg) (input : Input cfg) (history : History cfg)
    (i : cfg.DirPtr) : List (Ranked cfg) :=
  if allocAt state input i then
    [(writeOf input, history.acked.length)]
  else if writeHitAt state input i then
    history.log i ++ [(writeOf input, history.acked.length)]
  else
    history.log i

/-- The memory request as presented on the ports for a granted entry. -/
def memReqOf (sendMeta : SendMeta cfg) : MemReq cfg where
  memReqAddr := sendMeta.metaTag * (cfg.reqBytes * cfg.wbufWords)
  memReqId := sendMeta.metaId
  memReqCacheable := !sendMeta.metaUc

/-- The entry that leaves in this cycle. -/
def grantedNow (state : State cfg) (input : Input cfg) (history : History cfg) :
    List (Granted cfg) :=
  if sends state input then
    [{ sendMeta := wbufMetaSend state
       sendData := sendDataD state
       log := logD state input history (wbufSendPtr state) }]
  else
    []

def record (state : State cfg) (input : Input cfg) (history : History cfg) :
    History cfg where
  acked := history.acked ++ (if acks state input then [writeOf input] else [])
  log := fun i => if sendAt state input i then [] else logD state input history i
  granted := history.granted ++ grantedNow state input history
  reqs := history.reqs ++
    (if input.memReqWriteReady && memReqWriteValid state input then
      [memReqWrite state] else [])
  datas := history.datas ++
    (if input.memReqWriteDataReady && memReqWriteDataValid state input then
      [memReqWriteData state] else [])

/-- The write buffer together with the history of its run. -/
def historyMachine (cfg : Cfg) : Machine (State cfg × History cfg) (Input cfg) :=
  (machine cfg).withHistory History.initial record

/-! ## The entry an acknowledged write goes to -/

section Target

variable {state : State cfg} {input : Input cfg}

theorem writeHitBv_unique {dirState : DirState} (tags : LiveTagsUnique state)
    (isLive : dirState = .wbufOpen ∨ dirState = .wbufPend) :
    (wbufWriteHitBv state input dirState).AtMostOne := by
  intro i j first second
  simp only [wbufWriteHitBv, decide_eq_true_eq] at first second
  have live : ∀ k, state.wbufDirStateQ k = dirState → Live state k := by
    intro k equal
    rcases isLive with rfl | rfl
    · exact Or.inl equal
    · exact Or.inr equal
  exact tags i j (live i first.2) (live j second.2) (first.1.trans second.1.symm)

theorem live_of_writeHitAt {i : cfg.DirPtr} (hit : writeHitAt state input i = true) :
    Live state i := by
  simp only [writeHitAt, writeHitOpenAt, writeHitPendAt, Bool.or_eq_true,
    Bool.and_eq_true, decide_eq_true_eq] at hit
  rcases hit with isOpen | isPend
  · exact Or.inl isOpen.1
  · exact Or.inr isPend.1

theorem writeHitAt_iff (tags : LiveTagsUnique state) (i : cfg.DirPtr) :
    writeHitAt state input i = true ↔
      Live state i ∧ (state.wbufDirQ i).tag = writeTag input ∧ input.write = true ∧
        input.cfgInhibitWriteCoalescing = false := by
  simp only [writeHitAt, writeHitOpenAt, writeHitPendAt, Bool.or_eq_true,
    Bool.and_eq_true, decide_eq_true_eq, Bool.not_eq_true', Live]
  simp only [wbufWriteHitOpen, wbufWriteHitPend, wbufWriteHitOpenDirPtr,
    wbufWriteHitPendDirPtr, Bits.any_eq_true_iff]
  constructor
  · rintro (⟨isOpen, ⟨⟨write, j, hit⟩, equal⟩, coalesce⟩ |
      ⟨isPend, ⟨⟨write, j, hit⟩, equal⟩, coalesce⟩)
    · have found := Bits.lastIndex_hit hit
      rw [← equal] at found
      simp only [wbufWriteHitBv, decide_eq_true_eq] at found
      exact ⟨Or.inl isOpen, found.1, write, coalesce⟩
    · have found := Bits.lastIndex_hit hit
      rw [← equal] at found
      simp only [wbufWriteHitBv, decide_eq_true_eq] at found
      exact ⟨Or.inr isPend, found.1, write, coalesce⟩
  · rintro ⟨isOpen | isPend, tag, write, coalesce⟩
    · have hit : wbufWriteHitBv state input .wbufOpen i = true := by
        simp [wbufWriteHitBv, tag, isOpen]
      have unique : (wbufWriteHitBv state input .wbufOpen).AtMostOne :=
        writeHitBv_unique tags (Or.inl rfl)
      exact Or.inl ⟨isOpen, ⟨⟨write, i, hit⟩, (Bits.lastIndex_eq unique hit).symm⟩,
        coalesce⟩
    · have hit : wbufWriteHitBv state input .wbufPend i = true := by
        simp [wbufWriteHitBv, tag, isPend]
      have unique : (wbufWriteHitBv state input .wbufPend).AtMostOne :=
        writeHitBv_unique tags (Or.inr rfl)
      exact Or.inr ⟨isPend, ⟨⟨write, i, hit⟩, (Bits.lastIndex_eq unique hit).symm⟩,
        coalesce⟩

/-- The entry a write goes to: one that it opens, or the live one of its tag. -/
theorem dataWriteAt_cases (wellFormed : WellFormed state)
    (acked : acks state input = true) :
    ∃ i, dataWriteAt state input = Bits.single i ∧
      (allocAt state input i = true ∨
        (Live state i ∧ (state.wbufDirQ i).tag = writeTag input ∧
          allocAt state input = Bits.zero)) := by
  simp only [acks, Bool.and_eq_true] at acked
  rcases acked with ⟨write, ready⟩
  cases free : wbufWriteFree state input with
  | true =>
      rcases allocAt_single wellFormed.arbiters write free with ⟨i, single, isFree⟩
      refine ⟨i, ?_, Or.inl (by rw [single, Bits.single_self])⟩
      funext j
      have noHit : writeHitAt state input j = false := by
        rw [Bool.eq_false_iff, Ne, writeHitAt_iff wellFormed.tags]
        rintro ⟨live, tag, _⟩
        exact tag_ne_of_writeFree free live tag
      rw [dataWriteAt, single, noHit, Bool.or_false]
  | false =>
      have noAlloc : allocAt state input = Bits.zero := by
        funext j
        rw [Bits.zero_apply, Bool.eq_false_iff]
        intro alloc
        rw [(allocAt_implies alloc).2.2] at free
        contradiction
      simp only [writeReady, free, Bool.false_or, Bool.and_eq_true, Bool.or_eq_true,
        Bool.not_eq_true', wbufWriteHitOpen, wbufWriteHitPend, Bits.any_eq_true_iff,
        wbufWriteHitBv, decide_eq_true_eq] at ready
      have target : ∃ i, Live state i ∧ (state.wbufDirQ i).tag = writeTag input := by
        rcases ready.1 with ⟨i, tag, isOpen⟩ | ⟨i, tag, isPend⟩
        · exact ⟨i, Or.inl isOpen, tag⟩
        · exact ⟨i, Or.inr isPend, tag⟩
      rcases target with ⟨i, live, tag⟩
      refine ⟨i, ?_, Or.inr ⟨live, tag, noAlloc⟩⟩
      funext j
      rw [dataWriteAt, noAlloc, Bits.zero_apply, Bool.false_or, Bool.eq_iff_iff,
        writeHitAt_iff wellFormed.tags, Bits.single_eq_true_iff]
      constructor
      · rintro ⟨liveJ, tagJ, _⟩
        exact wellFormed.tags j i liveJ live (tagJ.trans tag.symm)
      · rintro rfl
        exact ⟨live, tag, write, ready.2⟩

theorem dataWriteAt_eq_zero (wellFormed : WellFormed state)
    (refused : acks state input = false) : dataWriteAt state input = Bits.zero := by
  funext i
  rw [Bits.zero_apply, Bool.eq_false_iff]
  intro written
  rw [Bool.eq_false_iff] at refused
  apply refused
  simp only [dataWriteAt, Bool.or_eq_true, writeHitAt_iff wellFormed.tags] at written
  simp only [acks, writeReady, Bool.and_eq_true, Bool.or_eq_true, Bool.not_eq_true',
    wbufWriteHitOpen, wbufWriteHitPend, Bits.any_eq_true_iff, wbufWriteHitBv,
    decide_eq_true_eq]
  rcases written with alloc | ⟨isOpen | isPend, tag, write, coalesce⟩
  · exact ⟨(allocAt_implies alloc).2.1, Or.inl (allocAt_implies alloc).2.2⟩
  · exact ⟨write, Or.inr ⟨Or.inl ⟨i, tag, isOpen⟩, coalesce⟩⟩
  · exact ⟨write, Or.inr ⟨Or.inr ⟨i, tag, isPend⟩, coalesce⟩⟩

end Target

/-! ## The data buffers after the edge -/

section Registers

variable {state : State cfg} {input : Input cfg}

theorem wbufDataWPtr_single {i : cfg.DirPtr}
    (single : dataWriteAt state input = Bits.single i) :
    wbufDataWPtr state input = dataPtrAt state input i := by
  rw [wbufDataWPtr, single, Bits.lastIndex_single]

/-- Only the buffer of the written entry changes. -/
theorem wbufDataD_of_ne {i : cfg.DirPtr} {p : cfg.DataPtr}
    (single : dataWriteAt state input = Bits.single i)
    (other : p ≠ dataPtrAt state input i) :
    wbufDataD state input p = state.wbufDataQ p := by
  simp only [wbufDataD, wbufDataWPtr_single single]
  split_ifs
  · exact Function.update_of_ne other _ _
  · exact Function.update_of_ne other _ _
  · rfl

theorem wbufDataD_of_zero (zero : dataWriteAt state input = Bits.zero) :
    wbufDataD state input = state.wbufDataQ := by
  simp [wbufDataD, wbufDataW, zero]

/-- The buffer of an entry being opened holds exactly the write. -/
theorem entryByte_alloc {i : cfg.DirPtr} (single : dataWriteAt state input = Bits.single i)
    (alloc : allocAt state input i = true) (address : Nat) :
    entryByte (wbufDataD state input (wbufDataFreePtr state)) (writeTag input) address =
      (writeOf input).byteAt address := by
  have written : wbufDataW state input = true := by
    simp [wbufDataW, single]
  have initialised : wbufDataWInit state input = true :=
    (Bits.any_eq_true_iff _).mpr ⟨i, alloc⟩
  have pointer : wbufDataWPtr state input = wbufDataFreePtr state := by
    rw [wbufDataWPtr_single single, dataPtrAt, if_pos alloc]
  simp only [wbufDataD, written, initialised, pointer, if_true, Function.update_self]
  rw [entryByte_wbufDataWrite, entryByte_of_disabled, Option.or_none]

/-- The buffer of an entry being written holds the write over what it held. -/
theorem entryByte_hit {i : cfg.DirPtr} (single : dataWriteAt state input = Bits.single i)
    (tag : (state.wbufDirQ i).tag = writeTag input)
    (noAlloc : allocAt state input = Bits.zero) (address : Nat) :
    entryByte (wbufDataD state input (state.wbufDirQ i).ptr) (state.wbufDirQ i).tag
        address =
      ((writeOf input).byteAt address).or
        (entryByte (state.wbufDataQ (state.wbufDirQ i).ptr) (state.wbufDirQ i).tag
          address) := by
  have written : wbufDataW state input = true := by
    simp [wbufDataW, single]
  have kept : wbufDataWInit state input = false := by
    simp [wbufDataWInit, noAlloc]
  have pointer : wbufDataWPtr state input = (state.wbufDirQ i).ptr := by
    simp [wbufDataWPtr_single single, dataPtrAt, noAlloc]
  simp only [wbufDataD, written, kept, pointer, if_true, Bool.false_eq_true, if_false,
    Function.update_self]
  rw [tag]
  exact entryByte_wbufDataWrite input _ _ address

end Registers

/-! ## The run invariant -/

/-- A data beat stores exactly the merge of the writes of a granted entry. -/
def Carries (memReqW : MemReqW cfg) (granted : Granted cfg) : Prop :=
  ∀ address, requestByte (memReqOf granted.sendMeta).memReqAddr memReqW address =
    mergeByte (writesOf granted.log) address

/-- The buffer of a granted entry still holds the merge of its writes. -/
def Holds (state : State cfg) (granted : Granted cfg) : Prop :=
  granted.sendData.dataTag = granted.sendMeta.metaTag ∧
    ∀ address, entryByte (state.wbufDataQ granted.sendData.dataPtr)
        granted.sendData.dataTag address =
      mergeByte (writesOf granted.log) address

/-- The invariant of the write buffer and its history. -/
structure Conserved (state : State cfg) (history : History cfg) : Prop where
  wellFormed : WellFormed state
  bytes : ∀ i, Live state i → ∀ address,
    entryByte (state.wbufDataQ (state.wbufDirQ i).ptr) (state.wbufDirQ i).tag address =
      mergeByte (writesOf (history.log i)) address
  idle : ∀ i, ¬Live state i → history.log i = []
  dataChannel : ∃ sent queued, history.granted = sent ++ queued ∧
    state.sendDataFifo.contents = queued.map Granted.sendData ∧
      List.Forall₂ Carries history.datas sent ∧ ∀ granted ∈ queued, Holds state granted
  metaChannel : history.granted.map (fun granted => memReqOf granted.sendMeta) =
    history.reqs ++ state.sendMetaFifo.contents.map memReqOf
  ranks : (history.granted.map fun granted => (granted.log : Multiset (Ranked cfg))).sum +
      ∑ i, (history.log i : Multiset (Ranked cfg)) =
    (history.acked.zipIdx : Multiset (Ranked cfg))
  liveOrder : ∀ i, (history.log i).Sublist history.acked.zipIdx
  grantedOrder : ∀ granted ∈ history.granted, granted.log.Sublist history.acked.zipIdx

section Step

variable {state : State cfg} {history : History cfg} (input : Input cfg)
  (held : Conserved state history)

include held

/-- The log of the written entry grows by the write, the others are kept. -/
theorem logD_eq (i : cfg.DirPtr) :
    logD state input history i =
      history.log i ++
        (if dataWriteAt state input i then
          [(writeOf input, history.acked.length)] else []) := by
  cases alloc : allocAt state input i with
  | true =>
      have notLive : ¬Live state i := by
        simp [Live, (allocAt_implies alloc).1]
      have noLog : history.log i = [] := held.idle i notLive
      simp [logD, dataWriteAt, alloc, noLog]
  | false =>
      cases hit : writeHitAt state input i <;> simp [logD, dataWriteAt, alloc, hit]

theorem writesOf_logD (i : cfg.DirPtr) :
    writesOf (logD state input history i) =
      writesOf (history.log i) ++
        (if dataWriteAt state input i then [writeOf input] else []) := by
  rw [logD_eq input held, writesOf, writesOf, List.map_append]
  split_ifs <;> rfl

theorem bytes_logD {i : cfg.DirPtr} (live : Live state i) (address : Nat) :
    entryByte (wbufDataD state input (state.wbufDirQ i).ptr) (state.wbufDirQ i).tag
        address =
      mergeByte (writesOf (logD state input history i)) address := by
  have before := held.bytes i live address
  have wellFormed := held.wellFormed
  rw [writesOf_logD input held]
  cases acked : acks state input with
  | false =>
      have zero := dataWriteAt_eq_zero wellFormed acked
      rw [wbufDataD_of_zero zero, zero]
      simpa using before
  | true =>
      rcases dataWriteAt_cases wellFormed acked with ⟨k, single, target⟩
      by_cases same : i = k
      · subst same
        rcases target with alloc | ⟨_, tag, noAlloc⟩
        · have isFree := (allocAt_implies alloc).1
          simp [Live, isFree] at live
        · rw [entryByte_hit single tag noAlloc, single, Bits.single_self, if_pos rfl,
            mergeByte_concat]
          exact congrArg _ before
      · have untouched : dataWriteAt state input i = false := by
          rw [single, Bool.eq_false_iff, Ne, Bits.single_eq_true_iff]
          exact same
        have other : (state.wbufDirQ i).ptr ≠ dataPtrAt state input k := by
          rcases target with alloc | ⟨liveK, _, noAlloc⟩
          · rw [dataPtrAt, if_pos alloc]
            intro equal
            have invalid := wbufDataFreePtr_invalid wellFormed.arbiters
              (allocAt_implies alloc).2.2
            rw [← equal, wellFormed.buffers.liveValid i live] at invalid
            contradiction
          · rw [dataPtrAt, noAlloc, Bits.zero_apply]
            intro equal
            exact same (wellFormed.buffers.liveInjective i k live liveK equal)
        rw [wbufDataD_of_ne single other, untouched]
        simpa using before

/-- The buffer of an entry being opened agrees with its new log. -/
theorem bytes_alloc {i : cfg.DirPtr} (alloc : allocAt state input i = true)
    (address : Nat) :
    entryByte (wbufDataD state input (wbufDataFreePtr state)) (writeTag input) address =
      mergeByte (writesOf (logD state input history i)) address := by
  rcases allocAt_implies alloc with ⟨isFree, write, free⟩
  have acked : acks state input = true := by
    simp [acks, writeReady, write, free]
  rcases dataWriteAt_cases held.wellFormed acked with ⟨k, single, _⟩
  have same : i = k := by
    rw [← Bits.single_eq_true_iff, ← single, dataWriteAt, alloc, Bool.true_or]
  subst same
  rw [entryByte_alloc single alloc, logD, if_pos alloc]
  exact (mergeByte_concat [] (writeOf input) address).symm ▸ by simp [mergeByte_nil]

theorem wbufDataD_queued {p : cfg.DataPtr} (queued : p ∈ queuedPtrs state) :
    wbufDataD state input p = state.wbufDataQ p := by
  have wellFormed := held.wellFormed
  cases acked : acks state input with
  | false => rw [wbufDataD_of_zero (dataWriteAt_eq_zero wellFormed acked)]
  | true =>
      rcases dataWriteAt_cases wellFormed acked with ⟨k, single, target⟩
      refine wbufDataD_of_ne single ?_
      rcases target with alloc | ⟨live, _, noAlloc⟩
      · rw [dataPtrAt, if_pos alloc]
        rintro rfl
        have invalid := wbufDataFreePtr_invalid wellFormed.arbiters
          (allocAt_implies alloc).2.2
        rw [wellFormed.buffers.queuedValid _ queued] at invalid
        contradiction
      · rw [dataPtrAt, noAlloc, Bits.zero_apply]
        rintro rfl
        exact wellFormed.buffers.liveNotQueued k live queued

/-! ### One cycle -/

theorem bytes_step (i : cfg.DirPtr) (live : Live (step state input) i) (address : Nat) :
    entryByte ((step state input).wbufDataQ ((step state input).wbufDirQ i).ptr)
        ((step state input).wbufDirQ i).tag address =
      mergeByte (writesOf ((record state input history).log i)) address := by
  rcases live_step state input i live with
    ⟨before, stays, tag, ptr⟩ | ⟨alloc, tag, ptr⟩
  · have log : (record state input history).log i = logD state input history i := by
      simp [record, stays]
    rw [log, tag, ptr]
    exact bytes_logD input held before address
  · have stays : sendAt state input i = false := by
      rw [sendAt, (allocAt_implies alloc).1]
      rfl
    have log : (record state input history).log i = logD state input history i := by
      simp [record, stays]
    rw [log, tag, ptr]
    exact bytes_alloc input held alloc address

theorem idle_step (i : cfg.DirPtr) (dead : ¬Live (step state input) i) :
    (record state input history).log i = [] := by
  cases sent : sendAt state input i with
  | true => simp [record, sent]
  | false =>
      have notLive : ¬Live state i := fun live =>
        dead (live_step_of_live state input live sent)
      have noAlloc : allocAt state input i = false := by
        rw [Bool.eq_false_iff]
        exact fun alloc => dead (live_step_of_alloc state input alloc)
      have noHit : writeHitAt state input i = false := by
        rw [Bool.eq_false_iff]
        exact fun hit => notLive (live_of_writeHitAt hit)
      simp [record, sent, logD, noAlloc, noHit, held.idle i notLive]

theorem metaChannel_step :
    (record state input history).granted.map (fun granted => memReqOf granted.sendMeta) =
      (record state input history).reqs ++
        (step state input).sendMetaFifo.contents.map memReqOf := by
  have conserved := congrArg (List.map memReqOf) (sendMetaFifo_conserved state input)
  rw [List.map_append, List.map_append] at conserved
  have joins : (grantedNow state input history).map
      (fun granted => memReqOf granted.sendMeta) =
        (if sends state input then [wbufMetaSend state] else []).map memReqOf := by
    unfold grantedNow
    split_ifs <;> rfl
  have accepts : (if (input.memReqWriteReady && memReqWriteValid state input) = true then
      [memReqWrite state] else []) = (memAccepted state input).map memReqOf := by
    unfold memAccepted
    split_ifs <;> rfl
  simp only [record, List.map_append, joins, accepts]
  rw [held.metaChannel, List.append_assoc, conserved, List.append_assoc]

/-- Granted entries that remain queued keep their buffers. -/
theorem holds_step {granted : Granted cfg} (holds : Holds state granted)
    (queued : granted.sendData.dataPtr ∈ queuedPtrs state) :
    Holds (step state input) granted := by
  refine ⟨holds.1, ?_⟩
  intro address
  change entryByte (wbufDataD state input granted.sendData.dataPtr) _ address = _
  rw [wbufDataD_queued input held queued]
  exact holds.2 address

/-- The entry that leaves takes its merged buffer to the queue. -/
theorem holds_grantedNow : ∀ granted ∈ grantedNow state input history,
    Holds (step state input) granted := by
  intro granted member
  cases sent : sends state input with
  | false => simp [grantedNow, sent] at member
  | true =>
      rw [grantedNow, sent, if_pos rfl, List.mem_singleton] at member
      subst member
      exact ⟨rfl, bytes_logD input held (live_sendPtr held.wellFormed sent)⟩

theorem dataChannel_step :
    ∃ sent queued, (record state input history).granted = sent ++ queued ∧
      (step state input).sendDataFifo.contents = queued.map Granted.sendData ∧
        List.Forall₂ Carries (record state input history).datas sent ∧
          ∀ granted ∈ queued, Holds (step state input) granted := by
  rcases held.dataChannel with ⟨sent, queued, split, contents, carries, holds⟩
  have conserved := sendDataFifo_conserved state input
  have joins : (if sends state input then [sendDataD state] else []) =
      (grantedNow state input history).map Granted.sendData := by
    unfold grantedNow
    split_ifs <;> rfl
  rw [joins, contents, ← List.map_append] at conserved
  have after : ∀ granted ∈ queued ++ grantedNow state input history,
      Holds (step state input) granted := by
    intro granted member
    rcases List.mem_append.mp member with old | new
    · refine holds_step input held (holds granted old) ?_
      rw [queuedPtrs, contents, List.map_map]
      exact List.mem_map_of_mem old
    · exact holds_grantedNow input held granted new
  have grown : (record state input history).granted =
      sent ++ (queued ++ grantedNow state input history) := by
    simp only [record, split, List.append_assoc]
  by_cases taken : (input.memReqWriteDataReady && memReqWriteDataValid state input) = true
  · rw [if_pos taken] at conserved
    cases queued with
    | nil =>
        -- A beat is valid only while something is queued.
        have isEmpty : state.sendDataFifo.empty = true := by
          simp [FifoReg.empty_eq_decide, contents]
        simp [memReqWriteDataValid, FifoRegs.rok, isEmpty] at taken
    | cons first rest =>
        rw [List.cons_append, List.map_cons, List.singleton_append,
          List.cons.injEq] at conserved
        refine ⟨sent ++ [first], rest ++ grantedNow state input history, ?_,
          conserved.2.symm, ?_, ?_⟩
        · rw [grown, List.append_assoc, List.singleton_append, List.cons_append]
        · simp only [record, taken, if_true]
          refine List.rel_append carries (List.Forall₂.cons ?_ List.Forall₂.nil)
          intro address
          have firstHolds := holds first List.mem_cons_self
          have head : (memReqOf first.sendMeta).memReqAddr =
              (sendDataQ state).dataTag * (cfg.reqBytes * cfg.wbufWords) := by
            rw [← conserved.1, firstHolds.1]
            rfl
          rw [head, requestByte_memReqWriteData, ← conserved.1]
          exact firstHolds.2 address
        · intro granted member
          exact after granted (List.mem_cons_of_mem first member)
  · rw [if_neg taken, List.nil_append] at conserved
    refine ⟨sent, queued ++ grantedNow state input history, grown, conserved.symm, ?_,
      after⟩
    simp only [record, taken, Bool.false_eq_true, if_false, List.append_nil]
    exact carries

omit held in
theorem acked_zipIdx_step :
    (record state input history).acked.zipIdx =
      history.acked.zipIdx ++
        (if acks state input then [(writeOf input, history.acked.length)] else []) := by
  simp only [record, List.zipIdx_append]
  split_ifs <;> simp

theorem sum_logD :
    ∑ i, (logD state input history i : Multiset (Ranked cfg)) =
      ∑ i, (history.log i : Multiset (Ranked cfg)) +
        ((if acks state input then [(writeOf input, history.acked.length)] else [] :
          List (Ranked cfg)) : Multiset (Ranked cfg)) := by
  have grown : ∀ i, (logD state input history i : Multiset (Ranked cfg)) =
      (history.log i : Multiset (Ranked cfg)) +
        (if dataWriteAt state input i then
          {(writeOf input, history.acked.length)} else 0) := by
    intro i
    rw [logD_eq input held, ← Multiset.coe_add]
    split_ifs <;> rfl
  rw [Finset.sum_congr rfl fun i _ => grown i, Finset.sum_add_distrib]
  congr 1
  cases acked : acks state input with
  | false => simp [dataWriteAt_eq_zero held.wellFormed acked]
  | true =>
      rcases dataWriteAt_cases held.wellFormed acked with ⟨k, single, _⟩
      simp [single]

theorem sum_log_step :
    ((grantedNow state input history).map
          fun granted => (granted.log : Multiset (Ranked cfg))).sum +
        ∑ i, ((record state input history).log i : Multiset (Ranked cfg)) =
      ∑ i, (logD state input history i : Multiset (Ranked cfg)) := by
  cases sent : sends state input with
  | false =>
      have stays := sendAt_eq_false sent
      simp [grantedNow, sent, record, stays]
  | true =>
      have single := (sendAt_single held.wellFormed.arbiters sent).1
      have splits : ∀ i, (logD state input history i : Multiset (Ranked cfg)) =
          (if i = wbufSendPtr state then
              (logD state input history (wbufSendPtr state) : Multiset (Ranked cfg))
            else 0) +
            ((record state input history).log i : Multiset (Ranked cfg)) := by
        intro i
        by_cases same : i = wbufSendPtr state
        · simp [record, single, same]
        · simp [record, single, same]
      rw [Finset.sum_congr rfl fun i _ => splits i, Finset.sum_add_distrib,
        Finset.sum_ite_eq' Finset.univ (wbufSendPtr state)]
      simp [grantedNow, sent]

theorem ranks_step :
    ((record state input history).granted.map
          fun granted => (granted.log : Multiset (Ranked cfg))).sum +
        ∑ i, ((record state input history).log i : Multiset (Ranked cfg)) =
      ((record state input history).acked.zipIdx : Multiset (Ranked cfg)) := by
  have grown : (record state input history).granted =
      history.granted ++ grantedNow state input history := rfl
  rw [grown, List.map_append, List.sum_append, add_assoc, sum_log_step input held,
    sum_logD input held, ← add_assoc, held.ranks, acked_zipIdx_step input,
    Multiset.coe_add]

theorem order_logD (i : cfg.DirPtr) :
    (logD state input history i).Sublist (record state input history).acked.zipIdx := by
  rw [logD_eq input held, acked_zipIdx_step input]
  refine (held.liveOrder i).append ?_
  cases acked : acks state input with
  | false => simp [dataWriteAt_eq_zero held.wellFormed acked]
  | true =>
      rw [if_pos rfl]
      split_ifs
      · exact List.Sublist.refl _
      · exact List.nil_sublist _

theorem conserved_step : Conserved (step state input) (record state input history) where
  wellFormed := wellFormed_step held.wellFormed
  bytes := bytes_step input held
  idle := idle_step input held
  dataChannel := dataChannel_step input held
  metaChannel := metaChannel_step input held
  ranks := ranks_step input held
  liveOrder := by
    intro i
    cases sent : sendAt state input i with
    | true =>
        have gone : (record state input history).log i = [] := by simp [record, sent]
        rw [gone]
        exact List.nil_sublist _
    | false =>
        have log : (record state input history).log i = logD state input history i := by
          simp [record, sent]
        rw [log]
        exact order_logD input held i
  grantedOrder := by
    intro granted member
    rcases List.mem_append.mp member with old | new
    · rw [acked_zipIdx_step input]
      exact (held.grantedOrder granted old).trans (List.sublist_append_left _ _)
    · unfold grantedNow at new
      split_ifs at new
      · rw [List.mem_singleton] at new
        subst new
        exact order_logD input held _
      · simp at new

end Step

theorem conserved_reset : Conserved (reset cfg) History.initial where
  wellFormed := wellFormed_reset
  bytes := fun i live => absurd live (not_live_reset i)
  idle := fun _ _ => rfl
  dataChannel := ⟨[], [], rfl, by simp [reset], List.Forall₂.nil, by simp⟩
  metaChannel := by simp [History.initial, reset]
  ranks := by simp [History.initial]
  liveOrder := fun _ => List.nil_sublist _
  grantedOrder := by simp [History.initial]

theorem conserved_run (inputs : List (Input cfg)) :
    Conserved ((historyMachine cfg).run inputs).1 ((historyMachine cfg).run inputs).2 :=
  (historyMachine cfg).run_invariant (fun run => Conserved run.1 run.2) conserved_reset
    (fun _ input held => conserved_step input held) inputs

end Cva6Hpd.Hpdcache.Wbuf
