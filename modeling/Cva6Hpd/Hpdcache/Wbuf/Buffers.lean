import Cva6Hpd.Hpdcache.Wbuf.Invariant

/-!
# Data buffers of the write buffer

A data buffer is held by one live entry, or by one granted entry whose data is
still in the data FIFO. The buffers held are pairwise different and marked
valid, so the buffer a write changes is held by no other entry.
-/

namespace Cva6Hpd.Hpdcache.Wbuf

open Cva6Hpd.Hw
open Cva6Hpd.Common

variable {cfg : Cfg}

/-- The buffers of the granted entries whose data is not sent yet. -/
def queuedPtrs (state : State cfg) : List cfg.DataPtr :=
  state.sendDataFifo.contents.map SendData.dataPtr

/-- The buffers in use are valid and pairwise different. -/
structure BuffersDisjoint (state : State cfg) : Prop where
  liveValid : ∀ i, Live state i →
    state.wbufDataValidQ (state.wbufDirQ i).ptr = true
  liveInjective : ∀ i j, Live state i → Live state j →
    (state.wbufDirQ i).ptr = (state.wbufDirQ j).ptr → i = j
  queuedValid : ∀ p ∈ queuedPtrs state, state.wbufDataValidQ p = true
  queuedNodup : (queuedPtrs state).Nodup
  liveNotQueued : ∀ i, Live state i → (state.wbufDirQ i).ptr ∉ queuedPtrs state

/-- What holds of the registers in every reachable state, whatever the inputs. -/
structure WellFormed (state : State cfg) : Prop where
  arbiters : ArbitersHold state
  tags : LiveTagsUnique state
  buffers : BuffersDisjoint state

/-! ## The data FIFO -/

theorem sendDataFifo_conserved (state : State cfg) (input : Input cfg) :
    state.sendDataFifo.contents ++
        (if sends state input then [sendDataD state] else []) =
      (if input.memReqWriteDataReady && memReqWriteDataValid state input then
          [sendDataQ state] else []) ++
        (step state input).sendDataFifo.contents := by
  have conserved := state.sendDataFifo.contents_conserved false
    (sendDataW state input) (sendDataD state) input.memReqWriteDataReady
  have handshake : (sendDataW state input &&
      state.sendDataFifo.wok false input.memReqWriteDataReady) = sends state input := by
    simp only [sendDataW, sends, sendDataReady, Bool.and_assoc, Bool.and_comm]
  rw [handshake] at conserved
  exact conserved

/-- The buffers queued before the edge, with that of the entry that leaves. -/
def queuedPtrsAll (state : State cfg) (input : Input cfg) : List cfg.DataPtr :=
  (state.sendDataFifo.contents ++
    (if sends state input then [sendDataD state] else [])).map SendData.dataPtr

theorem mem_queuedPtrsAll {state : State cfg} {input : Input cfg} {p : cfg.DataPtr}
    (member : p ∈ queuedPtrsAll state input) :
    p ∈ queuedPtrs state ∨
      (sends state input = true ∧ p = (state.wbufDirQ (wbufSendPtr state)).ptr) := by
  rw [queuedPtrsAll, List.map_append, List.mem_append] at member
  rcases member with old | new
  · exact Or.inl old
  · cases sent : sends state input with
    | true =>
        rw [sent, if_pos rfl, List.map_singleton, List.mem_singleton] at new
        exact Or.inr ⟨rfl, new⟩
    | false => simp [sent] at new

theorem queuedPtrs_step_sublist (state : State cfg) (input : Input cfg) :
    (queuedPtrs (step state input)).Sublist (queuedPtrsAll state input) := by
  rw [queuedPtrsAll, sendDataFifo_conserved, List.map_append]
  exact List.sublist_append_right _ _

section Step

variable {state : State cfg} {input : Input cfg} (wellFormed : WellFormed state)

include wellFormed

theorem live_sendPtr (sent : sends state input = true) : Live state (wbufSendPtr state) :=
  Or.inr (sendAt_single wellFormed.arbiters sent).2

theorem queuedPtrsAll_valid : ∀ p ∈ queuedPtrsAll state input,
    state.wbufDataValidQ p = true := by
  intro p member
  rcases mem_queuedPtrsAll member with old | ⟨sent, rfl⟩
  · exact wellFormed.buffers.queuedValid p old
  · exact wellFormed.buffers.liveValid _ (live_sendPtr wellFormed sent)

theorem queuedPtrsAll_nodup : (queuedPtrsAll state input).Nodup := by
  rw [queuedPtrsAll, List.map_append, List.nodup_append]
  refine ⟨wellFormed.buffers.queuedNodup, ?_, ?_⟩
  · split_ifs <;> simp
  · intro p old q new equal
    subst equal
    cases sent : sends state input with
    | true =>
        rw [sent, if_pos rfl, List.map_singleton, List.mem_singleton] at new
        subst new
        exact wellFormed.buffers.liveNotQueued _ (live_sendPtr wellFormed sent) old
    | false => simp [sent] at new

theorem stays_not_queued {i : cfg.DirPtr} (live : Live state i)
    (stays : sendAt state input i = false) :
    (state.wbufDirQ i).ptr ∉ queuedPtrsAll state input := by
  intro member
  rcases mem_queuedPtrsAll member with old | ⟨sent, equal⟩
  · exact wellFormed.buffers.liveNotQueued i live old
  · have same := wellFormed.buffers.liveInjective i _ live
      (live_sendPtr wellFormed sent) equal
    have single := (sendAt_single wellFormed.arbiters sent).1
    rw [single, ← same, Bits.single_self] at stays
    contradiction

omit wellFormed in
/-- A buffer that stays in use keeps its valid bit: only the buffer sent in
this cycle is released. -/
theorem valid_step {p : cfg.DataPtr} (valid : state.wbufDataValidQ p = true)
    (kept : (input.memReqWriteDataReady && memReqWriteDataValid state input) = true →
      p ≠ (sendDataQ state).dataPtr) :
    (step state input).wbufDataValidQ p = true := by
  simp only [step, wbufDataValidD]
  have allocated : (if (input.write && wbufWriteFree state input) = true then
      Function.update state.wbufDataValidQ (wbufDataFreePtr state) true
        else state.wbufDataValidQ) p = true := by
    split_ifs
    · by_cases same : p = wbufDataFreePtr state
      · rw [same, Function.update_self]
      · rw [Function.update_of_ne same, valid]
    · exact valid
  by_cases released : (memReqWriteDataValid state input && input.memReqWriteDataReady) = true
  · rw [if_pos released, Function.update_of_ne (kept (by rwa [Bool.and_comm]))]
    exact allocated
  · rw [if_neg released]
    exact allocated

omit wellFormed in
theorem queuedPtrsAll_of_taken
    (taken : (input.memReqWriteDataReady && memReqWriteDataValid state input) = true) :
    queuedPtrsAll state input =
      (sendDataQ state).dataPtr :: queuedPtrs (step state input) := by
  rw [queuedPtrsAll, sendDataFifo_conserved, if_pos taken]
  rfl

theorem valid_freePtr_step {i : cfg.DirPtr} (alloc : allocAt state input i = true) :
    (step state input).wbufDataValidQ (wbufDataFreePtr state) = true := by
  rcases allocAt_implies alloc with ⟨_, write, free⟩
  have invalid := wbufDataFreePtr_invalid wellFormed.arbiters free
  have granted : (input.write && wbufWriteFree state input) = true := by
    simp [write, free]
  simp only [step, wbufDataValidD, granted, if_true]
  split_ifs with released
  · have other : wbufDataFreePtr state ≠ (sendDataQ state).dataPtr := by
      intro same
      rw [Bool.and_comm] at released
      have sentMember : (sendDataQ state).dataPtr ∈ queuedPtrsAll state input := by
        rw [queuedPtrsAll_of_taken released]
        exact List.mem_cons_self
      have sentValid := queuedPtrsAll_valid wellFormed _ sentMember
      rw [← same, invalid] at sentValid
      contradiction
    rw [Function.update_of_ne other, Function.update_self]
  · rw [Function.update_self]

theorem buffersDisjoint_step : BuffersDisjoint (step state input) := by
  have valid : ∀ p ∈ queuedPtrsAll state input, state.wbufDataValidQ p = true :=
    queuedPtrsAll_valid wellFormed
  have nodup : (queuedPtrsAll state input).Nodup := queuedPtrsAll_nodup wellFormed
  have sublist := queuedPtrs_step_sublist state input
  have released : ∀ p, p ∉ queuedPtrsAll state input →
      (input.memReqWriteDataReady && memReqWriteDataValid state input) = true →
        p ≠ (sendDataQ state).dataPtr := by
    intro p outside taken same
    rw [queuedPtrsAll_of_taken taken, ← same] at outside
    exact outside List.mem_cons_self
  have freeOutside : ∀ i, allocAt state input i = true →
      wbufDataFreePtr state ∉ queuedPtrsAll state input := by
    intro i alloc member
    have invalid := wbufDataFreePtr_invalid wellFormed.arbiters (allocAt_implies alloc).2.2
    rw [valid _ member] at invalid
    contradiction
  have freeNotLive : ∀ i j, allocAt state input i = true → Live state j →
      (state.wbufDirQ j).ptr ≠ wbufDataFreePtr state := by
    intro i j alloc live same
    have invalid := wbufDataFreePtr_invalid wellFormed.arbiters (allocAt_implies alloc).2.2
    rw [← same, wellFormed.buffers.liveValid j live] at invalid
    contradiction
  constructor
  case liveValid =>
    intro i live
    rcases live_step state input i live with ⟨before, stays, _, ptr⟩ | ⟨alloc, _, ptr⟩
    · rw [ptr]
      exact valid_step (wellFormed.buffers.liveValid i before)
        (released _ (stays_not_queued wellFormed before stays))
    · rw [ptr]
      exact valid_freePtr_step wellFormed alloc
  case liveInjective =>
    intro i j liveI liveJ equal
    rcases live_step state input i liveI with ⟨beforeI, _, _, ptrI⟩ | ⟨allocI, _, ptrI⟩
    · rcases live_step state input j liveJ with ⟨beforeJ, _, _, ptrJ⟩ | ⟨allocJ, _, ptrJ⟩
      · exact wellFormed.buffers.liveInjective i j beforeI beforeJ
          (ptrI.symm.trans (equal.trans ptrJ))
      · exact absurd (ptrI.symm.trans (equal.trans ptrJ)) (freeNotLive j i allocJ beforeI)
    · rcases live_step state input j liveJ with ⟨beforeJ, _, _, ptrJ⟩ | ⟨allocJ, _, ptrJ⟩
      · exact absurd (ptrJ.symm.trans (equal.symm.trans ptrI))
          (freeNotLive i j allocI beforeJ)
      · exact allocAt_unique wellFormed.arbiters i j allocI allocJ
  case queuedValid =>
    intro p member
    refine valid_step (valid p (sublist.subset member)) ?_
    intro taken same
    rw [queuedPtrsAll_of_taken taken, List.nodup_cons, ← same] at nodup
    exact nodup.1 member
  case queuedNodup => exact nodup.sublist sublist
  case liveNotQueued =>
    intro i live member
    have earlier := sublist.subset member
    rcases live_step state input i live with ⟨before, stays, _, ptr⟩ | ⟨alloc, _, ptr⟩
    · rw [ptr] at earlier
      exact stays_not_queued wellFormed before stays earlier
    · rw [ptr] at earlier
      exact freeOutside i alloc earlier

theorem wellFormed_step : WellFormed (step state input) where
  arbiters := arbitersHold_step input wellFormed.arbiters
  tags := liveTagsUnique_step input wellFormed.arbiters wellFormed.tags
  buffers := buffersDisjoint_step wellFormed

end Step

theorem not_live_reset (i : cfg.DirPtr) : ¬Live (reset cfg) i := by
  simp [Live, reset]

theorem wellFormed_reset : WellFormed (reset cfg) where
  arbiters := arbitersHold_reset
  tags := fun i _ live => absurd live (not_live_reset i)
  buffers :=
    { liveValid := fun i live => absurd live (not_live_reset i)
      liveInjective := fun i _ live => absurd live (not_live_reset i)
      queuedValid := by simp [queuedPtrs, reset]
      queuedNodup := by simp [queuedPtrs, reset]
      liveNotQueued := fun i live => absurd live (not_live_reset i) }

theorem wellFormed_run (inputs : List (Input cfg)) :
    WellFormed ((machine cfg).run inputs) :=
  (machine cfg).run_invariant WellFormed wellFormed_reset
    (fun _ _ wellFormed => wellFormed_step wellFormed) inputs

end Cva6Hpd.Hpdcache.Wbuf
