import Cva6Hpd.Hpdcache.Refill.Bursts

/-!
# The data of the bursts in flight

The memory answers each read with the beats of one line. The request words of
the pending bursts and of the burst being received form a stream; the resizer
holds this stream without the accesses of the oldest line that are already
written, so each access it presents is the next slice of that line.
-/

namespace Cva6Hpd.Hpdcache.Refill

open Cva6Hpd.Hw
open Cva6Hpd.Common

variable {cfg : Cfg} {widths : Widths cfg}

/-! ## The stream of request words -/

/-- The request words of a beat. -/
def Beat.words (beat : Beat widths) : List cfg.wbuf.Data := List.ofFn beat.data

/-- The request words received and not refilled yet. -/
def Ledger.stream (ledger : Ledger widths) : List cfg.wbuf.Data :=
  ledger.pending.flatMap Burst.line ++ ledger.arriving.flatMap Beat.words

/-- The request words of the oldest line that are already written. -/
def consumed (state : State widths) : Nat :=
  match state.miss.refillFsmQ with
  | .refillIdle => 0
  | .refillWrite => state.miss.refillCntQ / cfg.accessWords * widths.accessReqs
  | .refillWriteDir => widths.lineReqs
  | .refillInval => 0

@[simp]
theorem Beat.length_words (beat : Beat widths) : beat.words.length = widths.memReqs :=
  List.length_ofFn

theorem length_words (beats : List (Beat widths)) :
    (beats.flatMap Beat.words).length = beats.length * widths.memReqs := by
  simp [List.length_flatMap, List.map_const']

theorem Burst.line_eq (burst : Burst widths) :
    burst.line = burst.first.flatMap Beat.words ++ burst.last.words := by
  rw [Burst.line, Burst.beats, List.flatMap_append, List.flatMap_singleton]
  rfl

/-! ## The contract of the memory -/

/-- A response has as many beats as a line, the last one marked. -/
def WholeLines (state : State widths × Ledger widths) (input : Input widths) : Prop :=
  offersBeat input = true →
    (input.ports.memRespLast = true ↔ state.2.arriving.length + 1 = widths.lineBeats)

/-- The beats in flight are those of whole lines, and the resizer holds the
stream without what is already written. -/
structure Stored (state : State widths) (ledger : Ledger widths) : Prop where
  lines : ∀ burst ∈ ledger.pending, burst.beats.length = widths.lineBeats
  short : ledger.arriving.length < widths.lineBeats
  count : state.miss.refillFsmQ = .refillWrite →
    ∃ k, k < widths.lineAccesses ∧ state.miss.refillCntQ = k * cfg.accessWords
  single : state.miss.refillFsmQ = .refillWriteDir → widths.lineAccesses = 1
  data : state.dataResize.contents = ledger.stream.drop (consumed state)

section Steps

variable {state : State widths} {ledger : Ledger widths} (input : Input widths)

theorem Stored.length_line (stored : Stored state ledger) {burst : Burst widths}
    (member : burst ∈ ledger.pending) : burst.line.length = widths.lineReqs := by
  have beats := stored.lines burst member
  rw [Burst.line, ← widths.lineBeats_mul, ← beats]
  exact length_words burst.beats

/-- The last access of a line starts at `lastChunkWord`. -/
theorem lastChunkWord_eq (widths : Widths cfg) :
    MissHandler.lastChunkWord cfg = (widths.lineAccesses - 1) * cfg.accessWords := by
  rw [MissHandler.lastChunkWord, widths.clWords_eq_accesses, Nat.sub_mul, Nat.one_mul]

theorem lineAccesses_of_only (widths : Widths cfg) (only : MissHandler.lastChunkWord cfg = 0) :
    widths.lineAccesses = 1 := by
  have positive := widths.lineAccesses_pos
  have words := cfg.accessWords_pos
  rw [lastChunkWord_eq widths] at only
  rcases Nat.mul_eq_zero.mp only with none | none <;> omega

theorem Ledger.stream_of_cons {burst : Burst widths} {rest : List (Burst widths)}
    (waiting : ledger.pending = burst :: rest) :
    ledger.stream = burst.line ++
      ({ ledger with pending := rest } : Ledger widths).stream := by
  simp only [Ledger.stream, waiting, List.flatMap_cons, List.append_assoc]

theorem Stored.stream_record (stored : Stored state ledger)
    (waiting : endsRefill state input = true → ledger.pending ≠ []) :
    (ledger.record state input).stream =
      (if endsRefill state input then ledger.stream.drop widths.lineReqs else ledger.stream) ++
        (if takesBeat state input then (beat input).words else []) := by
  have base : (if endsRefill state input then ledger.pending.tail else ledger.pending).flatMap
        Burst.line ++ ledger.arriving.flatMap Beat.words =
      if endsRefill state input then ledger.stream.drop widths.lineReqs else ledger.stream := by
    cases ends : endsRefill state input with
    | false => rfl
    | true =>
        rcases List.exists_cons_of_ne_nil (waiting ends) with ⟨burst, rest, oldest⟩
        have member : burst ∈ ledger.pending := by simp [oldest]
        have long := stored.length_line member
        simp only [if_true]
        rw [Ledger.stream_of_cons oldest, List.drop_left' long, oldest, List.tail_cons]
        rfl
  rw [← base]
  simp only [Ledger.stream, Ledger.record]
  cases takes : takesBeat state input <;> cases last : input.ports.memRespLast <;>
    simp [Burst.line_eq, List.flatMap_append]

/-- What is read from the resizer is the part of the stream that becomes
written, or leaves with its line. -/
theorem Stored.consumed_step (tracked : Tracked state ledger) (stored : Stored state ledger) :
    consumed state + (if (out state input).refillFifoRespDataR then widths.accessReqs else 0) =
      (if endsRefill state input then widths.lineReqs else 0) + consumed (step state input) := by
  have fsmD : (step state input).miss.refillFsmQ = (out state input).refillFsmD := rfl
  have cntD : (step state input).miss.refillCntQ = (out state input).refillCntD := rfl
  have words := cfg.accessWords_pos
  have total := widths.lineAccesses_mul
  have turn := MissHandler.turn state.miss (missInput state input)
  change MissHandler.Turn _ _ (out state input) at turn
  cases turn with
  | wait fsm held next pops reads =>
      simp [consumed, fsm, fsmD, next, endsRefill, pops, reads]
  | startInval fsm filled inval next pops reads =>
      simp [consumed, fsm, fsmD, next, endsRefill, pops, reads]
  | startRefill fsm filled granted refill next cnt pops reads =>
      simp [consumed, fsm, fsmD, cntD, next, cnt, endsRefill, pops, reads]
  | chunk fsm more next cnt pops reads =>
      rcases stored.count fsm with ⟨k, _, at_k⟩
      have here : state.miss.refillCntQ / cfg.accessWords = k := by
        rw [at_k, Nat.mul_div_cancel _ words]
      have after : (state.miss.refillCntQ + cfg.accessWords) / cfg.accessWords = k + 1 := by
        rw [at_k, ← Nat.succ_mul, Nat.mul_div_cancel _ words]
      simp only [consumed, fsm, fsmD, cntD, next, cnt, endsRefill, pops, reads, here, after]
      simp [Nat.succ_mul]
  | onlyChunk fsm last only next pops reads =>
      have single := lineAccesses_of_only widths only
      rw [single, Nat.one_mul] at total
      simp [consumed, fsm, fsmD, next, endsRefill, pops, reads, last, only, total]
  | lastChunk fsm last several next pops reads =>
      have refill := tracked.refill (Or.inl fsm)
      have here : state.miss.refillCntQ / cfg.accessWords = widths.lineAccesses - 1 := by
        rw [last, lastChunkWord_eq widths, Nat.mul_div_cancel _ words]
      have positive := widths.lineAccesses_pos
      have whole : (widths.lineAccesses - 1) * widths.accessReqs + widths.accessReqs =
          widths.lineReqs := by
        rw [← Nat.succ_mul, Nat.succ_eq_add_one, Nat.sub_add_cancel positive, total]
      simp [consumed, fsm, fsmD, next, endsRefill, pops, reads, refill, here, whole]
  | writeDir fsm next pops reads =>
      have refill := tracked.refill (Or.inr fsm)
      simp [consumed, fsm, fsmD, next, endsRefill, pops, reads, refill]
  | inval fsm next pops reads =>
      have inval := tracked.inval fsm
      simp [consumed, fsm, fsmD, next, endsRefill, pops, reads, inval]

theorem Stored.rok_of_writing (tracked : Tracked state ledger) (stored : Stored state ledger)
    (writing : state.miss.refillFsmQ = .refillWrite) : state.dataResize.rok = true := by
  rcases tracked.oldest_of_busy (Or.inl writing) with ⟨burst, rest, oldest, _⟩
  rcases stored.count writing with ⟨k, inside, at_k⟩
  have member : burst ∈ ledger.pending := by simp [oldest]
  have long := stored.length_line member
  have here : consumed state = k * widths.accessReqs := by
    simp only [consumed, writing, at_k, Nat.mul_div_cancel _ cfg.accessWords_pos]
  have room : k * widths.accessReqs + widths.accessReqs ≤ widths.lineReqs := by
    rw [← widths.lineAccesses_mul, ← Nat.succ_mul]
    exact Nat.mul_le_mul_right _ inside
  rw [DataResize.rok_eq_decide widths.fits, decide_eq_true_eq, stored.data, here,
    List.length_drop, Ledger.stream_of_cons oldest, List.length_append, long]
  omega

/-- Nothing is written that was not received. -/
theorem Stored.consumed_le (tracked : Tracked state ledger) (stored : Stored state ledger) :
    consumed state ≤ ledger.stream.length := by
  have oldest (busy : state.miss.refillFsmQ = .refillWrite ∨
      state.miss.refillFsmQ = .refillWriteDir) :
      widths.lineReqs ≤ ledger.stream.length := by
    rcases tracked.oldest_of_busy busy with ⟨burst, rest, waiting, _⟩
    have member : burst ∈ ledger.pending := by simp [waiting]
    have long := stored.length_line member
    rw [Ledger.stream_of_cons waiting, List.length_append, long]
    exact Nat.le_add_right _ _
  unfold consumed
  split
  next => exact Nat.zero_le _
  next fsm =>
      rcases stored.count fsm with ⟨k, inside, at_k⟩
      refine Nat.le_trans ?_ (oldest (Or.inl fsm))
      rw [at_k, Nat.mul_div_cancel _ cfg.accessWords_pos, ← widths.lineAccesses_mul]
      exact Nat.mul_le_mul_right _ (Nat.le_of_lt inside)
  next fsm => exact oldest (Or.inr fsm)
  next => exact Nat.zero_le _

theorem Stored.aligned (tracked : Tracked state ledger) (stored : Stored state ledger)
    (whole : WholeLines (state, ledger) input) (writes : respDataW state input = true)
    (last : input.ports.memRespLast = true) :
    widths.accessReqs ∣ state.dataResize.contents.length + widths.memReqs := by
  have offers : offersBeat input = true := by
    simp only [respDataW, Bool.and_eq_true, Bool.not_eq_true'] at writes
    simp [offersBeat, writes.1, writes.2.2]
  have complete : ledger.arriving.length + 1 = widths.lineBeats := (whole offers).mp last
  have rest : ledger.arriving.length * widths.memReqs + widths.memReqs = widths.lineReqs := by
    rw [← Nat.succ_mul, Nat.succ_eq_add_one, complete, widths.lineBeats_mul]
  have lines : (ledger.pending.flatMap Burst.line).length =
      ledger.pending.length * widths.lineReqs := by
    rw [List.length_flatMap, List.map_congr_left fun burst member =>
      stored.length_line member, List.map_const', List.sum_replicate_nat]
  have total : ledger.stream.length + widths.memReqs =
      (ledger.pending.length + 1) * widths.lineReqs := by
    rw [Ledger.stream, List.length_append, lines, length_words, Nat.add_assoc, rest,
      Nat.succ_mul]
  have accessed : widths.accessReqs ∣ consumed state := by
    unfold consumed
    split
    · exact Nat.dvd_zero _
    · exact Nat.dvd_mul_left _ _
    · exact widths.access_dvd
    · exact Nat.dvd_zero _
  have within := stored.consumed_le tracked
  have sum : state.dataResize.contents.length + widths.memReqs + consumed state =
      (ledger.pending.length + 1) * widths.lineReqs := by
    rw [← total, stored.data, List.length_drop]
    omega
  refine (Nat.dvd_add_left accessed).mp ?_
  rw [sum]
  exact Nat.dvd_trans widths.access_dvd (Nat.dvd_mul_left _ _)

/-- One clock edge removes the access being written and appends the beat
taken. -/
theorem Stored.contents_step (tracked : Tracked state ledger) (stored : Stored state ledger)
    (whole : WholeLines (state, ledger) input) :
    (step state input).dataResize.contents =
      (if (out state input).refillFifoRespDataR then
          state.dataResize.contents.drop widths.accessReqs
        else state.dataResize.contents) ++
        (if takesBeat state input then (beat input).words else []) := by
  have edge := DataResize.contents_step widths.fits state.dataResize (respDataW state input)
    input.memRespData input.ports.memRespLast (out state input).refillFifoRespDataR
    fun writes last => Or.inl (stored.aligned input tracked whole writes last)
  have reads : ((out state input).refillFifoRespDataR && state.dataResize.rok) =
      (out state input).refillFifoRespDataR := by
    have turn := MissHandler.turn state.miss (missInput state input)
    change MissHandler.Turn _ _ (out state input) at turn
    have rok := stored.rok_of_writing tracked
    cases turn <;> simp_all
  have takes : (respDataW state input && state.dataResize.wok) = takesBeat state input := by
    simp only [respDataW, takesBeat, offersBeat, memRespReady]
    cases input.ports.memRespValid <;> cases input.ports.memRespInval <;>
      simp
  rw [reads, takes] at edge
  exact edge

theorem Stored.data_step (tracked : Tracked state ledger) (stored : Stored state ledger)
    (whole : WholeLines (state, ledger) input) :
    (step state input).dataResize.contents =
      (ledger.record state input).stream.drop (consumed (step state input)) := by
  have account := stored.consumed_step input tracked
  have within := stored.consumed_le tracked
  have taken : consumed state +
        (if (out state input).refillFifoRespDataR then widths.accessReqs else 0) ≤
      ledger.stream.length := by
    split_ifs with reads
    · have writing : state.miss.refillFsmQ = .refillWrite := by
        have turn := MissHandler.turn state.miss (missInput state input)
        change MissHandler.Turn _ _ (out state input) at turn
        cases turn <;> simp_all
      have rok := stored.rok_of_writing tracked writing
      rw [DataResize.rok_eq_decide widths.fits, decide_eq_true_eq, stored.data,
        List.length_drop] at rok
      omega
    · exact within
  rw [stored.contents_step input tracked whole,
    stored.stream_record input (tracked.pending_of_endsRefill input), stored.data]
  have front : (if (out state input).refillFifoRespDataR then
        (ledger.stream.drop (consumed state)).drop widths.accessReqs
      else ledger.stream.drop (consumed state)) =
      (if endsRefill state input then ledger.stream.drop widths.lineReqs
        else ledger.stream).drop (consumed (step state input)) := by
    have left : (if (out state input).refillFifoRespDataR then
          (ledger.stream.drop (consumed state)).drop widths.accessReqs
        else ledger.stream.drop (consumed state)) =
        ledger.stream.drop (consumed state +
          if (out state input).refillFifoRespDataR then widths.accessReqs else 0) := by
      split_ifs
      · rw [List.drop_drop]
      · rfl
    rw [left, account]
    split_ifs
    · rw [List.drop_drop]
    · rw [Nat.zero_add]
  rw [front, List.drop_append_of_le_length]
  rw [account] at taken
  split_ifs at taken ⊢
  · rw [List.length_drop]
    omega
  · omega

theorem Stored.reset (powerUp : Sram cfg.mshrSets cfg.mshrWays (Mshr.Entry cfg)) :
    Stored (Refill.reset widths powerUp) { arriving := [], pending := [] } := by
  constructor
  · simp
  · exact widths.lineBeats_pos
  · simp [Refill.reset, MissHandler.reset]
  · simp [Refill.reset, MissHandler.reset]
  · simp [Refill.reset, Ledger.stream]

theorem Stored.step (tracked : Tracked state ledger) (stored : Stored state ledger)
    (whole : WholeLines (state, ledger) input) :
    Stored (Refill.step state input) (ledger.record state input) := by
  have fsmD : (Refill.step state input).miss.refillFsmQ = (out state input).refillFsmD := rfl
  have cntD : (Refill.step state input).miss.refillCntQ = (out state input).refillCntD := rfl
  have turn := MissHandler.turn state.miss (missInput state input)
  change MissHandler.Turn _ _ (out state input) at turn
  have complete (takes : takesBeat state input = true) :
      input.ports.memRespLast = true ↔ ledger.arriving.length + 1 = widths.lineBeats := by
    apply whole
    simp only [takesBeat, Bool.and_eq_true] at takes
    exact takes.1
  constructor
  · intro burst member
    simp only [Ledger.record, List.mem_append] at member
    rcases member with earlier | new
    · apply stored.lines burst
      split_ifs at earlier
      · exact List.mem_of_mem_tail earlier
      · exact earlier
    · split_ifs at new with taken
      · rw [List.mem_singleton] at new
        rw [Bool.and_eq_true] at taken
        rw [new, Burst.beats, List.length_append, List.length_singleton]
        exact (complete taken.1).mp taken.2
      · exact absurd new List.not_mem_nil
  · have short := stored.short
    simp only [Ledger.record]
    split_ifs with takes last
    · exact widths.lineBeats_pos
    · have more : ledger.arriving.length + 1 ≠ widths.lineBeats :=
        fun all => last ((complete takes).mpr all)
      rw [List.length_append, List.length_singleton]
      omega
    · exact short
  · intro writing
    rw [fsmD] at writing
    rw [cntD]
    cases turn with
    | startRefill fsm filled granted refill next cnt =>
        exact ⟨0, widths.lineAccesses_pos, by rw [cnt, Nat.zero_mul]⟩
    | chunk fsm more next cnt =>
        rcases stored.count fsm with ⟨k, inside, at_k⟩
        refine ⟨k + 1, ?_, by rw [cnt, at_k, Nat.succ_mul]⟩
        rcases Nat.lt_or_ge (k + 1) widths.lineAccesses with later | last
        · exact later
        · refine absurd ?_ more
          rw [at_k, lastChunkWord_eq widths]
          congr 1
          omega
    | _ => simp_all
  · intro directory
    rw [fsmD] at directory
    cases turn with
    | onlyChunk fsm last only => exact lineAccesses_of_only widths only
    | _ => simp_all
  · exact stored.data_step input tracked whole

end Steps

end Cva6Hpd.Hpdcache.Refill
