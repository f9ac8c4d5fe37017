import Cva6Hpd.Hpdcache.FlushPath.Beats

/-!
# Reading the lines

The flush controller reads the accesses of a line one by one, and hands each to
the resizer when it has room. As long as the read port still selects the way of
the line when an access is handed over, the stream of the resizer is that of the
allocated lines.
-/

namespace Cva6Hpd.Hpdcache.FlushPath

open Cva6Hpd.Hw
open Cva6Hpd.Common

variable {cfg : Cfg} {widths : FlushWidths cfg}

/-! ## The environment -/

/-- What the rest of the cache and the memory promise in a cycle: a line is in
one way, it does not change while it is read and nobody else reads the data
array meanwhile, and an acknowledgement names an entry. -/
structure Promised (state : State widths × Log widths) (input : Input widths) : Prop where
  named : Named input
  single : alloc state.1 input = true →
    input.flushAllocWay = Bits.single input.flushAllocWay.lastIndex
  alone : alloc state.1 input = true ∨ Flush.busy state.1.flush = true →
    input.otherRentry = none ∧ input.dataErrRead = false
  kept : Flush.busy state.1.flush = true →
    ∀ writeback ∈ state.2.allocated.getLast?, ∀ k < widths.lineAccesses,
      input.array (cfg.setOf writeback.nline) writeback.way (k * cfg.accessWords) =
        writeback.accesses k

/-- An access handed to the resizer is selected by the way of its line: there is
no error correction, or one way in a RAM word, or the access was read in the
last cycle, or the way of the error handler selects the same part of the RAM
word. -/
def Selects (state : State widths) (input : Input widths) : Prop :=
  flushResizerW state = true → state.resizer.wok = true →
    cfg.eccEn = false ∨ widths.dataWaysPerRamWord = 1 ∨ state.dataFlushReadQ = true ∨
      dataRamWord widths input.dataErrWay = dataRamWord widths state.flush.flushWayQ

instance decidablePromised (state : State widths × Log widths) (input : Input widths) :
    Decidable (Promised state input) :=
  decidable_of_iff
    ((input.memRespWriteValid = true → input.memRespWId < cfg.flushEntries) ∧
      (alloc state.1 input = true →
        input.flushAllocWay = Bits.single input.flushAllocWay.lastIndex) ∧
      (alloc state.1 input = true ∨ Flush.busy state.1.flush = true →
        input.otherRentry = none ∧ input.dataErrRead = false) ∧
      (Flush.busy state.1.flush = true →
        ∀ writeback ∈ state.2.allocated.getLast?, ∀ k < widths.lineAccesses,
          input.array (cfg.setOf writeback.nline) writeback.way (k * cfg.accessWords) =
            writeback.accesses k))
    ⟨fun ⟨named, single, alone, kept⟩ => ⟨named, single, alone, kept⟩,
      fun ⟨named, single, alone, kept⟩ => ⟨named, single, alone, kept⟩⟩

instance decidableSelects (state : State widths) (input : Input widths) :
    Decidable (Selects state input) :=
  inferInstanceAs (Decidable (_ → _ → _))

/-! ## The read port -/

/-- The row and the part of the RAM word of a way. -/
def rowOf (widths : FlushWidths cfg) (way : cfg.Way) : Fin widths.ramRows :=
  ⟨way.val / widths.dataWaysPerRamWord, by
    rw [Nat.div_lt_iff_lt_mul widths.dataWaysPerRamWord_pos, widths.ramRows_mul]
    exact way.isLt⟩

def partOf (widths : FlushWidths cfg) (way : cfg.Way) : Fin widths.dataWaysPerRamWord :=
  ⟨way.val % widths.dataWaysPerRamWord, Nat.mod_lt _ widths.dataWaysPerRamWord_pos⟩

theorem dataRamRow_single (way : cfg.Way) :
    dataRamRow widths (Bits.single way) = Bits.single (rowOf widths way) := by
  funext row
  rw [Bool.eq_iff_iff]
  simp only [dataRamRow, Bits.any_eq_true_iff, Bool.and_eq_true, Bits.single_eq_true_iff,
    decide_eq_true_eq, exists_eq_left]
  rw [rowOf, Fin.ext_iff]
  exact eq_comm

theorem dataRamWord_single (way : cfg.Way) :
    dataRamWord widths (Bits.single way) = Bits.single (partOf widths way) := by
  funext part
  rw [Bool.eq_iff_iff]
  simp only [dataRamWord, Bits.any_eq_true_iff, Bool.and_eq_true, Bits.single_eq_true_iff,
    decide_eq_true_eq, exists_eq_left]
  rw [partOf, Fin.ext_iff]
  exact eq_comm

theorem dataFlushReadData_eq {state : State widths} {input : Input widths} {way : cfg.Way}
    (writes : flushResizerW state = true) (room : state.resizer.wok = true)
    (ways : state.flush.flushWayQ = Bits.single way)
    (row : state.dataFlushRowIndexQ = dataRamRow widths (Bits.single way))
    (selects : Selects state input) :
    dataFlushReadData state input = state.dataRentry way := by
  have sending : state.flush.flushFsmQ = .flushSend := by
    simpa [flushResizerW, Flush.resizerW] using writes
  have place : Fin.ofNat cfg.ways
      ((rowOf widths way).val * widths.dataWaysPerRamWord + (partOf widths way).val) = way := by
    apply Fin.ext
    rw [Fin.val_ofNat, rowOf, partOf, Nat.mul_comm, Nat.div_add_mod, Nat.mod_eq_of_lt way.isLt]
  have port (part : Fin widths.dataWaysPerRamWord) (same : part = partOf widths way) :
      muxOneHot (fun _ _ => 0) state.dataFlushRowIndexQ (fun row =>
        state.dataRentry (Fin.ofNat cfg.ways
          (row.val * widths.dataWaysPerRamWord + part.val))) = state.dataRentry way := by
    rw [row, dataRamRow_single, muxOneHot_single, same, place]
  have chosen (sel : dataFlushReadWay state input = dataRamWord widths (Bits.single way)) :
      dataFlushReadData state input = state.dataRentry way := by
    rw [dataFlushReadData, sel, dataRamWord_single, muxOneHot_single]
    exact port _ rfl
  have own : flushDataReadWay state input = Bits.single way := by
    rw [flushDataReadWay, sending, ways]
  rcases selects writes room with off | only | fresh | same
  · apply chosen
    simp only [dataFlushReadWay, off, Bool.not_false, Bool.true_or, if_true, own]
  · rw [dataFlushReadData, muxOneHot, if_pos only]
    refine port 0 (Fin.ext ?_)
    have bound := (partOf widths way).isLt
    rw [Fin.val_zero]
    omega
  · apply chosen
    simp only [dataFlushReadWay, fresh, Bool.or_true, if_true, own]
  · apply chosen
    rw [dataFlushReadWay, same, own, ways]
    split_ifs <;> rfl

/-! ## The line being read -/

/-- The first accesses of a line. -/
def Writeback.firstWords (writeback : Writeback widths) (count : Nat) : List cfg.wbuf.Data :=
  (List.range count).flatMap fun k => List.ofFn (writeback.accesses k)

/-- The state machine is idle, and the resizer took every line; or access `k` of
the last line is on the read port, and the resizer took what comes before it. -/
inductive Reading (state : State widths) (allocated : List (Writeback widths)) :
    List cfg.wbuf.Data → Prop where
  | idle (fsm : state.flush.flushFsmQ = .flushIdle) (word : state.flush.flushWordQ = 0) :
      Reading state allocated (stream allocated)
  | sends (done : List (Writeback widths)) (writeback : Writeback widths) (k : Nat)
      (fsm : state.flush.flushFsmQ = .flushSend) (inside : k < widths.lineAccesses)
      (word : state.flush.flushWordQ = (k + 1) * cfg.accessWords % cfg.clWords)
      (last : allocated = done ++ [writeback])
      (set : state.flush.flushSetQ = cfg.setOf writeback.nline)
      (way : state.flush.flushWayQ = Bits.single writeback.way)
      (row : state.dataFlushRowIndexQ = dataRamRow widths (Bits.single writeback.way))
      (data : state.dataRentry writeback.way = writeback.accesses k) :
      Reading state allocated (stream done ++ writeback.firstWords k)

theorem stream_append_singleton (done : List (Writeback widths)) (writeback : Writeback widths) :
    stream (done ++ [writeback]) = stream done ++ writeback.words := by
  rw [stream, List.flatMap_append, List.flatMap_singleton]
  rfl

theorem Writeback.firstWords_succ (writeback : Writeback widths) (k : Nat) :
    writeback.firstWords (k + 1) =
      writeback.firstWords k ++ List.ofFn (writeback.accesses k) := by
  rw [Writeback.firstWords, List.range_succ, List.flatMap_append, List.flatMap_singleton]
  rfl

/-- The word counter is back at zero at the end of a line. -/
theorem eol_iff (widths : FlushWidths cfg) {k : Nat} (inside : k < widths.lineAccesses) :
    (k + 1) * cfg.accessWords % cfg.clWords = 0 ↔ k + 1 = widths.lineAccesses := by
  have words := cfg.accessWords_pos
  rw [widths.clWords_eq_accesses]
  constructor
  · intro whole
    have long := Nat.le_of_dvd (Nat.mul_pos (Nat.succ_pos k) words)
      (Nat.dvd_of_mod_eq_zero whole)
    have accesses := Nat.le_of_mul_le_mul_right long words
    omega
  · intro whole
    rw [whole, Nat.mod_self]

theorem word_of_more (widths : FlushWidths cfg) {k : Nat}
    (more : k + 1 < widths.lineAccesses) :
    (k + 1) * cfg.accessWords % cfg.clWords = (k + 1) * cfg.accessWords := by
  rw [widths.clWords_eq_accesses]
  exact Nat.mod_eq_of_lt (Nat.mul_lt_mul_of_pos_right more cfg.accessWords_pos)

section Steps

variable {state : State widths} {log : Log widths} {written : List cfg.wbuf.Data}
  {input : Input widths}

/-- At the end of a line the resizer took whole lines, but for one access. -/
theorem Reading.aligned (reading : Reading state log.allocated written)
    (last : flushResizerWlast state = true) :
    widths.memReqs ∣ written.length + widths.accessReqs := by
  simp only [flushResizerWlast, flushResizerW, Flush.resizerW, Flush.eol, Bool.and_eq_true,
    decide_eq_true_eq] at last
  cases reading with
  | idle fsm => simp [fsm] at last
  | sends done writeback k fsm inside word =>
      have whole := (eol_iff widths inside).mp (word.symm.trans last.2)
      have long : (stream done ++ writeback.firstWords k).length + widths.accessReqs =
          (done.length + 1) * widths.lineReqs := by
        rw [List.length_append, length_stream, Writeback.firstWords, length_accesses,
          Nat.add_assoc, ← Nat.succ_mul, Nat.succ_eq_add_one, whole, widths.lineAccesses_mul,
          Nat.succ_mul]
      rw [long]
      exact Nat.dvd_trans widths.mem_dvd (Nat.dvd_mul_left _ _)

theorem Reading.step (promised : Promised (state, log) input) (selects : Selects state input)
    (reading : Reading state log.allocated written) :
    Reading (FlushPath.step state input) (log.record state input).allocated
      (written ++ handed state input) := by
  have fsmD : (FlushPath.step state input).flush.flushFsmQ =
      Flush.fsmD state.flush (flushIn state input) := rfl
  have wordD : (FlushPath.step state input).flush.flushWordQ =
      Flush.wordD state.flush (flushIn state input) := rfl
  cases reading with
  | idle fsm word =>
      have silent : handed state input = [] := by
        simp [handed, flushResizerW, Flush.resizerW, fsm]
      rw [silent, List.append_nil]
      cases allocates : alloc state input with
      | false =>
          have none : Flush.alloc state.flush (flushIn state input) = false := allocates
          have same : (log.record state input).allocated = log.allocated := by
            simp only [Log.record, allocates, Bool.false_eq_true, if_false, List.append_nil]
          rw [same]
          refine Reading.idle ?_ ?_
          · rw [fsmD, Flush.fsmD, fsm]
            simp [none]
          · rw [wordD, Flush.wordD, fsm]
            simp [none, word]
      | true =>
          have some : Flush.alloc state.flush (flushIn state input) = true := allocates
          have others := (promised.alone (Or.inl allocates)).1
          have single := promised.single allocates
          have reads : flushDataRead state input = true := by
            rw [flushDataRead, fsm]
            exact allocates
          have ways : flushDataReadWay state input =
              Bits.single input.flushAllocWay.lastIndex := by
            rw [flushDataReadWay, fsm, ← single]
            exact if_pos allocates
          have started : Reading (FlushPath.step state input) (log.record state input).allocated
              (stream log.allocated ++ (offered state input).firstWords 0) := by
            apply Reading.sends
            case inside => exact widths.lineAccesses_pos
            case fsm =>
              rw [fsmD, Flush.fsmD, fsm]
              simp [some]
            case word =>
              rw [wordD, Flush.wordD, fsm]
              simp [some, word, Flush.nextWord]
            case last => simp only [Log.record, allocates, if_true]
            case set =>
              simp only [FlushPath.step, Flush.step, some, if_true]
              rfl
            case way =>
              simp only [FlushPath.step, Flush.step, some, if_true]
              exact single
            case row => simp only [FlushPath.step, reads, if_true, ways, offered]
            case data =>
              simp only [FlushPath.step, dataRentryD, others, reads, if_true, flushDataReadSet,
                flushDataReadWord, fsm, allocates, offered, Nat.zero_mul]
          exact (List.append_nil (stream log.allocated)) ▸ started
  | sends done writeback k fsm inside word last set way row data =>
      have busy : Flush.busy state.flush = true := by simp [Flush.busy, fsm]
      rcases promised.alone (Or.inr busy) with ⟨others, errors⟩
      have idle : Flush.alloc state.flush (flushIn state input) = false := by
        simp [Flush.alloc, Flush.allocReady, fsm]
      have idle' : alloc state input = false := idle
      have same : (log.record state input).allocated = done ++ [writeback] := by
        simp only [Log.record, idle', Bool.false_eq_true, if_false, List.append_nil, last]
      have setD : (FlushPath.step state input).flush.flushSetQ = cfg.setOf writeback.nline := by
        simp only [FlushPath.step, Flush.step, idle, Bool.false_eq_true, if_false, set]
      have wayD : (FlushPath.step state input).flush.flushWayQ = Bits.single writeback.way := by
        simp only [FlushPath.step, Flush.step, idle, Bool.false_eq_true, if_false, way]
      have ways : flushDataReadWay state input = Bits.single writeback.way := by
        rw [flushDataReadWay, fsm, way]
      have rowD : (FlushPath.step state input).dataFlushRowIndexQ =
          dataRamRow widths (Bits.single writeback.way) := by
        simp only [FlushPath.step, ways, errors, Bool.and_false, Bool.false_eq_true, if_false]
        split_ifs
        · rfl
        · exact row
      have writes : flushResizerW state = true := by simp [flushResizerW, Flush.resizerW, fsm]
      cases room : state.resizer.wok with
      | false =>
          have silent : handed state input = [] := by simp [handed, room]
          have reads : flushDataRead state input = false := by
            rw [flushDataRead, fsm]
            simp [room]
          rw [silent, List.append_nil]
          refine Reading.sends done writeback k ?_ inside ?_ same setD wayD rowD ?_
          · rw [fsmD, Flush.fsmD, fsm]
            simp [flushIn, room]
          · rw [wordD, Flush.wordD, fsm]
            simp [flushIn, room, word]
          · simp only [FlushPath.step, dataRentryD, others, reads, Bool.false_eq_true, if_false,
              data]
      | true =>
          have handedOver : handed state input = List.ofFn (writeback.accesses k) := by
            rw [handed, writes, room, Bool.and_self, if_pos rfl,
              dataFlushReadData_eq writes room way row selects, data]
          rw [handedOver, List.append_assoc, ← Writeback.firstWords_succ]
          by_cases ends : k + 1 = widths.lineAccesses
          · have eol : Flush.eol state.flush = true := by
              rw [Flush.eol, decide_eq_true_eq, word]
              exact (eol_iff widths inside).mpr ends
            have whole : stream done ++ writeback.firstWords (k + 1) =
                stream (log.record state input).allocated := by
              rw [same, stream_append_singleton, ends]
              rfl
            rw [whole]
            refine Reading.idle ?_ ?_
            · rw [fsmD, Flush.fsmD, fsm]
              simp [flushIn, room, eol]
            · rw [wordD, Flush.wordD, fsm]
              simp only [flushIn, room, eol, Bool.not_true, Bool.and_false, Bool.false_eq_true,
                if_false]
              simpa [Flush.eol] using eol
          · have more : k + 1 < widths.lineAccesses := by omega
            have eol : Flush.eol state.flush = false := by
              rw [Flush.eol, decide_eq_false_iff_not, word]
              exact mt (eol_iff widths inside).mp ends
            have here := word_of_more widths more
            have reads : flushDataRead state input = true := by
              rw [flushDataRead, fsm]
              simp [room, eol]
            refine Reading.sends done writeback (k + 1) ?_ more ?_ same setD wayD rowD ?_
            · rw [fsmD, Flush.fsmD, fsm]
              simp [flushIn, room, eol]
            · rw [wordD, Flush.wordD, fsm]
              simp only [flushIn, room, eol, Bool.not_false, Bool.and_self, if_true,
                Flush.nextWord, word, here]
              rw [← Nat.succ_mul]
            · simp only [FlushPath.step, dataRentryD, others, reads, if_true, flushDataReadSet,
                flushDataReadWord, fsm, set, word, here]
              exact promised.kept busy writeback (by rw [last, List.getLast?_concat]; rfl) _ more

end Steps

end Cva6Hpd.Hpdcache.FlushPath
