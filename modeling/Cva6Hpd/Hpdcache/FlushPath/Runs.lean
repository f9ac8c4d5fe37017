import Cva6Hpd.Hpdcache.FlushPath.Lines

/-!
# Runs of the write-back path

In every run whose accesses are handed over in time, each allocated line is
announced by one request and sent as one burst, in the order of the
allocations, and the directory holds it until it is acknowledged.
-/

namespace Cva6Hpd.Hpdcache.FlushPath

open Cva6Hpd.Hw
open Cva6Hpd.Common

variable {cfg : Cfg} {widths : FlushWidths cfg}

/-- The lines are requested and sent in order. -/
structure Sent (state : State widths × Log widths) : Prop where
  listed : Listed state.1 state.2
  requests : state.2.requests ++ state.1.flush.memReqMetaFifo.contents =
    state.2.allocated.map Writeback.request
  beats : ∃ written, Flowing state.1 state.2 written ∧ Reading state.1 state.2.allocated written

section Steps

variable {state : State widths} {log : Log widths} {input : Input widths}

theorem requests_step
    (requests : log.requests ++ state.flush.memReqMetaFifo.contents =
      log.allocated.map Writeback.request) :
    (log.record state input).requests ++
        (FlushPath.step state input).flush.memReqMetaFifo.contents =
      (log.record state input).allocated.map Writeback.request := by
  have edge := state.flush.memReqMetaFifo.contents_conserved false
    (Flush.memReqW state.flush (flushIn state input))
    { nline := input.flushAllocNline, memReqId := Flush.freePtr state.flush }
    input.memReqWriteReady
  have writes : (Flush.memReqW state.flush (flushIn state input) &&
      state.flush.memReqMetaFifo.wok false input.memReqWriteReady) = alloc state input := by
    simp only [Flush.memReqW, alloc, Flush.alloc, Flush.allocReady, Flush.memReqWok, flushIn]
    cases input.flushAlloc <;> cases state.resizer.wok <;> cases Flush.full state.flush <;>
      simp
  have reads : (input.memReqWriteReady && state.flush.memReqMetaFifo.rok false
      (Flush.memReqW state.flush (flushIn state input))) =
      (memReqWriteValid state && input.memReqWriteReady) := by
    rw [Bool.and_comm]
    simp [memReqWriteValid, FifoRegs.rok]
  have port : state.flush.memReqMetaFifo.rdata false
      { nline := input.flushAllocNline, memReqId := Flush.freePtr state.flush } =
      memReqWrite state := by
    simp [memReqWrite, FifoRegs.rdata]
  rw [writes, reads, port] at edge
  have stored : (FlushPath.step state input).flush.memReqMetaFifo.contents =
      (state.flush.memReqMetaFifo.step false (Flush.memReqW state.flush (flushIn state input))
        { nline := input.flushAllocNline, memReqId := Flush.freePtr state.flush }
        input.memReqWriteReady).contents := rfl
  simp only [Log.record]
  rw [stored, List.append_assoc, ← edge, ← List.append_assoc, requests, List.map_append]
  congr 1
  split_ifs <;> rfl

end Steps

theorem Sent.reset (dataRentry : widths.RamData) (dataFlushReadQ : Bool) :
    Sent (logged widths dataRentry dataFlushReadQ).reset where
  listed := Listed.reset dataRentry dataFlushReadQ
  requests := by
    simp [logged, Machine.withHistory, machine, FlushPath.reset, Flush.reset]
  beats := by
    refine ⟨[], ?_, ?_⟩
    · constructor <;> simp [logged, Machine.withHistory, machine, FlushPath.reset]
    · exact Reading.idle rfl rfl

theorem Sent.step {state : State widths × Log widths} {input : Input widths}
    (short : widths.lineBeats ≤ 2 ^ 8) (promised : Promised state input)
    (selects : Selects state.1 input) (sent : Sent state) :
    Sent (FlushPath.step state.1 input, state.2.record state.1 input) where
  listed := sent.listed.step promised.named
  requests := requests_step sent.requests
  beats := by
    rcases sent.beats with ⟨written, flowing, reading⟩
    exact ⟨written ++ handed state.1 input, flowing.step input short reading.aligned,
      reading.step promised selects⟩

theorem sent_run (dataRentry : widths.RamData) (dataFlushReadQ : Bool)
    (short : widths.lineBeats ≤ 2 ^ 8) {inputs : List (Input widths)}
    (along : (logged widths dataRentry dataFlushReadQ).RunAlong
      (fun state input => Promised state input ∧ Selects state.1 input) inputs) :
    Sent ((logged widths dataRentry dataFlushReadQ).run inputs) :=
  (logged widths dataRentry dataFlushReadQ).run_invariant_along Sent
    (Sent.reset dataRentry dataFlushReadQ)
    (fun _ _ sent both => sent.step short both.1 both.2) along

/-! ## What the memory received -/

section Received

variable {state : State widths} {log : Log widths} {written : List cfg.wbuf.Data}

theorem Reading.written_prefix (reading : Reading state log.allocated written) :
    written <+: stream log.allocated := by
  cases reading with
  | idle => exact List.prefix_refl _
  | sends done writeback k fsm inside word last =>
      rw [last, stream_append_singleton, List.prefix_append_right_inj]
      rcases Nat.exists_eq_add_of_le (Nat.le_of_lt inside) with ⟨rest, whole⟩
      rw [Writeback.words, Writeback.firstWords, whole, List.range_add, List.flatMap_append]
      exact List.prefix_append _ _

theorem Reading.length_lt (reading : Reading state log.allocated written)
    (busy : Flush.busy state.flush = true) :
    written.length < log.allocated.length * widths.lineReqs := by
  cases reading with
  | idle fsm => simp [Flush.busy, fsm] at busy
  | sends done writeback k fsm inside word last =>
      rw [List.length_append, length_stream, Writeback.firstWords, length_accesses, last,
        List.length_append, List.length_singleton, Nat.succ_mul, ← widths.lineAccesses_mul]
      exact Nat.add_lt_add_left (Nat.mul_lt_mul_of_pos_right inside widths.accessReqs_pos) _

theorem Reading.of_idle (reading : Reading state log.allocated written)
    (rests : Flush.busy state.flush = false) : written = stream log.allocated := by
  cases reading with
  | idle => rfl
  | sends done writeback k fsm => simp [Flush.busy, fsm] at rests

/-- The beats received are the first ones of the bursts. -/
theorem Flowing.beats_prefix (flowing : Flowing state log written)
    (reading : Reading state log.allocated written) :
    log.beats <+: log.allocated.flatMap Writeback.beats := by
  rcases reading.written_prefix with ⟨rest, whole⟩
  have long : log.beats.length * widths.memReqs ≤
      log.allocated.length * widths.lineBeats * widths.memReqs := by
    rw [Nat.mul_assoc, widths.lineBeats_mul, ← length_stream, ← whole, List.length_append]
    exact Nat.le_trans flowing.taken (Nat.le_add_right _ _)
  have count := Nat.le_of_mul_le_mul_right long widths.memReqs_pos
  rcases Nat.exists_eq_add_of_le count with ⟨more, total⟩
  have received : log.beats =
      (List.range log.beats.length).map (beatAt (stream log.allocated)) := by
    refine flowing.beats.trans (List.map_congr_left fun b member => ?_)
    rw [List.mem_range] at member
    rw [← whole]
    refine (beatAt_append rest (Nat.le_trans ?_ flowing.taken)).symm
    exact Nat.mul_le_mul_right _ member
  rw [flatMap_beats, total, List.range_add, List.map_append, ← received]
  exact List.prefix_append _ _

/-- Nothing is left in the resizer: every burst is complete. -/
theorem Flowing.beats_eq (flowing : Flowing state log written)
    (reading : Reading state log.allocated written) (rests : Flush.busy state.flush = false)
    (empty : memReqWriteDataValid state = false) :
    log.beats = log.allocated.flatMap Writeback.beats := by
  have whole := reading.of_idle rests
  refine (flowing.beats_prefix reading).eq_of_length_le ?_
  rw [flatMap_beats, List.length_map, List.length_range]
  rw [memReqWriteDataValid, DataResize.rok_eq_decide widths.flushFits, decide_eq_false_iff_not,
    flowing.contents, List.length_drop, whole, length_stream, ← widths.lineBeats_mul,
    ← Nat.mul_assoc, ← Nat.sub_mul] at empty
  by_contra short
  have some : 1 ≤ log.allocated.length * widths.lineBeats - log.beats.length := by omega
  have enough := Nat.mul_le_mul_right widths.memReqs some
  omega

end Received

/-! ## Draining -/

/-- At most `steps` accesses and beats remain to be moved. -/
def Remains (state : State widths × Log widths) (steps : Nat) : Prop :=
  ∃ written, Flowing state.1 state.2 written ∧ Reading state.1 state.2.allocated written ∧
    (state.2.allocated.length * widths.lineReqs - state.2.beats.length * widths.memReqs) +
      (state.2.allocated.length * widths.lineReqs - written.length) ≤ steps

/-- A cycle in which the memory takes a beat and no line is allocated. -/
def Draining (state : State widths × Log widths) (input : Input widths) : Prop :=
  Promised state input ∧ Selects state.1 input ∧ alloc state.1 input = false ∧
    input.memReqWriteDataReady = true

section Drain

variable {state : State widths} {log : Log widths} {written : List cfg.wbuf.Data}

theorem Reading.accessReqs_dvd (reading : Reading state log.allocated written) :
    widths.accessReqs ∣ written.length := by
  cases reading with
  | idle =>
      rw [length_stream]
      exact Nat.dvd_trans widths.access_dvd (Nat.dvd_mul_left _ _)
  | sends done writeback k =>
      rw [List.length_append, length_stream, Writeback.firstWords, length_accesses]
      exact Nat.dvd_add (Nat.dvd_trans widths.access_dvd (Nat.dvd_mul_left _ _))
        (Nat.dvd_mul_left _ _)

/-- A resizer without a beat has room for an access. -/
theorem Flowing.wok_of_empty (flowing : Flowing state log written)
    (reading : Reading state log.allocated written)
    (empty : memReqWriteDataValid state = false) : state.resizer.wok = true := by
  rw [memReqWriteDataValid, DataResize.rok_eq_decide widths.flushFits,
    decide_eq_false_iff_not, Nat.not_le] at empty
  have access := widths.accessReqs_pos
  have beat := widths.memReqs_pos
  have none : DataResize.entries widths.accessReqs widths.memReqs
      state.resizer.contents.length = 0 := by
    rw [DataResize.entries]
    apply Nat.div_eq_of_lt
    have long : state.resizer.contents.length =
        written.length - log.beats.length * widths.memReqs := by
      rw [flowing.contents, List.length_drop]
    rcases widths.resize with wide | narrow
    · -- The accesses are whole numbers of beats: less than a beat is nothing.
      have whole : widths.memReqs ∣ state.resizer.contents.length := by
        rw [long]
        exact Nat.dvd_sub (Nat.dvd_trans wide reading.accessReqs_dvd) (Nat.dvd_mul_left _ _)
      have zero := Nat.eq_zero_of_dvd_of_lt whole empty
      have width := Nat.le_max_left widths.accessReqs widths.memReqs
      omega
    · have whole : widths.accessReqs ∣ widths.memReqs - state.resizer.contents.length := by
        refine Nat.dvd_sub narrow ?_
        rw [long]
        exact Nat.dvd_sub reading.accessReqs_dvd (Nat.dvd_trans narrow (Nat.dvd_mul_left _ _))
      have room := Nat.le_of_dvd (by omega) whole
      have width := Nat.le_max_right widths.accessReqs widths.memReqs
      omega
  rw [DataResize.wok_eq_decide widths.flushFits, none, decide_eq_true_eq]
  exact widths.flushFifoDepth_pos

end Drain

theorem Remains.step {state : State widths × Log widths} {input : Input widths} {steps : Nat}
    (short : widths.lineBeats ≤ 2 ^ 8) (remains : Remains state (steps + 1))
    (draining : Draining state input) :
    Remains (FlushPath.step state.1 input, state.2.record state.1 input) steps ∧
      (state.2.record state.1 input).allocated = state.2.allocated := by
  rcases remains with ⟨written, flowing, reading, measure⟩
  rcases draining with ⟨promised, selects, idle, ready⟩
  have same : (state.2.record state.1 input).allocated = state.2.allocated := by
    simp only [Log.record, idle, Bool.false_eq_true, if_false, List.append_nil]
  have flows := flowing.step input short reading.aligned
  have reads := reading.step promised selects
  refine ⟨⟨_, flows, reads, ?_⟩, same⟩
  have within := reads.written_prefix.length_le
  rw [length_stream, same] at within
  rw [same]
  have taken := flows.taken
  have beat := widths.memReqs_pos
  rw [List.length_append] at within taken ⊢
  cases filled : memReqWriteDataValid state.1 with
  | true =>
      have more : (state.2.record state.1 input).beats.length = state.2.beats.length + 1 := by
        simp [Log.record, filled, ready]
      rw [more, Nat.succ_mul] at taken ⊢
      omega
  | false =>
      have still : (state.2.record state.1 input).beats.length = state.2.beats.length := by
        simp [Log.record, filled]
      rw [still] at taken ⊢
      cases busy : Flush.busy state.1.flush with
      | true =>
          have moved : 0 < (handed state.1 input).length := by
            have sends : flushResizerW state.1 = true := by
              simpa [Flush.busy, flushResizerW, Flush.resizerW] using
                (show state.1.flush.flushFsmQ = .flushSend by
                  cases fsm : state.1.flush.flushFsmQ with
                  | flushIdle => simp [Flush.busy, fsm] at busy
                  | flushSend => rfl)
            simp [handed, sends, flowing.wok_of_empty reading filled, widths.accessReqs_pos]
          have before := reading.length_lt busy
          omega
      | false =>
          have all := flowing.beats_eq reading busy filled
          have whole := reading.of_idle busy
          have count := congrArg List.length all
          rw [flatMap_beats, List.length_map, List.length_range] at count
          have long : state.2.beats.length * widths.memReqs =
              state.2.allocated.length * widths.lineReqs := by
            rw [count, Nat.mul_assoc, widths.lineBeats_mul]
          have total : written.length = state.2.allocated.length * widths.lineReqs := by
            rw [whole, length_stream]
          omega

theorem Remains.beats_eq {state : State widths × Log widths} (remains : Remains state 0) :
    state.2.beats = state.2.allocated.flatMap Writeback.beats := by
  rcases remains with ⟨written, flowing, reading, measure⟩
  have taken := flowing.taken
  refine (flowing.beats_prefix reading).eq_of_length_le ?_
  rw [flatMap_beats, List.length_map, List.length_range]
  refine Nat.le_of_mul_le_mul_right ?_ widths.memReqs_pos
  rw [Nat.mul_assoc, widths.lineBeats_mul]
  omega

theorem Remains.drained (dataRentry : widths.RamData) (dataFlushReadQ : Bool)
    (short : widths.lineBeats ≤ 2 ^ 8) {steps : Nat} {state : State widths × Log widths}
    (remains : Remains state steps) {more : List (Input widths)} (enough : steps ≤ more.length)
    (draining : (logged widths dataRentry dataFlushReadQ).Along Draining state more) :
    ((logged widths dataRentry dataFlushReadQ).runFrom state more).2.beats =
      state.2.allocated.flatMap Writeback.beats := by
  induction more generalizing state steps with
  | nil =>
      rw [Nat.le_zero.mp enough] at remains
      exact remains.beats_eq
  | cons input more inductionHypothesis =>
      have weaker : Remains state (more.length + 1) := by
        rcases remains with ⟨written, flowing, reading, measure⟩
        exact ⟨written, flowing, reading, Nat.le_trans measure enough⟩
      rcases weaker.step short draining.1 with ⟨less, same⟩
      rw [← same]
      exact inductionHypothesis less (Nat.le_refl _) draining.2

/-- In every run whose accesses are handed over in time: each allocated line is
announced by one request and sent as one burst, requests and bursts in the
order of the allocations; nothing is left out once the path is idle, and the
path becomes idle when the memory takes the beats; an entry is freed exactly by
the acknowledgement that names it; and the directory answers hit exactly for
the lines without acknowledgement. -/
theorem writebacks_run (dataRentry : widths.RamData) (dataFlushReadQ : Bool)
    (short : widths.lineBeats ≤ 2 ^ 8) {inputs : List (Input widths)}
    (along : (logged widths dataRentry dataFlushReadQ).RunAlong
      (fun state input => Promised state input ∧ Selects state.1 input) inputs) :
    let logged := logged widths dataRentry dataFlushReadQ
    let state := (logged.run inputs).1
    let log := (logged.run inputs).2
    log.requests ++ state.flush.memReqMetaFifo.contents =
        log.allocated.map Writeback.request ∧
      log.beats <+: log.allocated.flatMap Writeback.beats ∧
      (Flush.busy state.flush = false → memReqWriteDataValid state = false →
        log.beats = log.allocated.flatMap Writeback.beats) ∧
      (∀ more, logged.Along Draining (logged.run inputs) more →
        2 * (log.allocated.length * widths.lineReqs) ≤ more.length →
        (logged.runFrom (logged.run inputs) more).2.beats =
          log.allocated.flatMap Writeback.beats) ∧
      ∀ input, Named input →
        (∀ entry, state.flush.flushDirValidQ entry = true →
          ((step state input).flush.flushDirValidQ entry = false ↔
            input.memRespWriteValid = true ∧ input.memRespWId = entry.val)) ∧
        ∀ nline, Flush.checkHit state.flush (flushIn state input).mem nline = true ↔
          ∃ writeback ∈ unacked input log.pending, writeback.2 = nline := by
  intro logged state log
  have sent := sent_run dataRentry dataFlushReadQ short along
  rcases sent.beats with ⟨written, flowing, reading⟩
  refine ⟨sent.requests, flowing.beats_prefix reading, flowing.beats_eq reading, ?_, ?_⟩
  · intro more draining enough
    have remains : Remains (logged.run inputs)
        (2 * (log.allocated.length * widths.lineReqs)) := by
      refine ⟨written, flowing, reading, ?_⟩
      change (log.allocated.length * widths.lineReqs - log.beats.length * widths.memReqs) +
        (log.allocated.length * widths.lineReqs - written.length) ≤ _
      omega
    exact remains.drained dataRentry dataFlushReadQ short enough draining
  · intro input named
    refine ⟨fun entry valid => ?_, fun nline => sent.listed.checkHit_iff named nline⟩
    have used : state.flush.flushDirValidQ entry = true := valid
    simp only [step, Flush.step, ackBv_eq state named, used, Bool.not_true, Bool.false_and,
      Bool.false_or, Bool.true_and, Bool.not_eq_false', Bool.and_eq_true, decide_eq_true_eq]
    exact and_congr_right fun _ => eq_comm

/-! ## A line with error correction -/

/-- Two ways in a RAM word, with error correction. -/
abbrev eccCfg : Cfg :=
  { Refill.smallCfg 2 Nat.two_pos with
    ways := 2
    eccEn := true
    ways_pos := Nat.two_pos }

/-- Lines of two accesses, each of a beat. -/
def eccWidths (flushFifoDepth : Nat) (depth_pos : 0 < flushFifoDepth) : FlushWidths eccCfg where
  reqWords := 1
  accessReqs := 1
  memReqs := 1
  lineReqs := 2
  reqWords_pos := Nat.one_pos
  accessReqs_pos := Nat.one_pos
  memReqs_pos := Nat.one_pos
  accessWords_eq := rfl
  clWords_eq := rfl
  clWords_gt := Nat.one_lt_two
  reqBytes_eq := rfl
  accessReqs_pow := (Refill.smallWidths 1 Nat.one_pos).accessReqs_pow
  access_dvd := (Refill.smallWidths 1 Nat.one_pos).access_dvd
  mem_dvd := (Refill.smallWidths 1 Nat.one_pos).mem_dvd
  resize := (Refill.smallWidths 1 Nat.one_pos).resize
  flushFifoDepth := flushFifoDepth
  dataWaysPerRamWord := 2
  flushFifoDepth_pos := depth_pos
  dataWaysPerRamWord_pos := Nat.two_pos
  dataWaysPerRamWord_dvd := Nat.dvd_mul_right 2 1

/-- A cycle of the write-back path with the same byte in the whole data array. -/
def cycle (widths : FlushWidths eccCfg) (flushAlloc memReqWriteDataReady : Bool) :
    Input widths where
  flushAlloc := flushAlloc
  flushAllocNline := 0
  flushAllocWay := Bits.single 0
  memReqWriteReady := true
  memReqWriteDataReady := memReqWriteDataReady
  memRespWriteValid := false
  memRespWId := 0
  array := fun _ _ _ _ _ => 5
  otherRentry := none
  dataErrRead := false
  dataErrWay := Bits.zero

/-- A line is allocated, the memory takes no beat for one cycle, and then takes
them all. -/
def stalled (widths : FlushWidths eccCfg) : List (Input widths) :=
  [cycle widths true false, cycle widths false false, cycle widths false true,
    cycle widths false true, cycle widths false true]

def logOf (widths : FlushWidths eccCfg) : Log widths :=
  ((logged widths (fun _ _ _ => 0) false).run (stalled widths)).2

/-- The first byte of each beat, and its flag. -/
def sample (widths : FlushWidths eccCfg) (beats : List (MemBeat widths)) :
    List (BitVec 8 × Bool) :=
  beats.map fun beat =>
    (beat.data ⟨0, widths.memReqs_pos⟩ ⟨0, eccCfg.wbuf.reqBytes_pos⟩, beat.last)

abbrev oneEntry : FlushWidths eccCfg := eccWidths 1 Nat.one_pos

abbrev twoEntries : FlushWidths eccCfg := eccWidths 2 Nat.two_pos

theorem twoEntries_sent :
    (logOf twoEntries).allocated.length = 1 ∧
      (logOf twoEntries).beats = (logOf twoEntries).allocated.flatMap Writeback.beats :=
  ⟨by decide +kernel, (writebacks_run (fun _ _ _ => 0) false (by decide)
    (by decide +kernel)).2.2.1 (by decide +kernel) (by decide +kernel)⟩

/-- The second access waits for the resizer: what is sent is not the line. -/
theorem oneEntry_corrupts :
    oneEntry.ElaborationChecks ∧
      (logged oneEntry (fun _ _ _ => 0) false).RunAlong Promised (stalled oneEntry) ∧
      sample oneEntry ((logOf oneEntry).allocated.flatMap Writeback.beats) =
        [(5, false), (5, true)] ∧
      sample oneEntry (logOf oneEntry).beats = [(5, false), (0, true)] := by
  decide +kernel

end Cva6Hpd.Hpdcache.FlushPath
