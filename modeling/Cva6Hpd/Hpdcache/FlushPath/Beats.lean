import Cva6Hpd.Hpdcache.FlushPath.Writebacks

/-!
# The beats of the lines

The accesses that the resizer takes form a stream of request words. The beats
received by the memory are the slices of this stream, the last one of each line
marked, and the stream is that of the allocated lines, in order.
-/

namespace Cva6Hpd.Hpdcache.FlushPath

open Cva6Hpd.Hw
open Cva6Hpd.Common

variable {cfg : Cfg} {widths : FlushWidths cfg}

/-! ## Lines and beats -/

/-- A request word of a stream. -/
def wordOf (words : List cfg.wbuf.Data) (k : Nat) : cfg.wbuf.Data := words.getD k fun _ => 0

/-- The request words of a line, in address order. -/
def Writeback.words (writeback : Writeback widths) : List cfg.wbuf.Data :=
  (List.range widths.lineAccesses).flatMap fun k => List.ofFn (writeback.accesses k)

/-- The burst of a line. -/
def Writeback.beats (writeback : Writeback widths) : List (MemBeat widths) :=
  (List.range widths.lineBeats).map fun j =>
    { data := fun i => wordOf writeback.words (j * widths.memReqs + i.val)
      last := decide (j + 1 = widths.lineBeats) }

/-- The request words of some lines. -/
def stream (allocated : List (Writeback widths)) : List cfg.wbuf.Data :=
  allocated.flatMap Writeback.words

/-- Beat `b` of a stream of lines. -/
def beatAt (words : List cfg.wbuf.Data) (b : Nat) : MemBeat widths where
  data := fun i => wordOf words (b * widths.memReqs + i.val)
  last := decide ((b + 1) % widths.lineBeats = 0)

theorem wordOf_append {words : List cfg.wbuf.Data} (more : List cfg.wbuf.Data) {k : Nat}
    (inside : k < words.length) : wordOf (words ++ more) k = wordOf words k :=
  List.getD_append _ _ _ _ inside

theorem beatAt_append {words : List cfg.wbuf.Data} (more : List cfg.wbuf.Data) {b : Nat}
    (inside : (b + 1) * widths.memReqs ≤ words.length) :
    (beatAt (words ++ more) b : MemBeat widths) = beatAt words b := by
  rw [beatAt, beatAt, MemBeat.mk.injEq]
  refine ⟨funext fun i => wordOf_append more ?_, rfl⟩
  have bound := i.isLt
  rw [Nat.succ_mul] at inside
  omega

theorem length_accesses (writeback : Writeback widths) (count : Nat) :
    ((List.range count).flatMap fun k => List.ofFn (writeback.accesses k)).length =
      count * widths.accessReqs := by
  simp [List.length_flatMap, List.map_const']

theorem Writeback.length_words (writeback : Writeback widths) :
    writeback.words.length = widths.lineReqs := by
  rw [Writeback.words, length_accesses, widths.lineAccesses_mul]

theorem length_stream (allocated : List (Writeback widths)) :
    (stream allocated).length = allocated.length * widths.lineReqs := by
  rw [stream, List.length_flatMap, List.map_congr_left fun writeback _ =>
    writeback.length_words, List.map_const', List.sum_replicate_nat]

theorem flatMap_beats (allocated : List (Writeback widths)) :
    allocated.flatMap Writeback.beats =
      (List.range (allocated.length * widths.lineBeats)).map (beatAt (stream allocated)) := by
  have positive := widths.lineBeats_pos
  induction allocated using List.reverseRecOn with
  | nil => simp
  | append_singleton earlier writeback inductionHypothesis =>
      have before := length_stream earlier
      rw [← widths.lineBeats_mul, ← Nat.mul_assoc] at before
      have grown : stream (earlier ++ [writeback]) = stream earlier ++ writeback.words := by
        rw [stream, List.flatMap_append, List.flatMap_singleton]
        rfl
      rw [List.flatMap_append, List.flatMap_singleton, inductionHypothesis, List.length_append,
        List.length_singleton, Nat.succ_mul, List.range_add, List.map_append, List.map_map, grown]
      congr 1
      · refine List.map_congr_left fun b member => ?_
        rw [List.mem_range] at member
        refine (beatAt_append _ ?_).symm
        rw [before]
        exact Nat.mul_le_mul_right _ member
      · refine List.map_congr_left fun j member => ?_
        rw [List.mem_range] at member
        rw [Function.comp_apply, beatAt, MemBeat.mk.injEq]
        refine ⟨funext fun i => ?_, ?_⟩
        · have place : (earlier.length * widths.lineBeats + j) * widths.memReqs + i.val =
              (stream earlier).length + (j * widths.memReqs + i.val) := by
            rw [before, Nat.add_mul, Nat.add_assoc]
          rw [place, wordOf, wordOf, List.getD_append_right _ _ _ _ (Nat.le_add_right _ _),
            Nat.add_sub_cancel_left]
        · rw [decide_eq_decide, Nat.add_assoc, Nat.mul_add_mod_self_right]
          rcases Nat.lt_or_ge (j + 1) widths.lineBeats with more | last
          · rw [Nat.mod_eq_of_lt more]
            omega
          · have whole : j + 1 = widths.lineBeats := by omega
            simp [whole]

/-! ## The port of the resizer -/

/-- The accesses that the resizer took are `written`; the memory received their
first beats, and the resizer holds the rest. -/
structure Flowing (state : State widths) (log : Log widths)
    (written : List cfg.wbuf.Data) : Prop where
  contents : state.resizer.contents = written.drop (log.beats.length * widths.memReqs)
  taken : log.beats.length * widths.memReqs ≤ written.length
  count : state.writeFlitsCntQ = log.beats.length % widths.lineBeats
  beats : log.beats = (List.range log.beats.length).map (beatAt written)

theorem memReqFlits_eq (widths : FlushWidths cfg) :
    memReqFlits widths = widths.lineBeats - 1 := by
  unfold memReqFlits
  split_ifs with several
  · rfl
  · have only : widths.lineReqs ≤ widths.memReqs := Nat.le_of_not_lt several
    have whole : widths.memReqs = widths.lineReqs :=
      Nat.le_antisymm (Nat.le_of_dvd widths.lineReqs_pos widths.mem_dvd) only
    rw [Widths.lineBeats, whole, Nat.div_self widths.lineReqs_pos]

/-- A counter of `n` values steps by one, or back to zero after the last. -/
theorem succ_mod_eq {n : Nat} (positive : 0 < n) (b : Nat) :
    (b + 1) % n = if b % n = n - 1 then 0 else b % n + 1 := by
  have bound := Nat.mod_lt b positive
  rw [Nat.add_mod_eq_ite]
  rcases Nat.lt_or_ge 1 n with several | one
  · rw [Nat.mod_eq_of_lt several]
    split_ifs <;> omega
  · have only : n = 1 := by omega
    subst only
    simp [Nat.mod_one]

/-- The access handed to the resizer in this cycle. -/
def handed (state : State widths) (input : Input widths) : List cfg.wbuf.Data :=
  if flushResizerW state && state.resizer.wok then List.ofFn (dataFlushReadData state input)
  else []

section Port

variable {state : State widths} {log : Log widths} {written : List cfg.wbuf.Data}
  (input : Input widths)

theorem flushMemReqRlast_iff (flowing : Flowing state log written) :
    flushMemReqRlast state = true ↔ (log.beats.length + 1) % widths.lineBeats = 0 := by
  rw [flushMemReqRlast, decide_eq_true_eq, flowing.count, memReqFlits_eq,
    succ_mod_eq widths.lineBeats_pos]
  split_ifs with last
  · exact ⟨fun _ => rfl, fun _ => last⟩
  · simp [last]

/-- The beat on the port is the next one of the stream. -/
theorem Flowing.memReqWriteData_eq (flowing : Flowing state log written)
    (valid : memReqWriteDataValid state = true) :
    memReqWriteData state = beatAt written log.beats.length := by
  have port := DataResize.ofFn_rdata widths.flushFits valid
  rw [memReqWriteData, beatAt, MemBeat.mk.injEq]
  refine ⟨funext fun i => ?_, ?_⟩
  · have bound := i.isLt
    have element : (List.ofFn state.resizer.rdata)[i.val]? =
        ((written.drop (log.beats.length * widths.memReqs)).take widths.memReqs)[i.val]? := by
      rw [port, flowing.contents]
    rw [List.getElem?_take_of_lt bound, List.getElem?_drop, List.getElem?_ofFn,
      dif_pos bound] at element
    rw [wordOf, List.getD_eq_getElem?_getD, ← element]
    rfl
  · rw [Bool.eq_iff_iff, flushMemReqRlast_iff flowing, decide_eq_true_eq]

theorem Flowing.step (flowing : Flowing state log written) (short : widths.lineBeats ≤ 2 ^ 8)
    (aligned : flushResizerWlast state = true →
      widths.memReqs ∣ written.length + widths.accessReqs) :
    Flowing (FlushPath.step state input) (log.record state input)
      (written ++ handed state input) := by
  have edge := DataResize.contents_step widths.flushFits state.resizer (flushResizerW state)
    (dataFlushReadData state input) (flushResizerWlast state)
    input.memReqWriteDataReady fun _ last => Or.inl (by
      have whole := aligned last
      rw [flowing.contents, List.length_drop]
      have rest := Nat.dvd_sub whole (Nat.dvd_mul_left widths.memReqs log.beats.length)
      have taken := flowing.taken
      rwa [← Nat.sub_add_comm taken])
  have contents : (FlushPath.step state input).resizer.contents =
      (if input.memReqWriteDataReady && state.resizer.rok then
          state.resizer.contents.drop widths.memReqs
        else state.resizer.contents) ++ handed state input := edge
  have countD : (FlushPath.step state input).writeFlitsCntQ = writeFlitsCntD state input := rfl
  cases pops : memReqWriteDataValid state && input.memReqWriteDataReady with
  | false =>
      have same : (log.record state input).beats = log.beats := by
        simp only [Log.record, pops, Bool.false_eq_true, if_false, List.append_nil]
      have idle : (input.memReqWriteDataReady && state.resizer.rok) = false := by
        rw [Bool.and_comm]
        exact pops
      rw [idle, if_neg Bool.false_ne_true, flowing.contents] at contents
      constructor
      · rw [same, contents, List.drop_append_of_le_length flowing.taken]
      · rw [same, List.length_append]
        exact Nat.le_trans flowing.taken (Nat.le_add_right _ _)
      · rw [same, countD, writeFlitsCntD, pops, if_neg Bool.false_ne_true]
        exact flowing.count
      · rw [same]
        refine flowing.beats.trans (List.map_congr_left fun b member => ?_)
        rw [List.mem_range] at member
        refine (beatAt_append _ (Nat.le_trans ?_ flowing.taken)).symm
        exact Nat.mul_le_mul_right _ member
  | true =>
      have filled : memReqWriteDataValid state = true := by
        rw [Bool.and_eq_true] at pops
        exact pops.1
      have next : (log.record state input).beats = log.beats ++ [memReqWriteData state] := by
        simp only [Log.record, pops, if_true]
      have reads : (input.memReqWriteDataReady && state.resizer.rok) = true := by
        rw [Bool.and_comm]
        exact pops
      have more : (log.beats.length + 1) * widths.memReqs ≤ written.length := by
        have rok := filled
        rw [memReqWriteDataValid, DataResize.rok_eq_decide widths.flushFits,
          decide_eq_true_eq, flowing.contents, List.length_drop] at rok
        have taken := flowing.taken
        rw [Nat.succ_mul]
        omega
      rw [reads, if_pos rfl, flowing.contents, List.drop_drop, ← Nat.succ_mul] at contents
      have length : (log.record state input).beats.length = log.beats.length + 1 := by
        rw [next, List.length_append, List.length_singleton]
      constructor
      · rw [length, contents, List.drop_append_of_le_length more]
      · rw [length, List.length_append]
        exact Nat.le_trans more (Nat.le_add_right _ _)
      · have last := flushMemReqRlast_iff flowing
        have positive := widths.lineBeats_pos
        have bound := Nat.mod_lt log.beats.length positive
        rw [length, countD, writeFlitsCntD, pops, if_pos rfl]
        rw [succ_mod_eq positive] at last ⊢
        by_cases ends : log.beats.length % widths.lineBeats = widths.lineBeats - 1
        · rw [if_pos ends] at last ⊢
          rw [if_pos (last.mpr rfl)]
        · rw [if_neg ends] at last ⊢
          rw [if_neg fun now => Nat.succ_ne_zero _ (last.mp now), flowing.count,
            Nat.mod_eq_of_lt (by omega)]
      · rw [length, List.range_succ, List.map_append, List.map_singleton, next,
          beatAt_append _ more, flowing.memReqWriteData_eq filled]
        congr 1
        refine flowing.beats.trans (List.map_congr_left fun b member => ?_)
        rw [List.mem_range] at member
        refine (beatAt_append _ (Nat.le_trans ?_ more)).symm
        exact Nat.mul_le_mul_right _ (Nat.succ_le_succ (Nat.le_of_lt member))

end Port

end Cva6Hpd.Hpdcache.FlushPath
