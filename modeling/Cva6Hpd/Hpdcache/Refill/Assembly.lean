import Cva6Hpd.Hpdcache.Refill.Slots

/-!
# Assembly of a line

Once its refill is granted, a line is written access by access from its first
word on: the accesses of the burst, with the coalesced bytes of the miss in the
request word they were written to. The directory is written with the last
access, or one cycle after it when the line is a single access, and the core is
answered with the missed word of the merged line.
-/

namespace Cva6Hpd.Hpdcache.Refill

open Cva6Hpd.Hw
open Cva6Hpd.Common
open Cva6Hpd.Hpdcache.Memctrl (DirEntry)

variable {cfg : Cfg} {widths : Widths cfg}

/-! ## What is observed, and what is expected -/

/-- What the refill path writes and answers in a cycle: an access of the data
array at a set, a way and a word, a directory entry, a core response. -/
structure Cycle (widths : Widths cfg) where
  write : Option (cfg.Set × cfg.Way × Nat × widths.AccessData)
  dir : Option (cfg.Set × cfg.Way × DirEntry)
  rsp : Option (MissHandler.CoreRsp × cfg.wbuf.Data)

/-- A cycle that writes and answers nothing. -/
def Cycle.idle : Cycle widths where
  write := none
  dir := none
  rsp := none

section Observed

variable (state : State widths) (input : Input widths)

def observe : Cycle widths where
  write :=
    if (out state input).refillWriteData then
      some ((out state input).refillSet, (out state input).refillWay, refillWord state,
        refillData state input)
    else none
  dir :=
    if (out state input).refillWriteDir then
      some ((out state input).refillSet, (out state input).refillWay,
        MissHandler.refillDirEntry state.miss)
    else none
  rsp :=
    if MissHandler.refillCoreRspValid state.miss then
      some (MissHandler.refillCoreRsp state.miss (missInput state input),
        coreRspRdata state input)
    else none

end Observed

section Expected

variable (widths) (miss : Miss cfg) (burst : Burst widths)

/-- The request word of the miss in its line. -/
def missedReq : Nat := miss.word / widths.reqWords

variable {widths}

/-- The line that the memory returned, with the coalesced bytes of the miss. -/
def mergedLine : List cfg.wbuf.Data :=
  if miss.dirty then
    burst.line.modify (missedReq widths miss) fun clean => mergeBytes clean miss.data
  else burst.line

/-- A request word of a line. -/
def wordAt (line : List cfg.wbuf.Data) (j : Nat) : cfg.wbuf.Data := line.getD j fun _ => 0

/-- The directory entry of a refilled line. -/
def expectedEntry : DirEntry where
  valid := !burst.last.error
  wback := !burst.last.error && miss.wback
  dirty := !burst.last.error && miss.dirty
  fetch := false
  tag := cfg.tagOf miss.nline

/-- The cycle that writes access `k` of the line. -/
def expectedAccess (k : Nat) : Cycle widths where
  write :=
    if burst.last.error then none
    else some (cfg.setOf miss.nline, miss.way, k * cfg.accessWords, fun i =>
      wordAt (mergedLine miss burst) (k * widths.accessReqs + i.val))
  dir :=
    if k + 1 = widths.lineAccesses ∧ widths.lineAccesses ≠ 1 then
      some (cfg.setOf miss.nline, miss.way, expectedEntry miss burst)
    else none
  rsp :=
    if miss.needRsp ∧ miss.word / cfg.accessWords = k then
      some ({ sid := miss.sid, tid := miss.tid, error := burst.last.error },
        wordAt (mergedLine miss burst) (missedReq widths miss))
    else none

/-- The cycle that writes the directory after a line of one access. -/
def expectedDir : Cycle widths where
  write := none
  dir := some (cfg.setOf miss.nline, miss.way, expectedEntry miss burst)
  rsp := none

/-- The cycles of a refill. -/
def expectedRefill : List (Cycle widths) :=
  (List.range widths.lineAccesses).map (expectedAccess miss burst) ++
    (if widths.lineAccesses = 1 then [expectedDir miss burst] else [])

end Expected

/-! ## The state during a refill -/

/-- The registers that describe the miss being refilled: those read from its
slot in the first cycle, and their copies afterwards. -/
structure Describes (state : State widths) (miss : Miss cfg) : Prop where
  set : (if state.miss.refillCntQ = 0 then MissHandler.mshrAckCacheSet state.miss
    else state.miss.refillSetQ) = cfg.setOf miss.nline
  way : (if state.miss.refillCntQ = 0 then (MissHandler.mshrAckEntry state.miss).victimWayIdx
    else state.miss.refillWayQ) = miss.way
  tag : (if state.miss.refillCntQ = 0 then (MissHandler.mshrAckEntry state.miss).tag
    else state.miss.refillTagQ) = cfg.tagOf miss.nline
  sid : (if state.miss.refillCntQ = 0 then (MissHandler.mshrAckEntry state.miss).srcId
    else state.miss.refillSidQ) = miss.sid
  tid : (if state.miss.refillCntQ = 0 then (MissHandler.mshrAckEntry state.miss).reqId
    else state.miss.refillTidQ) = miss.tid
  word : (if state.miss.refillCntQ = 0 then (MissHandler.mshrAckEntry state.miss).wordIdx
    else state.miss.refillCoreRspWordQ) = miss.word
  needRsp : (if state.miss.refillCntQ = 0 then (MissHandler.mshrAckEntry state.miss).needRsp
    else state.miss.refillNeedRspQ) = miss.needRsp
  wback : (if state.miss.refillCntQ = 0 then (MissHandler.mshrAckEntry state.miss).wback
    else state.miss.refillWbackQ) = miss.wback
  dirty : (if state.miss.refillCntQ = 0 then (MissHandler.mshrAckEntry state.miss).dirty
    else state.miss.refillDirtyQ) = miss.dirty
  data : miss.dirty = true → cfg.wbEn = true ∧
    (if state.miss.refillCntQ = 0 then MissHandler.cbufAckData state.miss
      else state.miss.refillDirtyDataQ) = miss.data

/-- Access `k` of the line of `burst`, missed by `miss`, is being written. -/
structure Refilling (state : State widths) (ledger : Ledger widths) (miss : Miss cfg)
    (burst : Burst widths) (k : Nat) : Prop where
  tracked : Tracked state ledger
  stored : Stored state ledger
  oldest : ∃ rest, ledger.pending = burst :: rest
  fsm : state.miss.refillFsmQ = .refillWrite
  count : state.miss.refillCntQ = k * cfg.accessWords
  inside : k < widths.lineAccesses
  describes : Describes state miss

section Access

variable {state : State widths} {ledger : Ledger widths} {miss : Miss cfg}
  {burst : Burst widths} {k : Nat}

theorem Refilling.isError (refilling : Refilling state ledger miss burst k) :
    MissHandler.refillIsError state.miss = burst.last.error := by
  rcases refilling.tracked.oldest_of_busy (Or.inl refilling.fsm) with ⟨first, rest, waiting, error⟩
  rcases refilling.oldest with ⟨rest', waiting'⟩
  rw [waiting, List.cons.injEq] at waiting'
  rw [error, waiting'.1]

theorem Refilling.length_line (refilling : Refilling state ledger miss burst k) :
    burst.line.length = widths.lineReqs := by
  rcases refilling.oldest with ⟨rest, waiting⟩
  exact refilling.stored.length_line (by simp [waiting])

theorem Refilling.rdata (refilling : Refilling state ledger miss burst k)
    (i : Fin widths.accessReqs) :
    state.dataResize.rdata i = wordAt burst.line (k * widths.accessReqs + i.val) := by
  rcases refilling.oldest with ⟨rest, waiting⟩
  have rok := refilling.stored.rok_of_writing refilling.tracked refilling.fsm
  have port := DataResize.ofFn_rdata widths.fits rok
  have here : consumed state = k * widths.accessReqs := by
    simp only [consumed, refilling.fsm, refilling.count,
      Nat.mul_div_cancel _ cfg.accessWords_pos]
  have room : k * widths.accessReqs + widths.accessReqs ≤ widths.lineReqs := by
    rw [← widths.lineAccesses_mul, ← Nat.succ_mul]
    exact Nat.mul_le_mul_right _ refilling.inside
  have long := refilling.length_line
  rw [refilling.stored.data, here, Ledger.stream_of_cons waiting,
    List.drop_append_of_le_length (by omega),
    List.take_append_of_le_length (by rw [List.length_drop]; omega)] at port
  have bound := i.isLt
  have element : (List.ofFn state.dataResize.rdata)[i.val]? =
      ((burst.line.drop (k * widths.accessReqs)).take widths.accessReqs)[i.val]? := by
    rw [port]
  rw [List.getElem?_take_of_lt bound, List.getElem?_drop, List.getElem?_ofFn,
    dif_pos bound] at element
  rw [wordAt, List.getD_eq_getElem?_getD, ← element]
  rfl

/-- The outputs of the state machine while it writes an access. -/
structure Writes (state : State widths) (o : MissHandler.RefillOut cfg) : Prop where
  set : o.refillSet = if state.miss.refillCntQ = 0 then MissHandler.mshrAckCacheSet state.miss
    else state.miss.refillSetQ
  way : o.refillWay = if state.miss.refillCntQ = 0 then
      (MissHandler.mshrAckEntry state.miss).victimWayIdx
    else state.miss.refillWayQ
  data : o.refillWriteData = !MissHandler.refillIsError state.miss
  dirtyValid : o.refillDirtyValid = (MissHandler.answers state.miss &&
    if state.miss.refillCntQ = 0 then (MissHandler.mshrAckEntry state.miss).dirty
    else state.miss.refillDirtyQ)
  dirtyData : o.refillDirtyData = if state.miss.refillCntQ = 0 then
      MissHandler.cbufAckData state.miss
    else state.miss.refillDirtyDataQ
  sid : o.refillCoreRspSid = if state.miss.refillCntQ = 0 then
      (MissHandler.mshrAckEntry state.miss).srcId
    else state.miss.refillSidQ
  tid : o.refillCoreRspTid = if state.miss.refillCntQ = 0 then
      (MissHandler.mshrAckEntry state.miss).reqId
    else state.miss.refillTidQ
  error : o.refillCoreRspError = MissHandler.refillIsError state.miss
  dir : o.refillWriteDir = true ↔ state.miss.refillCntQ = MissHandler.lastChunkWord cfg ∧
    MissHandler.lastChunkWord cfg ≠ 0

theorem writes_out (input : Input widths) (fsm : state.miss.refillFsmQ = .refillWrite) :
    Writes state (out state input) := by
  simp only [out, MissHandler.missRespFsmComb, fsm]
  constructor <;> simp only [MissHandler.refillWrite, MissHandler.refillEnd] <;>
    split_ifs <;> simp_all [MissHandler.refillDefaults]

section Missed

variable (refilling : Refilling state ledger miss burst k)

include refilling

theorem Refilling.first_iff : state.miss.refillCntQ = 0 ↔ k = 0 := by
  rw [refilling.count]
  have words := cfg.accessWords_pos
  constructor
  · intro none
    rcases Nat.mul_eq_zero.mp none with first | words' <;> omega
  · intro first
    rw [first, Nat.zero_mul]

theorem Refilling.answers_iff :
    MissHandler.answers state.miss = true ↔ miss.word / cfg.accessWords = k := by
  have word := refilling.describes.word
  have first := refilling.first_iff
  by_cases start : state.miss.refillCntQ = 0
  · rw [if_pos start] at word
    simp only [MissHandler.answers, if_pos start, decide_eq_true_eq, word, first.mp start]
  · rw [if_neg start] at word
    have access : state.miss.refillCntQ / cfg.accessWords = k := by
      rw [refilling.count, Nat.mul_div_cancel _ cfg.accessWords_pos]
    rw [MissHandler.answers, if_neg start, decide_eq_true_eq, word, access]

theorem Refilling.coreRspWord_eq : coreRspWord state = missedReq widths miss := by
  have word := refilling.describes.word
  rw [coreRspWord, if_pos refilling.fsm, missedReq]
  split_ifs at word ⊢ <;> rw [word]

theorem Refilling.coreRspSel_eq :
    coreRspSel state = missedReq widths miss % widths.accessReqs := by
  rw [coreRspSel, refilling.coreRspWord_eq, widths.accessReqs_pow]

end Missed

theorem missedReq_div (widths : Widths cfg) (miss : Miss cfg) :
    missedReq widths miss / widths.accessReqs = miss.word / cfg.accessWords := by
  rw [missedReq, Nat.div_div_eq_div_mul, widths.accessWords_eq, Nat.mul_comm]

theorem missed_iff (widths : Widths cfg) (miss : Miss cfg) (k : Nat)
    (i : Fin widths.accessReqs) :
    missedReq widths miss = k * widths.accessReqs + i.val ↔
      miss.word / cfg.accessWords = k ∧ i.val = missedReq widths miss % widths.accessReqs := by
  have bound := i.isLt
  have positive := widths.accessReqs_pos
  rw [← missedReq_div]
  constructor
  · intro same
    rw [same, Nat.mul_comm, Nat.mul_add_div positive, Nat.div_eq_of_lt bound, Nat.add_zero,
      Nat.mul_add_mod, Nat.mod_eq_of_lt bound]
    exact ⟨rfl, rfl⟩
  · rintro ⟨access, word⟩
    rw [← access, word, Nat.mul_comm]
    exact (Nat.div_add_mod _ _).symm

theorem wordAt_mergedLine (miss : Miss cfg) (burst : Burst widths) {j : Nat}
    (inside : j < burst.line.length) :
    wordAt (mergedLine miss burst) j =
      if miss.dirty = true ∧ missedReq widths miss = j then
        mergeBytes (wordAt burst.line j) miss.data
      else wordAt burst.line j := by
  by_cases dirty : miss.dirty = true
  · simp only [wordAt, mergedLine, dirty, if_true, List.getD_eq_getElem?_getD,
      List.getElem?_modify, List.getElem?_eq_getElem inside, Option.getD_some,
      true_and]
    split_ifs <;> rfl
  · simp [wordAt, mergedLine, dirty]

section Outputs

variable (refilling : Refilling state ledger miss burst k) (input : Input widths)

include refilling

theorem Refilling.refillData_eq (i : Fin widths.accessReqs) :
    refillData state input i =
      wordAt (mergedLine miss burst) (k * widths.accessReqs + i.val) := by
  have outputs := writes_out input refilling.fsm
  have describes := refilling.describes
  have bound := i.isLt
  have room : k * widths.accessReqs + widths.accessReqs ≤ widths.lineReqs := by
    rw [← widths.lineAccesses_mul, ← Nat.succ_mul]
    exact Nat.mul_le_mul_right _ refilling.inside
  have long := refilling.length_line
  have merges : (cfg.wbEn && ((out state input).refillDirtyValid &&
      decide (i.val = coreRspSel state))) = true ↔
      miss.dirty = true ∧ missedReq widths miss = k * widths.accessReqs + i.val := by
    rw [missed_iff, ← refilling.coreRspSel_eq, ← refilling.answers_iff, outputs.dirtyValid,
      describes.dirty]
    simp only [Bool.and_eq_true, decide_eq_true_eq]
    constructor
    · rintro ⟨_, ⟨answers, dirty⟩, word⟩
      exact ⟨dirty, answers, word⟩
    · rintro ⟨dirty, answers, word⟩
      exact ⟨(describes.data dirty).1, ⟨answers, dirty⟩, word⟩
  rw [wordAt_mergedLine miss burst (by omega)]
  simp only [refillData, merges, refilling.rdata i]
  split_ifs with merged
  · rw [outputs.dirtyData, (describes.data merged.1).2]
  · rfl

theorem Refilling.coreRspRdata_eq (answers : miss.word / cfg.accessWords = k) :
    coreRspRdata state input = wordAt (mergedLine miss burst) (missedReq widths miss) := by
  have below : missedReq widths miss % widths.accessReqs < widths.accessReqs :=
    Nat.mod_lt _ widths.accessReqs_pos
  have sel : (Fin.ofNat widths.accessReqs (coreRspSel state)).val =
      missedReq widths miss % widths.accessReqs := by
    rw [refilling.coreRspSel_eq, Fin.val_ofNat, Nat.mod_mod]
  rw [coreRspRdata, refilling.refillData_eq input, sel]
  congr 1
  rw [← answers, ← missedReq_div widths miss, Nat.mul_comm]
  exact Nat.div_add_mod _ _

theorem Refilling.last_iff :
    state.miss.refillCntQ = MissHandler.lastChunkWord cfg ↔ k + 1 = widths.lineAccesses := by
  have inside := refilling.inside
  rw [refilling.count, lastChunkWord_eq widths]
  constructor
  · intro last
    have access := Nat.eq_of_mul_eq_mul_right cfg.accessWords_pos last
    omega
  · intro last
    rw [← last, Nat.add_sub_cancel]

theorem Refilling.dir_iff : (out state input).refillWriteDir = true ↔
    k + 1 = widths.lineAccesses ∧ widths.lineAccesses ≠ 1 := by
  rw [(writes_out input refilling.fsm).dir, refilling.last_iff]
  refine and_congr_right fun last => not_congr ?_
  constructor
  · exact lineAccesses_of_only widths
  · intro only
    rw [lastChunkWord_eq widths, only, Nat.sub_self, Nat.zero_mul]

theorem Refilling.refillDirEntry_eq (later : k ≠ 0) :
    MissHandler.refillDirEntry state.miss = expectedEntry miss burst := by
  have start : state.miss.refillCntQ ≠ 0 := fun none => later (refilling.first_iff.mp none)
  have describes := refilling.describes
  have wback := describes.wback
  have dirty := describes.dirty
  have tag := describes.tag
  rw [if_neg start] at wback dirty tag
  rw [MissHandler.refillDirEntry, expectedEntry, refilling.isError, wback, dirty, tag]

theorem Refilling.observe : observe state input = expectedAccess miss burst k := by
  have outputs := writes_out input refilling.fsm
  have describes := refilling.describes
  have set := outputs.set.trans describes.set
  have way := outputs.way.trans describes.way
  have data : refillData state input = fun i =>
      wordAt (mergedLine miss burst) (k * widths.accessReqs + i.val) :=
    funext (refilling.refillData_eq input)
  have isError := refilling.isError
  rw [Refill.observe, expectedAccess, Cycle.mk.injEq]
  refine ⟨?_, ?_, ?_⟩
  · rw [set, way, outputs.data, isError, data, refillWord, refilling.count]
    cases burst.last.error <;> rfl
  · by_cases dir : k + 1 = widths.lineAccesses ∧ widths.lineAccesses ≠ 1
    · have later : k ≠ 0 := by omega
      rw [if_pos ((refilling.dir_iff input).mpr dir), if_pos dir, set, way,
        refilling.refillDirEntry_eq later]
    · rw [if_neg (mt (refilling.dir_iff input).mp dir), if_neg dir]
  · have valid : MissHandler.refillCoreRspValid state.miss = true ↔
        miss.needRsp = true ∧ miss.word / cfg.accessWords = k := by
      simp only [MissHandler.refillCoreRspValid, refilling.fsm, decide_true, Bool.true_and,
        Bool.and_eq_true, describes.needRsp, refilling.answers_iff]
      exact And.comm
    have port : MissHandler.refillCoreRsp state.miss (missInput state input) =
        { sid := miss.sid, tid := miss.tid, error := burst.last.error } := by
      change MissHandler.CoreRsp.mk (out state input).refillCoreRspSid
        (out state input).refillCoreRspTid (out state input).refillCoreRspError = _
      rw [outputs.sid, outputs.tid, outputs.error, describes.sid, describes.tid, isError]
    by_cases answers : miss.needRsp = true ∧ miss.word / cfg.accessWords = k
    · rw [if_pos (valid.mpr answers), if_pos answers, port,
        refilling.coreRspRdata_eq input answers.2]
    · rw [if_neg (mt valid.mp answers), if_neg answers]

end Outputs

/-! ## The cycles of a refill -/

section Steps

variable (input : Input widths)

/-- The registers of a miss copy what its slot gave in the first cycle. -/
theorem Describes.step (describes : Describes state miss)
    (fsm : state.miss.refillFsmQ = .refillWrite)
    (later : (step state input).miss.refillCntQ ≠ 0) : Describes (step state input) miss := by
  have latch {α : Type} (fromSlot copy : α) :
      (if MissHandler.firstChunk state.miss then fromSlot else copy) =
        if state.miss.refillCntQ = 0 then fromSlot else copy := by
    simp only [MissHandler.firstChunk, fsm, decide_true, Bool.true_and, decide_eq_true_eq]
  constructor
  case data =>
    intro dirty
    rcases describes.data dirty with ⟨enabled, data⟩
    rw [if_neg later]
    exact ⟨enabled, (latch _ _).trans data⟩
  all_goals rw [if_neg later]
  case set => exact (latch _ _).trans describes.set
  case way => exact (latch _ _).trans describes.way
  case tag => exact (latch _ _).trans describes.tag
  case sid => exact (latch _ _).trans describes.sid
  case tid => exact (latch _ _).trans describes.tid
  case word => exact (latch _ _).trans describes.word
  case needRsp => exact (latch _ _).trans describes.needRsp
  case wback => exact (latch _ _).trans describes.wback
  case dirty => exact (latch _ _).trans describes.dirty

theorem pending_record {burst : Burst widths} {rest : List (Burst widths)}
    (oldest : ledger.pending = burst :: rest) (goesOn : endsRefill state input = false) :
    ∃ rest', (ledger.record state input).pending = burst :: rest' := by
  simp only [Ledger.record, goesOn, Bool.false_eq_true, if_false, oldest, List.cons_append]
  exact ⟨_, rfl⟩

theorem Refilling.step (refilling : Refilling state ledger miss burst k)
    (whole : WholeLines (state, ledger) input) (more : k + 1 < widths.lineAccesses) :
    Refilling (step state input) (ledger.record state input) miss burst (k + 1) := by
  have fsmD : (Refill.step state input).miss.refillFsmQ = (out state input).refillFsmD := rfl
  have cntD : (Refill.step state input).miss.refillCntQ = (out state input).refillCntD := rfl
  have fsm := refilling.fsm
  have last : state.miss.refillCntQ ≠ MissHandler.lastChunkWord cfg := fun last => by
    have end_ := refilling.last_iff.mp last
    omega
  have turn := MissHandler.turn state.miss (missInput state input)
  change MissHandler.Turn _ _ (out state input) at turn
  cases turn with
  | chunk _ _ next cnt pops =>
      have count : (Refill.step state input).miss.refillCntQ = (k + 1) * cfg.accessWords := by
        rw [cntD, cnt, refilling.count, Nat.succ_mul]
      rcases refilling.oldest with ⟨rest, oldest⟩
      constructor
      · exact refilling.tracked.step input
      · exact refilling.stored.step input refilling.tracked whole
      · exact pending_record input oldest (by simp only [endsRefill, pops, Bool.false_and])
      · rw [fsmD, next]
      · exact count
      · exact more
      · refine refilling.describes.step input fsm ?_
        rw [count]
        exact Nat.mul_ne_zero (Nat.succ_ne_zero k) (Nat.ne_of_gt cfg.accessWords_pos)
  | onlyChunk _ end_ => exact absurd end_ last
  | lastChunk _ end_ => exact absurd end_ last
  | _ => simp_all

theorem Refilling.observe_dir (refilling : Refilling state ledger miss burst k)
    (only : widths.lineAccesses = 1) (next : Input widths) :
    Refill.observe (Refill.step state input) next = expectedDir miss burst := by
  have fsmD : (Refill.step state input).miss.refillFsmQ = (out state input).refillFsmD := rfl
  have single : MissHandler.lastChunkWord cfg = 0 := by
    rw [lastChunkWord_eq widths, only, Nat.sub_self, Nat.zero_mul]
  have first : k = 0 := by
    have inside := refilling.inside
    omega
  have start := refilling.first_iff.mpr first
  have latch : MissHandler.firstChunk state.miss = true := by
    simp only [MissHandler.firstChunk, refilling.fsm, start, decide_true, Bool.and_self]
  have describes := refilling.describes
  have set := describes.set
  have way := describes.way
  have tag := describes.tag
  have wback := describes.wback
  have dirty := describes.dirty
  rw [if_pos start] at set way tag wback dirty
  have turn := MissHandler.turn state.miss (missInput state input)
  change MissHandler.Turn _ _ (out state input) at turn
  have goesOn : (Refill.step state input).miss.refillFsmQ = .refillWriteDir ∧
      endsRefill state input = false := by
    have fsm := refilling.fsm
    have last := refilling.last_iff.mpr (by rw [first, only])
    cases turn <;> simp_all [endsRefill]
  rcases goesOn with ⟨fsm, stays⟩
  have isError : MissHandler.refillIsError (Refill.step state input).miss = burst.last.error := by
    rcases refilling.oldest with ⟨rest, oldest⟩
    rcases pending_record input oldest stays with ⟨rest', oldest'⟩
    rcases (refilling.tracked.step input).oldest_of_busy (Or.inr fsm) with
      ⟨first', _, waiting, error⟩
    rw [waiting, List.cons.injEq] at oldest'
    rw [error, oldest'.1]
  rw [Refill.observe, expectedDir, Cycle.mk.injEq]
  simp only [out, MissHandler.missRespFsmComb, fsm, MissHandler.refillWriteDir,
    MissHandler.refillEnd, MissHandler.refillDefaults, MissHandler.refillCoreRspValid]
  refine ⟨rfl, ?_, rfl⟩
  rw [MissHandler.refillDirEntry, isError]
  simp only [Refill.step, MissHandler.step, latch, if_true, set, way, tag, wback, dirty,
    expectedEntry]

end Steps

end Access

/-! ## The grant of a refill -/

/-- A granted refill starts at the first access of the oldest line, for the miss
last allocated under its identifier. -/
theorem Consistent.granted {state : State widths × Log widths} {input : Input widths}
    (consistent : Consistent state) (promised : Promised state input)
    (ack : (out state.1 input).mshrAck = true) :
    ∃ burst rest, waiting state.1 state.2.ledger = burst :: rest ∧
      state.2.ledger.pending = burst :: rest ∧
      Refilling (Refill.step state.1 input) (state.2.ledger.record state.1 input)
        (state.2.missOf burst.last.id) burst 0 := by
  rcases state with ⟨state, log⟩
  rcases consistent with ⟨tracked, stored, owned, kept⟩
  dsimp only at tracked stored owned kept ack ⊢
  rcases owned.acked tracked ack with ⟨burst, rest, waits, oldest, _, named, valid⟩
  refine ⟨burst, rest, waits, oldest, ?_⟩
  have holds := kept.slots _ _ valid
  rw [← named] at holds
  have fsmD : (Refill.step state input).miss.refillFsmQ = (out state input).refillFsmD := rfl
  have cntD : (Refill.step state input).miss.refillCntQ = (out state input).refillCntD := rfl
  have turn := MissHandler.turn state.miss (missInput state input)
  change MissHandler.Turn _ _ (out state input) at turn
  have move := slotMove promised
  cases turn with
  | startRefill fsm filled granted refill next cnt pops =>
      have count : (Refill.step state input).miss.refillCntQ = 0 := cntD.trans cnt
      have same := (respMeta_step_of_kept input ((respMetaRok_iff _).mp filled) pops).2
      have way : MissHandler.mshrAckWay (Refill.step state input).miss =
          MissHandler.mshrAckWay state.miss := by
        rw [MissHandler.mshrAckWay, same, MissHandler.mshrAckWay]
      have set : MissHandler.mshrAckSet (Refill.step state input).miss =
          MissHandler.mshrAckSet state.miss := by
        rw [MissHandler.mshrAckSet, same, MissHandler.mshrAckSet]
      cases move with
      | ack _ _ _ sets _ slot =>
          have entry : MissHandler.mshrAckEntry (Refill.step state input).miss =
              (log.missOf burst.last.id).entry (state.miss.mshr.mshrMem.mem
                (MissHandler.mshrAckSet state.miss) (MissHandler.mshrAckWay state.miss)).cbufId :=
            slot.trans holds.entry
          constructor
          · exact tracked.step input
          · exact stored.step input tracked promised.whole
          · exact pending_record input oldest (by simp only [endsRefill, pops, Bool.false_and])
          · exact fsmD.trans next
          · rw [count, Nat.zero_mul]
          · exact widths.lineAccesses_pos
          · constructor
            case data =>
              intro dirty
              rcases holds.coalesced dirty with ⟨enabled, used, data⟩
              have stays := cbuf_step_of_used promised used fun gives => by
                rcases cbufAck_iff.mp gives with ⟨_, first, _⟩
                simp only [MissHandler.firstChunk, fsm] at first
                exact Bool.noConfusion first
              refine ⟨enabled, ?_⟩
              rw [if_pos count, MissHandler.cbufAckData, if_pos enabled, entry]
              exact stays.2.trans data
            all_goals rw [if_pos count]
            case set =>
              rw [MissHandler.mshrAckCacheSet, Mshr.ackCacheSet, sets, way, set]
              exact holds.set
            all_goals rw [entry, Miss.entry]
      | keep _ refused => exact absurd ack (by simp [refused])
      | alloc _ refused => exact absurd ack (by simp [refused])
  | _ => simp_all

end Cva6Hpd.Hpdcache.Refill
