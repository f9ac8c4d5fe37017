import Cva6Hpd.Hpdcache.Refill.Core

/-!
# Bursts in flight

A response burst is received beat by beat, its metadata is queued with its last
beat, and it is consumed at the end of its refill. The ledger records the beats
of the burst being received and the bursts waiting for their refill; the queued
metadata are those of the waiting bursts, and a refill works on the oldest one.
-/

namespace Cva6Hpd.Hpdcache

open Cva6Hpd.Hw
open Cva6Hpd.Common

/-! ## What the refill state machine does in a cycle -/

namespace MissHandler

variable {cfg : Cfg}

/-- The turns of the refill state machine. -/
inductive Turn (state : State cfg) (input : Input cfg) (o : RefillOut cfg) : Prop where
  | wait (fsm : state.refillFsmQ = .refillIdle)
      (held : respMetaRok state = false ∨ input.refillReqReady = false)
      (next : o.refillFsmD = .refillIdle) (pops : o.refillFifoRespMetaR = false)
      (reads : o.refillFifoRespDataR = false) (acks : o.mshrAck = false)
      (dir : o.refillWriteDir = false)
  | startInval (fsm : state.refillFsmQ = .refillIdle) (filled : respMetaRok state = true)
      (inval : (respMeta state).isInval = true) (next : o.refillFsmD = .refillInval)
      (pops : o.refillFifoRespMetaR = false) (reads : o.refillFifoRespDataR = false)
      (acks : o.mshrAck = false)
      (dir : o.refillWriteDir = false)
  | startRefill (fsm : state.refillFsmQ = .refillIdle) (filled : respMetaRok state = true)
      (granted : input.refillReqReady = true)
      (refill : (respMeta state).isInval = false) (next : o.refillFsmD = .refillWrite)
      (cnt : o.refillCntD = 0) (pops : o.refillFifoRespMetaR = false)
      (reads : o.refillFifoRespDataR = false) (acks : o.mshrAck = true)
      (selects : o.mshrAckCs = true)
      (dir : o.refillWriteDir = false)
  | chunk (fsm : state.refillFsmQ = .refillWrite)
      (more : state.refillCntQ ≠ lastChunkWord cfg) (next : o.refillFsmD = .refillWrite)
      (cnt : o.refillCntD = state.refillCntQ + cfg.accessWords)
      (pops : o.refillFifoRespMetaR = false) (reads : o.refillFifoRespDataR = true)
      (acks : o.mshrAck = false)
      (dir : o.refillWriteDir = false)
  | onlyChunk (fsm : state.refillFsmQ = .refillWrite)
      (last : state.refillCntQ = lastChunkWord cfg) (only : lastChunkWord cfg = 0)
      (next : o.refillFsmD = .refillWriteDir) (pops : o.refillFifoRespMetaR = false)
      (reads : o.refillFifoRespDataR = true) (acks : o.mshrAck = false)
      (dir : o.refillWriteDir = false)
  | lastChunk (fsm : state.refillFsmQ = .refillWrite)
      (last : state.refillCntQ = lastChunkWord cfg) (several : lastChunkWord cfg ≠ 0)
      (next : o.refillFsmD = .refillIdle) (pops : o.refillFifoRespMetaR = true)
      (reads : o.refillFifoRespDataR = true) (acks : o.mshrAck = false)
      (dir : o.refillWriteDir = true)
  | writeDir (fsm : state.refillFsmQ = .refillWriteDir) (next : o.refillFsmD = .refillIdle)
      (pops : o.refillFifoRespMetaR = true) (reads : o.refillFifoRespDataR = false)
      (acks : o.mshrAck = false)
      (dir : o.refillWriteDir = true)
  | inval (fsm : state.refillFsmQ = .refillInval) (next : o.refillFsmD = .refillIdle)
      (pops : o.refillFifoRespMetaR = true) (reads : o.refillFifoRespDataR = false)
      (acks : o.mshrAck = false)
      (dir : o.refillWriteDir = false)

theorem turn (state : State cfg) (input : Input cfg) :
    Turn state input (missRespFsmComb state input) := by
  cases fsm : state.refillFsmQ with
  | refillIdle =>
      simp only [missRespFsmComb, fsm]
      cases filled : respMetaRok state with
      | false =>
          apply Turn.wait fsm (Or.inl filled) <;> simp [refillIdle, refillDefaults, filled, fsm]
      | true =>
          cases granted : input.refillReqReady with
          | false =>
              apply Turn.wait fsm (Or.inr granted) <;>
                simp [refillIdle, refillDefaults, filled, granted, fsm]
          | true =>
              cases inval : (respMeta state).isInval with
              | true =>
                  apply Turn.startInval fsm filled inval <;>
                    simp [refillIdle, refillDefaults, filled, granted, inval]
              | false =>
                  apply Turn.startRefill fsm filled granted inval <;>
                    simp [refillIdle, refillDefaults, filled, granted, inval]
  | refillWrite =>
      simp only [missRespFsmComb, fsm]
      by_cases last : state.refillCntQ = lastChunkWord cfg
      · by_cases only : lastChunkWord cfg = 0
        · apply Turn.onlyChunk fsm last only <;>
            simp [refillWrite, refillDefaults, last, only]
        · apply Turn.lastChunk fsm last only <;>
            simp [refillWrite, refillDefaults, refillEnd, last, only]
      · apply Turn.chunk fsm last <;> simp only [refillWrite, if_neg last] <;> split_ifs <;>
          simp [refillDefaults, fsm]
  | refillWriteDir =>
      simp only [missRespFsmComb, fsm]
      apply Turn.writeDir fsm <;> simp [refillWriteDir, refillEnd, refillDefaults]
  | refillInval =>
      simp only [missRespFsmComb, fsm]
      apply Turn.inval fsm <;> simp [refillInval, refillDefaults]

end MissHandler

/-! ## The ledger -/

namespace Refill

section Ledger

variable {cfg : Cfg}

/-- The beats of a complete read response. -/
structure Burst (widths : Widths cfg) where
  first : List (Beat widths)
  last : Beat widths

namespace Burst

variable {widths : Widths cfg}

def beats (burst : Burst widths) : List (Beat widths) := burst.first ++ [burst.last]

/-- The request words of the burst, in order. -/
def line (burst : Burst widths) : List cfg.wbuf.Data :=
  burst.beats.flatMap fun beat => List.ofFn beat.data

/-- Some beat reports an error. -/
def Failed (burst : Burst widths) : Prop := ∃ beat ∈ burst.beats, beat.error = true

end Burst

/-- The beats of the burst being received, and the complete bursts whose refill
is not finished. -/
structure Ledger (widths : Widths cfg) where
  arriving : List (Beat widths)
  pending : List (Burst widths)

variable {widths : Widths cfg} (state : State widths) (input : Input widths)

def beat : Beat widths where
  error := input.ports.memRespError
  id := input.ports.memRespId
  data := input.memRespData

/-- A beat of a read response is on the memory port. -/
def offersBeat : Bool := input.ports.memRespValid && !input.ports.memRespInval

/-- A beat of a read response is transferred in this cycle. -/
def takesBeat : Bool := offersBeat input && memRespReady state input

/-- The refill of the oldest burst ends in this cycle. -/
def endsRefill : Bool :=
  (out state input).refillFifoRespMetaR && !(MissHandler.respMeta state.miss).isInval

def Ledger.record (ledger : Ledger widths) : Ledger widths where
  arriving :=
    if takesBeat state input then
      if input.ports.memRespLast then [] else ledger.arriving ++ [beat input]
    else ledger.arriving
  pending :=
    (if endsRefill state input then ledger.pending.tail else ledger.pending) ++
      (if takesBeat state input && input.ports.memRespLast then
        [⟨ledger.arriving, beat input⟩] else [])

/-- The refill path with its ledger. -/
def recorded (widths : Widths cfg)
    (powerUp : Sram cfg.mshrSets cfg.mshrWays (Mshr.Entry cfg)) :
    Machine (State widths × Ledger widths) (Input widths) :=
  (machine widths powerUp).withHistory { arriving := [], pending := [] } fun state input ledger =>
    ledger.record state input

/-! ## The queued metadata -/

/-- The metadata of the responses in the queue. -/
def answers (metas : List MissHandler.RespMeta) : List (Bool × Nat) :=
  (metas.filter fun m => !m.isInval).map fun m => (m.rError, m.rId)

/-- The queued metadata are those of the pending bursts, and the state machine
works on the oldest of them. -/
structure Tracked (state : State widths) (ledger : Ledger widths) : Prop where
  metas : answers state.miss.respMetaFifo.contents =
    ledger.pending.map fun burst => (burst.last.error, burst.last.id)
  busy : state.miss.refillFsmQ ≠ .refillIdle → state.miss.respMetaFifo.contents ≠ []
  refill : state.miss.refillFsmQ = .refillWrite ∨ state.miss.refillFsmQ = .refillWriteDir →
    (MissHandler.respMeta state.miss).isInval = false
  inval : state.miss.refillFsmQ = .refillInval →
    (MissHandler.respMeta state.miss).isInval = true

/-! ### The queue of metadata in a cycle -/

theorem respMeta_of_cons {miss : MissHandler.State cfg} {oldest : MissHandler.RespMeta}
    {rest : List MissHandler.RespMeta} (queued : miss.respMetaFifo.contents = oldest :: rest) :
    MissHandler.respMeta miss = oldest :=
  FifoReg.rdata_of_cons queued false _

theorem respMetaRok_iff (miss : MissHandler.State cfg) :
    MissHandler.respMetaRok miss = true ↔ miss.respMetaFifo.contents ≠ [] := by
  simp [MissHandler.respMetaRok, FifoRegs.rok, FifoReg.empty_eq_decide]

/-- The metadata written in this cycle. -/
def newMetas : List MissHandler.RespMeta :=
  if takesBeat state input && input.ports.memRespLast ||
      (input.ports.memRespValid && input.ports.memRespInval && respMetaWok state) then
    [MissHandler.respMetaWdata (missInput state input)]
  else []

/-- One clock edge removes the oldest metadata at the end of a refill or of an
invalidation, and appends those of the response that is completed. -/
theorem metas_step :
    (step state input).miss.respMetaFifo.contents =
      (if (out state input).refillFifoRespMetaR then state.miss.respMetaFifo.contents.tail
        else state.miss.respMetaFifo.contents) ++ newMetas state input := by
  have writes : state.miss.respMetaFifo.wexec false
        (MissHandler.respMetaW (missInput state input)) (out state input).refillFifoRespMetaR =
      (takesBeat state input && input.ports.memRespLast ||
        (input.ports.memRespValid && input.ports.memRespInval && respMetaWok state)) := by
    simp only [FifoRegs.wexec, MissHandler.respMetaW, missInput, takesBeat, offersBeat,
      memRespReady, respMetaWok, FifoRegs.wok]
    cases input.ports.memRespValid <;> cases input.ports.memRespInval <;>
      cases input.ports.memRespLast <;> cases state.miss.respMetaFifo.full <;>
      cases state.dataResize.wok <;> rfl
  have reads (r : Bool) : (if state.miss.respMetaFifo.rexec r then
        state.miss.respMetaFifo.contents.tail else state.miss.respMetaFifo.contents) =
      if r then state.miss.respMetaFifo.contents.tail else state.miss.respMetaFifo.contents := by
    cases queued : state.miss.respMetaFifo.contents with
    | nil => simp
    | cons oldest rest =>
        simp [FifoRegs.rexec, FifoReg.empty_eq_decide, queued]
  change (state.miss.respMetaFifo.step false _ _ (out state input).refillFifoRespMetaR).contents
    = _
  rw [FifoReg.contents_step, reads, writes]
  rfl

@[simp]
theorem answers_append (first second : List MissHandler.RespMeta) :
    answers (first ++ second) = answers first ++ answers second := by
  simp [answers]

theorem answers_newMetas :
    answers (newMetas state input) =
      if takesBeat state input && input.ports.memRespLast then
        [((beat input).error, (beat input).id)]
      else [] := by
  cases inval : input.ports.memRespInval with
  | false =>
      have single : answers [MissHandler.respMetaWdata (missInput state input)] =
          [((beat input).error, (beat input).id)] := by
        simp [answers, MissHandler.respMetaWdata, missInput, beat, inval]
      simp only [newMetas, inval, Bool.and_false, Bool.false_and, Bool.or_false]
      split_ifs
      · exact single
      · rfl
  | true =>
      have none : takesBeat state input = false := by simp [takesBeat, offersBeat, inval]
      have dropped : answers [MissHandler.respMetaWdata (missInput state input)] = [] := by
        simp [answers, MissHandler.respMetaWdata, missInput, inval]
      simp only [newMetas, none, Bool.false_and, Bool.false_or, Bool.false_eq_true, if_false]
      split_ifs
      · exact dropped
      · rfl

/-! ### The invariant -/

theorem Tracked.reset (powerUp : Sram cfg.mshrSets cfg.mshrWays (Mshr.Entry cfg)) :
    Tracked (Refill.reset widths powerUp) { arriving := [], pending := [] } := by
  constructor <;> simp [Refill.reset, MissHandler.reset, answers]

variable {state} {ledger : Ledger widths}

/-- While no metadata are consumed, the oldest ones stay. -/
theorem respMeta_step_of_kept (queued : state.miss.respMetaFifo.contents ≠ [])
    (kept : (out state input).refillFifoRespMetaR = false) :
    (step state input).miss.respMetaFifo.contents ≠ [] ∧
      MissHandler.respMeta (step state input).miss = MissHandler.respMeta state.miss := by
  rcases List.exists_cons_of_ne_nil queued with ⟨oldest, rest, stored⟩
  have after : (step state input).miss.respMetaFifo.contents =
      oldest :: (rest ++ newMetas state input) := by
    rw [metas_step, kept, stored]
    rfl
  constructor
  · rw [after]
    exact List.cons_ne_nil _ _
  · rw [respMeta_of_cons after, respMeta_of_cons stored]

theorem Tracked.oldest (tracked : Tracked state ledger)
    (queued : state.miss.respMetaFifo.contents ≠ [])
    (refill : (MissHandler.respMeta state.miss).isInval = false) :
    ∃ burst rest, ledger.pending = burst :: rest ∧
      (MissHandler.respMeta state.miss).rError = burst.last.error ∧
      (MissHandler.respMeta state.miss).rId = burst.last.id := by
  rcases List.exists_cons_of_ne_nil queued with ⟨oldest, later, stored⟩
  have metas := tracked.metas
  rw [respMeta_of_cons stored] at refill
  simp only [stored, answers, List.filter_cons, refill, Bool.not_false, if_true,
    List.map_cons] at metas
  cases waiting : ledger.pending with
  | nil => simp [waiting] at metas
  | cons burst rest =>
      rw [waiting, List.map_cons, List.cons.injEq, Prod.mk.injEq] at metas
      rw [respMeta_of_cons stored]
      exact ⟨burst, rest, rfl, metas.1.1, metas.1.2⟩

theorem Tracked.oldest_of_busy (tracked : Tracked state ledger)
    (busy : state.miss.refillFsmQ = .refillWrite ∨ state.miss.refillFsmQ = .refillWriteDir) :
    ∃ burst rest, ledger.pending = burst :: rest ∧
      MissHandler.refillIsError state.miss = burst.last.error := by
  have queued : state.miss.respMetaFifo.contents ≠ [] := by
    apply tracked.busy
    rcases busy with busy | busy <;> simp [busy]
  rcases tracked.oldest queued (tracked.refill busy) with ⟨burst, rest, waiting, error, _⟩
  exact ⟨burst, rest, waiting, error⟩

theorem Tracked.pending_of_endsRefill (tracked : Tracked state ledger)
    (ends : endsRefill state input = true) : ledger.pending ≠ [] := by
  simp only [endsRefill, Bool.and_eq_true, Bool.not_eq_true'] at ends
  have busy : state.miss.refillFsmQ ≠ .refillIdle := by
    have turn := MissHandler.turn state.miss (missInput state input)
    change MissHandler.Turn _ _ (out state input) at turn
    intro idle
    cases turn <;> simp_all
  rcases tracked.oldest (tracked.busy busy) ends.2 with ⟨burst, rest, waiting, _⟩
  rw [waiting]
  exact List.cons_ne_nil _ _

theorem Tracked.metas_step (tracked : Tracked state ledger)
    (busy : (out state input).refillFifoRespMetaR = true →
      state.miss.respMetaFifo.contents ≠ []) :
    answers (Refill.step state input).miss.respMetaFifo.contents =
      (ledger.record state input).pending.map fun burst =>
        (burst.last.error, burst.last.id) := by
  rw [Refill.metas_step, answers_append, answers_newMetas]
  simp only [Ledger.record, List.map_append]
  congr 1
  · cases pops : (out state input).refillFifoRespMetaR with
    | false =>
        simp only [endsRefill, pops, Bool.false_and, Bool.false_eq_true, if_false]
        exact tracked.metas
    | true =>
        rcases List.exists_cons_of_ne_nil (busy pops) with ⟨oldest, rest, stored⟩
        have queued := tracked.metas
        rw [stored] at queued
        simp only [endsRefill, pops, Bool.true_and, respMeta_of_cons stored, stored,
          List.tail_cons, if_true]
        cases inval : oldest.isInval with
        | true =>
            simp only [answers, List.filter_cons, inval, Bool.not_true, Bool.false_eq_true,
              if_false] at queued ⊢
            exact queued
        | false =>
            simp only [answers, List.filter_cons, inval, Bool.not_false, if_true,
              List.map_cons] at queued ⊢
            rw [List.map_tail, ← queued, List.tail_cons]
  · split_ifs <;> rfl

theorem Tracked.step (tracked : Tracked state ledger) :
    Tracked (Refill.step state input) (ledger.record state input) := by
  have turn := MissHandler.turn state.miss (missInput state input)
  have fsmD : (Refill.step state input).miss.refillFsmQ = (out state input).refillFsmD := rfl
  have metas : answers (Refill.step state input).miss.respMetaFifo.contents =
      (ledger.record state input).pending.map fun burst =>
        (burst.last.error, burst.last.id) := by
    apply tracked.metas_step
    intro pops
    apply tracked.busy
    intro idle
    cases turn <;> simp_all [out]
  have idle (next : (out state input).refillFsmD = .refillIdle) :
      Tracked (Refill.step state input) (ledger.record state input) := by
    constructor
    · exact metas
    · intro busy
      exact absurd (fsmD.trans next) busy
    · intro busy
      rw [fsmD, next] at busy
      simp at busy
    · intro busy
      rw [fsmD, next] at busy
      simp at busy
  -- A refill or an invalidation that goes on keeps the oldest metadata.
  have goesOn (queued : state.miss.respMetaFifo.contents ≠ [])
      (pops : (out state input).refillFifoRespMetaR = false)
      (refill : (out state input).refillFsmD ≠ .refillInval →
        (MissHandler.respMeta state.miss).isInval = false)
      (inval : (out state input).refillFsmD = .refillInval →
        (MissHandler.respMeta state.miss).isInval = true) :
      Tracked (Refill.step state input) (ledger.record state input) := by
    rcases respMeta_step_of_kept input queued pops with ⟨stays, same⟩
    constructor
    · exact metas
    · intro _
      exact stays
    · intro busy
      rw [same]
      apply refill
      rw [← fsmD]
      rcases busy with busy | busy <;> rw [busy] <;> simp
    · intro busy
      rw [same]
      exact inval (fsmD.symm.trans busy)
  cases turn with
  | wait fsm held next => exact idle next
  | startInval fsm filled inval next pops =>
      exact goesOn ((respMetaRok_iff _).mp filled) pops (fun other => absurd next other)
        fun _ => inval
  | startRefill fsm filled granted refill next cnt pops =>
      refine goesOn ((respMetaRok_iff _).mp filled) pops (fun _ => refill) fun other => ?_
      rw [out, next] at other
      simp at other
  | chunk fsm more next cnt pops =>
      refine goesOn (tracked.busy (by simp [fsm])) pops
        (fun _ => tracked.refill (Or.inl fsm)) fun other => ?_
      rw [out, next] at other
      simp at other
  | onlyChunk fsm last only next pops =>
      refine goesOn (tracked.busy (by simp [fsm])) pops
        (fun _ => tracked.refill (Or.inl fsm)) fun other => ?_
      rw [out, next] at other
      simp at other
  | lastChunk fsm last several next => exact idle next
  | writeDir fsm next => exact idle next
  | inval fsm next => exact idle next

theorem tracked_run (powerUp : Sram cfg.mshrSets cfg.mshrWays (Mshr.Entry cfg))
    (inputs : List (Input widths)) :
    Tracked ((recorded widths powerUp).run inputs).1 ((recorded widths powerUp).run inputs).2 :=
  (recorded widths powerUp).run_invariant (fun s => Tracked s.1 s.2) (Tracked.reset powerUp)
    (fun _ input tracked => tracked.step input) inputs

end Ledger

end Refill

end Cva6Hpd.Hpdcache

/-!
## Errors in refill bursts

The error flag of a burst travels with its metadata, which are queued with the
last beat: the directory entry and the core response carry the flag of the last
beat only. They are right about the burst when an error on any of its beats is
also reported on its last one.
-/

namespace Cva6Hpd.Hpdcache.Refill

open Cva6Hpd.Hw
open Cva6Hpd.Common

variable {cfg : Cfg} {widths : Widths cfg}

instance decidableFailed (burst : Burst widths) : Decidable burst.Failed :=
  inferInstanceAs (Decidable (∃ beat ∈ burst.beats, beat.error = true))

/-- The last beat reports an error if any beat does. -/
def Burst.ReportsLast (burst : Burst widths) : Prop :=
  burst.Failed → burst.last.error = true

theorem Burst.clean_iff_reportsLast (burst : Burst widths) :
    (burst.last.error = false → ¬burst.Failed) ↔ burst.ReportsLast := by
  constructor
  · intro clean failed
    by_contra silent
    exact clean (Bool.eq_false_iff.mpr silent) failed
  · intro reports clean failed
    rw [reports failed] at clean
    exact Bool.noConfusion clean

theorem busy_of_refillWriteDir {state : State widths} {input : Input widths}
    (writes : (out state input).refillWriteDir = true) :
    state.miss.refillFsmQ = .refillWrite ∨ state.miss.refillFsmQ = .refillWriteDir := by
  have turn := MissHandler.turn state.miss (missInput state input)
  cases turn <;> simp_all [out]

theorem Tracked.endsRefill_eq {state : State widths} {ledger : Ledger widths}
    (tracked : Tracked state ledger) (input : Input widths) :
    endsRefill state input = (out state input).refillWriteDir := by
  have turn := MissHandler.turn state.miss (missInput state input)
  have refill := tracked.refill
  have inval := tracked.inval
  cases turn <;> simp_all [endsRefill, out]

/-- The line is left valid, and the core response is error-free, only for a
burst without error, exactly when the last beat of a burst in error reports
it. Every burst ends with a write of the directory. -/
theorem refillErrors_run (powerUp : Sram cfg.mshrSets cfg.mshrWays (Mshr.Entry cfg))
    (inputs : List (Input widths)) (input : Input widths) :
    let state := ((recorded widths powerUp).run inputs).1
    let ledger := ((recorded widths powerUp).run inputs).2
    endsRefill state input = (out state input).refillWriteDir ∧
      ((out state input).refillWriteDir = true →
        ∃ burst rest, ledger.pending = burst :: rest ∧
          (((MissHandler.refillDirEntry state.miss).valid = true → ¬burst.Failed) ↔
            burst.ReportsLast)) ∧
      (MissHandler.refillCoreRspValid state.miss = true →
        ∃ burst rest, ledger.pending = burst :: rest ∧
          (((MissHandler.refillCoreRsp state.miss (missInput state input)).error = false →
              ¬burst.Failed) ↔
            burst.ReportsLast)) := by
  intro state ledger
  have tracked : Tracked state ledger := tracked_run powerUp inputs
  refine ⟨tracked.endsRefill_eq input, ?_, ?_⟩
  · intro writes
    rcases tracked.oldest_of_busy (busy_of_refillWriteDir writes) with
      ⟨burst, rest, oldest, error⟩
    refine ⟨burst, rest, oldest, ?_⟩
    rw [← burst.clean_iff_reportsLast, ← error]
    simp [MissHandler.refillDirEntry]
  · intro responds
    have writing : state.miss.refillFsmQ = .refillWrite := by
      simp only [MissHandler.refillCoreRspValid, Bool.and_eq_true, decide_eq_true_eq]
        at responds
      exact responds.1.1
    rcases tracked.oldest_of_busy (Or.inl writing) with ⟨burst, rest, oldest, error⟩
    refine ⟨burst, rest, oldest, ?_⟩
    have flag : (MissHandler.refillCoreRsp state.miss (missInput state input)).error =
        MissHandler.refillIsError state.miss := by
      simp only [MissHandler.refillCoreRsp, MissHandler.missRespFsmComb, writing,
        MissHandler.refillWrite]
      split_ifs <;> rfl
    rw [← burst.clean_iff_reportsLast, ← error, flag]

/-! ## A burst whose error is lost -/

/-- The small configuration with a data FIFO of two entries. -/
abbrev twoEntries : Widths (smallCfg 2 Nat.two_pos) := smallWidths 2 Nat.two_pos

/-- A quiet cycle of the small configuration. -/
abbrev quiet : Input twoEntries := Input.quiet twoEntries

/-- One beat of a response to the read of slot 0. -/
def beatInput (error last : Bool) : Input twoEntries :=
  { quiet with
    ports := { quiet.ports with
      memRespValid := true
      memRespError := error
      memRespLast := last } }

/-- A load misses, its read is sent, the first beat of the response reports an
error and the last does not, and the refill is granted. -/
def lostError : List (Input twoEntries) :=
  [{ quiet with
      ports := { quiet.ports with
        mshrAlloc := true
        mshrAllocCs := true
        mshrAllocNeedRsp := true
        mshrAllocVictimWay := fun _ => true } },
    { quiet with ports := { quiet.ports with memReqReady := true } },
    beatInput true false,
    beatInput false true,
    { quiet with ports := { quiet.ports with refillReqReady := true } }]

/-- The state and the ledger after some cycles of that run. -/
def lostErrorAfter (cycles : List (Input twoEntries)) : State twoEntries × Ledger twoEntries :=
  (recorded twoEntries (clearMshr _)).run cycles

/-- The first beat of the burst reports an error; the load is answered without
error, and the line is left valid. -/
theorem errorLost_firstBeat :
    ((lostErrorAfter lostError).2.pending.map fun burst => decide burst.Failed) = [true] ∧
      MissHandler.refillCoreRspValid (lostErrorAfter lostError).1.miss = true ∧
      (MissHandler.refillCoreRsp (lostErrorAfter lostError).1.miss
        (missInput (lostErrorAfter lostError).1 quiet)).error = false ∧
      (out (lostErrorAfter (lostError ++ [quiet])).1 quiet).refillWriteDir = true ∧
      (MissHandler.refillDirEntry (lostErrorAfter (lostError ++ [quiet])).1.miss).valid =
        true := by
  decide +kernel

end Cva6Hpd.Hpdcache.Refill
