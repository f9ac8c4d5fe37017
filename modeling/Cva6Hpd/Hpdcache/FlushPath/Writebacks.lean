import Cva6Hpd.Hpdcache.FlushPath.Core
import Mathlib.Data.List.Nodup

/-!
# The lines being written back

The log of a run records the lines allocated, what the memory received on its
two channels, and the write-backs it has not acknowledged. The directory of the
flush controller holds exactly the latter, and the requests are sent in the
order of the allocations.
-/

namespace Cva6Hpd.Hpdcache.FlushPath

open Cva6Hpd.Hw
open Cva6Hpd.Common

variable {cfg : Cfg} {widths : FlushWidths cfg}

/-! ## The log -/

/-- A line handed to the flush controller, with its accesses in address order. -/
structure Writeback (widths : FlushWidths cfg) where
  nline : Nat
  entry : Fin cfg.flushEntries
  way : cfg.Way
  accesses : Nat → widths.AccessData

/-- The request that announces a line. -/
def Writeback.request (writeback : Writeback widths) : Flush.MemReq cfg where
  nline := writeback.nline
  memReqId := writeback.entry

/-- `hpdcache_mem_req_w_t`, the fields that vary. -/
structure MemBeat (widths : FlushWidths cfg) where
  data : widths.MemData
  last : Bool

/-- The lines allocated, the requests and the beats that the memory received,
and the entries without acknowledgement, with their lines. -/
structure Log (widths : FlushWidths cfg) where
  allocated : List (Writeback widths)
  requests : List (Flush.MemReq cfg)
  beats : List (MemBeat widths)
  pending : List (Fin cfg.flushEntries × Nat)

section Record

variable (state : State widths) (input : Input widths)

/-- The line allocated in this cycle, as the data array holds it. -/
def offered : Writeback widths where
  nline := input.flushAllocNline
  entry := Flush.freePtr state.flush
  way := input.flushAllocWay.lastIndex
  accesses := fun k =>
    input.array (cfg.setOf input.flushAllocNline) input.flushAllocWay.lastIndex
      (k * cfg.accessWords)

/-- `mem_req_write_data_o`. -/
def memReqWriteData : MemBeat widths where
  data := state.resizer.rdata
  last := flushMemReqRlast state

/-- The pending write-backs without the one acknowledged in this cycle. -/
def unacked (pending : List (Fin cfg.flushEntries × Nat)) : List (Fin cfg.flushEntries × Nat) :=
  if input.memRespWriteValid then
    pending.filter fun writeback => decide (writeback.1.val ≠ input.memRespWId)
  else pending

def Log.record (log : Log widths) : Log widths where
  allocated := log.allocated ++ if alloc state input then [offered state input] else []
  requests := log.requests ++
    if memReqWriteValid state && input.memReqWriteReady then [memReqWrite state] else []
  beats := log.beats ++
    if memReqWriteDataValid state && input.memReqWriteDataReady then [memReqWriteData state]
    else []
  pending := unacked input log.pending ++
    if alloc state input then [(Flush.freePtr state.flush, input.flushAllocNline)] else []

end Record

/-- The write-back path with its log. -/
def logged (widths : FlushWidths cfg) (dataRentry : widths.RamData) (dataFlushReadQ : Bool) :
    Machine (State widths × Log widths) (Input widths) :=
  (machine widths dataRentry dataFlushReadQ).withHistory
    { allocated := [], requests := [], beats := [], pending := [] }
    fun state input log => log.record state input

/-! ## The directory -/

/-- An acknowledgement carries the identifier of an entry. -/
def Named (input : Input widths) : Prop :=
  input.memRespWriteValid = true → input.memRespWId < cfg.flushEntries

/-- The valid entries are those of the pending write-backs, one each. -/
structure Listed (state : State widths) (log : Log widths) : Prop where
  distinct : (log.pending.map Prod.fst).Nodup
  valid : ∀ entry, state.flush.flushDirValidQ entry = true ↔ entry ∈ log.pending.map Prod.fst
  nline : ∀ writeback ∈ log.pending, state.flush.flushDirQ writeback.1 = writeback.2
  arb : Fxarb.Holds state.flush.flushDirFreeArb fun entry =>
    !state.flush.flushDirValidQ entry

section Directory

variable {state : State widths} {log : Log widths} {input : Input widths}

theorem ackBv_eq (state : State widths) (named : Named input) (entry : Fin cfg.flushEntries) :
    Flush.ackBv (flushIn state input).mem entry =
      (input.memRespWriteValid && decide (entry.val = input.memRespWId)) := by
  change (input.memRespWriteValid && decide (entry.val = input.memRespWId % _)) = _
  cases acked : input.memRespWriteValid with
  | false => rfl
  | true =>
      have inside : input.memRespWId < 2 ^ max 1 (Nat.clog 2 cfg.flushEntries) :=
        calc input.memRespWId < cfg.flushEntries := named acked
          _ ≤ 2 ^ Nat.clog 2 cfg.flushEntries := Nat.le_pow_clog Nat.one_lt_two _
          _ ≤ 2 ^ max 1 (Nat.clog 2 cfg.flushEntries) :=
            Nat.pow_le_pow_right Nat.two_pos (Nat.le_max_right _ _)
      rw [Nat.mod_eq_of_lt inside]

theorem mem_unacked_iff (input : Input widths) (pending : List (Fin cfg.flushEntries × Nat))
    (entry : Fin cfg.flushEntries) :
    entry ∈ (unacked input pending).map Prod.fst ↔
      entry ∈ pending.map Prod.fst ∧
        (input.memRespWriteValid && decide (entry.val = input.memRespWId)) = false := by
  cases acked : input.memRespWriteValid with
  | false => simp [unacked, acked]
  | true =>
      simp only [unacked, acked, if_true, List.mem_map, List.mem_filter, decide_eq_true_eq,
        Bool.true_and, decide_eq_false_iff_not]
      constructor
      · rintro ⟨writeback, ⟨member, other⟩, rfl⟩
        exact ⟨⟨writeback, member, rfl⟩, other⟩
      · rintro ⟨⟨writeback, member, rfl⟩, other⟩
        exact ⟨writeback, ⟨member, other⟩, rfl⟩

theorem unacked_sublist (input : Input widths) (pending : List (Fin cfg.flushEntries × Nat)) :
    (unacked input pending).Sublist pending := by
  unfold unacked
  split_ifs
  · exact List.filter_sublist
  · exact List.Sublist.refl _

/-- The entry given to a line is a free one. -/
theorem Listed.free (listed : Listed state log) (allocates : alloc state input = true) :
    Flush.freeBv state.flush = Bits.single (Flush.freePtr state.flush) ∧
      state.flush.flushDirValidQ (Flush.freePtr state.flush) = false := by
  have room : (Bits.any fun entry => !state.flush.flushDirValidQ entry) = true := by
    simp only [alloc, Flush.alloc, Flush.allocReady, Flush.full, Bool.and_eq_true,
      Bool.not_eq_true'] at allocates
    rcases (Bits.all_eq_false_iff _).mp allocates.2.2 with ⟨entry, free⟩
    exact (Bits.any_eq_true_iff _).mpr ⟨entry, by simp [free]⟩
  rcases Fxarb.gnt_oneHot listed.arb room with ⟨entry, grant, free⟩
  have granted : Flush.freeBv state.flush = Bits.single entry := grant
  have pointer : Flush.freePtr state.flush = entry := by
    rw [Flush.freePtr, granted, Bits.lastIndex_single]
  rw [pointer]
  exact ⟨granted, by simpa using free⟩

theorem Listed.checkHit_iff (listed : Listed state log) (named : Named input) (nline : Nat) :
    Flush.checkHit state.flush (flushIn state input).mem nline = true ↔
      ∃ writeback ∈ unacked input log.pending, writeback.2 = nline := by
  simp only [Flush.checkHit, Bits.any_eq_true_iff, Bool.and_eq_true, Bool.not_eq_true',
    decide_eq_true_eq, ackBv_eq state named, listed.valid]
  constructor
  · rintro ⟨entry, ⟨member, other⟩, same⟩
    have stays := (mem_unacked_iff input log.pending entry).mpr ⟨member, other⟩
    rcases List.mem_map.mp stays with ⟨writeback, member', rfl⟩
    refine ⟨writeback, member', ?_⟩
    rw [same, listed.nline writeback ((unacked_sublist input log.pending).subset member')]
  · rintro ⟨writeback, member, rfl⟩
    have stays := (mem_unacked_iff input log.pending writeback.1).mp
      (List.mem_map_of_mem member)
    exact ⟨writeback.1, stays,
      (listed.nline writeback ((unacked_sublist input log.pending).subset member)).symm⟩

theorem Listed.reset (dataRentry : widths.RamData) (dataFlushReadQ : Bool) :
    Listed (logged widths dataRentry dataFlushReadQ).reset.1
      (logged widths dataRentry dataFlushReadQ).reset.2 where
  distinct := List.nodup_nil
  valid := by simp [logged, Machine.withHistory, machine, FlushPath.reset, Flush.reset]
  nline := by simp [logged, Machine.withHistory]
  arb := Fxarb.holds_reset _

theorem Listed.step (listed : Listed state log) (named : Named input) :
    Listed (FlushPath.step state input) (log.record state input) := by
  have validD (entry : Fin cfg.flushEntries) :
      (FlushPath.step state input).flush.flushDirValidQ entry = true ↔
        (state.flush.flushDirValidQ entry = false ∧ Flush.freeBv state.flush entry = true ∧
          alloc state input = true) ∨
        entry ∈ (unacked input log.pending).map Prod.fst := by
    rw [mem_unacked_iff, ← listed.valid, ← ackBv_eq state named]
    simp only [FlushPath.step, Flush.step, alloc, Bool.or_eq_true, Bool.and_eq_true,
      Bool.not_eq_true']
  have arb : Fxarb.Holds (FlushPath.step state input).flush.flushDirFreeArb fun entry =>
      !(FlushPath.step state input).flush.flushDirValidQ entry := by
    refine Fxarb.holds_step listed.arb ?_
    intro idle entry free
    rw [Bool.not_eq_true', Bool.eq_false_iff, Ne, validD, not_or]
    refine ⟨?_, ?_⟩
    · rintro ⟨_, _, allocates⟩
      rw [alloc, idle] at allocates
      exact Bool.noConfusion allocates
    · rw [mem_unacked_iff, ← listed.valid]
      rintro ⟨used, _⟩
      rw [used] at free
      exact Bool.noConfusion free
  cases allocates : alloc state input with
  | false =>
      have same : (log.record state input).pending = unacked input log.pending := by
        simp only [Log.record, allocates, Bool.false_eq_true, if_false, List.append_nil]
      have lines : (FlushPath.step state input).flush.flushDirQ = state.flush.flushDirQ := by
        have none : Flush.alloc state.flush (flushIn state input) = false := allocates
        funext entry
        simp only [FlushPath.step, Flush.step, none, Bool.false_and, Bool.false_eq_true,
          if_false]
      have sublist := unacked_sublist input log.pending
      constructor
      · rw [same]
        exact listed.distinct.sublist (sublist.map _)
      · intro entry
        rw [validD, same, allocates]
        simp
      · rw [same, lines]
        exact fun writeback member => listed.nline writeback (sublist.subset member)
      · exact arb
  | true =>
      rcases listed.free allocates with ⟨granted, free⟩
      have same : (log.record state input).pending = unacked input log.pending ++
          [(Flush.freePtr state.flush, input.flushAllocNline)] := by
        simp only [Log.record, allocates, if_true]
      have lines (entry : Fin cfg.flushEntries) :
          (FlushPath.step state input).flush.flushDirQ entry =
            if entry = Flush.freePtr state.flush then input.flushAllocNline
            else state.flush.flushDirQ entry := by
        have some : Flush.alloc state.flush (flushIn state input) = true := allocates
        simp only [FlushPath.step, Flush.step, some, Bool.true_and, decide_eq_true_eq]
        rfl
      have sublist := unacked_sublist input log.pending
      have unused : Flush.freePtr state.flush ∉ log.pending.map Prod.fst := by
        rw [← listed.valid, free]
        exact Bool.false_ne_true
      have unused' : Flush.freePtr state.flush ∉ (unacked input log.pending).map Prod.fst :=
        fun member => unused ((sublist.map _).subset member)
      constructor
      · rw [same, List.map_append, List.map_singleton, List.nodup_append_comm,
          List.singleton_append, List.nodup_cons]
        exact ⟨unused', listed.distinct.sublist (sublist.map _)⟩
      · intro entry
        rw [validD, same, allocates, granted, List.map_append, List.map_singleton,
          List.mem_append, List.mem_singleton, Bits.single_eq_true_iff]
        constructor
        · rintro (⟨_, new, _⟩ | old)
          · exact Or.inr new
          · exact Or.inl old
        · rintro (old | rfl)
          · exact Or.inr old
          · exact Or.inl ⟨free, rfl, rfl⟩
      · rw [same]
        intro writeback member
        rw [lines]
        rcases List.mem_append.mp member with old | new
        · have other : writeback.1 ≠ Flush.freePtr state.flush := fun equal =>
            unused' (equal ▸ List.mem_map_of_mem old)
          rw [if_neg other]
          exact listed.nline writeback (sublist.subset old)
        · rw [List.mem_singleton] at new
          rw [new, if_pos rfl]
      · exact arb

end Directory

end Cva6Hpd.Hpdcache.FlushPath
