import Cva6Hpd.Icache.Core

/-!
# What one cycle of the instruction cache does

The state machine by its outputs: when it accepts a request, asks the memory,
fills, clears or invalidates, and where it goes. The read ports follow from
that: while the cache is enabled and a request is looked up, they show the set
of the request, and after a cycle without an invalidation they show it as it
is.
-/

namespace Cva6Hpd.Icache

open Cva6Hpd.Hw Cva6Hpd.Common

section Outputs

variable {cfg : Cfg} {s : State cfg} {i : Input cfg}

theorem pFsm_invEn (s : State cfg) (i : Input cfg) : (pFsm s i).invEn = invEn i := by
  cases state : s.stateQ with
  | flush => simp only [pFsm, state, ctrlFlush]; split_ifs <;> rfl
  | idle => simp only [pFsm, state, ctrlIdle]; split_ifs <;> rfl
  | read => simp only [pFsm, state, ctrlRead]; split_ifs <;> rfl
  | miss => simp only [pFsm, state, ctrlMiss]; split_ifs <;> rfl
  | killAtrans => simp only [pFsm, state]; rfl
  | killMiss => simp only [pFsm, state]; rfl

theorem pFsm_flushEn (s : State cfg) (i : Input cfg) :
    (pFsm s i).flushEn = decide (s.stateQ = .flush) := by
  cases state : s.stateQ with
  | flush => simp only [pFsm, state, ctrlFlush]; split_ifs <;> rfl
  | idle => simp only [pFsm, state, ctrlIdle]; split_ifs <;> rfl
  | read => simp only [pFsm, state, ctrlRead]; split_ifs <;> rfl
  | miss => simp only [pFsm, state, ctrlMiss]; split_ifs <;> rfl
  | killAtrans => simp only [pFsm, state]; rfl
  | killMiss => simp only [pFsm, state]; rfl

/-- A fill: the memory answers a cacheable miss that was not killed. -/
theorem cacheWren_iff (s : State cfg) (i : Input cfg) :
    (pFsm s i).cacheWren = true ↔
      s.stateQ = .miss ∧ ifillAck i = true ∧ i.killS2 = false ∧ flushPending s i = false ∧
        paddrIsNc s i = false := by
  cases state : s.stateQ with
  | flush => simp only [pFsm, state, ctrlFlush]; split_ifs <;> simp [ctrlDefault]
  | idle => simp only [pFsm, state, ctrlIdle]; split_ifs <;> simp [ctrlDefault]
  | read => simp only [pFsm, state, ctrlRead]; split_ifs <;> simp [ctrlDefault]
  | miss => simp only [pFsm, state, ctrlMiss]; split_ifs <;> simp_all [ctrlDefault]
  | killAtrans => simp [pFsm, state, ctrlKillAtrans, ctrlDefault]
  | killMiss => simp [pFsm, state, ctrlKillMiss, ctrlDefault]

/-- A lookup: a request accepted while idle, or any cycle of a lookup in
progress while the cache is enabled. -/
theorem cacheRden_iff (s : State cfg) (i : Input cfg) :
    (pFsm s i).cacheRden = true ↔
      (s.stateQ = .idle ∧ accepts s i = true) ∨ (s.stateQ = .read ∧ s.cacheEnQ = true) := by
  cases state : s.stateQ with
  | flush => simp only [pFsm, state, ctrlFlush]; split_ifs <;> simp [ctrlDefault]
  | idle =>
      simp only [accepts, pFsm, state, ctrlIdle]
      split_ifs <;> simp [ctrlDefault]
  | read => simp only [pFsm, state, ctrlRead]; split_ifs <;> simp
  | miss => simp only [pFsm, state, ctrlMiss]; split_ifs <;> simp [ctrlDefault]
  | killAtrans => simp [pFsm, state, ctrlKillAtrans, ctrlDefault]
  | killMiss => simp [pFsm, state, ctrlKillMiss, ctrlDefault]

/-- The lookup has its result: a hit or an exception of the translation. -/
def Served (s : State cfg) (i : Input cfg) : Prop :=
  s.stateQ = .read ∧ translated i = true ∧ flushPending s i = false ∧
    hitOrException s i = true ∧ s.invQ = false

theorem memDataReq_iff (s : State cfg) (i : Input cfg) :
    (pFsm s i).memDataReq = true ↔
      s.stateQ = .read ∧ translated i = true ∧ flushPending s i = false ∧
        hitOrException s i = false ∧
        i.killS2 = false ∧ s.invQ = false := by
  cases state : s.stateQ with
  | flush => simp only [pFsm, state, ctrlFlush]; split_ifs <;> simp [ctrlDefault]
  | idle => simp only [pFsm, state, ctrlIdle]; split_ifs <;> simp [ctrlDefault]
  | read =>
      simp only [pFsm, state, ctrlRead]
      split_ifs <;> simp_all [ctrlDefault]
  | miss => simp only [pFsm, state, ctrlMiss]; split_ifs <;> simp [ctrlDefault]
  | killAtrans => simp [pFsm, state, ctrlKillAtrans, ctrlDefault]
  | killMiss => simp [pFsm, state, ctrlKillMiss, ctrlDefault]

theorem accepts_iff (s : State cfg) (i : Input cfg) :
    accepts s i = true ↔
      (i.memRtrnVld = false ∧ i.req = true) ∧
        ((s.stateQ = .idle ∧ flushPending s i = false ∧ (i.en = true → s.cacheEnQ = true)) ∨
          Served s i) := by
  unfold Served
  cases state : s.stateQ with
  | flush => simp only [accepts, pFsm, state, ctrlFlush]; split_ifs <;> simp [ctrlDefault]
  | idle =>
      by_cases clear : (flushPending s i || (i.en && !s.cacheEnQ)) = true
      · simp only [accepts, pFsm, state, ctrlIdle, if_pos clear]
        rcases Bool.or_eq_true_iff.mp clear with flush | enable
        · simp [ctrlDefault, flush]
        · simp_all [ctrlDefault]
      · simp only [accepts, pFsm, state, ctrlIdle, if_neg clear]
        simp_all
  | read =>
      simp only [accepts, pFsm, state, ctrlRead]
      split_ifs <;> simp_all [ctrlDefault]
  | miss => simp only [accepts, pFsm, state, ctrlMiss]; split_ifs <;> simp_all [ctrlDefault]
  | killAtrans => simp [accepts, pFsm, state, ctrlKillAtrans, ctrlDefault]
  | killMiss => simp [accepts, pFsm, state, ctrlKillMiss, ctrlDefault]

/-- A response: the result of a lookup that is not killed, or a miss that the
memory answers and nothing kills. -/
theorem valid_iff (s : State cfg) (i : Input cfg) :
    (pFsm s i).valid = true ↔
      i.killS2 = false ∧
        (Served s i ∨
          (s.stateQ = .miss ∧ ifillAck i = true ∧ flushPending s i = false)) := by
  unfold Served
  cases state : s.stateQ with
  | flush => simp only [pFsm, state, ctrlFlush]; split_ifs <;> simp [ctrlDefault]
  | idle => simp only [pFsm, state, ctrlIdle]; split_ifs <;> simp [ctrlDefault]
  | read =>
      simp only [pFsm, state, ctrlRead]
      split_ifs <;> simp_all [ctrlDefault]
  | miss => simp only [pFsm, state, ctrlMiss]; split_ifs <;> simp_all [ctrlDefault]
  | killAtrans => simp [pFsm, state, ctrlKillAtrans, ctrlDefault]
  | killMiss => simp [pFsm, state, ctrlKillMiss, ctrlDefault]

/-- The comparison is enabled for the next cycle unless a miss is presented. -/
theorem cmpEnD_iff (s : State cfg) (i : Input cfg) :
    (pFsm s i).cmpEnD = true ↔
      (s.stateQ = .idle ∨ s.stateQ = .read) ∧ s.cacheEnQ = true ∧
        (pFsm s i).memDataReq = false := by
  cases state : s.stateQ with
  | flush => simp only [pFsm, state, ctrlFlush]; split_ifs <;> simp [ctrlDefault]
  | idle => simp only [pFsm, state, ctrlIdle]; split_ifs <;> simp [ctrlDefault]
  | read =>
      simp only [pFsm, state, ctrlRead]
      split_ifs <;> simp_all [ctrlDefault]
  | miss => simp only [pFsm, state, ctrlMiss]; split_ifs <;> simp_all [ctrlDefault]
  | killAtrans => simp [pFsm, state, ctrlKillAtrans, ctrlDefault]
  | killMiss => simp [pFsm, state, ctrlKillMiss, ctrlDefault]

/-- The cache is enabled only at the end of a clear. -/
theorem cacheEnD_eq (s : State cfg) (i : Input cfg) :
    (pFsm s i).cacheEnD =
      if s.stateQ = .flush ∧ flushDone s = true then i.en else (s.cacheEnQ && i.en) := by
  cases state : s.stateQ with
  | flush => simp only [pFsm, state, ctrlFlush]; split_ifs <;> simp_all [ctrlDefault]
  | idle => simp only [pFsm, state, ctrlIdle]; split_ifs <;> simp_all [ctrlDefault]
  | read => simp only [pFsm, state, ctrlRead]; split_ifs <;> simp_all [ctrlDefault]
  | miss => simp only [pFsm, state, ctrlMiss]; split_ifs <;> simp_all [ctrlDefault]
  | killAtrans => simp [pFsm, state, ctrlKillAtrans, ctrlDefault]
  | killMiss => simp [pFsm, state, ctrlKillMiss, ctrlDefault]

/-- A flush is forgotten only when a clear ends. -/
theorem flushD_eq (s : State cfg) (i : Input cfg) :
    (pFsm s i).flushD =
      if s.stateQ = .flush ∧ flushDone s = true then false else flushPending s i := by
  cases state : s.stateQ with
  | flush => simp only [pFsm, state, ctrlFlush]; split_ifs <;> simp_all [ctrlDefault]
  | idle => simp only [pFsm, state, ctrlIdle]; split_ifs <;> simp_all [ctrlDefault]
  | read => simp only [pFsm, state, ctrlRead]; split_ifs <;> simp_all [ctrlDefault]
  | miss => simp only [pFsm, state, ctrlMiss]; split_ifs <;> simp_all [ctrlDefault]
  | killAtrans => simp [pFsm, state, ctrlKillAtrans, ctrlDefault]
  | killMiss => simp [pFsm, state, ctrlKillMiss, ctrlDefault]

/-- A lookup goes on: nothing is returned, asked, dropped or killed. -/
def Waits (s : State cfg) (i : Input cfg) : Prop :=
  s.stateQ = .read ∧ i.killS2 = false ∧ flushPending s i = false ∧
    (translated i = false ∨ s.invQ = true ∨
      ((pFsm s i).memDataReq = true ∧ i.memDataAck = false))

/-- The next cycle looks up: a request was accepted, or a lookup goes on. -/
theorem stateD_read_iff (s : State cfg) (i : Input cfg) :
    (pFsm s i).stateD = .read ↔
      (accepts s i = true ∧ i.killS1 = false) ∨ Waits s i := by
  unfold Waits
  cases state : s.stateQ with
  | flush =>
      simp only [accepts, pFsm, state, ctrlFlush]
      split_ifs <;> simp_all [ctrlDefault]
  | idle =>
      simp only [accepts, pFsm, state, ctrlIdle]
      split_ifs <;> simp_all [ctrlDefault]
  | read =>
      simp only [accepts, pFsm, state, ctrlRead]
      split_ifs <;> simp_all [ctrlDefault]
      grind
  | miss => simp only [accepts, pFsm, state, ctrlMiss]; split_ifs <;> simp_all [ctrlDefault]
  | killAtrans => simp [accepts, pFsm, state, ctrlKillAtrans, ctrlDefault]; split_ifs <;> simp
  | killMiss => simp [accepts, pFsm, state, ctrlKillMiss, ctrlDefault]; split_ifs <;> simp

/-- The next cycle waits for the memory: a miss was acknowledged, or it is not
answered yet. -/
theorem stateD_miss_iff (s : State cfg) (i : Input cfg) :
    (pFsm s i).stateD = .miss ↔
      ((pFsm s i).memDataReq = true ∧ i.memDataAck = true) ∨
        (s.stateQ = .miss ∧ ifillAck i = false ∧ i.killS2 = false ∧
          flushPending s i = false) := by
  cases state : s.stateQ with
  | flush => simp only [pFsm, state, ctrlFlush]; split_ifs <;> simp_all [ctrlDefault]
  | idle => simp only [pFsm, state, ctrlIdle]; split_ifs <;> simp_all [ctrlDefault]
  | read =>
      simp only [pFsm, state, ctrlRead]
      split_ifs <;> simp_all [ctrlDefault]
  | miss =>
      simp only [pFsm, state, ctrlMiss]
      split_ifs <;> simp_all [ctrlDefault]
      grind
  | killAtrans => simp [pFsm, state, ctrlKillAtrans, ctrlDefault]; split_ifs <;> simp
  | killMiss => simp [pFsm, state, ctrlKillMiss, ctrlDefault]; split_ifs <;> simp

/-- The translation is asked for while a lookup or a killed lookup waits for
it. -/
theorem fetchReq_iff (s : State cfg) (i : Input cfg) :
    (pFsm s i).fetchReq = true ↔ s.stateQ = .read ∨ s.stateQ = .killAtrans := by
  cases state : s.stateQ with
  | flush => simp only [pFsm, state, ctrlFlush]; split_ifs <;> simp [ctrlDefault]
  | idle => simp only [pFsm, state, ctrlIdle]; split_ifs <;> simp [ctrlDefault]
  | read => simp only [pFsm, state, ctrlRead]; split_ifs <;> simp
  | miss => simp only [pFsm, state, ctrlMiss]; split_ifs <;> simp [ctrlDefault]
  | killAtrans => simp [pFsm, state, ctrlKillAtrans]
  | killMiss => simp [pFsm, state, ctrlKillMiss, ctrlDefault]

/-- A clear goes on, or begins from the idle state. -/
theorem stateD_flush_iff (s : State cfg) (i : Input cfg) :
    (pFsm s i).stateD = .flush ↔
      (s.stateQ = .flush ∧ flushDone s = false) ∨
        (s.stateQ = .idle ∧ (flushPending s i || (i.en && !s.cacheEnQ)) = true) := by
  cases state : s.stateQ with
  | flush => simp only [pFsm, state, ctrlFlush]; split_ifs <;> simp_all [ctrlDefault]
  | idle => simp only [pFsm, state, ctrlIdle]; split_ifs <;> simp_all
  | read => simp only [pFsm, state, ctrlRead]; split_ifs <;> simp_all [ctrlDefault]
  | miss => simp only [pFsm, state, ctrlMiss]; split_ifs <;> simp_all [ctrlDefault]
  | killAtrans => simp [pFsm, state, ctrlKillAtrans, ctrlDefault]; split_ifs <;> simp
  | killMiss => simp [pFsm, state, ctrlKillMiss, ctrlDefault]; split_ifs <;> simp

theorem cacheEnQ_of_cacheable (cacheable : paddrIsNc s i = false) : s.cacheEnQ = true := by
  simp only [paddrIsNc, Bool.or_eq_false_iff, Bool.not_eq_false'] at cacheable
  exact cacheable.1

end Outputs

/-! ## The memories after a cycle -/

section Memories

variable {cfg : Cfg} {s : State cfg} {i : Input cfg}

/-- The tag word of a way. -/
def tagRow (s : State cfg) (set : Fin cfg.numWords) (way : Fin cfg.ways) : TagWord :=
  (s.tagSram way).sram set

/-- The line of a way. -/
def dataRow (s : State cfg) (set : Fin cfg.numWords) (way : Fin cfg.ways) : Line :=
  (s.dataSram way).sram set

/-- The set of the latched request. -/
def setNow (s : State cfg) : Fin cfg.numWords := cfg.index s.vaddrQ

theorem accepts_memRtrnVld (accepted : accepts s i = true) : i.memRtrnVld = false :=
  ((accepts_iff s i).mp accepted).1.1

theorem invEn_of_accepts (accepted : accepts s i = true) : invEn i = false := by
  simp [invEn, accepts_memRtrnVld accepted]

theorem setNow_step_of_not_accepts (kept : accepts s i = false) :
    setNow (step s i) = setNow s := by
  simp [setNow, step, vaddrD, kept]

/-- A cycle writes the tags only to clear, to invalidate or to fill. -/
theorem vldWe_iff (s : State cfg) (i : Input cfg) :
    vldWe s i = true ↔
      (pFsm s i).cacheWren = true ∨ invEn i = true ∨ s.stateQ = .flush := by
  simp [vldWe, pFsm_invEn, pFsm_flushEn, or_assoc]

theorem vldAddr_of_read (reads : vldWe s i = false) : vldAddr s i = clIndex s i := by
  have noWrite := mt (vldWe_iff s i).mpr (by simp [reads])
  simp only [not_or] at noWrite
  simp [vldAddr, pFsm_invEn, pFsm_flushEn, noWrite.2.1, noWrite.2.2]

theorem tagRow_step (s : State cfg) (i : Input cfg) (set : Fin cfg.numWords)
    (way : Fin cfg.ways) :
    tagRow (step s i) set way =
      if vldReq s i way = true ∧ vldWe s i = true ∧ set = vldAddr s i then
        { vld := (pFsm s i).cacheWren, tag := s.clTagQ }
      else tagRow s set way :=
  TcSram.step_sram (s.tagSram way) (tagPort s i way) set

theorem dataRow_step (s : State cfg) (i : Input cfg) (set : Fin cfg.numWords)
    (way : Fin cfg.ways) :
    dataRow (step s i) set way =
      if clReq s i way = true ∧ (pFsm s i).cacheWren = true ∧ set = clIndex s i then i.rtrnData
      else dataRow s set way :=
  TcSram.step_sram (s.dataSram way) (dataPort s i way) set

theorem tagAddr_step (s : State cfg) (i : Input cfg) (way : Fin cfg.ways) :
    ((step s i).tagSram way).rAddrQ =
      if vldReq s i way = true ∧ vldWe s i = false then clIndex s i
      else (s.tagSram way).rAddrQ := by
  refine (TcSram.step_rAddrQ (s.tagSram way) (tagPort s i way)).trans ?_
  by_cases reads : vldReq s i way = true ∧ vldWe s i = false
  · rw [if_pos reads, ← vldAddr_of_read reads.2]
    exact if_pos reads
  · rw [if_neg reads]
    exact if_neg reads

theorem dataAddr_step (s : State cfg) (i : Input cfg) (way : Fin cfg.ways) :
    ((step s i).dataSram way).rAddrQ =
      if clReq s i way = true ∧ (pFsm s i).cacheWren = false then clIndex s i
      else (s.dataSram way).rAddrQ :=
  TcSram.step_rAddrQ (s.dataSram way) (dataPort s i way)

theorem tagRdata_step (s : State cfg) (i : Input cfg) (way : Fin cfg.ways) :
    ((step s i).tagSram way).rdataQ = tagRow s (((step s i).tagSram way).rAddrQ) way :=
  TcSram.step_rdataQ _ _

theorem dataRdata_step (s : State cfg) (i : Input cfg) (way : Fin cfg.ways) :
    ((step s i).dataSram way).rdataQ = dataRow s (((step s i).dataSram way).rAddrQ) way :=
  TcSram.step_rdataQ _ _

theorem vldReq_of_cacheRden (lookup : (pFsm s i).cacheRden = true) (way : Fin cfg.ways) :
    vldReq s i way = true := by
  simp [vldReq, lookup]

theorem clReq_of_cacheRden (lookup : (pFsm s i).cacheRden = true) (way : Fin cfg.ways) :
    clReq s i way = true := by
  simp [clReq, lookup]

theorem cacheWren_eq_false (state : s.stateQ ≠ .miss) : (pFsm s i).cacheWren = false :=
  Bool.eq_false_iff.mpr fun fill => state ((cacheWren_iff s i).mp fill).1

theorem accepts_state (accepted : accepts s i = true) :
    s.stateQ = .idle ∨ s.stateQ = .read := by
  rcases ((accepts_iff s i).mp accepted).2 with ⟨state, _⟩ | served
  · exact Or.inl state
  · exact Or.inr served.1

theorem accepts_of_miss (miss : s.stateQ = .miss) : accepts s i = false := by
  refine Bool.eq_false_iff.mpr fun accepted => ?_
  simpa [miss] using accepts_state accepted

theorem accepts_of_memDataReq (request : (pFsm s i).memDataReq = true) :
    accepts s i = false := by
  rcases (memDataReq_iff s i).mp request with ⟨read, _, _, noResult, _⟩
  refine Bool.eq_false_iff.mpr fun accepted => ?_
  rcases ((accepts_iff s i).mp accepted).2 with ⟨idle, _⟩ | served
  · simp [idle] at read
  · exact absurd served.2.2.2.1 (by simp [noResult])

theorem not_waits_of_accepts (accepted : accepts s i = true) : ¬Waits s i := by
  rintro ⟨read, _, _, reason⟩
  rcases ((accepts_iff s i).mp accepted).2 with ⟨idle, _⟩ | served
  · simp [idle] at read
  · rcases reason with untranslated | invalidation | ⟨request, _⟩
    · exact absurd served.2.1 (by simp [untranslated])
    · exact absurd served.2.2.2.2 (by simp [invalidation])
    · rw [accepts_of_memDataReq request] at accepted
      contradiction

end Memories

end Cva6Hpd.Icache
