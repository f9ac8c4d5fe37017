import Cva6Hpd.Icache.Control

/-!
# Lookups of the instruction cache

While a request is looked up in an enabled cache, or a miss is in flight, the
memories hold the read address of its set. A lookup that no invalidation
disturbed sees the set as it is. The way to replace is latched when the miss is
presented, and stays the way that the read ports select until the memory
acknowledges the miss.
-/

namespace Cva6Hpd.Icache

open Cva6Hpd.Hw Cva6Hpd.Common

section Lookup

variable {cfg : Cfg}

/-- A request is looked up, or waits for the memory, in an enabled cache. -/
def InFlight (s : State cfg) : Prop :=
  (s.stateQ = .read ∨ s.stateQ = .miss) ∧ s.cacheEnQ = true

/-- A lookup whose comparison can be trusted. -/
def Settled (s : State cfg) : Prop :=
  s.stateQ = .read ∧ s.cacheEnQ = true ∧ s.invQ = false

/-- `repl_way` without a flush. -/
def replChoice (s : State cfg) : Fin cfg.ways :=
  if allWaysValid s then Plru.replaceWay cfg.logWays s.plruTreeQ false else invWayIdx s

theorem replWay_eq_replChoice {s : State cfg} {i : Input cfg} (noFlush : i.flush = false) :
    replWay s i = replChoice s := by
  simp [replWay, replChoice, plruReplaceWay, noFlush]

theorem replChoice_congr {s s' : State cfg} (sameValid : vldRdata s' = vldRdata s)
    (sameTree : s'.plruTreeQ = s.plruTreeQ) : replChoice s' = replChoice s := by
  rw [replChoice, replChoice, allWaysValid, allWaysValid, invWayIdx, invWayIdx, sameValid,
    sameTree]

/-- What holds of the read ports and of the latched way. -/
structure Lookup (s : State cfg) : Prop where
  tagAddr : InFlight s → ∀ way, (s.tagSram way).rAddrQ = setNow s
  dataAddr : InFlight s → ∀ way, (s.dataSram way).rAddrQ = setNow s
  tagFresh : Settled s → ∀ way, (s.tagSram way).rdataQ = tagRow s (setNow s) way
  dataFresh : Settled s → ∀ way, (s.dataSram way).rdataQ = dataRow s (setNow s) way
  held : Settled s → s.cmpEnQ = false → s.replWayOhQ = Bits.single (replChoice s)

theorem lookup_reset (powerUp : PowerUp cfg) : Lookup (reset powerUp) where
  tagAddr := fun inFlight => by simp [InFlight, reset] at inFlight
  dataAddr := fun inFlight => by simp [InFlight, reset] at inFlight
  tagFresh := fun settled => by simp [Settled, reset] at settled
  dataFresh := fun settled => by simp [Settled, reset] at settled
  held := fun settled => by simp [Settled, reset] at settled

theorem cacheEnQ_of_cacheEnD {s : State cfg} {i : Input cfg} (state : s.stateQ ≠ .flush)
    (enabled : (pFsm s i).cacheEnD = true) : s.cacheEnQ = true := by
  rw [cacheEnD_eq, if_neg (fun clear => state clear.1)] at enabled
  exact (Bool.and_eq_true_iff.mp enabled).1

theorem inFlight_step {s : State cfg} {i : Input cfg} (inFlight : InFlight (step s i)) :
    s.cacheEnQ = true ∧
      ((accepts s i = true ∧ (pFsm s i).cacheRden = true) ∨
        (accepts s i = false ∧ InFlight s)) := by
  rcases inFlight with ⟨state, enabled⟩
  have busy : s.stateQ = .idle ∨ s.stateQ = .read ∨ s.stateQ = .miss := by
    rcases state with read | miss
    · rcases (stateD_read_iff s i).mp read with ⟨accepted, _⟩ | waits
      · exact (accepts_state accepted).imp_right Or.inl
      · exact Or.inr (Or.inl waits.1)
    · rcases (stateD_miss_iff s i).mp miss with ⟨request, _⟩ | ⟨before, _⟩
      · exact Or.inr (Or.inl ((memDataReq_iff s i).mp request).1)
      · exact Or.inr (Or.inr before)
  have noClear : s.stateQ ≠ .flush := by
    intro clear
    simp [clear] at busy
  have enabledBefore : s.cacheEnQ = true := cacheEnQ_of_cacheEnD noClear enabled
  refine ⟨enabledBefore, ?_⟩
  cases accepted : accepts s i with
  | true =>
      refine Or.inl ⟨rfl, (cacheRden_iff s i).mpr ?_⟩
      rcases accepts_state accepted with idle | read
      · exact Or.inl ⟨idle, accepted⟩
      · exact Or.inr ⟨read, enabledBefore⟩
  | false =>
      refine Or.inr ⟨rfl, ?_, enabledBefore⟩
      rcases state with read | miss
      · rcases (stateD_read_iff s i).mp read with ⟨now, _⟩ | waits
        · rw [accepted] at now
          contradiction
        · exact Or.inl waits.1
      · rcases (stateD_miss_iff s i).mp miss with ⟨request, _⟩ | ⟨before, _⟩
        · exact Or.inl ((memDataReq_iff s i).mp request).1
        · exact Or.inr before

theorem vldWe_of_accepts {s : State cfg} {i : Input cfg} (accepted : accepts s i = true) :
    vldWe s i = false := by
  have states := accepts_state accepted
  rw [Bool.eq_false_iff, Ne, vldWe_iff, invEn_of_accepts accepted, cacheWren_iff]
  rintro (⟨miss, _⟩ | invalidation | clear)
  · simp [miss] at states
  · contradiction
  · simp [clear] at states

theorem tagAddr_step_eq {s : State cfg} {i : Input cfg} {way : Fin cfg.ways}
    (before : (accepts s i = true ∧ (pFsm s i).cacheRden = true) ∨
      (accepts s i = false ∧ (s.tagSram way).rAddrQ = setNow s)) :
    ((step s i).tagSram way).rAddrQ = setNow (step s i) := by
  rcases before with ⟨accepted, lookup⟩ | ⟨kept, held⟩
  · rw [tagAddr_step, if_pos ⟨vldReq_of_cacheRden lookup way, vldWe_of_accepts accepted⟩]
    rfl
  · rw [tagAddr_step, held, ← setNow_step_of_not_accepts kept]
    split_ifs <;> rfl

theorem dataAddr_step_eq {s : State cfg} {i : Input cfg} {way : Fin cfg.ways}
    (before : (accepts s i = true ∧ (pFsm s i).cacheRden = true) ∨
      (accepts s i = false ∧ (s.dataSram way).rAddrQ = setNow s)) :
    ((step s i).dataSram way).rAddrQ = setNow (step s i) := by
  rcases before with ⟨accepted, lookup⟩ | ⟨kept, held⟩
  · have noFill : (pFsm s i).cacheWren = false := by
      refine cacheWren_eq_false ?_
      intro miss
      simpa [miss] using accepts_state accepted
    rw [dataAddr_step, if_pos ⟨clReq_of_cacheRden lookup way, noFill⟩]
    rfl
  · rw [dataAddr_step, held, ← setNow_step_of_not_accepts kept]
    split_ifs <;> rfl

/-- The cycle before a settled lookup wrote no memory. -/
theorem settled_step {s : State cfg} {i : Input cfg} (settled : Settled (step s i)) :
    vldWe s i = false ∧ (pFsm s i).cacheWren = false := by
  have states : s.stateQ = .idle ∨ s.stateQ = .read := by
    rcases (stateD_read_iff s i).mp settled.1 with ⟨accepted, _⟩ | waits
    · exact accepts_state accepted
    · exact Or.inr waits.1
  have noFill : (pFsm s i).cacheWren = false := by
    refine cacheWren_eq_false ?_
    intro miss
    simp [miss] at states
  refine ⟨?_, noFill⟩
  have noInvalidation : invEn i = false := (pFsm_invEn s i).symm.trans settled.2.2
  rw [Bool.eq_false_iff, Ne, vldWe_iff, noFill, noInvalidation]
  rintro (fill | invalidation | clear)
  · contradiction
  · contradiction
  · simp [clear] at states

theorem tagRow_step_of_read {s : State cfg} {i : Input cfg} (reads : vldWe s i = false) :
    tagRow (step s i) = tagRow s := by
  funext set way
  simp [tagRow_step, reads]

theorem dataRow_step_of_read {s : State cfg} {i : Input cfg}
    (noFill : (pFsm s i).cacheWren = false) : dataRow (step s i) = dataRow s := by
  funext set way
  simp [dataRow_step, noFill]

/-- The tree does not move while a miss is presented. -/
theorem plruTreeQ_step_of_memDataReq {s : State cfg} {i : Input cfg}
    (request : (pFsm s i).memDataReq = true) (enabled : s.cacheEnQ = true) :
    (step s i).plruTreeQ = s.plruTreeQ := by
  rcases (memDataReq_iff s i).mp request with ⟨read, _, noFlush, miss, _, _⟩
  have noFill : (pFsm s i).cacheWren = false := cacheWren_eq_false (by simp [read])
  have noHit : (clHit s i).any = false := by
    simp only [hitOrException, enabled, Bool.and_true, Bool.or_eq_false_iff] at miss
    exact miss.1
  refine Plru.step_idle _ _ ?_ ?_
  · exact (Bool.or_eq_false_iff.mp noFlush).2
  · simp [plruInput, noHit, noFill]

theorem replWayOhQ_step_of_memDataReq {s : State cfg} {i : Input cfg} (lookup : Lookup s)
    (request : (pFsm s i).memDataReq = true) (enabled : s.cacheEnQ = true) :
    (step s i).replWayOhQ = Bits.single (replWay s i) := by
  rcases (memDataReq_iff s i).mp request with ⟨read, _, noFlush, _, _, noInvalidation⟩
  have choice : replWay s i = replChoice s :=
    replWay_eq_replChoice (Bool.or_eq_false_iff.mp noFlush).2
  cases compare : s.cmpEnQ with
  | true => simp [step, replWayOhD, compare]
  | false =>
      rw [choice, ← lookup.held ⟨read, enabled, noInvalidation⟩ compare]
      simp [step, replWayOhD, compare]

theorem lookup_step {s : State cfg} (lookup : Lookup s) (i : Input cfg) :
    Lookup (step s i) := by
  have tagAddr : InFlight (step s i) →
      ∀ way, ((step s i).tagSram way).rAddrQ = setNow (step s i) := by
    intro inFlight way
    exact tagAddr_step_eq ((inFlight_step inFlight).2.imp_right fun before =>
      ⟨before.1, lookup.tagAddr before.2 way⟩)
  have dataAddr : InFlight (step s i) →
      ∀ way, ((step s i).dataSram way).rAddrQ = setNow (step s i) := by
    intro inFlight way
    exact dataAddr_step_eq ((inFlight_step inFlight).2.imp_right fun before =>
      ⟨before.1, lookup.dataAddr before.2 way⟩)
  have tagFresh : Settled (step s i) →
      ∀ way, ((step s i).tagSram way).rdataQ = tagRow (step s i) (setNow (step s i)) way := by
    intro settled way
    rw [tagRdata_step, tagAddr ⟨Or.inl settled.1, settled.2.1⟩ way,
      tagRow_step_of_read (settled_step settled).1]
  refine ⟨tagAddr, dataAddr, tagFresh, ?_, ?_⟩
  · intro settled way
    rw [dataRdata_step, dataAddr ⟨Or.inl settled.1, settled.2.1⟩ way,
      dataRow_step_of_read (settled_step settled).2]
  · intro settled noCompare
    -- the comparison is off in a settled lookup only if a miss was presented
    have enabled : s.cacheEnQ = true := (inFlight_step ⟨Or.inl settled.1, settled.2.1⟩).1
    have states : s.stateQ = .idle ∨ s.stateQ = .read := by
      rcases (stateD_read_iff s i).mp settled.1 with ⟨accepted, _⟩ | waits
      · exact accepts_state accepted
      · exact Or.inr waits.1
    have request : (pFsm s i).memDataReq = true := by
      by_contra noRequest
      have compare := (cmpEnD_iff s i).mpr
        ⟨states, enabled, Bool.eq_false_iff.mpr noRequest⟩
      exact absurd noCompare (by simp [step, compare])
    rcases (memDataReq_iff s i).mp request with ⟨read, _, noFlush, _, _, noInvalidation⟩
    have before : Settled s := ⟨read, enabled, noInvalidation⟩
    have kept : setNow (step s i) = setNow s :=
      setNow_step_of_not_accepts (accepts_of_memDataReq request)
    have sameRead : ∀ way, ((step s i).tagSram way).rdataQ = (s.tagSram way).rdataQ := by
      intro way
      rw [tagFresh settled way, lookup.tagFresh before way, kept,
        tagRow_step_of_read (settled_step settled).1]
    rw [replWayOhQ_step_of_memDataReq lookup request enabled,
      replWay_eq_replChoice (Bool.or_eq_false_iff.mp noFlush).2]
    rw [replChoice_congr _ (plruTreeQ_step_of_memDataReq request enabled)]
    funext way
    rw [vldRdata, vldRdata, sameRead way]

end Lookup

end Cva6Hpd.Icache
