import Cva6Hpd.Icache.Fetch

/-!
# The lines of the cache and the memory

A fill writes the line that the memory stores; invalidations and clears remove
the lines that they cover. So a line that was not modified since is the line of
the memory, and every response carries the word that is stored at the
translated address of the request it answers.
-/

namespace Cva6Hpd.Icache

open Cva6Hpd.Hw Cva6Hpd.Common

section Lines

variable {cfg : Cfg} {s : State cfg} {log : FetchLog} {c : Cycle cfg}
variable {last : Option (Announcement cfg)} {clears : ClearLog}

theorem stored_of_unmodified {memory : Nat → Byte} {line : Nat}
    (unmodified : modifiedNow cfg log memory line = false) :
    log.modified line = false ∧ ∀ byte < 2 ^ cfg.offsetWidth,
      memory (line * 2 ^ cfg.offsetWidth + byte) =
        log.stored (line * 2 ^ cfg.offsetWidth + byte) := by
  simp only [modifiedNow, Bool.or_eq_false_iff, List.any_eq_false, List.mem_range, bne_iff_ne,
    ne_eq, Decidable.not_not] at unmodified
  exact unmodified

theorem noFill_of_invEn (invalidation : invEn c.input = true) :
    (pFsm s c.input).cacheWren = false := by
  refine Bool.eq_false_iff.mpr fun fill => ?_
  have answer := ((cacheWren_iff s c.input).mp fill).2.1
  simp only [ifillAck, Bool.and_eq_true, beq_iff_eq] at answer
  simp [invEn, answer.2] at invalidation

theorem vld_of_invalidated (noClear : s.stateQ ≠ .flush) (invalidation : invEn c.input = true)
    {way : Fin cfg.ways}
    (named : c.input.invAll = true ∨ (c.input.invVld = true ∧ way = c.input.invWay)) :
    (tagRow (step s c.input) (cfg.index c.input.invIdx) way).vld = false := by
  have writes : vldWe s c.input = true :=
    (vldWe_iff s c.input).mpr (Or.inr (Or.inl invalidation))
  have address : vldAddr s c.input = cfg.index c.input.invIdx := by
    simp [vldAddr, pFsm_flushEn, pFsm_invEn, noClear, invalidation]
  have selected : vldReq s c.input way = true := by
    simp only [vldReq, pFsm_flushEn, pFsm_invEn, noClear, invalidation]
    rcases named with all | ⟨one, rfl⟩
    · split_ifs <;> simp_all
    · split_ifs <;> simp_all
  rw [tagRow_step, if_pos ⟨selected, writes, address.symm⟩]
  exact noFill_of_invEn invalidation

theorem covers_of_valid (noClear : s.stateQ ≠ .flush)
    (differ : ∀ set, TagsDiffer (tagRow s set)) {set : Fin cfg.numWords} {way : Fin cfg.ways}
    (kept : tagRow (step s c.input) set way = tagRow s set way)
    (valid : (tagRow (step s c.input) set way).vld = true) :
    covers s c.input (cfg.lineOf (tagRow s set way).tag set) = false := by
  refine Bool.eq_false_iff.mpr fun covered => ?_
  simp only [covers, Bool.and_eq_true, decide_eq_true_eq, Cfg.lineOf_mod, Cfg.lineOf_div,
    Bool.or_eq_true] at covered
  rcases covered with ⟨⟨invalidation, sameSet⟩, named⟩
  have set' : set = cfg.index c.input.invIdx := Fin.ext sameSet
  subst set'
  have gone : (tagRow (step s c.input) (cfg.index c.input.invIdx) way).vld = false := by
    refine vld_of_invalidated noClear invalidation (named.imp_right ?_)
    rintro ⟨⟨one, held⟩, sameTag⟩
    rw [kept] at valid
    exact ⟨one, differ _ way c.input.invWay valid held sameTag.symm⟩
  rw [gone] at valid
  contradiction

theorem lines_of_kept (coherent : Coherent s log) (noClear : s.stateQ ≠ .flush)
    (differ : ∀ set, TagsDiffer (tagRow s set)) {set : Fin cfg.numWords} {way : Fin cfg.ways}
    (valid : (tagRow (step s c.input) set way).vld = true)
    (keptTag : tagRow (step s c.input) set way = tagRow s set way)
    (keptData : dataRow (step s c.input) set way = dataRow s set way)
    (unmodified : (observe s c log).modified
      (cfg.lineOf (tagRow (step s c.input) set way).tag set) = false)
    {byte : Nat} (inLine : byte < 2 ^ cfg.offsetWidth) :
    dataRow (step s c.input) set way byte = c.memory
      (cfg.lineOf (tagRow (step s c.input) set way).tag set * 2 ^ cfg.offsetWidth + byte) := by
  have noEnd : clearEnds s = false := by simp [clearEnds, noClear]
  have notCovered := covers_of_valid noClear differ keptTag valid
  rw [keptTag] at valid unmodified ⊢
  simp only [observe, noEnd, notCovered, Bool.not_false, Bool.and_true] at unmodified
  rcases stored_of_unmodified unmodified with ⟨unmodifiedBefore, stored⟩
  rw [keptData, stored byte inLine]
  exact coherent.lines noClear set way valid unmodifiedBefore byte inLine

theorem lines_of_fill (environment : Environment (((s, last), clears), log) c)
    (translated : Translated s log) (fill : (pFsm s c.input).cacheWren = true)
    (unmodified : (observe s c log).modified (cfg.lineOf s.clTagQ (setNow s)) = false)
    {byte : Nat} (inLine : byte < 2 ^ cfg.offsetWidth) :
    c.input.rtrnData byte = c.memory
      (cfg.lineOf s.clTagQ (setNow s) * 2 ^ cfg.offsetWidth + byte) := by
  rcases (cacheWren_iff s c.input).mp fill with ⟨miss, answer, _, _, cacheable⟩
  have noEnd : clearEnds s = false := by simp [clearEnds, miss]
  have noInvalidation : invEn c.input = false := by
    refine Bool.eq_false_iff.mpr fun invalidation => ?_
    rw [noFill_of_invEn invalidation] at fill
    contradiction
  simp only [observe, noEnd, covers, noInvalidation, Bool.false_and, Bool.not_false,
    Bool.and_true] at unmodified
  rcases translated.asked miss with ⟨request, logged, paddr, _, region⟩
  have sameTag : clTagD s c.input = s.clTagQ := by
    simp [clTagD, fetchValid_of_miss environment miss]
  have whole : request.nc = false := by
    rw [region (cacheEnQ_of_cacheable cacheable)]
    simp only [paddrIsNc, Bool.or_eq_false_iff, sameTag] at cacheable
    exact cacheable.2
  have base : request.paddr = cfg.lineOf s.clTagQ (setNow s) * 2 ^ cfg.offsetWidth := by
    rw [paddr, whole, setNow, cfg.lineOf_index_mul]
    rfl
  have line : cfg.line request.paddr = cfg.lineOf s.clTagQ (setNow s) := by
    rw [base, Cfg.line, Nat.mul_div_cancel _ (Nat.two_pow_pos _)]
  have returned := environment.returns miss answer request logged (by rw [line]; exact unmodified)
  rw [Returns, whole, if_neg Bool.false_ne_true] at returned
  rw [returned byte inLine, base]

theorem dataRow_step_of_fill {i : Input cfg} {a : Announcement cfg}
    (written : WritesAnnounced s i a) (set : Fin cfg.numWords) (way : Fin cfg.ways) :
    dataRow (step s i) set way =
      if way = a.way ∧ set = a.set then i.rtrnData else dataRow s set way := by
  have ways : (clReq s i way && (pFsm s i).cacheWren) = true ↔ way = a.way := by
    rw [congrFun written.dataWay way, Bits.single_eq_true_iff]
  have cell : clReq s i way = true ∧ (pFsm s i).cacheWren = true ∧ set = a.set ↔
      way = a.way ∧ set = a.set := by
    rw [← and_assoc, ← Bool.and_eq_true, ways]
  rw [dataRow_step, written.dataSet]
  simp only [cell]

theorem coherent_step (unique : Unique ((s, last), clears))
    (environment : Environment (((s, last), clears), log) c) (translated : Translated s log)
    (coherent : Coherent s log) : Coherent (step s c.input) (observe s c log) := by
  by_cases clear : s.stateQ = .flush
  · -- a clear either goes on or leaves no way valid
    have emptied (noClear : (step s c.input).stateQ ≠ .flush) (set : Fin cfg.numWords) :
        NoneValid (tagRow (step s c.input) set) := by
      refine noneValid_of_clearEnds unique.clearing ?_ set
      by_contra goesOn
      refine noClear ((stateD_flush_iff s c.input).mpr (Or.inl ⟨clear, ?_⟩))
      simpa [clearEnds, clear] using goesOn
    constructor
    · intro noClear set way valid
      rw [emptied noClear set way] at valid
      contradiction
    · intro noClear set way valid
      rw [emptied noClear set way] at valid
      contradiction
  · have done : clears.done = true := by
      by_contra notDone
      exact clear (unique.clearing.first (Bool.eq_false_iff.mpr notDone)).1
    have differ := unique.distinct.rows done
    by_cases fill : (pFsm s c.input).cacheWren = true
    · rcases (cacheWren_iff s c.input).mp fill with ⟨miss, _, _, _, cacheable⟩
      rcases unique.announced miss (cacheEnQ_of_cacheable cacheable) with ⟨a, _, outstanding⟩
      have written := (fill_ways outstanding fill).1
      have sameTag : clTagD s c.input = s.clTagQ := by
        simp [clTagD, fetchValid_of_miss environment miss]
      constructor
      · intro _ set way valid
        rw [tagRow_step_of_fill written] at valid ⊢
        split_ifs at valid ⊢ with cell
        · simp only [paddrIsNc, Bool.or_eq_false_iff, Bool.not_eq_false', sameTag] at cacheable
          exact cacheable.2
        · exact coherent.cacheable clear set way valid
      · intro _ set way valid unmodified byte inLine
        by_cases cell : way = a.way ∧ set = a.set
        · have tag : tagRow (step s c.input) set way = ⟨true, s.clTagQ⟩ := by
            rw [tagRow_step_of_fill written, if_pos cell]
          rw [tag] at unmodified ⊢
          rw [dataRow_step_of_fill written, if_pos cell]
          rw [cell.2, ← outstanding.set] at unmodified ⊢
          exact lines_of_fill environment translated fill unmodified inLine
        · refine lines_of_kept coherent clear differ valid ?_ ?_ unmodified inLine
          · rw [tagRow_step_of_fill written, if_neg cell]
          · rw [dataRow_step_of_fill written, if_neg cell]
    · have noFill : (pFsm s c.input).cacheWren = false := Bool.eq_false_iff.mpr fill
      constructor
      · intro _ set way valid
        have kept := tagRow_of_vld_step noFill valid
        rw [kept] at valid ⊢
        exact coherent.cacheable clear set way valid
      · intro _ set way valid unmodified byte inLine
        exact lines_of_kept coherent clear differ valid (tagRow_of_vld_step noFill valid)
          (congrFun (congrFun (dataRow_step_of_read noFill) set) way) unmodified inLine

end Lines

end Cva6Hpd.Icache
