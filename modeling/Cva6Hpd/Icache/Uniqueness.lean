import Cva6Hpd.Icache.Replacement

/-!
# The tags of a set are different

A fill follows a lookup that missed in the same set with the same tag, and
invalidations only remove tags, so no tag is valid twice in a set once the set
was cleared. The memories are not reset: what they hold before the first clear
is arbitrary. The hit vector is read from one set as long as the cache is
enabled; a disabled cache leaves the read addresses of the ways behind.
-/

namespace Cva6Hpd.Icache

open Cva6Hpd.Hw Cva6Hpd.Common

section Clear

variable {cfg : Cfg}

/-- A clear ends in this cycle. -/
def clearEnds (s : State cfg) : Bool := decide (s.stateQ = .flush) && flushDone s

/-- What is remembered of the clears: whether one has ended, and whether no
fill followed the last one. -/
structure ClearLog where
  done : Bool
  empty : Bool

def recordClear (s : State cfg) (i : Input cfg) (log : ClearLog) : ClearLog where
  done := log.done || clearEnds s
  empty := if clearEnds s then true else log.empty && !(pFsm s i).cacheWren

/-- The cache with its last announcement and the clears. -/
def clearing (powerUp : PowerUp cfg) :
    Machine ((State cfg × Option (Announcement cfg)) × ClearLog) (Input cfg) :=
  (announcing powerUp).withHistory ⟨false, false⟩ fun state i log => recordClear state.1 i log

/-- The translation answers only while it is asked. -/
def Handshake (state : (State cfg × Option (Announcement cfg)) × ClearLog) (i : Input cfg) :
    Prop :=
  i.fetchValid = true → (pFsm state.1.1 i).fetchReq = true

instance decidableHandshake
    (state : (State cfg × Option (Announcement cfg)) × ClearLog) (i : Input cfg) :
    Decidable (Handshake state i) :=
  inferInstanceAs (Decidable (_ → _))

/-- No two valid words have the same tag. -/
def TagsDiffer {n : Nat} (row : Fin n → TagWord) : Prop :=
  ∀ way way', (row way).vld = true → (row way').vld = true → (row way).tag = (row way').tag →
    way = way'

def NoneValid {n : Nat} (row : Fin n → TagWord) : Prop := ∀ way, (row way).vld = false

theorem NoneValid.tagsDiffer {n : Nat} {row : Fin n → TagWord} (none' : NoneValid row) :
    TagsDiffer row := by
  intro way way' valid
  rw [none' way] at valid
  contradiction

theorem TagsDiffer.of_kept {n : Nat} {row row' : Fin n → TagWord} (differ : TagsDiffer row)
    (kept : ∀ way, (row' way).vld = true → row' way = row way) : TagsDiffer row' := by
  intro way way' valid valid' same
  have first := kept way valid
  have second := kept way' valid'
  rw [first] at valid same
  rw [second] at valid' same
  exact differ way way' valid valid' same

theorem tagRow_of_vld_step {s : State cfg} {i : Input cfg}
    (noFill : (pFsm s i).cacheWren = false) {set : Fin cfg.numWords} {way : Fin cfg.ways}
    (valid : (tagRow (step s i) set way).vld = true) :
    tagRow (step s i) set way = tagRow s set way := by
  rw [tagRow_step] at valid ⊢
  split_ifs at valid ⊢ with written
  · rw [noFill] at valid
    contradiction
  · rfl

theorem TagsDiffer.of_rows {m n : Nat} {rows : Fin m → Fin n → TagWord} {addr : Fin n → Fin m}
    {set : Fin m} (differ : TagsDiffer (rows set))
    (only : ∀ way, (rows (addr way) way).vld = true → addr way = set) :
    TagsDiffer fun way => rows (addr way) way := by
  intro way way' valid valid' same
  have first := only way valid
  have second := only way' valid'
  simp only [first, second] at valid valid' same
  exact differ way way' valid valid' same

/-! ## The invariants -/

/-- The progress of the clears and of the read addresses. -/
structure Clearing (s : State cfg) (log : ClearLog) : Prop where
  first : log.done = false → s.stateQ = .flush ∧ ∀ way, (s.tagSram way).rAddrQ = 0
  counter : s.stateQ ≠ .flush → s.flushCntQ = 0
  below : s.stateQ = .flush → ∀ set, set < s.flushCntQ → NoneValid (tagRow s set)
  empty : log.empty = true → ∀ set, NoneValid (tagRow s set)
  enabled : s.cacheEnQ = true → log.done = true ∧
    ((∀ way, (s.tagSram way).rAddrQ = setNow s) ∨ ∀ set, NoneValid (tagRow s set))

/-- The tags that are compared, and the tag of a miss, are new to their set. -/
structure Distinct (s : State cfg) (log : ClearLog) : Prop where
  rows : log.done = true → ∀ set, TagsDiffer (tagRow s set)
  ports : s.cmpEnQ = true ∨ s.cacheEnQ = true → TagsDiffer fun way => (s.tagSram way).rdataQ
  missed : s.stateQ = .miss → s.cacheEnQ = true →
    ∀ way, (tagRow s (setNow s) way).vld = true → (tagRow s (setNow s) way).tag ≠ s.clTagQ

theorem two_le_numWords (cfg : Cfg) : 2 ≤ cfg.numWords := by
  have more : 1 ≤ cfg.indexWidth - cfg.offsetWidth := by
    have := cfg.index_legal
    omega
  calc 2 = 2 ^ 1 := rfl
    _ ≤ cfg.numWords := Nat.pow_le_pow_right (by decide) more

theorem clearing_reset (powerUp : PowerUp cfg) : Clearing (reset powerUp) ⟨false, false⟩ where
  first := fun _ => ⟨rfl, fun _ => rfl⟩
  counter := fun state => absurd rfl state
  below := fun _ set less => absurd less (by simp [reset])
  empty := fun empty => absurd empty (by decide)
  enabled := fun enabled => absurd enabled (by simp [reset])

theorem distinct_reset (powerUp : PowerUp cfg) : Distinct (reset powerUp) ⟨false, false⟩ where
  rows := fun done => absurd done (by decide)
  ports := fun enabled => by simp [reset] at enabled
  missed := fun miss => by simp [reset] at miss

/-- A cycle of a clear invalidates the counted set and keeps the others. -/
theorem tagRow_step_of_flush {s : State cfg} {i : Input cfg} (clear : s.stateQ = .flush)
    (set : Fin cfg.numWords) :
    (set = s.flushCntQ → NoneValid (tagRow (step s i) set)) ∧
      (set ≠ s.flushCntQ → tagRow (step s i) set = tagRow s set) := by
  have noFill : (pFsm s i).cacheWren = false := cacheWren_eq_false (by simp [clear])
  have writes : vldWe s i = true := (vldWe_iff s i).mpr (Or.inr (Or.inr clear))
  have address : vldAddr s i = s.flushCntQ := by simp [vldAddr, pFsm_flushEn, clear]
  have all (way : Fin cfg.ways) : vldReq s i way = true := by
    simp [vldReq, pFsm_flushEn, clear]
  constructor
  · rintro rfl way
    simp [tagRow_step, writes, address, all, noFill]
  · intro other
    funext way
    simp [tagRow_step, address, other]

theorem noneValid_of_clearEnds {s : State cfg} {log : ClearLog} {i : Input cfg}
    (clearing : Clearing s log) (ends : clearEnds s = true) (set : Fin cfg.numWords) :
    NoneValid (tagRow (step s i) set) := by
  simp only [clearEnds, Bool.and_eq_true, decide_eq_true_eq, flushDone, beq_iff_eq] at ends
  rcases ends with ⟨clear, last⟩
  by_cases here : set = s.flushCntQ
  · exact (tagRow_step_of_flush clear set).1 here
  · rw [(tagRow_step_of_flush clear set).2 here]
    refine clearing.below clear set ?_
    have bound := set.isLt
    have differ : set.val ≠ s.flushCntQ.val := fun equal => here (Fin.ext equal)
    rw [Fin.lt_def]
    omega

theorem noneValid_of_step {s : State cfg} {i : Input cfg}
    (noFill : (pFsm s i).cacheWren = false) {set : Fin cfg.numWords}
    (none' : NoneValid (tagRow s set)) : NoneValid (tagRow (step s i) set) := by
  intro way
  refine Bool.eq_false_iff.mpr fun valid => ?_
  have before := vld_of_step noFill valid
  rw [none' way] at before
  contradiction

theorem flushCntQ_step_of_flush {s : State cfg} {i : Input cfg} (clear : s.stateQ = .flush)
    (goesOn : flushDone s = false) : (step s i).flushCntQ.val = s.flushCntQ.val + 1 := by
  have bound := s.flushCntQ.isLt
  have more := two_le_numWords cfg
  have notLast : s.flushCntQ.val ≠ cfg.numWords - 1 := by
    simpa [flushDone] using goesOn
  have one : (1 : Fin cfg.numWords).val = 1 :=
    (Fin.val_one' cfg.numWords).trans (Nat.mod_eq_of_lt (by omega))
  simp only [step, goesOn, Bool.false_eq_true, if_false, pFsm_flushEn, clear, decide_true,
    if_true, Fin.val_add, one]
  exact Nat.mod_eq_of_lt (by omega)

theorem flushCntQ_step_of_idle {s : State cfg} {i : Input cfg} (noClear : s.stateQ ≠ .flush)
    (zero : s.flushCntQ = 0) : (step s i).flushCntQ = 0 := by
  simp only [step, pFsm_flushEn, noClear, decide_false, Bool.false_eq_true, if_false]
  split_ifs
  · rfl
  · exact zero

theorem clearing_step {s : State cfg} {log : ClearLog} (lookup : Lookup s)
    (clearing : Clearing s log) (i : Input cfg) :
    Clearing (step s i) (recordClear s i log) := by
  refine ⟨?_, ?_, ?_, ?_, ?_⟩
  · intro notDone
    simp only [recordClear, Bool.or_eq_false_iff] at notDone
    rcases clearing.first notDone.1 with ⟨clear, zero⟩
    have goesOn : flushDone s = false := by simpa [clearEnds, clear] using notDone.2
    refine ⟨(stateD_flush_iff s i).mpr (Or.inl ⟨clear, goesOn⟩), fun way => ?_⟩
    have writes : vldWe s i = true := (vldWe_iff s i).mpr (Or.inr (Or.inr clear))
    rw [tagAddr_step, writes, zero way]
    simp
  · intro noClear
    by_cases clear : s.stateQ = .flush
    · have ends : flushDone s = true := by
        by_contra goesOn
        exact noClear ((stateD_flush_iff s i).mpr
          (Or.inl ⟨clear, Bool.eq_false_iff.mpr goesOn⟩))
      simp [step, ends]
    · exact flushCntQ_step_of_idle clear (clearing.counter clear)
  · intro clear set less
    rcases (stateD_flush_iff s i).mp clear with ⟨before, goesOn⟩ | ⟨idle, _⟩
    · rw [Fin.lt_def, flushCntQ_step_of_flush before goesOn] at less
      by_cases here : set = s.flushCntQ
      · exact (tagRow_step_of_flush before set).1 here
      · rw [(tagRow_step_of_flush before set).2 here]
        refine clearing.below before set ?_
        have differ : set.val ≠ s.flushCntQ.val := fun equal => here (Fin.ext equal)
        rw [Fin.lt_def]
        omega
    · have noClear : s.stateQ ≠ .flush := by simp [idle]
      rw [flushCntQ_step_of_idle noClear (clearing.counter noClear)] at less
      simp at less
  · intro empty set
    simp only [recordClear] at empty
    by_cases ends : clearEnds s = true
    · exact noneValid_of_clearEnds clearing ends set
    · rw [if_neg ends, Bool.and_eq_true, Bool.not_eq_true'] at empty
      exact noneValid_of_step empty.2 (clearing.empty empty.1 set)
  · intro enabled
    by_cases ends : clearEnds s = true
    · exact ⟨by simp [recordClear, ends],
        Or.inr fun set => noneValid_of_clearEnds clearing ends set⟩
    · have before : s.cacheEnQ = true := by
        have notThis : ¬(s.stateQ = .flush ∧ flushDone s = true) := by
          simpa [clearEnds] using ends
        rw [step, cacheEnD_eq, if_neg notThis] at enabled
        exact (Bool.and_eq_true_iff.mp enabled).1
      rcases clearing.enabled before with ⟨done, ports⟩
      refine ⟨by simp [recordClear, done], ?_⟩
      by_cases accepted : accepts s i = true
      · have lookupNow : (pFsm s i).cacheRden = true := by
          refine (cacheRden_iff s i).mpr ?_
          rcases accepts_state accepted with idle | read
          · exact Or.inl ⟨idle, accepted⟩
          · exact Or.inr ⟨read, before⟩
        exact Or.inl fun way => tagAddr_step_eq (Or.inl ⟨accepted, lookupNow⟩)
      · have kept : accepts s i = false := Bool.eq_false_iff.mpr accepted
        by_cases fill : (pFsm s i).cacheWren = true
        · have miss := ((cacheWren_iff s i).mp fill).1
          exact Or.inl fun way => tagAddr_step_eq
            (Or.inr ⟨kept, lookup.tagAddr ⟨Or.inr miss, before⟩ way⟩)
        · rcases ports with aligned | none'
          · exact Or.inl fun way => tagAddr_step_eq (Or.inr ⟨kept, aligned way⟩)
          · exact Or.inr fun set =>
              noneValid_of_step (Bool.eq_false_iff.mpr fill) (none' set)

theorem tagRow_step_of_fill {s : State cfg} {i : Input cfg} {a : Announcement cfg}
    (written : WritesAnnounced s i a) (set : Fin cfg.numWords) (way : Fin cfg.ways) :
    tagRow (step s i) set way =
      if way = a.way ∧ set = a.set then ⟨true, s.clTagQ⟩ else tagRow s set way := by
  have ways : (vldReq s i way && vldWe s i) = true ↔ way = a.way := by
    rw [congrFun written.tagWay way, Bits.single_eq_true_iff]
  have cell : vldReq s i way = true ∧ vldWe s i = true ∧ set = a.set ↔
      way = a.way ∧ set = a.set := by
    rw [← and_assoc, ← Bool.and_eq_true, ways]
  rw [tagRow_step, written.valid, written.tagSet]
  simp only [cell]

theorem tagsDiffer_of_fill {s : State cfg} {i : Input cfg} {a : Announcement cfg}
    (written : WritesAnnounced s i a) {set : Fin cfg.numWords}
    (differ : TagsDiffer (tagRow s set))
    (missed : ∀ way, (tagRow s a.set way).vld = true → (tagRow s a.set way).tag ≠ s.clTagQ) :
    TagsDiffer (tagRow (step s i) set) := by
  by_cases here : set = a.set
  · subst here
    have new : tagRow (step s i) a.set a.way = ⟨true, s.clTagQ⟩ := by
      rw [tagRow_step_of_fill written, if_pos ⟨rfl, rfl⟩]
    have kept (way : Fin cfg.ways) (other : way ≠ a.way) :
        tagRow (step s i) a.set way = tagRow s a.set way := by
      rw [tagRow_step_of_fill written, if_neg fun both => other both.1]
    intro way way' valid valid' same
    by_cases first : way = a.way
    · by_cases second : way' = a.way
      · exact first.trans second.symm
      · rw [kept way' second] at valid' same
        rw [first, new] at same
        exact absurd same.symm (missed way' valid')
    · rw [kept way first] at valid same
      by_cases second : way' = a.way
      · rw [second, new] at same
        exact absurd same (missed way valid)
      · rw [kept way' second] at valid' same
        exact differ way way' valid valid' same
  · refine differ.of_kept fun way _ => ?_
    rw [tagRow_step_of_fill written, if_neg (fun both => here both.2)]

theorem rows_step {s : State cfg} {last : Option (Announcement cfg)} {log : ClearLog}
    (announced : Announced (s, last)) (clearing : Clearing s log) (distinct : Distinct s log)
    (i : Input cfg) (done : (recordClear s i log).done = true) (set : Fin cfg.numWords) :
    TagsDiffer (tagRow (step s i) set) := by
  by_cases ends : clearEnds s = true
  · exact (noneValid_of_clearEnds clearing ends set).tagsDiffer
  · have doneBefore : log.done = true := by simpa [recordClear, ends] using done
    have differ := distinct.rows doneBefore set
    by_cases fill : (pFsm s i).cacheWren = true
    · rcases (cacheWren_iff s i).mp fill with ⟨miss, _, _, _, cacheable⟩
      have enabled := cacheEnQ_of_cacheable cacheable
      rcases announced miss enabled with ⟨a, _, outstanding⟩
      refine tagsDiffer_of_fill (fill_ways outstanding fill).1 differ ?_
      rw [← outstanding.set]
      exact distinct.missed miss enabled
    · exact differ.of_kept fun way valid =>
        tagRow_of_vld_step (Bool.eq_false_iff.mpr fill) valid

theorem eq_flushCntQ_of_clearEnds {s : State cfg} {log : ClearLog} (clearing : Clearing s log)
    (ends : clearEnds s = true) {set : Fin cfg.numWords} {way : Fin cfg.ways}
    (valid : (tagRow s set way).vld = true) : set = s.flushCntQ := by
  simp only [clearEnds, Bool.and_eq_true, decide_eq_true_eq, flushDone, beq_iff_eq] at ends
  by_contra other
  have less : set < s.flushCntQ := by
    have bound := set.isLt
    have differ : set.val ≠ s.flushCntQ.val := fun equal => other (Fin.ext equal)
    rw [Fin.lt_def]
    omega
  rw [clearing.below ends.1 set less way] at valid
  contradiction

/-- The read ports after the end of a clear: before the first one nothing was
read, and its first set is cleared. -/
theorem ports_of_clearEnds {s : State cfg} {log : ClearLog} (clearing : Clearing s log)
    (distinct : Distinct s log) (ends : clearEnds s = true) :
    TagsDiffer fun way => tagRow s (s.tagSram way).rAddrQ way := by
  by_cases done : log.done = true
  · exact (distinct.rows done s.flushCntQ).of_rows
      fun way valid => eq_flushCntQ_of_clearEnds clearing ends valid
  · rcases clearing.first (Bool.eq_false_iff.mpr done) with ⟨clear, zero⟩
    intro way _ valid
    have last := eq_flushCntQ_of_clearEnds clearing ends valid
    rw [zero way] at last
    simp only [clearEnds, Bool.and_eq_true, flushDone, beq_iff_eq, ← last] at ends
    have more := two_le_numWords cfg
    have first : cfg.numWords - 1 = 0 := by simpa using ends.2.symm
    omega

theorem ports_step {s : State cfg} {log : ClearLog} (clearing : Clearing s log)
    (distinct : Distinct s log) (i : Input cfg)
    (enabled : (step s i).cmpEnQ = true ∨ (step s i).cacheEnQ = true) :
    TagsDiffer fun way => ((step s i).tagSram way).rdataQ := by
  have words : (fun way => ((step s i).tagSram way).rdataQ) =
      fun way => tagRow s ((step s i).tagSram way).rAddrQ way := by
    funext way
    exact tagRdata_step s i way
  rw [words]
  by_cases before : s.cacheEnQ = true
  · rcases clearing.enabled before with ⟨done, aligned | none'⟩
    · refine (distinct.rows done (setNow (step s i))).of_rows fun way _ => tagAddr_step_eq ?_
      by_cases accepted : accepts s i = true
      · refine Or.inl ⟨accepted, (cacheRden_iff s i).mpr ?_⟩
        rcases accepts_state accepted with idle | read
        · exact Or.inl ⟨idle, accepted⟩
        · exact Or.inr ⟨read, before⟩
      · exact Or.inr ⟨Bool.eq_false_iff.mpr accepted, aligned way⟩
    · intro way _ valid
      rw [none' _ way] at valid
      contradiction
  · have ends : s.stateQ = .flush ∧ flushDone s = true := by
      by_contra notThis
      rcases enabled with compare | enabled
      · exact before ((cmpEnD_iff s i).mp compare).2.1
      · rw [step, cacheEnD_eq, if_neg notThis] at enabled
        exact before (Bool.and_eq_true_iff.mp enabled).1
    have writes : vldWe s i = true := (vldWe_iff s i).mpr (Or.inr (Or.inr ends.1))
    have addresses (way : Fin cfg.ways) :
        ((step s i).tagSram way).rAddrQ = (s.tagSram way).rAddrQ := by
      rw [tagAddr_step, writes]
      simp
    simp only [addresses]
    exact ports_of_clearEnds clearing distinct (by simp [clearEnds, ends])

theorem tag_ne_of_memDataReq {s : State cfg} {i : Input cfg} (lookup : Lookup s)
    (request : (pFsm s i).memDataReq = true) (enabled : s.cacheEnQ = true) (way : Fin cfg.ways)
    (valid : (tagRow s (setNow s) way).vld = true) :
    (tagRow s (setNow s) way).tag ≠ clTagD s i := by
  rcases (memDataReq_iff s i).mp request with ⟨read, _, _, noResult, _, noInvalidation⟩
  simp only [hitOrException, enabled, Bool.and_true, Bool.or_eq_false_iff,
    Bits.any_eq_false_iff] at noResult
  intro same
  have hit : clHit s i way = true := by
    simp only [clHit, clTagRdata, vldRdata, lookup.tagFresh ⟨read, enabled, noInvalidation⟩ way,
      Bool.and_eq_true, beq_iff_eq]
    exact ⟨same, valid⟩
  rw [noResult.1 way] at hit
  contradiction

theorem missed_step {s : State cfg} {last : Option (Announcement cfg)} {log : ClearLog}
    {i : Input cfg} (lookup : Lookup s) (distinct : Distinct s log)
    (handshake : Handshake ((s, last), log) i) (miss : (step s i).stateQ = .miss)
    (enabled : (step s i).cacheEnQ = true) (way : Fin cfg.ways)
    (valid : (tagRow (step s i) (setNow (step s i)) way).vld = true) :
    (tagRow (step s i) (setNow (step s i)) way).tag ≠ (step s i).clTagQ := by
  have before : s.cacheEnQ = true := (inFlight_step ⟨Or.inr miss, enabled⟩).1
  rcases (stateD_miss_iff s i).mp miss with ⟨request, _⟩ | ⟨waiting, pending, _, _⟩
  · have noFill : (pFsm s i).cacheWren = false :=
      cacheWren_eq_false (by simp [((memDataReq_iff s i).mp request).1])
    rw [setNow_step_of_not_accepts (accepts_of_memDataReq request)] at valid ⊢
    have kept := tagRow_of_vld_step noFill valid
    rw [kept] at valid ⊢
    exact tag_ne_of_memDataReq lookup request before way valid
  · have noFill : (pFsm s i).cacheWren = false := by
      refine Bool.eq_false_iff.mpr fun fill => ?_
      rw [((cacheWren_iff s i).mp fill).2.1] at pending
      contradiction
    have noAnswer : i.fetchValid = false := by
      refine Bool.eq_false_iff.mpr fun answer => ?_
      simpa [waiting] using (fetchReq_iff s i).mp (handshake answer)
    rw [setNow_step_of_not_accepts (accepts_of_miss waiting)] at valid ⊢
    have kept := tagRow_of_vld_step noFill valid
    rw [kept] at valid ⊢
    have sameTag : (step s i).clTagQ = s.clTagQ := by simp [step, clTagD, noAnswer]
    rw [sameTag]
    exact distinct.missed waiting before way valid

theorem distinct_step {s : State cfg} {last : Option (Announcement cfg)} {log : ClearLog}
    {i : Input cfg} (lookup : Lookup s) (announced : Announced (s, last))
    (clearing : Clearing s log) (distinct : Distinct s log)
    (handshake : Handshake ((s, last), log) i) :
    Distinct (step s i) (recordClear s i log) :=
  ⟨rows_step announced clearing distinct i, ports_step clearing distinct i,
    missed_step lookup distinct handshake⟩

/-- The invariants together. -/
structure Unique (state : (State cfg × Option (Announcement cfg)) × ClearLog) : Prop where
  lookup : Lookup state.1.1
  announced : Announced state.1
  clearing : Clearing state.1.1 state.2
  distinct : Distinct state.1.1 state.2

theorem unique_reset (powerUp : PowerUp cfg) : Unique (clearing powerUp).reset := by
  refine ⟨lookup_reset powerUp, fun miss => ?_, clearing_reset powerUp, distinct_reset powerUp⟩
  simp [clearing, announcing, Machine.withHistory, machine, reset] at miss

theorem unique_step (powerUp : PowerUp cfg)
    {state : (State cfg × Option (Announcement cfg)) × ClearLog} {i : Input cfg}
    (unique : Unique state) (handshake : Handshake state i) :
    Unique ((clearing powerUp).step state i) :=
  ⟨lookup_step unique.lookup i, announced_step powerUp unique.lookup unique.announced,
    clearing_step unique.lookup unique.clearing i,
    distinct_step unique.lookup unique.announced unique.clearing unique.distinct handshake⟩

theorem unique_run (powerUp : PowerUp cfg) {inputs : List (Input cfg)}
    (handshakes : (clearing powerUp).RunAlong Handshake inputs) :
    Unique ((clearing powerUp).run inputs) :=
  (clearing powerUp).run_invariant_along Unique (unique_reset powerUp)
    (fun _ _ unique handshake => unique_step powerUp unique handshake) handshakes

theorem clHit_of_tagsDiffer {s : State cfg} (i : Input cfg)
    (differ : TagsDiffer fun way => (s.tagSram way).rdataQ) :
    (clHit s i).AtMostOne ∧ ∀ way, clHit s i way = true → hitIdx s i = way := by
  have one : (clHit s i).AtMostOne := by
    intro way way' hit hit'
    simp only [clHit, clTagRdata, vldRdata, Bool.and_eq_true, beq_iff_eq] at hit hit'
    exact differ way way' hit.2 hit'.2 (hit.1.trans hit'.1.symm)
  refine ⟨one, fun way hit => ?_⟩
  have some' : (clHit s i).any = true := (Bits.any_eq_true_iff _).mpr ⟨way, hit⟩
  rw [hitIdx, lzcCnt, if_pos some', Bits.firstIndex_eq one hit]

/-- In every run whose translation answers only when it is asked: the valid
tags of every cleared set are different; while the comparison or the cache is
enabled at most one way hits, and the hit index is that way; from the end of a
clear until the next fill no way is valid. -/
theorem setTagsDiffer_run (powerUp : PowerUp cfg) (inputs : List (Input cfg))
    (handshakes : (clearing powerUp).RunAlong Handshake inputs) :
    (((clearing powerUp).run inputs).2.done = true →
        ∀ set, TagsDiffer (tagRow ((clearing powerUp).run inputs).1.1 set)) ∧
      (((clearing powerUp).run inputs).1.1.stateQ = .flush →
        ∀ set, set < ((clearing powerUp).run inputs).1.1.flushCntQ →
          NoneValid (tagRow ((clearing powerUp).run inputs).1.1 set)) ∧
      (((clearing powerUp).run inputs).1.1.cmpEnQ = true ∨
          ((clearing powerUp).run inputs).1.1.cacheEnQ = true →
        ∀ i, (clHit ((clearing powerUp).run inputs).1.1 i).AtMostOne ∧
          ∀ way, clHit ((clearing powerUp).run inputs).1.1 i way = true →
            hitIdx ((clearing powerUp).run inputs).1.1 i = way) ∧
      (((clearing powerUp).run inputs).2.empty = true →
        ∀ set, NoneValid (tagRow ((clearing powerUp).run inputs).1.1 set)) := by
  have unique := unique_run powerUp handshakes
  exact ⟨unique.distinct.rows, unique.clearing.below,
    fun enabled i => clHit_of_tagsDiffer i (unique.distinct.ports enabled),
    unique.clearing.empty⟩

end Clear

/-! ## Before the first clear, and with the cache disabled -/

section Runs

/-- The cache is cleared and filled with two lines of set 1 and one of set 0. -/
def filledInputs : List (Input Cfg.small) :=
  [Input.quiet Cfg.small, Input.quiet Cfg.small] ++ lookupInputs 8 ++ [fillInput] ++
    lookupInputs 88 ++ [fillInput] ++ lookupInputs 80 ++ [fillInput]

theorem setTagsDiffer_run_filled :
    (((clearing (PowerUp.zero Cfg.small)).run filledInputs).2.done = true →
        ∀ set, TagsDiffer (tagRow ((clearing (PowerUp.zero Cfg.small)).run
          filledInputs).1.1 set)) ∧
      (((clearing (PowerUp.zero Cfg.small)).run filledInputs).1.1.stateQ = .flush →
        ∀ set, set < ((clearing (PowerUp.zero Cfg.small)).run filledInputs).1.1.flushCntQ →
          NoneValid (tagRow ((clearing (PowerUp.zero Cfg.small)).run
            filledInputs).1.1 set)) ∧
      (((clearing (PowerUp.zero Cfg.small)).run filledInputs).1.1.cmpEnQ = true ∨
          ((clearing (PowerUp.zero Cfg.small)).run filledInputs).1.1.cacheEnQ = true →
        ∀ i, (clHit ((clearing (PowerUp.zero Cfg.small)).run filledInputs).1.1 i).AtMostOne ∧
          ∀ way, clHit ((clearing (PowerUp.zero Cfg.small)).run
              filledInputs).1.1 i way = true →
            hitIdx ((clearing (PowerUp.zero Cfg.small)).run filledInputs).1.1 i = way) ∧
      (((clearing (PowerUp.zero Cfg.small)).run filledInputs).2.empty = true →
        ∀ set, NoneValid (tagRow ((clearing (PowerUp.zero Cfg.small)).run
          filledInputs).1.1 set)) :=
  setTagsDiffer_run (PowerUp.zero Cfg.small) filledInputs (by decide +kernel)

/-- Memories that power up with one tag valid in both ways. -/
def equalTags : PowerUp Cfg.small :=
  { PowerUp.zero Cfg.small with tag := fun _ _ => ⟨true, 0⟩ }

/-- With the cache disabled during a lookup, an exception of its translation
lets in a request of the other set, of which only the latched way is read. -/
def disabledInputs : List (Input Cfg.small) :=
  filledInputs ++
    [{ Input.quiet Cfg.small with req := true, vaddr := 80, en := false },
      { Input.quiet Cfg.small with en := false },
      { Input.quiet Cfg.small with
        en := false, fetchValid := true, fetchPaddr := 80, fetchException := true,
        req := true, vaddr := 88 }]

def disabledLookup : Input Cfg.small :=
  { Input.quiet Cfg.small with en := false, fetchValid := true, fetchPaddr := 88 }

/-- A set that was never cleared may hold a tag twice, and a disabled cache may
hit in two ways. -/
theorem tagsEqual_or_twoHits :
    (¬∀ (powerUp : PowerUp Cfg.small) (inputs : List (Input Cfg.small)),
        (clearing powerUp).RunAlong Handshake inputs →
          ∀ set, TagsDiffer (tagRow ((clearing powerUp).run inputs).1.1 set)) ∧
      ¬∀ (powerUp : PowerUp Cfg.small) (inputs : List (Input Cfg.small)) (i : Input Cfg.small),
        (clearing powerUp).RunAlong Handshake (inputs ++ [i]) →
          ((clearing powerUp).run inputs).2.done = true →
            (clHit ((clearing powerUp).run inputs).1.1 i).AtMostOne := by
  constructor
  · intro differ
    exact absurd (differ equalTags [] trivial 0 0 1 rfl rfl rfl) (by decide)
  · intro one
    have hits := one (PowerUp.zero Cfg.small) disabledInputs disabledLookup
      (by decide +kernel) (by decide +kernel) 0 1 (by decide +kernel) (by decide +kernel)
    exact absurd hits (by decide)

end Runs

end Cva6Hpd.Icache
