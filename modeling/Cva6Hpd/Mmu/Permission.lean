import Cva6Hpd.Mmu.Unit

/-!
# Permissions of translations

A translation is returned on a hit. Only the privilege, and for a store the W and D bits, are
looked at then; X, R and A were looked at by the walker, for the access that it walked for. Each
leaf in the buffers is labelled with the check that it has passed. A hit is sound when the check
was made for an access of its side.
-/

namespace Cva6Hpd.Mmu.Unit

open Csr (PrivLvl)
open Hw (Machine)
open Common (TcSram)
open Ptw (Check)

/-! ## What an access needs -/

/-- The level may use the page, where `sum` admits the supervisor to the pages of the user. -/
def AllowsLevel (priv : PrivLvl) (sum : Bool) (pte : Pte) : Prop :=
  (priv = .u → pte.u = true) ∧ (priv = .s → pte.u = true → sum = true)

/-- The leaf allows a fetch. -/
def AllowsFetch (pte : Pte) : Prop := pte.a = true ∧ pte.x = true

/-- The leaf allows a load or store; `executable` says that X does for R. -/
def AllowsData (store executable : Bool) (pte : Pte) : Prop :=
  pte.a = true ∧
    if store then pte.w = true ∧ pte.d = true
    else pte.r = true ∨ (pte.x = true ∧ executable = true)

variable (cfg : UnitCfg)

/-- MXR, for the first stage. -/
def executable (i : Input) : Bool := i.mxr || ((ldStStages cfg i).v && i.vmxr)

/-- A translation that is returned without an exception is one that the leaves allow. -/
structure Sound (s : State cfg) (i : Input) : Prop where
  fetch : (areqO cfg s i).fetchValid = true → (areqO cfg s i).fetchException.valid = false →
    ((stages cfg i).s = true →
        AllowsFetch (itlbContent cfg s i) ∧
          AllowsLevel i.privLvl false (itlbContent cfg s i)) ∧
      ((stages cfg i).g = true →
        AllowsFetch (itlbGContent cfg s i) ∧ (itlbGContent cfg s i).u = true)
  data : lsuTranslated cfg i = true → (lsuAnswer cfg s i).lsuValid = true →
    (lsuAnswer cfg s i).lsuException.valid = false →
      ((ldStStages cfg i).s = true →
          AllowsData s.lsuIsStoreQ (executable cfg i) s.dtlbPteQ ∧
            AllowsLevel i.ldStPrivLvl (if (ldStStages cfg i).v then i.vsSum else i.sum)
              s.dtlbPteQ) ∧
        ((ldStStages cfg i).g = true →
          AllowsData s.lsuIsStoreQ i.mxr s.dtlbGpteQ ∧ s.dtlbGpteQ.u = true)

/-! ## The checks that the leaves have passed -/

/-- The checks of the leaves of both stages. -/
structure Checks where
  pte : Option Check
  gpte : Option Check

/-- No check. -/
def Checks.unchecked : Checks := ⟨none, none⟩

structure CheckHistory where
  labels : Labels cfg Checks
  /-- The check of `gpte_q` of the walker. -/
  gpte : Option Check
  /-- The checks of the leaves that the last load or store hit. -/
  data : Checks

variable {cfg} (s : State cfg) (i : Input) (h : CheckHistory cfg)

/-- The second stage is on for fetches or for loads and stores. -/
def anyGuest (cfg : UnitCfg) : Bool := (stages cfg i).g || (ldStStages cfg i).g

/-- The check of the entry that the walker looks at. -/
def ownCheck : Option Check := Ptw.leafCheck cfg.toCfg s.ptw (walkInput cfg s i)

/-- The checks of what the walker installs. -/
def walkedChecks : Checks :=
  if anyGuest i cfg then ⟨h.gpte, ownCheck s i⟩ else ⟨ownCheck s i, none⟩

def recordChecks : CheckHistory cfg where
  labels := h.labels.step s i (walkedChecks s i h) id
  gpte :=
    if s.ptw.stateQ = .idle then none
    else if Ptw.keepsGpte cfg.toCfg s.ptw (walkInput cfg s i) then ownCheck s i
    else h.gpte
  data :=
    match dtlbHitting cfg s i with
    | some k => h.labels.dtlb k
    | none => Checks.unchecked

/-- The unit with the checks of its leaves. -/
def checking (cfg : UnitCfg) (powerUp : Fin 2 → TcSram (2 ^ cfg.sharedTlbBits) SharedTlb.Row) :
    Machine (State cfg × CheckHistory cfg) Input :=
  (machine cfg powerUp).withHistory
    ⟨Labels.initial powerUp Checks.unchecked, none, Checks.unchecked⟩ recordChecks

/-- The leaf was let pass for a fetch. -/
def ForFetch (check : Option Check) : Prop := ∃ own ∈ check, own.instr = true

instance (check : Option Check) : Decidable (ForFetch check) :=
  inferInstanceAs (Decidable (∃ own ∈ check, own.instr = true))

/-- The leaf was let pass for a load or store, and in place of R only where `executable` says
so. -/
def ForData (executable : Bool) (check : Option Check) : Prop :=
  ∃ own ∈ check, own.instr = false ∧ (own.lenient = true → executable = true)

instance (executable : Bool) (check : Option Check) : Decidable (ForData executable check) :=
  inferInstanceAs (Decidable (∃ own ∈ check, _ ∧ (_ → _)))

/-- A hit uses leaves that were let pass for an access of its side. -/
structure OwnSide (c : State cfg × CheckHistory cfg) (i : Input) : Prop where
  fetch : ∀ k, i.fetchReq = true → itlbHitting cfg c.1 i = some k →
    ((stages cfg i).s = true → ForFetch (c.2.labels.itlb k).pte) ∧
      ((stages cfg i).g = true → ForFetch (c.2.labels.itlb k).gpte)
  data : c.1.lsuReqQ = true → c.1.dtlbHitQ = true →
    ((ldStStages cfg i).s = true →
        ForData (c.1.lsuIsStoreQ || executable cfg i) c.2.data.pte) ∧
      ((ldStStages cfg i).g = true → ForData (c.1.lsuIsStoreQ || i.mxr) c.2.data.gpte)

instance (c : State cfg × CheckHistory cfg) (i : Input) : Decidable (OwnSide c i) :=
  decidable_of_iff (_ ∧ _) ⟨fun ⟨fetch, data⟩ => ⟨fetch, data⟩, fun ⟨fetch, data⟩ => ⟨fetch, data⟩⟩

/-! ## The checks hold of the leaves -/

section Tracked

variable {s i h}

theorem passed_of_rights {check : Check} {first second : Pte} (passed : check.Passed first)
    (a : second.a = first.a) (x : second.x = first.x) (r : second.r = first.r) :
    check.Passed second := by
  rw [Check.Passed, a, x, r]
  exact passed

/-- The checks hold of the leaves; without the hypervisor extension there is one stage. -/
structure Backed (cfg : UnitCfg) (pte gpte : Pte) (checks : Checks) : Prop where
  pte : ∀ check, checks.pte = some check → check.Passed pte
  gpte : ∀ check, checks.gpte = some check → check.Passed gpte
  plain : cfg.rvh = false → checks.gpte = none

theorem backed_unchecked (pte gpte : Pte) : Backed cfg pte gpte Checks.unchecked := by
  refine ⟨?_, ?_, fun _ => rfl⟩ <;>
  · intro check none
    contradiction

theorem Backed.patched {pte gpte pte' gpte' : Pte} {checks : Checks}
    (backed : Backed cfg pte gpte checks)
    (first : pte'.a = pte.a ∧ pte'.x = pte.x ∧ pte'.r = pte.r)
    (second : cfg.rvh = true → gpte'.a = gpte.a ∧ gpte'.x = gpte.x ∧ gpte'.r = gpte.r) :
    Backed cfg pte' gpte' checks := by
  refine ⟨?_, ?_, backed.plain⟩
  · intro check some
    exact passed_of_rights (backed.pte check some) first.1 first.2.1 first.2.2
  · intro check some
    cases virtual : cfg.rvh with
    | false =>
        rw [backed.plain virtual] at some
        contradiction
    | true =>
        have same := second virtual
        exact passed_of_rights (backed.gpte check some) same.1 same.2.1 same.2.2

/-- The invariant of the checks. -/
structure Tracked (s : State cfg) (h : CheckHistory cfg) : Prop where
  itlb : ∀ k, Backed cfg (s.itlb.entries k).pte (s.itlb.entries k).gpte (h.labels.itlb k)
  dtlb : ∀ k, Backed cfg (s.dtlb.entries k).pte (s.dtlb.entries k).gpte (h.labels.dtlb k)
  ways : ∀ way, TcSram.Related (fun row checks => Backed cfg row.pte row.gpte checks)
    (s.shared.ways way) (h.labels.ways way)
  gpte : ∀ check, h.gpte = some check → check.Passed s.ptw.gpteQ
  data : Backed cfg s.dtlbPteQ s.dtlbGpteQ h.data

theorem tracked_reset (powerUp : Fin 2 → TcSram (2 ^ cfg.sharedTlbBits) SharedTlb.Row) :
    Tracked (checking cfg powerUp).reset.1 (checking cfg powerUp).reset.2 where
  itlb _ := backed_unchecked _ _
  dtlb _ := backed_unchecked _ _
  ways _ := ⟨rfl, fun _ => backed_unchecked _ _, backed_unchecked _ _⟩
  gpte _ none := by contradiction
  data := backed_unchecked _ _

theorem anyGuest_of_plain (plain : cfg.rvh = false) : anyGuest i cfg = false := by
  simp [anyGuest, stages, ldStStages, plain]

theorem Tracked.walked (tracked : Tracked s h) :
    Backed cfg (walkUpdate cfg s i).content (walkUpdate cfg s i).gContent
      (walkedChecks s i h) := by
  have own (check : Check) (some : ownCheck s i = some check) :
      check.Passed (Ptw.pte cfg.toCfg s.ptw) := Ptw.passed_of_leafCheck some
  have guest : (((walkInput cfg s i).enableGTranslation ||
      (walkInput cfg s i).enLdStGTranslation) && cfg.rvh) = anyGuest i cfg := by
    simp only [walkInput, ptwInput, anyGuest, stages, ldStStages]
    cases cfg.rvh <;> simp
  rw [walkUpdate_eq]
  simp only [Ptw.sharedTlbUpdateO, guest, walkedChecks]
  cases virtual : anyGuest i cfg with
  | false =>
      refine ⟨?_, ?_, fun _ => rfl⟩
      · intro check some
        exact passed_of_rights (own check some) rfl rfl rfl
      · intro check none
        contradiction
  | true =>
      refine ⟨?_, ?_, ?_⟩
      · intro check some
        exact passed_of_rights (tracked.gpte check some) rfl rfl rfl
      · intro check some
        exact own check some
      · intro plain
        rw [anyGuest_of_plain plain] at virtual
        contradiction

theorem Tracked.update (tracked : Tracked s h)
    (valid : (SharedTlb.firstLevelUpdate s.shared (sharedInput cfg s i)).valid = true) :
    Backed cfg (SharedTlb.firstLevelUpdate s.shared (sharedInput cfg s i)).content
      (SharedTlb.firstLevelUpdate s.shared (sharedInput cfg s i)).gContent
      (h.labels.update s i (walkedChecks s i h) id) := by
  rcases firstLevelUpdate_cases (walkedChecks s i h) id h.labels valid with
    ⟨way, _, _, same, label⟩ | ⟨_, same, label⟩
  · rw [same, label]
    refine (tracked.ways way).rdataQ.patched ?_ ?_
    · simp only [SharedTlb.hitUpdate]
      split <;> exact ⟨rfl, rfl, rfl⟩
    · intro virtual
      simp only [SharedTlb.hitUpdate, virtual, if_true]
      exact ⟨rfl, rfl, rfl⟩
  · rw [same, label]
    exact tracked.walked

/-- An entry of the instruction buffer keeps its label, or takes both from an update. -/
theorem Tracked.itlb_step (tracked : Tracked s h) (k : Fin cfg.instrTlbEntries) :
    Backed cfg ((step cfg s i).itlb.entries k).pte ((step cfg s i).itlb.entries k).gpte
      ((recordChecks s i h).labels.itlb k) := by
  simp only [Unit.step, recordChecks, Labels.step, Tlb.entries_step]
  split
  · rename_i writes
    simp only [Tlb.writes, Bool.and_eq_true] at writes
    rcases SharedTlb.itlbUpdate_valid writes.1.1.2 with ⟨_, same⟩
    have valid := writes.1.1.2
    simp only [itlbInput, updateItlb, same, Tlb.ofUpdate] at valid ⊢
    exact tracked.update valid
  · split <;> exact tracked.itlb k

theorem Tracked.dtlb_step (tracked : Tracked s h) (k : Fin cfg.dataTlbEntries) :
    Backed cfg ((step cfg s i).dtlb.entries k).pte ((step cfg s i).dtlb.entries k).gpte
      ((recordChecks s i h).labels.dtlb k) := by
  simp only [Unit.step, recordChecks, Labels.step, Tlb.entries_step]
  split
  · rename_i writes
    simp only [Tlb.writes, Bool.and_eq_true] at writes
    rcases SharedTlb.dtlbUpdate_valid writes.1.1.2 with ⟨_, same⟩
    have valid := writes.1.1.2
    simp only [dtlbInput, updateDtlb, same, Tlb.ofUpdate] at valid ⊢
    exact tracked.update valid
  · split <;> exact tracked.dtlb k

theorem Tracked.ways_step (tracked : Tracked s h) (way : Fin 2) :
    TcSram.Related (fun row checks => Backed cfg row.pte row.gpte checks)
      ((step cfg s i).shared.ways way) ((recordChecks s i h).labels.ways way) := by
  apply (tracked.ways way).step
  intro _
  have stored (pte : Pte) : (SharedTlb.stored cfg pte).a = pte.a ∧
      (SharedTlb.stored cfg pte).x = pte.x ∧ (SharedTlb.stored cfg pte).r = pte.r := by
    rw [SharedTlb.stored]
    split <;> exact ⟨rfl, rfl, rfl⟩
  exact tracked.walked.patched (stored _) fun _ => stored _

/-- The walker keeps the leaf of the first stage with its check. -/
theorem Tracked.gpte_step (tracked : Tracked s h) (check : Check)
    (some : (recordChecks s i h).gpte = some check) :
    check.Passed (step cfg s i).ptw.gpteQ := by
  simp only [recordChecks] at some
  split at some
  · contradiction
  · rename_i busy
    have keeps (virtual : cfg.rvh = true) : (Unit.step cfg s i).ptw.gpteQ =
        if Ptw.keepsGpte cfg.toCfg s.ptw (walkInput cfg s i) then Ptw.pte cfg.toCfg s.ptw
        else s.ptw.gpteQ := by
      rw [Unit.step, Ptw.gpteQ_step virtual, if_neg busy]
    split at some
    · rename_i kept
      have virtual : cfg.rvh = true := by
        simp only [Ptw.keepsGpte, Bool.and_eq_true] at kept
        exact kept.1.1.1.1.1
      rw [keeps virtual, if_pos kept]
      exact Ptw.passed_of_leafCheck some
    · rename_i other
      cases virtual : cfg.rvh with
      | true =>
          rw [keeps virtual, if_neg other]
          exact tracked.gpte check some
      | false =>
          have same : (Unit.step cfg s i).ptw.gpteQ = s.ptw.gpteQ := by
            simp [Unit.step, Ptw.step, Ptw.hypRegisters, virtual]
          rw [same]
          exact tracked.gpte check some

theorem Backed.shown {e : Tlb.Entry} {checks : Checks} (backed : Backed cfg e.pte e.gpte checks)
    (i : Tlb.Input) {gpte : Pte} (guest : cfg.rvh = true → gpte = Tlb.luGContent cfg.toCfg i e) :
    Backed cfg (Tlb.luContent cfg.toCfg i e) gpte checks := by
  refine backed.patched ?_ ?_
  · rw [Tlb.luContent]
    split <;> exact ⟨rfl, rfl, rfl⟩
  · intro virtual
    rw [guest virtual, Tlb.luGContent, if_pos virtual]
    split <;> exact ⟨rfl, rfl, rfl⟩

/-- The leaves that a load or store hits are those of the entry. -/
theorem Tracked.data_step (tracked : Tracked s h) :
    Backed cfg (step cfg s i).dtlbPteQ (step cfg s i).dtlbGpteQ (recordChecks s i h).data := by
  simp only [Unit.step, recordChecks, dtlbContent, dtlbGContent, dtlbEntry]
  cases dtlbHitting cfg s i with
  | none => exact backed_unchecked _ _
  | some k => exact (tracked.dtlb k).shown _ fun virtual => if_pos virtual

theorem Tracked.step (tracked : Tracked s h) : Tracked (step cfg s i) (recordChecks s i h) where
  itlb := tracked.itlb_step
  dtlb := tracked.dtlb_step
  ways := tracked.ways_step
  gpte := tracked.gpte_step
  data := tracked.data_step

/-! ## Hits -/

theorem hit_of_areqO (translated : fetchTranslated cfg i = true)
    (valid : (areqO cfg s i).fetchValid = true)
    (clean : (areqO cfg s i).fetchException.valid = false) :
    (∃ k, itlbHitting cfg s i = some k) ∧ i.fetchReq = true ∧
      iaccessErr cfg s i = false ∧ (cfg.rvh && iGStAccessErr cfg s i) = false := by
  rw [areqO, if_pos translated] at valid clean
  cases hit : itlbHitting cfg s i with
  | some k =>
      simp only [hit, Option.isSome_some, if_true] at valid clean
      refine ⟨⟨k, rfl⟩, valid, ?_⟩
      simp only [fetchHitException] at clean
      split at clean
      · contradiction
      · rename_i guest
        split at clean
        · contradiction
        · rename_i level
          exact ⟨Bool.eq_false_iff.mpr level, Bool.eq_false_iff.mpr guest⟩
  | none =>
      simp only [hit, Option.isSome_none, Bool.false_eq_true, if_false] at valid clean
      split at valid
      · rename_i walking
        rw [if_pos walking] at clean
        simp only [fetchWalkException] at clean
        split at clean
        · split at clean <;> contradiction
        · contradiction
      · contradiction

theorem hit_of_lsuAnswer (translated : lsuTranslated cfg i = true)
    (valid : (lsuAnswer cfg s i).lsuValid = true)
    (clean : (lsuAnswer cfg s i).lsuException.valid = false) :
    s.lsuReqQ = true ∧ s.dtlbHitQ = true ∧ (dataHitException cfg s i).valid = false := by
  rw [lsuAnswer, translated, Bool.true_and] at valid clean
  cases misaligned : s.misalignedExQ.valid with
  | true =>
      simp only [misaligned, Bool.not_true, Bool.false_eq_true, if_false] at clean
      contradiction
  | false =>
      simp only [misaligned, Bool.not_false, if_true] at valid clean
      split at valid
      · rename_i hit
        rw [if_pos hit] at clean
        simp only [Bool.and_eq_true] at hit
        exact ⟨hit.2, hit.1, clean⟩
      · rename_i miss
        rw [if_neg miss] at clean
        split at valid
        · rename_i walking
          rw [if_pos walking] at clean
          simp only [dataWalkException] at clean valid
          split at clean
          · split at clean <;> contradiction
          · rename_i access
            rw [Bool.eq_false_iff.mpr access, Bool.or_false] at valid
            rw [if_pos valid] at clean
            split at clean <;> contradiction
        · contradiction

theorem clean_dataHit (clean : (dataHitException cfg s i).valid = false) :
    ((ldStStages cfg i).s = true → daccessErr cfg s i = false ∧
        (s.lsuIsStoreQ = true → s.dtlbPteQ.w = true ∧ s.dtlbPteQ.d = true)) ∧
      ((ldStStages cfg i).g = true → s.dtlbGpteQ.u = true ∧
        (s.lsuIsStoreQ = true → s.dtlbGpteQ.w = true ∧ s.dtlbGpteQ.d = true)) := by
  have virtual (g : (ldStStages cfg i).g = true) : cfg.rvh = true := by
    simp only [ldStStages, Bool.and_eq_true] at g
    exact g.1
  rw [dataHitException] at clean
  cases store : s.lsuIsStoreQ with
  | true =>
      simp only [store, if_true] at clean
      split at clean
      · contradiction
      · rename_i guest
        split at clean
        · contradiction
        · rename_i own
          simp only [Bool.and_eq_true, Bool.or_eq_true, Bool.not_eq_true', not_and, not_or,
            Bool.not_eq_true, Bool.not_eq_false] at guest own
          constructor
          · intro s
            have checks := own (Or.inl s)
            exact ⟨checks.1.1.2, fun _ => ⟨checks.1.1.1, checks.2⟩⟩
          · intro g
            have checks := guest ⟨virtual g, g⟩
            have user := checks.1.2
            simp only [dGStAccessErr, g, Bool.true_and, Bool.not_eq_false'] at user
            exact ⟨user, fun _ => ⟨checks.1.1, checks.2⟩⟩
  | false =>
      simp only [store, Bool.false_eq_true, if_false] at clean
      split at clean
      · contradiction
      · rename_i guest
        split at clean
        · contradiction
        · rename_i own
          simp only [Bool.or_eq_true, not_or, Bool.not_eq_true] at own
          constructor
          · intro _
            exact ⟨own.1, fun given => absurd given Bool.false_ne_true⟩
          · intro g
            simp only [virtual g, dGStAccessErr, g, Bool.true_and, Bool.not_eq_true',
              Bool.not_eq_false] at guest
            exact ⟨guest, fun given => absurd given Bool.false_ne_true⟩

theorem allowsFetch_of_forFetch {pte : Pte} {check : Option Check}
    (backed : ∀ own, check = some own → own.Passed pte) (own : ForFetch check) :
    AllowsFetch pte := by
  rcases own with ⟨own, some, instr⟩
  have passed := backed own some
  rw [Check.Passed, if_pos instr] at passed
  exact passed

/-- What a load or store needs of a leaf that was let pass for one. -/
theorem allowsData_of_forData {pte : Pte} {check : Option Check} {store executable : Bool}
    (backed : ∀ own, check = some own → own.Passed pte)
    (own : ForData (store || executable) check)
    (writable : store = true → pte.w = true ∧ pte.d = true) : AllowsData store executable pte := by
  rcases own with ⟨own, some, instr, lenient⟩
  have passed := backed own some
  rw [Check.Passed, instr, if_neg Bool.false_ne_true] at passed
  refine ⟨passed.1, ?_⟩
  cases kind : store with
  | true =>
      rw [if_pos rfl]
      exact writable kind
  | false =>
      rw [if_neg Bool.false_ne_true]
      rcases passed.2 with readable | ⟨executes, accepted⟩
      · exact Or.inl readable
      · have given := lenient accepted
        rw [kind, Bool.false_or] at given
        exact Or.inr ⟨executes, given⟩

theorem Tracked.fetched (tracked : Tracked s h) {k : Fin cfg.instrTlbEntries}
    (hit : itlbHitting cfg s i = some k) :
    Backed cfg (itlbContent cfg s i) (itlbGContent cfg s i) (h.labels.itlb k) := by
  simp only [itlbContent, itlbGContent, itlbEntry, hit, Option.map_some]
  exact (tracked.itlb k).shown _ fun _ => rfl

theorem Tracked.sound (tracked : Tracked s h) (own : OwnSide (s, h) i) : Sound cfg s i := by
  constructor
  · intro valid clean
    by_cases translated : fetchTranslated cfg i = true
    · rcases hit_of_areqO translated valid clean with ⟨⟨k, hit⟩, req, level, guest⟩
      have backed := tracked.fetched hit
      have side := own.fetch k req hit
      constructor
      · intro enabled
        refine ⟨allowsFetch_of_forFetch backed.pte (side.1 enabled), ?_⟩
        simp only [iaccessErr, req, enabled, Bool.true_and, Bool.or_eq_false_iff,
          Bool.and_eq_false_iff, decide_eq_false_iff_not, Bool.not_eq_false'] at level
        exact ⟨fun priv => level.1.resolve_left (absurd priv),
          fun priv user => absurd user (by simp [level.2.resolve_left (absurd priv)])⟩
      · intro enabled
        refine ⟨allowsFetch_of_forFetch backed.gpte (side.2 enabled), ?_⟩
        have virtual : cfg.rvh = true := by
          simp only [stages, Bool.and_eq_true] at enabled
          exact enabled.1
        simpa [virtual, iGStAccessErr, req, enabled] using guest
    · simp only [fetchTranslated, Bool.or_eq_true, not_or, Bool.not_eq_true] at translated
      simp [translated]
  · intro translated valid clean
    rcases hit_of_lsuAnswer translated valid clean with ⟨req, hit, unharmed⟩
    have side := own.data req hit
    have checks := clean_dataHit unharmed
    constructor
    · intro enabled
      rcases checks.1 enabled with ⟨level, writable⟩
      refine ⟨allowsData_of_forData tracked.data.pte (side.1 enabled) writable, ?_⟩
      simp only [daccessErr, enabled, Bool.true_and, Bool.or_eq_false_iff, Bool.and_eq_false_iff,
        decide_eq_false_iff_not, Bool.not_eq_false'] at level
      constructor
      · exact fun priv => level.2.resolve_left (absurd priv)
      · intro priv user
        rcases level.1 with (other | admitted) | supervisor
        · exact absurd priv other
        · revert admitted
          split <;> simp
        · rw [user] at supervisor
          contradiction
    · intro enabled
      rcases checks.2 enabled with ⟨user, writable⟩
      exact ⟨allowsData_of_forData tracked.data.gpte (side.2 enabled) writable, user⟩

end Tracked

/-! ## Runs -/

/-- When every hit uses leaves that the walker let pass for an access of its side, and in place of
R takes X only where MXR says so, every translation that is returned without an exception is one
that the leaves allow. -/
theorem sound_of_ownSide (cfg : UnitCfg)
    (powerUp : Fin 2 → TcSram (2 ^ cfg.sharedTlbBits) SharedTlb.Row) (inputs : List Input)
    (own : (checking cfg powerUp).RunAlong OwnSide inputs) :
    (checking cfg powerUp).RunAlong (fun c i => Sound cfg c.1 i) inputs :=
  Machine.Along.of_invariant (fun c : State cfg × CheckHistory cfg => Tracked c.1 c.2)
    (fun _ _ tracked _ => tracked.step) (fun _ _ tracked own => tracked.sound own)
    (tracked_reset powerUp) own

section Runs

/-- The page that a load has walked to is then fetched from, though its X bit is clear. -/
theorem not_sound_fetch :
    ¬(checking sv32 blank).RunAlong (fun c i => Sound sv32 c.1 i)
        (readablePage ++ [Input.quiet, Input.fetch, Input.fetch, Input.fetch]) := by
  intro sound
  have last := ((checking sv32 blank).runAlong_concat _
    (readablePage ++ [Input.quiet, Input.fetch, Input.fetch]) Input.fetch).mp sound
  rcases ((last.2.fetch (by decide +kernel) (by decide +kernel)).1 rfl).1 with ⟨_, executable⟩
  revert executable
  decide +kernel

/-- The load hits the page that it has walked to. -/
theorem sound_of_ownSide_load :
    (lsuAnswer sv32 ((machine sv32 blank).run (readablePage ++ List.replicate 4 Input.load))
        Input.load).lsuValid = true ∧
      (checking sv32 blank).RunAlong (fun c i => Sound sv32 c.1 i)
        (readablePage ++ List.replicate 4 Input.load ++ [Input.load]) :=
  ⟨by decide +kernel, sound_of_ownSide sv32 blank _ (by decide +kernel)⟩

end Runs

end Cva6Hpd.Mmu.Unit
