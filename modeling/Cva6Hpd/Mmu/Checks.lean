import Cva6Hpd.Mmu.Ptw

/-!
# What the walker checks of a leaf

The walker looks at the permissions of a leaf for the access that it walks for, and installs no
leaf that it has not let pass. With the hypervisor extension the leaf of the first stage is kept
in a register while the second stage is walked.
-/

namespace Cva6Hpd.Mmu.Ptw

/-- The check that a leaf has passed: that of a fetch, or that of a load or store. -/
structure Check where
  instr : Bool
  /-- A page that is only executable was accepted for a load. -/
  lenient : Bool
deriving DecidableEq

/-- What the check says of the leaf. -/
def Check.Passed (check : Check) (pte : Pte) : Prop :=
  pte.a = true ∧
    if check.instr then pte.x = true
    else pte.r = true ∨ (pte.x = true ∧ check.lenient = true)

variable (cfg : Cfg) (s : State) (i : Input)

/-- The leaf forbids the access that the walk serves. -/
def denied : Bool := if s.isInstrPtwQ then fetchDenied cfg s else !dataAllowed cfg s i

/-- An entry has arrived and is looked at. -/
def looks : Bool := decide (s.stateQ = .pteLookup) && s.dataRvalidQ

/-- The access that the walk serves may read pages that are only executable. -/
def lenient : Bool :=
  i.mxr || i.hlvxInst || (decide (s.ptwStageQ = .s) && i.vmxr && i.ldStV && cfg.rvh)

/-- The check that the entry under the look passes; the entries of the tables of the first stage
are reached without one. -/
def leafCheck : Option Check :=
  if looks s && !denied cfg s i && !(cfg.rvh && decide (s.ptwStageQ = .gIntermed)) then
    some ⟨s.isInstrPtwQ, lenient cfg s i⟩
  else none

/-- The leaf of the first stage is kept for the second one. -/
def keepsGpte : Bool :=
  cfg.rvh && looks s && !invalid cfg s && (pte cfg s).isLeaf && decide (s.ptwStageQ = .s)
    && gEnabled s i

variable {cfg s i}

theorem passed_of_leafCheck {check : Check} (passes : leafCheck cfg s i = some check) :
    check.Passed (pte cfg s) := by
  rw [leafCheck] at passes
  split at passes
  · rename_i let_pass
    simp only [Bool.and_eq_true, Bool.not_eq_true'] at let_pass
    rcases let_pass with ⟨⟨_, allowed⟩, stage⟩
    rw [← Option.some.inj passes]
    rw [denied] at allowed
    cases instr : s.isInstrPtwQ with
    | true =>
        rw [instr, if_pos rfl] at allowed
        simp only [fetchDenied, stage, Bool.not_false, Bool.and_true, Bool.false_and,
          Bool.or_false, Bool.or_eq_false_iff, Bool.not_eq_false'] at allowed
        exact ⟨allowed.2, allowed.1⟩
    | false =>
        rw [instr, if_neg Bool.false_ne_true] at allowed
        simp only [dataAllowed, Bool.not_eq_false', Bool.and_eq_true, Bool.or_eq_true] at allowed
        refine ⟨allowed.1.1, ?_⟩
        rw [if_neg Bool.false_ne_true]
        rcases allowed.1.2 with ⟨readable, _⟩ | ⟨executable, accepted⟩
        · exact Or.inl readable
        · refine Or.inr ⟨executable, ?_⟩
          simp only [lenient, Bool.or_eq_true, Bool.and_eq_true]
          rcases accepted with (mxr | hlvx) | guest
          · exact Or.inl (Or.inl mxr)
          · exact Or.inl (Or.inr hlvx)
          · exact Or.inr guest
  · contradiction

/-! ## What looking at an entry assigns -/

/-- A leaf is installed only if it is let pass, and one of the first stage is kept. -/
structure Lawful (cfg : Cfg) (s : State) (i : Input) (kept : Pte) (c : Comb) : Prop where
  update : c.sharedTlbUpdateValid = true → denied cfg s i = false
  gpteQ : c.next.gpteQ = kept

section Layers

variable {kept : Pte} {c : Comb}

theorem Lawful.fail (lawful : Lawful cfg s i kept c) : Lawful cfg s i kept (fail cfg s c) := by
  rw [Ptw.fail]
  split <;> exact ⟨lawful.update, lawful.gpteQ⟩

theorem Lawful.napot (lawful : Lawful cfg s i kept c) : Lawful cfg s i kept (napot cfg s c) := by
  simp only [Ptw.napot]
  split <;> [split; skip] <;> exact ⟨lawful.update, lawful.gpteQ⟩

theorem Lawful.leafStage (lawful : Lawful cfg s i kept c) :
    Lawful cfg s i
      (if cfg.rvh && decide (s.ptwStageQ = .s) && gEnabled s i then pte cfg s else kept)
      (leafStage cfg s i c) := by
  rw [Ptw.leafStage]
  cases cfg.rvh with
  | false => exact ⟨lawful.update, lawful.gpteQ⟩
  | true =>
      cases s.ptwStageQ with
      | s =>
          cases enabled : gEnabled s i with
          | true => exact ⟨lawful.update, rfl⟩
          | false => exact ⟨lawful.update, lawful.gpteQ⟩
      | gIntermed => exact ⟨lawful.update, lawful.gpteQ⟩
      | gFinal => exact ⟨lawful.update, lawful.gpteQ⟩

theorem Lawful.permission (lawful : Lawful cfg s i kept c) :
    Lawful cfg s i kept (permission cfg s i c) := by
  rw [Ptw.permission]
  change Lawful cfg s i kept (if denied cfg s i then _ else _)
  split
  · exact lawful.fail
  · rename_i allowed
    split
    · exact ⟨fun _ => Bool.eq_false_iff.mpr allowed, lawful.gpteQ⟩
    · exact lawful

theorem Lawful.misaligned (lawful : Lawful cfg s i kept c) :
    Lawful cfg s i kept (misaligned cfg s c) := by
  rw [Ptw.misaligned]
  split
  · refine ⟨?_, lawful.fail.gpteQ⟩
    intro valid
    contradiction
  · exact lawful

theorem Lawful.leaf (lawful : Lawful cfg s i kept c) :
    Lawful cfg s i
      (if cfg.rvh && decide (s.ptwStageQ = .s) && gEnabled s i then pte cfg s else kept)
      (leaf cfg s i c) := by
  have aligned := lawful.napot.leafStage.permission.misaligned
  simp only [Ptw.leaf]
  by_cases beyond : beyondGuest cfg s i = true
  · rw [if_pos beyond]
    exact ⟨aligned.update, aligned.gpteQ⟩
  · rw [if_neg beyond]
    exact aligned

theorem Lawful.pointer (lawful : Lawful cfg s i kept c) :
    Lawful cfg s i kept (pointer cfg s i c) := by
  have held : Lawful cfg s i kept (c.setLvl s.ptwLvlQ) := ⟨lawful.update, lawful.gpteQ⟩
  have further : Lawful cfg s i kept (nextTable cfg s i c) := by
    simp only [nextTable]
    split <;> [split; skip] <;> [split; skip; skip; skip] <;>
      exact ⟨lawful.update, lawful.gpteQ⟩
  simp only [Ptw.pointer]
  split_ifs <;>
    first
      | exact ⟨held.fail.update, held.fail.gpteQ⟩
      | exact ⟨further.update, further.gpteQ⟩

theorem Lawful.pmpCheck (lawful : Lawful cfg s i kept c) :
    Lawful cfg s i kept (pmpCheck cfg s i c) := by
  rw [Ptw.pmpCheck]
  split
  · exact lawful
  · split
    · refine ⟨?_, lawful.gpteQ⟩
      intro valid
      contradiction
    · refine ⟨?_, lawful.gpteQ⟩
      intro valid
      contradiction

end Layers

/-- The register of the first leaf, with the default assignment. -/
def heldGpte (cfg : Cfg) (s : State) : Pte := if cfg.rvh then s.gpteQ else Pte.zero

theorem lawful_looking : Lawful cfg s i (heldGpte cfg s) ((looking cfg s).goto .latency) := by
  refine ⟨?_, rfl⟩
  intro valid
  contradiction

theorem lawful_pteLookup (state : s.stateQ = .pteLookup) :
    Lawful cfg s i (if keepsGpte cfg s i then pte cfg s else heldGpte cfg s)
      (pteLookup cfg s i) := by
  rw [pteLookup, keepsGpte, looks, state]
  cases arrived : s.dataRvalidQ with
  | false =>
      simp only [Bool.and_false, Bool.false_and, Bool.false_eq_true, if_false]
      refine ⟨?_, rfl⟩
      intro valid
      contradiction
  | true =>
      rw [if_pos rfl]
      apply Lawful.pmpCheck
      cases bad : invalid cfg s with
      | true =>
          simp only [Bool.not_true, Bool.and_false, Bool.false_and, Bool.false_eq_true, if_false,
            if_true]
          refine ⟨?_, rfl⟩
          intro valid
          contradiction
      | false =>
          rw [if_neg Bool.false_ne_true]
          cases size : (pte cfg s).isLeaf with
          | true =>
              have start : Lawful cfg s i (heldGpte cfg s) ((looking cfg s).goto .latency) :=
                lawful_looking
              simpa using start.leaf
          | false =>
              simp only [Bool.and_false, Bool.false_and, Bool.false_eq_true, if_false]
              exact lawful_looking.pointer

theorem sharedTlbUpdateValid_comb :
    (comb cfg s i).sharedTlbUpdateValid = (unflushed cfg s i).sharedTlbUpdateValid := by
  rw [comb]
  split
  · simp only [flushed]
    split_ifs <;> rfl
  · rfl

theorem gpteQ_comb : (comb cfg s i).next.gpteQ = (unflushed cfg s i).next.gpteQ := by
  rw [comb]
  split
  · simp only [flushed]
    split_ifs <;> rfl
  · rfl

theorem gpteQ_startWalk (next : State) : (startWalk cfg i next).gpteQ = next.gpteQ := by
  simp only [startWalk]
  split_ifs <;> rfl

/-- Outside of a lookup nothing is installed. -/
theorem unflushed_of_other (other : s.stateQ ≠ .pteLookup) :
    (unflushed cfg s i).sharedTlbUpdateValid = false ∧
      (unflushed cfg s i).next.gpteQ =
        if s.stateQ = .idle then Pte.zero else heldGpte cfg s := by
  rw [unflushed]
  cases state : s.stateQ with
  | idle =>
      simp only [idle]
      split
      · exact ⟨rfl, gpteQ_startWalk _⟩
      · exact ⟨rfl, rfl⟩
  | waitGrant =>
      simp only [waitGrant]
      split <;> exact ⟨rfl, rfl⟩
  | pteLookup => exact absurd state other
  | waitRvalid =>
      simp only [waitRvalid]
      split <;> exact ⟨rfl, rfl⟩
  | killReq => exact ⟨rfl, rfl⟩
  | propagateError => exact ⟨rfl, rfl⟩
  | propagateAccessError => exact ⟨rfl, rfl⟩
  | latency => exact ⟨rfl, rfl⟩

/-! ## The walker -/

/-- A leaf is installed only when it is looked at and let pass. -/
theorem of_update (valid : (sharedTlbUpdateO cfg s i).valid = true) :
    looks s = true ∧ denied cfg s i = false := by
  have raised : (unflushed cfg s i).sharedTlbUpdateValid = true :=
    sharedTlbUpdateValid_comb.symm.trans valid
  by_cases state : s.stateQ = .pteLookup
  · rw [unflushed, state] at raised
    refine ⟨?_, (lawful_pteLookup state).update raised⟩
    cases arrived : s.dataRvalidQ with
    | true => simp [looks, state, arrived]
    | false => simp [pteLookup, arrived, defaults] at raised
  · rw [(unflushed_of_other state).1] at raised
    contradiction

theorem gpteQ_step (virtual : cfg.rvh = true) :
    (step cfg s i).gpteQ =
      if s.stateQ = .idle then Pte.zero
      else if keepsGpte cfg s i then pte cfg s else s.gpteQ := by
  have same : (step cfg s i).gpteQ = (unflushed cfg s i).next.gpteQ := by
    rw [← gpteQ_comb]
    simp [step, hypRegisters, virtual]
  have held : heldGpte cfg s = s.gpteQ := if_pos virtual
  rw [same]
  by_cases state : s.stateQ = .pteLookup
  · have lookup : Lawful cfg s i (if keepsGpte cfg s i then pte cfg s else heldGpte cfg s)
        (pteLookup cfg s i) := lawful_pteLookup state
    simp only [unflushed, state, reduceCtorEq, if_false, ← held]
    exact lookup.gpteQ
  · have rest : keepsGpte cfg s i = false := by simp [keepsGpte, looks, state]
    rw [(unflushed_of_other state).2, held, rest, if_neg Bool.false_ne_true]

theorem sharedTlbUpdateO_of_hit (hit : Bool) :
    sharedTlbUpdateO cfg s { i with sharedTlbHit := hit } = sharedTlbUpdateO cfg s i := by
  have same : (comb cfg s { i with sharedTlbHit := hit }).sharedTlbUpdateValid =
        (comb cfg s i).sharedTlbUpdateValid ∧
      (comb cfg s { i with sharedTlbHit := hit }).isNapot64k = (comb cfg s i).isNapot64k := by
    by_cases state : s.stateQ = .idle
    · have silent (i : Input) :
          (comb cfg s i).sharedTlbUpdateValid = false ∧ (comb cfg s i).isNapot64k = false := by
        simp only [comb, flushed, unflushed, state, idle]
        split_ifs <;> exact ⟨rfl, rfl⟩
      rw [(silent _).1, (silent _).2, (silent i).1, (silent i).2]
      exact ⟨rfl, rfl⟩
    · have busy : unflushed cfg s { i with sharedTlbHit := hit } = unflushed cfg s i := by
        rw [unflushed, unflushed]
        cases state' : s.stateQ <;> first | exact absurd state' state | rfl
      rw [comb, comb, busy]
      exact ⟨rfl, rfl⟩
  simp only [sharedTlbUpdateO, same.1, same.2]

end Cva6Hpd.Mmu.Ptw
