import Cva6Hpd.Csr.Interrupts

/-!
# The interrupt that is selected

Delegation gives each interrupt the mode that takes it. Of the interrupts that can be taken in the
current mode, the one of the highest target is to be raised. The decoder chooses by the fixed
priority first and looks at the delegation and at the enable bits of its choice only.
-/

namespace Cva6Hpd.Csr

variable {cfg : Cfg}

/-! ## The rule -/

/-- The modes that take interrupts; supervisor mode is `hs` also without the hypervisor. -/
inductive Target where
  | vs | hs | m
deriving DecidableEq, Repr

def Target.rank : Target → Nat
  | vs => 0
  | hs => 1
  | m => 2

/-- The modes of the hart. -/
inductive HartMode where
  | vu | vs | u | hs | m
deriving DecidableEq, Repr

def Target.mode : Target → HartMode
  | m => .m
  | hs => .hs
  | vs => .vs

/-- The fixed priority of an interrupt. -/
def Interrupt.priority : Interrupt → Nat
  | vsTimer => 0
  | vsSw => 1
  | vsExt => 2
  | hsExt => 3
  | sTimer => 4
  | sSw => 5
  | sExt => 6
  | mTimer => 7
  | mSw => 8
  | mExt => 9

section Rule

variable (s : State cfg) (irqS : Bool)

/-- The mode that the delegation gives the interrupt to. -/
def State.target (k : Interrupt) : Target :=
  if cfg.rvs && s.machine.mideleg.getLsbD k.number then
    if cfg.rvh && s.hypervisor.hideleg.getLsbD k.number then .vs else .hs
  else .m

/-- The interrupt is there, pending and enabled by itself. -/
structure Pending (k : Interrupt) : Prop where
  present : k.present cfg = true
  pending : (irqCtrl s).pending irqS k = true

/-- The pending interrupt of the highest priority. -/
structure Top (k : Interrupt) : Prop where
  pending : Pending s irqS k
  first : ∀ j, Pending s irqS j → j.priority ≤ k.priority

end Rule

/-! ## The choice of the decoder -/

theorem foldl_eq_some_iff {condition : Interrupt → Bool} {k : Interrupt}
    {candidates : List Interrupt}
    (sorted : candidates.Pairwise fun first second => first.priority < second.priority) :
    candidates.foldl (fun selected k => if condition k then some k else selected) none = some k ↔
      k ∈ candidates ∧ condition k = true ∧
        ∀ j ∈ candidates, condition j = true → j.priority ≤ k.priority := by
  induction candidates using List.reverseRecOn with
  | nil => simp
  | append_singleton candidates last inductionHypothesis =>
      rw [List.pairwise_append] at sorted
      obtain ⟨sorted, -, below⟩ := sorted
      rw [List.foldl_append, List.foldl_cons, List.foldl_nil]
      by_cases holds : condition last = true
      · rw [if_pos holds, Option.some_inj]
        constructor
        · rintro rfl
          refine ⟨by simp, holds, fun j member _ => ?_⟩
          rcases List.mem_append.mp member with earlier | here
          · exact Nat.le_of_lt (below j earlier last (List.mem_singleton_self last))
          · rw [List.mem_singleton.mp here]
        · rintro ⟨member, -, highest⟩
          rcases List.mem_append.mp member with earlier | here
          · have less := below k earlier last (List.mem_singleton_self last)
            have most := highest last (by simp) holds
            exact absurd less (Nat.not_lt.mpr most)
          · exact (List.mem_singleton.mp here).symm
      · rw [if_neg holds, inductionHypothesis sorted]
        constructor
        · rintro ⟨member, fine, highest⟩
          refine ⟨List.mem_append_left _ member, fine, fun j among good => ?_⟩
          rcases List.mem_append.mp among with earlier | here
          · exact highest j earlier good
          · rw [List.mem_singleton.mp here] at good
            exact absurd good holds
        · rintro ⟨member, fine, highest⟩
          refine ⟨?_, fine, fun j among => highest j (List.mem_append_left _ among)⟩
          rcases List.mem_append.mp member with earlier | here
          · exact earlier
          · rw [List.mem_singleton.mp here] at fine
            exact absurd fine holds

section Choice

variable {s : State cfg} {irqS : Bool} {k : Interrupt}

/-- The decoder chooses the pending interrupt of the highest priority. -/
theorem interruptCause_eq_some_iff :
    (irqCtrl s).interruptCause irqS = some k ↔ Top s irqS k := by
  have every (j : Interrupt) : j ∈ Interrupt.order := by
    cases j <;> decide
  rw [IrqCtrl.interruptCause, foldl_eq_some_iff (by decide)]
  simp only [Bool.and_eq_true]
  constructor
  · rintro ⟨-, ⟨present, pending⟩, first⟩
    exact ⟨⟨present, pending⟩, fun j other => first j (every j) ⟨other.present, other.pending⟩⟩
  · rintro ⟨⟨present, pending⟩, first⟩
    exact ⟨every k, ⟨present, pending⟩, fun j _ other => first j ⟨other.1, other.2⟩⟩

theorem Top.unique {j : Interrupt} (first : Top s irqS k) (second : Top s irqS j) : k = j := by
  have chosen := interruptCause_eq_some_iff.mpr first
  rw [interruptCause_eq_some_iff.mpr second] at chosen
  exact (Option.some_inj.mp chosen).symm

end Choice

/-! ## A masked interrupt that hides another one -/

end Cva6Hpd.Csr
