import Cva6Hpd.Mmu.Ptw

/-!
# The walk descends

A walk issues finitely many requests. Every entry that is looked at ends the walk or leads to a
request that is closer to the end, by a rank that counts the tables of both stages that are
still to be read.
-/

namespace Cva6Hpd.Mmu.Ptw

variable (cfg : Cfg) (s : State) (i : Input)

/-- The levels of both stages name a table. -/
structure Levels (s : State) : Prop where
  lvl : s.ptwLvlQ ≤ cfg.lastLevel
  hypLvl : s.ptwHypLvlQ ≤ cfg.lastLevel

/-- The tables that are still to be read at the most. -/
def rank (s : State) : Nat :=
  match s.ptwStageQ with
  | .s => 4 * (3 - s.ptwLvlQ)
  | .gIntermed => 4 * (3 - s.ptwHypLvlQ) + (3 - s.ptwLvlQ)
  | .gFinal => 3 - s.ptwLvlQ

/-- The walk ends without another request. -/
def Fsm.Ends (state : Fsm) : Prop :=
  state = .latency ∨ state = .propagateError ∨ state = .propagateAccessError

/-- What looking at an entry may assign: the walk ends, or goes on closer to its end. -/
structure Descends (c : Comb) : Prop where
  levels : Levels cfg c.next
  killReqQ : c.next.killReqQ = s.killReqQ
  ends : c.next.stateQ.Ends ∨
    (c.next.stateQ = .waitGrant ∧ rank (hypRegisters cfg s c.next) < rank s)

variable {cfg s i} {c : Comb}

namespace Descends

theorem goto {state : Fsm} (descends : Descends cfg s c) (ends : state.Ends) :
    Descends cfg s (c.goto state) where
  levels := ⟨descends.levels.lvl, descends.levels.hypLvl⟩
  killReqQ := descends.killReqQ
  ends := Or.inl ends

theorem setStage {state : Fsm} {stage : Stage} (descends : Descends cfg s c)
    (ends : state.Ends) : Descends cfg s ((c.goto state).setStage stage) where
  levels := ⟨descends.levels.lvl, descends.levels.hypLvl⟩
  killReqQ := descends.killReqQ
  ends := Or.inl ends

theorem setUpdate {valid : Bool} (descends : Descends cfg s c) :
    Descends cfg s (c.setUpdate valid) :=
  ⟨descends.levels, descends.killReqQ, descends.ends⟩

theorem fail (levels : Levels cfg c.next) (killReqQ : c.next.killReqQ = s.killReqQ) :
    Descends cfg s (Ptw.fail cfg s c) := by
  rw [Ptw.fail]
  split <;> exact ⟨⟨levels.lvl, levels.hypLvl⟩, killReqQ, Or.inl (Or.inr (Or.inl rfl))⟩

theorem napot (descends : Descends cfg s c) : Descends cfg s (Ptw.napot cfg s c) := by
  have same (napot : Bool) : Descends cfg s { c with isNapot64k := napot } :=
    ⟨descends.levels, descends.killReqQ, descends.ends⟩
  simp only [Ptw.napot]
  split
  · split
    · exact same _
    · exact (same _).goto (Or.inr (Or.inl rfl))
  · exact descends

theorem leafStage (levels : Levels cfg s) (descends : Descends cfg s c) :
    Descends cfg s (Ptw.leafStage cfg s i c) := by
  have last := cfg.lastLevel_le
  rcases levels with ⟨lvl, hypLvl⟩
  rw [Ptw.leafStage]
  split
  · rename_i rvh
    split
    · rename_i stage
      split
      · refine ⟨⟨Nat.zero_le _, lvl⟩, descends.killReqQ, Or.inr ⟨rfl, ?_⟩⟩
        simp only [hypRegisters, rvh, if_true, rank, stage]
        omega
      · exact descends
    · rename_i stage
      refine ⟨⟨hypLvl, descends.levels.hypLvl⟩, descends.killReqQ, Or.inr ⟨rfl, ?_⟩⟩
      simp only [hypRegisters, rvh, if_true, rank, stage]
      omega
    · exact descends
  · exact descends

theorem permission (descends : Descends cfg s c) :
    Descends cfg s (Ptw.permission cfg s i c) := by
  simp only [Ptw.permission]
  generalize (if s.isInstrPtwQ = true then fetchDenied cfg s else !dataAllowed cfg s i) = denied
  split
  · exact fail descends.levels descends.killReqQ
  · split
    · exact descends.setUpdate
    · exact descends

theorem misaligned (descends : Descends cfg s c) :
    Descends cfg s (Ptw.misaligned cfg s c) := by
  rw [Ptw.misaligned]
  split
  · exact (fail descends.levels descends.killReqQ).setUpdate
  · exact descends

theorem leaf (levels : Levels cfg s) (descends : Descends cfg s c) :
    Descends cfg s (Ptw.leaf cfg s i c) := by
  have checked : Descends cfg s (Ptw.misaligned cfg s (Ptw.permission cfg s i
      (Ptw.leafStage cfg s i (Ptw.napot cfg s c)))) :=
    (descends.napot.leafStage levels).permission.misaligned
  simp only [Ptw.leaf]
  split
  · exact checked.setStage (Or.inr (Or.inl rfl))
  · exact checked

/-- The registers of the stages are still those of the state. -/
structure Fresh (s : State) (c : Comb) : Prop where
  stage : c.next.ptwStageQ = s.ptwStageQ
  hypLvl : c.next.ptwHypLvlQ = s.ptwHypLvlQ

theorem nextTable (levels : Levels cfg s) (descends : Descends cfg s c) (fresh : Fresh s c)
    (further : s.ptwLvlQ ≠ cfg.lastLevel) : Descends cfg s (Ptw.nextTable cfg s i c) := by
  have last := cfg.lastLevel_le
  have lvl := levels.lvl
  have one : s.ptwLvlQ + 1 ≤ cfg.lastLevel := by omega
  have sameLevel (address : Nat) :
      Descends cfg s (((c.setLvl (s.ptwLvlQ + 1)).goto .waitGrant).setPptr address) := by
    refine ⟨⟨one, descends.levels.hypLvl⟩, descends.killReqQ, Or.inr ⟨rfl, ?_⟩⟩
    have stage : (hypRegisters cfg s (((c.setLvl (s.ptwLvlQ + 1)).goto .waitGrant).setPptr
        address).next).ptwStageQ = s.ptwStageQ := by
      rw [hypRegisters]
      split
      · exact fresh.stage
      · rfl
    have hypLvl : (hypRegisters cfg s (((c.setLvl (s.ptwLvlQ + 1)).goto .waitGrant).setPptr
        address).next).ptwHypLvlQ = s.ptwHypLvlQ := by
      rw [hypRegisters]
      split <;> exact fresh.hypLvl
    have deeper : (hypRegisters cfg s (((c.setLvl (s.ptwLvlQ + 1)).goto .waitGrant).setPptr
        address).next).ptwLvlQ = s.ptwLvlQ + 1 := by
      rw [hypRegisters]
      split <;> rfl
    simp only [rank, stage, hypLvl, deeper]
    split <;> omega
  simp only [Ptw.nextTable]
  split
  · rename_i rvh
    split
    · rename_i stage
      split
      · refine ⟨⟨Nat.zero_le _, one⟩, descends.killReqQ, Or.inr ⟨rfl, ?_⟩⟩
        simp only [hypRegisters, rvh, if_true, rank, stage]
        omega
      · exact sameLevel _
    · exact sameLevel _
    · exact sameLevel _
  · exact sameLevel _

theorem pointer (levels : Levels cfg s) (descends : Descends cfg s c) (fresh : Fresh s c) :
    Descends cfg s (Ptw.pointer cfg s i c) := by
  have error : Fsm.propagateError.Ends := Or.inr (Or.inl rfl)
  have next : Descends cfg s
      (if s.ptwLvlQ = cfg.lastLevel then Ptw.fail cfg s (c.setLvl s.ptwLvlQ)
      else if cfg.rvh && ((pte cfg s).a || (pte cfg s).d || (pte cfg s).u) then
        ((Ptw.nextTable cfg s i c).goto .propagateError).setStage s.ptwStageQ
      else Ptw.nextTable cfg s i c) := by
    split
    · exact fail ⟨levels.lvl, descends.levels.hypLvl⟩ descends.killReqQ
    · rename_i further
      have deeper := descends.nextTable levels fresh further (i := i)
      split
      · exact deeper.setStage error
      · exact deeper
  simp only [Ptw.pointer]
  split
  · exact next.setStage error
  · exact next

theorem pmpCheck (descends : Descends cfg s c) : Descends cfg s (Ptw.pmpCheck cfg s i c) := by
  have denied : Descends cfg s
      (((c.setUpdate false).setPptr s.ptwPptrQ).goto .propagateAccessError) :=
    ⟨⟨descends.levels.lvl, descends.levels.hypLvl⟩, descends.killReqQ,
      Or.inl (Or.inr (Or.inr rfl))⟩
  simp only [Ptw.pmpCheck]
  split
  · exact descends
  · split
    · exact denied.setStage (Or.inr (Or.inr rfl))
    · exact denied

end Descends

/-- What is assigned when an entry has arrived. -/
theorem pteLookup_descends (levels : Levels cfg s) (arrived : s.dataRvalidQ = true) :
    Descends cfg s (pteLookup cfg s i) := by
  have start : Descends cfg s ((looking cfg s).goto .latency) :=
    ⟨⟨levels.lvl, levels.hypLvl⟩, rfl, Or.inl (Or.inl rfl)⟩
  rw [pteLookup, if_pos arrived]
  apply Descends.pmpCheck
  split
  · exact start.goto (Or.inr (Or.inl rfl))
  · split
    · exact start.leaf levels
    · exact start.pointer levels ⟨rfl, rfl⟩

end Cva6Hpd.Mmu.Ptw
