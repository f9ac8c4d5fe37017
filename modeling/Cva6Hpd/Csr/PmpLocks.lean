import Cva6Hpd.Csr.Frames

/-!
# The locks of the physical memory protection

The writes of `pmpcfg` and `pmpaddr` refuse what is locked, and the update of an entry takes
over what its fields may hold. Legal entries stay legal, and a locked entry keeps its
configuration and its bounds over every run.
-/

namespace Cva6Hpd.Csr

variable {cfg : Cfg}

/-! ## Legal entries -/

/-- The fields of an entry hold values that the implementation supports. -/
structure PmpCfg.Legal (cfg : Cfg) (entry : PmpCfg) : Prop where
  notNa4 : entry.addrMode ≠ .na4
  napot : cfg.pmpNapotEn = false → entry.addrMode ≠ .napot
  readable : entry.w = true → entry.r = true

/-- Two entries with the same configuration. The reserved bits configure nothing; the
implementation hardwires them to zero. -/
def PmpCfg.Same (first second : PmpCfg) : Prop :=
  { first with reserved := 0 } = { second with reserved := 0 }

theorem PmpCfg.Same.trans {first second third : PmpCfg} (here : first.Same second)
    (there : second.Same third) : first.Same third :=
  Eq.trans here there

theorem PmpCfg.Same.locked {first second : PmpCfg} (same : first.Same second) :
    second.locked = first.locked :=
  (congrArg PmpCfg.locked same).symm

theorem PmpCfg.Same.addrMode {first second : PmpCfg} (same : first.Same second) :
    second.addrMode = first.addrMode :=
  (congrArg PmpCfg.addrMode same).symm

theorem legal_nextPmpcfg {old new : PmpCfg} (legal : old.Legal cfg) :
    (@nextPmpcfg cfg old new).Legal cfg := by
  rw [nextPmpcfg]
  constructor
  · split <;> split <;> simp_all [legal.notNa4]
  · intro disabled
    split <;> split <;> simp_all [legal.napot disabled]
  · split
    · exact legal.readable
    · next kept =>
      have readable : new.w = true → new.r = true := by
        intro writable
        by_contra unreadable
        simp_all
      split <;> exact readable

/-- An update with the configuration of the entry itself leaves it as it is. -/
theorem nextPmpcfg_same {old new : PmpCfg} (same : old.Same new) :
    old.Same (@nextPmpcfg cfg old new) := by
  rcases old with ⟨locked, reserved, addrMode, x, w, r⟩
  rcases new with ⟨locked', reserved', addrMode', x', w', r'⟩
  simp only [PmpCfg.Same, PmpCfg.mk.injEq, true_and] at same
  rcases same with ⟨rfl, rfl, rfl, rfl, rfl⟩
  rw [nextPmpcfg]
  split <;> split <;> rfl

/-! ## One cycle -/

section Step

variable (s : State cfg) (i : Input cfg)

/-- The registers of the physical memory protection. -/
def Reg.isPmp : Reg → Bool
  | .pmpcfg _ | .pmpaddr _ => true
  | _ => false

theorem pmp_writeReg {w : Word cfg} {d : Draft cfg} {reg : Reg} (other : reg.isPmp = false) :
    (writeReg s i w d reg).next.pmp = d.next.pmp := by
  cases reg <;> simp only [writeReg, writeFcsr, writeTrigger, writeVsatp, writeSatp, writeHgatp,
    Draft.within] <;> (repeat' split) <;> first | rfl | cases other

/-- The values under construction keep what is locked. -/
structure Respects (old new : Pmp cfg) : Prop where
  pmpcfg : ∀ k, (old.pmpcfg k).locked = true → new.pmpcfg k = old.pmpcfg k
  pmpaddr : ∀ k, pmpaddrLocked old k = true → new.pmpaddr k = old.pmpaddr k

theorem Respects.refl (pmp : Pmp cfg) : Respects pmp pmp :=
  ⟨fun _ _ => rfl, fun _ _ => rfl⟩

theorem respects_writtenPmpcfg (base : Nat) (w : Word cfg) :
    Respects s.pmp (writtenPmpcfg s base w s.pmp) where
  pmpcfg k locked := by simp [writtenPmpcfg, locked]
  pmpaddr _ _ := rfl

/-- No write gets past a lock. -/
theorem respects_writeReg (w : Word cfg) (reg : Reg) {d : Draft cfg}
    (same : d.next.pmp = s.pmp) : Respects s.pmp (writeReg s i w d reg).next.pmp := by
  cases kind : reg.isPmp with
  | false =>
    rw [pmp_writeReg s i kind, same]
    exact Respects.refl _
  | true =>
    cases reg with
    | pmpcfg index =>
      simp only [writeReg, Draft.within]
      split
      · simpa only [Draft.onPmp, Draft.set, same] using respects_writtenPmpcfg s (index * 4) w
      · simpa only [Draft.reject, same] using Respects.refl s.pmp
    | pmpaddr index =>
      simp only [writeReg]
      split
      · simpa only [same] using Respects.refl s.pmp
      · next free =>
        constructor
        · intro k _
          simp [Draft.onPmp, Draft.set, same]
        · intro k locked
          have other : k ≠ index := by
            rintro rfl
            exact free locked
          simp [Draft.onPmp, Draft.set, same, other]
    | _ => cases kind

theorem respects_written : Respects s.pmp (written s i).next.pmp := by
  simp only [written, writeProcess]
  split
  · split
    · exact respects_writeReg s i _ _ rfl
    · exact Respects.refl _
  · exact Respects.refl _

theorem pmp_push (handler : Handler) (d : State cfg) : (push s i handler d).pmp = d.pmp := by
  cases handler <;> rfl

theorem pmp_trap (d : State cfg) : (trap s i d).pmp = d.pmp := by
  rw [trap]
  split
  · exact pmp_push s i (handler s i) d
  · rfl

theorem pmp_debugEntry (d : State cfg) : (debugEntry s i d).pmp = d.pmp := by
  rw [debugEntry]
  split <;> rfl

theorem pmp_xret (d : State cfg) : (xret s i d).pmp = d.pmp := by
  simp only [xret]
  repeat' split
  all_goals rfl

theorem pmp_update : (update s i).pmp = (hardwired s i (written s i)).pmp := by
  rw [update, pmp_xret, pmp_debugEntry, pmp_trap]

/-- One cycle keeps the configuration of a locked entry. -/
theorem pmpcfg_step {k : Nat} (locked : (s.pmp.pmpcfg k).locked = true)
    (inside : k < cfg.nrPmpEntries) :
    (s.pmp.pmpcfg k).Same ((step s i).pmp.pmpcfg k) := by
  simp only [step, latch, nextPmp, inside, ↓reduceIte]
  split
  · rfl
  · apply nextPmpcfg_same
    rw [pmp_update]
    simp [hardwired, inside, (respects_written s i).pmpcfg k locked, PmpCfg.Same]

/-- One cycle keeps the address register that a lock protects. -/
theorem pmpaddr_step {k : Nat} (locked : pmpaddrLocked s.pmp k = true)
    (inside : k < cfg.nrPmpEntries) : (step s i).pmp.pmpaddr k = s.pmp.pmpaddr k := by
  simp only [step, latch, nextPmp, inside, ↓reduceIte]
  split
  · rfl
  · rw [pmp_update]
    exact (respects_written s i).pmpaddr k locked

end Step

/-! ## Runs -/

/-- The entry has the configuration, the address register and, as the upper end of a range, the
lower bound that it had. -/
structure Frozen (k : Nat) (old new : State cfg) : Prop where
  pmpcfg : (old.pmp.pmpcfg k).Same (new.pmp.pmpcfg k)
  pmpaddr : new.pmp.pmpaddr k = old.pmp.pmpaddr k
  lower : (old.pmp.pmpcfg k).addrMode = .tor → ∀ j, j + 1 = k →
    new.pmp.pmpaddr j = old.pmp.pmpaddr j

theorem Frozen.trans {k : Nat} {first second third : State cfg} (here : Frozen k first second)
    (there : Frozen k second third) : Frozen k first third where
  pmpcfg := here.pmpcfg.trans there.pmpcfg
  pmpaddr := there.pmpaddr.trans here.pmpaddr
  lower range j below :=
    (there.lower (here.pmpcfg.addrMode.trans range) j below).trans (here.lower range j below)

theorem frozen_step {s : State cfg} (i : Input cfg) {k : Nat} (inside : k < cfg.nrPmpEntries)
    (locked : (s.pmp.pmpcfg k).locked = true) : Frozen k s (step s i) where
  pmpcfg := pmpcfg_step s i locked inside
  pmpaddr := pmpaddr_step s i (by simp [pmpaddrLocked, locked]) inside
  lower range j below := by
    subst below
    exact pmpaddr_step s i (by simp [pmpaddrLocked, locked, range]) (Nat.lt_of_succ_lt inside)

variable {pmpcfg : Nat → PmpCfg} {pmpaddr : Nat → BitVec (cfg.plen - 2)}

theorem frozen_runFrom {k : Nat} (inside : k < cfg.nrPmpEntries) (later : List (Input cfg))
    {s : State cfg} (locked : (s.pmp.pmpcfg k).locked = true) :
    Frozen k s ((machine cfg pmpcfg pmpaddr).runFrom s later) := by
  induction later generalizing s with
  | nil => exact ⟨rfl, rfl, fun _ _ _ => rfl⟩
  | cons i later inductionHypothesis =>
      have here := frozen_step i inside locked
      exact here.trans (inductionHypothesis (here.pmpcfg.locked.trans locked))

theorem legal_step {s : State cfg} (i : Input cfg)
    (legal : ∀ k < cfg.nrPmpEntries, (s.pmp.pmpcfg k).Legal cfg) :
    ∀ k < cfg.nrPmpEntries, ((step s i).pmp.pmpcfg k).Legal cfg := by
  intro k inside
  simp only [step, latch, nextPmp, inside, ↓reduceIte]
  split
  · exact legal k inside
  · exact legal_nextPmpcfg (legal k inside)

/-- From a legal reset state every entry stays legal, and a locked entry is frozen from then on. -/
theorem pmp_legal_and_frozen
    (legal : ∀ k < cfg.nrPmpEntries, (pmpcfg k).Legal cfg) (inputs : List (Input cfg)) {k : Nat}
    (inside : k < cfg.nrPmpEntries) :
    (((machine cfg pmpcfg pmpaddr).run inputs).pmp.pmpcfg k).Legal cfg ∧
      ((((machine cfg pmpcfg pmpaddr).run inputs).pmp.pmpcfg k).locked = true →
        ∀ later, Frozen k ((machine cfg pmpcfg pmpaddr).run inputs)
          ((machine cfg pmpcfg pmpaddr).run (inputs ++ later))) := by
  constructor
  · have everywhere := (machine cfg pmpcfg pmpaddr).run_invariant
      (fun s => ∀ k < cfg.nrPmpEntries, (s.pmp.pmpcfg k).Legal cfg)
      (by simpa +contextual [machine, State.reset] using legal)
      (fun s i legal => legal_step i legal) inputs
    exact everywhere k inside
  · intro locked later
    rw [Hw.Machine.run_append]
    exact frozen_runFrom inside later locked

/-- A core comes out of reset with a locked range in its second entry, and clears `pmpcfg0`. -/
theorem frozen_of_locked_reset :
    Frozen 1 ((machine Cfg.sv39 (fun _ => PmpCfg.ofByte 0x8B#8) 0).run [])
      ((machine Cfg.sv39 (fun _ => PmpCfg.ofByte 0x8B#8) 0).run ([] ++ [Input.write _ 0x3A0 0])) :=
  (pmp_legal_and_frozen (fun _ _ => ⟨by decide, by decide, by decide⟩) [] (by decide)).2 rfl _

end Cva6Hpd.Csr
