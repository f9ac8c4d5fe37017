import Cva6Hpd.Hpdcache.System.Cycle
import Cva6Hpd.Hw.Diagonal

/-!
# The error scrubber

The scrubber of `hpdcache_ctrl` reads a set of the directory and a chunk of its
lines in each access that the protocol engine grants, and waits between two
accesses. The set and the chunk advance together. A pass is complete when the wait
before the access to the last set and chunk ends: that access is not made.
-/

namespace Cva6Hpd.Hpdcache.Scrubber

open Cva6Hpd.Hw

variable {cfg : Cfg}

/-! ## The state machine -/

/-- `hpdcache_scrub_fsm_t`. -/
inductive ScrubFsm where
  | scrubIdle
  | scrubCheck
  | scrubWait
deriving DecidableEq, Repr

/-- `CACHELINE_CHUNKS`. -/
def cachelineChunks (cfg : Cfg) : Nat := cfg.clWords / cfg.accessWords

theorem cachelineChunks_pos (cfg : Cfg) : 0 < cachelineChunks cfg :=
  Nat.div_pos cfg.accessWords_le cfg.accessWords_pos

structure State where
  scrubFsmQ : ScrubFsm
  scrubSetQ : Nat
  scrubChunkQ : Nat
  scrubWaitQ : Nat

structure Input where
  scrubReqReady : Bool
  cfgScrubEnable : Bool
  cfgScrubPeriod : BitVec 6
  cfgScrubRestart : Bool

/-- The outputs and the next values of `scrub_fsm_comb`. -/
structure Out where
  scrubFsmD : ScrubFsm
  scrubSetD : Nat
  scrubChunkD : Nat
  scrubWaitD : Nat
  scrubReqValid : Bool
  evtScrubComplete : Bool

section Signals

variable (cfg) (s : State) (i : Input)

/-- `scrub_period`: the shift is one of a signed word, extended to 64 bits. -/
def scrubPeriod : Nat := (((1 : BitVec 32) <<< i.cfgScrubPeriod - 1).signExtend 64).toNat

def scrubLastSet : Bool := s.scrubSetQ == cfg.sets - 1

def scrubLastChunk : Bool := s.scrubChunkQ == cachelineChunks cfg - 1

def scrubLastAccess : Bool := scrubLastSet cfg s && scrubLastChunk cfg s

/-- The address of `scrub_req`: a set and the offset of a chunk in its line. -/
def scrubReqAddr : Nat × Nat :=
  (s.scrubSetQ, s.scrubChunkQ * (cfg.accessWords * cfg.wordBytes) % cfg.lineBytes)

/-- The defaults of `scrub_fsm_comb`. -/
def scrubDefaults : Out where
  scrubFsmD := s.scrubFsmQ
  scrubSetD := s.scrubSetQ
  scrubChunkD := s.scrubChunkQ
  scrubWaitD := s.scrubWaitQ
  scrubReqValid := false
  evtScrubComplete := false

/-- `scrub_fsm_comb`. -/
def scrubFsmComb : Out :=
  let o := scrubDefaults s
  match s.scrubFsmQ with
  | .scrubIdle =>
      if i.cfgScrubEnable then
        { o with scrubSetD := 0, scrubChunkD := 0, scrubFsmD := .scrubCheck }
      else o
  | .scrubCheck =>
      let o := { o with scrubReqValid := true }
      if i.scrubReqReady then
        let o := { o with
          scrubSetD := if scrubLastSet cfg s then 0 else s.scrubSetQ + 1
          scrubChunkD := if scrubLastChunk cfg s then 0 else s.scrubChunkQ + 1 }
        if !i.cfgScrubEnable then { o with scrubFsmD := .scrubIdle }
        else if scrubLastAccess cfg s then
          if i.cfgScrubRestart then
            { o with scrubSetD := 0, scrubChunkD := 0, scrubFsmD := .scrubCheck }
          else { o with scrubFsmD := .scrubIdle }
        else if scrubPeriod i ≠ 0 then { o with scrubWaitD := 0, scrubFsmD := .scrubWait }
        else o
      else o
  | .scrubWait =>
      let o := { o with scrubWaitD := (s.scrubWaitQ + 1) % 2 ^ 64 }
      if !i.cfgScrubEnable then { o with scrubFsmD := .scrubIdle }
      else if s.scrubWaitQ = scrubPeriod i then
        let o := { o with evtScrubComplete := scrubLastAccess cfg s }
        if scrubLastAccess cfg s then
          if i.cfgScrubRestart then
            { o with scrubSetD := 0, scrubChunkD := 0, scrubFsmD := .scrubCheck }
          else { o with scrubFsmD := .scrubIdle }
        else { o with scrubFsmD := .scrubCheck }
      else o

def step : State :=
  let o := scrubFsmComb cfg s i
  { scrubFsmQ := o.scrubFsmD
    scrubSetQ := o.scrubSetD
    scrubChunkQ := o.scrubChunkD
    scrubWaitQ := o.scrubWaitD }

end Signals

def reset : State where
  scrubFsmQ := .scrubIdle
  scrubSetQ := 0
  scrubChunkQ := 0
  scrubWaitQ := 0

/-- The scrubber as a synchronous machine. -/
def machine (cfg : Cfg) : Machine State Input where
  reset := reset
  step := step cfg

/-! ## Passes -/

section Passes

variable (cfg) (s : State) (i : Input)

/-- The protocol engine grants an access. -/
def accepted : Bool := (scrubFsmComb cfg s i).scrubReqValid && i.scrubReqReady

/-- The accesses of the pass, with that of this cycle. -/
def passReads (reads : List (Nat × Nat)) : List (Nat × Nat) :=
  if accepted cfg s i then reads ++ [(s.scrubSetQ, s.scrubChunkQ)] else reads

/-- The pass ends with the access to the last set and chunk, or with the wait before
it. -/
def passEnds : Bool :=
  scrubLastAccess cfg s && i.cfgScrubEnable &&
    (accepted cfg s i || (scrubFsmComb cfg s i).evtScrubComplete)

/-- A pass starts when the scrubber leaves the idle state or restarts. -/
def recordReads (reads : List (Nat × Nat)) : List (Nat × Nat) :=
  if s.scrubFsmQ = .scrubIdle ∨ passEnds cfg s i then [] else passReads cfg s i reads

/-- The pass accessed every chunk of every set, and every set of the directory,
exactly once. -/
structure Covered (reads : List (Nat × Nat)) : Prop where
  data : ∀ set < cfg.sets, ∀ chunk < cachelineChunks cfg, reads.count (set, chunk) = 1
  directory : ∀ set < cfg.sets, (reads.map Prod.fst).count set = 1

end Passes

/-- The scrubber with the accesses of the pass. -/
def passMachine (cfg : Cfg) : Machine (State × List (Nat × Nat)) Input :=
  (machine cfg).withHistory [] (recordReads cfg)

/-! ## What a pass accesses -/

section Walk

variable {s : State} {i : Input} {reads : List (Nat × Nat)}

/-- The accesses of a pass in which both counters advance together. -/
def scrubWalk (cfg : Cfg) (steps : Nat) : List (Nat × Nat) :=
  diagonal cfg.sets (cachelineChunks cfg) steps

/-- The accesses after which both counters are at their last value again. -/
def scrubPeriodLength (cfg : Cfg) : Nat := cfg.sets.lcm (cachelineChunks cfg)

/-- The accesses of the pass are a part of the walk, and the counters are at the
next one. -/
structure Walking (cfg : Cfg) (s : State) (reads : List (Nat × Nat)) (steps : Nat) : Prop where
  reads : reads = scrubWalk cfg steps
  early : steps < scrubPeriodLength cfg
  set : s.scrubSetQ = steps % cfg.sets
  chunk : s.scrubChunkQ = steps % cachelineChunks cfg

/-- Out of the idle state, the scrubber walks. -/
def InPass (cfg : Cfg) (s : State) (reads : List (Nat × Nat)) : Prop :=
  s.scrubFsmQ ≠ .scrubIdle → ∃ steps, Walking cfg s reads steps

theorem walking_start {set chunk : Nat} (setEq : set = 0) (chunkEq : chunk = 0)
    (fsm : ScrubFsm) (wait : Nat) : Walking cfg ⟨fsm, set, chunk, wait⟩ [] 0 where
  reads := rfl
  early := Nat.lcm_pos cfg.sets_pos (cachelineChunks_pos cfg)
  set := by rw [setEq, Nat.zero_mod]
  chunk := by rw [chunkEq, Nat.zero_mod]

theorem Walking.last_iff {steps : Nat} (walking : Walking cfg s reads steps) :
    scrubLastAccess cfg s = true ↔ scrubPeriodLength cfg = steps + 1 := by
  have corner := corner_iff cfg.sets_pos (cachelineChunks_pos cfg) steps
  rw [scrubLastAccess, scrubLastSet, scrubLastChunk, Bool.and_eq_true, beq_iff_eq, beq_iff_eq,
    walking.set, walking.chunk, corner]
  constructor
  · intro reached
    have bound := Nat.le_of_dvd (Nat.succ_pos steps) reached
    have early := walking.early
    rw [scrubPeriodLength] at early ⊢
    omega
  · intro length
    rw [← length]
    exact dvd_refl _

theorem Walking.reads_next {steps : Nat} (walking : Walking cfg s reads steps) :
    reads ++ [(s.scrubSetQ, s.scrubChunkQ)] = scrubWalk cfg (steps + 1) := by
  rw [walking.reads, walking.set, walking.chunk, scrubWalk, scrubWalk, diagonal_succ]

theorem Walking.advance {steps : Nat} (walking : Walking cfg s reads steps)
    (more : scrubLastAccess cfg s = false) (fsm : ScrubFsm) (wait : Nat) :
    Walking cfg
      { scrubFsmQ := fsm
        scrubSetQ := if scrubLastSet cfg s then 0 else s.scrubSetQ + 1
        scrubChunkQ := if scrubLastChunk cfg s then 0 else s.scrubChunkQ + 1
        scrubWaitQ := wait }
      (reads ++ [(s.scrubSetQ, s.scrubChunkQ)]) (steps + 1) where
  reads := walking.reads_next
  early := by
    have early := walking.early
    have other : scrubPeriodLength cfg ≠ steps + 1 := fun length => by
      rw [walking.last_iff.mpr length] at more
      contradiction
    omega
  set := by
    rw [← countUp_mod cfg.sets_pos, ← walking.set]
    simp only [countUp, scrubLastSet, beq_iff_eq]
  chunk := by
    rw [← countUp_mod (cachelineChunks_pos cfg), ← walking.chunk]
    simp only [countUp, scrubLastChunk, beq_iff_eq]

theorem Walking.keep {steps : Nat} (walking : Walking cfg s reads steps) (fsm : ScrubFsm)
    (wait : Nat) : Walking cfg ⟨fsm, s.scrubSetQ, s.scrubChunkQ, wait⟩ reads steps :=
  ⟨walking.reads, walking.early, walking.set, walking.chunk⟩

theorem step_of_idle (state : s.scrubFsmQ = .scrubIdle) :
    InPass cfg (step cfg s i) (recordReads cfg s i reads) := by
  intro active
  rw [recordReads, if_pos (.inl state)]
  simp only [step, scrubFsmComb, state, scrubDefaults] at active ⊢
  split_ifs at active ⊢ with enable
  · exact ⟨0, walking_start rfl rfl _ _⟩
  · exact absurd rfl active

variable (cfg i) in
theorem outputs_of_check (state : s.scrubFsmQ = .scrubCheck) :
    accepted cfg s i = i.scrubReqReady ∧ (scrubFsmComb cfg s i).evtScrubComplete = false := by
  simp only [accepted, scrubFsmComb, state, scrubDefaults]
  split_ifs with ready <;> simp [ready]

variable (cfg i) in
theorem outputs_of_wait (state : s.scrubFsmQ = .scrubWait) :
    accepted cfg s i = false ∧
      (scrubFsmComb cfg s i).evtScrubComplete =
        (i.cfgScrubEnable && decide (s.scrubWaitQ = scrubPeriod i) && scrubLastAccess cfg s) := by
  simp only [accepted, scrubFsmComb, state, scrubDefaults]
  split_ifs with off waited last <;> simp_all

theorem outputs_of_idle (state : s.scrubFsmQ = .scrubIdle) :
    accepted cfg s i = false ∧ (scrubFsmComb cfg s i).evtScrubComplete = false := by
  simp only [accepted, scrubFsmComb, state, scrubDefaults]
  split_ifs <;> simp

theorem Walking.step_of_check {steps : Nat} (walking : Walking cfg s reads steps)
    (state : s.scrubFsmQ = .scrubCheck) :
    InPass cfg (step cfg s i) (recordReads cfg s i reads) := by
  rcases outputs_of_check cfg i state with ⟨access, silent⟩
  intro active
  rw [recordReads, passEnds, passReads, access, silent, Bool.or_false, state]
  simp only [step, scrubFsmComb, state, scrubDefaults, reduceCtorEq, false_or] at active ⊢
  cases ready : i.scrubReqReady with
  | false =>
      simp only [Bool.and_false, Bool.false_eq_true, if_false]
      exact ⟨steps, walking.keep _ _⟩
  | true =>
      simp only [ready, if_true, Bool.and_true] at active ⊢
      cases enable : i.cfgScrubEnable with
      | false => simp [enable] at active
      | true =>
          simp only [enable, Bool.not_true, Bool.false_eq_true, if_false, Bool.and_true]
            at active ⊢
          cases last : scrubLastAccess cfg s with
          | true =>
              simp only [last, if_true] at active ⊢
              cases restart : i.cfgScrubRestart with
              | true => exact ⟨0, walking_start rfl rfl _ _⟩
              | false => simp [restart] at active
          | false =>
              simp only [Bool.false_eq_true, if_false]
              by_cases pause : scrubPeriod i ≠ 0
              · rw [if_pos pause]
                exact ⟨steps + 1, walking.advance last _ _⟩
              · rw [if_neg pause]
                exact ⟨steps + 1, walking.advance last _ _⟩

theorem Walking.step_of_wait {steps : Nat} (walking : Walking cfg s reads steps)
    (state : s.scrubFsmQ = .scrubWait) :
    InPass cfg (step cfg s i) (recordReads cfg s i reads) := by
  rcases outputs_of_wait cfg i state with ⟨access, signal⟩
  intro active
  rw [recordReads, passEnds, passReads, access, signal, Bool.false_or, state]
  simp only [step, scrubFsmComb, state, scrubDefaults, reduceCtorEq, false_or,
    Bool.false_eq_true, if_false] at active ⊢
  cases enable : i.cfgScrubEnable with
  | false => simp [enable] at active
  | true =>
      simp only [enable, Bool.not_true, Bool.false_eq_true, if_false, Bool.true_and,
        Bool.and_true] at active ⊢
      by_cases waited : s.scrubWaitQ = scrubPeriod i
      · simp only [waited, if_true, decide_true, Bool.true_and, Bool.and_self] at active ⊢
        cases last : scrubLastAccess cfg s with
        | true =>
            simp only [last, if_true] at active ⊢
            split_ifs at active ⊢ with restart
            · exact ⟨0, walking_start rfl rfl _ _⟩
            · exact absurd rfl active
        | false =>
            simp only [Bool.false_eq_true, if_false]
            exact ⟨steps, walking.keep _ _⟩
      · simp only [waited, if_false, decide_false, Bool.false_and, Bool.and_false,
          Bool.false_eq_true]
        exact ⟨steps, walking.keep _ _⟩

theorem InPass.step (pass : InPass cfg s reads) :
    InPass cfg (step cfg s i) (recordReads cfg s i reads) := by
  cases state : s.scrubFsmQ with
  | scrubIdle => exact step_of_idle state
  | scrubCheck =>
      obtain ⟨steps, walking⟩ := pass (by simp [state])
      exact walking.step_of_check state
  | scrubWait =>
      obtain ⟨steps, walking⟩ := pass (by simp [state])
      exact walking.step_of_wait state

end Walk

theorem inPass_run (inputs : List Input) :
    InPass cfg ((passMachine cfg).run inputs).1 ((passMachine cfg).run inputs).2 :=
  (passMachine cfg).run_invariant (fun s => InPass cfg s.1 s.2) (fun active => absurd rfl active)
    (fun _ _ pass => pass.step) inputs

/-! ## Complete passes -/

section Complete

variable {s : State} {i : Input} {reads : List (Nat × Nat)}

/-- A pass whose completion is signalled made all accesses of the walk but the last
one. -/
theorem InPass.reads_of_signal (pass : InPass cfg s reads)
    (signal : (scrubFsmComb cfg s i).evtScrubComplete = true) :
    passReads cfg s i reads = scrubWalk cfg (scrubPeriodLength cfg - 1) := by
  cases state : s.scrubFsmQ with
  | scrubIdle =>
      rw [(outputs_of_idle state).2] at signal
      contradiction
  | scrubCheck =>
      rw [(outputs_of_check cfg i state).2] at signal
      contradiction
  | scrubWait =>
      obtain ⟨steps, walking⟩ := pass (by simp [state])
      rcases outputs_of_wait cfg i state with ⟨access, complete⟩
      rw [complete, Bool.and_eq_true] at signal
      have length := walking.last_iff.mp signal.2
      rw [passReads, access, length, Nat.add_sub_cancel]
      exact walking.reads

/-- A pass that ends with an access makes all accesses of the walk. -/
theorem InPass.reads_of_access (pass : InPass cfg s reads) (access : accepted cfg s i = true)
    (last : scrubLastAccess cfg s = true) :
    passReads cfg s i reads = scrubWalk cfg (scrubPeriodLength cfg) := by
  have active : s.scrubFsmQ ≠ .scrubIdle := fun state => by
    rw [(outputs_of_idle state).1] at access
    contradiction
  obtain ⟨steps, walking⟩ := pass active
  rw [passReads, access, if_pos rfl, walking.last_iff.mp last]
  exact walking.reads_next

/-- The walk leaves out the last chunk of the last set. -/
theorem not_covered_of_early {steps : Nat} (early : steps < scrubPeriodLength cfg) :
    ¬Covered cfg (scrubWalk cfg steps) := by
  intro covered
  have missed := corner_not_mem cfg.sets_pos (cachelineChunks_pos cfg) early
  have once := covered.data (cfg.sets - 1) (Nat.sub_one_lt_of_lt cfg.sets_pos)
    (cachelineChunks cfg - 1) (Nat.sub_one_lt_of_lt (cachelineChunks_pos cfg))
  rw [scrubWalk, List.count_eq_zero.mpr missed] at once
  contradiction

/-- The whole walk accesses every chunk of every set once exactly when the numbers of
sets and chunks are coprime. -/
theorem walk_covers_iff :
    (∀ set < cfg.sets, ∀ chunk < cachelineChunks cfg,
        (scrubWalk cfg (scrubPeriodLength cfg)).count (set, chunk) = 1) ↔
      cfg.sets.Coprime (cachelineChunks cfg) := by
  rw [← covers_iff cfg.sets_pos (cachelineChunks_pos cfg)]
  have once (pair : Nat × Nat) :
      (scrubWalk cfg (scrubPeriodLength cfg)).count pair = 1 ↔
        pair ∈ diagonal cfg.sets (cachelineChunks cfg) (cfg.sets.lcm (cachelineChunks cfg)) :=
    ⟨fun count => List.count_pos_iff.mp (by
        rw [scrubWalk, scrubPeriodLength] at count
        omega),
      List.count_eq_one_of_mem (nodup_diagonal (Nat.le_refl _))⟩
  constructor
  · exact fun covers set setBound chunk chunkBound =>
      (once (set, chunk)).mp (covers set setBound chunk chunkBound)
  · exact fun covers set setBound chunk chunkBound =>
      (once (set, chunk)).mpr (covers set setBound chunk chunkBound)

end Complete

/-- Whenever the completion of a pass is signalled, the pass did not access the last
chunk of the last set. -/
theorem uncovered_run (inputs : List Input) (i : Input)
    (signal :
      (scrubFsmComb cfg ((passMachine cfg).run inputs).1 i).evtScrubComplete = true) :
    ¬Covered cfg
      (passReads cfg ((passMachine cfg).run inputs).1 i ((passMachine cfg).run inputs).2) := by
  rw [(inPass_run inputs).reads_of_signal signal]
  have length : 0 < scrubPeriodLength cfg := Nat.lcm_pos cfg.sets_pos (cachelineChunks_pos cfg)
  exact not_covered_of_early (Nat.sub_one_lt_of_lt length)

/-- A pass that ends with an access reads every chunk of every set once exactly when
the numbers of sets and chunks are coprime. -/
theorem coprime_iff_covered_run (inputs : List Input) (i : Input)
    (access : accepted cfg ((passMachine cfg).run inputs).1 i = true)
    (last : scrubLastAccess cfg ((passMachine cfg).run inputs).1 = true) :
    (∀ set < cfg.sets, ∀ chunk < cachelineChunks cfg,
        (passReads cfg ((passMachine cfg).run inputs).1 i
          ((passMachine cfg).run inputs).2).count (set, chunk) = 1) ↔
      cfg.sets.Coprime (cachelineChunks cfg) := by
  rw [(inPass_run inputs).reads_of_access access last]
  exact walk_covers_iff

/-- Two sets of two chunks. -/
def twoChunks : Cfg :=
  { Cfg.small with
    eccEn := true
    eccScrubberEn := true
    clWords := 2
    accessWords_le := by decide }

/-- A pass with a wait of two cycles between the accesses, in which the first access is
refused once. -/
def shortPass : List Input :=
  [⟨false, true, 1, false⟩, ⟨false, true, 1, false⟩, ⟨true, true, 1, false⟩,
    ⟨false, true, 1, false⟩]

/-- Without a wait, the second access is the last one of its pass. -/
theorem coprime_iff_covered_noWait :
    (∀ set < twoChunks.sets, ∀ chunk < cachelineChunks twoChunks,
        (passReads twoChunks
          ((passMachine twoChunks).run (List.replicate 2 ⟨true, true, 0, false⟩)).1
          ⟨true, true, 0, false⟩
          ((passMachine twoChunks).run (List.replicate 2 ⟨true, true, 0, false⟩)).2).count
            (set, chunk) = 1) ↔
      twoChunks.sets.Coprime (cachelineChunks twoChunks) :=
  coprime_iff_covered_run _ _ (by decide) (by decide)

theorem uncovered_shortPass :
    ¬Covered twoChunks
      (passReads twoChunks ((passMachine twoChunks).run shortPass).1 ⟨false, true, 1, false⟩
        ((passMachine twoChunks).run shortPass).2) :=
  uncovered_run shortPass ⟨false, true, 1, false⟩ (by decide +kernel)

/-- The completion is signalled after the first of the four chunks. -/
theorem chunks_unread :
    (scrubFsmComb twoChunks ((passMachine twoChunks).run shortPass).1
        ⟨false, true, 1, false⟩).evtScrubComplete = true ∧
      passReads twoChunks ((passMachine twoChunks).run shortPass).1 ⟨false, true, 1, false⟩
        ((passMachine twoChunks).run shortPass).2 = [(0, 0)] ∧
      ¬Covered twoChunks [(0, 0)] := by
  refine ⟨by decide +kernel, by decide +kernel, fun covered => ?_⟩
  have once := covered.data 1 (by decide) 1 (by decide)
  contradiction

end Cva6Hpd.Hpdcache.Scrubber
