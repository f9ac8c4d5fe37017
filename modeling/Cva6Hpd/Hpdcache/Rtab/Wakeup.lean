import Cva6Hpd.Hpdcache.Rtab.Core

/-!
# Wake-up by a refill

A refill frees a slot of one MSHR set and of one cache set. For either kind of
slot an arbiter picks one of the entries that wait for it in the refilled set.
The arbiter presents its requests in every cycle and holds its grant until a
refill comes, so the line that the refill port showed in an earlier cycle can
decide which entry is woken. `wakeup_run` gives the exact states in which a
refill still wakes an entry of its own set.
-/

namespace Cva6Hpd.Hpdcache.Rtab

open Cva6Hpd.Hw
open Cva6Hpd.Common

/-! ## One slot -/

section Slot

variable {n : Nat}

/-- What a refill owes the entries that wait for one kind of slot: it wakes
exactly one of those in the refilled set, if there is any, and none of another
set. -/
structure Wakes (waiting inSet woken : Bits n) : Prop where
  one : (∃ i, waiting i = true ∧ inSet i = true) →
    ∃ i, waiting i = true ∧ inSet i = true ∧ woken i = true ∧
      ∀ j, waiting j = true → inSet j = true → woken j = true → j = i
  own : ∀ i, waiting i = true → woken i = true → inSet i = true

/-- The arbiter holds no grant, or it holds one for an entry that waits in the
refilled set, or neither its entry nor one in the refilled set waits. -/
def Current (arbiter : Arbiter n) (waiting inSet : Bits n) : Prop :=
  arbiter.waitQ = true → ∀ i, arbiter.gntQ i = true →
    (waiting i = true ∧ inSet i = true) ∨
      (waiting i = false ∧ ∀ j, waiting j = true → inSet j = false)

instance decidableCurrent (arbiter : Arbiter n) (waiting inSet : Bits n) :
    Decidable (Current arbiter waiting inSet) :=
  inferInstanceAs (Decidable (_ → _))

variable {waiting inSet : Bits n}

theorem wakes_single_iff {woken : Bits n} {i : Fin n} (single : woken = Bits.single i) :
    Wakes waiting inSet woken ↔
      (waiting i = true ∧ inSet i = true) ∨
        (waiting i = false ∧ ∀ j, waiting j = true → inSet j = false) := by
  have only (j : Fin n) : woken j = true ↔ j = i := by
    rw [single, Bits.single_eq_true_iff]
  constructor
  · intro wakes
    cases waits : waiting i with
    | true => exact Or.inl ⟨rfl, wakes.own i waits ((only i).mpr rfl)⟩
    | false =>
        refine Or.inr ⟨rfl, ?_⟩
        intro j waitsJ
        rw [Bool.eq_false_iff]
        intro inSetJ
        rcases wakes.one ⟨j, waitsJ, inSetJ⟩ with ⟨k, waitsK, _, wokenK, _⟩
        rw [(only k).mp wokenK, waits] at waitsK
        contradiction
  · rintro (⟨waits, isIn⟩ | ⟨idle, none⟩)
    · constructor
      · intro _
        exact ⟨i, waits, isIn, (only i).mpr rfl, fun j _ _ wokenJ => (only j).mp wokenJ⟩
      · intro j _ wokenJ
        rw [(only j).mp wokenJ]
        exact isIn
    · constructor
      · rintro ⟨j, waitsJ, inSetJ⟩
        rw [none j waitsJ] at inSetJ
        contradiction
      · intro j waitsJ wokenJ
        rw [(only j).mp wokenJ, idle] at waitsJ
        contradiction

theorem wakes_gnt_iff [NeZero n] {arbiter : Arbiter n} (oneHot : arbiter.gntQ.OneHot) :
    Wakes waiting inSet (Rrarb.gnt arbiter fun i => waiting i && inSet i) ↔
      Current arbiter waiting inSet := by
  cases held : arbiter.waitQ with
  | true =>
      rcases oneHot with ⟨i, single⟩
      rw [Rrarb.gnt, Arbiter.gntO_of_waiting held, wakes_single_iff single]
      simp [Current, held, single]
  | false =>
      have current : Current arbiter waiting inSet := by simp [Current, held]
      refine iff_of_true ?_ current
      rw [Rrarb.gnt, Arbiter.gntO_of_idle held]
      cases pending : (Bits.any fun i => waiting i && inSet i) with
      | true =>
          rcases Rrarb.grant_oneHot arbiter pending with ⟨i, single, request⟩
          rw [wakes_single_iff single]
          exact Or.inl (by simpa using request)
      | false =>
          rw [Rrarb.grant_of_none arbiter pending]
          rw [Bits.any_eq_false_iff] at pending
          constructor
          · rintro ⟨i, waits, isIn⟩
            have quiet := pending i
            rw [waits, isIn] at quiet
            contradiction
          · intro i _ woken
            rw [Bits.zero_apply] at woken
            contradiction

end Slot

/-! ## The two kinds of slots -/

section Refill

variable {cfg : Cfg} (state : State cfg) (input : Input cfg)

def waitsMshrFull : Bits cfg.rtabEntries := fun i =>
  state.validQ i && (state.depsQ i).mshrFull

def waitsDirUnavailable : Bits cfg.rtabEntries := fun i =>
  state.validQ i && (state.depsQ i).dirUnavailable

/-- The entries that lose the dependency in this cycle. -/
def losesMshrFull : Bits cfg.rtabEntries := fun i =>
  (state.depsQ i).mshrFull && !((step state input).depsQ i).mshrFull

def losesDirUnavailable : Bits cfg.rtabEntries := fun i =>
  (state.depsQ i).dirUnavailable && !((step state input).depsQ i).dirUnavailable

/-- The wake-up law of the refill of this cycle. -/
def WakesMshrFull : Prop :=
  Wakes (waitsMshrFull state) (matchRefillMshrSet state input) (losesMshrFull state input)

def WakesDirUnavailable : Prop :=
  Wakes (waitsDirUnavailable state) (matchRefillSet state input)
    (losesDirUnavailable state input)

/-- The arbiter of the MSHR slots is not held by another set. -/
def MshrFullCurrent : Prop :=
  Current state.waitersMshrFullArb (waitsMshrFull state) (matchRefillMshrSet state input)

/-- The arbiter of the directory slots is not held by another set. -/
def DirUnavailableCurrent : Prop :=
  Current state.waitersDirUnavailableArb (waitsDirUnavailable state)
    (matchRefillSet state input)

instance decidableMshrFullCurrent : Decidable (MshrFullCurrent state input) :=
  decidableCurrent _ _ _

instance decidableDirUnavailableCurrent : Decidable (DirUnavailableCurrent state input) :=
  decidableCurrent _ _ _

variable {state input}

theorem Wakes.congr {n : Nat} {waiting inSet woken woken' : Bits n}
    (same : ∀ i, waiting i = true → woken i = woken' i)
    (wakes : Wakes waiting inSet woken) : Wakes waiting inSet woken' := by
  constructor
  · intro some
    rcases wakes.one some with ⟨i, waits, isIn, wokenI, unique⟩
    refine ⟨i, waits, isIn, by rw [← same i waits, wokenI], ?_⟩
    intro j waitsJ inSetJ wokenJ
    exact unique j waitsJ inSetJ (by rw [same j waitsJ, wokenJ])
  · intro i waits wokenI
    exact wakes.own i waits (by rw [same i waits, wokenI])

theorem losesMshrFull_of_waits (refill : input.refill = true) (i : cfg.RtabPtr)
    (waits : waitsMshrFull state i = true) :
    losesMshrFull state input i = waitersMshrFullGnt state input i := by
  simp only [waitsMshrFull, Bool.and_eq_true] at waits
  simp [losesMshrFull, step, updateDeps, setReset, depsRst, waits.2, refill]

theorem losesDirUnavailable_of_waits (refill : input.refill = true) (i : cfg.RtabPtr)
    (waits : waitsDirUnavailable state i = true) :
    losesDirUnavailable state input i = waitersDirUnavailableGnt state input i := by
  simp only [waitsDirUnavailable, Bool.and_eq_true] at waits
  simp [losesDirUnavailable, step, updateDeps, setReset, depsRst, waits.2, refill]

theorem wakesMshrFull_iff (refill : input.refill = true)
    (oneHot : state.waitersMshrFullArb.gntQ.OneHot) :
    WakesMshrFull state input ↔ MshrFullCurrent state input := by
  rw [MshrFullCurrent, ← wakes_gnt_iff oneHot]
  constructor
  · exact Wakes.congr (losesMshrFull_of_waits refill)
  · exact Wakes.congr fun i waits => (losesMshrFull_of_waits refill i waits).symm

theorem wakesDirUnavailable_iff (refill : input.refill = true)
    (oneHot : state.waitersDirUnavailableArb.gntQ.OneHot) :
    WakesDirUnavailable state input ↔ DirUnavailableCurrent state input := by
  rw [DirUnavailableCurrent, ← wakes_gnt_iff oneHot]
  constructor
  · exact Wakes.congr (losesDirUnavailable_of_waits refill)
  · exact Wakes.congr fun i waits => (losesDirUnavailable_of_waits refill i waits).symm

end Refill

/-! ## Runs -/

section Runs

variable {cfg : Cfg}

/-- Both arbiters always remember exactly one grant. -/
theorem gntQ_oneHot_run (inputs : List (Input cfg)) :
    ((machine cfg).run inputs).waitersMshrFullArb.gntQ.OneHot ∧
      ((machine cfg).run inputs).waitersDirUnavailableArb.gntQ.OneHot :=
  (machine cfg).run_invariant
    (fun state => state.waitersMshrFullArb.gntQ.OneHot ∧
      state.waitersDirUnavailableArb.gntQ.OneHot)
    ⟨Rrarb.gntQ_oneHot_reset, Rrarb.gntQ_oneHot_reset⟩
    (fun _ _ inv => ⟨Rrarb.gntQ_oneHot_step _ _ inv.1, Rrarb.gntQ_oneHot_step _ _ inv.2⟩)
    inputs

/-- In every reachable state, a refill wakes one entry of its own set, and no
other, exactly when the arbiter is not held by another set. -/
theorem wakeup_run (inputs : List (Input cfg)) (input : Input cfg)
    (refill : input.refill = true) :
    (WakesMshrFull ((machine cfg).run inputs) input ↔
        MshrFullCurrent ((machine cfg).run inputs) input) ∧
      (WakesDirUnavailable ((machine cfg).run inputs) input ↔
        DirUnavailableCurrent ((machine cfg).run inputs) input) := by
  rcases gntQ_oneHot_run inputs with ⟨mshr, dir⟩
  exact ⟨wakesMshrFull_iff refill mshr, wakesDirUnavailable_iff refill dir⟩

end Runs

/-! ## A refill of another set -/

/-- A cycle in which nothing is asked for; the refill port shows line 0. -/
def Input.quiet (cfg : Cfg) : Input cfg where
  checkNline := 0
  alloc := false
  allocAndLink := false
  allocReq := { req := ReqX.zero, wayFetch := 0 }
  allocDeps := RtabDeps.none
  popTry := false
  popCommit := false
  popCommitPtr := 0
  popRback := false
  popRbackPtr := 0
  wbufHitOpen := false
  wbufHitPend := false
  wbufHitSent := false
  wbufNotReady := false
  missReady := false
  refill := false
  refillIsError := false
  refillNline := 0
  refillWayIndex := 0
  flushAck := false
  flushAckNline := 0
  flushReady := false
  noPendTrans := false

/-- A load of a line is put on hold because its MSHR set is full. -/
def Input.holdMshrFull (set : Cfg.small.Set) : Input Cfg.small :=
  { Input.quiet Cfg.small with
    checkNline := set.val
    alloc := true
    allocReq := {
      req := { (ReqX.zero : ReqX Cfg.small) with
        req := { (Req.zero : Req Cfg.small) with addrSet := set } }
      wayFetch := 0 }
    allocDeps := { RtabDeps.none with mshrFull := true } }

/-- The refill of line `set`, of tag 0. -/
def Input.refillLine (set : Cfg.small.Set) : Input Cfg.small :=
  { Input.quiet Cfg.small with refill := true, refillNline := set.val }

/-- Loads of both sets wait, and line 0 is still on the refill port. -/
def waitBothSets : List (Input Cfg.small) :=
  [Input.holdMshrFull 0, Input.quiet Cfg.small, Input.holdMshrFull 1]

theorem wakeup_ownSet :
    WakesMshrFull ((machine Cfg.small).run waitBothSets) (Input.refillLine 0) :=
  (wakeup_run waitBothSets (Input.refillLine 0) rfl).1.mpr (by decide +kernel)

/-- The refill of set 1 wakes the load of set 0. -/
theorem wakeup_otherSet :
    ¬WakesMshrFull ((machine Cfg.small).run waitBothSets) (Input.refillLine 1) := by
  intro wakes
  have other : matchRefillMshrSet ((machine Cfg.small).run waitBothSets)
      (Input.refillLine 1) 0 = true :=
    wakes.own 0 (by decide +kernel) (by decide +kernel)
  exact absurd other (by decide +kernel)

end Cva6Hpd.Hpdcache.Rtab
