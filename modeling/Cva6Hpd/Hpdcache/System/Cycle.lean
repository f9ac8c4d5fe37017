import Cva6Hpd.Hpdcache.Top
import Cva6Hpd.Hpdcache.Pipeline

/-!
# One cycle of the cache

The protocol engine as it is wired in the cache. A cycle is stalled while the
directory is being cleared, a line is being refilled or the flush controller
reads a line out. `Calm` says that the pipeline is empty in a stalled cycle and
while the CMO handler works on the directory. Every cycle of a calm cache is then
one of two turns: nothing is in stage 1, or a request is, and one of the decisions
of `Stage1` is taken on it.
-/

namespace Cva6Hpd.Hpdcache.Cmo

open Cva6Hpd.Common

variable {cfg : Cfg} (state : State cfg)

/-- The handler works on the directory. -/
def working : Bool := decide (state.cmohFsmQ ≠ .cmohIdle) && !wait state

/-- The handler walks the directory and may find lines to flush. -/
def Walking : Prop :=
  cfg.wbEn = true ∧ (state.cmohFsmQ = .cmohFlushAllNext ∨ state.cmohFsmQ = .cmohFlushAllLast ∨
    state.cmohFsmQ = .cmohFlushNlineNext)

/-- Lines wait to be flushed only while the handler walks the directory. -/
def Flushes : Prop := state.flushReqFifo.contents ≠ [] → Walking state

variable {state} {input : Input cfg}

theorem not_ready_of_working (working : working state = true) (rspReady : Bool) :
    ready state rspReady = false ∧ wait state = false := by
  simp only [Cmo.working, Bool.and_eq_true, decide_eq_true_eq, Bool.not_eq_true'] at working
  exact ⟨by simp [ready, working.1], working.2⟩

/-- The handler starts to work when nothing else is in the pipeline. -/
theorem working_step (next : working (step state input) = true) :
    working state = true ∨ (state.cmohFsmQ = .cmohWaitMshrRtabEmpty ∧
      input.mshrEmpty = true ∧ input.rtabEmpty = true ∧ input.ctrlEmpty = true) := by
  cases fsm : state.cmohFsmQ with
  | cmohIdle =>
      have stays : (step state input).cmohFsmQ = (idle state input).cmohFsmD := by
        simp [step, cmohFsmComb, fsm]
      simp only [working, wait, stays, idle, defaults, fsm] at next
      split_ifs at next <;> simp at next
  | cmohFenceWaitWbufRtabEmpty =>
      have stays : (step state input).cmohFsmQ = (fenceWait state input).cmohFsmD := by
        simp [step, cmohFsmComb, fsm]
      simp only [working, wait, stays, fenceWait, done, defaults, fsm] at next
      split_ifs at next <;> simp at next
  | cmohWaitMshrRtabEmpty =>
      by_cases ready : (input.mshrEmpty && input.rtabEmpty && input.ctrlEmpty) = true
      · simp only [Bool.and_eq_true, and_assoc] at ready
        exact Or.inr ⟨rfl, ready⟩
      · have stays : (step state input).cmohFsmQ = .cmohWaitMshrRtabEmpty := by
          simp [step, cmohFsmComb, fsm, waitEmpty, ready, defaults]
        simp [working, wait, stays] at next
  | _ => exact Or.inl (by simp [working, wait, fsm])

theorem walking_of_flushReqW (write : flushReqW state input = true) : Walking state := by
  simp only [flushReqW, Bool.and_eq_true] at write
  refine ⟨write.1.1, ?_⟩
  cases fsm : state.cmohFsmQ <;> simp_all

theorem walking_of_flushAlloc (flushes : Flushes state) (alloc : flushAlloc state input = true) :
    Walking state := by
  simp only [flushAlloc, FifoRegs.rok, Bool.and_eq_true, Bool.or_eq_true, Bool.true_and,
    Bool.not_eq_true'] at alloc
  rcases alloc.2 with nonempty | now
  · refine flushes ?_
    rw [FifoReg.empty_eq_decide, decide_eq_false_iff_not] at nonempty
    exact nonempty
  · exact walking_of_flushReqW now

theorem Walking.working (walking : Walking state) : working state = true := by
  rcases walking.2 with fsm | fsm | fsm <;> simp [Cmo.working, wait, fsm]

theorem flushes_reset : Flushes (reset cfg) := by
  intro nonempty
  exact absurd (FifoReg.contents_reset _) nonempty

theorem walking_step (walking : Walking state) :
    Walking (step state input) ∨ flushAlloc state input = false := by
  by_cases alloc : flushAlloc state input = true
  · refine Or.inl ⟨walking.1, ?_⟩
    rcases walking.2 with fsm | fsm | fsm
    · have stays : (step state input).cmohFsmQ = (flushAllNext state input).cmohFsmD := by
        simp [step, cmohFsmComb, fsm]
      rw [stays, flushAllNext]
      split_ifs <;> simp [flushEntry, checkEntry, defaults, fsm]
    · have stays : (step state input).cmohFsmQ =
          (flushAllLast state input (flushAlloc state input)).cmohFsmD := by
        simp [step, cmohFsmComb, fsm]
      rw [stays, flushAllLast, alloc]
      split_ifs <;> simp_all [flushEntry, defaults]
    · have stays : (step state input).cmohFsmQ =
          (flushNlineNext state input (flushAlloc state input)).cmohFsmD := by
        simp [step, cmohFsmComb, fsm]
      rw [stays, flushNlineNext, alloc]
      split_ifs <;> simp_all [defaults]
  · exact Or.inr (Bool.eq_false_iff.mpr alloc)

theorem flushes_step (flushes : Flushes state) : Flushes (step state input) := by
  intro nonempty
  have source : state.flushReqFifo.contents ≠ [] ∨ flushReqW state input = true := by
    by_contra neither
    push Not at neither
    refine nonempty ?_
    simp [step, FifoReg.contents_step, neither.1, neither.2, FifoRegs.wexec]
  have walking : Walking state := source.elim flushes walking_of_flushReqW
  rcases walking_step walking with stays | ends
  · exact stays
  · simp only [flushAlloc, FifoRegs.rok, walking.1, Bool.true_and, Bool.or_eq_false_iff,
      Bool.not_eq_false', FifoReg.empty_eq_decide, decide_eq_true_eq] at ends
    rcases source with stored | write
    · exact absurd ends.1 stored
    · rw [ends.2] at write
      contradiction

end Cva6Hpd.Hpdcache.Cmo

namespace Cva6Hpd.Hpdcache.Top

open Cva6Hpd.Hw
open Cva6Hpd.Common

variable {cfg : Cfg} (state : State cfg) (input : Input cfg)

/-- The inputs of the protocol engine. -/
def peIn : PeIn := Ctrl.peIn state.ctrl input.ctrl (units state input)

/-- The effects of the decision on the request in stage 1. -/
def effects : Effects := (pe state input).effects

/-- The pipeline is stalled in this cycle. -/
def Stalled : Prop :=
  state.memctrl.initQ = false ∨ MissHandler.refillBusy state.miss = true ∨
    flushBusy state = true

/-! ## Decisions -/

variable {state input}

/-- The protocol engine is stalled, idles or decides. -/
theorem pe_cases (unscrubbed : state.ctrl.st1ReqQ.errScrubbing = false) :
    (Stalled state ∧ pe state input = peDefaults (peIn state input)) ∨
      (¬Stalled state ∧ NewReq cfg (peIn state input) (pe state input) ∧
        ((state.ctrl.st1ReqValidQ = false ∧
            effects state input = (peIn state input).noEffects) ∨
          (state.ctrl.st1ReqValidQ = true ∧
            Stage1 cfg (peIn state input) (effects state input)))) :=
  Ctrl.pe_cases input.ctrl (units state input) unscrubbed

/-! ## Calm states -/

/-- The pipeline is empty in a stalled cycle and while the CMO handler works on the
directory. -/
structure Calm (state : State cfg) : Prop where
  settled : Ctrl.Settled state.ctrl
  noCmoh : Ctrl.NoCmoh state.ctrl
  stalled : Stalled state → Ctrl.ctrlEmpty state.ctrl = true
  working : Cmo.working state.cmo = true → Ctrl.ctrlEmpty state.ctrl = true
  flushes : Cmo.Flushes state.cmo

theorem Calm.unscrubbed (calm : Calm state) : state.ctrl.st1ReqQ.errScrubbing = false :=
  calm.settled.unscrubbed

variable (input) in
theorem Calm.turn (calm : Calm state) :
    (state.ctrl.st1ReqValidQ = false ∧ effects state input = (peIn state input).noEffects) ∨
      (state.ctrl.st1ReqValidQ = true ∧ ¬Stalled state ∧
        Stage1 cfg (peIn state input) (effects state input)) := by
  rcases pe_cases calm.unscrubbed with ⟨stalled, defaults⟩ | ⟨running, _, idle | ⟨valid, decision⟩⟩
  · rcases (Ctrl.ctrlEmpty_iff _).mp (calm.stalled stalled) with ⟨empty, st2⟩
    rcases (Ctrl.st2Empty_iff _).mp st2 with ⟨noMiss, noUpdt, noFlush⟩
    refine Or.inl ⟨empty, ?_⟩
    rw [effects, defaults]
    exact effects_peDefaults ⟨noMiss, noFlush, noUpdt⟩
  · exact Or.inl idle
  · exact Or.inr ⟨valid, running, decision⟩

/-! ## Grants -/

/-- Whatever the protocol engine grants, it grants in a cycle that is not
stalled. -/
theorem running_of (unscrubbed : state.ctrl.st1ReqQ.errScrubbing = false) {f : PeOut → Bool}
    (off : f (peDefaults (peIn state input)) = false) (on : f (pe state input) = true) :
    ¬Stalled state ∧ NewReq cfg (peIn state input) (pe state input) := by
  rcases pe_cases unscrubbed with ⟨_, defaults⟩ | ⟨running, new, _⟩
  · rw [defaults, off] at on
    contradiction
  · exact ⟨running, new⟩

/-- The bubbles that stage 1 and stage 2 insert. -/
def nop (state : State cfg) (input : Input cfg) : Bool :=
  (pe state input).st1Nop || (peIn state input).st2Pending

/-- What lets a new request into the pipeline. -/
structure Free (state : State cfg) (input : Input cfg) : Prop where
  running : ¬Stalled state
  noReplay : Rtab.popTryValid state.ctrl.rtab = false
  noRefill : MissHandler.refillReqValid state.miss = false
  notFull : Rtab.full state.ctrl.rtab input.ctrl.cfgRtabSingleEntry = false
  cmoIdle : cmoBusy state = false
  ucIdle : input.ucBusy = false
  noErr : Ctrl.errBusy state.ctrl = false
  noFence : Rtab.fence state.ctrl.rtab = false
  noNop : nop state input = false

theorem free_of_newReqFree (running : ¬Stalled state)
    (free : newReqFree (peIn state input) (nop state input) = true) : Free state input := by
  simp only [newReqFree, Bool.and_eq_true, Bool.not_eq_true'] at free
  rcases free with ⟨⟨⟨⟨⟨⟨⟨noReplay, noRefill⟩, notFull⟩, cmoIdle⟩, ucIdle⟩, noErr⟩, noFence⟩, noNop⟩
  exact ⟨running, noReplay, noRefill, notFull, cmoIdle, ucIdle, noErr, noFence, noNop⟩

theorem free_of_core (unscrubbed : state.ctrl.st1ReqQ.errScrubbing = false)
    (core : (pe state input).coreReqReady = true) :
    Free state input ∧ Ctrl.scrubReqValid input.ctrl = false := by
  rcases running_of (f := PeOut.coreReqReady) unscrubbed rfl core with ⟨running, new⟩
  rw [new.core, coreReqReady, Bool.and_eq_true, Bool.and_eq_true, Bool.not_eq_true'] at core
  exact ⟨free_of_newReqFree running core.2, core.1.2⟩

/-- What lets a request on hold into the pipeline. -/
structure Replays (state : State cfg) (input : Input cfg) : Prop where
  running : ¬Stalled state
  valid : Rtab.popTryValid state.ctrl.rtab = true
  noRefill : MissHandler.refillReqValid state.miss = false
  cmoIdle : cmoBusy state = false ∨ Cmo.wait state.cmo = true
  noErr : Ctrl.errBusy state.ctrl = false
  noNop : nop state input = false

theorem replays_of_rtab (unscrubbed : state.ctrl.st1ReqQ.errScrubbing = false)
    (rtab : (pe state input).rtabReqReady = true) : Replays state input := by
  rcases running_of (f := PeOut.rtabReqReady) unscrubbed rfl rtab with ⟨running, new⟩
  rw [new.rtab] at rtab
  simp only [rtabReqReady, Bool.and_eq_true, Bool.or_eq_true, Bool.not_eq_true'] at rtab
  rcases rtab with ⟨⟨⟨⟨valid, noRefill⟩, cmoIdle⟩, noErr⟩, noNop⟩
  exact ⟨running, valid, noRefill, cmoIdle, noErr, noNop⟩

/-- What lets a refill start. -/
structure Refills (state : State cfg) (input : Input cfg) : Prop where
  running : ¬Stalled state
  valid : MissHandler.refillReqValid state.miss = true
  cmoIdle : cmoBusy state = false ∨ Cmo.wait state.cmo = true
  noErr : Ctrl.errBusy state.ctrl = false ∨ Ctrl.errWait state.ctrl = true
  st1Empty : state.ctrl.st1ReqValidQ = false
  noMiss : state.ctrl.st2MshrAllocQ = false
  noUpdt : state.ctrl.st2DirUpdtQ = false

theorem refills_of_refill (unscrubbed : state.ctrl.st1ReqQ.errScrubbing = false)
    (refill : (pe state input).refillReqReady = true) : Refills state input := by
  rcases running_of (f := PeOut.refillReqReady) unscrubbed rfl refill with ⟨running, new⟩
  rw [new.refill] at refill
  simp only [refillReqReady, Bool.and_eq_true, Bool.or_eq_true, Bool.not_eq_true',
    Bool.or_eq_false_iff] at refill
  rcases refill with ⟨⟨⟨⟨valid, cmoIdle⟩, noErr⟩, st1Empty⟩, noMiss, noUpdt⟩
  exact ⟨running, valid, cmoIdle, noErr, st1Empty, noMiss, noUpdt⟩

/-- The next request in stage 1 is a new one, a replayed one, or none. -/
theorem Calm.st1ReqValid_next (calm : Calm state) :
    (step state input).ctrl.st1ReqValidQ =
      ((pe state input).coreReqReady || (pe state input).rtabReqReady) := by
  rw [show (step state input).ctrl.st1ReqValidQ = (pe state input).st1ReqValid from rfl]
  rcases pe_cases calm.unscrubbed with ⟨stalled, defaults⟩ | ⟨_, new, _⟩
  · rw [defaults]
    exact ((Ctrl.ctrlEmpty_iff _).mp (calm.stalled stalled)).1
  · exact new.valid

theorem Calm.noValid_of_nop (calm : Calm state) (bubble : nop state input = true) :
    (step state input).ctrl.st1ReqValidQ = false := by
  rw [calm.st1ReqValid_next, Bool.or_eq_false_iff, Bool.eq_false_iff, Bool.eq_false_iff]
  constructor
  · intro core
    rw [(free_of_core calm.unscrubbed core).1.noNop] at bubble
    contradiction
  · intro rtab
    rw [(replays_of_rtab calm.unscrubbed rtab).noNop] at bubble
    contradiction

/-! ## Calm runs -/

theorem cmoBusy_of_working (working : Cmo.working state.cmo = true) :
    cmoBusy state = true ∧ Cmo.wait state.cmo = false := by
  have busy := Cmo.not_ready_of_working working (cmoCoreRspReady state)
  exact ⟨by rw [cmoBusy, busy.1]; rfl, busy.2⟩

theorem Calm.noValid_of_working (calm : Calm state) (working : Cmo.working state.cmo = true) :
    (step state input).ctrl.st1ReqValidQ = false := by
  have busy := cmoBusy_of_working working
  rw [calm.st1ReqValid_next, Bool.or_eq_false_iff, Bool.eq_false_iff, Bool.eq_false_iff]
  constructor
  · intro core
    have idle := (free_of_core calm.unscrubbed core).1.cmoIdle
    rw [busy.1] at idle
    contradiction
  · intro rtab
    rcases (replays_of_rtab calm.unscrubbed rtab).cmoIdle with idle | waits
    · rw [busy.1] at idle
      contradiction
    · rw [busy.2] at waits
      contradiction

/-- Stage 2 is empty after a cycle with nothing in stage 1. -/
theorem Calm.st2Empty_next (calm : Calm state) (empty : state.ctrl.st1ReqValidQ = false) :
    Ctrl.st2Empty (step state input).ctrl = true := by
  rcases calm.turn input with ⟨_, none⟩ | ⟨valid, _⟩
  · have quiet (f : Effects → Bool) (off : f (peIn state input).noEffects = false) :
        f (effects state input) = false := by
      rw [none]
      exact off
    exact (Ctrl.st2Empty_iff _).mpr ⟨quiet Effects.miss rfl, quiet Effects.dirUpdt rfl,
      quiet Effects.flush rfl⟩
  · rw [empty] at valid
    contradiction

theorem Calm.ctrlEmpty_next (calm : Calm state) (empty : state.ctrl.st1ReqValidQ = false)
    (noValid : (step state input).ctrl.st1ReqValidQ = false) :
    Ctrl.ctrlEmpty (step state input).ctrl = true :=
  (Ctrl.ctrlEmpty_iff _).mpr ⟨noValid, calm.st2Empty_next empty⟩

theorem nop_of_st2 (pending : Ctrl.st2Empty state.ctrl = false) : nop state input = true := by
  rw [nop, Bool.or_eq_true]
  refine Or.inr (Bool.eq_false_imp_eq_true.mp fun idle => ?_)
  have empty := PeIn.st2Empty_of_not_pending (i := peIn state input) idle
  rw [(Ctrl.st2Empty_iff _).mpr ⟨empty.mshrAlloc, empty.dirUpdt, empty.flushAlloc⟩] at pending
  contradiction

/-- A line starts to be read out for a request that stage 2 or the CMO handler
makes. -/
theorem flushBusy_next (next : flushBusy (step state input) = true) :
    flushBusy state = true ∨ state.ctrl.st2FlushAllocQ = true ∨
      cmoFlushAlloc state input = true := by
  simp only [flushBusy, Bool.and_eq_true] at next ⊢
  rcases next with ⟨wbEn, busy⟩
  have stepped : (step state input).flush = Flush.step state.flush (flushInput state input) := by
    simp [step, wbEn]
  rw [stepped] at busy
  cases fsm : state.flush.flushFsmQ with
  | flushSend => exact Or.inl ⟨wbEn, by simp [Flush.busy, fsm]⟩
  | flushIdle =>
      right
      simp only [Flush.busy, Flush.step, Flush.fsmD, fsm] at busy
      cases alloc : Flush.alloc state.flush (flushInput state input) with
      | false => simp [alloc] at busy
      | true =>
          simp only [Flush.alloc, Bool.and_eq_true] at alloc
          simpa [flushInput] using alloc.1

theorem refillBusy_next (next : MissHandler.refillBusy (step state input).miss = true) :
    MissHandler.refillBusy state.miss = true ∨ (pe state input).refillReqReady = true := by
  cases fsm : state.miss.refillFsmQ with
  | refillIdle =>
      right
      have stepped : (step state input).miss.refillFsmQ =
          (MissHandler.refillIdle state.miss (missInput state input)).refillFsmD := by
        simp [step, MissHandler.step, MissHandler.missRespFsmComb, fsm]
      rw [MissHandler.refillBusy, stepped, MissHandler.refillIdle] at next
      cases granted : (pe state input).refillReqReady with
      | true => rfl
      | false =>
          have noGrant : (missInput state input).refillReqReady = false := granted
          simp only [noGrant, MissHandler.refillDefaults, fsm] at next
          split_ifs at next <;> simp_all
  | _ => exact Or.inl (by simp [MissHandler.refillBusy, fsm])

theorem Calm.step (calm : Calm state)
    (rtabEmpty : Rtab.empty state.ctrl.rtab = true → Rtab.popTryValid state.ctrl.rtab = false) :
    Calm (step state input) := by
  have stalls (empty : Ctrl.ctrlEmpty state.ctrl = true)
      (noValid : (Top.step state input).ctrl.st1ReqValidQ = false) :
      Ctrl.ctrlEmpty (Top.step state input).ctrl = true :=
    calm.ctrlEmpty_next ((Ctrl.ctrlEmpty_iff _).mp empty).1 noValid
  have stays (stalled : Stalled state) :
      Ctrl.ctrlEmpty (Top.step state input).ctrl = true := by
    refine stalls (calm.stalled stalled) ?_
    rw [calm.st1ReqValid_next, Bool.or_eq_false_iff, Bool.eq_false_iff, Bool.eq_false_iff]
    exact ⟨fun core => (free_of_core calm.unscrubbed core).1.running stalled,
      fun rtab => (replays_of_rtab calm.unscrubbed rtab).running stalled⟩
  constructor
  · exact calm.settled.step
  · exact calm.noCmoh.step calm.settled
  · rintro (noInit | refill | flush)
    · refine stays (Or.inl ?_)
      simp only [Top.step, Memctrl.step, Bool.or_eq_false_iff] at noInit
      exact noInit.1
    · rcases refillBusy_next refill with busy | granted
      · exact stays (Or.inr (Or.inl busy))
      · have refills := refills_of_refill calm.unscrubbed granted
        refine calm.ctrlEmpty_next refills.st1Empty ?_
        rw [calm.st1ReqValid_next, Bool.or_eq_false_iff, Bool.eq_false_iff, Bool.eq_false_iff]
        constructor
        · intro core
          have noRefill := (free_of_core calm.unscrubbed core).1.noRefill
          rw [refills.valid] at noRefill
          contradiction
        · intro rtab
          have noRefill := (replays_of_rtab calm.unscrubbed rtab).noRefill
          rw [refills.valid] at noRefill
          contradiction
    · rcases flushBusy_next flush with busy | st2 | cmo
      · exact stays (Or.inr (Or.inr busy))
      · have pending : Ctrl.st2Empty state.ctrl = false := by simp [Ctrl.st2Empty, st2]
        have empty : state.ctrl.st1ReqValidQ = false := by
          rw [Bool.eq_false_iff]
          intro valid
          rw [calm.settled.alone valid] at pending
          contradiction
        exact calm.ctrlEmpty_next empty (calm.noValid_of_nop (nop_of_st2 pending))
      · have working := (Cmo.walking_of_flushAlloc calm.flushes cmo).working
        exact stalls (calm.working working) (calm.noValid_of_working working)
  · intro next
    rcases Cmo.working_step next with working | ⟨fsm, _, noEntry, empty⟩
    · exact stalls (calm.working working) (calm.noValid_of_working working)
    · refine stalls empty ?_
      rw [calm.st1ReqValid_next, Bool.or_eq_false_iff, Bool.eq_false_iff, Bool.eq_false_iff]
      constructor
      · intro core
        have idle := (free_of_core calm.unscrubbed core).1.cmoIdle
        simp [cmoBusy, Cmo.ready, fsm] at idle
      · intro rtab
        have valid := (replays_of_rtab calm.unscrubbed rtab).valid
        rw [rtabEmpty noEntry] at valid
        contradiction
  · exact Cmo.flushes_step calm.flushes

theorem calm_reset (powerUp : PowerUp cfg) : Calm (reset powerUp) where
  settled := Ctrl.settled_reset cfg
  noCmoh := Ctrl.noCmoh_reset cfg
  stalled := fun _ => rfl
  working := fun _ => rfl
  flushes := Cmo.flushes_reset

end Cva6Hpd.Hpdcache.Top
