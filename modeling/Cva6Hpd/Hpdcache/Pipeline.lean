import Cva6Hpd.Hpdcache.Ctrl
import Cva6Hpd.Hpdcache.Stage1
import Cva6Hpd.Hw.Machine

/-!
# The pipeline and the arrays

When the controller uses the directory and the data arrays, with the other units free to do
anything. A store in stage 1 stops the request behind it whose read would meet its write. The
requests in the pipeline leave stage 2 and the error handler alone: `Settled` says so of every
state that the controller reaches.
-/

namespace Cva6Hpd.Hpdcache

/-! ## The data arrays in stage 1 -/

section DataArrays

variable (i : PeIn) (o : PeOut)

variable {i o} (cfg : Cfg)

end DataArrays

/-! ## The arrays in one cycle -/

section Cycle

variable (cfg : Cfg) (i : PeIn)

/-- The variables after stages 2 and 1. -/
def afterStage1 : PeOut :=
  if i.st1ReqValid then
    peStage1 cfg.lowLatency cfg.eccEn cfg.eccScrubberEn cfg.wbEn i
      (Stage1.taken i i.st2MshrAlloc i.st2Pending)
  else Stage1.taken i i.st2MshrAlloc i.st2Pending

theorem hpdcacheCtrlComb_of_running (running : ¬i.Blocked) :
    hpdcacheCtrlComb cfg i =
      peNewReq cfg.lowLatency cfg.eccEn cfg.eccScrubberEn i (afterStage1 cfg i) := by
  have free : ¬(!i.cachedirInitReady || i.refillBusy || i.flushBusy) = true := by
    simpa [PeIn.Blocked, or_assoc] using running
  simp only [hpdcacheCtrlComb, if_neg free, peStage2_peDefaults, afterStage1]

theorem hpdcacheCtrlComb_of_blocked (blocked : i.Blocked) :
    hpdcacheCtrlComb cfg i = peDefaults i := by
  have stalled : (!i.cachedirInitReady || i.refillBusy || i.flushBusy) = true := by
    simpa [PeIn.Blocked, or_assoc] using blocked
  rw [hpdcacheCtrlComb, if_pos stalled]

variable {cfg i}

/-- What lets a request of stage 0 into the arrays. -/
structure Enters (cfg : Cfg) (i : PeIn) : Prop where
  noRefill : i.refillReqValid = false
  noErr : i.errBusy = false
  cmoIdle : i.cmoBusy = false ∨ i.cmoWait = true
  noNop : (afterStage1 cfg i).st1Nop = false
  st2Empty : i.st2Pending = false

end Cycle

theorem Stage1.alone_of_err {cfg : Cfg} {i : PeIn} {e : Effects} (decision : Stage1 cfg i e)
    (err : e.err = true) :
    cfg.eccEn = true ∧ e.nop = true ∧ e.miss = false ∧ e.flush = false ∧ e.dirUpdt = false := by
  cases decision
  case eccHeld ecc => exact ⟨ecc, rfl, rfl, rfl, rfl⟩
  case eccError ecc _ _ => exact ⟨ecc, rfl, rfl, rfl, rfl⟩
  all_goals contradiction

namespace Ctrl

open Cva6Hpd.Hw

variable {cfg : Cfg}

/-! ## The requests in the pipeline -/

section Requests

variable {state : State cfg} {ext : Ext cfg} {units : Units cfg}

@[simp]
theorem errScrubbing_st1Req : (st1Req state ext).errScrubbing = state.st1ReqQ.errScrubbing := by
  rw [st1Req]
  split <;> rfl

theorem decoded (unscrubbed : state.st1ReqQ.errScrubbing = false) :
    (peIn state ext units).Decoded := by
  generalize op : (st1Req state ext).req.op = operation
  cases operation
  case load | cmoPrefetch =>
    apply PeIn.Decoded.read <;>
      simp [peIn, PeIn.isCmoh, PeIn.isRead, op, unscrubbed, ReqOp.isLoad, ReqOp.isStore,
        ReqOp.isAmo, ReqOp.isCmoInval, ReqOp.isCmoFlush, ReqOp.isCmoFence, ReqOp.isCmoPrefetch]
  case store =>
    apply PeIn.Decoded.store <;>
      simp [peIn, PeIn.isCmoh, PeIn.isRead, op, ReqOp.isLoad, ReqOp.isStore, ReqOp.isAmo,
        ReqOp.isCmoInval, ReqOp.isCmoFlush, ReqOp.isCmoFence, ReqOp.isCmoPrefetch]
  case cmoFence | cmoInvalNline | cmoInvalAll | cmoFlushNline | cmoFlushAll |
      cmoFlushInvalNline | cmoFlushInvalAll =>
    apply PeIn.Decoded.cmoh
    simp [peIn, PeIn.isCmoh, op, ReqOp.isCmoInval, ReqOp.isCmoFlush, ReqOp.isCmoFence]
  all_goals
    apply PeIn.Decoded.amo <;>
      simp [peIn, PeIn.isCmoh, PeIn.isRead, op, ReqOp.isLoad, ReqOp.isStore, ReqOp.isAmo,
        ReqOp.isCmoInval, ReqOp.isCmoFlush, ReqOp.isCmoFence, ReqOp.isCmoPrefetch]

/-- The protocol engine is stalled, idles or decides. -/
theorem pe_cases (ext : Ext cfg) (units : Units cfg)
    (unscrubbed : state.st1ReqQ.errScrubbing = false) :
    ((peIn state ext units).Blocked ∧ pe state ext units = peDefaults (peIn state ext units)) ∨
      (¬(peIn state ext units).Blocked ∧ NewReq cfg (peIn state ext units) (pe state ext units) ∧
        ((state.st1ReqValidQ = false ∧
            (pe state ext units).effects = (peIn state ext units).noEffects) ∨
          (state.st1ReqValidQ = true ∧
            Stage1 cfg (peIn state ext units) (pe state ext units).effects))) :=
  hpdcacheCtrlComb_cases cfg fun _ => decoded unscrubbed

end Requests

theorem st2Empty_iff (state : State cfg) :
    st2Empty state = true ↔ state.st2MshrAllocQ = false ∧ state.st2DirUpdtQ = false ∧
      state.st2FlushAllocQ = false := by
  simp [st2Empty, and_assoc]

theorem ctrlEmpty_iff (state : State cfg) :
    ctrlEmpty state = true ↔ state.st1ReqValidQ = false ∧ st2Empty state = true := by
  simp [ctrlEmpty, st1Empty]

/-! ## Settled states -/

/-- The inputs of the controller with the other units open. -/
structure Open (cfg : Cfg) where
  ext : Ext cfg
  units : Units cfg
  late : Late cfg

/-- The controller as a synchronous machine, whatever the other units do. -/
def machine (cfg : Cfg) : Machine (State cfg) (Open cfg) where
  reset := reset cfg
  step state input := step state input.ext input.units input.late

/-- The requests of the scrubber stay out of stage 1 and of the replay table, stage 2 is empty
while a request is in stage 1, and the pipeline while the error handler works. -/
structure Settled (state : State cfg) : Prop where
  unscrubbed : state.st1ReqQ.errScrubbing = false
  onHold : ∀ i, (state.rtab.reqQ i).req.errScrubbing = false
  alone : state.st1ReqValidQ = true → st2Empty state = true
  err : state.errFsmQ ≠ .errIdle → cfg.eccEn = true ∧ ctrlEmpty state = true

theorem settled_reset (cfg : Cfg) : Settled (reset cfg) where
  unscrubbed := rfl
  onHold := fun _ => rfl
  alone := fun _ => rfl
  err := fun working => absurd rfl working

section Step

variable {state : State cfg} {ext : Ext cfg} {units : Units cfg} {late : Late cfg}

/-- The grants of a cycle: none when it is stalled. -/
theorem grants (state : State cfg) (ext : Ext cfg) (units : Units cfg) :
    (pe state ext units = peDefaults (peIn state ext units)) ∨
      pe state ext units = peNewReq cfg.lowLatency cfg.eccEn cfg.eccScrubberEn
        (peIn state ext units) (afterStage1 cfg (peIn state ext units)) := by
  by_cases blocked : (peIn state ext units).Blocked
  · exact Or.inl (hpdcacheCtrlComb_of_blocked cfg _ blocked)
  · exact Or.inr (hpdcacheCtrlComb_of_running cfg _ blocked)

theorem unscrubbed_st0Req (onHold : ∀ i, (state.rtab.reqQ i).req.errScrubbing = false)
    (accepted : ((pe state ext units).coreReqReady || (pe state ext units).rtabReqReady) = true) :
    (st0Req state ext).errScrubbing = false := by
  rw [st0Req]
  split_ifs with replayed scrub
  · simp only [Rtab.popTryReq]
    split_ifs
    · exact onHold _
    · rfl
  · rcases grants state ext units with defaults | running
    · rw [defaults] at accepted
      contradiction
    · rw [running, Bool.or_eq_true] at accepted
      simp only [peNewReq, coreReqReady, rtabReqReady, Bool.and_eq_true] at accepted
      have noScrub : (!(peIn state ext units).scrubReqValid) = true → False := by
        rw [show (peIn state ext units).scrubReqValid = true from scrub]
        exact Bool.false_ne_true
      have noReplay : (peIn state ext units).rtabReqValid = true → False := fun valid =>
        replayed valid
      rcases accepted with core | rtab
      · exact (noScrub core.1.2).elim
      · exact (noReplay rtab.1.1.1.1).elim
  · rfl

/-- Stage 2 in the next cycle is what the decision hands to it. -/
theorem st2Empty_step_iff :
    st2Empty (Ctrl.step state ext units late) = true ↔
      (pe state ext units).effects.miss = false ∧ (pe state ext units).effects.dirUpdt = false ∧
        (pe state ext units).effects.flush = false :=
  st2Empty_iff _

theorem err_of_errFsm_step
    (works : (Ctrl.step state ext units late).errFsmQ ≠ .errIdle) :
    state.errFsmQ ≠ .errIdle ∨ (pe state ext units).effects.err = true := by
  by_cases idle : state.errFsmQ = .errIdle
  · right
    rw [← Bool.not_eq_false]
    intro noErr
    apply works
    have trigger : (pe state ext units).st1Err = false := noErr
    simp [Ctrl.step, errFsmD, idle, trigger]
  · exact Or.inl idle

/-- A bubble, or the error handler, keeps every request out of stage 1. -/
theorem noValid_of {i : PeIn} {o : PeOut} (new : NewReq cfg i o)
    (out : o.st1Nop = true ∨ i.errBusy = true) : o.st1ReqValid = false := by
  rw [new.valid, new.core, new.rtab, coreReqReady, rtabReqReady, newReqFree]
  rcases out with nop | err
  · simp [nop]
  · simp [err]

/-- A request that enters finds no bubble. -/
theorem noNop_of_valid {i : PeIn} {o : PeOut} (new : NewReq cfg i o)
    (valid : o.st1ReqValid = true) : o.st1Nop = false := by
  rw [Bool.eq_false_iff]
  intro nop
  rw [noValid_of new (Or.inl nop)] at valid
  contradiction

/-- Stage 2 stays empty when there is no decision. -/
theorem st2Empty_of_noEffects
    (none : (pe state ext units).effects = (peIn state ext units).noEffects) :
    st2Empty (Ctrl.step state ext units late) = true := by
  rw [st2Empty_step_iff, none]
  exact ⟨rfl, rfl, rfl⟩

theorem st2Empty_of_defaults (defaults : pe state ext units = peDefaults (peIn state ext units))
    (empty : st2Empty state = true) : st2Empty (Ctrl.step state ext units late) = true := by
  apply st2Empty_of_noEffects
  rw [defaults]
  rcases (st2Empty_iff state).mp empty with ⟨noMiss, noUpdt, noFlush⟩
  exact effects_peDefaults ⟨noMiss, noFlush, noUpdt⟩

theorem Settled.step (settled : Settled state) : Settled (Ctrl.step state ext units late) := by
  have turn := pe_cases ext units settled.unscrubbed
  constructor
  · simp only [Ctrl.step]
    split_ifs with accepted
    · exact unscrubbed_st0Req settled.onHold accepted
    · exact settled.unscrubbed
  · intro i
    have stored : (Rtab.step state.rtab (rtabInput state ext units late)).reqQ i =
          (rtabInput state ext units late).allocReq ∨
        (Rtab.step state.rtab (rtabInput state ext units late)).reqQ i = state.rtab.reqQ i :=
      ite_eq_or_eq _ _ _
    change ((Rtab.step state.rtab (rtabInput state ext units late)).reqQ i).req.errScrubbing = false
    rcases stored with held | kept
    · rw [held]
      exact errScrubbing_st1Req.trans settled.unscrubbed
    · rw [kept]
      exact settled.onHold i
  · intro valid
    rcases turn with ⟨_, defaults⟩ | ⟨_, new, ⟨_, none⟩ | ⟨_, decision⟩⟩
    · have kept : (Ctrl.step state ext units late).st1ReqValidQ = state.st1ReqValidQ :=
        congrArg PeOut.st1ReqValid defaults
      rw [kept] at valid
      exact st2Empty_of_defaults defaults (settled.alone valid)
    · exact st2Empty_of_noEffects none
    · rcases decision.quiet_of_no_nop (noNop_of_valid new valid) with
        ⟨_, _, _, _, noMiss, noFlush, noUpdt, _⟩
      exact st2Empty_step_iff.mpr ⟨noMiss, noUpdt, noFlush⟩
  · intro works
    rcases err_of_errFsm_step works with busy | err
    · rcases settled.err busy with ⟨ecc, empty⟩
      rcases (ctrlEmpty_iff state).mp empty with ⟨st1, st2⟩
      refine ⟨ecc, (ctrlEmpty_iff _).mpr ?_⟩
      rcases turn with ⟨_, defaults⟩ | ⟨_, new, ⟨_, none⟩ | ⟨valid, _⟩⟩
      · exact ⟨(congrArg PeOut.st1ReqValid defaults).trans st1, st2Empty_of_defaults defaults st2⟩
      · refine ⟨noValid_of new (Or.inr ?_), st2Empty_of_noEffects none⟩
        simp [peIn, errBusy, ecc, busy]
      · exact absurd (st1.symm.trans valid) Bool.false_ne_true
    · rcases turn with ⟨_, defaults⟩ | ⟨_, new, ⟨_, none⟩ | ⟨_, decision⟩⟩
      · rw [defaults] at err
        contradiction
      · rw [none] at err
        contradiction
      · rcases decision.alone_of_err err with ⟨ecc, nop, noMiss, noFlush, noUpdt⟩
        exact ⟨ecc, (ctrlEmpty_iff _).mpr ⟨noValid_of new (Or.inl nop),
          st2Empty_step_iff.mpr ⟨noMiss, noUpdt, noFlush⟩⟩⟩

end Step

/-- Every state that the controller reaches is settled, whatever the other units do. -/
theorem settled_run (inputs : List (Open cfg)) : Settled ((machine cfg).run inputs) :=
  (machine cfg).run_invariant Settled (settled_reset cfg) (fun _ _ settled => settled.step) inputs

/-! ## The pipeline alone -/

/-- In a cycle in which the pipeline uses the arrays the directory is initialised, no line is
refilled or flushed, none is granted to be refilled or invalidated, stage 2 neither updates the
directory nor starts a flush, and the error handler rests; and it reads the directory only
while the CMO handler rests or waits. -/
structure Alone (state : State cfg) (ext : Ext cfg) (units : Units cfg) : Prop where
  running : ¬(peIn state ext units).Blocked
  noRefill : (pe state ext units).refillReqReady = false
  st2Empty : st2Empty state = true
  noErr : errBusy state = false
  cmoIdle : (pe state ext units).st0ReqCachedirRead = true →
    units.cmoBusy = false ∨ units.cmoWait = true

end Ctrl

end Cva6Hpd.Hpdcache

/-!
## What becomes of a request

In a cycle that is not stalled the request in stage 1 has one outcome. The exception is the miss
of a store that no coalesce buffer is free for: the line is fetched, and the store waits for it in
the replay table. A request that was popped from the replay table is freed there or put back,
unless the memories were read with an unrecoverable error under the write-back policy.
-/

namespace Cva6Hpd.Hpdcache

/-- What becomes of a request in stage 1. -/
inductive Outcome where
  | completes
  | uncached
  | cmo
  | miss
  | drops
  | holds
deriving DecidableEq

namespace Effects

variable {e : Effects} {i : PeIn}

/-- Who is asked to take the request. -/
def asks (e : Effects) : Outcome → Bool
  | .completes | .drops => false
  | .uncached => e.uc
  | .cmo => e.cmo
  | .miss => e.miss
  | .holds => e.hold || e.link

/-- The outcome of a decision. A request that goes on is not answered here. One that goes nowhere
is answered if it needs a response, and is dropped if it is a prefetch. -/
def Has (e : Effects) (i : PeIn) (outcome : Outcome) : Prop :=
  (e.asks outcome = true ∧ e.rsp = false) ∨
    ((∀ other, e.asks other = false) ∧ e.rsp = i.st1ReqNeedRsp ∧
      outcome = if i.st1ReqIsCmoPrefetch then .drops else .completes)

theorem existsUnique_of_silent (silent : ∀ other, e.asks other = false)
    (answers : e.rsp = i.st1ReqNeedRsp) : ∃! outcome, e.Has i outcome := by
  refine ⟨_, Or.inr ⟨silent, answers, rfl⟩, ?_⟩
  rintro other (⟨asked, _⟩ | ⟨_, _, same⟩)
  · rw [silent] at asked
    contradiction
  · exact same

theorem has_iff_of_asks (asks : ∃ outcome, e.asks outcome = true) (unanswered : e.rsp = false)
    (outcome : Outcome) : e.Has i outcome ↔ e.asks outcome = true := by
  constructor
  · rintro (⟨asked, _⟩ | ⟨silent, _⟩)
    · exact asked
    · rcases asks with ⟨other, asked⟩
      rw [silent] at asked
      contradiction
  · intro asked
    exact Or.inl ⟨asked, unanswered⟩

theorem existsUnique_of_asks {outcome : Outcome}
    (asks : ∀ other, e.asks other = true ↔ other = outcome) (unanswered : e.rsp = false) :
    ∃! outcome, e.Has i outcome := by
  have has := has_iff_of_asks (i := i) ⟨outcome, (asks outcome).mpr rfl⟩ unanswered
  refine ⟨outcome, (has outcome).mpr ((asks outcome).mpr rfl), ?_⟩
  intro other hasOther
  exact (asks other).mp ((has other).mp hasOther)

/-- The request has one outcome, or it is a store that misses and is put on hold besides, because
no coalesce buffer is free. -/
def Settles (e : Effects) (i : PeIn) : Prop :=
  (∃! outcome, e.Has i outcome) ∨
    (i.st1ReqIsStore = true ∧ i.st1MshrCbufFull = true ∧
      ∀ outcome, e.Has i outcome ↔ outcome = .miss ∨ outcome = .holds)

end Effects

namespace Stage1

variable {cfg : Cfg} {i : PeIn} {e : Effects}

theorem settles (decision : Stage1 cfg i e) : e.Settles i := by
  have silent {e : Effects} (asks : e.asks = fun _ => false)
      (answers : e.rsp = i.st1ReqNeedRsp) : e.Settles i :=
    Or.inl (Effects.existsUnique_of_silent (congrFun asks) answers)
  have asked {e : Effects} (outcome : Outcome)
      (asks : e.asks = fun other => decide (other = outcome)) (unanswered : e.rsp = false) :
      e.Settles i :=
    Or.inl (Effects.existsUnique_of_asks (fun other => by rw [asks, decide_eq_true_iff])
      unanswered)
  cases decision with
  | aborted | errored | eccError | served | servedUpdating | buffered =>
      apply silent
      · funext other
        cases other <;> rfl
      · rfl
  | linked | held | heldFlushing | eccHeld =>
      apply asked .holds
      · funext other
        cases other <;> rfl
      · rfl
  | cmoh =>
      apply asked .cmo
      · funext other
        cases other <;> rfl
      · rfl
  | uncached | uncachedInval | amoHit =>
      apply asked .uncached
      · funext other
        cases other <;> rfl
      · rfl
  | missed _ _ hold _ _ _ _ _ _ _ _ holds =>
      cases hold with
      | false =>
          apply asked .miss
          · funext other
            cases other <;> rfl
          · rfl
      | true =>
          refine Or.inr ⟨(holds rfl).1, (holds rfl).2, ?_⟩
          intro outcome
          rw [Effects.has_iff_of_asks ⟨.miss, rfl⟩ rfl]
          cases outcome <;> simp [Effects.asks, PeIn.noEffects]

/-- A request that is put in the table is not one for the CMO handler. -/
theorem notCmoh_of_stored (decision : Stage1 cfg i e) (stored : e.hold = true ∨ e.link = true) :
    i.isCmoh = false := by
  have absent (hold : e.hold = false) (link : e.link = false) : False := by
    rw [hold, link] at stored
    simp at stored
  cases decision.table with
  | done hold link => exact (absent hold link).elim
  | held _ _ _ _ executes => exact executes.notCmoh
  | linked _ _ _ _ check =>
      simp only [PeIn.rtabCheck, PeIn.st1Fence, Bool.and_eq_true, Bool.not_eq_true',
        Bool.or_eq_false_iff] at check
      simp [PeIn.isCmoh, check]
  | cmoh hold link => exact (absent hold link).elim
  | lost hold link => exact (absent hold link).elim

end Stage1

/-- A cacheable request finds an error in the memories that the write-back policy does not recover
from. -/
structure Unrecoverable (cfg : Cfg) (i : PeIn) : Prop where
  eccEn : cfg.eccEn = true
  wbEn : cfg.wbEn = true
  unc : i.st1DirErrUnc = true ∨ i.st1DatErrUncDirty = true
  noError : i.st1ReqIsError = false
  cacheable : i.st1ReqIsUncacheable = false

theorem Stage1.commits_or_holds {cfg : Cfg} {i : PeIn} {e : Effects} (decision : Stage1 cfg i e)
    (replayed : i.st1ReqRtab = true) (notCmoh : i.isCmoh = false)
    (recovers : ¬Unrecoverable cfg i) :
    e.link = false ∧ ((e.commit = true ∧ e.hold = false) ∨
      (e.commit = false ∧ e.hold = true ∧ e.nop = true)) := by
  cases decision with
  | errored | uncached | uncachedInval | amoHit | served | servedUpdating | buffered =>
      exact ⟨rfl, Or.inl ⟨replayed, rfl⟩⟩
  | held | heldFlushing | eccHeld => exact ⟨rfl, Or.inr ⟨rfl, rfl, rfl⟩⟩
  | missed _ _ hold =>
      cases hold with
      | false => exact ⟨rfl, Or.inl ⟨replayed, rfl⟩⟩
      | true => exact ⟨rfl, Or.inr ⟨rfl, rfl, rfl⟩⟩
  | aborted _ new =>
      rw [replayed] at new
      contradiction
  | linked check => simp [PeIn.rtabCheck, replayed] at check
  | cmoh cmoh =>
      rw [notCmoh] at cmoh
      contradiction
  | eccError executes ecc wb unc =>
      exact absurd ⟨ecc, wb, unc, executes.noError, executes.cacheable⟩ recovers

namespace Ctrl

open Cva6Hpd.Hw
open Cva6Hpd.Hpdcache.Memctrl (DirEntry)

variable {cfg : Cfg} {state : State cfg} {ext : Ext cfg} {units : Units cfg} {late : Late cfg}

@[simp]
theorem fromRtab_st1Req : (st1Req state ext).fromRtab = state.st1ReqQ.fromRtab := by
  rw [st1Req]
  split <;> rfl

@[simp]
theorem op_st1Req : (st1Req state ext).req.op = state.st1ReqQ.req.op := by
  rw [st1Req]
  split <;> rfl

theorem isCmoh_peIn : (peIn state ext units).isCmoh = state.st1ReqQ.req.op.isCmoh := by
  change (st1Req state ext).req.op.isCmoh = _
  rw [op_st1Req]

/-- No request for the CMO handler is in the replay table or comes from it. -/
structure NoCmoh (state : State cfg) : Prop where
  onHold : ∀ i, (state.rtab.reqQ i).req.req.op.isCmoh = false
  replayed : state.st1ReqQ.fromRtab = true → state.st1ReqQ.req.op.isCmoh = false

theorem noCmoh_reset (cfg : Cfg) : NoCmoh (reset cfg) where
  onHold := fun _ => rfl
  replayed := nofun

theorem NoCmoh.st0Req (noCmoh : NoCmoh state) (replayed : (st0Req state ext).fromRtab = true) :
    (Ctrl.st0Req state ext).req.op.isCmoh = false := by
  rw [Ctrl.st0Req] at replayed ⊢
  split_ifs at replayed ⊢
  · simp only [Rtab.popTryReq]
    split
    · exact noCmoh.onHold _
    · rfl
  · contradiction
  · contradiction

/-- An entry of the table changes only when the request in stage 1 is put there. -/
theorem reqQ_step (i : cfg.RtabPtr) :
    ((Ctrl.step state ext units late).rtab.reqQ i).req = (state.rtab.reqQ i).req ∨
      (((Ctrl.step state ext units late).rtab.reqQ i).req = st1Req state ext ∧
        ((pe state ext units).effects.hold = true ∨ (pe state ext units).effects.link = true)) := by
  by_cases stores : (Rtab.allocBv state.rtab (rtabInput state ext units late) i ||
      Rtab.popRbackBv (rtabInput state ext units late) i) = true
  · right
    refine ⟨congrArg Rtab.Entry.req (if_pos stores), ?_⟩
    by_contra quiet
    rw [not_or, Bool.not_eq_true, Bool.not_eq_true] at quiet
    have hold : (pe state ext units).rtabAlloc = false := quiet.1
    have link : (pe state ext units).rtabAllocAndLink = false := quiet.2
    simp [Rtab.allocBv, Rtab.popRbackBv, rtabInput, PeOut.st1RtabAlloc, PeOut.st1RtabRback, hold,
      link] at stores
  · exact Or.inl (congrArg Rtab.Entry.req (if_neg stores))

theorem NoCmoh.step (noCmoh : NoCmoh state) (settled : Settled state) :
    NoCmoh (Ctrl.step state ext units late) := by
  constructor
  · intro i
    rcases @reqQ_step cfg state ext units late i with same | ⟨request, stored⟩
    · rw [same]
      exact noCmoh.onHold i
    · rw [request, op_st1Req, ← @isCmoh_peIn cfg state ext units]
      have absent (effects : (pe state ext units).effects = (peIn state ext units).noEffects) :
          False := by
        rw [effects] at stored
        simp [PeIn.noEffects] at stored
      rcases pe_cases ext units settled.unscrubbed with ⟨_, defaults⟩ | ⟨_, _, idle | decides⟩
      · rw [defaults] at stored
        simp [PeOut.effects, peDefaults] at stored
      · exact (absent idle.2).elim
      · exact decides.2.notCmoh_of_stored stored
  · intro replayed
    simp only [Ctrl.step] at replayed ⊢
    split_ifs at replayed ⊢
    · exact noCmoh.st0Req replayed
    · exact noCmoh.replayed replayed

theorem noCmoh_run (inputs : List (Open cfg)) : NoCmoh ((machine cfg).run inputs) := by
  have both := (machine cfg).run_invariant (fun state => Settled state ∧ NoCmoh state)
    ⟨settled_reset cfg, noCmoh_reset cfg⟩
    (fun _ _ holds => ⟨holds.1.step, holds.2.step holds.1⟩) inputs
  exact both.2

/-! ### Stalled cycles and replayed requests -/

/-- The request stays in stage 1, and nothing is asked for it. -/
structure Waits (state : State cfg) (c : Open cfg) : Prop where
  stays : (Ctrl.step state c.ext c.units c.late).st1ReqValidQ = true
  same : (Ctrl.step state c.ext c.units c.late).st1ReqQ = state.st1ReqQ
  entry : (Ctrl.step state c.ext c.units c.late).st1RtabPopTryPtrQ = state.st1RtabPopTryPtrQ
  asks : ∀ outcome, (pe state c.ext c.units).effects.asks outcome = false
  unanswered : (pe state c.ext c.units).st1RspValid = false
  kept : (rtabInput state c.ext c.units c.late).popCommit = false ∧
    (rtabInput state c.ext c.units c.late).popRback = false

theorem Settled.waits_of_blocked {c : Open cfg} (settled : Settled state)
    (blocked : (peIn state c.ext c.units).Blocked) (valid : state.st1ReqValidQ = true) :
    Waits state c := by
  have defaults : pe state c.ext c.units = peDefaults (peIn state c.ext c.units) :=
    hpdcacheCtrlComb_of_blocked cfg _ blocked
  constructor
  · exact (congrArg PeOut.st1ReqValid defaults).trans valid
  · simp [Ctrl.step, defaults, peDefaults]
  · simp [Ctrl.step, defaults, peDefaults]
  · rcases (st2Empty_iff state).mp (settled.alone valid) with ⟨noMiss, noUpdt, noFlush⟩
    rw [defaults, effects_peDefaults ⟨noMiss, noFlush, noUpdt⟩]
    intro outcome
    cases outcome <;> rfl
  · rw [defaults]
    rfl
  · simp [rtabInput, defaults, peDefaults, PeOut.st1RtabRback]

/-- The popped entry is freed, or it is a head of the table again. -/
def Returns (state : State cfg) (c : Open cfg) : Prop :=
  let input := rtabInput state c.ext c.units c.late
  let next := (Ctrl.step state c.ext c.units c.late).rtab
  (input.popCommit = true ∧ input.popRback = false ∧
      next.validQ state.st1RtabPopTryPtrQ = false) ∨
    (input.popCommit = false ∧ input.popRback = true ∧
      next.headQ state.st1RtabPopTryPtrQ = true)

theorem returns_of_decision {c : Open cfg}
    (new : NewReq cfg (peIn state c.ext c.units) (pe state c.ext c.units))
    (decision : Stage1 cfg (peIn state c.ext c.units) (pe state c.ext c.units).effects)
    (replayed : state.st1ReqQ.fromRtab = true) (notCmoh : state.st1ReqQ.req.op.isCmoh = false)
    (recovers : ¬Unrecoverable cfg (peIn state c.ext c.units)) : Returns state c := by
  have rtab : (peIn state c.ext c.units).st1ReqRtab = true := fromRtab_st1Req.trans replayed
  rcases decision.commits_or_holds rtab (isCmoh_peIn.trans notCmoh) recovers with
    ⟨link, ⟨commit, hold⟩ | ⟨commit, hold, nop⟩⟩
  · have noLink : (pe state c.ext c.units).rtabAllocAndLink = false := link
    have noHold : (pe state c.ext c.units).rtabAlloc = false := hold
    have commits : (pe state c.ext c.units).rtabCommit = true := commit
    refine Or.inl ⟨commits, by simp [rtabInput, PeOut.st1RtabRback, noHold], ?_⟩
    simp [Ctrl.step, Rtab.step, Rtab.allocBv, Rtab.popCommitBv, Rtab.setReset, rtabInput,
      PeOut.st1RtabAlloc, noLink, noHold, commits]
  · have noLink : (pe state c.ext c.units).rtabAllocAndLink = false := link
    have holds : (pe state c.ext c.units).rtabAlloc = true := hold
    have bubble : (pe state c.ext c.units).st1Nop = true := nop
    have noPop : (pe state c.ext c.units).rtabReqReady = false := by
      simp [new.rtab, rtabReqReady, bubble]
    refine Or.inr ⟨commit, by simp [rtabInput, PeOut.st1RtabRback, holds, rtab], ?_⟩
    simp [Ctrl.step, Rtab.step, Rtab.popRbackBv, Rtab.popTryBv, Rtab.setReset, rtabInput,
      PeOut.st1RtabAlloc, PeOut.st1RtabRback, noLink, holds, noPop, rtab]

/-- Whatever the other units do, a request in stage 1 waits in a stalled cycle; in any other cycle
it has one outcome, or is a store that misses and is put on hold besides, and if it was popped from
the replay table its entry is freed or put back. -/
theorem stage1_outcome (inputs : List (Open cfg)) (c : Open cfg)
    (valid : ((machine cfg).run inputs).st1ReqValidQ = true) :
    let state := (machine cfg).run inputs
    let i := peIn state c.ext c.units
    (i.Blocked → Waits state c) ∧
      (¬i.Blocked → (pe state c.ext c.units).effects.Settles i ∧
        (state.st1ReqQ.fromRtab = true → ¬Unrecoverable cfg i → Returns state c)) := by
  intro state i
  have settled : Settled state := settled_run inputs
  have noCmoh : NoCmoh state := noCmoh_run inputs
  refine ⟨fun blocked => settled.waits_of_blocked blocked valid, ?_⟩
  intro running
  rcases pe_cases c.ext c.units settled.unscrubbed with
    ⟨blocked, _⟩ | ⟨_, new, ⟨empty, _⟩ | ⟨_, decision⟩⟩
  · exact absurd blocked running
  · exact absurd (empty.symm.trans valid) Bool.false_ne_true
  · refine ⟨decision.settles, ?_⟩
    intro replayed recovers
    exact returns_of_decision new decision replayed (noCmoh.replayed replayed) recovers

/-- A store of the write-back policy that misses, when no coalesce buffer is free. -/
def storeMiss (refillBusy : Bool) : Open Cfg.small where
  ext := {
    coreReqValid := true
    coreReq := { (Req.zero : Req Cfg.small) with
      op := .store
      needRsp := true
      physIndexed := true
      pma := { uncacheable := false, wrPolicyHint := .wb } }
    coreReqAbort := false
    coreReqTag := 0
    coreReqPma := (Req.zero : Req Cfg.small).pma
    scrubReqValid := false
    scrubReqSet := 0
    cfgEnable := true
    cfgPrefetchUpdtPlru := false
    cfgRtabSingleEntry := false
    cfgDefaultWb := false
    dirErrCor := Bits.zero
    dirErrUnc := Bits.zero
    datErrCor := Bits.zero
    datErrUnc := Bits.zero
    rdWrConflict := false }
  units := {
    initReady := true
    dirHitWay := Bits.zero
    dirHitTag := 0
    dirHitWback := false
    dirHitDirty := false
    dirHitFetch := false
    dirVictimWay := Bits.single 0
    dirVictimTag := 0
    dirVictimValid := false
    dirVictimWback := false
    dirVictimDirty := false
    dirErrValid := Bits.zero
    dirErrDirty := Bits.zero
    mshrAllocReady := true
    mshrHit := false
    mshrFull := false
    mshrCbufFull := true
    mshrEmpty := false
    refillReqValid := false
    refillBusy := refillBusy
    wbufWriteReady := true
    wbufReadHit := false
    wbufEmpty := true
    flushBusy := false
    flushCheckHit := false
    flushAllocReady := true
    flushEmpty := true
    ucBusy := false
    cmoBusy := false
    cmoWait := false }
  late := {
    refillUpdtRtab := false
    refillIsError := false
    refillNline := 0
    refillWay := Bits.zero
    refillWriteDir := false
    refillSet := 0
    refillDirEntry := DirEntry.zero
    wbufRtabHitOpen := false
    wbufRtabHitPend := false
    wbufRtabHitSent := false
    wbufRtabNotReady := false
    flushAck := false
    flushAckNline := 0
    cmoFlushAll := false
    cmoInvalAll := false
    dirErrRdata := DirEntry.zero }

/-- The store has two outcomes, and none while a line is being refilled. -/
theorem two_outcomes :
    let state := (machine Cfg.small).run [storeMiss false]
    let has (c : Open Cfg.small) (outcome : Outcome) : Prop :=
      (pe state c.ext c.units).effects.Has (peIn state c.ext c.units) outcome
    state.st1ReqValidQ = true ∧
      (st1ReqAbort state (storeMiss false).ext = false ∧ has (storeMiss false) .miss ∧
        has (storeMiss false) .holds) ∧
      (st1ReqAbort state (storeMiss true).ext = false ∧
        ∀ outcome, ¬has (storeMiss true) outcome) := by
  refine ⟨rfl, ⟨rfl, Or.inl ⟨rfl, rfl⟩, Or.inl ⟨rfl, rfl⟩⟩, rfl, ?_⟩
  rintro outcome (⟨asked, _⟩ | ⟨_, answered, _⟩)
  · cases outcome <;> contradiction
  · contradiction

/-- The store is on hold until its line is refilled, and is then replayed and put back. -/
theorem stage1_outcome_replayed :
    let refilled := { storeMiss false with
      late := { (storeMiss false).late with refillUpdtRtab := true } }
    Returns ((machine Cfg.small).run [storeMiss false, storeMiss false, refilled, storeMiss false])
      (storeMiss false) := by
  intro refilled
  apply ((stage1_outcome [storeMiss false, storeMiss false, refilled, storeMiss false]
    (storeMiss false) rfl).2 _).2
  · rfl
  · rintro ⟨ecc, _⟩
    contradiction
  · rintro (init | refill | flush) <;> contradiction

end Ctrl

end Cva6Hpd.Hpdcache
