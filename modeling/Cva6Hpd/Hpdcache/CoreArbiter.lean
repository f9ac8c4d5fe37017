import Cva6Hpd.Common.Arbiter
import Cva6Hpd.Hpdcache.Top

/-!
# The core arbiter

`hpdcache_core_arbiter` in front of the cache: it grants one requester by fixed
priority, holds the grant while the cache is not ready, and in the next cycle passes
the tag, the attributes and the abort of the requester that was granted. A response
goes to the requester that its source identifier names.
-/

namespace Cva6Hpd.Hpdcache.CoreArbiter

open Cva6Hpd.Hw
open Cva6Hpd.Common

variable {n : Nat} {cfg : Cfg}

/-! ## The arbiter and the cache -/

structure State (n : Nat) (cfg : Cfg) where
  reqArbiter : Arbiter n
  arbReqGntQ : Bits n
  top : Top.State cfg

/-- The requests, the second cycles of the requesters, and the other inputs of the
cache. -/
structure Input (n : Nat) (cfg : Cfg) where
  coreReqValid : Bits n
  coreReq : Fin n → Req cfg
  coreReqAbort : Bits n
  coreReqTag : Fin n → Nat
  coreReqPma : Fin n → Pma
  top : Top.Input cfg

section Signals

variable (s : State n cfg) (i : Input n cfg)

def arbReqGntD : Bits n := Fxarb.gnt s.reqArbiter i.coreReqValid

def arbReqValid : Bool := (arbReqGntD s i).any

variable [NeZero n]

def arbReq : Req cfg := muxOneHot Req.zero (arbReqGntD s i) i.coreReq

def arbAbort : Bool := muxOneHot false s.arbReqGntQ i.coreReqAbort

def arbTag : Nat := muxOneHot 0 s.arbReqGntQ i.coreReqTag

def arbPma : Pma := muxOneHot (Req.zero : Req cfg).pma s.arbReqGntQ i.coreReqPma

/-- The inputs of the cache behind the arbiter. -/
def topInput : Top.Input cfg :=
  { i.top with
    ctrl := { i.top.ctrl with
      coreReqValid := arbReqValid s i
      coreReq := arbReq s i
      coreReqAbort := arbAbort s i
      coreReqTag := arbTag s i
      coreReqPma := arbPma s i } }

/-- The cache accepts the request of the arbiter. -/
def arbReqReady : Bool := (Top.pe s.top (topInput s i)).coreReqReady

/-- `core_req_ready_o`. -/
def coreReqReady : Bits n := fun k => arbReqGntD s i k && arbReqReady s i

def step : State n cfg where
  reqArbiter := Fxarb.step s.reqArbiter i.coreReqValid (arbReqReady s i)
  arbReqGntQ := arbReqGntD s i
  top := Top.step s.top (topInput s i)

end Signals

/-- `core_rsp_valid_o`: the requester that the source identifier names. -/
def coreRspValid (n : Nat) (valid : Bool) (sid : Nat) : Bits n := fun k =>
  valid && decide (k.val = sid)

def reset (n : Nat) (powerUp : Top.PowerUp cfg) : State n cfg where
  reqArbiter := Fxarb.reset
  arbReqGntQ := Bits.zero
  top := Top.reset powerUp

/-- The arbiter and the cache as a synchronous machine. -/
def machine (n : Nat) [NeZero n] (powerUp : Top.PowerUp cfg) :
    Machine (State n cfg) (Input n cfg) where
  reset := reset n powerUp
  step s i := step s i

/-! ## The request of a requester in stage 1 -/

/-- A virtually indexed request with the tag and the attributes of its second
cycle. -/
def secondCycle (req : Req cfg) (tag : Nat) (pma : Pma) : ReqX cfg :=
  { (ReqX.zero : ReqX cfg) with req := { req with addrTag := tag, pma := pma } }

theorem accepted_of_core {p : PeIn} (core : (hpdcacheCtrlComb cfg p).coreReqReady = true) :
    p.coreReqValid = true ∧ p.scrubReqValid = false ∧ p.rtabReqValid = false ∧
      (hpdcacheCtrlComb cfg p).st1ReqValid = true := by
  rw [hpdcacheCtrlComb] at core ⊢
  by_cases stalled : (!p.cachedirInitReady || p.refillBusy || p.flushBusy) = true
  · rw [if_pos stalled] at core
    contradiction
  · rw [if_neg stalled] at core ⊢
    have granted := core
    simp only [peNewReq, Hpdcache.coreReqReady, newReqFree, Bool.and_eq_true,
      Bool.not_eq_true'] at granted
    refine ⟨granted.1.1, granted.1.2, granted.2.1.1.1.1.1.1.1, ?_⟩
    simp only [peNewReq] at core ⊢
    rw [core, Bool.true_or]

section Cycle

variable [NeZero n] {s : State n cfg} {i : Input n cfg}

theorem granted_of_ready (arb : s.reqArbiter.gntQ.AtMostOne)
    (accepts : arbReqReady s i = true) :
    ∃ k, arbReqGntD s i = Bits.single k ∧ coreReqReady s i = Bits.single k := by
  have valid : (arbReqGntD s i).any = true := (accepted_of_core accepts).1
  obtain ⟨k, granted⟩ := (Bits.any_eq_true_iff _).mp valid
  have alone : arbReqGntD s i = Bits.single k :=
    Bits.oneHot_of_atMostOne (Fxarb.gnt_atMostOne arb _) granted
  refine ⟨k, alone, ?_⟩
  funext j
  rw [coreReqReady, accepts, Bool.and_true, alone]

theorem st1ReqQ_of_accepted {k : Fin n} (accepts : arbReqReady s i = true)
    (granted : arbReqGntD s i = Bits.single k) :
    (step s i).top.ctrl.st1ReqValidQ = true ∧
      (step s i).top.ctrl.st1ReqQ =
        { (ReqX.zero : ReqX cfg) with
          req := { i.coreReq k with
            pma := Ctrl.forcePma cfg i.top.ctrl.cfgEnable (i.coreReq k).pma } } := by
  rcases accepted_of_core accepts with ⟨-, noScrub, noReplay, valid⟩
  have request : arbReq s i = i.coreReq k := by
    rw [arbReq, granted, muxOneHot_single]
  have stored : (step s i).top.ctrl.st1ReqQ =
      Ctrl.st0Req s.top.ctrl (topInput s i).ctrl :=
    if_pos (Bool.or_eq_true_iff.mpr (.inl accepts))
  have replay : Rtab.popTryValid s.top.ctrl.rtab = false := noReplay
  have scrub : Ctrl.scrubReqValid (topInput s i).ctrl = false := noScrub
  refine ⟨valid, ?_⟩
  rw [stored, Ctrl.st0Req, replay, scrub, ← request]
  rfl

theorem paired_of_accepted {k : Fin n} (accepts : arbReqReady s i = true)
    (granted : arbReqGntD s i = Bits.single k) (virtual : (i.coreReq k).physIndexed = false)
    (next : Input n cfg) :
    let ctrl := (step s i).top.ctrl
    let ext := (topInput (step s i) next).ctrl
    Ctrl.st1Req ctrl ext =
        secondCycle (i.coreReq k) (next.coreReqTag k)
          (Ctrl.forcePma cfg next.top.ctrl.cfgEnable (next.coreReqPma k)) ∧
      Ctrl.st1ReqAbort ctrl ext = next.coreReqAbort k := by
  intro ctrl ext
  have stored : ctrl.st1ReqQ = _ := (st1ReqQ_of_accepted accepts granted).2
  have selected : (step s i).arbReqGntQ = Bits.single k := granted
  have tag : ext.coreReqTag = next.coreReqTag k := by
    change muxOneHot 0 (step s i).arbReqGntQ next.coreReqTag = _
    rw [selected, muxOneHot_single]
  have pma : ext.coreReqPma = next.coreReqPma k := by
    change muxOneHot _ (step s i).arbReqGntQ next.coreReqPma = _
    rw [selected, muxOneHot_single]
  have abort : ext.coreReqAbort = next.coreReqAbort k := by
    change muxOneHot false (step s i).arbReqGntQ next.coreReqAbort = _
    rw [selected, muxOneHot_single]
  have request : Ctrl.st1Req ctrl ext =
      secondCycle (i.coreReq k) (next.coreReqTag k)
        (Ctrl.forcePma cfg next.top.ctrl.cfgEnable (next.coreReqPma k)) := by
    rw [Ctrl.st1Req, Ctrl.st1ReqTag, Ctrl.st1ReqPma, stored, tag, pma]
    simp only [ReqX.zero, secondCycle, virtual, Bool.false_eq_true, if_false]
    rfl
  refine ⟨request, ?_⟩
  rw [Ctrl.st1ReqAbort, request, abort]
  simp [secondCycle, virtual]

end Cycle

/-! ## Runs -/

/-- In every run, when the cache accepts a request, one requester alone is told so; a
virtually indexed request is in stage 1 in the next cycle, with the tag, the
attributes and the abort that this requester presents then. A response goes to the
requester that its source identifier names and to no other. -/
theorem tagPairing_run [NeZero n] (powerUp : Top.PowerUp cfg) (inputs : List (Input n cfg))
    (i : Input n cfg) (accepts : arbReqReady ((machine n powerUp).run inputs) i = true) :
    (∃ k, (∀ j, coreReqReady ((machine n powerUp).run inputs) i j = true ↔ j = k) ∧
      let s := (machine n powerUp).run (inputs ++ [i])
      s.top.ctrl.st1ReqValidQ = true ∧
        ((i.coreReq k).physIndexed = false → ∀ next : Input n cfg,
          Ctrl.st1Req s.top.ctrl (topInput s next).ctrl =
              secondCycle (i.coreReq k) (next.coreReqTag k)
                (Ctrl.forcePma cfg next.top.ctrl.cfgEnable (next.coreReqPma k)) ∧
            Ctrl.st1ReqAbort s.top.ctrl (topInput s next).ctrl = next.coreReqAbort k)) ∧
      ∀ valid sid k, coreRspValid n valid sid k = true ↔ valid = true ∧ k.val = sid := by
  have arb : ((machine n powerUp).run inputs).reqArbiter.gntQ.AtMostOne :=
    (machine n powerUp).run_invariant (fun s => s.reqArbiter.gntQ.AtMostOne)
      Fxarb.gntQ_atMostOne_reset (fun _ _ held => Fxarb.gntQ_atMostOne_step held _ _) inputs
  obtain ⟨k, granted, told⟩ := granted_of_ready arb accepts
  refine ⟨⟨k, fun j => ?_, ?_⟩, fun valid sid k => ?_⟩
  · rw [told, Bits.single_eq_true_iff]
  · rw [Machine.run_concat]
    exact ⟨(st1ReqQ_of_accepted accepts granted).1,
      fun virtual next => paired_of_accepted accepts granted virtual next⟩
  · rw [coreRspValid, Bool.and_eq_true, decide_eq_true_eq]

/-- An idle cycle of the small cache, for two requesters of which those in `valid`
request. -/
def request (valid : Bits 2) : Input 2 Cfg.small where
  coreReqValid := valid
  coreReq := fun k => { (Req.zero : Req Cfg.small) with sid := k.val }
  coreReqAbort := Bits.zero
  coreReqTag := fun k => k.val
  coreReqPma := fun _ => (Req.zero : Req Cfg.small).pma
  top := {
    ctrl := {
      coreReqValid := false
      coreReq := Req.zero
      coreReqAbort := false
      coreReqTag := 0
      coreReqPma := (Req.zero : Req Cfg.small).pma
      scrubReqValid := false
      scrubReqSet := 0
      cfgEnable := true
      cfgPrefetchUpdtPlru := false
      cfgRtabSingleEntry := false
      cfgDefaultWb := false
      dirErrCor := Bits.zero
      dirErrUnc := Bits.zero
      datErrCor := Bits.zero
      datErrUnc := Bits.zero
      rdWrConflict := false }
    ucBusy := false
    ucWbufFlushAll := false
    wbufFlush := false
    cfgWbufThreshold := 0
    cfgWbufResetTimecntOnWrite := false
    cfgWbufSequentialWaw := false
    cfgWbufInhibitWriteCoalescing := false
    wbufReqReady := false
    wbufDataReady := false
    wbufRespValid := false
    wbufRespId := 0
    memReadReady := false
    memRespValid := false
    memRespId := 0
    memRespError := false
    memRespLast := false
    memRespInval := false
    memRespInvalNline := 0
    refillDataWok := true
    flushResizerWok := true
    flushReqReady := false
    flushDataPop := 0
    flushRespValid := false
    flushRespEntry := 0 }

/-- Cleared memories. -/
def cleared : Top.PowerUp Cfg.small where
  dir := { mem := fun _ _ => Memctrl.DirEntry.zero, rdata := fun _ => Memctrl.DirEntry.zero }
  mshr :=
    let entry : Mshr.Entry Cfg.small :=
      { tag := 0, reqId := 0, srcId := 0, wordIdx := 0, victimWayIdx := 0, wback := false
        dirty := false, needRsp := false, isPrefetch := false, cbufId := 0 }
    { mem := fun _ _ => entry, rdata := fun _ => entry }

/-- The second requester waits for the initialization of the directory, and is then
accepted before the first one. -/
theorem tagPairing_second :
    ∃ k, ∀ j, coreReqReady
      ((machine 2 cleared).run [request (Bits.single 1), request (fun _ => true)])
      (request fun _ => true) j = true ↔ j = k := by
  obtain ⟨⟨k, told, -⟩, -⟩ := tagPairing_run cleared
    [request (Bits.single 1), request (fun _ => true)] (request fun _ => true)
    (by decide +kernel)
  exact ⟨k, told⟩

end Cva6Hpd.Hpdcache.CoreArbiter
