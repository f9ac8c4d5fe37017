import Cva6Hpd.Hpdcache.CtrlPe
import Cva6Hpd.Hpdcache.Memctrl
import Cva6Hpd.Hpdcache.Rtab.Core

/-!
# The cache controller

`hpdcache_ctrl`: stage 0 selects a replayed request, a scrubbing request or a
new one; stage 1 holds the selected request while the protocol engine decides
on it; stage 2 holds what a miss, a flush or an update of the directory needs
in the next cycle. The error handler walks the ways of a set in which an error
was found. The signals of the other units are inputs here. The scrubber state
machine and the data path are left out.
-/

namespace Cva6Hpd.Hpdcache.Ctrl

open Cva6Hpd.Hw
open Cva6Hpd.Common
open Cva6Hpd.Hpdcache.Memctrl (DirEntry)

/-- `hpdcache_err_fsm_t`. -/
inductive ErrFsm where
  | errIdle
  | errCheck
  | errWaitMshr
  | errInval
  | errLatch
  | errCorrect
deriving DecidableEq, Repr

/-- The registers of the controller and its replay table. -/
structure State (cfg : Cfg) where
  st1ReqValidQ : Bool
  st1ReqQ : ReqX cfg
  st1RtabPopTryPtrQ : cfg.RtabPtr
  st2MshrAllocQ : Bool
  st2MshrAllocIsPrefetchQ : Bool
  st2MshrAllocWbackQ : Bool
  st2MshrAllocDirtyQ : Bool
  st2MshrAllocNeedRspQ : Bool
  st2MshrAllocNlineQ : Nat
  st2MshrAllocWordQ : Nat
  st2MshrAllocSidQ : Nat
  st2MshrAllocTidQ : Nat
  st2MshrAllocWdataQ : cfg.wbuf.Data
  st2MshrAllocBeQ : cfg.wbuf.Be
  st2MshrAllocVictimWayQ : cfg.WayVector
  st2FlushAllocQ : Bool
  st2FlushAllocNlineQ : Nat
  st2FlushAllocWayQ : cfg.WayVector
  st2DirUpdtQ : Bool
  st2DirUpdtSetQ : cfg.Set
  st2DirUpdtWayQ : cfg.WayVector
  st2DirUpdtTagQ : Nat
  st2DirUpdtValidQ : Bool
  st2DirUpdtWbackQ : Bool
  st2DirUpdtDirtyQ : Bool
  st2DirUpdtFetchQ : Bool
  errFsmQ : ErrFsm
  errSetQ : cfg.Set
  errWayQ : cfg.WayVector
  errDirUncQ : cfg.WayVector
  errDirCorQ : cfg.WayVector
  errDatUncQ : cfg.WayVector
  errDatCorQ : cfg.WayVector
  errDirRdataQ : DirEntry
  cmoDirtySetEnQ : Bool
  cmoDirtyMinSetQ : cfg.Set
  cmoDirtyMaxSetQ : cfg.Set
  cmoValidSetEnQ : Bool
  cmoValidMinSetQ : cfg.Set
  cmoValidMaxSetQ : cfg.Set
  rtab : Rtab.State cfg

/-- The inputs from outside of the cache in one cycle: the requesters, the
configuration, the scrubber, and the errors and conflicts of the memories. -/
structure Ext (cfg : Cfg) where
  coreReqValid : Bool
  coreReq : Req cfg
  coreReqAbort : Bool
  coreReqTag : Nat
  coreReqPma : Pma
  scrubReqValid : Bool
  scrubReqSet : cfg.Set
  cfgEnable : Bool
  cfgPrefetchUpdtPlru : Bool
  cfgRtabSingleEntry : Bool
  cfgDefaultWb : Bool
  dirErrCor : cfg.WayVector
  dirErrUnc : cfg.WayVector
  datErrCor : cfg.WayVector
  datErrUnc : cfg.WayVector
  rdWrConflict : Bool

/-- The signals of the other units that the protocol engine reads. -/
structure Units (cfg : Cfg) where
  initReady : Bool
  dirHitWay : cfg.WayVector
  dirHitTag : Nat
  dirHitWback : Bool
  dirHitDirty : Bool
  dirHitFetch : Bool
  dirVictimWay : cfg.WayVector
  dirVictimTag : Nat
  dirVictimValid : Bool
  dirVictimWback : Bool
  dirVictimDirty : Bool
  dirErrValid : cfg.WayVector
  dirErrDirty : cfg.WayVector
  mshrAllocReady : Bool
  mshrHit : Bool
  mshrFull : Bool
  mshrCbufFull : Bool
  mshrEmpty : Bool
  refillReqValid : Bool
  refillBusy : Bool
  wbufWriteReady : Bool
  wbufReadHit : Bool
  wbufEmpty : Bool
  flushBusy : Bool
  flushCheckHit : Bool
  flushAllocReady : Bool
  flushEmpty : Bool
  ucBusy : Bool
  cmoBusy : Bool
  cmoWait : Bool

/-- The signals of the other units that only the registers read. -/
structure Late (cfg : Cfg) where
  refillUpdtRtab : Bool
  refillIsError : Bool
  refillNline : Nat
  refillWay : cfg.WayVector
  refillWriteDir : Bool
  refillSet : cfg.Set
  refillDirEntry : DirEntry
  wbufRtabHitOpen : Bool
  wbufRtabHitPend : Bool
  wbufRtabHitSent : Bool
  wbufRtabNotReady : Bool
  flushAck : Bool
  flushAckNline : Nat
  cmoFlushAll : Bool
  cmoInvalAll : Bool
  dirErrRdata : DirEntry

def reset (cfg : Cfg) : State cfg where
  st1ReqValidQ := false
  st1ReqQ := ReqX.zero
  st1RtabPopTryPtrQ := 0
  st2MshrAllocQ := false
  st2MshrAllocIsPrefetchQ := false
  st2MshrAllocWbackQ := false
  st2MshrAllocDirtyQ := false
  st2MshrAllocNeedRspQ := false
  st2MshrAllocNlineQ := 0
  st2MshrAllocWordQ := 0
  st2MshrAllocSidQ := 0
  st2MshrAllocTidQ := 0
  st2MshrAllocWdataQ := fun _ => 0
  st2MshrAllocBeQ := Bits.zero
  st2MshrAllocVictimWayQ := Bits.zero
  st2FlushAllocQ := false
  st2FlushAllocNlineQ := 0
  st2FlushAllocWayQ := Bits.zero
  st2DirUpdtQ := false
  st2DirUpdtSetQ := 0
  st2DirUpdtWayQ := Bits.zero
  st2DirUpdtTagQ := 0
  st2DirUpdtValidQ := false
  st2DirUpdtWbackQ := false
  st2DirUpdtDirtyQ := false
  st2DirUpdtFetchQ := false
  errFsmQ := .errIdle
  errSetQ := 0
  errWayQ := Bits.zero
  errDirUncQ := Bits.zero
  errDirCorQ := Bits.zero
  errDatUncQ := Bits.zero
  errDatCorQ := Bits.zero
  errDirRdataQ := DirEntry.zero
  cmoDirtySetEnQ := false
  cmoDirtyMinSetQ := 0
  cmoDirtyMaxSetQ := 0
  cmoValidSetEnQ := false
  cmoValidMinSetQ := 0
  cmoValidMaxSetQ := 0
  rtab := Rtab.reset cfg

section Requests

variable {cfg : Cfg} (state : State cfg) (ext : Ext cfg)

/-! ## Stage 0 -/

/-- The attributes that the configuration forces: uncacheable when the cache is
disabled, the only write policy when there is one. -/
def forcePma (cfg : Cfg) (cfgEnable : Bool) (pma : Pma) : Pma where
  uncacheable := pma.uncacheable || !cfgEnable
  wrPolicyHint :=
    if !cfg.wbEn then .wt else if !cfg.wtEn then .wb else pma.wrPolicyHint

/-- The request of the scrubber. -/
def scrubReq : ReqX cfg :=
  { (ReqX.zero : ReqX cfg) with
    req := { (Req.zero : Req cfg) with
      addrSet := ext.scrubReqSet
      op := .load
      physIndexed := true }
    errScrubbing := true }

def scrubReqValid : Bool := cfg.eccScrubberEn && ext.scrubReqValid

/-- `st0_req`: a replayed request, a scrubbing request or a new request. -/
def st0Req : ReqX cfg :=
  if Rtab.popTryValid state.rtab then
    let popped := (Rtab.popTryReq state.rtab).req
    { popped with
      req := { popped.req with physIndexed := true }
      fromRtab := true }
  else if scrubReqValid ext then scrubReq ext
  else
    { (ReqX.zero : ReqX cfg) with
      req := { ext.coreReq with pma := forcePma cfg ext.cfgEnable ext.coreReq.pma } }

/-- `st0_req_is_partial`, `st1_req_is_partial`. -/
def isPartial (req : Req cfg) : Bool := decide (req.size < Nat.clog 2 cfg.wordBytes)

/-! ## Stage 1 -/

/-- `st1_req_pma`: a virtually indexed request brings its attributes in stage 1. -/
def st1ReqPma : Pma :=
  forcePma cfg ext.cfgEnable
    (if state.st1ReqQ.req.physIndexed then state.st1ReqQ.req.pma else ext.coreReqPma)

/-- `st1_req_tag`. -/
def st1ReqTag : Nat :=
  if state.st1ReqQ.req.physIndexed then state.st1ReqQ.req.addrTag else ext.coreReqTag

/-- `st1_req`. -/
def st1Req : ReqX cfg :=
  if state.st1ReqQ.fromRtab then state.st1ReqQ
  else
    { state.st1ReqQ with
      req := { state.st1ReqQ.req with
        addrTag := st1ReqTag state ext
        pma := st1ReqPma state ext } }

def st1ReqAbort : Bool := ext.coreReqAbort && !(st1Req state ext).req.physIndexed

def st1ReqIsUncacheable : Bool := !ext.cfgEnable || (st1Req state ext).req.pma.uncacheable

def st1ReqSet : cfg.Set := (st1Req state ext).req.addrSet

def st1ReqNline : Nat := (st1Req state ext).req.nline

/-! ## Emptiness -/

def st1Empty : Bool := !state.st1ReqValidQ

def st2Empty : Bool :=
  !(state.st2MshrAllocQ || state.st2DirUpdtQ || state.st2FlushAllocQ)

/-- `ctrl_empty_o`. -/
def ctrlEmpty : Bool := st1Empty state && st2Empty state

/-! ## Error handler -/

/-- `err_busy`. -/
def errBusy : Bool := cfg.eccEn && decide (state.errFsmQ ≠ .errIdle)

/-- `err_wait`. -/
def errWait : Bool := cfg.eccEn && decide (state.errFsmQ = .errWaitMshr)

/-- The error vector is set for the way under examination. -/
def errMsk (err : cfg.WayVector) : Bool := Bits.any fun w => err w && state.errWayQ w

/-- Some way has an uncorrectable error. -/
def errUnc : Bool := Bits.any fun w => state.errDirUncQ w || state.errDatUncQ w

def errLastWay : Bool := state.errWayQ (Fin.ofNat cfg.ways (cfg.ways - 1))

/-- `err_way_next`. -/
def errWayNext : cfg.WayVector :=
  if cfg.ways = 1 then fun _ => true
  else fun w => decide (w ≠ 0) && state.errWayQ (w - 1)

def errDirRead : Bool :=
  cfg.eccEn && decide (state.errFsmQ = .errCheck) &&
    !(errMsk state state.errDirUncQ || errMsk state state.errDatUncQ) &&
    errMsk state state.errDirCorQ

def errDirWrite : Bool :=
  cfg.eccEn &&
    (decide (state.errFsmQ = .errInval) ||
      (decide (state.errFsmQ = .errCorrect) && errMsk state state.errDirCorQ))

/-- `err_dir_wdata`. -/
def errDirWdata : DirEntry :=
  if state.errFsmQ = .errCorrect then state.errDirRdataQ else DirEntry.zero

/-- The next way, or the end of the walk. -/
def errNext : ErrFsm × cfg.WayVector :=
  if errLastWay state then
    (if errUnc state then .errWaitMshr else .errIdle, state.errWayQ)
  else
    (.errCheck, errWayNext state)

/-- `err_fsm_d` and `err_way_d`. -/
def errFsmD (trigger mshrEmpty : Bool) : ErrFsm × cfg.WayVector :=
  match state.errFsmQ with
  | .errIdle => if trigger then (.errCheck, Bits.single 0) else (.errIdle, state.errWayQ)
  | .errCheck =>
      if errMsk state state.errDirUncQ || errMsk state state.errDatUncQ then
        (.errInval, state.errWayQ)
      else if errMsk state state.errDirCorQ || errMsk state state.errDatCorQ then
        (.errLatch, state.errWayQ)
      else errNext state
  | .errWaitMshr => (if mshrEmpty then .errIdle else .errWaitMshr, state.errWayQ)
  | .errInval => errNext state
  | .errLatch => (.errCorrect, state.errWayQ)
  | .errCorrect => errNext state

end Requests

section Step

variable {cfg : Cfg} (state : State cfg) (ext : Ext cfg) (units : Units cfg)

/-- `cfg_default_wb`. -/
def cfgDefaultWb : Bool := cfg.wbEn && (!cfg.wtEn || ext.cfgDefaultWb)

/-- `st1_no_pend_trans`. -/
def st1NoPendTrans : Bool :=
  st2Empty state && Rtab.empty state.rtab && units.wbufEmpty && units.mshrEmpty &&
    units.flushEmpty

/-- `rtab_no_pend_trans`. -/
def rtabNoPendTrans : Bool :=
  ctrlEmpty state && units.wbufEmpty && units.mshrEmpty && units.flushEmpty

/-- `st1_dat_err_unc_dirty`. -/
def datErrUncDirty : cfg.WayVector := fun w =>
  units.dirErrValid w && units.dirErrDirty w && ext.datErrUnc w

/-- The inputs of the protocol engine. -/
def peIn : PeIn :=
  let st0 := st0Req state ext
  let st1 := st1Req state ext
  { coreReqValid := ext.coreReqValid
    scrubReqValid := scrubReqValid ext
    rtabReqValid := Rtab.popTryValid state.rtab
    refillReqValid := units.refillReqValid
    st0ReqIsError := st0.isError
    st0ReqIsUncacheable := st0.req.pma.uncacheable
    st0ReqIsLoad := st0.req.op.isLoad && !st0.errScrubbing
    st0ReqIsScrub := st0.req.op.isLoad && st0.errScrubbing
    st0ReqIsStore := st0.req.op.isStore
    st0ReqIsAmo := st0.req.op.isAmo
    st0ReqIsCmoPrefetch := st0.req.op.isCmoPrefetch
    st0ReqIsPartial := isPartial st0.req
    st1ReqValid := state.st1ReqValidQ
    st1ReqAbort := st1ReqAbort state ext
    st1ReqRtab := st1.fromRtab
    st1ReqIsError := st1.isError
    st1ReqIsUncacheable := st1ReqIsUncacheable state ext
    st1ReqNeedRsp := st1.req.needRsp
    st1ReqIsLoad := st1.req.op.isLoad && !st1.errScrubbing
    st1ReqIsStore := st1.req.op.isStore
    st1ReqIsAmo := st1.req.op.isAmo
    st1ReqIsCmoInval := st1.req.op.isCmoInval
    st1ReqIsCmoFlush := st1.req.op.isCmoFlush
    st1ReqIsCmoFence := st1.req.op.isCmoFence
    st1ReqIsCmoPrefetch := st1.req.op.isCmoPrefetch
    st1ReqIsPartial := isPartial st1.req
    st1ReqWrWt := decide (st1.req.pma.wrPolicyHint = .wt)
    st1ReqWrWb := decide (st1.req.pma.wrPolicyHint = .wb)
    st1ReqWrAuto := decide (st1.req.pma.wrPolicyHint = .auto)
    st1DirHitWback := units.dirHitWback
    st1DirHitDirty := units.dirHitDirty
    st1DirHitFetch := units.dirHitFetch
    st1DirVictimUnavailable := !units.dirVictimWay.any
    st1DirVictimValid := units.dirVictimValid
    st1DirVictimWback := units.dirVictimWback
    st1DirVictimDirty := units.dirVictimDirty
    st1DirErrCor := ext.dirErrCor.any
    st1DirErrUnc := ext.dirErrUnc.any
    st1DatErrCor := ext.datErrCor.any
    st1DatErrUnc := ext.datErrUnc.any
    st1DatErrUncDirty := (datErrUncDirty ext units).any
    errBusy := errBusy state
    errWait := errWait state
    st1MshrAllocReady := units.mshrAllocReady
    st1MshrHit := units.mshrHit
    st1MshrFull := units.mshrFull
    st1MshrCbufFull := units.mshrCbufFull
    st1NoPendTrans := st1NoPendTrans state units
    st2MshrAlloc := state.st2MshrAllocQ
    st2MshrAllocWback := state.st2MshrAllocWbackQ
    st2MshrAllocDirty := state.st2MshrAllocDirtyQ
    st2DirUpdt := state.st2DirUpdtQ
    st2DirUpdtValid := state.st2DirUpdtValidQ
    st2DirUpdtWback := state.st2DirUpdtWbackQ
    st2DirUpdtDirty := state.st2DirUpdtDirtyQ
    st2DirUpdtFetch := state.st2DirUpdtFetchQ
    rdWrConflict := ext.rdWrConflict
    rtabFull := Rtab.full state.rtab ext.cfgRtabSingleEntry
    rtabFence := Rtab.fence state.rtab
    rtabCheckHit := Rtab.checkHit state.rtab (st1ReqNline state ext)
    cachedirHit := units.dirHitWay.any
    cachedirInitReady := units.initReady
    refillBusy := units.refillBusy
    wbufWriteReady := units.wbufWriteReady
    wbufReadHit := units.wbufReadHit
    flushBusy := units.flushBusy
    st1FlushCheckHit := units.flushCheckHit
    st1FlushAllocReady := units.flushAllocReady
    st2FlushAlloc := state.st2FlushAllocQ
    ucBusy := units.ucBusy
    cmoBusy := units.cmoBusy
    cmoWait := units.cmoWait
    cfgPrefetchUpdtPlru := ext.cfgPrefetchUpdtPlru
    cfgDefaultWb := cfgDefaultWb ext }

/-- The decision of the protocol engine in this cycle. -/
def pe : PeOut := hpdcacheCtrlComb cfg (peIn state ext units)

/-- The inputs of the replay table. -/
def rtabInput (late : Late cfg) : Rtab.Input cfg :=
  let i := peIn state ext units
  let o := pe state ext units
  { checkNline := st1ReqNline state ext
    alloc := o.st1RtabAlloc i
    allocAndLink := o.rtabAllocAndLink
    allocReq := {
      req := st1Req state ext
      wayFetch := units.dirHitWay.lastIndex }
    allocDeps := o.deps
    popTry := o.rtabReqReady
    popCommit := o.rtabCommit
    popCommitPtr := state.st1RtabPopTryPtrQ
    popRback := o.st1RtabRback i
    popRbackPtr := state.st1RtabPopTryPtrQ
    wbufHitOpen := late.wbufRtabHitOpen
    wbufHitPend := late.wbufRtabHitPend
    wbufHitSent := late.wbufRtabHitSent
    wbufNotReady := late.wbufRtabNotReady
    missReady := units.mshrAllocReady
    refill := late.refillUpdtRtab
    refillIsError := late.refillIsError
    refillNline := late.refillNline
    refillWayIndex := late.refillWay.lastIndex
    flushAck := late.flushAck
    flushAckNline := late.flushAckNline
    flushReady := units.flushAllocReady
    noPendTrans := rtabNoPendTrans state units }

/-! ## Tracking of dirty and valid sets -/

/-- A range of sets extended by one set. -/
def extendRange (en : Bool) (range : cfg.Set × cfg.Set) (set : cfg.Set) :
    cfg.Set × cfg.Set :=
  if en then (min set range.1, max set range.2) else (set, set)

/-- `cmo_dirty_min_max_set_comb`. -/
def cmoDirtyRangeD (late : Late cfg) : cfg.Set × cfg.Set :=
  let range := (state.cmoDirtyMinSetQ, state.cmoDirtyMaxSetQ)
  if state.st2DirUpdtQ && state.st2DirUpdtDirtyQ then
    extendRange state.cmoDirtySetEnQ range state.st2DirUpdtSetQ
  else if late.refillWriteDir && late.refillDirEntry.dirty then
    extendRange state.cmoDirtySetEnQ range late.refillSet
  else range

/-- `cmo_dirty_set_en_comb`. -/
def cmoDirtySetEnD (late : Late cfg) : Bool :=
  if (state.st2DirUpdtQ && state.st2DirUpdtDirtyQ) ||
      (late.refillWriteDir && late.refillDirEntry.dirty) then true
  else if late.cmoFlushAll then false
  else state.cmoDirtySetEnQ

/-- `cmo_valid_min_max_set_comb`. -/
def cmoValidRangeD (late : Late cfg) : cfg.Set × cfg.Set :=
  let range := (state.cmoValidMinSetQ, state.cmoValidMaxSetQ)
  if late.refillWriteDir && late.refillDirEntry.valid then
    extendRange state.cmoValidSetEnQ range late.refillSet
  else range

/-- `cmo_valid_set_en_comb`. -/
def cmoValidSetEnD (late : Late cfg) : Bool :=
  if late.refillWriteDir && late.refillDirEntry.valid then true
  else if late.cmoInvalAll then false
  else state.cmoValidSetEnQ

/-! ## Next state -/

/-- The line of the victim, `st1_victim_nline`. -/
def st1VictimNline : Nat := cfg.nlineOf units.dirVictimTag (st1ReqSet state ext)

def step (late : Late cfg) : State cfg :=
  let o := pe state ext units
  let st1 := st1Req state ext
  let hit := units.dirHitWay.any
  let way := if hit then units.dirHitWay else units.dirVictimWay
  let latchesErr := o.st1Err && !errBusy state
  { st1ReqValidQ := o.st1ReqValid
    st1ReqQ := if o.coreReqReady || o.rtabReqReady then st0Req state ext else state.st1ReqQ
    st1RtabPopTryPtrQ :=
      if o.rtabReqReady then Rtab.popTryPtr state.rtab else state.st1RtabPopTryPtrQ
    st2MshrAllocQ := o.st2MshrAlloc
    st2MshrAllocIsPrefetchQ :=
      if o.st2MshrAlloc then st1.req.op.isCmoPrefetch else state.st2MshrAllocIsPrefetchQ
    st2MshrAllocWbackQ :=
      if o.st2MshrAlloc then o.st2MshrAllocWback else state.st2MshrAllocWbackQ
    st2MshrAllocDirtyQ :=
      if o.st2MshrAlloc then o.st2MshrAllocDirty else state.st2MshrAllocDirtyQ
    st2MshrAllocNeedRspQ :=
      if o.st2MshrAlloc then o.st2MshrAllocNeedRsp else state.st2MshrAllocNeedRspQ
    st2MshrAllocNlineQ :=
      if o.st2MshrAlloc then st1ReqNline state ext else state.st2MshrAllocNlineQ
    st2MshrAllocWordQ :=
      if o.st2MshrAlloc then st1.req.addrByte.val / cfg.wordBytes
      else state.st2MshrAllocWordQ
    st2MshrAllocSidQ := if o.st2MshrAlloc then st1.req.sid else state.st2MshrAllocSidQ
    st2MshrAllocTidQ := if o.st2MshrAlloc then st1.req.tid else state.st2MshrAllocTidQ
    st2MshrAllocWdataQ :=
      if o.st2MshrAlloc then st1.req.wdata else state.st2MshrAllocWdataQ
    st2MshrAllocBeQ := if o.st2MshrAlloc then st1.req.be else state.st2MshrAllocBeQ
    st2MshrAllocVictimWayQ :=
      if o.st2MshrAlloc then units.dirVictimWay else state.st2MshrAllocVictimWayQ
    st2FlushAllocQ := o.st2FlushAlloc
    st2FlushAllocNlineQ :=
      if o.st2FlushAlloc then
        if hit then st1ReqNline state ext else st1VictimNline state ext units
      else state.st2FlushAllocNlineQ
    st2FlushAllocWayQ := if o.st2FlushAlloc then way else state.st2FlushAllocWayQ
    st2DirUpdtQ := o.st2DirUpdt
    st2DirUpdtSetQ := if o.st2DirUpdt then st1ReqSet state ext else state.st2DirUpdtSetQ
    st2DirUpdtWayQ := if o.st2DirUpdt then way else state.st2DirUpdtWayQ
    st2DirUpdtTagQ :=
      if o.st2DirUpdt then if hit then units.dirHitTag else units.dirVictimTag
      else state.st2DirUpdtTagQ
    st2DirUpdtValidQ := if o.st2DirUpdt then o.st2DirUpdtValid else state.st2DirUpdtValidQ
    st2DirUpdtWbackQ := if o.st2DirUpdt then o.st2DirUpdtWback else state.st2DirUpdtWbackQ
    st2DirUpdtDirtyQ := if o.st2DirUpdt then o.st2DirUpdtDirty else state.st2DirUpdtDirtyQ
    st2DirUpdtFetchQ := if o.st2DirUpdt then o.st2DirUpdtFetch else state.st2DirUpdtFetchQ
    errFsmQ := (errFsmD state o.st1Err units.mshrEmpty).1
    errSetQ := if latchesErr then st1ReqSet state ext else state.errSetQ
    errWayQ := (errFsmD state o.st1Err units.mshrEmpty).2
    errDirUncQ := if latchesErr then ext.dirErrUnc else state.errDirUncQ
    errDirCorQ := if latchesErr then ext.dirErrCor else state.errDirCorQ
    errDatUncQ := if latchesErr then ext.datErrUnc else state.errDatUncQ
    errDatCorQ := if latchesErr then ext.datErrCor else state.errDatCorQ
    errDirRdataQ :=
      if decide (state.errFsmQ = .errLatch) && errMsk state state.errDirCorQ then
        late.dirErrRdata
      else state.errDirRdataQ
    cmoDirtySetEnQ := cfg.wbEn && cmoDirtySetEnD state late
    cmoDirtyMinSetQ := (cmoDirtyRangeD state late).1
    cmoDirtyMaxSetQ := (cmoDirtyRangeD state late).2
    cmoValidSetEnQ := cmoValidSetEnD state late
    cmoValidMinSetQ := (cmoValidRangeD state late).1
    cmoValidMaxSetQ := (cmoValidRangeD state late).2
    rtab := Rtab.step state.rtab (rtabInput state ext units late) }

end Step

end Cva6Hpd.Hpdcache.Ctrl
