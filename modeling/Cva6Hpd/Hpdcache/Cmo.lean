import Cva6Hpd.Hpdcache.Memctrl
import Cva6Hpd.Common.FifoReg

/-!
# The cache management operation handler

`hpdcache_cmo`: fences wait for the write buffer and the replay table,
invalidations and flushes wait for the misses, the replay table and the
pipeline, and then walk the directory. The lines to flush go through a FIFO of
three entries to the flush controller.
-/

namespace Cva6Hpd.Hpdcache.Cmo

open Cva6Hpd.Hw
open Cva6Hpd.Common
open Cva6Hpd.Hpdcache.Memctrl (DirEntry)

/-- `hpdcache_cmoh_fsm_t`. -/
inductive CmohFsm where
  | cmohIdle
  | cmohFenceWaitWbufRtabEmpty
  | cmohWaitMshrRtabEmpty
  | cmohInvalCheckNline
  | cmohInvalSet
  | cmohFlushAllFirst
  | cmohFlushAllNext
  | cmohFlushAllLast
  | cmohFlushNlineFirst
  | cmohFlushNlineNext
deriving DecidableEq, Repr

/-- The core response, without its data. -/
structure Rsp where
  sid : Nat
  tid : Nat
deriving DecidableEq, Repr

/-- `cmoh_flush_req_t`. -/
structure FlushReq (cfg : Cfg) where
  nline : Nat
  way : cfg.WayVector

/-- The registers of the handler. The operation register holds a CMO code or
none, `cmoh_op_q` being a record of flags. -/
structure State (cfg : Cfg) where
  cmohFsmQ : CmohFsm
  cmohOpQ : Option ReqOp
  cmohNlineQ : Nat
  cmohWayQ : cfg.WayVector
  cmohSetQ : cfg.Set
  cmohFlushReqValidQ : Bool
  cmohFlushReqSetQ : cfg.Set
  cmohFlushReqWayQ : cfg.WayVector
  cmohFlushReqInvalQ : Bool
  coreRspQ : Rsp
  coreRspValidQ : Bool
  coreRspSendQ : Bool
  flushReqFifo : FifoReg 3 (FlushReq cfg)

/-- The inputs of one cycle. -/
structure Input (cfg : Cfg) where
  wbufEmpty : Bool
  mshrEmpty : Bool
  rtabEmpty : Bool
  ctrlEmpty : Bool
  reqValid : Bool
  reqOp : ReqOp
  reqNline : Nat
  reqSid : Nat
  reqTid : Nat
  reqNeedRsp : Bool
  dirtySetEn : Bool
  dirtyMinSet : cfg.Set
  dirtyMaxSet : cfg.Set
  validSetEn : Bool
  validMinSet : cfg.Set
  validMaxSet : cfg.Set
  coreRspReady : Bool
  dirCheckNlineHitWay : cfg.WayVector
  dirCheckNlineWback : Bool
  dirCheckNlineDirty : Bool
  dirCheckEntryValid : Bool
  dirCheckEntryWback : Bool
  dirCheckEntryDirty : Bool
  dirCheckEntryTag : Nat
  flushEmpty : Bool
  flushAllocReady : Bool

def reset (cfg : Cfg) : State cfg where
  cmohFsmQ := .cmohIdle
  cmohOpQ := none
  cmohNlineQ := 0
  cmohWayQ := Bits.zero
  cmohSetQ := 0
  cmohFlushReqValidQ := false
  cmohFlushReqSetQ := 0
  cmohFlushReqWayQ := Bits.zero
  cmohFlushReqInvalQ := false
  coreRspQ := { sid := 0, tid := 0 }
  coreRspValidQ := false
  coreRspSendQ := false
  flushReqFifo := FifoReg.reset { nline := 0, way := Bits.zero }

/-- The variables and outputs of `cmoh_fsm_comb`. -/
structure Out (cfg : Cfg) where
  cmohFsmD : CmohFsm
  cmohOpD : Option ReqOp
  cmohNlineD : Nat
  cmohFlushReqValidD : Bool
  cmohFlushReqSetD : cfg.Set
  cmohFlushReqWayD : cfg.WayVector
  cmohFlushReqInvalD : Bool
  cmohSetIncr : Bool
  cmohInvalSetReset : Bool
  cmohFlushSetReset : Bool
  cmohWayIncr : Bool
  cmohWayReset : Bool
  flushAll : Bool
  invalAll : Bool
  dirCheckNline : Bool
  dirCheckEntry : Bool
  dirUpdt : Bool
  dirUpdtSet : cfg.Set
  dirUpdtWay : cfg.WayVector
  dirUpdtEntry : DirEntry
  wbufFlushAll : Bool
  flushReqSet : cfg.Set
  flushReqTag : Nat
  flushReqWay : cfg.WayVector
  coreRspW : Bool
  coreRspSendD : Bool

section Signals

variable {cfg : Cfg} (state : State cfg) (input : Input cfg)

/-- `cmoh_set`, `cmoh_tag`: the line of the operation. -/
def cmohSet : cfg.Set := cfg.setOf state.cmohNlineQ

def cmohTag : Nat := cfg.tagOf state.cmohNlineQ

/-- `req_wait_o`. -/
def wait : Bool :=
  decide (state.cmohFsmQ = .cmohFenceWaitWbufRtabEmpty) ||
    decide (state.cmohFsmQ = .cmohWaitMshrRtabEmpty)

def coreRspR (coreRspReady : Bool) : Bool := state.coreRspSendQ && coreRspReady

/-- `core_rsp_valid_o`. -/
def coreRspValid : Bool := state.coreRspValidQ && state.coreRspSendQ

/-- `req_ready_o`. -/
def ready (coreRspReady : Bool) : Bool :=
  decide (state.cmohFsmQ = .cmohIdle) &&
    (!state.coreRspValidQ || coreRspR state coreRspReady)

/-- `cmoh_set_last`. -/
def setLast : Bool :=
  if state.cmohOpQ = some .cmoFlushAll then decide (state.cmohSetQ = input.dirtyMaxSet)
  else decide (state.cmohSetQ = input.validMaxSet)

/-- `cmoh_way_last`. -/
def wayLast : Bool := state.cmohWayQ (Fin.ofNat cfg.ways (cfg.ways - 1))

/-- `cmoh_flush_req_wok`. -/
def flushReqWok : Bool :=
  !cfg.wbEn || state.flushReqFifo.wok true input.flushAllocReady

def defaults : Out cfg where
  cmohFsmD := state.cmohFsmQ
  cmohOpD := state.cmohOpQ
  cmohNlineD := state.cmohNlineQ
  cmohFlushReqValidD := state.cmohFlushReqValidQ
  cmohFlushReqSetD := state.cmohFlushReqSetQ
  cmohFlushReqWayD := state.cmohFlushReqWayQ
  cmohFlushReqInvalD := state.cmohFlushReqInvalQ
  cmohSetIncr := false
  cmohInvalSetReset := false
  cmohFlushSetReset := false
  cmohWayIncr := false
  cmohWayReset := false
  flushAll := false
  invalAll := false
  dirCheckNline := false
  dirCheckEntry := false
  dirUpdt := false
  dirUpdtSet := 0
  dirUpdtWay := Bits.zero
  dirUpdtEntry := DirEntry.zero
  wbufFlushAll := false
  flushReqSet := 0
  flushReqTag := 0
  flushReqWay := Bits.zero
  coreRspW := false
  coreRspSendD := state.coreRspSendQ

/-- The operation is complete: its response, if any, may be sent. -/
def done (o : Out cfg) : Out cfg :=
  { o with coreRspSendD := state.coreRspValidQ, cmohFsmD := .cmohIdle }

/-- `CMOH_IDLE`. -/
def idle : Out cfg :=
  let o := defaults state
  let o := if coreRspR state input.coreRspReady then { o with coreRspSendD := false } else o
  if input.reqValid && ready state input.coreRspReady then
    let o := { o with coreRspW := input.reqNeedRsp }
    if input.reqOp.isCmoFence then
      let o := { o with wbufFlushAll := input.rtabEmpty }
      if !input.rtabEmpty || !input.wbufEmpty then
        { o with cmohFsmD := .cmohFenceWaitWbufRtabEmpty }
      else
        { o with coreRspSendD := input.reqNeedRsp }
    else if input.reqOp.isCmoInval || input.reqOp.isCmoFlush then
      { o with
        cmohOpD := some input.reqOp
        cmohNlineD := input.reqNline
        cmohWayReset := true
        cmohFsmD := .cmohWaitMshrRtabEmpty }
    else o
  else o

/-- `CMOH_FENCE_WAIT_WBUF_RTAB_EMPTY`. -/
def fenceWait : Out cfg :=
  let o := { defaults state with wbufFlushAll := input.rtabEmpty }
  if input.wbufEmpty && input.rtabEmpty then done state o else o

/-- `CMOH_WAIT_MSHR_RTAB_EMPTY`: start the operation, or end it at once when the
directory holds no line that it concerns. -/
def waitEmpty : Out cfg :=
  let o := defaults state
  if input.mshrEmpty && input.rtabEmpty && input.ctrlEmpty then
    match state.cmohOpQ with
    | some .cmoInvalNline =>
        if input.validSetEn then { o with cmohFsmD := .cmohInvalCheckNline }
        else done state o
    | some .cmoInvalAll =>
        if input.validSetEn then
          { o with cmohInvalSetReset := true, cmohFsmD := .cmohInvalSet }
        else done state o
    | some .cmoFlushNline =>
        if input.dirtySetEn then
          { o with cmohFlushReqInvalD := false, cmohFsmD := .cmohFlushNlineFirst }
        else done state o
    | some .cmoFlushAll =>
        if input.dirtySetEn then
          { o with
            cmohFlushSetReset := true
            cmohFlushReqInvalD := false
            cmohFsmD := .cmohFlushAllFirst }
        else done state o
    | some .cmoFlushInvalNline =>
        if input.validSetEn then
          { o with cmohFlushReqInvalD := true, cmohFsmD := .cmohFlushNlineFirst }
        else done state o
    | some .cmoFlushInvalAll =>
        if input.validSetEn then
          { o with
            cmohInvalSetReset := true
            cmohFlushReqInvalD := true
            cmohFsmD := .cmohFlushAllFirst }
        else done state o
    | _ => o
  else o

/-- `CMOH_INVAL_CHECK_NLINE`. -/
def invalCheckNline : Out cfg :=
  { defaults state with dirCheckNline := true, cmohFsmD := .cmohInvalSet }

/-- `CMOH_INVAL_SET`: invalidate one line, or one set after the other. -/
def invalSet : Out cfg :=
  let o := defaults state
  match state.cmohOpQ with
  | some .cmoInvalNline | some .cmoFlushInvalNline =>
      done state { o with
        dirUpdt := input.dirCheckNlineHitWay.any
        dirUpdtSet := cmohSet state
        dirUpdtWay := input.dirCheckNlineHitWay }
  | some .cmoInvalAll | some .cmoFlushInvalAll =>
      let o := { o with
        dirUpdt := true
        dirUpdtSet := state.cmohSetQ
        dirUpdtWay := fun _ => true
        cmohSetIncr := true }
      if setLast state input then done state { o with invalAll := true } else o
  | _ => o

/-- The directory update and the flush request of the entry checked in the
previous cycle. -/
def flushEntry (o : Out cfg) : Out cfg :=
  { o with
    dirUpdt := input.dirCheckEntryValid &&
      (input.dirCheckEntryDirty || state.cmohFlushReqInvalQ)
    dirUpdtSet := state.cmohFlushReqSetQ
    dirUpdtWay := state.cmohFlushReqWayQ
    dirUpdtEntry := {
      valid := !state.cmohFlushReqInvalQ
      wback := !state.cmohFlushReqInvalQ && input.dirCheckEntryWback
      dirty := false
      fetch := false
      tag := input.dirCheckEntryTag }
    flushReqSet := state.cmohFlushReqSetQ
    flushReqWay := state.cmohFlushReqWayQ
    flushReqTag := input.dirCheckEntryTag
    cmohFlushReqValidD := false }

/-- Check the next entry of the directory. -/
def checkEntry (o : Out cfg) : Out cfg :=
  { o with
    dirCheckEntry := true
    cmohSetIncr := wayLast state
    cmohWayIncr := true
    cmohFlushReqValidD := true
    cmohFlushReqSetD := state.cmohSetQ
    cmohFlushReqWayD := state.cmohWayQ }

/-- `CMOH_FLUSH_ALL_FIRST`. -/
def flushAllFirst : Out cfg :=
  let o := defaults state
  if cfg.wbEn then
    if flushReqWok state input then
      { checkEntry state o with cmohFsmD := .cmohFlushAllNext }
    else o
  else if state.cmohFlushReqInvalQ then { o with cmohFsmD := .cmohInvalSet }
  else done state o

/-- `CMOH_FLUSH_ALL_NEXT`. -/
def flushAllNext : Out cfg :=
  let o := defaults state
  if state.cmohFlushReqValidQ then flushEntry state input o
  else if flushReqWok state input then
    let o := checkEntry state o
    if setLast state input && wayLast state then { o with cmohFsmD := .cmohFlushAllLast }
    else o
  else o

/-- `CMOH_FLUSH_ALL_LAST`. -/
def flushAllLast (flushAlloc : Bool) : Out cfg :=
  let o := { defaults state with cmohFlushReqValidD := false }
  let o := if state.cmohFlushReqValidQ then flushEntry state input o else o
  if input.flushEmpty && !flushAlloc then
    done state { o with flushAll := true, invalAll := state.cmohFlushReqInvalQ }
  else o

/-- `CMOH_FLUSH_NLINE_FIRST`. -/
def flushNlineFirst : Out cfg :=
  let o := defaults state
  if cfg.wbEn then
    if flushReqWok state input then
      { o with
        dirCheckNline := true
        cmohFlushReqValidD := true
        cmohFsmD := .cmohFlushNlineNext }
    else o
  else if state.cmohFlushReqInvalQ then { o with cmohFsmD := .cmohInvalCheckNline }
  else done state o

/-- `CMOH_FLUSH_NLINE_NEXT`. -/
def flushNlineNext (flushAlloc : Bool) : Out cfg :=
  let o := { defaults state with cmohFlushReqValidD := false }
  let o := if state.cmohFlushReqValidQ then
      { o with
        dirUpdt := input.dirCheckNlineHitWay.any
        dirUpdtSet := cmohSet state
        dirUpdtWay := input.dirCheckNlineHitWay
        dirUpdtEntry := {
          valid := !state.cmohFlushReqInvalQ
          wback := !state.cmohFlushReqInvalQ && input.dirCheckNlineWback
          dirty := false
          fetch := false
          tag := cmohTag state }
        flushReqSet := cmohSet state
        flushReqTag := cmohTag state
        flushReqWay := input.dirCheckNlineHitWay }
    else o
  if input.flushEmpty && !flushAlloc then done state o else o

/-- `cmoh_flush_req_w`: the checked line is dirty. -/
def flushReqW : Bool :=
  cfg.wbEn && state.cmohFlushReqValidQ &&
    match state.cmohFsmQ with
    | .cmohFlushAllNext => input.dirCheckEntryValid && input.dirCheckEntryDirty
    | .cmohFlushAllLast => input.dirCheckEntryValid && input.dirCheckEntryDirty
    | .cmohFlushNlineNext => input.dirCheckNlineHitWay.any && input.dirCheckNlineDirty
    | _ => false

/-- `flush_alloc_o`. -/
def flushAlloc : Bool :=
  cfg.wbEn && state.flushReqFifo.rok true (flushReqW state input)

/-- `cmoh_fsm_comb`. -/
def cmohFsmComb : Out cfg :=
  match state.cmohFsmQ with
  | .cmohIdle => idle state input
  | .cmohFenceWaitWbufRtabEmpty => fenceWait state input
  | .cmohWaitMshrRtabEmpty => waitEmpty state input
  | .cmohInvalCheckNline => invalCheckNline state
  | .cmohInvalSet => invalSet state input
  | .cmohFlushAllFirst => flushAllFirst state input
  | .cmohFlushAllNext => flushAllNext state input
  | .cmohFlushAllLast => flushAllLast state input (flushAlloc state input)
  | .cmohFlushNlineFirst => flushNlineFirst state input
  | .cmohFlushNlineNext => flushNlineNext state input (flushAlloc state input)

/-- `cmoh_flush_req_wdata`. -/
def flushReqWdata : FlushReq cfg where
  nline := cfg.nlineOf (cmohFsmComb state input).flushReqTag
    (cmohFsmComb state input).flushReqSet
  way := (cmohFsmComb state input).flushReqWay

/-- `flush_alloc_nline_o` and `flush_alloc_way_o`. -/
def flushReqRdata : FlushReq cfg :=
  state.flushReqFifo.rdata true (flushReqWdata state input)

/-- `cmoh_set_d`. -/
def setD (o : Out cfg) : cfg.Set :=
  if o.cmohInvalSetReset then input.validMinSet
  else if o.cmohFlushSetReset then input.dirtyMinSet
  else if o.cmohSetIncr then
    if setLast state input then 0 else state.cmohSetQ + 1
  else state.cmohSetQ

/-- `cmoh_way_d`: one way after the other. -/
def wayD (o : Out cfg) : cfg.WayVector :=
  if cfg.ways = 1 then fun _ => true
  else if o.cmohWayReset then Bits.single 0
  else if o.cmohWayIncr then
    if wayLast state then Bits.single 0
    else fun w => decide (w ≠ 0) && state.cmohWayQ (w - 1)
  else state.cmohWayQ

def step : State cfg :=
  let o := cmohFsmComb state input
  { cmohFsmQ := o.cmohFsmD
    cmohOpQ := o.cmohOpD
    cmohNlineQ := o.cmohNlineD
    cmohWayQ := wayD state o
    cmohSetQ := setD state input o
    cmohFlushReqValidQ := o.cmohFlushReqValidD
    cmohFlushReqSetQ := o.cmohFlushReqSetD
    cmohFlushReqWayQ := o.cmohFlushReqWayD
    cmohFlushReqInvalQ := o.cmohFlushReqInvalD
    coreRspQ := if o.coreRspW && !state.coreRspValidQ then
        { sid := input.reqSid, tid := input.reqTid }
      else state.coreRspQ
    coreRspValidQ := (o.coreRspW && !state.coreRspValidQ) ||
      (state.coreRspValidQ && !coreRspR state input.coreRspReady)
    coreRspSendQ := o.coreRspSendD
    flushReqFifo :=
      state.flushReqFifo.step true (flushReqW state input) (flushReqWdata state input)
        input.flushAllocReady }

end Signals

end Cva6Hpd.Hpdcache.Cmo
