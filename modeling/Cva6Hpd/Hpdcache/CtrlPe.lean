import Cva6Hpd.Hpdcache.Pkg

/-!
# The protocol engine of the cache controller

`hpdcache_ctrl_pe` is one combinational process. Each branch of the nest that
treats a stage-1 request is a definition here, and `hpdcacheCtrlComb` runs them
in the order of the source on a record of the process variables, later
assignments overriding earlier ones. Performance events are left out.
-/

namespace Cva6Hpd.Hpdcache

/-- The inputs of the protocol engine. -/
structure PeIn where
  coreReqValid : Bool
  scrubReqValid : Bool
  rtabReqValid : Bool
  refillReqValid : Bool
  st0ReqIsError : Bool
  st0ReqIsUncacheable : Bool
  st0ReqIsLoad : Bool
  st0ReqIsScrub : Bool
  st0ReqIsStore : Bool
  st0ReqIsAmo : Bool
  st0ReqIsCmoPrefetch : Bool
  st0ReqIsPartial : Bool
  st1ReqValid : Bool
  st1ReqAbort : Bool
  st1ReqRtab : Bool
  st1ReqIsError : Bool
  st1ReqIsUncacheable : Bool
  st1ReqNeedRsp : Bool
  st1ReqIsLoad : Bool
  st1ReqIsStore : Bool
  st1ReqIsAmo : Bool
  st1ReqIsCmoInval : Bool
  st1ReqIsCmoFlush : Bool
  st1ReqIsCmoFence : Bool
  st1ReqIsCmoPrefetch : Bool
  st1ReqIsPartial : Bool
  st1ReqWrWt : Bool
  st1ReqWrWb : Bool
  st1ReqWrAuto : Bool
  st1DirHitWback : Bool
  st1DirHitDirty : Bool
  st1DirHitFetch : Bool
  st1DirVictimUnavailable : Bool
  st1DirVictimValid : Bool
  st1DirVictimWback : Bool
  st1DirVictimDirty : Bool
  st1DirErrCor : Bool
  st1DirErrUnc : Bool
  st1DatErrCor : Bool
  st1DatErrUnc : Bool
  st1DatErrUncDirty : Bool
  errBusy : Bool
  errWait : Bool
  st1MshrAllocReady : Bool
  st1MshrHit : Bool
  st1MshrFull : Bool
  st1MshrCbufFull : Bool
  st1NoPendTrans : Bool
  st2MshrAlloc : Bool
  st2MshrAllocWback : Bool
  st2MshrAllocDirty : Bool
  st2DirUpdt : Bool
  st2DirUpdtValid : Bool
  st2DirUpdtWback : Bool
  st2DirUpdtDirty : Bool
  st2DirUpdtFetch : Bool
  rdWrConflict : Bool
  rtabFull : Bool
  rtabFence : Bool
  rtabCheckHit : Bool
  cachedirHit : Bool
  cachedirInitReady : Bool
  refillBusy : Bool
  wbufWriteReady : Bool
  wbufReadHit : Bool
  flushBusy : Bool
  st1FlushCheckHit : Bool
  st1FlushAllocReady : Bool
  st2FlushAlloc : Bool
  ucBusy : Bool
  cmoBusy : Bool
  cmoWait : Bool
  cfgPrefetchUpdtPlru : Bool
  cfgDefaultWb : Bool

/-- The variables and outputs that the process assigns. -/
structure PeOut where
  coreReqReady : Bool
  scrubReqReady : Bool
  rtabReqReady : Bool
  refillReqReady : Bool
  st0ReqMshrCheck : Bool
  st0ReqCachedirRead : Bool
  st0ReqCachedataRead : Bool
  st1ReqCachedataRead : Bool
  st1Err : Bool
  st1ReqValid : Bool
  st1RspValid : Bool
  st1RspError : Bool
  st1RspAborted : Bool
  st1ReqCachedirSelVictim : Bool
  st1ReqCachedirUpdtSelVictim : Bool
  st1ReqCachedataWrite : Bool
  st1ReqCachedataWriteEnable : Bool
  st1ReqCachedataWriteMerge : Bool
  st1Nop : Bool
  st2Nop : Bool
  st2MshrAlloc : Bool
  st2MshrAllocCs : Bool
  st2MshrAllocNeedRsp : Bool
  st2MshrAllocWback : Bool
  st2MshrAllocDirty : Bool
  st2FlushAlloc : Bool
  st2DirUpdt : Bool
  st2DirUpdtValid : Bool
  st2DirUpdtWback : Bool
  st2DirUpdtDirty : Bool
  st2DirUpdtFetch : Bool
  rtabCheck : Bool
  rtabAlloc : Bool
  rtabAllocAndLink : Bool
  rtabCommit : Bool
  deps : RtabDeps
  ucReqValid : Bool
  cmoReqValid : Bool
  wbufWriteValid : Bool
  wbufReadFlushHit : Bool

namespace PeIn

/-- `st1_fence`: a request that must be executed in program order. -/
def st1Fence (i : PeIn) : Bool :=
  i.st1ReqIsAmo || i.st1ReqIsUncacheable || i.st1ReqIsCmoFence || i.st1ReqIsCmoInval ||
    i.st1ReqIsCmoFlush

def st0ReqIsPstore (i : PeIn) : Bool := i.st0ReqIsStore && i.st0ReqIsPartial

def st0ReqIsPamo (i : PeIn) : Bool := i.st0ReqIsAmo && i.st0ReqIsPartial

/-- `rtab_check_o` of a valid request. -/
def rtabCheck (i : PeIn) : Bool := !i.st1ReqRtab && !i.st1Fence

end PeIn

/-- `st1_rtab_alloc_o`: the new request is put in the replay table. -/
def PeOut.st1RtabAlloc (o : PeOut) (i : PeIn) : Bool := o.rtabAlloc && !i.st1ReqRtab

/-- `st1_rtab_rback_o`: the replayed request is put back. -/
def PeOut.st1RtabRback (o : PeOut) (i : PeIn) : Bool := o.rtabAlloc && i.st1ReqRtab

/-- The default assignments: the stage-2 registers keep their values. -/
def peDefaults (i : PeIn) : PeOut where
  coreReqReady := false
  scrubReqReady := false
  rtabReqReady := false
  refillReqReady := false
  st0ReqMshrCheck := false
  st0ReqCachedirRead := false
  st0ReqCachedataRead := false
  st1ReqCachedataRead := false
  st1Err := false
  st1ReqValid := i.st1ReqValid
  st1RspValid := false
  st1RspError := false
  st1RspAborted := false
  st1ReqCachedirSelVictim := false
  st1ReqCachedirUpdtSelVictim := false
  st1ReqCachedataWrite := false
  st1ReqCachedataWriteEnable := false
  st1ReqCachedataWriteMerge := false
  st1Nop := false
  st2Nop := false
  st2MshrAlloc := i.st2MshrAlloc
  st2MshrAllocCs := false
  st2MshrAllocNeedRsp := false
  st2MshrAllocWback := i.st2MshrAllocWback
  st2MshrAllocDirty := i.st2MshrAllocDirty
  st2FlushAlloc := i.st2FlushAlloc
  st2DirUpdt := i.st2DirUpdt
  st2DirUpdtValid := i.st2DirUpdtValid
  st2DirUpdtWback := i.st2DirUpdtWback
  st2DirUpdtDirty := i.st2DirUpdtDirty
  st2DirUpdtFetch := i.st2DirUpdtFetch
  rtabCheck := false
  rtabAlloc := false
  rtabAllocAndLink := false
  rtabCommit := false
  deps := { RtabDeps.none with pendTrans := i.st1Fence }
  ucReqValid := false
  cmoReqValid := false
  wbufWriteValid := false
  wbufReadFlushHit := false

/-- Stage 2 consumes its pending requests and inserts a nop. -/
def peStage2 (i : PeIn) (o : PeOut) : PeOut :=
  let o := if i.st2MshrAlloc then
      { o with st2MshrAlloc := false, st2MshrAllocCs := true, st2Nop := true }
    else o
  let o := if i.st2FlushAlloc then { o with st2FlushAlloc := false, st2Nop := true } else o
  if i.st2DirUpdt then { o with st2DirUpdt := false, st2Nop := true } else o

/-! ## Stage 1: fences -/

/-- CMO fence, invalidation or flush. -/
def peCmo (o : PeOut) : PeOut :=
  { o with cmoReqValid := true, st1Nop := true }

/-- Uncacheable load, store or AMO. -/
def peUncacheable (i : PeIn) (o : PeOut) : PeOut :=
  if !i.st1NoPendTrans && !i.st1ReqRtab then
    { o with rtabAlloc := true, st1Nop := true }
  else if !i.cachedirHit then
    { o with ucReqValid := true, st1Nop := true, rtabCommit := i.st1ReqRtab }
  else
    let o := { o with st1Nop := true }
    if i.st1DirHitDirty then
      if !i.st1FlushAllocReady then
        { o with rtabAlloc := true, deps := { o.deps with flushNotReady := true } }
      else
        { o with
          rtabAlloc := true
          st2FlushAlloc := true
          st2DirUpdt := true
          st2DirUpdtValid := false
          st2DirUpdtWback := false
          st2DirUpdtDirty := false
          st2DirUpdtFetch := false }
    else if i.st1DirHitFetch then
      { o with rtabAlloc := true, deps := { o.deps with dirFetch := true } }
    else
      -- The fetch bit of the update is not assigned: it keeps its default.
      { o with
        ucReqValid := true
        rtabCommit := i.st1ReqRtab
        st2DirUpdt := true
        st2DirUpdtValid := false
        st2DirUpdtWback := false
        st2DirUpdtDirty := false }

/-! ## Stage 1: cacheable requests -/

/-- Errors in the directory or data RAM: correction, and the request on hold
unless the error is unrecoverable in the write-back mode. -/
def peEcc (eccEn wbEn : Bool) (i : PeIn) (o : PeOut) : PeOut :=
  if eccEn && (i.st1DirErrUnc || i.st1DatErrUncDirty) then
    { o with
      st1Err := true
      rtabAlloc := !wbEn
      st1RspValid := wbEn && i.st1ReqNeedRsp
      st1RspError := wbEn && i.st1ReqNeedRsp
      st1Nop := true }
  else if eccEn && (i.st1DirErrCor || i.st1DatErrCor || i.st1DatErrUnc) then
    { o with st1Err := true, rtabAlloc := true, st1Nop := true }
  else
    o

/-- A cacheable AMO goes to the uncacheable handler, after a flush if it hits a
dirty line. -/
def peAmo (i : PeIn) (o : PeOut) : PeOut :=
  if !i.st1NoPendTrans && !i.st1ReqRtab then
    { o with rtabAlloc := true, st1Nop := true }
  else
    let o := { o with st1Nop := true }
    let o := if i.cachedirHit then
        let o := { o with
          st2FlushAlloc := i.st1DirHitDirty
          st2DirUpdt := true
          st2DirUpdtValid := true
          st2DirUpdtWback := i.st1DirHitWback
          st2DirUpdtDirty := false
          st2DirUpdtFetch := i.st1DirHitFetch
          st1ReqCachedirUpdtSelVictim := true }
        if i.st1DirHitDirty then { o with rtabAlloc := true }
        else { o with ucReqValid := true }
      else { o with ucReqValid := true }
    { o with rtabCommit := i.st1ReqRtab && o.ucReqValid }

/-- A load or prefetch that misses. -/
def peLoadMiss (i : PeIn) (o : PeOut) : PeOut :=
  let o := { o with st1Nop := true, wbufReadFlushHit := true, st1ReqCachedirSelVictim := true }
  if i.st1MshrHit then
    { o with rtabAlloc := true, deps := { o.deps with mshrHit := true } }
  else if i.st1MshrFull then
    { o with rtabAlloc := true, deps := { o.deps with mshrFull := true } }
  else if i.st1DirVictimUnavailable then
    { o with rtabAlloc := true, deps := { o.deps with dirUnavailable := true } }
  else if i.wbufReadHit then
    { o with rtabAlloc := true, deps := { o.deps with wbufHit := true } }
  else if !i.st1MshrAllocReady then
    { o with rtabAlloc := true, deps := { o.deps with mshrReady := true } }
  else if i.st1FlushCheckHit then
    { o with rtabAlloc := true, deps := { o.deps with flushHit := true } }
  else if i.st1DirVictimDirty && !i.st1FlushAllocReady then
    { o with rtabAlloc := true, deps := { o.deps with flushNotReady := true } }
  else
    { o with
      st2FlushAlloc := i.st1DirVictimDirty
      rtabCommit := i.st1ReqRtab
      st2MshrAlloc := true
      st2MshrAllocNeedRsp := i.st1ReqNeedRsp
      st2MshrAllocWback := (i.st1ReqWrAuto && i.cfgDefaultWb) || i.st1ReqWrWb
      st2MshrAllocDirty := false
      st2DirUpdt := true
      st2DirUpdtValid := i.st1DirVictimValid
      st2DirUpdtWback := i.st1DirVictimWback
      st2DirUpdtDirty := false
      st2DirUpdtFetch := true }

/-- A load or prefetch that hits. -/
def peLoadHit (lowLatency : Bool) (i : PeIn) (o : PeOut) : PeOut :=
  if i.st1ReqWrWt && i.st1DirHitWback && i.st1DirHitDirty && !i.st1FlushAllocReady then
    { o with
      rtabAlloc := true
      deps := { o.deps with flushNotReady := true }
      st1Nop := true }
  else
    let o := { o with
      rtabCommit := i.st1ReqRtab
      st1Nop := i.st1ReqRtab && !i.rtabReqValid
      st1ReqCachedirUpdtSelVictim := !i.st1ReqIsCmoPrefetch || i.cfgPrefetchUpdtPlru
      st1ReqCachedataRead := o.st1ReqCachedataRead || !lowLatency
      st1RspValid := i.st1ReqNeedRsp }
    if !i.st1DirHitFetch then
      let o := if i.st1ReqWrWt && i.st1DirHitWback then
          { o with
            st2DirUpdt := true
            st2DirUpdtValid := true
            st2DirUpdtWback := false
            st2DirUpdtDirty := false
            st2DirUpdtFetch := false
            st2FlushAlloc := i.st1DirHitDirty
            st1Nop := true }
        else o
      if i.st1ReqWrWb && !i.st1DirHitWback then
        { o with
          st2DirUpdt := true
          st2DirUpdtValid := true
          st2DirUpdtWback := true
          st2DirUpdtDirty := false
          st2DirUpdtFetch := false
          st1Nop := true }
      else o
    else o

/-- A write-back store that misses allocates a miss; without a free coalesce
buffer the store itself is put on hold besides. -/
def peStoreMissWb (i : PeIn) (o : PeOut) : PeOut :=
  let o := { o with st1ReqCachedirSelVictim := true, wbufReadFlushHit := true, st1Nop := true }
  if !i.st1MshrAllocReady then
    { o with rtabAlloc := true, deps := { o.deps with mshrReady := true } }
  else if i.st1MshrFull then
    { o with rtabAlloc := true, deps := { o.deps with mshrFull := true } }
  else if i.wbufReadHit then
    { o with rtabAlloc := true, deps := { o.deps with wbufHit := true } }
  else if i.st1DirVictimUnavailable then
    { o with rtabAlloc := true, deps := { o.deps with dirUnavailable := true } }
  else if i.st1DirVictimDirty && !i.st1FlushAllocReady then
    { o with rtabAlloc := true, deps := { o.deps with flushNotReady := true } }
  else
    let o := { o with
      st2FlushAlloc := i.st1DirVictimDirty
      st2DirUpdt := true
      st2DirUpdtValid := i.st1DirVictimValid
      st2DirUpdtWback := i.st1DirVictimWback
      st2DirUpdtDirty := false
      st2DirUpdtFetch := true
      st2MshrAlloc := true
      st2MshrAllocWback := true }
    if i.st1MshrCbufFull then
      { o with
        st2MshrAllocNeedRsp := false
        st2MshrAllocDirty := false
        rtabAlloc := true
        deps := { o.deps with writeMiss := true } }
    else
      { o with
        st2MshrAllocNeedRsp := i.st1ReqNeedRsp
        st2MshrAllocDirty := true
        rtabCommit := i.st1ReqRtab }

/-- A write-through store that misses goes to the write buffer. -/
def peStoreMissWt (i : PeIn) (o : PeOut) : PeOut :=
  let o := { o with wbufWriteValid := true }
  if !i.wbufWriteReady then
    { o with
      rtabAlloc := true
      deps := { o.deps with wbufNotReady := true }
      st1Nop := true }
  else
    { o with rtabCommit := i.st1ReqRtab, st1RspValid := i.st1ReqNeedRsp }

/-- A write-back store that hits makes the line dirty. -/
def peStoreHitWb (i : PeIn) (o : PeOut) : PeOut :=
  let o := { o with wbufReadFlushHit := true }
  if i.wbufReadHit then
    { o with rtabAlloc := true, deps := { o.deps with wbufHit := true }, st1Nop := true }
  else
    let o := if !i.st1DirHitWback || !i.st1DirHitDirty then
        { o with
          st2DirUpdt := true
          st2DirUpdtValid := true
          st2DirUpdtWback := true
          st2DirUpdtDirty := true
          st2DirUpdtFetch := false
          st1Nop := true }
      else o
    { o with
      rtabCommit := i.st1ReqRtab
      st1RspValid := i.st1ReqNeedRsp
      st1ReqCachedataWriteEnable := true
      st1ReqCachedirUpdtSelVictim := true }

/-- A write-through store that hits goes to the write buffer and the cache, a
dirty line being flushed first. -/
def peStoreHitWt (i : PeIn) (o : PeOut) : PeOut :=
  let o := { o with wbufWriteValid := !i.st1DirHitDirty }
  if i.st1DirHitDirty && !i.st1FlushAllocReady then
    { o with
      rtabAlloc := true
      deps := { o.deps with flushNotReady := true }
      st1Nop := true }
  else if i.st1DirHitDirty then
    { o with
      st2FlushAlloc := true
      st2DirUpdt := true
      st2DirUpdtValid := true
      st2DirUpdtWback := false
      st2DirUpdtDirty := false
      st2DirUpdtFetch := false
      rtabAlloc := true
      deps := { o.deps with flushHit := true }
      st1Nop := true }
  else if !i.wbufWriteReady then
    { o with
      rtabAlloc := true
      deps := { o.deps with wbufNotReady := true }
      st1Nop := true }
  else
    { o with
      rtabCommit := i.st1ReqRtab
      st1RspValid := i.st1ReqNeedRsp
      st1ReqCachedirUpdtSelVictim := true
      st1ReqCachedataWriteEnable := true }

/-- The nop that every store inserts because of the replay table or of a
structural hazard on the data RAM. -/
def storeNop (lowLatency eccEn eccScrubberEn : Bool) (i : PeIn) : Bool :=
  let replay := i.st1ReqRtab && !i.rtabReqValid
  if !lowLatency then
    replay
  else
    replay || (i.rdWrConflict && i.st0ReqIsLoad) ||
      (eccEn && i.rdWrConflict &&
        ((i.st0ReqIsPstore || i.st0ReqIsPamo) || (eccScrubberEn && i.st0ReqIsScrub)))

/-- A cacheable store. -/
def peStore (lowLatency eccEn eccScrubberEn : Bool) (i : PeIn) (o : PeOut) : PeOut :=
  let o := { o with
    st1Nop := storeNop lowLatency eccEn eccScrubberEn i
    st1ReqCachedataWrite := true
    st1ReqCachedataWriteMerge :=
      if eccEn then i.st1ReqIsPartial else o.st1ReqCachedataWriteMerge }
  if i.st1MshrHit then
    { o with rtabAlloc := true, deps := { o.deps with mshrHit := true }, st1Nop := true }
  else if i.st1FlushCheckHit then
    { o with rtabAlloc := true, deps := { o.deps with flushHit := true }, st1Nop := true }
  else if !i.cachedirHit then
    if i.st1ReqWrWb || (i.st1ReqWrAuto && i.cfgDefaultWb) then
      peStoreMissWb i o
    else
      peStoreMissWt i o
  else if i.st1DirHitFetch then
    { o with rtabAlloc := true, deps := { o.deps with dirFetch := true }, st1Nop := true }
  else if i.st1ReqWrWb || (i.st1ReqWrAuto && i.st1DirHitWback) then
    peStoreHitWb i o
  else
    peStoreHitWt i o

/-- A cacheable request: error handling, then the part of its kind unless an
error was found. -/
def peCacheable (lowLatency eccEn eccScrubberEn wbEn : Bool) (i : PeIn) (o : PeOut) :
    PeOut :=
  let o := peEcc eccEn wbEn i o
  let o := if i.st1ReqIsAmo && !o.st1Err then peAmo i o else o
  let o := if (i.st1ReqIsLoad || i.st1ReqIsCmoPrefetch) && !o.st1Err then
      if !i.cachedirHit then peLoadMiss i o else peLoadHit lowLatency i o
    else o
  if i.st1ReqIsStore && !o.st1Err then peStore lowLatency eccEn eccScrubberEn i o else o

/-- The request in stage 1. -/
def peStage1 (lowLatency eccEn eccScrubberEn wbEn : Bool) (i : PeIn) (o : PeOut) : PeOut :=
  let o := { o with rtabCheck := i.rtabCheck }
  if i.st1ReqAbort && !i.st1ReqRtab then
    { o with st1RspValid := i.st1ReqNeedRsp, st1RspAborted := true }
  else if i.st1ReqIsError then
    { o with
      rtabCommit := i.st1ReqRtab
      st1RspValid := i.st1ReqNeedRsp
      st1RspError := i.st1ReqNeedRsp }
  else if i.rtabCheck && i.rtabCheckHit then
    { o with rtabAllocAndLink := true, st1Nop := true }
  else if i.st1ReqIsCmoInval || i.st1ReqIsCmoFlush || i.st1ReqIsCmoFence then
    peCmo o
  else if i.st1ReqIsUncacheable then
    peUncacheable i o
  else
    peCacheable lowLatency eccEn eccScrubberEn wbEn i o

/-! ## New requests -/

/-- Neither the pipeline nor a handler prevents a new request. -/
def newReqFree (i : PeIn) (nop : Bool) : Bool :=
  !i.rtabReqValid && !i.refillReqValid && !i.rtabFull && !i.cmoBusy && !i.ucBusy &&
    !i.errBusy && !i.rtabFence && !nop

def coreReqReady (i : PeIn) (nop : Bool) : Bool :=
  i.coreReqValid && !i.scrubReqValid && newReqFree i nop

def scrubReqReady (i : PeIn) (nop : Bool) : Bool :=
  i.scrubReqValid && newReqFree i nop

def rtabReqReady (i : PeIn) (nop : Bool) : Bool :=
  i.rtabReqValid && !i.refillReqValid && (!i.cmoBusy || i.cmoWait) && !i.errBusy && !nop

def refillReqReady (i : PeIn) : Bool :=
  i.refillReqValid && (!i.cmoBusy || i.cmoWait) && (!i.errBusy || i.errWait) &&
    !i.st1ReqValid && !(i.st2MshrAlloc || i.st2DirUpdt)

/-- Arbitration of the next request, and the RAM accesses of stage 0. -/
def peNewReq (lowLatency eccEn eccScrubberEn : Bool) (i : PeIn) (o : PeOut) : PeOut :=
  let nop := o.st1Nop || o.st2Nop
  let core := coreReqReady i nop
  let scrub := scrubReqReady i nop
  let rtab := rtabReqReady i nop
  let accepted := (core || rtab || scrub) && !i.st0ReqIsError
  let accesses := i.st0ReqIsLoad || i.st0ReqIsCmoPrefetch || i.st0ReqIsStore || i.st0ReqIsAmo
  { o with
    coreReqReady := core
    scrubReqReady := scrub
    rtabReqReady := rtab
    refillReqReady := refillReqReady i
    st1ReqValid := core || rtab
    st0ReqCachedataRead :=
      accepted && !i.st0ReqIsUncacheable && lowLatency &&
        (i.st0ReqIsLoad ||
          (eccEn && (i.st0ReqIsPstore || i.st0ReqIsPamo ||
            (eccScrubberEn && i.st0ReqIsScrub))))
    st0ReqMshrCheck := accepted && accesses && !i.st0ReqIsUncacheable
    st0ReqCachedirRead :=
      accepted && (accesses || (eccEn && eccScrubberEn && i.st0ReqIsScrub)) }

/-- `hpdcache_ctrl_comb`. -/
def hpdcacheCtrlComb (cfg : Cfg) (i : PeIn) : PeOut :=
  let o := peDefaults i
  if !i.cachedirInitReady || i.refillBusy || i.flushBusy then
    o
  else
    let o := peStage2 i o
    let o := if i.st1ReqValid then
        peStage1 cfg.lowLatency cfg.eccEn cfg.eccScrubberEn cfg.wbEn i o
      else o
    peNewReq cfg.lowLatency cfg.eccEn cfg.eccScrubberEn i o

end Cva6Hpd.Hpdcache
