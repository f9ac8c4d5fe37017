import Cva6Hpd.Hpdcache.Ctrl
import Cva6Hpd.Hpdcache.MissHandler
import Cva6Hpd.Hpdcache.Flush
import Cva6Hpd.Hpdcache.Cmo
import Cva6Hpd.Hw.Machine

/-!
# The cache

`hpdcache` wires the controller, the directory, the miss handler, the flush
controller, the CMO handler and the write buffer together. The memory is part
of the model as far as its answers go: it answers each read request once, and
acknowledges a flush only after it has received its address and its data, at
any time and in any order. The uncacheable handler is left open: its busy
signal and its flushes of the write buffer are inputs.
-/

namespace Cva6Hpd.Hpdcache.Top

open Cva6Hpd.Hw
open Cva6Hpd.Common

/-- What the memory side still has to answer: the identifiers of the reads, the
accesses of the flushed lines that the resizer holds, by flush entry, and the
entry whose line is being read out. -/
structure MemState (cfg : Cfg) where
  reads : List Nat
  flushData : List (Fin cfg.flushEntries)
  flushCur : Fin cfg.flushEntries

/-- The state of the cache and of its memory. -/
structure State (cfg : Cfg) where
  ctrl : Ctrl.State cfg
  memctrl : Memctrl.State cfg
  miss : MissHandler.State cfg
  flush : Flush.State cfg
  cmo : Cmo.State cfg
  wbuf : Wbuf.State cfg.wbuf
  mem : MemState cfg

/-- The inputs of one cycle. -/
structure Input (cfg : Cfg) where
  ctrl : Ctrl.Ext cfg
  ucBusy : Bool
  ucWbufFlushAll : Bool
  wbufFlush : Bool
  cfgWbufThreshold : cfg.wbuf.Timecnt
  cfgWbufResetTimecntOnWrite : Bool
  cfgWbufSequentialWaw : Bool
  cfgWbufInhibitWriteCoalescing : Bool
  wbufReqReady : Bool
  wbufDataReady : Bool
  wbufRespValid : Bool
  wbufRespId : Nat
  memReadReady : Bool
  memRespValid : Bool
  memRespId : Nat
  memRespError : Bool
  memRespLast : Bool
  memRespInval : Bool
  memRespInvalNline : Nat
  refillDataWok : Bool
  flushResizerWok : Bool
  flushReqReady : Bool
  flushDataPop : Nat
  flushRespValid : Bool
  flushRespEntry : Fin cfg.flushEntries

/-- The contents of the memories at power up. -/
structure PowerUp (cfg : Cfg) where
  dir : Sram cfg.sets cfg.ways Memctrl.DirEntry
  mshr : Sram cfg.mshrSets cfg.mshrWays (Mshr.Entry cfg)

def reset {cfg : Cfg} (powerUp : PowerUp cfg) : State cfg where
  ctrl := Ctrl.reset cfg
  memctrl := Memctrl.reset powerUp.dir
  miss := MissHandler.reset powerUp.mshr
  flush := Flush.reset cfg
  cmo := Cmo.reset cfg
  wbuf := Wbuf.reset cfg.wbuf
  mem := { reads := [], flushData := [], flushCur := 0 }

section Signals

variable {cfg : Cfg} (state : State cfg) (input : Input cfg)

/-! ## The memory side -/

/-- The memory has received the address and the data of a flush that it has not
acknowledged yet. -/
def flushReceived (entry : Fin cfg.flushEntries) : Bool :=
  state.flush.flushDirValidQ entry && decide (entry ∉ state.mem.flushData) &&
    !(Flush.busy state.flush && decide (entry = state.mem.flushCur)) &&
    decide (entry ∉ state.flush.memReqMetaFifo.contents.map Flush.MemReq.memReqId)

def flushMem : Flush.MemIn where
  flushResizerWok := state.mem.flushData.isEmpty || input.flushResizerWok
  memReqWriteReady := input.flushReqReady
  memRespWriteValid :=
    cfg.wbEn && (input.flushRespValid && flushReceived state input.flushRespEntry)
  memRespWId := input.flushRespEntry.val

/-- A response to an outstanding read, or an invalidation. -/
def memRespValid : Bool :=
  input.memRespValid && (input.memRespInval || decide (input.memRespId ∈ state.mem.reads))

/-! ## Write buffer -/

/-- The inputs of the write buffer. Its answers to the controller do not depend
on `write`, `readFlushHit` and `flushAll`. -/
def wbufInput (write readFlushHit flushAll : Bool) : Wbuf.Input cfg.wbuf where
  flushAll := flushAll
  cfgThreshold := input.cfgWbufThreshold
  cfgResetTimecntOnWrite := input.cfgWbufResetTimecntOnWrite
  cfgSequentialWaw := input.cfgWbufSequentialWaw
  cfgInhibitWriteCoalescing := input.cfgWbufInhibitWriteCoalescing
  write := write
  writeAddr := (Ctrl.st1Req state.ctrl input.ctrl).req.addr
  writeData := (Ctrl.st1Req state.ctrl input.ctrl).req.wdata
  writeBe := (Ctrl.st1Req state.ctrl input.ctrl).req.be
  writeUc := false
  readAddr := (Ctrl.st1Req state.ctrl input.ctrl).req.addr
  readFlushHit := readFlushHit
  replayAddr := Rtab.wbufAddr state.ctrl.rtab
  replayIsRead := Rtab.wbufIsRead state.ctrl.rtab
  memReqWriteReady := input.wbufReqReady
  memReqWriteDataReady := input.wbufDataReady
  memRespWriteValid := input.wbufRespValid
  memRespWId := input.wbufRespId

def wbufIdle : Wbuf.Input cfg.wbuf := wbufInput state input false false false

/-- `wbuf_empty_o`, `wbuf_write_ready` and `wbuf_read_hit`; without the
write-through policy there is no write buffer. -/
def wbufEmpty : Bool := !cfg.wtEn || Wbuf.empty state.wbuf

def wbufWriteReady : Bool := !cfg.wtEn || Wbuf.writeReady state.wbuf (wbufIdle state input)

def wbufReadHit : Bool := cfg.wtEn && Wbuf.readHit state.wbuf (wbufIdle state input)

/-! ## Flush controller -/

/-- Without the write-back policy there is no flush controller. -/
def flushEmpty : Bool := !cfg.wbEn || Flush.empty state.flush

def flushBusy : Bool := cfg.wbEn && Flush.busy state.flush

def flushAllocReady : Bool :=
  !cfg.wbEn || Flush.allocReady state.flush (flushMem state input)

def flushCheckHit : Bool :=
  cfg.wbEn && Flush.checkHit state.flush (flushMem state input)
    (Ctrl.st1ReqNline state.ctrl input.ctrl)

def flushAck : Bool := (flushMem state input).memRespWriteValid

/-! ## The protocol engine -/

def cmoCoreRspReady : Bool := !MissHandler.refillCoreRspValidO state.miss

def cmoBusy : Bool := !Cmo.ready state.cmo (cmoCoreRspReady state)

def dirHitWay : cfg.WayVector :=
  Memctrl.hitWay state.memctrl (Ctrl.st1Req state.ctrl input.ctrl).req.addrTag

def dirVictimWay : cfg.WayVector :=
  Memctrl.selVictimWay state.memctrl (Ctrl.st1ReqSet state.ctrl input.ctrl)

def units : Ctrl.Units cfg where
  initReady := state.memctrl.initQ
  dirHitWay := dirHitWay state input
  dirHitTag := Memctrl.tagMux state.memctrl (dirHitWay state input)
  dirHitWback :=
    Memctrl.anyOf (dirHitWay state input) (Memctrl.dirWback state.memctrl)
  dirHitDirty :=
    Memctrl.anyOf (dirHitWay state input) (Memctrl.dirDirty state.memctrl)
  dirHitFetch :=
    Memctrl.anyOf (dirHitWay state input) (Memctrl.dirFetch state.memctrl)
  dirVictimWay := dirVictimWay state input
  dirVictimTag := Memctrl.tagMux state.memctrl (dirVictimWay state input)
  dirVictimValid :=
    Memctrl.anyOf (dirVictimWay state input) (Memctrl.dirValid state.memctrl)
  dirVictimWback :=
    Memctrl.anyOf (dirVictimWay state input) (Memctrl.dirWback state.memctrl)
  dirVictimDirty :=
    Memctrl.anyOf (dirVictimWay state input) (Memctrl.dirDirty state.memctrl)
  dirErrValid := Memctrl.dirValid state.memctrl
  dirErrDirty := Memctrl.dirDirty state.memctrl
  mshrAllocReady := MissHandler.mshrAllocReady state.miss
  mshrHit :=
    Mshr.hit state.miss.mshr (cfg.tagOf (Ctrl.st1ReqNline state.ctrl input.ctrl))
  mshrFull := Mshr.allocFull state.miss.mshr
  mshrCbufFull := MissHandler.cbufFull state.miss
  mshrEmpty := MissHandler.mshrEmpty state.miss
  refillReqValid := MissHandler.refillReqValid state.miss
  refillBusy := MissHandler.refillBusy state.miss
  wbufWriteReady := wbufWriteReady state input
  wbufReadHit := wbufReadHit state input
  wbufEmpty := wbufEmpty state
  flushBusy := flushBusy state
  flushCheckHit := flushCheckHit state input
  flushAllocReady := flushAllocReady state input
  flushEmpty := flushEmpty state
  ucBusy := input.ucBusy
  cmoBusy := cmoBusy state
  cmoWait := Cmo.wait state.cmo

/-- The decision of the protocol engine in this cycle. -/
def pe : PeOut := Ctrl.pe state.ctrl input.ctrl (units state input)

/-! ## Miss handler -/

/-- The inputs of the miss handler. -/
def missInput : MissHandler.Input cfg where
  cfgPrefetchUpdtSelVictim := input.ctrl.cfgPrefetchUpdtPlru
  mshrCheck := (pe state input).st0ReqMshrCheck
  mshrCheckSet := (Ctrl.st0Req state.ctrl input.ctrl).req.addrSet
  mshrAlloc := state.ctrl.st2MshrAllocQ
  mshrAllocCs := (pe state input).st2MshrAllocCs
  mshrAllocNline := state.ctrl.st2MshrAllocNlineQ
  mshrAllocTid := state.ctrl.st2MshrAllocTidQ
  mshrAllocSid := state.ctrl.st2MshrAllocSidQ
  mshrAllocWord := state.ctrl.st2MshrAllocWordQ
  mshrAllocVictimWay := state.ctrl.st2MshrAllocVictimWayQ
  mshrAllocNeedRsp := state.ctrl.st2MshrAllocNeedRspQ
  mshrAllocIsPrefetch := state.ctrl.st2MshrAllocIsPrefetchQ
  mshrAllocWback := state.ctrl.st2MshrAllocWbackQ
  mshrAllocDirty := state.ctrl.st2MshrAllocDirtyQ
  mshrAllocData := {
    wdata := state.ctrl.st2MshrAllocWdataQ
    be := state.ctrl.st2MshrAllocBeQ }
  refillReqReady := (pe state input).refillReqReady
  invalHit :=
    (Memctrl.dirInvalHitWay state.memctrl
      (MissHandler.respMeta state.miss).invalNline).any
  memReqReady := input.memReadReady
  memRespValid := memRespValid state input
  memRespError := input.memRespError
  memRespId := input.memRespId
  memRespLast := input.memRespLast
  memRespInval := input.memRespInval
  memRespInvalNline := input.memRespInvalNline
  refillDataWok := input.refillDataWok

/-- The outputs of the refill state machine. -/
def refill : MissHandler.RefillOut cfg :=
  MissHandler.missRespFsmComb state.miss (missInput state input)

/-! ## CMO handler -/

/-- The inputs of the CMO handler. -/
def cmoInput : Cmo.Input cfg where
  wbufEmpty := wbufEmpty state
  mshrEmpty := MissHandler.mshrEmpty state.miss
  rtabEmpty := Rtab.empty state.ctrl.rtab
  ctrlEmpty := Ctrl.ctrlEmpty state.ctrl
  reqValid := (pe state input).cmoReqValid
  reqOp := (Ctrl.st1Req state.ctrl input.ctrl).req.op
  reqNline := Ctrl.st1ReqNline state.ctrl input.ctrl
  reqSid := (Ctrl.st1Req state.ctrl input.ctrl).req.sid
  reqTid := (Ctrl.st1Req state.ctrl input.ctrl).req.tid
  reqNeedRsp := (Ctrl.st1Req state.ctrl input.ctrl).req.needRsp
  dirtySetEn := state.ctrl.cmoDirtySetEnQ
  dirtyMinSet := state.ctrl.cmoDirtyMinSetQ
  dirtyMaxSet := state.ctrl.cmoDirtyMaxSetQ
  validSetEn := state.ctrl.cmoValidSetEnQ
  validMinSet := state.ctrl.cmoValidMinSetQ
  validMaxSet := state.ctrl.cmoValidMaxSetQ
  coreRspReady := cmoCoreRspReady state
  dirCheckNlineHitWay := Memctrl.hitWay state.memctrl (Cmo.cmohTag state.cmo)
  dirCheckNlineWback :=
    Memctrl.anyOf (Memctrl.hitWay state.memctrl (Cmo.cmohTag state.cmo))
      (Memctrl.dirWback state.memctrl)
  dirCheckNlineDirty :=
    Memctrl.anyOf (Memctrl.hitWay state.memctrl (Cmo.cmohTag state.cmo))
      (Memctrl.dirDirty state.memctrl)
  dirCheckEntryValid :=
    Memctrl.anyOf state.memctrl.dirReqWayQ (Memctrl.dirValid state.memctrl)
  dirCheckEntryWback :=
    Memctrl.anyOf state.memctrl.dirReqWayQ (Memctrl.dirWback state.memctrl)
  dirCheckEntryDirty :=
    Memctrl.anyOf state.memctrl.dirReqWayQ (Memctrl.dirDirty state.memctrl)
  dirCheckEntryTag := Memctrl.tagMux state.memctrl state.memctrl.dirReqWayQ
  flushEmpty := flushEmpty state
  flushAllocReady := flushAllocReady state input

/-- The outputs of the CMO state machine. -/
def cmo : Cmo.Out cfg := Cmo.cmohFsmComb state.cmo (cmoInput state input)

def cmoFlushAlloc : Bool := Cmo.flushAlloc state.cmo (cmoInput state input)

/-- The inputs of the flush controller: the controller has priority over the
CMO handler. -/
def flushInput : Flush.Input cfg where
  flushAlloc := state.ctrl.st2FlushAllocQ || cmoFlushAlloc state input
  flushAllocNline :=
    if state.ctrl.st2FlushAllocQ then state.ctrl.st2FlushAllocNlineQ
    else (Cmo.flushReqRdata state.cmo (cmoInput state input)).nline
  flushAllocWay :=
    if state.ctrl.st2FlushAllocQ then state.ctrl.st2FlushAllocWayQ
    else (Cmo.flushReqRdata state.cmo (cmoInput state input)).way
  mem := flushMem state input

/-! ## Directory and write buffer -/

/-- The inputs of the directory. -/
def memctrlInput : Memctrl.Input cfg where
  dirMatch := (pe state input).st0ReqCachedirRead
  dirMatchSet := (Ctrl.st0Req state.ctrl input.ctrl).req.addrSet
  dirMatchTag := (Ctrl.st1Req state.ctrl input.ctrl).req.addrTag
  dirUpdtSelVictim := (pe state input).st1ReqCachedirUpdtSelVictim
  dirUpdt := state.ctrl.st2DirUpdtQ
  dirUpdtSet := state.ctrl.st2DirUpdtSetQ
  dirUpdtWay := state.ctrl.st2DirUpdtWayQ
  dirUpdtEntry := {
    valid := state.ctrl.st2DirUpdtValidQ
    wback := state.ctrl.st2DirUpdtWbackQ
    dirty := state.ctrl.st2DirUpdtDirtyQ
    fetch := state.ctrl.st2DirUpdtFetchQ
    tag := state.ctrl.st2DirUpdtTagQ }
  dirRefill := (refill state input).refillWriteDir
  dirRefillSet := (refill state input).refillSet
  dirRefillWay := MissHandler.refillWayO state.miss (missInput state input)
  dirRefillEntry := MissHandler.refillDirEntry state.miss
  dirRefillUpdtSelVictim := (refill state input).refillUpdtSelVictim
  dirVictimSel := (pe state input).st1ReqCachedirSelVictim
  dirVictimSet := Ctrl.st1ReqSet state.ctrl input.ctrl
  dirInvalCheck := (refill state input).invalCheckDir
  dirInvalNline := (MissHandler.respMeta state.miss).invalNline
  dirInvalWrite := (refill state input).invalWriteDir
  dirCmoCheckNline := (cmo state input).dirCheckNline
  dirCmoCheckNlineSet := Cmo.cmohSet state.cmo
  dirCmoCheckEntry := (cmo state input).dirCheckEntry
  dirCmoCheckEntrySet := state.cmo.cmohSetQ
  dirCmoCheckEntryWay := state.cmo.cmohWayQ
  dirCmoUpdt := (cmo state input).dirUpdt
  dirCmoUpdtSet := (cmo state input).dirUpdtSet
  dirCmoUpdtWay := (cmo state input).dirUpdtWay
  dirCmoUpdtEntry := (cmo state input).dirUpdtEntry
  dirErrSet := state.ctrl.errSetQ
  dirErrWay := state.ctrl.errWayQ
  dirErrRead := Ctrl.errDirRead state.ctrl
  dirErrWrite := Ctrl.errDirWrite state.ctrl
  dirErrWdata := Ctrl.errDirWdata state.ctrl

/-- The inputs of the write buffer in this cycle. -/
def wbufNow : Wbuf.Input cfg.wbuf :=
  wbufInput state input (pe state input).wbufWriteValid (pe state input).wbufReadFlushHit
    ((cmo state input).wbufFlushAll || input.ucWbufFlushAll || input.wbufFlush)

/-- The inputs that only the registers of the controller read. -/
def late : Ctrl.Late cfg where
  refillUpdtRtab := (refill state input).refillUpdtRtab
  refillIsError := MissHandler.refillIsError state.miss
  refillNline := MissHandler.refillNline state.miss
  refillWay := MissHandler.refillWayO state.miss (missInput state input)
  refillWriteDir := (refill state input).refillWriteDir
  refillSet := (refill state input).refillSet
  refillDirEntry := MissHandler.refillDirEntry state.miss
  wbufRtabHitOpen := cfg.wtEn && Wbuf.replayOpenHit state.wbuf (wbufIdle state input)
  wbufRtabHitPend := cfg.wtEn && Wbuf.replayPendHit state.wbuf (wbufIdle state input)
  wbufRtabHitSent := cfg.wtEn && Wbuf.replaySentHit state.wbuf (wbufIdle state input)
  wbufRtabNotReady := cfg.wtEn && Wbuf.replayNotReady state.wbuf (wbufIdle state input)
  flushAck := flushAck state input
  flushAckNline := Flush.ackNline state.flush (flushMem state input)
  cmoFlushAll := (cmo state input).flushAll
  cmoInvalAll := (cmo state input).invalAll
  dirErrRdata :=
    if state.memctrl.dirErrWayQ.any then
      Memctrl.dirRentry state.memctrl state.memctrl.dirErrWayQ.lastIndex
    else Memctrl.DirEntry.zero

/-! ## One clock cycle -/

/-- The miss handler's read request is taken by the memory. -/
def memReqTaken : Bool := MissHandler.memReqValid state.miss && input.memReadReady

/-- The last transfer of a read response is taken by the miss handler. -/
def memRespTaken : Bool :=
  memRespValid state input && !input.memRespInval && input.memRespLast &&
    input.refillDataWok && state.miss.respMetaFifo.wok false false

/-- The flush controller hands one access to the resizer. -/
def resizerTaken : Bool :=
  Flush.resizerW state.flush && (flushMem state input).flushResizerWok

def memStep : MemState cfg where
  reads :=
    (if memRespTaken state input then state.mem.reads.erase input.memRespId
      else state.mem.reads) ++
    (if memReqTaken state input then [MissHandler.memReqId state.miss] else [])
  flushData :=
    state.mem.flushData.drop input.flushDataPop ++
      (if resizerTaken state input then [state.mem.flushCur] else [])
  flushCur :=
    if Flush.alloc state.flush (flushInput state input) then Flush.freePtr state.flush
    else state.mem.flushCur

def step : State cfg where
  ctrl := Ctrl.step state.ctrl input.ctrl (units state input) (late state input)
  memctrl := Memctrl.step state.memctrl (memctrlInput state input)
  miss := MissHandler.step state.miss (missInput state input)
  flush :=
    if cfg.wbEn then Flush.step state.flush (flushInput state input) else state.flush
  cmo := Cmo.step state.cmo (cmoInput state input)
  wbuf := if cfg.wtEn then Wbuf.step state.wbuf (wbufNow state input) else state.wbuf
  mem := memStep state input

end Signals

/-- The cache as a synchronous machine. -/
def machine {cfg : Cfg} (powerUp : PowerUp cfg) : Machine (State cfg) (Input cfg) where
  reset := reset powerUp
  step := step

end Cva6Hpd.Hpdcache.Top
