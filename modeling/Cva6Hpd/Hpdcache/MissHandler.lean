import Cva6Hpd.Hpdcache.Mshr
import Cva6Hpd.Hpdcache.Memctrl
import Cva6Hpd.Common.FifoReg

/-!
# The miss handler

`hpdcache_miss_handler`: a two-state machine that sends the read request of the
last allocated miss, the FIFO of read responses and invalidations, a state
machine that writes a response into the cache, and the coalesce buffer that
keeps the data of write-back stores until their line is refilled. The data of
the responses is left out.
-/

namespace Cva6Hpd.Hpdcache.MissHandler

open Cva6Hpd.Hw
open Cva6Hpd.Common
open Cva6Hpd.Hpdcache.Memctrl (DirEntry)

/-- `miss_req_fsm_e`. -/
inductive MissReqFsm where
  | missReqIdle
  | missReqSend
deriving DecidableEq, Repr

/-- `refill_fsm_e`. -/
inductive RefillFsm where
  | refillIdle
  | refillWrite
  | refillWriteDir
  | refillInval
deriving DecidableEq, Repr

/-- `mem_resp_metadata_t`. -/
structure RespMeta where
  rError : Bool
  rId : Nat
  isInval : Bool
  invalNline : Nat
deriving DecidableEq, Repr

/-- `hpdcache_rsp_t`, without its data. -/
structure CoreRsp where
  sid : Nat
  tid : Nat
  error : Bool
deriving DecidableEq, Repr

/-- `cbuf_entry_t`. -/
structure CbufEntry (cfg : Cfg) where
  wdata : cfg.wbuf.Data
  be : cfg.wbuf.Be

/-- The registers of `hpdcache_cbuf`. -/
structure Cbuf (cfg : Cfg) where
  entriesQ : cfg.CbufId → CbufEntry cfg
  validQ : Bits cfg.cbufEntries

/-- The registers of the miss handler. -/
structure State (cfg : Cfg) where
  missReqFsmQ : MissReqFsm
  mshrAllocWayQ : cfg.MshrWay
  mshrAllocNlineQ : Nat
  refillFsmQ : RefillFsm
  refillSetQ : cfg.Set
  refillTagQ : Nat
  refillWayQ : cfg.Way
  refillSidQ : Nat
  refillTidQ : Nat
  refillCntQ : Nat
  refillNeedRspQ : Bool
  refillIsPrefetchQ : Bool
  refillWbackQ : Bool
  refillDirtyQ : Bool
  refillDirtyDataQ : CbufEntry cfg
  refillCoreRspWordQ : Nat
  coreRspBuf : FifoReg 1 CoreRsp
  respMetaFifo : FifoReg cfg.refillFifoDepth RespMeta
  mshr : Mshr.State cfg
  cbuf : Cbuf cfg

/-- The inputs of one cycle. -/
structure Input (cfg : Cfg) where
  cfgPrefetchUpdtSelVictim : Bool
  mshrCheck : Bool
  mshrCheckSet : cfg.Set
  mshrAlloc : Bool
  mshrAllocCs : Bool
  mshrAllocNline : Nat
  mshrAllocTid : Nat
  mshrAllocSid : Nat
  mshrAllocWord : Nat
  mshrAllocVictimWay : cfg.WayVector
  mshrAllocNeedRsp : Bool
  mshrAllocIsPrefetch : Bool
  mshrAllocWback : Bool
  mshrAllocDirty : Bool
  mshrAllocData : CbufEntry cfg
  refillReqReady : Bool
  invalHit : Bool
  memReqReady : Bool
  memRespValid : Bool
  memRespError : Bool
  memRespId : Nat
  memRespLast : Bool
  memRespInval : Bool
  memRespInvalNline : Nat
  refillDataWok : Bool

def RespMeta.zero : RespMeta where
  rError := false
  rId := 0
  isInval := false
  invalNline := 0

def CbufEntry.zero {cfg : Cfg} : CbufEntry cfg where
  wdata := fun _ => 0
  be := Bits.zero

def reset {cfg : Cfg}
    (powerUp : Sram cfg.mshrSets cfg.mshrWays (Mshr.Entry cfg)) : State cfg where
  missReqFsmQ := .missReqIdle
  mshrAllocWayQ := 0
  mshrAllocNlineQ := 0
  refillFsmQ := .refillIdle
  refillSetQ := 0
  refillTagQ := 0
  refillWayQ := 0
  refillSidQ := 0
  refillTidQ := 0
  refillCntQ := 0
  refillNeedRspQ := false
  refillIsPrefetchQ := false
  refillWbackQ := false
  refillDirtyQ := false
  refillDirtyDataQ := CbufEntry.zero
  refillCoreRspWordQ := 0
  coreRspBuf := FifoReg.reset { sid := 0, tid := 0, error := false }
  respMetaFifo := FifoReg.reset RespMeta.zero
  mshr := Mshr.reset powerUp
  cbuf := { entriesQ := fun _ => CbufEntry.zero, validQ := Bits.zero }

section Outputs

variable {cfg : Cfg} (state : State cfg)

/-! ## Miss requests -/

/-- `mshr_alloc_ready_o`. -/
def mshrAllocReady : Bool := decide (state.missReqFsmQ = .missReqIdle)

/-- `mem_req_valid_o`. -/
def memReqValid : Bool := decide (state.missReqFsmQ = .missReqSend)

/-- The read identifier of a slot: its way above its set. -/
def memId (way : cfg.MshrWay) (set : cfg.MshrSet) : Nat :=
  way.val * cfg.mshrSets + set.val

/-- `mem_req_id`. -/
def memReqId : Nat := memId state.mshrAllocWayQ (cfg.mshrSetOf state.mshrAllocNlineQ)

/-! ## Responses -/

/-- `refill_fifo_resp_meta_rdata`. -/
def respMeta : RespMeta := state.respMetaFifo.rdata false RespMeta.zero

/-- `refill_fifo_resp_meta_rok`. -/
def respMetaRok : Bool := state.respMetaFifo.rok false false

/-- `mshr_ack_set`. -/
def mshrAckSet : cfg.MshrSet := Fin.ofNat cfg.mshrSets (respMeta state).rId

/-- `mshr_ack_way`. -/
def mshrAckWay : cfg.MshrWay :=
  Fin.ofNat cfg.mshrWays ((respMeta state).rId / cfg.mshrSets)

/-- `mshr_ack_cache_set`. -/
def mshrAckCacheSet : cfg.Set :=
  Mshr.ackCacheSet state.mshr (mshrAckWay state) (mshrAckSet state)

/-- The fields of the acknowledged slot. -/
def mshrAckEntry : Mshr.Entry cfg := Mshr.ackEntry state.mshr

/-- `refill_is_error_o`. -/
def refillIsError : Bool := (respMeta state).rError

/-- `refill_busy_o`. -/
def refillBusy : Bool := decide (state.refillFsmQ ≠ .refillIdle)

/-- `refill_req_valid_o`. -/
def refillReqValid : Bool :=
  decide (state.refillFsmQ = .refillIdle) && respMetaRok state

/-- `refill_nline_o`. -/
def refillNline : Nat := cfg.nlineOf state.refillTagQ state.refillSetQ

/-- `mshr_empty_o`. -/
def mshrEmpty : Bool := Mshr.empty state.mshr && !refillBusy state

/-- `refill_dir_entry_o`: an error response invalidates the entry. -/
def refillDirEntry : DirEntry where
  valid := !refillIsError state
  wback := !refillIsError state && state.refillWbackQ
  dirty := !refillIsError state && state.refillDirtyQ
  fetch := false
  tag := state.refillTagQ

/-- `mshr_alloc_cbuf_full_o`. -/
def cbufFull : Bool := cfg.wbEn && state.cbuf.validQ.all

/-- `mshr_alloc_cbuf_id`: the first free buffer. -/
def cbufAllocId : cfg.CbufId :=
  if cfg.wbEn then Bits.firstIndex fun b => !state.cbuf.validQ b else 0

/-- `mshr_ack_wdata` and `mshr_ack_be`. -/
def cbufAckData : CbufEntry cfg :=
  if cfg.wbEn then state.cbuf.entriesQ (mshrAckEntry state).cbufId else CbufEntry.zero

/-- The first access of a line: the slot read from the MSHR describes it. -/
def firstChunk : Bool :=
  decide (state.refillFsmQ = .refillWrite) && decide (state.refillCntQ = 0)

/-- The access being written holds the requested word. -/
def answers : Bool :=
  if state.refillCntQ = 0 then
    decide ((mshrAckEntry state).wordIdx / cfg.accessWords = 0)
  else
    decide (state.refillCoreRspWordQ / cfg.accessWords =
      state.refillCntQ / cfg.accessWords)

/-- `refill_core_rsp_valid`. -/
def refillCoreRspValid : Bool :=
  decide (state.refillFsmQ = .refillWrite) && answers state &&
    (if state.refillCntQ = 0 then (mshrAckEntry state).needRsp else state.refillNeedRspQ)

/-- `refill_core_rsp_valid_o`. -/
def refillCoreRspValidO : Bool :=
  state.coreRspBuf.rok cfg.refillCoreRspFeedthrough (refillCoreRspValid state)

end Outputs

/-! ## The refill state machine -/

/-- The variables and outputs of `miss_resp_fsm_comb`. -/
structure RefillOut (cfg : Cfg) where
  refillUpdtSelVictim : Bool
  refillSet : cfg.Set
  refillWay : cfg.Way
  refillDirty : Bool
  refillWriteDir : Bool
  refillWriteData : Bool
  refillUpdtRtab : Bool
  refillCntD : Nat
  refillDirtyData : CbufEntry cfg
  refillDirtyValid : Bool
  invalCheckDir : Bool
  invalWriteDir : Bool
  refillCoreRspSid : Nat
  refillCoreRspTid : Nat
  refillCoreRspError : Bool
  refillFifoRespMetaR : Bool
  refillFifoRespDataR : Bool
  mshrAckCs : Bool
  mshrAck : Bool
  refillFsmD : RefillFsm

section Refill

variable {cfg : Cfg} (state : State cfg) (input : Input cfg)

def refillDefaults : RefillOut cfg where
  refillUpdtSelVictim := false
  refillSet := 0
  refillWay := 0
  refillDirty := false
  refillWriteDir := false
  refillWriteData := false
  refillUpdtRtab := false
  refillCntD := state.refillCntQ
  refillDirtyData := state.refillDirtyDataQ
  refillDirtyValid := false
  invalCheckDir := false
  invalWriteDir := false
  refillCoreRspSid := 0
  refillCoreRspTid := 0
  refillCoreRspError := false
  refillFifoRespMetaR := false
  refillFifoRespDataR := false
  mshrAckCs := false
  mshrAck := false
  refillFsmD := state.refillFsmQ

/-- `REFILL_IDLE`: a granted response is acknowledged in the MSHR, a granted
invalidation is looked up in the directory. -/
def refillIdle : RefillOut cfg :=
  let o := refillDefaults state
  if respMetaRok state then
    let o := { o with mshrAckCs := !(respMeta state).isInval }
    if input.refillReqReady then
      let o := { o with refillSet := mshrAckCacheSet state }
      if (respMeta state).isInval then
        { o with invalCheckDir := true, refillFsmD := .refillInval }
      else
        { o with mshrAck := true, refillCntD := 0, refillFsmD := .refillWrite }
    else o
  else o

/-- The last access of a line, `REFILL_LAST_CHUNK_WORD`. -/
def lastChunkWord (cfg : Cfg) : Nat := cfg.clWords - cfg.accessWords

/-- The end of a refill: write the directory, wake the replay table up and
consume the response. -/
def refillEnd (isPrefetch : Bool) (o : RefillOut cfg) : RefillOut cfg :=
  { o with
    refillWriteDir := true
    refillUpdtSelVictim :=
      !refillIsError state && (!isPrefetch || input.cfgPrefetchUpdtSelVictim)
    refillUpdtRtab := true
    refillFifoRespMetaR := true
    refillFsmD := .refillIdle }

/-- `REFILL_WRITE`: write one access of the line. -/
def refillWrite : RefillOut cfg :=
  let o := refillDefaults state
  let entry := mshrAckEntry state
  let isPrefetch := if state.refillCntQ = 0 then entry.isPrefetch
    else state.refillIsPrefetchQ
  let o := if state.refillCntQ = 0 then
      { o with
        refillDirtyValid := answers state && entry.dirty
        refillCoreRspSid := entry.srcId
        refillCoreRspTid := entry.reqId
        refillCoreRspError := refillIsError state
        refillSet := mshrAckCacheSet state
        refillWay := entry.victimWayIdx
        refillDirty := entry.dirty
        refillDirtyData := cbufAckData state }
    else
      { o with
        refillDirtyValid := answers state && state.refillDirtyQ
        refillCoreRspSid := state.refillSidQ
        refillCoreRspTid := state.refillTidQ
        refillCoreRspError := refillIsError state
        refillSet := state.refillSetQ
        refillWay := state.refillWayQ
        refillDirty := state.refillDirtyQ
        refillDirtyData := state.refillDirtyDataQ }
  let o := { o with
    refillWriteData := !refillIsError state
    refillFifoRespDataR := true
    refillCntD := state.refillCntQ + cfg.accessWords }
  if state.refillCntQ = lastChunkWord cfg then
    -- A line written in one access waits one cycle before the directory.
    if lastChunkWord cfg = 0 then { o with refillFsmD := .refillWriteDir }
    else refillEnd state input isPrefetch o
  else o

/-- `REFILL_WRITE_DIR`. -/
def refillWriteDir : RefillOut cfg :=
  refillEnd state input state.refillIsPrefetchQ
    { refillDefaults state with
      refillSet := state.refillSetQ
      refillWay := state.refillWayQ }

/-- `REFILL_INVAL`. -/
def refillInval : RefillOut cfg :=
  { refillDefaults state with
    invalWriteDir := input.invalHit
    refillFifoRespMetaR := true
    refillFsmD := .refillIdle }

/-- `miss_resp_fsm_comb`. -/
def missRespFsmComb : RefillOut cfg :=
  match state.refillFsmQ with
  | .refillIdle => refillIdle state input
  | .refillWrite => refillWrite state input
  | .refillWriteDir => refillWriteDir state input
  | .refillInval => refillInval state input

/-- `refill_way_o`: decoded only while a refill is in progress. -/
def refillWayO : cfg.WayVector :=
  if refillBusy state then Bits.single (missRespFsmComb state input).refillWay
  else Bits.zero

/-- `refill_core_rsp`. -/
def refillCoreRsp : CoreRsp where
  sid := (missRespFsmComb state input).refillCoreRspSid
  tid := (missRespFsmComb state input).refillCoreRspTid
  error := (missRespFsmComb state input).refillCoreRspError

/-! ## Next state -/

/-- `mshr_alloc`: an allocation is taken only while no request is being sent. -/
def mshrAlloc : Bool := mshrAllocReady state && input.mshrAlloc

def mshrInput : Mshr.Input cfg where
  check := input.mshrCheck
  checkSet := input.mshrCheckSet
  alloc := mshrAlloc state input
  allocCs := mshrAllocReady state && input.mshrAllocCs
  allocNline := input.mshrAllocNline
  allocEntry := {
    tag := cfg.tagOf input.mshrAllocNline
    reqId := input.mshrAllocTid
    srcId := input.mshrAllocSid
    wordIdx := input.mshrAllocWord
    victimWayIdx := input.mshrAllocVictimWay.lastIndex
    wback := input.mshrAllocWback
    dirty := input.mshrAllocDirty
    needRsp := input.mshrAllocNeedRsp
    isPrefetch := input.mshrAllocIsPrefetch
    cbufId := cbufAllocId state }
  ack := (missRespFsmComb state input).mshrAck
  ackCs := (missRespFsmComb state input).mshrAckCs
  ackSet := mshrAckSet state
  ackWay := mshrAckWay state

/-- `refill_fifo_resp_meta_w`. -/
def respMetaW : Bool :=
  input.memRespValid &&
    ((input.refillDataWok && input.memRespLast) || input.memRespInval)

def respMetaWdata : RespMeta where
  rError := input.memRespError
  rId := input.memRespId
  isInval := input.memRespInval
  invalNline := input.memRespInvalNline

def cbufAlloc : Bool := cfg.wbEn && (input.mshrAllocDirty && mshrAlloc state input)

def cbufAck : Bool :=
  cfg.wbEn && ((missRespFsmComb state input).refillDirty && firstChunk state)

def cbufD : Cbuf cfg where
  entriesQ := fun b =>
    if cbufAlloc state input && decide (b = cbufAllocId state) then input.mshrAllocData
    else state.cbuf.entriesQ b
  validQ := fun b =>
    if cbufAlloc state input && decide (b = cbufAllocId state) then true
    else if cbufAck state input && decide (b = (mshrAckEntry state).cbufId) then false
    else state.cbuf.validQ b

def missReqFsmD : MissReqFsm :=
  match state.missReqFsmQ with
  | .missReqIdle => if input.mshrAlloc then .missReqSend else .missReqIdle
  | .missReqSend => if input.memReqReady then .missReqIdle else .missReqSend

def step : State cfg where
  missReqFsmQ := missReqFsmD state input
  mshrAllocWayQ :=
    if mshrAlloc state input then Mshr.allocWay state.mshr input.mshrAllocNline
    else state.mshrAllocWayQ
  mshrAllocNlineQ :=
    if mshrAlloc state input then input.mshrAllocNline else state.mshrAllocNlineQ
  refillFsmQ := (missRespFsmComb state input).refillFsmD
  refillSetQ := if firstChunk state then mshrAckCacheSet state else state.refillSetQ
  refillTagQ := if firstChunk state then (mshrAckEntry state).tag else state.refillTagQ
  refillWayQ :=
    if firstChunk state then (mshrAckEntry state).victimWayIdx else state.refillWayQ
  refillSidQ := if firstChunk state then (mshrAckEntry state).srcId else state.refillSidQ
  refillTidQ := if firstChunk state then (mshrAckEntry state).reqId else state.refillTidQ
  refillCntQ := (missRespFsmComb state input).refillCntD
  refillNeedRspQ :=
    if firstChunk state then (mshrAckEntry state).needRsp else state.refillNeedRspQ
  refillIsPrefetchQ :=
    if firstChunk state then (mshrAckEntry state).isPrefetch else state.refillIsPrefetchQ
  refillWbackQ :=
    if firstChunk state then (mshrAckEntry state).wback else state.refillWbackQ
  refillDirtyQ :=
    if firstChunk state then (mshrAckEntry state).dirty else state.refillDirtyQ
  refillDirtyDataQ :=
    if firstChunk state then cbufAckData state else state.refillDirtyDataQ
  refillCoreRspWordQ :=
    if firstChunk state then (mshrAckEntry state).wordIdx else state.refillCoreRspWordQ
  coreRspBuf :=
    state.coreRspBuf.step cfg.refillCoreRspFeedthrough
      (refillCoreRspValid state) (refillCoreRsp state input) true
  respMetaFifo :=
    state.respMetaFifo.step false (respMetaW input) (respMetaWdata input)
      (missRespFsmComb state input).refillFifoRespMetaR
  mshr := Mshr.step state.mshr (mshrInput state input)
  cbuf := cbufD state input

end Refill

end Cva6Hpd.Hpdcache.MissHandler
