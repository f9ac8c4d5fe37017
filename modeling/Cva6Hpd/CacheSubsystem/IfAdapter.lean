import Cva6Hpd.Hpdcache.Pkg
import Cva6Hpd.Lsu.AmoBuffer

/-!
# The interface adapter of the data cache

`cva6_hpdcache_if_adapter` on the port of the stores: it translates the stores, the cache
management operations and the atomic operations of the core, and the flushes, into requests
of the data cache, and sorts the responses by their identifiers. The core holds an atomic
operation until it is acknowledged and the data cache takes a request once, so that a flag
tells whether the operation has been taken.
-/

namespace Cva6Hpd.IfAdapter

open Cva6Hpd.Ariane
open Cva6Hpd.Hpdcache (ReqOp Pma)
open Cva6Hpd.Lsu (DcacheReqI)
open Cva6Hpd.Lsu.AmoBuffer (AmoReq AmoResp)

/-! ## Interface -/

/-- The parameters of the adapter, with its `hpdcache_req_sid_i`, which is constant, and
`is_inside_cacheable_regions`. -/
structure Cfg extends Lsu.Cfg where
  sid : Nat
  invalidateOnFlush : Bool
  cacheable : BitVec 64 → Bool
  dcacheIdWidth_pos : 0 < dcacheIdWidth

/-- `hpdcache_req_t` for requests of one word. -/
structure HpdcacheReq (cfg : Cfg) where
  addrOffset : BitVec cfg.dcacheIndexWidth
  wdata : BitVec cfg.xlen
  op : ReqOp
  be : BitVec (cfg.xlen / 8)
  size : BitVec 2
  sid : Nat
  tid : BitVec cfg.dcacheIdWidth
  needRsp : Bool
  physIndexed : Bool
  addrTag : BitVec cfg.dcacheTagWidth
  pma : Pma
deriving DecidableEq

/-- `hpdcache_rsp_t`; `request` is the number of the request that is answered, which no wire
carries. -/
structure HpdcacheRsp (cfg : Cfg) where
  rdata : BitVec cfg.xlen
  tid : BitVec cfg.dcacheIdWidth
  request : Nat
deriving DecidableEq

inductive FlushFsm where
  | flushIdle
  | flushPend
deriving DecidableEq

structure State where
  amoPendingQ : Bool
  flushFsmQ : FlushFsm
deriving DecidableEq

structure Input (cfg : Cfg) where
  req : DcacheReqI cfg.toCfg
  amoReq : AmoReq
  dcacheFlush : Bool
  reqReady : Bool
  rsp : Option (HpdcacheRsp cfg)

def reset : State where
  amoPendingQ := false
  flushFsmQ := .flushIdle

variable {cfg : Cfg} (s : State) (i : Input cfg)

/-! ## Requests -/

def forwardStore : Bool := i.req.dataReq

def forwardAmo : Bool := i.amoReq.req

def forwardFlush : Bool := s.flushFsmQ = .flushIdle && i.dcacheFlush

def storeOp : ReqOp :=
  if cfg.rvZiCbom then
    match i.req.cboOp with
    | .cboInval => .cmoInvalNline
    | .cboClean => .cmoFlushNline
    | .cboFlush => .cmoFlushInvalNline
    | _ => .store
  else .store

/-- `amo_op`. -/
def amoOp : AmoT → ReqOp
  | .lr => .amoLr
  | .sc => .amoSc
  | .swap => .amoSwap
  | .add => .amoAdd
  | .and => .amoAnd
  | .or => .amoOr
  | .xor => .amoXor
  | .max => .amoMax
  | .maxu => .amoMaxu
  | .min => .amoMin
  | .minu => .amoMinu
  | _ => .load

def amoIsWord (req : AmoReq) : Bool := req.size = 2

def amoIsWordHi (req : AmoReq) : Bool := req.operandA.getLsbD 2

/-- `amo_data`, of which a cache of 32 bit words takes the lower half. -/
def amoData (req : AmoReq) : BitVec cfg.xlen :=
  if cfg.isXlen64 then
    if amoIsWord req then
      (req.operandB.extractLsb' 0 32 ++ req.operandB.extractLsb' 0 32).setWidth cfg.xlen
    else req.operandB.setWidth cfg.xlen
  else req.operandB.setWidth cfg.xlen

def amoDataBe (req : AmoReq) : BitVec (cfg.xlen / 8) :=
  if cfg.isXlen64 then
    if amoIsWordHi req then BitVec.ofNat _ 0xf0
    else if amoIsWord req then BitVec.ofNat _ 0x0f
    else BitVec.ofNat _ 0xff
  else BitVec.ofNat _ 0x0f

def amoTag (req : AmoReq) : BitVec cfg.dcacheTagWidth :=
  req.operandA.extractLsb' cfg.dcacheIndexWidth cfg.dcacheTagWidth

/-- `hpdcache_req_is_uncacheable` for the tag of the request. -/
def isUncacheable (tag : BitVec cfg.dcacheTagWidth) : Bool :=
  !cfg.cacheable (tag.setWidth 64 <<< cfg.dcacheIndexWidth)

def hpdcacheReqAmo (req : AmoReq) : HpdcacheReq cfg where
  addrOffset := req.operandA.extractLsb' 0 cfg.dcacheIndexWidth
  wdata := amoData req
  op := amoOp req.amoOp
  be := amoDataBe req
  size := req.size
  sid := cfg.sid
  tid := BitVec.allOnes _
  needRsp := true
  physIndexed := true
  addrTag := amoTag req
  pma :=
    { uncacheable := isUncacheable (amoTag req : BitVec cfg.dcacheTagWidth)
      wrPolicyHint := .auto }

def hpdcacheReqStore : HpdcacheReq cfg where
  addrOffset := i.req.addressIndex
  wdata := i.req.dataWdata
  op := storeOp i
  be := i.req.dataBe
  size := i.req.dataSize
  sid := cfg.sid
  tid := 0
  needRsp := !(storeOp i = .store)
  physIndexed := true
  addrTag := i.req.addressTag
  pma := { uncacheable := isUncacheable i.req.addressTag, wrPolicyHint := .auto }

def hpdcacheReqFlush : HpdcacheReq cfg where
  addrOffset := 0
  wdata := 0
  op := if cfg.invalidateOnFlush then .cmoFlushInvalAll else .cmoFlushAll
  be := 0
  size := 0
  sid := cfg.sid
  tid := 0
  needRsp := true
  physIndexed := false
  addrTag := 0
  pma := { uncacheable := false, wrPolicyHint := .auto }

/-- `hpdcache_req_valid_o`. -/
def reqValid : Bool :=
  forwardAmo i && !s.amoPendingQ || forwardStore i || forwardFlush s i

/-- `hpdcache_req`; each request carries the attribute of its own tag, which is the one that
the source computes when the request is selected. -/
def hpdcacheReq : HpdcacheReq cfg :=
  if forwardAmo i then hpdcacheReqAmo i.amoReq
  else if forwardStore i then hpdcacheReqStore i
  else hpdcacheReqFlush

/-- The data cache takes the request. -/
def accepts : Bool := reqValid s i && i.reqReady

/-! ## Responses -/

/-- `amo_resp_word`. -/
def amoRespWord (req : AmoReq) (rdata : BitVec cfg.xlen) : BitVec 32 :=
  if cfg.isXlen64 && amoIsWordHi req then rdata.extractLsb' 32 32 else rdata.extractLsb' 0 32

/-- `cva6_amo_resp_o.result` for the data of a response. -/
def amoResult (req : AmoReq) (rdata : BitVec cfg.xlen) : BitVec 64 :=
  if amoIsWord req then (amoRespWord req rdata).signExtend 64 else rdata.setWidth 64

/-- `cva6_amo_resp_o`. -/
def amoResp : AmoResp :=
  match i.rsp with
  | none => { ack := false, result := 0 }
  | some rsp =>
    { ack := rsp.tid = BitVec.allOnes _
      result := amoResult i.amoReq rsp.rdata }

/-- `cva6_req_o.data_rvalid`. -/
def dataRvalid : Bool :=
  match i.rsp with
  | none => false
  | some rsp => !(rsp.tid = BitVec.allOnes _)

/-- `cva6_dcache_flush_ack_o`. -/
def flushAck : Bool :=
  match s.flushFsmQ, i.rsp with
  | .flushPend, some rsp => rsp.tid = 0
  | _, _ => false

/-! ## Step -/

def flushFsmD : FlushFsm :=
  match s.flushFsmQ with
  | .flushIdle => if i.dcacheFlush && i.reqReady then .flushPend else .flushIdle
  | .flushPend => if flushAck s i then .flushIdle else .flushPend

def step : State where
  amoPendingQ :=
    i.amoReq.req && i.reqReady && !s.amoPendingQ || !(amoResp i).ack && s.amoPendingQ
  flushFsmQ := flushFsmD s i

end Cva6Hpd.IfAdapter
