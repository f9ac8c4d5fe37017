import Cva6Hpd.Ariane.Pkg
import Cva6Hpd.Common.FifoV3
import Cva6Hpd.Common.Arbiter
import Cva6Hpd.Hw.Machine

/-!
# The adapter of the write-through caches

`wt_axi_adapter` with its `axi_shim`: requests of both caches wait in queues and are sent one
after the other, the identifiers of those of the data cache wait in one queue for reads and one
for writes, and write responses wait in a queue of their own. The data that are written, and
the responses to the instruction cache, are left out.
-/

namespace Cva6Hpd.CacheSubsystem.WtAxiAdapter

open Cva6Hpd.Hw
open Cva6Hpd.Common
open Cva6Hpd.Ariane (AmoT)

/-- The sizes of the adapter; lines are measured in words of the bus. -/
structure Cfg where
  plen : Nat
  tidBits : Nat
  idBits : Nat
  indexBits : Nat
  /-- `$clog2(AxiDataWidth / 8)`. -/
  offBits : Nat
  icacheWords : Nat
  dcacheWords : Nat
  metaFifoDepth : Nat
  two_le_idBits : 2 ≤ idBits
  dcacheWords_pos : 0 < dcacheWords
  metaFifoDepth_pos : 0 < metaFifoDepth

variable {cfg : Cfg}

namespace Cfg

/-- `AxiDataWidth`. -/
def dataBits (cfg : Cfg) : Nat := 8 * 2 ^ cfg.offBits

instance neZeroMetaFifoDepth (cfg : Cfg) : NeZero cfg.metaFifoDepth := ⟨cfg.metaFifoDepth_pos.ne'⟩

instance neZeroDcacheWords (cfg : Cfg) : NeZero cfg.dcacheWords := ⟨cfg.dcacheWords_pos.ne'⟩

end Cfg

/-! ## Data -/

/-- `dcache_out_t`. -/
inductive DcacheOut where
  | store | load | atomic | int
deriving DecidableEq

/-- `dcache_in_t`. -/
inductive DcacheIn where
  | inv | storeAck | loadAck | atomicAck | intAck
deriving DecidableEq

/-- `dcache_req_t`. -/
structure DcacheReq (cfg : Cfg) where
  rtype : DcacheOut
  size : BitVec 3
  paddr : BitVec cfg.plen
  tid : BitVec cfg.tidBits
  amoOp : AmoT
deriving DecidableEq

/-- `icache_req_t`. -/
structure IcacheReq (cfg : Cfg) where
  paddr : BitVec cfg.plen
  nc : Bool
  tid : BitVec cfg.tidBits
deriving DecidableEq

abbrev Word (cfg : Cfg) : Type := BitVec cfg.dataBits

/-- `dcache_rtrn_t`. -/
structure DcacheRtrn (cfg : Cfg) where
  rtype : DcacheIn
  tid : BitVec cfg.tidBits
  data : Fin cfg.dcacheWords → Word cfg
  /-- `inv.all` and `inv.idx`. -/
  invAll : Bool
  invIdx : BitVec cfg.indexBits

/-- The read address channel. -/
structure Ar (cfg : Cfg) where
  id : BitVec cfg.idBits
  addr : BitVec cfg.plen
  len : Nat
  size : BitVec 3
  lock : Bool
deriving DecidableEq

/-- The write address channel. -/
structure Aw (cfg : Cfg) where
  id : BitVec cfg.idBits
  addr : BitVec cfg.plen
  size : BitVec 3
  lock : Bool
  atop : BitVec 6
deriving DecidableEq

/-- The read data channel. -/
structure R (cfg : Cfg) where
  id : BitVec cfg.idBits
  data : Word cfg
  last : Bool

/-- The write response channel. -/
structure B (cfg : Cfg) where
  id : BitVec cfg.idBits
  resp : BitVec 2

/-- The states of the write channel for single writes, which all writes are. -/
inductive WrState where
  | idle | waitAwReady | waitLastWReady
deriving DecidableEq

structure State (cfg : Cfg) where
  arb : RrArbTree
  icacheDataFifo : FifoV3 2 (IcacheReq cfg)
  dcacheDataFifo : FifoV3 2 (DcacheReq cfg)
  rdIcacheId : FifoV3 cfg.metaFifoDepth (BitVec cfg.tidBits)
  rdDcacheId : FifoV3 cfg.metaFifoDepth (BitVec cfg.tidBits)
  wrDcacheId : FifoV3 cfg.metaFifoDepth (BitVec cfg.tidBits)
  /-- The response code says whether an exclusive write succeeded. -/
  bFifo : FifoV3 cfg.metaFifoDepth (Bool × BitVec cfg.idBits)
  wrStateQ : WrState
  amoOffQ : BitVec cfg.offBits
  amoGenRQ : Bool
  dcacheFirstQ : Bool
  dcacheRdShiftQ : Fin cfg.dcacheWords → Word cfg
  dcacheRtrnVldQ : Bool
  dcacheRtrnTidQ : BitVec cfg.tidBits
  dcacheRtrnTypeQ : DcacheIn
  /-- `dcache_rtrn_inv_q.all` and `dcache_rtrn_inv_q.idx`. -/
  dcacheRtrnInvAllQ : Bool
  dcacheRtrnInvIdxQ : BitVec cfg.indexBits

structure Input (cfg : Cfg) where
  icacheDataReq : Bool
  icacheData : IcacheReq cfg
  dcacheDataReq : Bool
  dcacheData : DcacheReq cfg
  mbe : Bool
  invalValid : Bool
  invalAddr : BitVec 64
  arReady : Bool
  awReady : Bool
  wReady : Bool
  rValid : Bool
  r : R cfg
  bValid : Bool
  b : B cfg

def reset : State cfg where
  arb := .reset
  icacheDataFifo := .init ⟨0, false, 0⟩
  dcacheDataFifo := .init ⟨.store, 0, 0, 0, .none⟩
  rdIcacheId := .init 0
  rdDcacheId := .init 0
  wrDcacheId := .init 0
  bFifo := .init (false, 0)
  wrStateQ := .idle
  amoOffQ := 0
  amoGenRQ := false
  dcacheFirstQ := true
  dcacheRdShiftQ := fun _ => 0
  dcacheRtrnVldQ := false
  dcacheRtrnTidQ := 0
  dcacheRtrnTypeQ := .loadAck
  dcacheRtrnInvAllQ := false
  dcacheRtrnInvIdxQ := 0

/-! ## The request path -/

/-- Bit 0 of an identifier is set for the data cache, bit 1 for atomics. -/
def axiId (dcache atomic : Bool) : BitVec cfg.idBits :=
  BitVec.ofNat _ (dcache.toNat + 2 * atomic.toNat)

/-- `{ATOP_ATOMICLOAD, ATOP_BIG_END or ATOP_LITTLE_END, op}`. -/
def atomicLoad (mbe : Bool) (op : BitVec 3) : BitVec 6 := 0b10#2 ++ BitVec.ofBool mbe ++ op

/-- `axi_wr_atop` of an atomic. -/
def atop (mbe : Bool) : AmoT → BitVec 6
  | .swap => 0b110000
  | .add => atomicLoad mbe 0b000
  | .and => atomicLoad mbe 0b001
  | .or => atomicLoad mbe 0b011
  | .xor => atomicLoad mbe 0b010
  | .max => atomicLoad mbe 0b100
  | .maxu => atomicLoad mbe 0b110
  | .min => atomicLoad mbe 0b101
  | .minu => atomicLoad mbe 0b111
  | _ => 0

/-- `amo_off_d` of a store-conditional: its offset in the word of the bus, aligned to its
size. -/
def amoOff (req : DcacheReq cfg) : BitVec cfg.offBits :=
  req.paddr.setWidth _ &&& ~~~((BitVec.ofNat cfg.offBits 1 <<< (req.size.setWidth 2).toNat) - 1)

section Request

variable (s : State cfg) (i : Input cfg)

/-- `icache_data`. -/
def icacheData : IcacheReq cfg := s.icacheDataFifo.dataOut

/-- `dcache_data`. -/
def dcacheData : DcacheReq cfg := s.dcacheDataFifo.dataOut

def arbReq : Bits 2 := fun port =>
  if port = 0 then !(s.icacheDataFifo.empty || s.rdIcacheId.full)
  else !(s.dcacheDataFifo.empty || s.wrDcacheId.full || s.rdDcacheId.full)

def arbIdx : Bool := s.arb.idx (arbReq s)

/-- A request of this kind of the data cache is decoded. -/
def decodes (rtype : DcacheOut) : Bool :=
  (arbReq s).any && arbIdx s && (dcacheData s).rtype = rtype

def axiRdReq : Bool :=
  ((arbReq s).any && !arbIdx s) || decodes s .load ||
    (decodes s .atomic && (dcacheData s).amoOp = .lr)

def axiWrReq : Bool :=
  decodes s .store || (decodes s .atomic && (dcacheData s).amoOp ≠ .lr)

/-- The read address channel: the fields of `axi_rd_*_in`. -/
def axiAr : Ar cfg :=
  let lock : Bool := decodes s .atomic && (dcacheData s).amoOp = .lr
  { id := axiId (arbIdx s) lock
    addr := if arbIdx s then (dcacheData s).paddr else (icacheData s).paddr
    len :=
      if arbIdx s then if (dcacheData s).size.getLsbD 2 then cfg.dcacheWords - 1 else 0
      else if (icacheData s).nc then 0 else cfg.icacheWords - 1
    size :=
      if arbIdx s && !(dcacheData s).size.getLsbD 2 then (dcacheData s).size
      else BitVec.ofNat 3 cfg.offBits
    lock := lock }

/-- The write address channel: the fields of `axi_wr_*_in`. -/
def axiAw : Aw cfg where
  id := axiId (arbIdx s) (decodes s .atomic)
  addr := (dcacheData s).paddr
  size := (dcacheData s).size
  lock := decodes s .atomic && (dcacheData s).amoOp = .sc
  atop := if decodes s .atomic then atop i.mbe (dcacheData s).amoOp else 0

def amoGenRD : Bool :=
  if decodes s .atomic then (dcacheData s).amoOp ≠ .sc else s.amoGenRQ

def amoOffD : BitVec cfg.offBits :=
  if decodes s .atomic && (dcacheData s).amoOp = .sc then amoOff (dcacheData s) else s.amoOffQ

/-! ### The shim -/

def awValid : Bool :=
  match s.wrStateQ with
  | .idle => axiWrReq s
  | .waitAwReady => true
  | .waitLastWReady => false

def wValid : Bool :=
  match s.wrStateQ with
  | .idle => axiWrReq s
  | .waitAwReady => false
  | .waitLastWReady => true

def axiWrGnt : Bool :=
  match s.wrStateQ with
  | .idle => axiWrReq s && i.awReady && i.wReady
  | .waitAwReady => i.awReady
  | .waitLastWReady => i.wReady

def wrStateD : WrState :=
  match s.wrStateQ with
  | .idle =>
      match axiWrReq s, i.awReady, i.wReady with
      | true, false, true => .waitAwReady
      | true, true, false => .waitLastWReady
      | _, _, _ => .idle
  | .waitAwReady => if i.awReady then .idle else .waitAwReady
  | .waitLastWReady => if i.wReady then .idle else .waitLastWReady

def axiRdGnt : Bool := axiRdReq s && i.arReady

def arbGnt : Bool := axiRdGnt s i || axiWrGnt s i

def arbAck : Bits 2 := s.arb.gntO (arbReq s) (arbGnt s i)

def icacheDataAck : Bool := i.icacheDataReq && !s.icacheDataFifo.full

def dcacheDataAck : Bool := i.dcacheDataReq && !s.dcacheDataFifo.full

end Request

/-! ## The return path -/

/-- The signals of `p_axi_rtrn_decode` for the data cache. -/
structure Decode (cfg : Cfg) where
  rtrnRdEn : Bool
  rtrnVld : Bool
  rdPop : Bool
  wrPop : Bool
  rtype : DcacheIn
  bPop : Bool
  scRtrn : Bool
  invAll : Bool
  invIdx : BitVec cfg.indexBits

def Decode.idle : Decode cfg where
  rtrnRdEn := false
  rtrnVld := false
  rdPop := false
  wrPop := false
  rtype := .loadAck
  bPop := false
  scRtrn := false
  invAll := false
  invIdx := 0

/-- The word that a store-conditional returns. -/
def scWord (off : BitVec cfg.offBits) (exokay : Bool) : Word cfg :=
  if exokay then 0 else BitVec.twoPow _ (off.toNat * 8)

section Response

variable (s : State cfg) (i : Input cfg)

/-- A granted atomic invalidates its line. -/
def invalidate : Bool := decodes s .atomic && arbGnt s i

def axiRdRdy : Bool := !invalidate s i

/-- `b_push`. -/
def bPush : Bool := i.bValid && !s.bFifo.full

/-- `RESP_EXOKAY` and the identifier. -/
def bData : Bool × BitVec cfg.idBits := (i.b.resp = 1, i.b.id)

def bEmpty : Bool := s.bFifo.emptyThrough (bPush s i)

/-- `wr_exokay` and `wr_id_out`. -/
def bOut : Bool × BitVec cfg.idBits := s.bFifo.dataOutThrough (bPush s i) (bData i)

def icacheRtrnVldD : Bool := i.rValid && i.r.id = 0 && axiRdRdy s i && i.r.last

def decode : Decode cfg :=
  let default : Decode cfg := .idle
  if i.invalValid then
    { default with
      rtype := .inv, rtrnVld := true, invAll := true, invIdx := i.invalAddr.setWidth _ }
  else if invalidate s i then
    { default with
      rtype := .inv, rtrnVld := true, invAll := true, invIdx := (dcacheData s).paddr.setWidth _ }
  else if i.rValid && i.r.id.getLsbD 0 && axiRdRdy s i then
    if i.r.id.getLsbD 1 then
      { default with
        rtrnRdEn := true, rtrnVld := i.r.last, rtype := .atomicAck
        -- an atomic that was issued on the write channel has its identifier there
        wrPop := i.r.last && !s.wrDcacheId.empty
        rdPop := i.r.last && s.wrDcacheId.empty }
    else { default with rtrnRdEn := true, rtrnVld := i.r.last, rdPop := i.r.last }
  else if !bEmpty s i then
    if (bOut s i).2.getLsbD 1 then
      -- dropped if the atomic was answered by a read response
      { default with
        bPop := true, rtype := .atomicAck
        rtrnVld := !s.amoGenRQ, wrPop := !s.amoGenRQ, scRtrn := !s.amoGenRQ }
    else { default with bPop := true, rtype := .storeAck, rtrnVld := true, wrPop := true }
  else default

/-- `dcache_rtrn_tid_d`. -/
def dcacheRtrnTidD : BitVec cfg.tidBits :=
  if (decode s i).wrPop then s.wrDcacheId.dataOut else s.rdDcacheId.dataOut

/-- `dcache_rd_shift_d`. -/
def dcacheRdShiftD : Fin cfg.dcacheWords → Word cfg :=
  if (decode s i).rtrnRdEn then
    let shifted := fun word : Fin cfg.dcacheWords =>
      if next : word.val + 1 < cfg.dcacheWords then s.dcacheRdShiftQ ⟨word.val + 1, next⟩
      else i.r.data
    if s.dcacheFirstQ then Function.update shifted 0 i.r.data else shifted
  else if (decode s i).scRtrn then
    Function.update s.dcacheRdShiftQ 0 (scWord s.amoOffQ (bOut s i).1)
  else s.dcacheRdShiftQ

/-- `dcache_rtrn_o`. -/
def dcacheRtrn : DcacheRtrn cfg where
  rtype := s.dcacheRtrnTypeQ
  tid := s.dcacheRtrnTidQ
  data := s.dcacheRdShiftQ
  invAll := s.dcacheRtrnInvAllQ
  invIdx := s.dcacheRtrnInvIdxQ

end Response

/-! ## Registers -/

def step (s : State cfg) (i : Input cfg) : State cfg where
  arb := s.arb.step (arbReq s) (arbGnt s i)
  icacheDataFifo := s.icacheDataFifo.step (icacheDataAck s i) i.icacheData (arbAck s i 0) false
  dcacheDataFifo := s.dcacheDataFifo.step (dcacheDataAck s i) i.dcacheData (arbAck s i 1) false
  rdIcacheId :=
    s.rdIcacheId.step (arbAck s i 0 && axiRdGnt s i) (icacheData s).tid (icacheRtrnVldD s i) false
  rdDcacheId :=
    s.rdDcacheId.step (arbAck s i 1 && axiRdGnt s i) (dcacheData s).tid (decode s i).rdPop false
  wrDcacheId :=
    s.wrDcacheId.step (arbAck s i 1 && axiWrGnt s i) (dcacheData s).tid (decode s i).wrPop false
  bFifo := s.bFifo.stepThrough (bPush s i) (bData i) (decode s i).bPop
  wrStateQ := wrStateD s i
  amoOffQ := amoOffD s
  amoGenRQ := amoGenRD s
  dcacheFirstQ := if (decode s i).rtrnRdEn then i.r.last else s.dcacheFirstQ
  dcacheRdShiftQ := dcacheRdShiftD s i
  dcacheRtrnVldQ := (decode s i).rtrnVld
  dcacheRtrnTidQ := dcacheRtrnTidD s i
  dcacheRtrnTypeQ := (decode s i).rtype
  dcacheRtrnInvAllQ := (decode s i).invAll
  dcacheRtrnInvIdxQ := (decode s i).invIdx

def machine (cfg : Cfg) : Machine (State cfg) (Input cfg) where
  reset := reset
  step := step

end Cva6Hpd.CacheSubsystem.WtAxiAdapter
