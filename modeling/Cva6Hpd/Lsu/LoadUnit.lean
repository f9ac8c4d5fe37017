import Cva6Hpd.Hw.Bits
import Cva6Hpd.Lsu.Types

/-!
# The load unit

`load_unit` asks the data cache for a load in the cycle of its translation, sends the
physical tag in the next cycle or kills the request, and keeps what it needs of each
granted request in a buffer until the answer is there. A load waits while the store unit
holds a store to the same double word of a page.
-/

namespace Cva6Hpd.Lsu.LoadUnit

open Cva6Hpd.Ariane
open Cva6Hpd.Hw

inductive FsmState where
  | idle
  | waitGnt
  | sendTag
  | waitPageOffset
  | abortTransaction
  | abortTransactionNi
  | waitTranslation
  | waitFlush
  | waitWbEmpty
  | waitSpecLoad
deriving DecidableEq

variable {cfg : Cfg}

/-- `ldbuf_t`. -/
structure LdBuf (cfg : Cfg) where
  transId : cfg.TransId
  addressOffset : BitVec cfg.xlenAlignBytes
  operation : FuOp
deriving DecidableEq

structure State (cfg : Cfg) where
  stateQ : FsmState
  ldbufValidQ : Bits cfg.nrLoadBufEntries
  ldbufFlushedQ : Bits cfg.nrLoadBufEntries
  ldbufQ : Fin cfg.nrLoadBufEntries → LdBuf cfg
  ldbufLastIdQ : Fin cfg.nrLoadBufEntries

/-- `paddr_ni` tells that the translation is to a region that is not idempotent. -/
structure Input (cfg : Cfg) where
  flush : Bool
  valid : Bool
  lsuCtrl : LsuCtrl cfg
  mbe : Bool
  paddr : BitVec cfg.plen
  ex : ExceptionT
  dtlbHit : Bool
  paddrNi : Bool
  pageOffsetMatches : Bool
  storeBufferEmpty : Bool
  commitTranId : cfg.TransId
  reqPort : DcacheReqO cfg
  dcacheWbufferNotNi : Bool

def reset : State cfg where
  stateQ := .idle
  ldbufValidQ := Bits.zero
  ldbufFlushedQ := Bits.zero
  ldbufQ _ := { transId := 0, addressOffset := 0, operation := .add }
  ldbufLastIdQ := 0

/-- `LDBUF_FALLTHROUGH`. -/
def fallthrough (cfg : Cfg) : Bool := decide (cfg.nrLoadBufEntries = 1)

/-! ## Control -/

section Control

variable (s : State cfg) (i : Input cfg)

def ldbufFull : Bool := s.ldbufValidQ.all

/-- `ldbuf_r`. -/
def ldbufR : Bool := i.reqPort.dataRvalid

/-- `ldbuf_rindex`: the identifier of the answer. -/
def ldbufRindex : Fin cfg.nrLoadBufEntries :=
  Fin.ofNat cfg.nrLoadBufEntries i.reqPort.dataRid.toNat

/-- `ldbuf_windex`: the first free entry, or the one that is read in this cycle. -/
def ldbufWindex : Fin cfg.nrLoadBufEntries :=
  if fallthrough cfg && ldbufR i then ldbufRindex i
  else Bits.firstIndex fun entry => !s.ldbufValidQ entry

def stallNi : Bool :=
  ((!i.dcacheWbufferNotNi || !i.storeBufferEmpty) ||
      decide (i.commitTranId ≠ i.lsuCtrl.transId)) &&
    (i.paddrNi && cfg.nonIdemPotenceEn)

def acceptReq : Bool :=
  i.valid && (!ldbufFull s || (fallthrough cfg && ldbufR i))

/-- The load does not depend on a branch, or it does not disturb. -/
def mayAccess : Bool :=
  !cfg.speculativeSb || !i.lsuCtrl.isSpeculativeLoad || (i.dtlbHit && !i.paddrNi)

/-- A new load asks the data cache. -/
def asks : Bool := acceptReq s i && mayAccess i && !i.pageOffsetMatches

/-- The granted request can be followed by its tag. -/
def sendsTag : Bool := !(cfg.mmuPresent && !i.dtlbHit) && !stallNi i

def dataReq : Bool :=
  match s.stateQ with
  | .idle | .sendTag => asks s i
  | .waitGnt => true
  | _ => false

def killReq : Bool :=
  match s.stateQ with
  | .sendTag => i.ex.valid
  | .waitFlush => true
  | .abortTransaction => cfg.mmuPresent
  | .abortTransactionNi => cfg.nonIdemPotenceEn
  | _ => false

def tagValid : Bool :=
  match s.stateQ with
  | .sendTag | .waitFlush => true
  | .abortTransaction => cfg.mmuPresent
  | .abortTransactionNi => cfg.nonIdemPotenceEn
  | _ => false

/-- A speculative load whose branch was predicted wrongly. -/
def misspeculated : Bool := cfg.speculativeSb && i.lsuCtrl.isSpeculativeLoadMiss

def popLd : Bool :=
  match s.stateQ with
  | .idle | .sendTag => asks s i && i.reqPort.dataGnt && sendsTag i
  | .waitGnt => i.reqPort.dataGnt && sendsTag i
  | .waitSpecLoad => misspeculated i && !i.reqPort.dataRvalid
  | .waitTranslation =>
      (cfg.mmuPresent || cfg.nonIdemPotenceEn) && i.ex.valid && !i.reqPort.dataRvalid
  | _ => false

/-- The state behind a request; `kept` is the state if nothing happens. -/
def requested (kept : FsmState) : FsmState :=
  if !i.reqPort.dataGnt then .waitGnt
  else if cfg.mmuPresent && !i.dtlbHit then .abortTransaction
  else if !stallNi i then .sendTag
  else if cfg.nonIdemPotenceEn then .abortTransactionNi
  else kept

/-- The state behind `IDLE` and `SEND_TAG`. -/
def accepts : FsmState :=
  if acceptReq s i then
    if mayAccess i then
      if !i.pageOffsetMatches then requested i .idle else .waitPageOffset
    else .waitSpecLoad
  else .idle

/-- `state_d` before the flush. -/
def advances : FsmState :=
  match s.stateQ with
  | .idle | .sendTag => accepts s i
  | .waitPageOffset => if !i.pageOffsetMatches then .waitGnt else .waitPageOffset
  | .waitSpecLoad =>
      if misspeculated i then
        if !i.reqPort.dataRvalid then .idle else .waitSpecLoad
      else .idle
  | .waitGnt => requested i .waitGnt
  | .waitFlush => .idle
  | .abortTransaction => if cfg.mmuPresent then .waitTranslation else .idle
  | .abortTransactionNi => if cfg.nonIdemPotenceEn then .waitWbEmpty else .idle
  | .waitWbEmpty =>
      if cfg.nonIdemPotenceEn && i.dcacheWbufferNotNi then .waitTranslation else .idle
  | .waitTranslation =>
      if cfg.mmuPresent || cfg.nonIdemPotenceEn then
        if i.ex.valid then .idle
        else if i.dtlbHit then .waitGnt
        else .waitTranslation
      else .idle

def stateD : FsmState := if i.flush then .waitFlush else advances s i

/-- `ldbuf_w`: a granted request. -/
def ldbufW : Bool := dataReq s i && i.reqPort.dataGnt

end Control

/-! ## Answers -/

section Answers

variable (s : State cfg) (i : Input cfg)

def ldbufRdata : LdBuf cfg := s.ldbufQ (ldbufRindex i)

/-- The answer to a request that was not flushed. -/
def answers : Bool := i.reqPort.dataRvalid && !s.ldbufFlushedQ (ldbufRindex i)

/-- The exception of the load whose tag is sent. -/
def answersEx : Bool := answers s i && i.ex.valid && decide (s.stateQ = .sendTag)

def answersValid : Bool :=
  (answers s i && (decide (s.ldbufLastIdQ ≠ ldbufRindex i) || !killReq s i)) || answersEx s i

/-- The exception of a load that waits for its translation. -/
def excepts : Bool :=
  (cfg.mmuPresent || cfg.nonIdemPotenceEn) && decide (s.stateQ = .waitTranslation) &&
    !i.reqPort.dataRvalid && i.ex.valid && i.valid

/-- A load is removed that was misspeculated. -/
def drops : Bool :=
  decide (s.stateQ = .waitSpecLoad) && misspeculated i && !i.reqPort.dataRvalid && i.valid

/-- `valid_o`. -/
def validO : Bool := answersValid s i || excepts s i || drops s i

/-- `ex_o.valid`. -/
def exValid : Bool := !drops s i && (excepts s i || answersEx s i)

/-- `trans_id_o`. -/
def transId : cfg.TransId :=
  if excepts s i || drops s i then i.lsuCtrl.transId else (ldbufRdata s i).transId

end Answers

/-! ## Result -/

section Result

variable (s : State cfg) (i : Input cfg)

def shiftedData : BitVec cfg.xlen :=
  i.reqPort.dataRdata >>> (8 * (ldbufRdata s i).addressOffset.toNat)

/-- `endian_data`. -/
def endianData (mbe : Bool) (operation : FuOp) (data : BitVec cfg.xlen) : BitVec cfg.xlen :=
  if mbe then
    match operation with
    | .lb | .lbu | .hlvB | .hlvBu | .flb => data
    | .lh | .lhu | .hlvH | .hlvHu | .hlvxHu | .flh => swapBytes 2 data
    | .lw | .lwu | .hlvW | .hlvWu | .hlvxWu | .flw | .amoLrw | .amoScw | .amoSwapw | .amoAddw
    | .amoAndw | .amoOrw | .amoXorw | .amoMaxw | .amoMaxwu | .amoMinw | .amoMinwu =>
        swapBytes 4 data
    | _ => swapBytes (cfg.xlen / 8) data
  else data

def rdataIsSigned : FuOp → Bool
  | .lw | .lh | .lb | .hlvW | .hlvH | .hlvB => true
  | _ => false

def rdataIsFpSigned : FuOp → Bool
  | .flw | .flh | .flb => true
  | _ => false

/-- `rdata_offset`: the byte that has the sign bit. -/
def rdataOffset (cfg : Cfg) (mbe : Bool) (operation : FuOp)
    (addressOffset : BitVec cfg.xlenAlignBytes) : BitVec cfg.xlenAlignBytes :=
  match operation with
  | .lw | .flw | .hlvW => if cfg.isXlen64 && !mbe then addressOffset + 3 else addressOffset
  | .lh | .flh | .hlvH => if !mbe then addressOffset + 1 else addressOffset
  | _ => addressOffset

def rdataSignBit : Bool :=
  let load := ldbufRdata s i
  let offset := rdataOffset cfg i.mbe load.operation load.addressOffset
  (rdataIsSigned load.operation && i.reqPort.dataRdata.getLsbD (8 * offset.toNat + 7)) ||
    (cfg.fpPresent && rdataIsFpSigned load.operation)

/-- The first `count` bits of the data below copies of the sign bit. -/
def extend (count : Nat) (sign : Bool) (data : BitVec cfg.xlen) : BitVec cfg.xlen :=
  (data.setWidth count).setWidth cfg.xlen |||
    (if sign then BitVec.allOnes cfg.xlen <<< count else 0)

/-- `result_o`. -/
def result : BitVec cfg.xlen :=
  let operation := (ldbufRdata s i).operation
  let data := endianData i.mbe operation (shiftedData s i)
  let sign := rdataSignBit s i
  match operation with
  | .lw | .lwu | .hlvW | .hlvWu | .hlvxWu => extend 32 sign data
  | .lh | .lhu | .hlvH | .hlvHu | .hlvxHu => extend 16 sign data
  | .lb | .lbu | .hlvB | .hlvBu => extend 8 sign data
  | .flw => if cfg.fpPresent then extend 32 sign data else data
  | .flh => if cfg.fpPresent then extend 16 sign data else data
  | .flb => if cfg.fpPresent then extend 8 sign data else data
  | _ => data

end Result

/-! ## Registers -/

section Cycle

variable (s : State cfg) (i : Input cfg)

def ldbufFlushedD : Bits cfg.nrLoadBufEntries := fun entry =>
  if ldbufW s i && decide (entry = ldbufWindex s i) then false
  else i.flush || s.ldbufFlushedQ entry

/-- A read frees its entry, unless the only entry is written again. -/
def ldbufValidD : Bits cfg.nrLoadBufEntries := fun entry =>
  if ldbufW s i && decide (entry = ldbufWindex s i) then true
  else if ldbufR i && (!fallthrough cfg || !ldbufW s i) && decide (entry = ldbufRindex i) then
    false
  else s.ldbufValidQ entry

/-- `ldbuf_wdata`. -/
def ldbufWdata : LdBuf cfg where
  transId := i.lsuCtrl.transId
  addressOffset := i.lsuCtrl.vaddr.setWidth cfg.xlenAlignBytes
  operation := i.lsuCtrl.operation

def step : State cfg where
  stateQ := stateD s i
  ldbufValidQ := ldbufValidD s i
  ldbufFlushedQ := ldbufFlushedD s i
  ldbufQ :=
    if ldbufW s i then Function.update s.ldbufQ (ldbufWindex s i) (ldbufWdata i)
    else s.ldbufQ
  ldbufLastIdQ := if ldbufW s i then ldbufWindex s i else s.ldbufLastIdQ

end Cycle

end Cva6Hpd.Lsu.LoadUnit
