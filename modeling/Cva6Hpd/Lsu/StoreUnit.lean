import Cva6Hpd.Lsu.AmoBuffer
import Cva6Hpd.Lsu.StoreBuffer

/-!
# The store unit

`store_unit` takes the stores and the atomic operations of the load and store unit, waits
for their translation and for room, and hands them to the store buffer or to the buffer of
atomic operations in the cycle after the translation, in which the physical address or an
exception is there.
-/

namespace Cva6Hpd.Lsu.StoreUnit

open Cva6Hpd.Ariane

inductive FsmState where
  | idle
  | validStore
  | waitTranslation
  | waitStoreReady
deriving DecidableEq

variable {cfg : Cfg}

structure State (cfg : Cfg) where
  stateQ : FsmState
  stDataQ : BitVec cfg.xlen
  stBeQ : BitVec (cfg.xlen / 8)
  stDataSizeQ : BitVec 2
  amoOpQ : AmoT
  cboOpQ : FuOp
  transIdQ : cfg.TransId
  storeBuffer : StoreBuffer.State cfg
  amoBuffer : AmoBuffer.State cfg

structure Input (cfg : Cfg) where
  flush : Bool
  stallStPending : Bool
  valid : Bool
  lsuCtrl : LsuCtrl cfg
  commit : Bool
  amoValidCommit : Bool
  mbe : Bool
  paddr : BitVec cfg.plen
  ex : ExceptionT
  dtlbHit : Bool
  amoResp : AmoBuffer.AmoResp
  reqPort : DcacheReqO cfg

def reset : State cfg where
  stateQ := .idle
  stDataQ := 0
  stBeQ := 0
  stDataSizeQ := 0
  amoOpQ := .none
  cboOpQ := .cboNone
  transIdQ := 0
  storeBuffer := StoreBuffer.reset
  amoBuffer := AmoBuffer.reset

/-! ## Data -/

/-- `data_align`, which rotates the data by the byte offset of the address. -/
def dataAlign (addr : BitVec 3) (data : BitVec cfg.xlen) : BitVec cfg.xlen :=
  data.rotateLeft (8 * (addr.toNat % if cfg.isXlen64 then 8 else 4))

/-- `endian_data`. -/
def endianData (mbe : Bool) (operation : FuOp) (data : BitVec cfg.xlen) : BitVec cfg.xlen :=
  if mbe then
    match operation with
    | .sb | .hsvB | .fsb => data
    | .sh | .hsvH | .fsh => swapBytes 2 data
    | .sw | .hsvW | .fsw | .amoLrw | .amoScw | .amoSwapw | .amoAddw | .amoAndw | .amoOrw
    | .amoXorw | .amoMaxw | .amoMinw | .amoMaxwu | .amoMinwu => swapBytes 4 data
    | _ => swapBytes (cfg.xlen / 8) data
  else data

/-- The data of the second cycle; an atomic operation still operates on it. -/
def stData (mbe : Bool) (ctrl : LsuCtrl cfg) : BitVec cfg.xlen :=
  let data := endianData mbe ctrl.operation ctrl.data
  if cfg.rva && ctrl.operation.isAmo then data
  else dataAlign (ctrl.vaddr.setWidth 3) data

/-- `amo_op_d`. -/
def amoOp (cfg : Cfg) (operation : FuOp) : AmoT :=
  if cfg.rva then
    match operation with
    | .amoLrw | .amoLrd => .lr
    | .amoScw | .amoScd => .sc
    | .amoSwapw | .amoSwapd => .swap
    | .amoAddw | .amoAddd => .add
    | .amoAndw | .amoAndd => .and
    | .amoOrw | .amoOrd => .or
    | .amoXorw | .amoXord => .xor
    | .amoMaxw | .amoMaxd => .max
    | .amoMaxwu | .amoMaxdu => .maxu
    | .amoMinw | .amoMind => .min
    | .amoMinwu | .amoMindu => .minu
    | _ => .none
  else .none

/-- `cbo_op_d`. -/
def cboOp (cfg : Cfg) (operation : FuOp) : FuOp :=
  if cfg.rvZiCbom then
    match operation with
    | .cboInval => .cboInval
    | .cboClean => .cboClean
    | .cboFlush => .cboFlush
    | _ => .cboNone
  else .cboNone

/-! ## Control -/

section Control

variable (s : State cfg) (i : Input cfg)

def stValid : Bool := decide (s.stateQ = .validStore) && !i.flush && !i.ex.valid

def stValidWithoutFlush : Bool := decide (s.stateQ = .validStore)

def storeBufferValid : Bool := stValid s i && (!cfg.rva || decide (s.amoOpQ = .none))

def amoBufferValid : Bool := stValid s i && (cfg.rva && decide (s.amoOpQ ≠ .none))

def storeBufferInput : StoreBuffer.Input cfg where
  flush := i.flush
  stallStPending := i.stallStPending
  commit := i.commit
  valid := storeBufferValid s i
  validWithoutFlush := stValidWithoutFlush s
  store :=
    { address := i.paddr
      data := s.stDataQ
      be := s.stBeQ
      dataSize := s.stDataSizeQ
      cboOp := s.cboOpQ }
  dataGnt := i.reqPort.dataGnt
  dataRvalid := i.reqPort.dataRvalid

def amoBufferInput : AmoBuffer.Input cfg where
  flush := i.flush
  valid := amoBufferValid s i
  amo := { op := s.amoOpQ, paddr := i.paddr, data := s.stDataQ, size := s.stDataSizeQ }
  ack := i.amoResp.ack
  amoValidCommit := i.amoValidCommit
  noStPending := StoreBuffer.noStPending s.storeBuffer

/-- `st_ready`. -/
def stReady : Bool :=
  StoreBuffer.ready s.storeBuffer (storeBufferInput s i) &&
    (!cfg.rva || AmoBuffer.ready s.amoBuffer)

/-- The unit takes a new request: behind a store no atomic operation. -/
def starts : Bool :=
  match s.stateQ with
  | .idle => i.valid
  | .validStore => i.valid && (!cfg.rva || !i.lsuCtrl.operation.isAmo)
  | _ => false

/-- The translation of the new request is there in the next cycle. -/
def translates : Bool := !cfg.mmuPresent || i.dtlbHit

/-- An exception of the request that waits, or of the one that was translated. -/
def excepts : Bool := i.ex.valid && decide (s.stateQ ≠ .idle)

def popSt : Bool := (starts s i && translates i && stReady s i) || excepts s i

/-- `state_d` before the exception and the flush. -/
def advances : FsmState :=
  match s.stateQ with
  | .idle | .validStore =>
      if starts s i then
        if !stReady s i then .waitStoreReady
        else if !translates i then .waitTranslation
        else .validStore
      else .idle
  | .waitStoreReady => if stReady s i && i.dtlbHit then .idle else .waitStoreReady
  | .waitTranslation => if cfg.mmuPresent && i.dtlbHit then .idle else .waitTranslation

def stateD : FsmState :=
  if i.flush || excepts s i then .idle else advances s i

end Control

/-! ## Registers -/

def step (s : State cfg) (i : Input cfg) : State cfg where
  stateQ := stateD s i
  stDataQ := stData i.mbe i.lsuCtrl
  stBeQ := i.lsuCtrl.be
  stDataSizeQ := i.lsuCtrl.operation.extractTransferSize
  amoOpQ := amoOp cfg i.lsuCtrl.operation
  cboOpQ := cboOp cfg i.lsuCtrl.operation
  transIdQ := i.lsuCtrl.transId
  storeBuffer := StoreBuffer.step s.storeBuffer (storeBufferInput s i)
  amoBuffer := if cfg.rva then AmoBuffer.step s.amoBuffer (amoBufferInput s i) else s.amoBuffer

end Cva6Hpd.Lsu.StoreUnit
