import Cva6Hpd.Common.FifoReg
import Cva6Hpd.Lsu.LoadUnit
import Cva6Hpd.Lsu.StoreUnit
import Cva6Hpd.Lsu.Types

/-!
# The load and store unit

`load_store_unit` with its bypass queue, its load unit and its store unit, in a core
without an accelerator. The translation is an input: whether the presented address hits,
and, one cycle later, the physical address or the exception.
-/

/-!
## The bypass queue of the load and store unit

`lsu_bypass` hands a request of the issue stage to the load unit or the store unit in the
cycle in which it arrives, and keeps it in one of two registers until the unit takes it.
The counter of the registers is two bits wide and is not guarded.
-/

namespace Cva6Hpd.Lsu.LsuBypass

open Cva6Hpd.Common.FifoRegs (advance)

/-- The fields of `bp_resolve_t` that the load and store unit reads. -/
structure BpResolve where
  valid : Bool
  isMispredict : Bool
deriving DecidableEq

variable {cfg : Cfg}

/-- A register after reset. -/
def noRequest : LsuCtrl cfg where
  valid := false
  vaddr := 0
  data := 0
  be := 0
  fu := .none
  operation := .add
  transId := 0
  isSpeculativeLoad := false
  isSpeculativeLoadMiss := false

structure State (cfg : Cfg) where
  memQ : Fin 2 → LsuCtrl cfg
  statusCntQ : BitVec 2
  writePointerQ : Fin 2
  readPointerQ : Fin 2

structure Input (cfg : Cfg) where
  flush : Bool
  lsuReq : LsuCtrl cfg
  lsuReqValid : Bool
  popLd : Bool
  popSt : Bool
  resolvedBranch : BpResolve

def reset : State cfg where
  memQ _ := noRequest
  statusCntQ := 0
  writePointerQ := 0
  readPointerQ := 0

section Outputs

variable (s : State cfg)

def empty : Bool := decide (s.statusCntQ = 0)

/-- `ready_o`. -/
def ready : Bool := empty s

/-- `lsu_ctrl_o`. -/
def lsuCtrl (lsuReq : LsuCtrl cfg) : LsuCtrl cfg :=
  if empty s then lsuReq else s.memQ s.readPointerQ

end Outputs

section Cycle

variable (s : State cfg) (i : Input cfg)

/-- A request that arrives while its branch resolves. -/
def resolved : LsuCtrl cfg :=
  if i.lsuReq.isSpeculativeLoad && i.resolvedBranch.valid then
    if i.resolvedBranch.isMispredict then { i.lsuReq with isSpeculativeLoadMiss := true }
    else { i.lsuReq with isSpeculativeLoad := false }
  else i.lsuReq

def writeMem : Fin 2 → LsuCtrl cfg :=
  if i.lsuReqValid then Function.update s.memQ s.writePointerQ (resolved i) else s.memQ

def popMem : Fin 2 → LsuCtrl cfg :=
  let mem := writeMem s i
  if i.popLd || i.popSt then
    Function.update mem s.readPointerQ { mem s.readPointerQ with valid := false }
  else mem

/-- `status_cnt`, which every pop lowers. -/
def statusCnt : BitVec 2 :=
  let raised := if i.lsuReqValid then s.statusCntQ + 1 else s.statusCntQ
  let lowered := if i.popLd then raised - 1 else raised
  if i.popSt then lowered - 1 else lowered

def readPointer : Fin 2 :=
  let once := if i.popLd then advance s.readPointerQ else s.readPointerQ
  if i.popSt then advance once else once

def step : State cfg where
  memQ :=
    if i.flush || (i.popSt && i.popLd) then fun _ => noRequest else popMem s i
  statusCntQ := if i.flush then 0 else statusCnt s i
  writePointerQ :=
    if i.flush then 0
    else if i.lsuReqValid then advance s.writePointerQ
    else s.writePointerQ
  readPointerQ := if i.flush then 0 else readPointer s i

end Cycle

end Cva6Hpd.Lsu.LsuBypass

namespace Cva6Hpd.Lsu.LoadStoreUnit

open Cva6Hpd.Hw

variable {cfg : Cfg}

structure State (cfg : Cfg) where
  bypass : LsuBypass.State cfg
  loadUnit : LoadUnit.State cfg
  storeUnit : StoreUnit.State cfg

/-- The valid bit of `lsuReq` is `lsu_valid_i`. -/
structure Input (cfg : Cfg) where
  flush : Bool
  stallStPending : Bool
  lsuReq : LsuCtrl cfg
  resolvedBranch : LsuBypass.BpResolve
  commit : Bool
  amoValidCommit : Bool
  commitTranId : cfg.TransId
  mbe : Bool
  paddr : BitVec cfg.plen
  ex : ExceptionT
  dtlbHit : Bool
  paddrNi : Bool
  dcacheWbufferNotNi : Bool
  loadPort : DcacheReqO cfg
  storePort : DcacheReqO cfg
  amoResp : AmoBuffer.AmoResp

def reset : State cfg where
  bypass := LsuBypass.reset
  loadUnit := LoadUnit.reset
  storeUnit := StoreUnit.reset

section Wires

variable (s : State cfg) (i : Input cfg)

/-- `lsu_ctrl`: the request at the head. -/
def lsuCtrl : LsuCtrl cfg := LsuBypass.lsuCtrl s.bypass i.lsuReq

def ldValid : Bool := decide ((lsuCtrl s i).fu = .load) && (lsuCtrl s i).valid

def stValid : Bool := decide ((lsuCtrl s i).fu = .store) && (lsuCtrl s i).valid

def storeInput : StoreUnit.Input cfg where
  flush := i.flush
  stallStPending := i.stallStPending
  valid := stValid s i
  lsuCtrl := lsuCtrl s i
  commit := i.commit
  amoValidCommit := i.amoValidCommit
  mbe := i.mbe
  paddr := i.paddr
  ex := i.ex
  dtlbHit := i.dtlbHit
  amoResp := i.amoResp
  reqPort := i.storePort

/-- The inputs of the store buffer. -/
def bufferInput : StoreBuffer.Input cfg :=
  StoreUnit.storeBufferInput s.storeUnit (storeInput s i)

/-- `page_offset_matches`, for the page offset of the request at the head. -/
def pageOffsetMatches : Bool :=
  StoreBuffer.pageOffsetMatches s.storeUnit.storeBuffer (bufferInput s i)
    ((lsuCtrl s i).vaddr.setWidth 12)

def loadInput : LoadUnit.Input cfg where
  flush := i.flush
  valid := ldValid s i
  lsuCtrl := lsuCtrl s i
  mbe := i.mbe
  paddr := i.paddr
  ex := i.ex
  dtlbHit := i.dtlbHit
  paddrNi := i.paddrNi
  pageOffsetMatches := pageOffsetMatches s i
  storeBufferEmpty := StoreBuffer.storeBufferEmpty s.storeUnit.storeBuffer
  commitTranId := i.commitTranId
  reqPort := i.loadPort
  dcacheWbufferNotNi := i.dcacheWbufferNotNi

def popLd : Bool := LoadUnit.popLd s.loadUnit (loadInput s i)

def popSt : Bool := StoreUnit.popSt s.storeUnit (storeInput s i)

def bypassInput : LsuBypass.Input cfg where
  flush := i.flush
  lsuReq := i.lsuReq
  lsuReqValid := i.lsuReq.valid
  popLd := popLd s i
  popSt := popSt s i
  resolvedBranch := i.resolvedBranch

/-- `lsu_ready_o`. -/
def lsuReady : Bool := LsuBypass.ready s.bypass

/-- `mmu_vaddr`. -/
def mmuVaddr : BitVec cfg.vlen :=
  match (lsuCtrl s i).fu with
  | .load | .store => (lsuCtrl s i).vaddr
  | _ => 0

/-- The load unit sends the tag of a request and does not kill it. -/
def confirms : Bool :=
  LoadUnit.tagValid s.loadUnit && !LoadUnit.killReq s.loadUnit (loadInput s i)

end Wires

def step (s : State cfg) (i : Input cfg) : State cfg where
  bypass := LsuBypass.step s.bypass (bypassInput s i)
  loadUnit := LoadUnit.step s.loadUnit (loadInput s i)
  storeUnit := StoreUnit.step s.storeUnit (storeInput s i)

def machine (cfg : Cfg) : Machine (State cfg) (Input cfg) where
  reset := reset
  step := step

end Cva6Hpd.Lsu.LoadStoreUnit
