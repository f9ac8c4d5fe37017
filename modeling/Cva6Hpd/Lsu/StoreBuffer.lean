import Cva6Hpd.Common.Ring
import Cva6Hpd.Hw.Machine
import Cva6Hpd.Lsu.Types

/-!
# The store buffer

`store_buffer` keeps the stores that have their physical address in two rings: the
speculative queue until they commit, the commit queue until the data cache grants them. A
cache-block operation stays at the head of the commit queue until the cache answers it.
-/

namespace Cva6Hpd.Lsu.StoreBuffer

open Cva6Hpd.Ariane
open Cva6Hpd.Common
open Cva6Hpd.Common.FifoRegs (advance)

/-- `DEPTH_SPEC`. -/
abbrev depthSpec : Nat := 4

/-- `DEPTH_COMMIT`. -/
abbrev depthCommit : Nat := 4

variable {cfg : Cfg}

/-! ## State -/

/-- What a store hands to the data cache. -/
structure Store (cfg : Cfg) where
  address : BitVec cfg.plen
  data : BitVec cfg.xlen
  be : BitVec (cfg.xlen / 8)
  dataSize : BitVec 2
  cboOp : FuOp
deriving DecidableEq

/-- An entry of either queue. -/
structure Entry (cfg : Cfg) extends Store cfg where
  valid : Bool
  waitRvalid : Bool
deriving DecidableEq

/-- A reset entry is all zero, and the first operation of the encoding is `ADD`. -/
def Entry.zero : Entry cfg where
  address := 0
  data := 0
  be := 0
  dataSize := 0
  cboOp := .add
  valid := false
  waitRvalid := false

structure State (cfg : Cfg) where
  speculativeQueueQ : Fin depthSpec → Entry cfg
  speculativeReadPointerQ : Fin depthSpec
  speculativeWritePointerQ : Fin depthSpec
  speculativeStatusCntQ : BitVec 3
  commitQueueQ : Fin depthCommit → Entry cfg
  commitReadPointerQ : Fin depthCommit
  commitWritePointerQ : Fin depthCommit
  commitStatusCntQ : BitVec 3

structure Input (cfg : Cfg) where
  flush : Bool
  stallStPending : Bool
  commit : Bool
  valid : Bool
  validWithoutFlush : Bool
  store : Store cfg
  dataGnt : Bool
  dataRvalid : Bool

def reset : State cfg where
  speculativeQueueQ _ := .zero
  speculativeReadPointerQ := 0
  speculativeWritePointerQ := 0
  speculativeStatusCntQ := 0
  commitQueueQ _ := .zero
  commitReadPointerQ := 0
  commitWritePointerQ := 0
  commitStatusCntQ := 0

/-- A counter that first counts up and then down. -/
def statusCnt (cnt : BitVec 3) (up down : Bool) : BitVec 3 :=
  let raised := if up then cnt + 1 else cnt
  if down then raised - 1 else raised

def Entry.invalidate (entry : Entry cfg) : Entry cfg := { entry with valid := false }

def Entry.await (entry : Entry cfg) : Entry cfg := { entry with waitRvalid := true }

/-! ## Speculative queue -/

section Speculative

variable (s : State cfg) (i : Input cfg)

def inserted : Entry cfg := { i.store with valid := true, waitRvalid := false }

def insertQueue : Fin depthSpec → Entry cfg :=
  if i.valid then Function.update s.speculativeQueueQ s.speculativeWritePointerQ (inserted i)
  else s.speculativeQueueQ

def evictQueue : Fin depthSpec → Entry cfg :=
  let queue := insertQueue s i
  if i.commit then
    Function.update queue s.speculativeReadPointerQ (queue s.speculativeReadPointerQ).invalidate
  else queue

def speculativeQueueD : Fin depthSpec → Entry cfg :=
  if i.flush then fun entry => (evictQueue s i entry).invalidate else evictQueue s i

def speculativeReadPointerD : Fin depthSpec :=
  if i.commit then advance s.speculativeReadPointerQ else s.speculativeReadPointerQ

/-- A flush sets the write pointer to the registered read pointer. -/
def speculativeWritePointerD : Fin depthSpec :=
  if i.flush then s.speculativeReadPointerQ
  else if i.valid then advance s.speculativeWritePointerQ
  else s.speculativeWritePointerQ

def speculativeStatusCntD : BitVec 3 :=
  if i.flush then 0 else statusCnt s.speculativeStatusCntQ i.valid i.commit

/-- `ready_o`. -/
def ready : Bool := decide ((speculativeStatusCntD s i).toNat < depthSpec) || i.commit

end Speculative

/-! ## Commit queue -/

section Commit

variable (s : State cfg) (i : Input cfg)

/-- `commit_ready_o`. -/
def commitReady : Bool := decide (s.commitStatusCntQ.toNat < depthCommit)

/-- `no_st_pending_o`. -/
def noStPending : Bool := decide (s.commitStatusCntQ = 0)

/-- `store_buffer_empty_o`. -/
def storeBufferEmpty : Bool := decide (s.speculativeStatusCntQ = 0) && noStPending s

/-- The entry under the read pointer of the commit queue. -/
def head : Entry cfg := s.commitQueueQ s.commitReadPointerQ

def dataReq : Bool := (head s).valid && !i.stallStPending && !(head s).waitRvalid

def granted : Bool := dataReq s i && i.dataGnt

/-- `req_port_o`; of a port that only writes, the tag and the identifier are unused. -/
def reqPort : DcacheReqI cfg where
  addressIndex := (head s).address.setWidth cfg.dcacheIndexWidth
  addressTag := (head s).address.extractLsb' cfg.dcacheIndexWidth cfg.dcacheTagWidth
  dataWdata := (head s).data
  dataReq := dataReq s i
  dataWe := true
  dataBe := (head s).be
  dataSize := (head s).dataSize
  dataId := 0
  killReq := false
  tagValid := false
  cboOp := (head s).cboOp

/-- The grant, or the answer, evicts the head. -/
def evicts : Bool :=
  (granted s i && (decide ((head s).cboOp = .cboNone) || i.dataRvalid)) ||
    ((head s).valid && (head s).waitRvalid && i.dataRvalid)

/-- A granted cache-block operation waits for its answer. -/
def awaits : Bool := granted s i && !(decide ((head s).cboOp = .cboNone) || i.dataRvalid)

def storeQueue : Fin depthCommit → Entry cfg :=
  if evicts s i then Function.update s.commitQueueQ s.commitReadPointerQ (head s).invalidate
  else if awaits s i then Function.update s.commitQueueQ s.commitReadPointerQ (head s).await
  else s.commitQueueQ

/-- A commit moves the entry under the read pointer of the speculative queue. -/
def commitQueueD : Fin depthCommit → Entry cfg :=
  if i.commit then
    Function.update (storeQueue s i) s.commitWritePointerQ
      (s.speculativeQueueQ s.speculativeReadPointerQ)
  else storeQueue s i

def commitReadPointerD : Fin depthCommit :=
  if evicts s i then advance s.commitReadPointerQ else s.commitReadPointerQ

def commitWritePointerD : Fin depthCommit :=
  if i.commit then advance s.commitWritePointerQ else s.commitWritePointerQ

def commitStatusCntD : BitVec 3 :=
  let stored := if evicts s i then s.commitStatusCntQ - 1 else s.commitStatusCntQ
  if i.commit then stored + 1 else stored

end Commit

/-! ## Address checker -/

/-- `page_offset_matches_o`. -/
def pageOffsetMatches (s : State cfg) (i : Input cfg) (pageOffset : BitVec 12) : Bool :=
  decide (∃ place, pageDword pageOffset = pageDword (s.commitQueueQ place).address ∧
      (s.commitQueueQ place).valid = true) ||
    decide (∃ place, pageDword pageOffset = pageDword (s.speculativeQueueQ place).address ∧
      (s.speculativeQueueQ place).valid = true) ||
    (decide (pageDword pageOffset = pageDword i.store.address) && i.validWithoutFlush)

/-! ## Registers -/

def step (s : State cfg) (i : Input cfg) : State cfg where
  speculativeQueueQ := speculativeQueueD s i
  speculativeReadPointerQ := speculativeReadPointerD s i
  speculativeWritePointerQ := speculativeWritePointerD s i
  speculativeStatusCntQ := speculativeStatusCntD s i
  commitQueueQ := commitQueueD s i
  commitReadPointerQ := commitReadPointerD s i
  commitWritePointerQ := commitWritePointerD s i
  commitStatusCntQ := commitStatusCntD s i

def machine (cfg : Cfg) : Hw.Machine (State cfg) (Input cfg) where
  reset := reset
  step := step

end Cva6Hpd.Lsu.StoreBuffer
