import Cva6Hpd.Hpdcache.Pkg
import Cva6Hpd.Common.Arbiter
import Cva6Hpd.Common.FifoReg

/-!
# The flush controller

`hpdcache_flush`: a directory of the lines being written back, each kept until
the memory acknowledges it, a FIFO of write requests and a two-state machine
that reads a line out of the data arrays into the resizer. The data and the
resizer are left out; whether the resizer accepts an access is an input.
-/

namespace Cva6Hpd.Hpdcache.Flush

open Cva6Hpd.Hw
open Cva6Hpd.Common

/-- `flush_fsm_e`. -/
inductive FlushFsm where
  | flushIdle
  | flushSend
deriving DecidableEq, Repr

/-- `flush_mem_req_wmeta`, the fields that vary. -/
structure MemReq (cfg : Cfg) where
  nline : Nat
  memReqId : Fin cfg.flushEntries
deriving DecidableEq

/-- The registers of the flush controller. -/
structure State (cfg : Cfg) where
  flushDirValidQ : Bits cfg.flushEntries
  flushDirQ : Fin cfg.flushEntries → Nat
  flushSetQ : cfg.Set
  flushWayQ : cfg.WayVector
  flushWordQ : Nat
  flushFsmQ : FlushFsm
  flushDirFreeArb : Arbiter cfg.flushEntries
  memReqMetaFifo : FifoReg 2 (MemReq cfg)

/-- The inputs from the memory side in one cycle. -/
structure MemIn where
  flushResizerWok : Bool
  memReqWriteReady : Bool
  memRespWriteValid : Bool
  memRespWId : Nat

/-- The inputs of one cycle. -/
structure Input (cfg : Cfg) where
  flushAlloc : Bool
  flushAllocNline : Nat
  flushAllocWay : cfg.WayVector
  mem : MemIn

def reset (cfg : Cfg) : State cfg where
  flushDirValidQ := Bits.zero
  flushDirQ := fun _ => 0
  flushSetQ := 0
  flushWayQ := Bits.zero
  flushWordQ := 0
  flushFsmQ := .flushIdle
  flushDirFreeArb := Fxarb.reset
  memReqMetaFifo := FifoReg.reset { nline := 0, memReqId := 0 }

section Signals

variable {cfg : Cfg} (state : State cfg) (mem : MemIn)

/-- `flush_full_o`. -/
def full : Bool := state.flushDirValidQ.all

/-- `flush_empty_o`. -/
def empty : Bool := !state.flushDirValidQ.any

/-- `flush_busy_o`. -/
def busy : Bool := decide (state.flushFsmQ ≠ .flushIdle)

/-- `flush_eol`: the last access of the line has been read. -/
def eol : Bool := decide (state.flushWordQ = 0)

def memReqWok : Bool := state.memReqMetaFifo.wok false mem.memReqWriteReady

/-- `flush_alloc_ready_o`. -/
def allocReady : Bool :=
  decide (state.flushFsmQ = .flushIdle) && mem.flushResizerWok && memReqWok state mem &&
    !full state

def freeBv : Bits cfg.flushEntries :=
  Fxarb.gnt state.flushDirFreeArb fun e => !state.flushDirValidQ e

/-- `flush_dir_free_ptr`. -/
def freePtr : Fin cfg.flushEntries := (freeBv state).lastIndex

/-- `flush_dir_ack_ptr`, at the width of an index. -/
def ackPtr (cfg : Cfg) (mem : MemIn) : Nat :=
  mem.memRespWId % 2 ^ max 1 (Nat.clog 2 cfg.flushEntries)

/-- `flush_dir_ack_bv`. -/
def ackBv : Bits cfg.flushEntries := fun e =>
  mem.memRespWriteValid && decide (e.val = ackPtr cfg mem)

/-- `flush_ack_nline_o`. -/
def ackNline : Nat := state.flushDirQ (Fin.ofNat cfg.flushEntries (ackPtr cfg mem))

/-- `flush_check_hit_o`: the entry acknowledged in this cycle no longer counts. -/
def checkHit (checkNline : Nat) : Bool :=
  Bits.any fun e =>
    state.flushDirValidQ e && !ackBv mem e && decide (checkNline = state.flushDirQ e)

/-- `flush_resizer_w`. -/
def resizerW : Bool := decide (state.flushFsmQ = .flushSend)

/-- The next access of a line, wrapping at its end. -/
def nextWord (cfg : Cfg) (word : Nat) : Nat := (word + cfg.accessWords) % cfg.clWords

end Signals

section Step

variable {cfg : Cfg} (state : State cfg) (input : Input cfg)

/-- `flush_alloc`. -/
def alloc : Bool := input.flushAlloc && allocReady state input.mem

/-- `flush_mem_req_w`. -/
def memReqW : Bool :=
  decide (state.flushFsmQ = .flushIdle) && input.mem.flushResizerWok && !full state &&
    input.flushAlloc

/-- `flush_fsm_d`. -/
def fsmD : FlushFsm :=
  match state.flushFsmQ with
  | .flushIdle => if alloc state input then .flushSend else .flushIdle
  | .flushSend =>
      if input.mem.flushResizerWok && eol state then .flushIdle else .flushSend

/-- `flush_word_d`. -/
def wordD : Nat :=
  match state.flushFsmQ with
  | .flushIdle =>
      if alloc state input then nextWord cfg state.flushWordQ else state.flushWordQ
  | .flushSend =>
      if input.mem.flushResizerWok && !eol state then nextWord cfg state.flushWordQ
      else state.flushWordQ

def step : State cfg where
  flushDirValidQ := fun e =>
    (!state.flushDirValidQ e && (freeBv state e && alloc state input)) ||
      (state.flushDirValidQ e && !ackBv input.mem e)
  flushDirQ := fun e =>
    if alloc state input && decide (e = freePtr state) then input.flushAllocNline
    else state.flushDirQ e
  flushSetQ :=
    if alloc state input then cfg.setOf input.flushAllocNline else state.flushSetQ
  flushWayQ := if alloc state input then input.flushAllocWay else state.flushWayQ
  flushWordQ := wordD state input
  flushFsmQ := fsmD state input
  flushDirFreeArb :=
    Fxarb.step state.flushDirFreeArb (fun e => !state.flushDirValidQ e) (alloc state input)
  memReqMetaFifo :=
    state.memReqMetaFifo.step false (memReqW state input)
      { nline := input.flushAllocNline, memReqId := freePtr state }
      input.mem.memReqWriteReady

end Step

end Cva6Hpd.Hpdcache.Flush
