import Cva6Hpd.Lsu.Types

/-!
# The buffer of atomic operations

`amo_buffer` holds one atomic operation in a `cva6_fifo_v3` of one entry, from the store
unit until the data cache acknowledges it, and asks the data cache for it when it is at
the commit port and all committed stores are written.
-/

namespace Cva6Hpd.Lsu.AmoBuffer

open Cva6Hpd.Ariane

/-- `amo_op_t`. -/
structure AmoOp (cfg : Cfg) where
  op : AmoT
  paddr : BitVec cfg.plen
  data : BitVec cfg.xlen
  size : BitVec 2
deriving DecidableEq

/-- `amo_req_t`. -/
structure AmoReq where
  req : Bool
  amoOp : AmoT
  size : BitVec 2
  operandA : BitVec 64
  operandB : BitVec 64
deriving DecidableEq

/-- `amo_resp_t`. -/
structure AmoResp where
  ack : Bool
  result : BitVec 64
deriving DecidableEq

/-- The counter of the queue, which is one bit, and its entry. -/
structure State (cfg : Cfg) where
  statusCntQ : Bool
  memQ : AmoOp cfg

structure Input (cfg : Cfg) where
  flush : Bool
  valid : Bool
  amo : AmoOp cfg
  ack : Bool
  amoValidCommit : Bool
  noStPending : Bool

variable {cfg : Cfg} (s : State cfg) (i : Input cfg)

def reset : State cfg where
  statusCntQ := false
  memQ := { op := .none, paddr := 0, data := 0, size := 0 }

/-- `amo_valid`: the queue is full. -/
def amoValid : Bool := s.statusCntQ

/-- `ready_o`: the queue is empty. -/
def ready : Bool := !s.statusCntQ

def flushAmoBuffer : Bool := i.flush && !i.amoValidCommit

/-- `amo_req_o`. -/
def amoReq : AmoReq where
  req := i.noStPending && i.amoValidCommit && amoValid s
  amoOp := s.memQ.op
  size := s.memQ.size
  operandA := s.memQ.paddr.setWidth 64
  operandB := s.memQ.data.setWidth 64

def push : Bool := i.valid && !s.statusCntQ

def pop : Bool := i.ack && s.statusCntQ

def step : State cfg where
  statusCntQ :=
    if flushAmoBuffer i then false
    else if push s i then true
    else if pop s i then false
    else s.statusCntQ
  memQ := if push s i then i.amo else s.memQ

end Cva6Hpd.Lsu.AmoBuffer
