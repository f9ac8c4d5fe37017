import Cva6Hpd.Common.Arbiter
import Cva6Hpd.Common.FifoReg
import Cva6Hpd.Common.SyncBuffer
import Cva6Hpd.Hw.Machine

/-!
# The memory write arbiter

`hpdcache_mem_req_write_arbiter` takes the write requests of several units by fixed
priority, and remembers the grants. The data channel belongs to the oldest grant up
to the last beat of its burst, whether the memory took the address before, in the
same cycle, or not yet.
-/

namespace Cva6Hpd.Hpdcache.MemReqWriteArbiter

open Cva6Hpd.Hw
open Cva6Hpd.Common

/-! ## The arbiter -/

/-- What the arbiter reads of a request and of a beat: their zero values, and
`mem_req_w_last`. -/
structure Payload (Req ReqW : Type) where
  zeroReq : Req
  zeroReqW : ReqW
  memReqWLast : ReqW → Bool

variable {n : Nat} {Req ReqW : Type}

structure State (n : Nat) (Req : Type) where
  fxarb : Arbiter n
  reqFifo : SyncBuffer Req
  reqGntFifo : FifoReg 2 (Bits n)

structure Input (n : Nat) (Req ReqW : Type) where
  memReqWriteValid : Bits n
  memReqWrite : Fin n → Req
  memReqWriteDataValid : Bits n
  memReqWriteData : Fin n → ReqW
  memReqWriteReady : Bool
  memReqWriteDataReady : Bool

section Signals

variable (payload : Payload Req ReqW) (s : State n Req) (i : Input n Req ReqW)

def memWriteArbReqGnt : Bits n := Fxarb.gnt s.fxarb i.memReqWriteValid

/-- The oldest grant, `mem_write_arb_req_gnt_q`. -/
def memWriteArbReqGntQ : Bits n := s.reqGntFifo.rdata false (memWriteArbReqGnt s i)

def reqValid : Bool := Bits.any fun k => memWriteArbReqGnt s i k && i.memReqWriteValid k

def reqDataValid : Bool :=
  Bits.any fun k => memWriteArbReqGntQ s i k && i.memReqWriteDataValid k

def reqDataLast : Bool :=
  Bits.any fun k => memWriteArbReqGntQ s i k && payload.memReqWLast (i.memReqWriteData k)

def memWriteArbReqR : Bool :=
  i.memReqWriteDataReady && reqDataValid s i && reqDataLast payload s i

def memWriteArbReqWok : Bool := s.reqGntFifo.wok false (memWriteArbReqR payload s i)

def memReqWriteWok : Bool := s.reqFifo.wok true i.memReqWriteReady

def memWriteArbReqReady : Bool := memWriteArbReqWok payload s i && memReqWriteWok s i

def memWriteArbReqW : Bool := reqValid s i && memReqWriteWok s i

def memWriteArbReqRok : Bool := s.reqGntFifo.rok false (memWriteArbReqW s i)

def memReqWriteW : Bool := reqValid s i && memWriteArbReqWok payload s i

/-! ## Outputs -/

def memReqWriteReadyO : Bits n := fun k =>
  memWriteArbReqGnt s i k && memWriteArbReqReady payload s i

def memReqWriteDataReadyO : Bits n := fun k =>
  memWriteArbReqGntQ s i k && memWriteArbReqRok s i && i.memReqWriteDataReady

def memReqWriteValidO : Bool := s.reqFifo.rok true (memReqWriteW payload s i)

def memReqWriteDataValidO : Bool := reqDataValid s i && memWriteArbReqRok s i

variable [NeZero n]

/-- The selected request, `mem_req_write`. -/
def memReqWrite : Req := muxOneHot payload.zeroReq (memWriteArbReqGnt s i) i.memReqWrite

def memReqWriteO : Req := s.reqFifo.rdata true (memReqWrite payload s i)

def memReqWriteDataO : ReqW :=
  muxOneHot payload.zeroReqW (memWriteArbReqGntQ s i) i.memReqWriteData

/-! ## One clock cycle -/

def step : State n Req where
  fxarb := Fxarb.step s.fxarb i.memReqWriteValid (memWriteArbReqReady payload s i)
  reqFifo :=
    s.reqFifo.step true (memReqWriteW payload s i) (memReqWrite payload s i) i.memReqWriteReady
  reqGntFifo :=
    s.reqGntFifo.step false (memWriteArbReqW s i) (memWriteArbReqGnt s i)
      (memWriteArbReqR payload s i)

end Signals

def reset (payload : Payload Req ReqW) : State n Req where
  fxarb := Fxarb.reset
  reqFifo := SyncBuffer.reset payload.zeroReq
  reqGntFifo := FifoReg.reset Bits.zero

/-- The arbiter as a synchronous machine. -/
def machine (n : Nat) [NeZero n] (payload : Payload Req ReqW) :
    Machine (State n Req) (Input n Req ReqW) where
  reset := reset payload
  step s i := step payload s i

/-! ## Handshakes -/

section Handshakes

variable (payload : Payload Req ReqW) (s : State n Req) (i : Input n Req ReqW)

/-- The requests that the arbiter takes, each with its requester. -/
def takenRequests : List (Fin n × Req) :=
  (Bits.indices fun k => i.memReqWriteValid k && memReqWriteReadyO payload s i k).map
    fun k => (k, i.memReqWrite k)

/-- The beats that the arbiter takes, each with its requester. -/
def takenBeats : List (Fin n × ReqW) :=
  (Bits.indices fun k => i.memReqWriteDataValid k && memReqWriteDataReadyO s i k).map
    fun k => (k, i.memReqWriteData k)

variable [NeZero n]

/-- The request that the memory takes. -/
def sentRequests : List Req :=
  if i.memReqWriteReady && memReqWriteValidO payload s i then [memReqWriteO payload s i] else []

/-- The beat that the memory takes. -/
def sentBeats : List ReqW :=
  if i.memReqWriteDataReady && memReqWriteDataValidO s i then [memReqWriteDataO payload s i]
  else []

end Handshakes

/-- The requests and beats so far, on both sides of the arbiter. -/
structure Log (n : Nat) (Req ReqW : Type) where
  requests : List (Fin n × Req)
  beats : List (Fin n × ReqW)
  sentRequests : List Req
  sentBeats : List ReqW

def Log.empty : Log n Req ReqW where
  requests := []
  beats := []
  sentRequests := []
  sentBeats := []

def record [NeZero n] (payload : Payload Req ReqW) (s : State n Req) (i : Input n Req ReqW)
    (log : Log n Req ReqW) : Log n Req ReqW where
  requests := log.requests ++ takenRequests payload s i
  beats := log.beats ++ takenBeats s i
  sentRequests := log.sentRequests ++ sentRequests payload s i
  sentBeats := log.sentBeats ++ sentBeats payload s i

end Cva6Hpd.Hpdcache.MemReqWriteArbiter
