import Mathlib.Data.BitVec
import Cva6Hpd.Hw.Machine

/-!
# The engine of the stride prefetcher

`hwpf_stride`: an engine that is armed waits for an access to its base line and then requests the
lines of its blocks. It works on shadow copies of its configuration registers, which it takes when
it is armed.
-/

namespace Cva6Hpd.HwpfStride

open Cva6Hpd.Hw

/-! ## Configuration registers -/

/-- `hwpf_stride_base_t`. -/
structure Base where
  baseCline : BitVec 58
  unused : BitVec 3
  cycle : Bool
  rearm : Bool
  enable : Bool
deriving DecidableEq

/-- `hwpf_stride_param_t`. -/
structure Param where
  nblocks : BitVec 16
  nlines : BitVec 16
  stride : BitVec 32
deriving DecidableEq

/-- `hwpf_stride_throttle_t`. -/
structure Throttle where
  ninflight : BitVec 16
  nwait : BitVec 16
deriving DecidableEq

/-! ## Registers -/

/-- `hwpf_stride_fsm_t`. -/
inductive Fsm where
  | idle | snoop | sendReq | wait | done | abort
deriving DecidableEq, Repr

/-- The registers; a line address has `nlineWidth` bits. -/
structure State (nlineWidth : Nat) where
  csrBaseQ : Base
  csrParamQ : Param
  csrThrottleQ : Throttle
  shadowBaseQ : Base
  shadowParamQ : Param
  shadowThrottleQ : Throttle
  requestNlineQ : BitVec nlineWidth
  stateQ : Fsm
  nblocksCntQ : BitVec 16
  nlinesCntQ : BitVec 16
  nwaitCntQ : BitVec 16
  inflightCntQ : BitVec 16
deriving DecidableEq

/-- The inputs; the contents of a response are not read. -/
structure Input where
  csrBaseSet : Bool
  csrBase : Base
  csrParamSet : Bool
  csrParam : Param
  csrThrottleSet : Bool
  csrThrottle : Throttle
  snoopMatch : Bool
  hpdcacheReqReady : Bool
  hpdcacheRspValid : Bool

/-- What `fsm_control` drives. -/
structure Control (nlineWidth : Nat) where
  hpdcacheReqValid : Bool
  nblocksCntD : BitVec 16
  nlinesCntD : BitVec 16
  nwaitCntD : BitVec 16
  inflightInc : Bool
  busy : Bool
  csrBaseUpdate : Bool
  shadowBaseD : Base
  shadowParamD : Param
  shadowThrottleD : Throttle
  requestNlineD : BitVec nlineWidth
  stateD : Fsm

section Code

variable {nlineWidth : Nat} (s : State nlineWidth) (i : Input)

/-! ## The state machine -/

/-- `increment_stride`. -/
def incrementStride : BitVec nlineWidth := s.shadowParamQ.stride.setWidth nlineWidth + 1

/-- `snoop_nline_o`. -/
def snoopNline : BitVec nlineWidth := s.shadowBaseQ.baseCline.setWidth nlineWidth

/-- `is_inflight_max`. -/
def isInflightMax : Bool :=
  decide (s.shadowThrottleQ.ninflight ≠ 0) &&
    decide (s.shadowThrottleQ.ninflight ≤ s.inflightCntQ)

/-- The default assignments. -/
def controlDefault : Control nlineWidth where
  hpdcacheReqValid := false
  nblocksCntD := s.nblocksCntQ
  nlinesCntD := s.nlinesCntQ
  nwaitCntD := s.nwaitCntQ
  inflightInc := false
  busy := false
  csrBaseUpdate := false
  shadowBaseD := s.shadowBaseQ
  shadowParamD := s.shadowParamQ
  shadowThrottleD := s.shadowThrottleQ
  requestNlineD := s.requestNlineQ
  stateD := s.stateQ

/-- The base line moved to the first line of the next block. -/
def nextBlock : BitVec nlineWidth := snoopNline s + incrementStride s

def withBase (base : Base) (nline : BitVec nlineWidth) : Base :=
  { base with baseCline := nline.setWidth 58 }

/-- An engine that is enabled is armed, unless there is nothing to prefetch. -/
def controlIdle : Control nlineWidth :=
  if s.csrBaseQ.enable then
    if 0 < s.csrParamQ.nlines || 0 < s.csrParamQ.nblocks then
      { controlDefault s with
        shadowBaseD := s.csrBaseQ
        shadowParamD := s.csrParamQ
        shadowThrottleD := s.csrThrottleQ
        stateD := .snoop }
    else
      { controlDefault s with
        shadowBaseD := { s.csrBaseQ with enable := false }
        csrBaseUpdate := true }
  else controlDefault s

/-- The line that was accessed is skipped. -/
def controlSnoop : Control nlineWidth :=
  if s.csrBaseQ.enable then
    if i.snoopMatch then
      if s.shadowParamQ.nlines = 0 then
        { controlDefault s with
          stateD := .sendReq
          requestNlineD := nextBlock s
          nblocksCntD := if 0 < s.shadowParamQ.nblocks then s.shadowParamQ.nblocks - 1 else 0
          nlinesCntD := 0
          shadowBaseD := withBase s.shadowBaseQ (nextBlock s) }
      else
        { controlDefault s with
          stateD := .sendReq
          requestNlineD := snoopNline s + 1
          nblocksCntD := s.shadowParamQ.nblocks
          nlinesCntD := s.shadowParamQ.nlines - 1 }
    else controlDefault s
  else { controlDefault s with stateD := .idle }

/-- Where a granted request leads; a disabled engine aborts. -/
def sentStateD : Fsm :=
  if !s.csrBaseQ.enable then .abort
  else if s.nblocksCntQ = 0 ∧ s.nlinesCntQ = 0 then .done
  else if s.shadowThrottleQ.nwait = 0 then if isInflightMax s then .wait else .sendReq
  else .wait

/-- `nwait_cnt_d` after a granted request. -/
def sentNwaitCntD : BitVec 16 :=
  if s.nblocksCntQ = 0 ∧ s.nlinesCntQ = 0 then s.nwaitCntQ
  else if s.shadowThrottleQ.nwait = 0 then s.nwaitCntQ
  else s.shadowThrottleQ.nwait

def controlSendReq : Control nlineWidth :=
  let sending := { controlDefault s with busy := true, hpdcacheReqValid := true }
  if i.hpdcacheReqReady then
    if s.nlinesCntQ = 0 then
      { sending with
        inflightInc := true
        requestNlineD := nextBlock s
        nblocksCntD := if 0 < s.nblocksCntQ then s.nblocksCntQ - 1 else 0
        nlinesCntD := s.shadowParamQ.nlines
        shadowBaseD := withBase s.shadowBaseQ (nextBlock s)
        nwaitCntD := sentNwaitCntD s
        stateD := sentStateD s }
    else
      { sending with
        inflightInc := true
        requestNlineD := s.requestNlineQ + 1
        nlinesCntD := s.nlinesCntQ - 1
        nwaitCntD := sentNwaitCntD s
        stateD := sentStateD s }
  else sending

/-- `nwait_cnt_d` while the engine waits. -/
def waitedNwaitCntD : BitVec 16 := if 0 < s.nwaitCntQ then s.nwaitCntQ - 1 else s.nwaitCntQ

def controlWait : Control nlineWidth :=
  let waiting := { controlDefault s with busy := true }
  if s.csrBaseQ.enable then
    { waiting with
      stateD := if !isInflightMax s && decide (s.nwaitCntQ = 0) then .sendReq else .wait
      nwaitCntD := waitedNwaitCntD s }
  else { waiting with stateD := .abort }

/-- The base of the finished engine; the last assignment takes precedence. -/
def finishedBase : Base :=
  { s.shadowBaseQ with
    enable := s.shadowBaseQ.rearm && s.shadowBaseQ.enable
    baseCline :=
      if s.shadowBaseQ.cycle then s.csrBaseQ.baseCline else s.shadowBaseQ.baseCline }

def controlDone : Control nlineWidth :=
  let finishing := { controlDefault s with busy := true }
  if s.csrBaseQ.enable then
    if decide (s.inflightCntQ = 0) && !isInflightMax s && decide (s.nwaitCntQ = 0) then
      { finishing with
        csrBaseUpdate := true
        shadowBaseD := finishedBase s
        stateD := if s.shadowBaseQ.rearm then .snoop else .idle
        nwaitCntD := waitedNwaitCntD s }
    else { finishing with nwaitCntD := waitedNwaitCntD s }
  else { finishing with stateD := .abort }

def controlAbort : Control nlineWidth :=
  let aborting := { controlDefault s with busy := true }
  if s.inflightCntQ = 0 then { aborting with stateD := .idle } else aborting

/-- `fsm_control`. -/
def control : Control nlineWidth :=
  match s.stateQ with
  | .idle => controlIdle s
  | .snoop => controlSnoop s i
  | .sendReq => controlSendReq s i
  | .wait => controlWait s
  | .done => controlDone s
  | .abort => controlAbort s

/-- `inflight_cnt_d`. -/
def inflightCntD : BitVec 16 :=
  let sent := if (control s i).inflightInc then s.inflightCntQ + 1 else s.inflightCntQ
  if i.hpdcacheRspValid && decide (0 < s.inflightCntQ) then sent - 1 else sent

/-! ## The machine -/

/-- One clock edge. -/
def step : State nlineWidth where
  csrBaseQ :=
    if i.csrBaseSet then i.csrBase
    else if (control s i).csrBaseUpdate then (control s i).shadowBaseD
    else s.csrBaseQ
  csrParamQ := if i.csrParamSet then i.csrParam else s.csrParamQ
  csrThrottleQ := if i.csrThrottleSet then i.csrThrottle else s.csrThrottleQ
  shadowBaseQ := (control s i).shadowBaseD
  shadowParamQ := (control s i).shadowParamD
  shadowThrottleQ := (control s i).shadowThrottleD
  requestNlineQ := (control s i).requestNlineD
  stateQ := (control s i).stateD
  nblocksCntQ := (control s i).nblocksCntD
  nlinesCntQ := (control s i).nlinesCntD
  nwaitCntQ := (control s i).nwaitCntD
  inflightCntQ := inflightCntD s i

/-- A request is accepted by the cache. -/
def grants : Bool := (control s i).hpdcacheReqValid && i.hpdcacheReqReady

end Code

/-- The registers after reset; `csr_throttle_q` is not reset. -/
def reset (nlineWidth : Nat) (csrThrottle : Throttle) : State nlineWidth where
  csrBaseQ := ⟨0, 0, false, false, false⟩
  csrParamQ := ⟨0, 0, 0⟩
  csrThrottleQ := csrThrottle
  shadowBaseQ := ⟨0, 0, false, false, false⟩
  shadowParamQ := ⟨0, 0, 0⟩
  shadowThrottleQ := ⟨0, 0⟩
  requestNlineQ := 0
  stateQ := .idle
  nblocksCntQ := 0
  nlinesCntQ := 0
  nwaitCntQ := 0
  inflightCntQ := 0

/-- `hwpf_stride` from reset. -/
def machine (nlineWidth : Nat) (csrThrottle : Throttle) : Machine (State nlineWidth) Input where
  reset := reset nlineWidth csrThrottle
  step := step

end Cva6Hpd.HwpfStride
