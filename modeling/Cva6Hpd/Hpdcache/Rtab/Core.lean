import Cva6Hpd.Hpdcache.Pkg
import Cva6Hpd.Common.Arbiter
import Cva6Hpd.Hw.Machine

/-!
# The replay table

`hpdcache_rtab` holds the requests that could not be executed, in linked lists
of requests of the same line. A request is popped tentatively: its head bit is
cleared, and one cycle later the controller commits it, which frees the entry,
or rolls it back, which restores the head bit with new dependencies. A small
state machine follows the list of the last popped request.
-/

namespace Cva6Hpd.Hpdcache.Rtab

open Cva6Hpd.Hw
open Cva6Hpd.Common

variable {cfg : Cfg}

/-- `rtab_entry_t`. -/
structure Entry (cfg : Cfg) where
  req : ReqX cfg
  wayFetch : cfg.Way

/-- `rtab_pop_try_state_e`. -/
inductive PopTryState where
  | popTryHead
  | popTryNext
  | popTryNextWait
deriving DecidableEq, Repr

/-- The registers of the replay table. -/
structure State (cfg : Cfg) where
  reqQ : cfg.RtabPtr → Entry cfg
  nextQ : cfg.RtabPtr → cfg.RtabPtr
  popTryStateQ : PopTryState
  popTryNextQ : Bits cfg.rtabEntries
  validQ : Bits cfg.rtabEntries
  errorQ : Bits cfg.rtabEntries
  headQ : Bits cfg.rtabEntries
  tailQ : Bits cfg.rtabEntries
  depsQ : cfg.RtabPtr → RtabDeps
  waitersMshrFullArb : Arbiter cfg.rtabEntries
  waitersDirUnavailableArb : Arbiter cfg.rtabEntries
  wbufRdPendingArb : Arbiter cfg.rtabEntries
  wbufWrPendingArb : Arbiter cfg.rtabEntries
  wbufPendingArb : Arbiter 2
  popArb : Arbiter cfg.rtabEntries

/-- The inputs of one cycle. -/
structure Input (cfg : Cfg) where
  checkNline : Nat
  alloc : Bool
  allocAndLink : Bool
  allocReq : Entry cfg
  allocDeps : RtabDeps
  popTry : Bool
  popCommit : Bool
  popCommitPtr : cfg.RtabPtr
  popRback : Bool
  popRbackPtr : cfg.RtabPtr
  wbufHitOpen : Bool
  wbufHitPend : Bool
  wbufHitSent : Bool
  wbufNotReady : Bool
  missReady : Bool
  refill : Bool
  refillIsError : Bool
  refillNline : Nat
  refillWayIndex : cfg.Way
  flushAck : Bool
  flushAckNline : Nat
  flushReady : Bool
  noPendTrans : Bool

def reset (cfg : Cfg) : State cfg where
  reqQ := fun _ => { req := ReqX.zero, wayFetch := 0 }
  nextQ := fun _ => 0
  popTryStateQ := .popTryHead
  popTryNextQ := Bits.zero
  validQ := Bits.zero
  errorQ := Bits.zero
  headQ := Bits.zero
  tailQ := Bits.zero
  depsQ := fun _ => RtabDeps.none
  waitersMshrFullArb := Rrarb.reset
  waitersDirUnavailableArb := Rrarb.reset
  wbufRdPendingArb := Rrarb.reset
  wbufWrPendingArb := Rrarb.reset
  wbufPendingArb := Fxarb.reset
  popArb := Rrarb.reset

section Outputs

variable (state : State cfg)

def nodeps : Bits cfg.rtabEntries := fun i => !(state.depsQ i).any

/-- Entries that can be replayed: heads of a list without dependencies. -/
def ready : Bits cfg.rtabEntries := fun i =>
  state.validQ i && state.headQ i && nodeps state i

def freeAlloc : Bits cfg.rtabEntries := prio1hotEncoder fun i => !state.validQ i

def empty : Bool := Bits.all fun i => !state.validQ i

def full (cfgSingleEntry : Bool) : Bool :=
  state.validQ.all || (state.validQ.any && cfgSingleEntry)

def nline (i : cfg.RtabPtr) : Nat := (state.reqQ i).req.req.nline

def isReadBv : Bits cfg.rtabEntries := fun i =>
  (state.reqQ i).req.req.op.isLoad || (state.reqQ i).req.req.op.isCmoPrefetch

def fenceBv : Bits cfg.rtabEntries := fun i => (state.depsQ i).pendTrans

def fence : Bool := (fenceBv state).any

/-- All requests on hold are fences. -/
def fenceOnly : Bool := decide (∀ i, state.validQ i = fenceBv state i)

def checkHitBv (checkNline : Nat) : Bits cfg.rtabEntries := fun i =>
  state.validQ i && decide (checkNline = nline state i)

/-- `check_hit_o`. -/
def checkHit (checkNline : Nat) : Bool := (checkHitBv state checkNline).any

/-- The tail of the list of the checked line. -/
def matchCheckTail (checkNline : Nat) : Bits cfg.rtabEntries := fun i =>
  checkHitBv state checkNline i && state.tailQ i

/-! ## Pop interface -/

def popGnt : Bits cfg.rtabEntries := Rrarb.gnt state.popArb (ready state)

/-- `pop_try_valid_o`. -/
def popTryValid : Bool :=
  match state.popTryStateQ with
  | .popTryHead => (ready state).any
  | .popTryNext => true
  | .popTryNextWait => true

def popSel : Bits cfg.rtabEntries :=
  match state.popTryStateQ with
  | .popTryHead => popGnt state
  | .popTryNext => state.popTryNextQ
  | .popTryNextWait => state.popTryNextQ

/-- `pop_try_ptr_o`. -/
def popTryPtr : cfg.RtabPtr := (popSel state).firstIndex

/-- `pop_try_req_o`: the entry selected by the one-hot multiplexer, with its
error bit. -/
def popTryReq : Entry cfg :=
  let selected := if (popSel state).any then state.reqQ (popTryPtr state)
    else { req := ReqX.zero, wayFetch := 0 }
  { selected with
    req := { selected.req with isError := Bits.any fun i => popSel state i && state.errorQ i } }

/-- Not the tail of its list: a successor is to be replayed next. -/
def popSelNotTail : Bool := Bits.any fun i => popSel state i && !state.tailQ i

/-- `rtab_next`. -/
def rtabNext (x : cfg.RtabPtr) : Bits cfg.rtabEntries := Bits.single (state.nextQ x)

def wbufRdPending : Bits cfg.rtabEntries := fun i =>
  state.validQ i && state.headQ i && (state.depsQ i).wbufHit

def wbufWrPending : Bits cfg.rtabEntries := fun i =>
  state.validQ i && state.headQ i && (state.depsQ i).wbufNotReady

def wbufRdGnt : Bits cfg.rtabEntries := Rrarb.gnt state.wbufRdPendingArb (wbufRdPending state)

def wbufWrGnt : Bits cfg.rtabEntries := Rrarb.gnt state.wbufWrPendingArb (wbufWrPending state)

/-- `wbuf_pending`: bit 0 for reads, bit 1 for writes. -/
def wbufPending : Bits 2 := fun i =>
  if i = 0 then (wbufRdGnt state).any else (wbufWrGnt state).any

def wbufGnt : Bits 2 := Fxarb.gnt state.wbufPendingArb (wbufPending state)

/-- The entry whose conflict with the write buffer is monitored. -/
def wbufSel : Bits cfg.rtabEntries :=
  if wbufGnt state 0 then wbufRdGnt state
  else if wbufGnt state 1 then wbufWrGnt state
  else Bits.zero

/-- `wbuf_addr_o`. -/
def wbufAddr : Nat :=
  if (wbufSel state).any then (state.reqQ (wbufSel state).lastIndex).req.req.addr else 0

/-- `wbuf_is_read_o`. -/
def wbufIsRead : Bool := Bits.any fun i => wbufSel state i && isReadBv state i

end Outputs

section Step

variable (state : State cfg) (input : Input cfg)

def matchRefillMshrSet : Bits cfg.rtabEntries := fun i =>
  decide (input.refillNline % cfg.mshrSets = nline state i % cfg.mshrSets)

def matchRefillNline : Bits cfg.rtabEntries := fun i =>
  decide (input.refillNline = nline state i)

def matchRefillSet : Bits cfg.rtabEntries := fun i =>
  decide (cfg.setOf input.refillNline = cfg.setOf (nline state i))

def matchRefillWay : Bits cfg.rtabEntries := fun i =>
  decide (input.refillWayIndex = (state.reqQ i).wayFetch)

def waitersMshrFull : Bits cfg.rtabEntries := fun i =>
  state.validQ i && (state.depsQ i).mshrFull && matchRefillMshrSet state input i

def waitersDirUnavailable : Bits cfg.rtabEntries := fun i =>
  state.validQ i && (state.depsQ i).dirUnavailable && matchRefillSet state input i

def waitersMshrFullGnt : Bits cfg.rtabEntries :=
  Rrarb.gnt state.waitersMshrFullArb (waitersMshrFull state input)

def waitersDirUnavailableGnt : Bits cfg.rtabEntries :=
  Rrarb.gnt state.waitersDirUnavailableArb (waitersDirUnavailable state input)

/-- `pop_try_bv`. -/
def popTryBv : Bits cfg.rtabEntries := fun i => popSel state i && input.popTry

def wbufReady : Bool :=
  Bits.any fun i => popTryBv state input i && (wbufRdGnt state i || wbufWrGnt state i)

def depsRst (i : cfg.RtabPtr) : RtabDeps where
  wbufHit := wbufSel state i &&
    !(input.wbufHitOpen || input.wbufHitPend || input.wbufHitSent)
  wbufNotReady := wbufSel state i && !input.wbufNotReady
  mshrReady := input.missReady
  mshrFull := input.refill && waitersMshrFullGnt state input i
  mshrHit := input.refill && matchRefillNline state input i
  writeMiss := input.refill && matchRefillNline state input i
  dirUnavailable := input.refill && waitersDirUnavailableGnt state input i
  dirFetch := input.refill && (matchRefillSet state input i && matchRefillWay state input i)
  flushHit := input.flushAck && decide (input.flushAckNline = nline state i)
  flushNotReady := input.flushReady
  pendTrans := input.noPendTrans && fenceOnly state

/-- `alloc_valid_set`. -/
def allocBv : Bits cfg.rtabEntries := fun i =>
  freeAlloc state i && (input.alloc || input.allocAndLink)

/-- `pop_commit_valid_rst`. -/
def popCommitBv : Bits cfg.rtabEntries := fun i =>
  input.popCommit && decide (i = input.popCommitPtr)

/-- `pop_rback_bv`. -/
def popRbackBv : Bits cfg.rtabEntries := fun i =>
  input.popRback && decide (i = input.popRbackPtr)

/-- `alloc_deps_set | pop_rback_deps_set`. -/
def depsSet (i : cfg.RtabPtr) : RtabDeps :=
  if allocBv state input i || popRbackBv input i then input.allocDeps else RtabDeps.none

/-- One bit of a flag register: set has priority while it is clear, reset while
it is set. -/
def setReset (q set rst : Bool) : Bool := (!q && set) || (q && !rst)

/-- The dependency flags, bit by bit. -/
def updateDeps (q set rst : RtabDeps) : RtabDeps where
  mshrHit := setReset q.mshrHit set.mshrHit rst.mshrHit
  mshrFull := setReset q.mshrFull set.mshrFull rst.mshrFull
  mshrReady := setReset q.mshrReady set.mshrReady rst.mshrReady
  writeMiss := setReset q.writeMiss set.writeMiss rst.writeMiss
  wbufHit := setReset q.wbufHit set.wbufHit rst.wbufHit
  wbufNotReady := setReset q.wbufNotReady set.wbufNotReady rst.wbufNotReady
  dirUnavailable := setReset q.dirUnavailable set.dirUnavailable rst.dirUnavailable
  dirFetch := setReset q.dirFetch set.dirFetch rst.dirFetch
  flushHit := setReset q.flushHit set.flushHit rst.flushHit
  flushNotReady := setReset q.flushNotReady set.flushNotReady rst.flushNotReady
  pendTrans := setReset q.pendTrans set.pendTrans rst.pendTrans

/-- `pop_head`: the controller accepts the head of a list. -/
def popHead : Bool :=
  decide (state.popTryStateQ = .popTryHead) && !input.popRback && popTryValid state &&
    input.popTry

/-- The state machine after a request is accepted: follow its list unless it is
the tail. -/
def followList (otherwise : PopTryState) : PopTryState × Bits cfg.rtabEntries :=
  if popSelNotTail state then
    (.popTryNext, rtabNext state (popTryPtr state))
  else
    (otherwise, state.popTryNextQ)

/-- `pop_try_state_d` and `pop_try_next_d`. -/
def popTryD : PopTryState × Bits cfg.rtabEntries :=
  match state.popTryStateQ with
  | .popTryHead =>
      if !input.popRback && popTryValid state && input.popTry then
        followList state .popTryHead
      else
        (.popTryHead, state.popTryNextQ)
  | .popTryNext =>
      if input.popRback then (.popTryHead, state.popTryNextQ)
      else if input.popTry then followList state .popTryHead
      else (.popTryNextWait, state.popTryNextQ)
  | .popTryNextWait =>
      if input.popTry then followList state .popTryHead
      else (.popTryNextWait, state.popTryNextQ)

def errorSet : Bits cfg.rtabEntries := fun i =>
  state.validQ i && (state.depsQ i).writeMiss && matchRefillNline state input i &&
    (input.refill && input.refillIsError)

def step : State cfg where
  reqQ := fun i =>
    if allocBv state input i || popRbackBv input i then input.allocReq else state.reqQ i
  nextQ := fun i =>
    if input.allocAndLink && matchCheckTail state input.checkNline i then
      (freeAlloc state).firstIndex
    else
      state.nextQ i
  popTryStateQ := (popTryD state input).1
  popTryNextQ := (popTryD state input).2
  validQ := fun i =>
    setReset (state.validQ i) (allocBv state input i) (popCommitBv input i)
  errorQ := fun i =>
    setReset (state.errorQ i) (errorSet state input i) (popCommitBv input i)
  headQ := fun i =>
    setReset (state.headQ i)
      ((freeAlloc state i && input.alloc) || popRbackBv input i)
      ((freeAlloc state i && input.allocAndLink) || popTryBv state input i)
  tailQ := fun i =>
    setReset (state.tailQ i) (allocBv state input i)
      (matchCheckTail state input.checkNline i && input.allocAndLink)
  depsQ := fun i =>
    updateDeps (state.depsQ i) (depsSet state input i) (depsRst state input i)
  waitersMshrFullArb :=
    Rrarb.step state.waitersMshrFullArb (waitersMshrFull state input) input.refill
  waitersDirUnavailableArb :=
    Rrarb.step state.waitersDirUnavailableArb (waitersDirUnavailable state input)
      input.refill
  wbufRdPendingArb :=
    Rrarb.step state.wbufRdPendingArb (wbufRdPending state)
      (wbufGnt state 0 && wbufReady state input)
  wbufWrPendingArb :=
    Rrarb.step state.wbufWrPendingArb (wbufWrPending state)
      (wbufGnt state 1 && wbufReady state input)
  wbufPendingArb :=
    Fxarb.step state.wbufPendingArb (wbufPending state) (wbufReady state input)
  popArb := Rrarb.step state.popArb (ready state) (popHead state input)

end Step

/-- The replay table as a synchronous machine. -/
def machine (cfg : Cfg) : Machine (State cfg) (Input cfg) where
  reset := reset cfg
  step := step

end Cva6Hpd.Hpdcache.Rtab
