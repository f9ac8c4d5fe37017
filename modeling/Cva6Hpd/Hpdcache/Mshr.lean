import Cva6Hpd.Hpdcache.Pkg
import Cva6Hpd.Common.Sram

/-!
# The miss status holding registers

`hpdcache_mshr`: a slot for each MSHR set and way, whose valid bit and cache
set are registers and whose remaining fields are in a single-port memory. A
line is checked in two cycles: its MSHR set is read while the request is in
stage 0, and the tags read are compared while it is in stage 1.
-/

namespace Cva6Hpd.Hpdcache.Mshr

open Cva6Hpd.Hw
open Cva6Hpd.Common

/-- `mshr_entry_t`. -/
structure Entry (cfg : Cfg) where
  tag : Nat
  reqId : Nat
  srcId : Nat
  wordIdx : Nat
  victimWayIdx : cfg.Way
  wback : Bool
  dirty : Bool
  needRsp : Bool
  isPrefetch : Bool
  cbufId : cfg.CbufId
deriving DecidableEq

/-- The registers and the memory of the MSHR; a slot is named by its way and
its set. -/
structure State (cfg : Cfg) where
  mshrValidQ : cfg.MshrWay → cfg.MshrSet → Bool
  mshrCacheSetQ : cfg.MshrWay → cfg.MshrSet → cfg.Set
  checkCacheSetQ : cfg.Set
  ackWayQ : cfg.MshrWay
  mshrMem : Sram cfg.mshrSets cfg.mshrWays (Entry cfg)

/-- The inputs of one cycle. The tag of the allocated entry is that of
`allocNline`. -/
structure Input (cfg : Cfg) where
  check : Bool
  checkSet : cfg.Set
  alloc : Bool
  allocCs : Bool
  allocNline : Nat
  allocEntry : Entry cfg
  ack : Bool
  ackCs : Bool
  ackSet : cfg.MshrSet
  ackWay : cfg.MshrWay

def reset {cfg : Cfg} (powerUp : Sram cfg.mshrSets cfg.mshrWays (Entry cfg)) :
    State cfg where
  mshrValidQ := fun _ _ => false
  mshrCacheSetQ := fun _ _ => 0
  checkCacheSetQ := 0
  ackWayQ := 0
  mshrMem := powerUp

section Outputs

variable {cfg : Cfg} (state : State cfg)

def checkSetSt1 : cfg.MshrSet := cfg.mshrSetOf state.checkCacheSetQ.val

/-- `alloc_way_o`: the first free way of the set of the allocated line. -/
def allocWay (allocNline : Nat) : cfg.MshrWay :=
  Bits.firstIndex fun w => !state.mshrValidQ w (cfg.mshrSetOf allocNline)

/-- `alloc_full_o`: the set of the checked line has no free way. -/
def allocFull : Bool := Bits.all fun w => state.mshrValidQ w (checkSetSt1 state)

/-- `hit_o`: a slot of the checked set holds the checked tag and cache set. -/
def hit (checkTag : Nat) : Bool :=
  Bits.any fun w =>
    state.mshrValidQ w (checkSetSt1 state) &&
      decide ((state.mshrMem.rdata w).tag = checkTag) &&
      decide (state.mshrCacheSetQ w (checkSetSt1 state) = state.checkCacheSetQ)

/-- `empty_o`. -/
def empty : Bool := decide (∀ w s, state.mshrValidQ w s = false)

/-- The acknowledged slot, read in the cycle after the acknowledgement. -/
def ackEntry : Entry cfg := state.mshrMem.rdata state.ackWayQ

/-- `ack_cache_set_o`. -/
def ackCacheSet (ackWay : cfg.MshrWay) (ackSet : cfg.MshrSet) : cfg.Set :=
  state.mshrCacheSetQ ackWay ackSet

/-- The line address held by a slot. -/
def slotNline (w : cfg.MshrWay) (s : cfg.MshrSet) : Nat :=
  cfg.nlineOf (state.mshrMem.mem s w).tag (state.mshrCacheSetQ w s)

end Outputs

section Step

variable {cfg : Cfg} (state : State cfg) (input : Input cfg)

/-- The access to the memory: an acknowledgement, an allocation or a check. -/
def mshrAccess : SramAccess cfg.mshrSets cfg.mshrWays (Entry cfg) where
  addr := if input.ack then input.ackSet
    else if input.alloc then cfg.mshrSetOf input.allocNline
    else cfg.mshrSetOf input.checkSet.val
  cs := fun _ => input.check || input.allocCs || input.ackCs
  we := fun _ => input.alloc
  wmask := fun w => decide (w = allocWay state input.allocNline)
  wdata := fun _ => { input.allocEntry with tag := cfg.tagOf input.allocNline }

/-- `mshr_valid_set`: the allocated slot. -/
def allocAt (w : cfg.MshrWay) (s : cfg.MshrSet) : Bool :=
  input.alloc && decide (w = allocWay state input.allocNline) &&
    decide (s = cfg.mshrSetOf input.allocNline)

/-- `mshr_valid_rst`: the acknowledged slot. -/
def ackAt (w : cfg.MshrWay) (s : cfg.MshrSet) : Bool :=
  input.ack && decide (w = input.ackWay) && decide (s = input.ackSet)

def step : State cfg where
  mshrValidQ := fun w s =>
    (!state.mshrValidQ w s && allocAt state input w s) ||
      (state.mshrValidQ w s && !ackAt input w s)
  mshrCacheSetQ := fun w s =>
    if allocAt state input w s then cfg.setOf input.allocNline
    else state.mshrCacheSetQ w s
  checkCacheSetQ :=
    if input.check && !input.alloc then input.checkSet else state.checkCacheSetQ
  ackWayQ := if input.ack then input.ackWay else state.ackWayQ
  mshrMem := state.mshrMem.step cfg.mshrUseRegbank (mshrAccess state input)

end Step

end Cva6Hpd.Hpdcache.Mshr
