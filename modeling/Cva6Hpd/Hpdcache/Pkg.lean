import Cva6Hpd.Hpdcache.Wbuf.Core

/-!
# Data cache types and parameters

Operation codes, physical memory attributes, requests and replay dependencies
of `hpdcache_pkg`, and the configuration parameters that the modelled units
read. A line address `nline` is a number whose remainder by the number of sets
is the cache set and whose quotient is the tag; the same number split by the
number of MSHR sets gives the MSHR set and tag.
-/

namespace Cva6Hpd.Hpdcache

open Cva6Hpd.Hw

/-! ## Operations -/

/-- `hpdcache_req_op_t`. -/
inductive ReqOp where
  | load
  | store
  | amoLr
  | amoSc
  | amoSwap
  | amoAdd
  | amoAnd
  | amoOr
  | amoXor
  | amoMax
  | amoMaxu
  | amoMin
  | amoMinu
  | cmoFence
  | cmoPrefetch
  | cmoInvalNline
  | cmoInvalAll
  | cmoFlushNline
  | cmoFlushAll
  | cmoFlushInvalNline
  | cmoFlushInvalAll
deriving DecidableEq, Repr

namespace ReqOp

def isLoad : ReqOp → Bool
  | load => true
  | _ => false

def isStore : ReqOp → Bool
  | store => true
  | _ => false

def isAmo : ReqOp → Bool
  | amoLr | amoSc | amoSwap | amoAdd | amoAnd | amoOr | amoXor | amoMax | amoMaxu
  | amoMin | amoMinu => true
  | _ => false

def isCmoInval : ReqOp → Bool
  | cmoInvalNline | cmoInvalAll => true
  | _ => false

def isCmoFlush : ReqOp → Bool
  | cmoFlushNline | cmoFlushAll | cmoFlushInvalNline | cmoFlushInvalAll => true
  | _ => false

def isCmoFence : ReqOp → Bool
  | cmoFence => true
  | _ => false

def isCmoPrefetch : ReqOp → Bool
  | cmoPrefetch => true
  | _ => false

/-- The operations that the controller hands to the CMO handler. -/
def isCmoh (op : ReqOp) : Bool :=
  op.isCmoInval || op.isCmoFlush || op.isCmoFence

end ReqOp

/-- `hpdcache_wr_policy_hint_t`. -/
inductive WrPolicyHint where
  | auto
  | wb
  | wt
deriving DecidableEq, Repr

/-- `hpdcache_pma_t`, without the reserved `io` flag. -/
structure Pma where
  uncacheable : Bool
  wrPolicyHint : WrPolicyHint
deriving DecidableEq, Repr

/-- `hpdcache_rtab_deps_t`: what an on-hold request waits for. -/
structure RtabDeps where
  mshrHit : Bool
  mshrFull : Bool
  mshrReady : Bool
  writeMiss : Bool
  wbufHit : Bool
  wbufNotReady : Bool
  dirUnavailable : Bool
  dirFetch : Bool
  flushHit : Bool
  flushNotReady : Bool
  pendTrans : Bool
deriving DecidableEq, Repr

namespace RtabDeps

/-- No dependency, `'0`. -/
def none : RtabDeps where
  mshrHit := false
  mshrFull := false
  mshrReady := false
  writeMiss := false
  wbufHit := false
  wbufNotReady := false
  dirUnavailable := false
  dirFetch := false
  flushHit := false
  flushNotReady := false
  pendTrans := false

/-- Reduction OR over the dependencies. -/
def any (deps : RtabDeps) : Bool :=
  deps.mshrHit || deps.mshrFull || deps.mshrReady || deps.writeMiss || deps.wbufHit ||
    deps.wbufNotReady || deps.dirUnavailable || deps.dirFetch || deps.flushHit ||
    deps.flushNotReady || deps.pendTrans

@[simp]
theorem any_none : none.any = false :=
  rfl

end RtabDeps

/-! ## Configuration -/

/-- `hpdcache_victim_sel_policy_t`. -/
inductive VictimSel where
  | random
  | plru
deriving DecidableEq, Repr

/-- The parameters of `hpdcache_cfg_t` that the modelled units read. The MSHR
is indexed with the low bits of the line address, like the cache, so its number
of sets divides the number of cache sets. -/
structure Cfg where
  sets : Nat
  ways : Nat
  mshrSets : Nat
  mshrWays : Nat
  rtabEntries : Nat
  flushEntries : Nat
  cbufEntries : Nat
  refillFifoDepth : Nat
  clWords : Nat
  accessWords : Nat
  mshrUseRegbank : Bool
  refillCoreRspFeedthrough : Bool
  victimSel : VictimSel
  memIdWidth : Nat
  wordBytes : Nat
  lineBytes : Nat
  wtEn : Bool
  wbEn : Bool
  lowLatency : Bool
  eccEn : Bool
  eccScrubberEn : Bool
  wbuf : Wbuf.Cfg
  sets_pos : 0 < sets
  ways_pos : 0 < ways
  mshrSets_pos : 0 < mshrSets
  mshrWays_pos : 0 < mshrWays
  rtabEntries_pos : 0 < rtabEntries
  flushEntries_pos : 0 < flushEntries
  cbufEntries_pos : 0 < cbufEntries
  refillFifoDepth_pos : 0 < refillFifoDepth
  accessWords_pos : 0 < accessWords
  accessWords_le : accessWords ≤ clWords
  lineBytes_pos : 0 < lineBytes
  lineBytes_eq : lineBytes = wbuf.reqBytes * wbuf.wbufWords * wbuf.lineEntries
  mshrSets_dvd : mshrSets ∣ sets
  writePolicy : wtEn = true ∨ wbEn = true
  memIds : mshrWays * mshrSets ≤ 2 ^ memIdWidth - 1

namespace Cfg

variable (cfg : Cfg)

instance neZeroSets : NeZero cfg.sets := ⟨Nat.ne_of_gt cfg.sets_pos⟩

instance neZeroWays : NeZero cfg.ways := ⟨Nat.ne_of_gt cfg.ways_pos⟩

instance neZeroMshrSets : NeZero cfg.mshrSets := ⟨Nat.ne_of_gt cfg.mshrSets_pos⟩

instance neZeroMshrWays : NeZero cfg.mshrWays := ⟨Nat.ne_of_gt cfg.mshrWays_pos⟩

instance neZeroRtabEntries : NeZero cfg.rtabEntries := ⟨Nat.ne_of_gt cfg.rtabEntries_pos⟩

instance neZeroFlushEntries : NeZero cfg.flushEntries :=
  ⟨Nat.ne_of_gt cfg.flushEntries_pos⟩

instance neZeroCbufEntries : NeZero cfg.cbufEntries := ⟨Nat.ne_of_gt cfg.cbufEntries_pos⟩

instance neZeroRefillFifoDepth : NeZero cfg.refillFifoDepth :=
  ⟨Nat.ne_of_gt cfg.refillFifoDepth_pos⟩

instance neZeroLineBytes : NeZero cfg.lineBytes := ⟨Nat.ne_of_gt cfg.lineBytes_pos⟩

/-- `hpdcache_set_t`. -/
abbrev Set := Fin cfg.sets

/-- `hpdcache_way_t`. -/
abbrev Way := Fin cfg.ways

/-- `hpdcache_way_vector_t`. -/
abbrev WayVector := Bits cfg.ways

/-- `rtab_ptr_t`. -/
abbrev RtabPtr := Fin cfg.rtabEntries

/-- `mshr_set_t`. -/
abbrev MshrSet := Fin cfg.mshrSets

/-- `mshr_way_t`. -/
abbrev MshrWay := Fin cfg.mshrWays

/-- `cbuf_id_t`. -/
abbrev CbufId := Fin cfg.cbufEntries

/-- The line address of a tag and a set. -/
def nlineOf (tag : Nat) (set : cfg.Set) : Nat :=
  tag * cfg.sets + set.val

/-- The cache set of a line address. -/
def setOf (nline : Nat) : cfg.Set :=
  Fin.ofNat cfg.sets nline

/-- The cache tag of a line address. -/
def tagOf (nline : Nat) : Nat :=
  nline / cfg.sets

/-- The MSHR set of a line address. -/
def mshrSetOf (nline : Nat) : cfg.MshrSet :=
  Fin.ofNat cfg.mshrSets nline

end Cfg

/-- A small configuration: two sets of one way, and two MSHR sets of one way. -/
def Cfg.small : Cfg where
  sets := 2
  ways := 1
  mshrSets := 2
  mshrWays := 1
  rtabEntries := 2
  flushEntries := 1
  cbufEntries := 1
  refillFifoDepth := 1
  clWords := 1
  accessWords := 1
  mshrUseRegbank := true
  refillCoreRspFeedthrough := true
  victimSel := .random
  memIdWidth := 2
  wordBytes := 1
  lineBytes := 1
  wtEn := true
  wbEn := true
  lowLatency := true
  eccEn := false
  eccScrubberEn := false
  wbuf := {
    wbufDirEntries := 1
    wbufDataEntries := 1
    wbufWords := 1
    reqBytes := 1
    lineEntries := 1
    memDataRatio := 1
    wbufTimecntWidth := 1
    dirEntries_pos := Nat.one_pos
    dataEntries_pos := Nat.one_pos
    words_pos := Nat.one_pos
    reqBytes_pos := Nat.one_pos
    lineEntries_pos := Nat.one_pos
    memDataRatio_pos := Nat.one_pos }
  sets_pos := Nat.two_pos
  ways_pos := Nat.one_pos
  mshrSets_pos := Nat.two_pos
  mshrWays_pos := Nat.one_pos
  rtabEntries_pos := Nat.two_pos
  flushEntries_pos := Nat.one_pos
  cbufEntries_pos := Nat.one_pos
  refillFifoDepth_pos := Nat.one_pos
  accessWords_pos := Nat.one_pos
  accessWords_le := by decide
  lineBytes_pos := Nat.one_pos
  lineBytes_eq := by decide
  mshrSets_dvd := by decide
  writePolicy := by decide
  memIds := by decide

/-! ## Requests -/

/-- `hpdcache_req_t`, with the address offset split into the cache set and the
byte inside the line. -/
structure Req (cfg : Cfg) where
  addrTag : Nat
  addrSet : cfg.Set
  addrByte : Fin cfg.lineBytes
  wdata : cfg.wbuf.Data
  op : ReqOp
  be : cfg.wbuf.Be
  size : Nat
  sid : Nat
  tid : Nat
  needRsp : Bool
  physIndexed : Bool
  pma : Pma

/-- `hpdcache_req_x_t`: a request with the flags the controller adds. -/
structure ReqX (cfg : Cfg) where
  req : Req cfg
  isError : Bool
  fromRtab : Bool
  errScrubbing : Bool

namespace Req

variable {cfg : Cfg}

/-- The all-zero request that registers hold at reset. -/
def zero : Req cfg where
  addrTag := 0
  addrSet := 0
  addrByte := 0
  wdata := fun _ => 0
  op := .load
  be := fun _ => false
  size := 0
  sid := 0
  tid := 0
  needRsp := false
  physIndexed := false
  pma := { uncacheable := false, wrPolicyHint := .auto }

/-- The line address of a request. -/
def nline (req : Req cfg) : Nat :=
  cfg.nlineOf req.addrTag req.addrSet

/-- The byte address of a request. -/
def addr (req : Req cfg) : Nat :=
  req.nline * cfg.lineBytes + req.addrByte.val

end Req

def ReqX.zero {cfg : Cfg} : ReqX cfg where
  req := Req.zero
  isError := false
  fromRtab := false
  errScrubbing := false

end Cva6Hpd.Hpdcache
