import Cva6Hpd.Common.Sram
import Cva6Hpd.Icache.Plru

/-!
# The instruction cache

`cva6_icache`: the control state machine, the tag comparison, the choice of the
way to replace and the memories. User bits are left out. The translation of the
fetch address and the memory are inputs.
-/

namespace Cva6Hpd.Icache

open Cva6Hpd.Hw Cva6Hpd.Common

/-- The parameters of the cache. The regions are arbitrary predicates of the
physical address. -/
structure Cfg where
  logWays : Nat
  indexWidth : Nat
  offsetWidth : Nat
  fetchAlignBits : Nat
  nocAxi : Bool
  nonIdemPotenceEn : Bool
  isInsideCacheableRegions : Nat → Bool
  isInsideNonidempotentRegions : Nat → Bool
  ways_legal : 1 ≤ logWays
  index_legal : offsetWidth < indexWidth
  offset_legal : 3 ≤ offsetWidth
  fetch_legal : fetchAlignBits = 2 ∨ fetchAlignBits = 3
  -- the offset into the line is aligned to 32 bits without AXI
  piton_legal : nocAxi = false → fetchAlignBits = 2

namespace Cfg

variable (cfg : Cfg)

/-- `ICACHE_SET_ASSOC`. -/
abbrev ways : Nat := 2 ^ cfg.logWays

/-- `ICACHE_NUM_WORDS`. -/
abbrev numWords : Nat := 2 ^ (cfg.indexWidth - cfg.offsetWidth)

instance neZeroWays : NeZero cfg.ways := ⟨Nat.ne_of_gt (Nat.two_pow_pos cfg.logWays)⟩

instance neZeroNumWords : NeZero cfg.numWords := ⟨Nat.ne_of_gt (Nat.two_pow_pos _)⟩

/-- The bits `[INDEX_WIDTH-1:OFFSET_WIDTH]` of an address. -/
def index (addr : Nat) : Fin cfg.numWords := Fin.ofNat _ (addr / 2 ^ cfg.offsetWidth)

end Cfg

/-- Two ways of two lines of eight bytes, all cacheable. -/
def Cfg.small : Cfg where
  logWays := 1
  indexWidth := 4
  offsetWidth := 3
  fetchAlignBits := 2
  nocAxi := true
  nonIdemPotenceEn := true
  isInsideCacheableRegions := fun _ => true
  isInsideNonidempotentRegions := fun _ => false
  ways_legal := Nat.one_pos
  index_legal := by decide
  offset_legal := by decide
  fetch_legal := by decide
  piton_legal := by decide

abbrev Byte := BitVec 8

/-- A cache line as memory returns it, by byte offset. -/
abbrev Line := Nat → Byte

/-- A word of the tag memory. -/
structure TagWord where
  vld : Bool
  tag : Nat
deriving DecidableEq

/-- `state_e`. -/
inductive Fsm where
  | flush
  | idle
  | read
  | miss
  | killAtrans
  | killMiss
deriving DecidableEq

/-- `mem_rtrn_i.rtype`. -/
inductive Rtype where
  | invReq
  | ifillAck
deriving DecidableEq

/-- The registers and memories of the cache. -/
structure State (cfg : Cfg) where
  stateQ : Fsm
  clTagQ : Nat
  flushCntQ : Fin cfg.numWords
  vaddrQ : Nat
  cmpEnQ : Bool
  cacheEnQ : Bool
  flushQ : Bool
  clOffsetQ : Nat
  replWayOhQ : Bits cfg.ways
  invQ : Bool
  plruTreeQ : Plru.Tree
  tagSram : Fin cfg.ways → TcSram cfg.numWords TagWord
  dataSram : Fin cfg.ways → TcSram cfg.numWords Line

/-- The inputs of one cycle: the flush and the enable, the answer of the
translation, the request of the core, the return of the memory and its
acknowledgement of a miss. -/
structure Input (cfg : Cfg) where
  flush : Bool
  en : Bool
  fetchValid : Bool
  fetchPaddr : Nat
  fetchException : Bool
  req : Bool
  killS1 : Bool
  killS2 : Bool
  spec : Bool
  vaddr : Nat
  memRtrnVld : Bool
  rtype : Rtype
  rtrnData : Line
  invAll : Bool
  invVld : Bool
  invIdx : Nat
  invWay : Fin cfg.ways
  memDataAck : Bool

/-- A cycle in which nothing arrives and the cache is enabled. -/
def Input.quiet (cfg : Cfg) : Input cfg where
  flush := false
  en := true
  fetchValid := false
  fetchPaddr := 0
  fetchException := false
  req := false
  killS1 := false
  killS2 := false
  spec := false
  vaddr := 0
  memRtrnVld := false
  rtype := .ifillAck
  rtrnData := fun _ => 0
  invAll := false
  invVld := false
  invIdx := 0
  invWay := 0
  memDataAck := false

/-- What the state machine drives in one cycle. -/
structure Ctrl where
  stateD : Fsm
  cacheEnD : Bool
  flushD : Bool
  flushEn : Bool
  cmpEnD : Bool
  cacheRden : Bool
  cacheWren : Bool
  invEn : Bool
  ready : Bool
  fetchReq : Bool
  valid : Bool
  memDataReq : Bool
  miss : Bool

section Signals

variable {cfg : Cfg} (s : State cfg) (i : Input cfg)

/-! ## Tag comparison -/

def clTagD : Nat := if i.fetchValid then i.fetchPaddr / 2 ^ cfg.indexWidth else s.clTagQ

def paddrIsNc : Bool :=
  !s.cacheEnQ || !cfg.isInsideCacheableRegions (clTagD s i * 2 ^ cfg.indexWidth)

def vldRdata : Bits cfg.ways := fun way => (s.tagSram way).rdataQ.vld

def clTagRdata (way : Fin cfg.ways) : Nat := (s.tagSram way).rdataQ.tag

def clHit : Bits cfg.ways := fun way => clTagRdata s way == clTagD s i && vldRdata s way

/-- The index of a leading-zero counter in its trailing mode; the last index
when no bit is set. -/
def lzcCnt {n : Nat} [NeZero n] (bits : Bits n) : Fin n :=
  if bits.any then bits.firstIndex else Fin.ofNat n (n - 1)

def hitIdx : Fin cfg.ways := lzcCnt (clHit s i)

/-! ## The way to replace -/

def allWaysValid : Bool := !(Bits.any fun way => !vldRdata s way)

/-- The first way that is not valid. -/
def invWayIdx : Fin cfg.ways := lzcCnt fun way => !vldRdata s way

def plruReplaceWay : Fin cfg.ways := Plru.replaceWay cfg.logWays s.plruTreeQ i.flush

def replWay : Fin cfg.ways := if allWaysValid s then plruReplaceWay s i else invWayIdx s

/-- `mem_data_o.way`: the way that a miss request announces. -/
def memDataWay : Fin cfg.ways := replWay s i

def replWayOhD : Bits cfg.ways := if s.cmpEnQ then Bits.single (replWay s i) else s.replWayOhQ

/-! ## The state machine -/

def addrNi : Bool := cfg.isInsideNonidempotentRegions i.fetchPaddr

def flushDone : Bool := s.flushCntQ.val == cfg.numWords - 1

def invEn : Bool := i.memRtrnVld && i.rtype == .invReq

def ifillAck : Bool := i.memRtrnVld && i.rtype == .ifillAck

def flushPending : Bool := s.flushQ || i.flush

/-- The translation is there, and the access may be made speculatively. -/
def translated : Bool := i.fetchValid && (!i.spec || (cfg.nonIdemPotenceEn && !addrNi i) ||
  !cfg.nonIdemPotenceEn)

/-- There is a result to return: a hit, or an exception of the translation. -/
def hitOrException : Bool := ((clHit s i).any && s.cacheEnQ) || i.fetchException

/-- The default assignments of `p_fsm`, and the invalidations that every state
handles. -/
def ctrlDefault : Ctrl where
  stateD := s.stateQ
  cacheEnD := s.cacheEnQ && i.en
  flushD := flushPending s i
  flushEn := false
  cmpEnD := false
  cacheRden := false
  cacheWren := false
  invEn := invEn i
  ready := false
  fetchReq := false
  valid := false
  memDataReq := false
  miss := false

def ctrlFlush : Ctrl :=
  if flushDone s then
    { ctrlDefault s i with flushEn := true, stateD := .idle, flushD := false, cacheEnD := i.en }
  else { ctrlDefault s i with flushEn := true }

def ctrlIdle : Ctrl :=
  if flushPending s i || (i.en && !s.cacheEnQ) then
    { ctrlDefault s i with cmpEnD := s.cacheEnQ, stateD := .flush }
  else
    let ready := !i.memRtrnVld
    let accept := ready && i.req
    { ctrlDefault s i with
      cmpEnD := s.cacheEnQ
      ready := ready
      cacheRden := accept
      stateD := if i.killS1 then .idle else if accept then .read else .idle }

def ctrlRead : Ctrl :=
  let base := { ctrlDefault s i with
    fetchReq := true, cmpEnD := s.cacheEnQ, cacheRden := s.cacheEnQ }
  if translated i then
    if flushPending s i then { base with stateD := .idle }
    else if hitOrException s i && !s.invQ then
      let ready := !i.memRtrnVld
      { base with
        valid := !i.killS2
        ready := ready
        stateD := if i.killS1 then .idle else if ready && i.req then .read else .idle }
    else if i.killS2 then { base with stateD := .idle }
    else if !s.invQ then
      { base with
        cmpEnD := false
        memDataReq := true
        miss := i.memDataAck && !paddrIsNc s i
        stateD := if i.memDataAck then .miss else .read }
    else base
  else if i.killS2 || flushPending s i then { base with stateD := .killAtrans }
  else base

def ctrlMiss : Ctrl :=
  if ifillAck i then
    if !(i.killS2 || flushPending s i) then
      { ctrlDefault s i with stateD := .idle, valid := true, cacheWren := !paddrIsNc s i }
    else { ctrlDefault s i with stateD := .idle }
  else if i.killS2 || flushPending s i then { ctrlDefault s i with stateD := .killMiss }
  else ctrlDefault s i

def ctrlKillAtrans : Ctrl :=
  { ctrlDefault s i with
    fetchReq := true
    stateD := if i.fetchValid then .idle else .killAtrans }

def ctrlKillMiss : Ctrl :=
  { ctrlDefault s i with stateD := if ifillAck i then .idle else .killMiss }

/-- `p_fsm`. -/
def pFsm : Ctrl :=
  match s.stateQ with
  | .flush => ctrlFlush s i
  | .idle => ctrlIdle s i
  | .read => ctrlRead s i
  | .miss => ctrlMiss s i
  | .killAtrans => ctrlKillAtrans s i
  | .killMiss => ctrlKillMiss s i

/-! ## Addresses -/

/-- A request of the core is accepted. -/
def accepts : Bool := (pFsm s i).ready && i.req

def vaddrD : Nat := if accepts s i then i.vaddr else s.vaddrQ

def clIndex : Fin cfg.numWords := cfg.index (vaddrD s i)

/-- `cl_offset_d`. A word that memory returns for an access that is not
cacheable is at offset 0 or 4 on AXI; the openpiton system replicates it. -/
def clOffsetD : Nat :=
  if cfg.nocAxi then
    if accepts s i then
      i.vaddr / 2 ^ cfg.fetchAlignBits * 2 ^ cfg.fetchAlignBits % 2 ^ cfg.offsetWidth
    else if paddrIsNc s i && (pFsm s i).memDataReq then s.clOffsetQ / 4 % 2 * 4
    else s.clOffsetQ
  else if accepts s i then i.vaddr / 4 * 4 % 2 ^ cfg.offsetWidth
  else s.clOffsetQ

/-- `areq_o.fetch_vaddr`. -/
def fetchVaddr : Nat := s.vaddrQ / 2 ^ cfg.fetchAlignBits * 2 ^ cfg.fetchAlignBits

/-- `mem_data_o.paddr`: aligned to the line, or to the word of an access that
is not cacheable. -/
def memDataPaddr : Nat :=
  let align := if paddrIsNc s i then (if cfg.nocAxi then 8 else 4) else 2 ^ cfg.offsetWidth
  clTagD s i * 2 ^ cfg.indexWidth + s.vaddrQ % 2 ^ cfg.indexWidth / align * align

/-! ## The ports of the memories -/

def vldAddr : Fin cfg.numWords :=
  if (pFsm s i).flushEn then s.flushCntQ
  else if (pFsm s i).invEn then cfg.index i.invIdx
  else clIndex s i

def vldReq : Bits cfg.ways :=
  if (pFsm s i).flushEn || (pFsm s i).cacheRden then fun _ => true
  else if i.invAll && (pFsm s i).invEn then fun _ => true
  else if i.invVld && (pFsm s i).invEn then Bits.single i.invWay
  else s.replWayOhQ

def vldWe : Bool := (pFsm s i).cacheWren || (pFsm s i).invEn || (pFsm s i).flushEn

def clReq : Bits cfg.ways :=
  if (pFsm s i).cacheRden then fun _ => true
  else if (pFsm s i).cacheWren then s.replWayOhQ
  else fun _ => false

def tagPort (way : Fin cfg.ways) : TcSramPort cfg.numWords TagWord where
  req := vldReq s i way
  we := vldWe s i
  addr := vldAddr s i
  wdata := { vld := (pFsm s i).cacheWren, tag := s.clTagQ }

def dataPort (way : Fin cfg.ways) : TcSramPort cfg.numWords Line where
  req := clReq s i way
  we := (pFsm s i).cacheWren
  addr := clIndex s i
  wdata := i.rtrnData

def plruAccessWay : Fin cfg.ways := if (pFsm s i).cacheWren then replWay s i else hitIdx s i

def plruInput : Plru.Input cfg.logWays where
  update := (s.cmpEnQ && (clHit s i).any) || (pFsm s i).cacheWren
  accessWay := plruAccessWay s i
  flush := i.flush

/-! ## The response -/

/-- The `FETCH_WIDTH` bits of a line at a byte offset. -/
def fetchBits (cfg : Cfg) (line : Line) (offset : Nat) : List Byte :=
  (List.range (2 ^ cfg.fetchAlignBits)).map fun byte => line (offset + byte)

def clSel (way : Fin cfg.ways) : List Byte :=
  fetchBits cfg (s.dataSram way).rdataQ s.clOffsetQ

/-- `dreq_o.data`. -/
def dreqData : List Byte :=
  if s.cmpEnQ then clSel s (hitIdx s i) else fetchBits cfg i.rtrnData s.clOffsetQ

end Signals

/-! ## The clock edge -/

section Step

variable {cfg : Cfg}

def step (s : State cfg) (i : Input cfg) : State cfg where
  stateQ := (pFsm s i).stateD
  clTagQ := clTagD s i
  flushCntQ :=
    if flushDone s then 0 else if (pFsm s i).flushEn then s.flushCntQ + 1 else s.flushCntQ
  vaddrQ := vaddrD s i
  cmpEnQ := (pFsm s i).cmpEnD
  cacheEnQ := (pFsm s i).cacheEnD
  flushQ := (pFsm s i).flushD
  clOffsetQ := clOffsetD s i
  replWayOhQ := replWayOhD s i
  invQ := (pFsm s i).invEn
  plruTreeQ := Plru.step s.plruTreeQ (plruInput s i)
  tagSram := fun way => (s.tagSram way).step (tagPort s i way)
  dataSram := fun way => (s.dataSram way).step (dataPort s i way)

/-- What the memories hold before reset: they are not initialised. -/
structure PowerUp (cfg : Cfg) where
  tag : Fin cfg.ways → Fin cfg.numWords → TagWord
  tagRdata : Fin cfg.ways → TagWord
  data : Fin cfg.ways → Fin cfg.numWords → Line
  dataRdata : Fin cfg.ways → Line

def reset (powerUp : PowerUp cfg) : State cfg where
  stateQ := .flush
  clTagQ := 0
  flushCntQ := 0
  vaddrQ := 0
  cmpEnQ := false
  cacheEnQ := false
  flushQ := false
  clOffsetQ := 0
  replWayOhQ := Bits.zero
  invQ := false
  plruTreeQ := fun _ => false
  tagSram := fun way => ⟨powerUp.tag way, 0, powerUp.tagRdata way⟩
  dataSram := fun way => ⟨powerUp.data way, 0, powerUp.dataRdata way⟩

/-- Memories that power up with all words invalid. -/
def PowerUp.zero (cfg : Cfg) : PowerUp cfg where
  tag := fun _ _ => ⟨false, 0⟩
  tagRdata := fun _ => ⟨false, 0⟩
  data := fun _ _ _ => 0
  dataRdata := fun _ _ => 0

def machine (powerUp : PowerUp cfg) : Machine (State cfg) (Input cfg) where
  reset := reset powerUp
  step := step

end Step

end Cva6Hpd.Icache
