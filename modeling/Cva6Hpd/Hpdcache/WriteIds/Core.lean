import Cva6Hpd.Hpdcache.Flush
import Cva6Hpd.Hpdcache.Uncached.Core
import Cva6Hpd.Hpdcache.Wbuf.Invariant
import Cva6Hpd.Hw.InFlight

/-!
# The identifiers of memory writes

The write buffer, the flush controller and the handler of uncacheable requests
share the write channels of the memory. `hpdcache` splits the identifiers in three
segments and routes a response by its identifier: the all-ones value belongs to
the handler, the other values with the highest bit set to the flush controller, and
those with it clear to the write buffer. When the channels take a request is an
input.
-/

namespace Cva6Hpd.Hpdcache.WriteIds

open Cva6Hpd.Hw
open Cva6Hpd.Common

variable {cfg : Cfg}

/-! ## Identifiers -/

/-- The assertions on the widths of the identifiers. -/
structure IdWidths (cfg : Cfg) : Prop where
  wbuf : cfg.wtEn = true → cfg.wbuf.wbufDirEntries ≤ 2 ^ (cfg.memIdWidth - 1)
  flush : cfg.wbEn = true → cfg.flushEntries + 1 ≤ 2 ^ (cfg.memIdWidth - 1)

/-- A write request: its unit, and the identifier that this unit gave. -/
inductive Origin (cfg : Cfg) where
  | wbuf (id : cfg.wbuf.DirPtr)
  | flush (id : Fin cfg.flushEntries)
  | uc
deriving DecidableEq

/-- The unit of the request exists. -/
def Origin.Enabled : Origin cfg → Prop
  | wbuf _ => cfg.wtEn = true
  | flush _ => cfg.wbEn = true
  | uc => True

/-- `'1` at the width of an identifier. -/
def allOnes (cfg : Cfg) : Nat := 2 ^ cfg.memIdWidth - 1

/-- The lower bits of an identifier, without the highest one. -/
def lowBits (cfg : Cfg) (id : Nat) : Nat := id % 2 ^ (cfg.memIdWidth - 1)

/-- `hpdcache_req_write_sel_id`. -/
def reqWriteSelId : Origin cfg → Nat
  | .wbuf id => lowBits cfg id.val
  | .flush id => 2 ^ (cfg.memIdWidth - 1) + lowBits cfg id.val
  | .uc => allOnes cfg

/-- The outputs of `mem_resp_write_demux_comb`. -/
structure Demux where
  wbufValid : Bool
  flushValid : Bool
  ucValid : Bool
deriving DecidableEq, Repr

def demux (cfg : Cfg) (valid : Bool) (id : Nat) : Demux :=
  if valid then
    if id = allOnes cfg then ⟨false, false, true⟩
    else if id.testBit (cfg.memIdWidth - 1) then ⟨false, true, false⟩
    else ⟨true, false, false⟩
  else ⟨false, false, false⟩

/-- The demultiplexer selects the unit alone. -/
def Origin.selected : Origin cfg → Demux
  | wbuf _ => ⟨true, false, false⟩
  | flush _ => ⟨false, true, false⟩
  | uc => ⟨false, false, true⟩

theorem memIdWidth_pos (cfg : Cfg) : 0 < cfg.memIdWidth := by
  by_contra zero
  have ids := cfg.memIds
  have misses := Nat.mul_pos cfg.mshrWays_pos cfg.mshrSets_pos
  rw [Nat.eq_zero_of_not_pos zero] at ids
  omega

/-- All ones is the highest bit and all lower bits. -/
theorem allOnes_eq (cfg : Cfg) :
    allOnes cfg = 2 ^ (cfg.memIdWidth - 1) + (2 ^ (cfg.memIdWidth - 1) - 1) := by
  have width := memIdWidth_pos cfg
  obtain ⟨low, eq⟩ := Nat.exists_eq_succ_of_ne_zero width.ne'
  rw [allOnes, eq, Nat.succ_sub_one, Nat.pow_succ]
  have half := Nat.two_pow_pos low
  omega

theorem lowBits_wbuf (widths : IdWidths cfg) (enabled : cfg.wtEn = true)
    (id : cfg.wbuf.DirPtr) : lowBits cfg id.val = id.val :=
  Nat.mod_eq_of_lt (Nat.lt_of_lt_of_le id.isLt (widths.wbuf enabled))

theorem lowBits_flush (widths : IdWidths cfg) (enabled : cfg.wbEn = true)
    (id : Fin cfg.flushEntries) : lowBits cfg id.val = id.val := by
  have room := widths.flush enabled
  have bound := id.isLt
  exact Nat.mod_eq_of_lt (by omega)

theorem demux_sel (widths : IdWidths cfg) {origin : Origin cfg} (enabled : origin.Enabled) :
    demux cfg true (reqWriteSelId origin) = origin.selected := by
  have ones := allOnes_eq cfg
  have half := Nat.two_pow_pos (cfg.memIdWidth - 1)
  cases origin with
  | wbuf id =>
      have low : lowBits cfg id.val < 2 ^ (cfg.memIdWidth - 1) := Nat.mod_lt _ half
      have clear : (lowBits cfg id.val).testBit (cfg.memIdWidth - 1) = false :=
        Nat.testBit_lt_two_pow low
      simp only [demux, reqWriteSelId, Origin.selected, if_true, clear]
      rw [if_neg (by omega), if_neg Bool.false_ne_true]
  | flush id =>
      have room := widths.flush enabled
      have bound := id.isLt
      have low := lowBits_flush widths enabled id
      have set : (2 ^ (cfg.memIdWidth - 1) + lowBits cfg id.val).testBit
          (cfg.memIdWidth - 1) = true := by
        rw [Nat.testBit_two_pow_add_eq, low, Nat.testBit_lt_two_pow (by omega)]
        rfl
      simp only [demux, reqWriteSelId, Origin.selected, if_true, set]
      rw [if_neg (by omega)]
  | uc => simp [demux, reqWriteSelId, Origin.selected]

theorem reqWriteSelId_injective (widths : IdWidths cfg) {first second : Origin cfg}
    (firstEnabled : first.Enabled) (secondEnabled : second.Enabled)
    (same : reqWriteSelId first = reqWriteSelId second) : first = second := by
  have unit : first.selected = second.selected := by
    rw [← demux_sel widths firstEnabled, ← demux_sel widths secondEnabled, same]
  cases first with
  | wbuf id =>
      cases second with
      | wbuf other =>
          rw [reqWriteSelId, reqWriteSelId, lowBits_wbuf widths firstEnabled,
            lowBits_wbuf widths firstEnabled] at same
          exact congrArg Origin.wbuf (Fin.ext same)
      | flush other => simp [Origin.selected] at unit
      | uc => simp [Origin.selected] at unit
  | flush id =>
      cases second with
      | wbuf other => simp [Origin.selected] at unit
      | flush other =>
          rw [reqWriteSelId, reqWriteSelId, lowBits_flush widths firstEnabled,
            lowBits_flush widths firstEnabled] at same
          exact congrArg Origin.flush (Fin.ext (Nat.add_left_cancel same))
      | uc => simp [Origin.selected] at unit
  | uc =>
      cases second with
      | wbuf other => simp [Origin.selected] at unit
      | flush other => simp [Origin.selected] at unit
      | uc => rfl

/-! ## The three units -/

structure State (cfg : Cfg) where
  wbuf : Wbuf.State cfg.wbuf
  flush : Flush.State cfg
  uc : Uncached.State cfg

/-- The inputs of one cycle; the response fields of the units come from the write
response of the memory. -/
structure Input (cfg : Cfg) where
  wbuf : Wbuf.Input cfg.wbuf
  flush : Flush.Input cfg
  uc : Uncached.Input cfg
  memRespWriteValid : Bool
  memRespWId : Nat

section Signals

variable (s : State cfg) (i : Input cfg)

def memRespWrite : Demux := demux cfg i.memRespWriteValid i.memRespWId

/-- `mem_resp_write_wbuf` and `mem_resp_write_flush` carry the lower bits. -/
def wbufInput : Wbuf.Input cfg.wbuf :=
  { i.wbuf with
    memRespWriteValid := (memRespWrite i).wbufValid
    memRespWId := lowBits cfg i.memRespWId }

def flushInput : Flush.Input cfg :=
  { i.flush with
    mem := { i.flush.mem with
      memRespWriteValid := (memRespWrite i).flushValid
      memRespWId := lowBits cfg i.memRespWId } }

def ucInput : Uncached.Input cfg := { i.uc with memRespWriteValid := (memRespWrite i).ucValid }

/-- The meta-data of a line that is queued for its write. -/
def flushMemReq : Flush.MemReq cfg where
  nline := i.flush.flushAllocNline
  memReqId := Flush.freePtr s.flush

/-- The requests that the write channels take. -/
def wbufAccepted : List (Origin cfg) :=
  if cfg.wtEn then
    (Wbuf.memAccepted s.wbuf (wbufInput i)).map fun request => .wbuf request.metaId
  else []

def flushAccepted : List (Origin cfg) :=
  if cfg.wbEn && (i.flush.mem.memReqWriteReady &&
      s.flush.memReqMetaFifo.rok false (Flush.memReqW s.flush (flushInput i))) then
    [.flush (s.flush.memReqMetaFifo.rdata false (flushMemReq s i)).memReqId]
  else []

def ucAccepted : List (Origin cfg) :=
  if Uncached.memReqWriteValid s.uc && i.uc.memReqWriteReady then [.uc] else []

def accepted : List (Origin cfg) := wbufAccepted s i ++ flushAccepted s i ++ ucAccepted s i

/-- A unit that is not configured stays as it is. -/
def step : State cfg where
  wbuf := if cfg.wtEn then Wbuf.step s.wbuf (wbufInput i) else s.wbuf
  flush := if cfg.wbEn then Flush.step s.flush (flushInput i) else s.flush
  uc := Uncached.step s.uc (ucInput i)

end Signals

def reset (cfg : Cfg) : State cfg where
  wbuf := Wbuf.reset cfg.wbuf
  flush := Flush.reset cfg
  uc := Uncached.reset cfg

def machine (cfg : Cfg) : Machine (State cfg) (Input cfg) where
  reset := reset cfg
  step := step

/-! ## Outstanding requests -/

section Outstanding

variable (s : State cfg) (i : Input cfg) (outstanding : List (Origin cfg))

/-- The request that the response of the memory answers: the first one with its
identifier. -/
def answered : Option (Origin cfg) :=
  if i.memRespWriteValid then
    (outstanding ++ accepted s i).find? fun origin => reqWriteSelId origin == i.memRespWId
  else none

/-- The requests taken by the write channels and not answered yet. -/
def recordOutstanding : List (Origin cfg) :=
  answer (answered s i outstanding) (outstanding ++ accepted s i)

end Outstanding

/-- The three units with their outstanding requests. -/
def idMachine (cfg : Cfg) : Machine (State cfg × List (Origin cfg)) (Input cfg) :=
  (machine cfg).withHistory [] recordOutstanding

/-- The memory responds to requests that it was given. -/
def RespondsToIssued (s : State cfg × List (Origin cfg)) (i : Input cfg) : Prop :=
  i.memRespWriteValid = true →
    ∃ origin ∈ s.2 ++ accepted s.1 i, reqWriteSelId origin = i.memRespWId

instance decidableRespondsToIssued (s : State cfg × List (Origin cfg)) (i : Input cfg) :
    Decidable (RespondsToIssued s i) :=
  inferInstanceAs (Decidable (_ → _))

/-- The response reaches the unit of the request alone, with the identifier that it
gave. -/
def Delivered (i : Input cfg) (origin : Origin cfg) : Prop :=
  memRespWrite i = origin.selected ∧
    match origin with
    | .wbuf id => Wbuf.ackId (wbufInput i) = id.val
    | .flush id => Flush.ackPtr cfg (flushInput i).mem = id.val
    | .uc => True

theorem delivered_of_answers (widths : IdWidths cfg) {i : Input cfg} {origin : Origin cfg}
    (enabled : origin.Enabled) (valid : i.memRespWriteValid = true)
    (answers : reqWriteSelId origin = i.memRespWId) : Delivered i origin := by
  refine ⟨by rw [memRespWrite, valid, ← answers, demux_sel widths enabled], ?_⟩
  cases origin with
  | wbuf id =>
      have low := lowBits_wbuf widths enabled id
      change lowBits cfg i.memRespWId % 2 ^ Nat.clog 2 cfg.wbuf.wbufDirEntries = id.val
      rw [← answers, reqWriteSelId, low, low, Nat.mod_eq_of_lt]
      exact Nat.lt_of_lt_of_le id.isLt (Nat.le_pow_clog Nat.one_lt_two _)
  | flush id =>
      have low := lowBits_flush widths enabled id
      have double : lowBits cfg (2 ^ (cfg.memIdWidth - 1) + lowBits cfg id.val) = id.val := by
        rw [lowBits, Nat.add_mod_left, low, ← lowBits, low]
      change lowBits cfg i.memRespWId % 2 ^ max 1 (Nat.clog 2 cfg.flushEntries) = id.val
      rw [← answers, reqWriteSelId, double, Nat.mod_eq_of_lt]
      calc
        id.val < cfg.flushEntries := id.isLt
        _ ≤ 2 ^ Nat.clog 2 cfg.flushEntries := Nat.le_pow_clog Nat.one_lt_two _
        _ ≤ 2 ^ max 1 (Nat.clog 2 cfg.flushEntries) :=
          Nat.pow_le_pow_right Nat.two_pos (Nat.le_max_right _ _)
  | uc => trivial

end Cva6Hpd.Hpdcache.WriteIds
