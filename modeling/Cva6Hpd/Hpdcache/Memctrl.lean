import Cva6Hpd.Hpdcache.Pkg
import Cva6Hpd.Common.Arbiter
import Cva6Hpd.Common.Sram
import Mathlib.Data.Nat.Log

/-!
# The cache directory

The directory part of `hpdcache_memctrl` and its victim selection. The
directory is a single-port memory with one column for each way: in every cycle
one agent reads or writes it, chosen in a fixed order, and the tags read are
compared one cycle later. The data arrays are left out.
-/

namespace Cva6Hpd.Hpdcache.Memctrl

open Cva6Hpd.Hw
open Cva6Hpd.Common

/-- `hpdcache_dir_entry_t`. -/
structure DirEntry where
  valid : Bool
  wback : Bool
  dirty : Bool
  fetch : Bool
  tag : Nat
deriving DecidableEq, Repr

def DirEntry.zero : DirEntry where
  valid := false
  wback := false
  dirty := false
  fetch := false
  tag := 0

/-- The registers and memories of the directory. -/
structure State (cfg : Cfg) where
  initQ : Bool
  initSetQ : cfg.Set
  dirSram : Sram cfg.sets cfg.ways DirEntry
  dirReqSetQ : cfg.Set
  dirReqWayQ : cfg.WayVector
  dirErrWayQ : cfg.WayVector
  plruQ : cfg.Set → cfg.WayVector
  lfsrQ : BitVec 8

/-- The inputs of one cycle. -/
structure Input (cfg : Cfg) where
  dirMatch : Bool
  dirMatchSet : cfg.Set
  dirMatchTag : Nat
  dirUpdtSelVictim : Bool
  dirUpdt : Bool
  dirUpdtSet : cfg.Set
  dirUpdtWay : cfg.WayVector
  dirUpdtEntry : DirEntry
  dirRefill : Bool
  dirRefillSet : cfg.Set
  dirRefillWay : cfg.WayVector
  dirRefillEntry : DirEntry
  dirRefillUpdtSelVictim : Bool
  dirVictimSel : Bool
  dirVictimSet : cfg.Set
  dirInvalCheck : Bool
  dirInvalNline : Nat
  dirInvalWrite : Bool
  dirCmoCheckNline : Bool
  dirCmoCheckNlineSet : cfg.Set
  dirCmoCheckEntry : Bool
  dirCmoCheckEntrySet : cfg.Set
  dirCmoCheckEntryWay : cfg.WayVector
  dirCmoUpdt : Bool
  dirCmoUpdtSet : cfg.Set
  dirCmoUpdtWay : cfg.WayVector
  dirCmoUpdtEntry : DirEntry
  dirErrSet : cfg.Set
  dirErrWay : cfg.WayVector
  dirErrRead : Bool
  dirErrWrite : Bool
  dirErrWdata : DirEntry

/-- The memories power up with any contents: the directory is cleared set by
set before the cache accepts requests. -/
def reset {cfg : Cfg} (powerUp : Sram cfg.sets cfg.ways DirEntry) : State cfg where
  initQ := false
  initSetQ := 0
  dirSram := powerUp
  dirReqSetQ := 0
  dirReqWayQ := Bits.zero
  dirErrWayQ := Bits.zero
  plruQ := fun _ => Bits.zero
  lfsrQ := BitVec.allOnes 8

section Outputs

variable {cfg : Cfg} (state : State cfg)

/-- `dir_rentry`, the entries of the set that was read last. -/
def dirRentry (w : cfg.Way) : DirEntry := state.dirSram.rdata w

def dirValid : cfg.WayVector := fun w => (dirRentry state w).valid

def dirWback : cfg.WayVector := fun w => (dirRentry state w).wback

def dirDirty : cfg.WayVector := fun w => (dirRentry state w).dirty

def dirFetch : cfg.WayVector := fun w => (dirRentry state w).fetch

/-- The ways whose entry is valid and has the given tag. -/
def hitWay (tag : Nat) : cfg.WayVector := fun w =>
  dirValid state w && decide ((dirRentry state w).tag = tag)

/-- The one-hot multiplexer on the tags. -/
def tagMux (sel : cfg.WayVector) : Nat :=
  if sel.any then (dirRentry state sel.lastIndex).tag else 0

/-- The flag of a selected way. -/
def anyOf (sel flag : cfg.WayVector) : Bool := Bits.any fun w => sel w && flag w

/-- `dir_inval_hit_way`. -/
def dirInvalHitWay (invalNline : Nat) : cfg.WayVector :=
  hitWay state (cfg.tagOf invalNline)

/-! ## Victim selection -/

def unusedWays : cfg.WayVector := fun w => !dirFetch state w && !dirValid state w

def cleanWays : cfg.WayVector := fun w =>
  !dirFetch state w && dirValid state w && !dirDirty state w

def dirtyWays : cfg.WayVector := fun w =>
  !dirFetch state w && dirValid state w && dirDirty state w

def plruWays (set : cfg.Set) : cfg.WayVector := fun w =>
  !dirFetch state w && dirValid state w && !state.plruQ set w

/-- The way named by the low bits of the shift register. -/
def randVictimWay : cfg.WayVector := fun w =>
  decide (w.val = state.lfsrQ.toNat % 2 ^ Nat.clog 2 cfg.ways)

def randWays : cfg.WayVector := fun w =>
  !dirFetch state w && dirValid state w && randVictimWay state w

/-- `sel_victim_way_o` of `hpdcache_victim_sel`: no way at all when every way
is being fetched. -/
def selVictimWay (set : cfg.Set) : cfg.WayVector :=
  if cfg.ways = 1 then fun w => !dirFetch state w
  else if (unusedWays state).any then prio1hotEncoder (unusedWays state)
  else match cfg.victimSel with
    | .random =>
        if (randWays state).any then randVictimWay state
        else if (cleanWays state).any then prio1hotEncoder (cleanWays state)
        else prio1hotEncoder (dirtyWays state)
    | .plru =>
        if (plruWays state set).any then prio1hotEncoder (plruWays state set)
        else if (cleanWays state).any then prio1hotEncoder (cleanWays state)
        else prio1hotEncoder (dirtyWays state)

end Outputs

section Step

variable {cfg : Cfg} (state : State cfg) (input : Input cfg)

/-- A read of every way of a set. -/
def readSet (set : cfg.Set) : SramAccess cfg.sets cfg.ways DirEntry where
  addr := set
  cs := fun _ => true
  we := fun _ => false
  wmask := fun _ => true
  wdata := fun _ => DirEntry.zero

/-- A read of the selected ways of a set. -/
def readWay (set : cfg.Set) (way : cfg.WayVector) :
    SramAccess cfg.sets cfg.ways DirEntry where
  addr := set
  cs := way
  we := fun _ => false
  wmask := fun _ => true
  wdata := fun _ => DirEntry.zero

/-- A write of one entry to the selected ways of a set. -/
def writeWay (set : cfg.Set) (way : cfg.WayVector) (entry : DirEntry) :
    SramAccess cfg.sets cfg.ways DirEntry where
  addr := set
  cs := way
  we := way
  wmask := fun _ => true
  wdata := fun _ => entry

/-- `dir_ctrl_comb`: the access to the directory, in order of priority. -/
def dirCtrlComb : SramAccess cfg.sets cfg.ways DirEntry :=
  if !state.initQ then writeWay state.initSetQ (fun _ => true) DirEntry.zero
  else if input.dirMatch then readSet input.dirMatchSet
  else if input.dirRefill then
    writeWay input.dirRefillSet input.dirRefillWay input.dirRefillEntry
  else if input.dirInvalCheck then readSet (cfg.setOf input.dirInvalNline)
  else if input.dirInvalWrite then
    writeWay (cfg.setOf input.dirInvalNline) (dirInvalHitWay state input.dirInvalNline)
      DirEntry.zero
  else if input.dirCmoCheckNline then readSet input.dirCmoCheckNlineSet
  else if input.dirCmoCheckEntry then
    readWay input.dirCmoCheckEntrySet input.dirCmoCheckEntryWay
  else if input.dirCmoUpdt then
    writeWay input.dirCmoUpdtSet input.dirCmoUpdtWay input.dirCmoUpdtEntry
  else if input.dirUpdt then
    writeWay input.dirUpdtSet input.dirUpdtWay input.dirUpdtEntry
  else if cfg.eccEn && input.dirErrRead then readWay input.dirErrSet input.dirErrWay
  else if input.dirErrWrite then
    writeWay input.dirErrSet input.dirErrWay input.dirErrWdata
  else readWay state.dirReqSetQ Bits.zero

/-- `updt_sel_victim`, with the way and the set that were used. -/
def updtSelVictim : Bool := input.dirUpdtSelVictim || input.dirRefillUpdtSelVictim

def updtSelVictimWay : cfg.WayVector :=
  if input.dirUpdtSelVictim then hitWay state input.dirMatchTag else input.dirRefillWay

def updtSelVictimSet : cfg.Set :=
  if input.dirRefillUpdtSelVictim then input.dirRefillSet else state.dirReqSetQ

/-- `plru_update_comb`: mark the used way, and only it once all are marked. -/
def plruD (set : cfg.Set) : cfg.WayVector :=
  let updtPlru : cfg.WayVector := fun w =>
    state.plruQ set w || updtSelVictimWay state input w
  if updtSelVictim input && decide (set = updtSelVictimSet state input) then
    if updtPlru.all then updtSelVictimWay state input else updtPlru
  else
    state.plruQ set

/-- `hpdcache_lfsr` of width 8. -/
def lfsrD (lfsr : BitVec 8) : BitVec 8 :=
  if lfsr.getLsbD 0 then (lfsr >>> 1) ^^^ BitVec.ofNat 8 225 else lfsr >>> 1

def lfsrShift : Bool :=
  input.dirVictimSel && !(unusedWays state).any && (randWays state).any

def step : State cfg where
  initQ := state.initQ || decide (state.initSetQ.val = cfg.sets - 1)
  initSetQ := if state.initQ then state.initSetQ else state.initSetQ + 1
  dirSram := state.dirSram.step false (dirCtrlComb state input)
  dirReqSetQ :=
    if input.dirMatch || input.dirCmoCheckNline || input.dirInvalCheck then
      (dirCtrlComb state input).addr
    else
      state.dirReqSetQ
  dirReqWayQ :=
    if input.dirCmoCheckEntry then input.dirCmoCheckEntryWay else state.dirReqWayQ
  dirErrWayQ := if input.dirErrRead then input.dirErrWay else state.dirErrWayQ
  plruQ := plruD state input
  lfsrQ := if lfsrShift state input then lfsrD state.lfsrQ else state.lfsrQ

end Step

end Cva6Hpd.Hpdcache.Memctrl
