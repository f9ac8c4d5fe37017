import Cva6Hpd.Ariane.Pkg
import Cva6Hpd.Hw.Bytes
import Cva6Hpd.Scoreboard.Core

/-!
# Types of the load and store units

The parameters of the core that its load and store units read, the request that the issue
stage hands them, and the two directions of a port of the data cache.
-/

namespace Cva6Hpd.Lsu

open Cva6Hpd.Ariane

export Cva6Hpd.Scoreboard (Fu ExceptionT)

/-! ## Configuration -/

/-- The fields of `cva6_cfg_t` that the load and store units read. -/
structure Cfg where
  isXlen64 : Bool
  vlen : Nat
  transIdBits : Nat
  dcacheIndexWidth : Nat
  dcacheIdWidth : Nat
  nrLoadBufEntries : Nat
  mmuPresent : Bool
  rva : Bool
  rvh : Bool
  rvZiCbom : Bool
  fpPresent : Bool
  speculativeSb : Bool
  nonIdemPotenceEn : Bool
  /-- The page offset is part of a virtual address. -/
  vlen_ge : 12 ≤ vlen
  nrLoadBufEntries_pos : 0 < nrLoadBufEntries

namespace Cfg

variable (cfg : Cfg)

def xlen : Nat := if cfg.isXlen64 then 64 else 32

def plen : Nat := if cfg.isXlen64 then 56 else 34

def dcacheTagWidth : Nat := cfg.plen - cfg.dcacheIndexWidth

/-- `XLEN_ALIGN_BYTES`. -/
def xlenAlignBytes : Nat := if cfg.isXlen64 then 3 else 2

/-- `TRANS_ID_BITS` wires. -/
abbrev TransId : Type := BitVec cfg.transIdBits

instance neZeroLoadBuf : NeZero cfg.nrLoadBufEntries :=
  ⟨cfg.nrLoadBufEntries_pos.ne'⟩

/-- A core with all extensions. -/
def sample : Cfg where
  isXlen64 := true
  vlen := 64
  transIdBits := 3
  dcacheIndexWidth := 12
  dcacheIdWidth := 1
  nrLoadBufEntries := 2
  mmuPresent := true
  rva := true
  rvh := false
  rvZiCbom := true
  fpPresent := true
  speculativeSb := true
  nonIdemPotenceEn := true
  vlen_ge := by decide
  nrLoadBufEntries_pos := Nat.two_pos

end Cfg

/-! ## Addresses -/

/-- The bits `[11:3]` of an address: the double word of its page. -/
def pageDword {width : Nat} (address : BitVec width) : BitVec 9 := address.extractLsb' 3 9

/-! ## Data -/

/-- The first `count` bytes in reverse order, and the other ones as they are: what
`{<<8{..}}` does to the end of a word. -/
def swapBytes {cfg : Cfg} (count : Nat) (data : BitVec cfg.xlen) : BitVec cfg.xlen :=
  (Hw.ofBytes
    (fun k => if k < count then Hw.byteAt data (count - 1 - k) else Hw.byteAt data k)
    (cfg.xlen / 8)).setWidth cfg.xlen

/-! ## Requests -/

variable (cfg : Cfg)

/-- `lsu_ctrl_t`; the fields that only the translation reads are left out. -/
structure LsuCtrl where
  valid : Bool
  vaddr : BitVec cfg.vlen
  data : BitVec cfg.xlen
  be : BitVec (cfg.xlen / 8)
  fu : Fu
  operation : FuOp
  transId : cfg.TransId
  isSpeculativeLoad : Bool
  isSpeculativeLoadMiss : Bool
deriving DecidableEq

/-- `dcache_req_i_t`, without the user field, which is always zero. -/
structure DcacheReqI where
  addressIndex : BitVec cfg.dcacheIndexWidth
  addressTag : BitVec cfg.dcacheTagWidth
  dataWdata : BitVec cfg.xlen
  dataReq : Bool
  dataWe : Bool
  dataBe : BitVec (cfg.xlen / 8)
  dataSize : BitVec 2
  dataId : BitVec cfg.dcacheIdWidth
  killReq : Bool
  tagValid : Bool
  cboOp : FuOp
deriving DecidableEq

/-- `dcache_req_o_t`, without the user field. -/
structure DcacheReqO where
  dataGnt : Bool
  dataRvalid : Bool
  dataRid : BitVec cfg.dcacheIdWidth
  dataRdata : BitVec cfg.xlen
deriving DecidableEq

end Cva6Hpd.Lsu
