import Cva6Hpd.Common.Arbiter
import Cva6Hpd.Common.DataUpsize
import Cva6Hpd.Common.SyncBuffer
import Cva6Hpd.Hpdcache.Uncached.Amo
import Cva6Hpd.Hw.Machine

/-!
# The memory port of both caches

`cva6_hpdcache_subsystem_axi_arbiter`: a buffer holds the miss of the instruction cache from
its acceptance to its response, an arbiter with fixed priority merges it with the reads of the
data cache, and the responses are told apart by their identifiers. The write channels belong
to the data cache alone.
-/

namespace Cva6Hpd.CacheSubsystem.AxiArbiter

open Cva6Hpd.Hw
open Cva6Hpd.Common
open Cva6Hpd.Hpdcache.Uncached (MemCommand MemAtomic)

/-- The data of the bus are `2 ^ busBits` words of 64 bits, and a line of the instruction cache
takes `beats` of them. -/
structure Cfg where
  addrBits : Nat
  idBits : Nat
  busBits : Nat
  beats : Nat
  /-- `icache_miss_id_i`, which is a constant. -/
  icacheMissId : BitVec idBits
  busBits_le : busBits ≤ 4
  beats_pos : 0 < beats
  beats_le : beats ≤ 256

namespace Cfg

variable (cfg : Cfg)

/-- `AxiDataWidth / 64`. -/
def busWords : Nat := 2 ^ cfg.busBits

/-- `ICACHE_LINE_WIDTH / 64`. -/
def lineWords : Nat := cfg.beats * cfg.busWords

instance neZeroBusWords : NeZero cfg.busWords := ⟨(Nat.two_pow_pos _).ne'⟩

theorem busWords_pos : 0 < cfg.busWords := Nat.two_pow_pos _

theorem busWords_le : cfg.busWords ≤ cfg.lineWords := Nat.le_mul_of_pos_left _ cfg.beats_pos

instance neZeroLineWords : NeZero cfg.lineWords :=
  ⟨(Nat.lt_of_lt_of_le cfg.busWords_pos cfg.busWords_le).ne'⟩

end Cfg

variable {cfg : Cfg}

abbrev Word : Type := BitVec 64

/-- The data of one beat. -/
abbrev Beat (cfg : Cfg) : Type := Fin cfg.busWords → Word

abbrev Line (cfg : Cfg) : Type := Fin cfg.lineWords → Word

/-- `icache_req_t`. -/
structure IcacheReq (cfg : Cfg) where
  paddr : BitVec cfg.addrBits
  nc : Bool
  tid : BitVec cfg.idBits
deriving DecidableEq

/-- `hpdcache_mem_req_t`. -/
structure MemReq (cfg : Cfg) where
  addr : BitVec cfg.addrBits
  len : BitVec 8
  size : BitVec 3
  id : BitVec cfg.idBits
  command : MemCommand
  atomic : MemAtomic
  cacheable : Bool
deriving DecidableEq

/-- `'0`. -/
def MemReq.zero : MemReq cfg where
  addr := 0
  len := 0
  size := 0
  id := 0
  command := .read
  atomic := .add
  cacheable := false

/-- `hpdcache_mem_resp_r_t`. -/
structure MemRespR (cfg : Cfg) where
  error : Bool
  id : BitVec cfg.idBits
  data : Beat cfg
  last : Bool

/-- The read address channel; its other fields are constants. -/
structure Ar (cfg : Cfg) where
  id : BitVec cfg.idBits
  addr : BitVec cfg.addrBits
  len : BitVec 8
  size : BitVec 3
  lock : Bool
  cache : BitVec 4
deriving DecidableEq

/-- The read data channel. -/
structure R (cfg : Cfg) where
  id : BitVec cfg.idBits
  data : Beat cfg
  resp : BitVec 2
  last : Bool

structure State (cfg : Cfg) where
  missReqFifo : SyncBuffer (MemReq cfg)
  missPendingQ : Bool
  /-- `i_icache_refill_meta_fifo`; with a bus as wide as a line, nothing is written to it. -/
  metaFifo : SyncBuffer (BitVec cfg.idBits)
  upsize : DataUpsizeRegs 1 cfg.busWords Word
  arbiter : Arbiter 2

structure Input (cfg : Cfg) where
  icacheMissValid : Bool
  icacheMiss : IcacheReq cfg
  dcacheReadValid : Bool
  dcacheRead : MemReq cfg
  dcacheReadRespReady : Bool
  arReady : Bool
  rValid : Bool
  r : R cfg

def reset : State cfg where
  missReqFifo := .reset .zero
  missPendingQ := false
  metaFifo := .reset 0
  upsize :=
    { bufQ := fun _ _ _ => 0
      wrptrQ := 0
      rdptrQ := 0
      usedQ := 0
      wordsQ := fun _ => 0 }
  arbiter := Fxarb.reset

/-! ## Adapters -/

/-- `icache_miss_req_wdata`. -/
def missReq (miss : IcacheReq cfg) : MemReq cfg where
  addr := miss.paddr
  len := if miss.nc then 0 else BitVec.ofNat 8 (cfg.beats - 1)
  size := if miss.nc then 3 else BitVec.ofNat 3 (cfg.busBits + 3)
  id := miss.tid
  command := .read
  atomic := .add
  cacheable := !miss.nc

/-- The address channel of `hpdcache_mem_to_axi_read`. -/
def toAr (req : MemReq cfg) : Ar cfg where
  id := req.id
  addr := req.addr
  len := req.len
  size := req.size
  lock := req.command = .atomic && req.atomic = .ldex
  cache := if req.cacheable then 0b1111 else 0b0010

/-- The data channel of `hpdcache_mem_to_axi_read`. -/
def toResp (r : R cfg) : MemRespR cfg where
  error := r.resp = 2 || r.resp = 3
  id := r.id
  data := r.data
  last := r.last

/-- `mem_resp_read_rt`: the responses that belong to the instruction cache. -/
def toIcache (id : BitVec cfg.idBits) : Bool := id = cfg.icacheMissId

/-! ## Read requests -/

section Request

variable (s : State cfg) (i : Input cfg)

/-- `icache_miss_ready_o`. -/
def icacheMissReady : Bool := s.missReqFifo.wok false false

def missReqRok : Bool := s.missReqFifo.rok false i.icacheMissValid

/-- `icache_miss_req_rdata`. -/
def missReqRdata : MemReq cfg := s.missReqFifo.rdata false (missReq i.icacheMiss)

/-- `mem_req_read_valid`. -/
def readValid : Bits 2 := fun port =>
  if port = 0 then missReqRok s i && !s.missPendingQ else i.dcacheReadValid

def readReqs (port : Fin 2) : MemReq cfg := if port = 0 then missReqRdata s i else i.dcacheRead

def readGnt : Bits 2 := Fxarb.gnt s.arbiter (readValid s i)

/-- `mem_req_read_ready`. -/
def readReady : Bits 2 := fun port => i.arReady && readGnt s i port && readValid s i port

/-- `axi_ar_valid_o`. -/
def arValid : Bool := Bits.any fun port => readGnt s i port && readValid s i port

/-- `axi_ar_o`. -/
def arO : Ar cfg := toAr (muxOneHot .zero (readGnt s i) (readReqs s i))

end Request

/-! ## Read responses -/

section Response

variable (s : State cfg) (i : Input cfg)

/-- The bus is narrower than a line. -/
def narrow (cfg : Cfg) : Bool := 1 < cfg.beats

/-- `icache_miss_resp_w`. -/
def missRespW : Bool := i.rValid && toIcache i.r.id

def metaW : Bool := narrow cfg && missRespW i && i.r.last

def upsizeW : Bool := narrow cfg && missRespW i

/-- `icache_miss_resp_wok`. -/
def missRespWok : Bool :=
  if narrow cfg then s.upsize.wok && (s.metaFifo.wok false true || !i.r.last) else true

/-- `icache_miss_resp_meta_rok`. -/
def metaRok : Bool := if narrow cfg then s.metaFifo.rok false (metaW i) else missRespW i

def metaId : BitVec cfg.idBits := if narrow cfg then s.metaFifo.rdata false i.r.id else i.r.id

/-- `icache_miss_resp_data_rdata`. -/
def respData : Line cfg :=
  if narrow cfg then s.upsize.rdata cfg.lineWords
  else fun word => i.r.data (Fin.ofNat cfg.busWords word.val)

/-- `icache_miss_word_index`. -/
def wordIndex (addr : BitVec cfg.addrBits) : Fin cfg.lineWords :=
  Fin.ofNat _ (addr.toNat / 8 % cfg.busWords)

/-- `icache_miss_rdata`: a word that is not cacheable is aligned to the right. -/
def missRdata : Line cfg :=
  let req := missReqRdata s i
  if !req.cacheable then
    fun word => if word = 0 then respData s i (wordIndex req.addr) else 0
  else respData s i

/-- `axi_r_ready_o`. -/
def rReady : Bool := if toIcache i.r.id then missRespWok s i else i.dcacheReadRespReady

/-- `dcache_read_resp_valid_o`. -/
def dcacheReadRespValid : Bool := i.rValid && !toIcache i.r.id

/-- `dcache_read_resp_o`: the demultiplexer gives zeros to the other port. -/
def dcacheReadResp : MemRespR cfg := toResp i.r

end Response

/-! ## Registers -/

def step (s : State cfg) (i : Input cfg) : State cfg where
  missReqFifo := s.missReqFifo.step false i.icacheMissValid (missReq i.icacheMiss) (metaRok s i)
  missPendingQ :=
    ((missReqRok s i && readReady s i 0) && !s.missPendingQ) ||
      (!(metaRok s i && missReqRok s i) && s.missPendingQ)
  metaFifo := s.metaFifo.step false (metaW i) i.r.id true
  upsize := s.upsize.step cfg.beats (upsizeW i) i.r.data i.r.last true
  arbiter := Fxarb.step s.arbiter (readValid s i) i.arReady

def machine (cfg : Cfg) : Machine (State cfg) (Input cfg) where
  reset := reset
  step := step

end Cva6Hpd.CacheSubsystem.AxiArbiter
