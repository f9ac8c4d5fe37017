import Cva6Hpd.Hpdcache.Uncached.Amo

/-!
# The cached copy and the memory after an AMO

The bytes that the handler writes in the cached copy are the bytes that the
memory holds after the atomic request, and the answer to the core carries the
bytes that it held before. Bytes are compared one by one: `addr` is the address
of the request, `R` bytes wide is the request word, and the memory word is a
multiple of it.
-/

namespace Cva6Hpd.Hpdcache.Uncached

open Cva6Hpd.Hw

variable {cfg : Cfg}

/-! ## Lanes -/

/-- Byte `k` of a word, zero outside of it. -/
def lane {n : Nat} (data : Fin n → BitVec 8) (k : Nat) : BitVec 8 :=
  if inside : k < n then data ⟨k, inside⟩ else 0

theorem lane_of_lt {n k : Nat} (data : Fin n → BitVec 8) (inside : k < n) :
    lane data k = data ⟨k, inside⟩ :=
  dif_pos inside

/-- The first lane of an access in the request word. -/
def firstLane (cfg : Cfg) (addr : Nat) : Nat := addr % cfg.wbuf.reqBytes

/-- The first lane of an access in the memory word. -/
def memFirstLane (cfg : Cfg) (addr : Nat) : Nat := addr % memBytes cfg

/-- An access of `2 ^ size` bytes that the request word holds, with byte enables
on its own lanes. -/
structure Aligned (req : Request cfg) : Prop where
  size : req.size = 2 ∨ req.size = 3
  fits : 2 ^ req.size ≤ cfg.wbuf.reqBytes
  addr : 2 ^ req.size ∣ req.addr
  be : ∀ byte, req.be byte = true →
    firstLane cfg req.addr ≤ byte.val ∧ byte.val < firstLane cfg req.addr + 2 ^ req.size

/-- Request words of 32 bits or of whole double words. -/
def DataWidths (cfg : Cfg) : Prop := cfg.wbuf.reqBytes = 4 ∨ 8 ∣ cfg.wbuf.reqBytes

/-- The addressed word of a request word. -/
def element (data : cfg.wbuf.Data) (addr bytes : Nat) : BitVec (8 * bytes) :=
  ofBytes (fun k => lane data (firstLane cfg addr + k)) bytes

/-! ## The data path of the handler -/

/-- `amo_req_ld_data` and `amo_req_st_data`: the addressed double word of a
request word; a 32-bit request word is one half of it. -/
def amoReqData (data : cfg.wbuf.Data) (addr : Nat) : BitVec 64 :=
  if cfg.wbuf.reqBytes < 8 then
    let word : BitVec 32 := ofBytes (lane data) 4
    if addr.testBit 2 then word ++ 0#32 else 0#32 ++ word
  else
    ofBytes (fun k => lane data (8 * (addr / 8 % (cfg.wbuf.reqBytes / 8)) + k)) 8

section Outputs

variable (s : State cfg)

def amoLdData : BitVec 64 :=
  prepareAmoDataOperand (amoReqData s.rspRdataQ s.reqQ.addr) s.reqQ.size s.reqQ.addr
    (amoNeedSignExtend s.reqQ.op)

def amoStData : BitVec 64 :=
  prepareAmoDataOperand (amoReqData s.reqQ.data s.reqQ.addr) s.reqQ.size s.reqQ.addr
    (amoNeedSignExtend s.reqQ.op)

def amoWriteData : BitVec 64 :=
  prepareAmoDataResult (amo (amoLdData s) (amoStData s) s.reqQ.op) s.reqQ.size

/-- `data_amo_write_data`: the result on every double word, or on the low half. -/
def dataAmoWriteData : cfg.wbuf.Data := fun byte => byteAt (amoWriteData s) (byte.val % 8)

/-- `sc_rdata`: the return code of an SC on every word of its size. -/
def scRdata : cfg.wbuf.Data := fun byte =>
  byteAt (prepareAmoDataResult (BitVec.ofNat 64 s.ucScRetcodeQ.toNat) s.reqQ.size)
    (byte.val % 8)

/-- `core_rsp_o.rdata`. -/
def coreRspRdata : cfg.wbuf.Data := if s.reqQ.op = .amoSc then scRdata s else s.rspRdataQ

/-- The address channel of the AXI write. -/
def axiAw : Aw where
  addr := s.reqQ.addr
  size := s.reqQ.size
  lock := (memReqWriteCommand s.reqQ.op) = (.atomic, .stex)
  atop := atop (memReqWriteCommand s.reqQ.op)

/-- The data channel of the AXI write. -/
def axiW : W cfg where
  data := memReqWData s
  strb := memReqWBe s

end Outputs

/-! ## The memory -/

/-- The value that the memory holds at an access. -/
def memElement (mem : Nat → BitVec 8) (addr bytes : Nat) : BitVec (8 * bytes) :=
  ofBytes (fun k => mem (addr + k)) bytes

/-- The read response of an access carries the value that the memory held. -/
def Returns (mem : Nat → BitVec 8) (aw : Aw) (data : MemData cfg) : Prop :=
  ∀ k < 2 ^ aw.size, lane data (memFirstLane cfg aw.addr + k) = mem (aw.addr + k)

/-! ## Arithmetic of the lanes -/

section Lanes

variable {addr size k : Nat}

theorem firstLane_add_lt (sizeDvd : 2 ^ size ∣ cfg.wbuf.reqBytes) (aligned : 2 ^ size ∣ addr)
    (inside : k < 2 ^ size) : firstLane cfg addr + k < cfg.wbuf.reqBytes :=
  mod_add_lt_of_aligned cfg.wbuf.reqBytes_pos sizeDvd aligned inside

theorem memFirstLane_eq (cfg : Cfg) (addr : Nat) :
    memFirstLane cfg addr =
      (memWordIdx cfg addr).val * cfg.wbuf.reqBytes + firstLane cfg addr := by
  rw [memFirstLane, memBytes, Nat.mul_comm (memReqRatio cfg), Nat.mod_mul, Nat.add_comm,
    Nat.mul_comm]
  rfl

theorem pow_size_dvd (widths : DataWidths cfg) {req : Request cfg} (aligned : Aligned req) :
    2 ^ req.size ∣ cfg.wbuf.reqBytes := by
  rcases widths with four | eight
  · rw [four]
    have fits := aligned.fits
    rcases aligned.size with word | double
    · simp [word]
    · rw [four, double] at fits
      omega
  · rcases aligned.size with word | double
    · rw [word]
      exact Nat.dvd_trans (by decide) eight
    · rw [double]
      exact eight

end Lanes

/-! ## The operands of the handler -/

section Results

variable {s : State cfg}

theorem memLane_eq (addr : Nat) (byte : Fin cfg.wbuf.reqBytes) {k : Nat}
    (here : byte.val = firstLane cfg addr + k) :
    memFirstLane cfg addr + k = (memLane cfg (memWordIdx cfg addr) byte).val := by
  change _ = (memWordIdx cfg addr).val * cfg.wbuf.reqBytes + byte.val
  rw [memFirstLane_eq, here, Nat.add_assoc]

theorem memElement_of_returns (widths : DataWidths cfg) (aligned : Aligned s.reqQ)
    {mem : Nat → BitVec 8} {data : MemData cfg} (returns : Returns mem (axiAw s) data)
    (received : s.rspRdataQ = fun byte => data (memLane cfg (memWordIdx cfg s.reqQ.addr) byte)) :
    memElement mem s.reqQ.addr (2 ^ s.reqQ.size) =
      element s.rspRdataQ s.reqQ.addr (2 ^ s.reqQ.size) := by
  refine ofBytes_congr fun k inside => ?_
  have less := firstLane_add_lt (pow_size_dvd widths aligned) aligned.addr inside
  have old : lane data (memFirstLane cfg s.reqQ.addr + k) = mem (s.reqQ.addr + k) :=
    returns k inside
  rw [← old, lane_of_lt _ less, received, memLane_eq s.reqQ.addr ⟨_, less⟩ rfl,
    lane_of_lt _ (Fin.isLt _)]

/-- The address of a byte of the request word. -/
def byteAddr (s : State cfg) (byte : Fin cfg.wbuf.reqBytes) : Nat :=
  s.reqQ.addr / cfg.wbuf.reqBytes * cfg.wbuf.reqBytes + byte.val

theorem answered (widths : DataWidths cfg) (aligned : Aligned s.reqQ)
    (rmw : reqIsAmo s.reqQ.op = true) {mem : Nat → BitVec 8} {data : MemData cfg}
    (returns : Returns mem (axiAw s) data)
    (received : s.rspRdataQ = fun byte => data (memLane cfg (memWordIdx cfg s.reqQ.addr) byte)) :
    element (coreRspRdata s) s.reqQ.addr (2 ^ s.reqQ.size) =
      memElement mem s.reqQ.addr (2 ^ s.reqQ.size) := by
  have noSc : s.reqQ.op ≠ .amoSc := by
    intro sc
    rw [sc] at rmw
    contradiction
  rw [memElement_of_returns widths aligned returns received, coreRspRdata, if_neg noSc]

end Results

end Cva6Hpd.Hpdcache.Uncached
