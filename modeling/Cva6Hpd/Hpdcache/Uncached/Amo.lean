import Cva6Hpd.Hpdcache.Uncached.Core

/-!
# The two computations of an AMO

The handler computes the new value of the addressed bytes with `hpdcache_amo` on
64-bit operands; a 32-bit operand is taken from its half of the double word and
extended, and the result is put on both halves. The memory computes it from the
AXI request of `hpdcache_mem_to_axi_write`: `axiAtomic` and `axiWrite` follow the
meaning that `axi_pkg` gives to the encodings. Both are one function of the old
value and the operand at the width of the access.
-/

namespace Cva6Hpd.Hpdcache.Uncached

open Cva6Hpd.Hw

/-! ## The AMO unit -/

/-- `amo_need_sign_extend`. -/
def amoNeedSignExtend : ReqOp → Bool
  | .amoAdd | .amoMax | .amoMin => true
  | _ => false

/-- `{{32{sign}}, word}` or `{32'b0, word}`. -/
def extendOperand (signExtend : Bool) (word : BitVec 32) : BitVec 64 :=
  if signExtend then word.signExtend 64 else word.setWidth 64

/-- `prepare_amo_data_operand`. -/
def prepareAmoDataOperand (data : BitVec 64) (size addr : Nat) (signExtend : Bool) : BitVec 64 :=
  if size = 3 then data
  else
    let word := if addr.testBit 2 then data.extractLsb' 32 32 else data.extractLsb' 0 32
    extendOperand signExtend word

/-- `prepare_amo_data_result`. -/
def prepareAmoDataResult (data : BitVec 64) (size : Nat) : BitVec 64 :=
  if size = 3 then data else data.setWidth 32 ++ data.setWidth 32

/-- The operation of an AMO on two values of one width. -/
def amoResult {w : Nat} (op : ReqOp) (ldData stData : BitVec w) : BitVec w :=
  match op with
  | .amoLr => ldData
  | .amoSc => stData
  | .amoSwap => stData
  | .amoAdd => ldData + stData
  | .amoAnd => ldData &&& stData
  | .amoOr => ldData ||| stData
  | .amoXor => ldData ^^^ stData
  | .amoMax => if stData.slt ldData then ldData else stData
  | .amoMaxu => if stData.ult ldData then ldData else stData
  | .amoMin => if stData.slt ldData then stData else ldData
  | .amoMinu => if stData.ult ldData then stData else ldData
  | _ => 0

/-- `hpdcache_amo`. -/
def amo (ldData stData : BitVec 64) (op : ReqOp) : BitVec 64 := amoResult op ldData stData

/-- `hpdcache_mem_command_e`. -/
inductive MemCommand where
  | read
  | write
  | atomic
deriving DecidableEq, Repr

/-- `hpdcache_mem_atomic_e`. -/
inductive MemAtomic where
  | add
  | clr
  | set
  | eor
  | smax
  | smin
  | umax
  | umin
  | swap
  | ldex
  | stex
deriving DecidableEq, Repr

/-- `mem_req_command` and `mem_req_atomic` of a write request. -/
def memReqWriteCommand : ReqOp → MemCommand × MemAtomic
  | .amoSc => (.atomic, .stex)
  | .amoSwap => (.atomic, .swap)
  | .amoAdd => (.atomic, .add)
  | .amoAnd => (.atomic, .clr)
  | .amoOr => (.atomic, .set)
  | .amoXor => (.atomic, .eor)
  | .amoMax => (.atomic, .smax)
  | .amoMaxu => (.atomic, .umax)
  | .amoMin => (.atomic, .smin)
  | .amoMinu => (.atomic, .umin)
  | _ => (.write, .add)

/-! The encodings of `axi_pkg`. -/

def atopNone : BitVec 6 := 0

def atopAtomicswap : BitVec 6 := 0b110000

def atopAtomicload : BitVec 2 := 0b10

def atopLittleEnd : BitVec 1 := 0b0

/-- `atop`: an atomic load, little-endian, or a swap. -/
def atop : MemCommand × MemAtomic → BitVec 6
  | (.atomic, .add) => atopAtomicload ++ atopLittleEnd ++ 0b000#3
  | (.atomic, .clr) => atopAtomicload ++ atopLittleEnd ++ 0b001#3
  | (.atomic, .eor) => atopAtomicload ++ atopLittleEnd ++ 0b010#3
  | (.atomic, .set) => atopAtomicload ++ atopLittleEnd ++ 0b011#3
  | (.atomic, .smax) => atopAtomicload ++ atopLittleEnd ++ 0b100#3
  | (.atomic, .smin) => atopAtomicload ++ atopLittleEnd ++ 0b101#3
  | (.atomic, .umax) => atopAtomicload ++ atopLittleEnd ++ 0b110#3
  | (.atomic, .umin) => atopAtomicload ++ atopLittleEnd ++ 0b111#3
  | (.atomic, .swap) => atopAtomicswap
  | _ => atopNone

/-- The AXI address channel of a write: address, size, `lock` and `atop`. -/
structure Aw where
  addr : Nat
  size : Nat
  lock : Bool
  atop : BitVec 6
deriving DecidableEq

/-- The AXI data channel of a write. -/
structure W (cfg : Cfg) where
  data : MemData cfg
  strb : MemBe cfg

end Cva6Hpd.Hpdcache.Uncached
