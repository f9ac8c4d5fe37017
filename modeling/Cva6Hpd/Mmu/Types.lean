import Cva6Hpd.Hw.Bits

/-!
# Types of the memory management unit

The parameters, the page-table entries and the updates of the translation look-aside buffers.
Addresses and page numbers are numbers; `slice` reads the bits of one and `join` puts two of
them side by side.
-/

namespace Cva6Hpd.Mmu

/-! ## Bits of numbers -/

/-- The `width` bits of `x` from bit `low` on. -/
def slice (x low width : Nat) : Nat := x / 2 ^ low % 2 ^ width

/-- `{high, low}` for a `low` of `width` bits. -/
def join (high width low : Nat) : Nat := high * 2 ^ width + low

/-- The low `width` bits of `x` are replaced by those of `y`. -/
def withLow (x width y : Nat) : Nat := join (x / 2 ^ width) width (slice y 0 width)

/-- `{<<8{word}}`, the word of `bytes` bytes in the other byte order. -/
def byteSwapped (bytes word : Nat) : Nat :=
  (List.range bytes).foldl (fun swapped byte => join swapped 8 (slice word (8 * byte) 8)) 0

/-! ## Parameters -/

/-- The parameters of the unit; the widths follow from them. -/
structure Cfg where
  isXlen64 : Bool
  vlen : Nat
  rvh : Bool
  svnapotEn : Bool
deriving DecidableEq

namespace Cfg

variable (cfg : Cfg)

def xlen : Nat := if cfg.isXlen64 then 64 else 32

def vpnLen : Nat := if cfg.isXlen64 then if cfg.rvh then 29 else 27 else 20

def ptLevels : Nat := if cfg.isXlen64 then 3 else 2

/-- `VpnLen / PtLevels`, the bits of the page number that index one table. -/
def vpnWidth : Nat := cfg.vpnLen / cfg.ptLevels

def sv : Nat := if cfg.isXlen64 then 39 else 32

def ppnw : Nat := if cfg.isXlen64 then 44 else 22

def gppnw : Nat := if cfg.isXlen64 then 29 else 22

def gplen : Nat := if cfg.isXlen64 then 41 else 34

/-- The last level of the page tables. -/
def lastLevel : Nat := cfg.ptLevels - 1

theorem lastLevel_le : cfg.lastLevel ≤ 2 := by
  rw [lastLevel, ptLevels]
  split <;> omega

/-- Sv39 without the hypervisor extension. -/
def sv39 : Cfg := ⟨true, 64, false, false⟩

end Cfg

/-! ## Page-table entries -/

/-- `pte_cva6_t`. -/
structure Pte where
  n : Bool
  reserved : Nat
  ppn : Nat
  rsw : Nat
  d : Bool
  a : Bool
  g : Bool
  u : Bool
  x : Bool
  w : Bool
  r : Bool
  v : Bool
deriving DecidableEq, Inhabited

namespace Pte

/-- `'0`. -/
def zero : Pte := ⟨false, 0, 0, 0, false, false, false, false, false, false, false, false⟩

/-- `pte_cva6_t'(word)`. -/
def ofWord (cfg : Cfg) (word : Nat) : Pte where
  n := word.testBit (10 + cfg.ppnw + 9)
  reserved := slice word (10 + cfg.ppnw) 9
  ppn := slice word 10 cfg.ppnw
  rsw := slice word 8 2
  d := word.testBit 7
  a := word.testBit 6
  g := word.testBit 5
  u := word.testBit 4
  x := word.testBit 3
  w := word.testBit 2
  r := word.testBit 1
  v := word.testBit 0

/-- `pte | (global << 5)`. -/
def orGlobal (pte : Pte) (global : Bool) : Pte := { pte with g := pte.g || global }

/-- A leaf of the page tables. -/
def isLeaf (pte : Pte) : Bool := pte.r || pte.x

end Pte

/-! ## Updates of the translation look-aside buffers -/

/-- `v_st_enbl`: the virtualization mode and the stages that were enabled. -/
structure StEnbl where
  v : Bool
  g : Bool
  s : Bool
deriving DecidableEq, Inhabited

/-- `tlb_update_cva6_t`; `isPage level stage` is `is_page[level][stage]`. -/
structure TlbUpdate where
  valid : Bool
  isNapot64k : Bool
  isPage : Fin 2 → Fin 2 → Bool
  vpn : Nat
  asid : Nat
  vmid : Nat
  vStEnbl : StEnbl
  content : Pte
  gContent : Pte
deriving DecidableEq

end Cva6Hpd.Mmu
