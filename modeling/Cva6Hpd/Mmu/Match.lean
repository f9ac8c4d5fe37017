import Cva6Hpd.Mmu.Types

/-!
# Matching of translations

What the two levels of translation look-aside buffers share: the page numbers are compared
table index by table index, from the top down to the size of the page. `Contains` says the same
in terms of addresses: the page that starts at a page number contains an address.
-/

namespace Cva6Hpd.Mmu

/-! ## Parameters -/

/-- The parameters of the unit with its buffers; `sharedTlbBits` is
`$clog2(SharedTlbDepth)`. -/
structure UnitCfg extends Cfg where
  instrTlbEntries : Nat
  dataTlbEntries : Nat
  useSharedTlb : Bool
  sharedTlbBits : Nat
  plen : Nat
  tvalEn : Bool
deriving DecidableEq

/-! ## Bits of numbers -/

/-- The `width` bits of `x` from bit `low` on are replaced by those of `y`. -/
def withBits (x low width y : Nat) : Nat :=
  join (join (x / 2 ^ (low + width)) width (slice y low width)) low (slice x 0 low)

/-- The low `width` bits are cleared. -/
def clearLow (x width : Nat) : Nat := x / 2 ^ width * 2 ^ width

theorem slice_slice_zero {x low width total : Nat} (inside : low + width ≤ total) :
    slice (slice x 0 total) low width = slice x low width := by
  apply Nat.eq_of_testBit_eq
  intro bit
  simp only [slice, Nat.testBit_mod_two_pow, Nat.testBit_div_two_pow, Nat.pow_zero, Nat.div_one]
  rcases Nat.lt_or_ge bit width with small | large
  · have within : bit + low < total := by omega
    simp [small, within]
  · simp [Nat.not_lt.mpr large]

theorem slice_of_div {x low width shift : Nat} (below : shift ≤ low) :
    slice x low width = slice (x / 2 ^ shift) (low - shift) width := by
  rw [slice, slice, Nat.div_div_eq_div_mul, ← Nat.pow_add, Nat.add_sub_cancel' below]

variable (cfg : Cfg)

/-! ## Levels -/

/-- `is_page[level][stage]`. -/
def pageAt (isPage : Fin 2 → Fin 2 → Bool) (level : Nat) (stage : Fin 2) : Bool :=
  if small : level < 2 then isPage ⟨level, small⟩ stage else false

/-- The `x`-th table index of a page number, from the last one on. -/
def vpnSlice (vpn x : Nat) : Nat := slice vpn (cfg.vpnWidth * x) cfg.vpnWidth

/-- `page_match[x]`: with both stages the page is the smaller one of the two. -/
def pageMatch (stages : StEnbl) (isPage : Fin 2 → Fin 2 → Bool) (x : Nat) : Bool :=
  let here := pageAt isPage (cfg.lastLevel - x)
  let above := pageAt isPage (cfg.lastLevel - 1 - x)
  if x = 0 then true
  else if !cfg.rvh then here 0 || !stages.s
  else if x = cfg.lastLevel then (here 0 || !stages.s) && (here 1 || !stages.g)
  else if stages.s && stages.g then
    (here 0 && (above 1 || here 1)) || (here 1 && (above 0 || here 0))
  else (here 0 && stages.s) || (here 1 && stages.g)

/-- `&match[PtLevels-1:x]`. -/
def upperMatch (vpnMatch : Nat → Bool) (x : Nat) : Bool :=
  (List.range cfg.ptLevels).all fun y => decide (y < x) || vpnMatch y

/-- `|match`. -/
def anyLevel (levelMatch : Nat → Bool) : Bool := (List.range cfg.ptLevels).any levelMatch

/-- `level_match[x]`. -/
def levelMatch (vpnMatch pageMatch : Nat → Bool) (x : Nat) : Bool :=
  upperMatch cfg vpnMatch x && pageMatch x

/-- `napot_tag_match`, for the page number `lookup` against the stored one. -/
def napotMatch (isNapot64k : Bool) (vpnMatch : Nat → Bool) (lookup stored : Nat) : Bool :=
  cfg.svnapotEn && isNapot64k && vpnMatch 2 && vpnMatch 1
    && decide (slice lookup 4 (cfg.vpnWidth - 4) = slice stored 4 (cfg.vpnWidth - 4))

/-! ## Pages and addresses -/

/-- The part of a page number that indexes the tables. -/
def indexBits : Nat := cfg.vpnWidth * cfg.ptLevels

/-- The page of `2 ^ bits` small pages around `page` contains `other`. -/
def Contains (bits page other : Nat) : Prop := page / 2 ^ bits = other / 2 ^ bits

instance (bits page other : Nat) : Decidable (Contains bits page other) :=
  inferInstanceAs (Decidable (_ = _))

variable {cfg}

/-- The indices of a page number are those of its low bits. -/
theorem vpnSlice_slice {vpn y : Nat} (below : y < cfg.ptLevels) :
    vpnSlice cfg (slice vpn 0 (indexBits cfg)) y = vpnSlice cfg vpn y := by
  apply slice_slice_zero
  rw [indexBits, ← Nat.mul_succ]
  exact Nat.mul_le_mul_left _ below

/-- Two page numbers in one page of level `x` have the same indices from there up. -/
theorem vpnSlice_eq_of_contains {page other x y : Nat} (above : x ≤ y)
    (contains : Contains (cfg.vpnWidth * x) page other) :
    vpnSlice cfg page y = vpnSlice cfg other y := by
  have low : cfg.vpnWidth * x ≤ cfg.vpnWidth * y := Nat.mul_le_mul_left _ above
  rw [vpnSlice, vpnSlice, slice_of_div low, contains, ← slice_of_div low]

theorem upperMatch_of_contains {page other x : Nat} {vpnMatch : Nat → Bool}
    (compares : ∀ y < cfg.ptLevels, vpnSlice cfg page y = vpnSlice cfg other y → vpnMatch y = true)
    (contains : Contains (cfg.vpnWidth * x) page other) : upperMatch cfg vpnMatch x = true := by
  rw [upperMatch, List.all_eq_true]
  intro y member
  rcases Nat.lt_or_ge y x with below | above
  · simp [below]
  · rw [compares y (List.mem_range.mp member) (vpnSlice_eq_of_contains above contains),
      Bool.or_true]

end Cva6Hpd.Mmu
