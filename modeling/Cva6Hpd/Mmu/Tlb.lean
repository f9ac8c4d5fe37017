import Cva6Hpd.Mmu.Match
import Mathlib.Data.Nat.Log

/-!
# A first-level translation look-aside buffer

`cva6_tlb`: a fully associative buffer with a lookup, an update and three flushes. A flush of
the buffer takes the place of the update of the same cycle.
-/

namespace Cva6Hpd.Mmu.Tlb

/-- The fields of `tags_q[i]` and `content_q[i]`. -/
structure Entry where
  asid : Nat
  vmid : Nat
  vpn : Nat
  isPage : Fin 2 → Fin 2 → Bool
  vStEnbl : StEnbl
  valid : Bool
  isNapot64k : Bool
  pte : Pte
  gpte : Pte

namespace Entry

/-- `'0`. -/
def zero : Entry :=
  ⟨0, 0, 0, fun _ _ => false, ⟨false, false, false⟩, false, false, Pte.zero, Pte.zero⟩

/-- `tags_n[i].valid = 1'b0`. -/
def invalidate (e : Entry) : Entry := { e with valid := false }

end Entry

structure State (n : Nat) where
  entries : Fin n → Entry
  plruTreeQ : Nat → Bool

def reset (n : Nat) : State n := ⟨fun _ => Entry.zero, fun _ => false⟩

structure Input where
  flush : Bool
  flushVvma : Bool
  flushGvma : Bool
  /-- `v_i`, `g_st_enbl_i` and `s_st_enbl_i`. -/
  stages : StEnbl
  update : TlbUpdate
  luAccess : Bool
  luAsid : Nat
  luVmid : Nat
  luVaddr : Nat
  asidToBeFlushed : Nat
  vmidToBeFlushed : Nat
  vaddrToBeFlushed : Nat
  gpaddrToBeFlushed : Nat

variable (cfg : Cfg) {n : Nat} (s : State n) (i : Input) (e : Entry)

/-! ## Lookup -/

/-- `v_st_enbl`; without the hypervisor extension its bits are all set. -/
def vStEnbl : StEnbl := if cfg.rvh then i.stages else ⟨true, true, true⟩

/-- `vpn_match[i][x]`; the addresses of the second stage have more bits than those of the
first. -/
def vpnMatch (x : Nat) : Bool :=
  decide (slice i.luVaddr (12 + cfg.vpnWidth * x) cfg.vpnWidth = vpnSlice cfg e.vpn x)
    && (!cfg.rvh || decide (x ≠ cfg.lastLevel) || i.stages.s
      || decide (slice i.luVaddr (12 + cfg.vpnWidth * (x + 1)) (cfg.gppnw % cfg.vpnWidth)
        = slice e.vpn (cfg.vpnWidth * (x + 1)) (cfg.gppnw % cfg.vpnWidth)))

/-- `level_match[i][x]`. -/
def entryLevelMatch (x : Nat) : Bool :=
  levelMatch cfg (vpnMatch cfg i e) (pageMatch cfg (vStEnbl cfg i) e.isPage) x

/-- `match_asid[i]`: the address space of a global page does not matter. -/
def matchAsid : Bool :=
  ((decide (i.luAsid = e.asid) || e.pte.g) && i.stages.s) || !i.stages.s

/-- `match_vmid[i]`. -/
def matchVmid : Bool :=
  !cfg.rvh || (decide (i.luVmid = e.vmid) && i.stages.g) || !i.stages.g

/-- `match_stage[i]`. -/
def matchStage : Bool := if cfg.rvh then decide (e.vStEnbl = i.stages) else e.vStEnbl.s

/-- `lu_hit[i]`. -/
def hits : Bool :=
  e.valid && matchAsid i e && matchVmid cfg i e && matchStage cfg i e
    && (anyLevel cfg (entryLevelMatch cfg i e)
      || napotMatch cfg e.isNapot64k (vpnMatch cfg i e) (i.luVaddr / 2 ^ 12) e.vpn)

/-- The entry that the outputs show: the last one that hits. -/
def hitting : Option (Fin n) :=
  (List.finRange n).reverse.find? fun k => hits cfg i (s.entries k)

/-- `lu_hit_o`. -/
def luHit : Bool := (hitting cfg s i).isSome

/-- `lu_is_page_o`, for an entry. -/
def luIsPage (level : Fin 2) : Bool :=
  decide (level.val < cfg.lastLevel)
    && pageMatch cfg (vStEnbl cfg i) e.isPage (cfg.lastLevel - level.val)

/-- `lu_content_o`, for an entry: the page number of a NAPOT page is patched. -/
def luContent : Pte :=
  if e.isNapot64k && cfg.svnapotEn then
    { e.pte with ppn := withLow e.pte.ppn 4 (slice i.luVaddr 12 4) }
  else e.pte

/-- `lu_gpaddr_o`, for an entry. -/
def luGpaddr : Nat :=
  if cfg.rvh then
    if i.stages.s then
      let address := join (slice e.pte.ppn 0 cfg.gppnw) 12 (slice i.luVaddr 0 12)
      let address :=
        if e.isPage 1 0 then withBits address 12 cfg.vpnWidth i.luVaddr else address
      if e.isPage 0 0 then withBits address 12 (2 * cfg.vpnWidth) i.luVaddr else address
    else slice i.luVaddr 0 (if cfg.isXlen64 then cfg.gplen else cfg.vlen)
  else 0

/-- `lu_g_content_o`, for an entry: below a large page of the second stage the address goes
on. -/
def luGContent : Pte :=
  if cfg.rvh then
    if entryLevelMatch cfg i e cfg.lastLevel then e.gpte
    else
      let page := luGpaddr cfg i e / 2 ^ 12
      let ppn := if e.isPage 1 1 then withLow e.gpte.ppn 9 page else e.gpte.ppn
      { e.gpte with ppn := if e.isPage 0 1 then withLow ppn 18 page else ppn }
  else Pte.zero

/-! ## Flushes -/

/-- `|vaddr_level_match[i][stage]`, for a comparison of the table indices. -/
def flushLevels (stage : Fin 2) (vpnMatch : Nat → Bool) : Bool :=
  anyLevel cfg fun x =>
    upperMatch cfg vpnMatch x && (decide (x = 0) || pageAt e.isPage (cfg.lastLevel - x) stage)

/-- `vaddr_vpn_match[i][0][x]`. -/
def vaddrVpnMatch (x : Nat) : Bool :=
  decide (slice i.vaddrToBeFlushed (12 + cfg.vpnWidth * x) cfg.vpnWidth = vpnSlice cfg e.vpn x)

/-- `flush_addr_napot_match`. -/
def flushAddrNapotMatch : Bool :=
  e.isNapot64k && cfg.svnapotEn
    && decide (clearLow (slice i.vaddrToBeFlushed 12 cfg.vpnLen) 4
      = clearLow (slice e.vpn 0 (3 * cfg.vpnWidth)) 4)

/-- `flush_addr_matches`. -/
def flushAddrMatches : Bool :=
  flushLevels cfg e 0 (vaddrVpnMatch cfg i e) || flushAddrNapotMatch cfg i e

/-- `gppn[i]`: the guest physical page number of an entry. -/
def gppn : Nat :=
  if e.vStEnbl.s then
    let page := slice e.pte.ppn 0 cfg.gppnw
    let page := if e.isPage 1 0 then withLow page cfg.vpnWidth e.vpn else page
    if e.isPage 0 0 then withLow page (2 * cfg.vpnWidth) e.vpn else page
  else slice e.vpn 0 cfg.vpnLen

/-- `vaddr_vpn_match[i][HYP_EXT][x]`. -/
def gpaddrVpnMatch (x : Nat) : Bool :=
  decide (slice i.gpaddrToBeFlushed (12 + cfg.vpnWidth * x) cfg.vpnWidth
    = vpnSlice cfg (gppn cfg e) x)

/-- The four forms of a fence of the first stage, in the address space of `same`. -/
def fenceMatches (same : Bool) : Bool :=
  let asid0 := decide (i.asidToBeFlushed = 0)
  let vaddr0 := decide (i.vaddrToBeFlushed = 0)
  let ofAsid := decide (i.asidToBeFlushed = e.asid)
  (asid0 && vaddr0 && same)
    || (asid0 && flushAddrMatches cfg i e && !vaddr0 && same)
    || (!e.pte.g && flushAddrMatches cfg i e && ofAsid && same && !vaddr0 && !asid0)
    || (!e.pte.g && vaddr0 && ofAsid && same && !asid0)

/-- `flush_i` invalidates the entry. -/
def flushMatches : Bool := (!e.vStEnbl.v || !cfg.rvh) && fenceMatches cfg i e true

/-- `flush_vvma_i` invalidates the entry. -/
def flushVvmaMatches : Bool :=
  e.vStEnbl.v && e.vStEnbl.s
    && fenceMatches cfg i e
      ((e.vStEnbl.g && decide (i.luVmid = e.vmid)) || !e.vStEnbl.g)

/-- `flush_gvma_i` invalidates the entry. -/
def flushGvmaMatches : Bool :=
  let vmid0 := decide (i.vmidToBeFlushed = 0)
  let gpaddr0 := decide (i.gpaddrToBeFlushed = 0)
  let ofVmid := decide (i.vmidToBeFlushed = e.vmid)
  let ofPage := flushLevels cfg e 1 (gpaddrVpnMatch cfg i e)
  e.vStEnbl.g
    && ((vmid0 && gpaddr0) || (vmid0 && ofPage && !gpaddr0)
      || (ofPage && ofVmid && !gpaddr0 && !vmid0) || (gpaddr0 && ofVmid && !vmid0))

/-! ## The cycle -/

/-- `replace_en[k]`: every node on the way to the leaf points to it. -/
def replaceEn (k : Fin n) : Bool :=
  (List.range (Nat.clog 2 n)).all fun lvl =>
    let shift := Nat.clog 2 n - lvl
    s.plruTreeQ (2 ^ lvl - 1 + k.val / 2 ^ shift) == (k.val / 2 ^ (shift - 1)).testBit 0

/-- The tree after the hits of the cycle: the nodes on the way to a leaf point away from it. -/
def plruTree : Nat → Bool :=
  (List.finRange n).foldl (fun tree k =>
    if hits cfg i (s.entries k) && i.luAccess then
      (List.range (Nat.clog 2 n)).foldl (fun tree lvl =>
        let shift := Nat.clog 2 n - lvl
        Function.update tree (2 ^ lvl - 1 + k.val / 2 ^ shift)
          (!(k.val / 2 ^ (shift - 1)).testBit 0)) tree
    else tree) s.plruTreeQ

/-- The entry of an update; the page number of a NAPOT page starts its 64 KiB. -/
def ofUpdate (update : TlbUpdate) : Entry where
  asid := update.asid
  vmid := update.vmid
  vpn := if update.isNapot64k && cfg.svnapotEn then clearLow update.vpn 4 else update.vpn
  isPage := update.isPage
  vStEnbl := update.vStEnbl
  valid := true
  isNapot64k := cfg.svnapotEn && update.isNapot64k
  pte := update.content
  gpte := update.gContent

def stepEntry (k : Fin n) : Entry :=
  let e := s.entries k
  if i.flush then if flushMatches cfg i e then e.invalidate else e
  else if i.flushVvma && cfg.rvh then if flushVvmaMatches cfg i e then e.invalidate else e
  else if i.flushGvma && cfg.rvh then if flushGvmaMatches cfg i e then e.invalidate else e
  else if i.update.valid && replaceEn s k && !luHit cfg s i then ofUpdate cfg i.update
  else e

def step : State n where
  entries := stepEntry cfg s i
  plruTreeQ := plruTree cfg s i

/-! ## What a cycle does to an entry -/

/-- One of the flushes takes the cycle. -/
def flushes : Bool := i.flush || (i.flushVvma && cfg.rvh) || (i.flushGvma && cfg.rvh)

/-- The flush of the cycle invalidates the entry. -/
def invalidates : Bool :=
  if i.flush then flushMatches cfg i e
  else if i.flushVvma && cfg.rvh then flushVvmaMatches cfg i e
  else i.flushGvma && cfg.rvh && flushGvmaMatches cfg i e

/-- The update of the cycle is written to entry `k`. -/
def writes (k : Fin n) : Bool :=
  !flushes cfg i && i.update.valid && replaceEn s k && !luHit cfg s i

variable {cfg s i}

theorem entries_step (k : Fin n) :
    (step cfg s i).entries k =
      if writes cfg s i k then ofUpdate cfg i.update
      else if invalidates cfg i (s.entries k) then (s.entries k).invalidate
      else s.entries k := by
  simp only [step, stepEntry, writes, invalidates, flushes]
  by_cases flush : i.flush = true
  · simp [flush]
  · by_cases vvma : (i.flushVvma && cfg.rvh) = true
    · simp [flush, vvma]
    · by_cases gvma : (i.flushGvma && cfg.rvh) = true <;> simp [flush, vvma, gvma]

theorem invalidates_of_calm (calm : flushes cfg i = false) : invalidates cfg i e = false := by
  revert calm
  rw [flushes, invalidates]
  cases i.flush <;> cases i.flushVvma <;> cases i.flushGvma <;> cases cfg.rvh <;> simp

theorem valid_of_hits (hit : hits cfg i e = true) : e.valid = true := by
  simp only [hits, Bool.and_eq_true] at hit
  exact hit.1.1.1.1

end Cva6Hpd.Mmu.Tlb
