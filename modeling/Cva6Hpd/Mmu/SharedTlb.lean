import Cva6Hpd.Common.Sram
import Cva6Hpd.Mmu.Match

/-!
# The second-level translation look-aside buffer

`cva6_shared_tlb`: a set-associative buffer of two ways for fetches and for loads and stores.
An access that misses in the first level reads a row of the memories in one cycle and is
compared in the next one; a hit updates the buffer of the side that missed. The valid bits are
registers, which a flush clears. Without the buffer the updates of the page-table walker go to
the first level at once.
-/

namespace Cva6Hpd.Mmu.SharedTlb

open Common (TcSram TcSramPort)

/-- `shared_tag_t` with the entries of the page tables that are stored beside it; `vpnExtra` is
the last index of `vpn`, for the addresses of the second stage. -/
structure Row where
  asid : Nat
  vmid : Nat
  vpn : Nat
  vpnExtra : Nat
  isPage : Fin 2 → Fin 2 → Bool
  vStEnbl : StEnbl
  isNapot64k : Bool
  pte : Pte
  gpte : Pte

variable (cfg : UnitCfg)

/-- A row of the memories. -/
abbrev Index : Type := Fin (2 ^ cfg.sharedTlbBits)

/-- The row of a page number. -/
def index (vpn : Nat) : Index cfg :=
  ⟨vpn % 2 ^ cfg.sharedTlbBits, Nat.mod_lt _ (Nat.two_pow_pos _)⟩

structure State where
  itlbVpnQ : Nat
  dtlbVpnQ : Nat
  vpnQ : Nat
  vpnExtraQ : Nat
  tlbUpdateAsidQ : Nat
  tlbUpdateVmidQ : Nat
  sharedTlbAccessQ : Bool
  sharedTlbVaddrQ : Nat
  itlbReqQ : Bool
  dtlbReqQ : Bool
  /-- The access was a fetch. -/
  iReqQ : Bool
  sharedTagValidQ : Index cfg → Fin 2 → Bool
  /-- The valid bits of the row that is compared. -/
  sharedTagValid : Fin 2 → Bool
  ways : Fin 2 → TcSram (2 ^ cfg.sharedTlbBits) Row

/-- The memories are not initialised. -/
def reset (powerUp : Fin 2 → TcSram (2 ^ cfg.sharedTlbBits) Row) : State cfg where
  itlbVpnQ := 0
  dtlbVpnQ := 0
  vpnQ := 0
  vpnExtraQ := 0
  tlbUpdateAsidQ := 0
  tlbUpdateVmidQ := 0
  sharedTlbAccessQ := false
  sharedTlbVaddrQ := 0
  itlbReqQ := false
  dtlbReqQ := false
  iReqQ := false
  sharedTagValidQ := fun _ _ => false
  sharedTagValid := fun _ => false
  ways := powerUp

structure Input where
  flush : Bool
  flushVvma : Bool
  flushGvma : Bool
  /-- `v_st_enbl[1]`, the stages for fetches. -/
  stages : StEnbl
  /-- `v_st_enbl[0]`, the stages for loads and stores. -/
  ldStStages : StEnbl
  dtlbAsid : Nat
  itlbAsid : Nat
  luVmid : Nat
  itlbAccess : Bool
  itlbHit : Bool
  itlbVaddr : Nat
  dtlbAccess : Bool
  dtlbHit : Bool
  dtlbVaddr : Nat
  update : TlbUpdate
  /-- `rnd_way`. -/
  rndWay : Fin 2

variable {cfg} (s : State cfg) (i : Input)

/-! ## Lookup -/

/-- `|v_st_enbl[HYP_EXT:0]`. -/
def enabled (cfg : UnitCfg) (stages : StEnbl) : Bool := stages.s || (cfg.rvh && stages.g)

/-- A fetch that missed is looked up. -/
def itlbLookup (cfg : UnitCfg) : Bool :=
  enabled cfg i.stages && i.itlbAccess && !i.itlbHit && !i.dtlbAccess

/-- A load or store that missed is looked up. -/
def dtlbLookup (cfg : UnitCfg) : Bool :=
  !itlbLookup i cfg && enabled cfg i.ldStStages && i.dtlbAccess && !i.dtlbHit

/-- `shared_tlb_access_d`. -/
def lookup (cfg : UnitCfg) : Bool := itlbLookup i cfg || dtlbLookup i cfg

/-- The address of the lookup. -/
def lookupVaddr (cfg : UnitCfg) : Nat := if itlbLookup i cfg then i.itlbVaddr else i.dtlbVaddr

/-- `tag_rd_addr`. -/
def tagRdAddr (cfg : UnitCfg) : Index cfg :=
  if lookup i cfg then index cfg (lookupVaddr i cfg / 2 ^ 12) else index cfg 0

/-! ## Comparison -/

/-- `v_st_enbl[i_req_q]`. -/
def currentStages : StEnbl := if s.iReqQ then i.stages else i.ldStStages

/-- `shared_tag_rd[way]` and `pte[way]`. -/
def read (way : Fin 2) : Row := (s.ways way).rdataQ

/-- `lu_vpn`. -/
def luVpn : Nat := if s.itlbReqQ then s.itlbVpnQ else s.dtlbVpnQ

/-- `vpn_match[way][x]`. -/
def vpnMatch (way : Fin 2) (x : Nat) : Bool :=
  decide (vpnSlice cfg.toCfg s.vpnQ x = vpnSlice cfg.toCfg (read s way).vpn x)
    && (!cfg.rvh || decide (x ≠ cfg.lastLevel) || (currentStages s i).s
      || decide (s.vpnExtraQ = (read s way).vpnExtra))

/-- `|level_match[way] || napot_tag_match[way]`. -/
def vpnHit (way : Fin 2) : Bool :=
  anyLevel cfg.toCfg (levelMatch cfg.toCfg (vpnMatch s i way)
      (pageMatch cfg.toCfg (currentStages s i) (read s way).isPage))
    || napotMatch cfg.toCfg (read s way).isNapot64k (vpnMatch s i way) (luVpn s) (read s way).vpn

/-- `match_asid[way]`. -/
def matchAsid (way : Fin 2) : Bool :=
  ((decide (s.tlbUpdateAsidQ = (read s way).asid) || (read s way).pte.g)
      && (currentStages s i).s) || !(currentStages s i).s

/-- `match_vmid[way]`. -/
def matchVmid (way : Fin 2) : Bool :=
  !cfg.rvh || (decide (s.tlbUpdateVmidQ = (read s way).vmid) && (currentStages s i).g)
    || !(currentStages s i).g

/-- `match_stage[way]`. -/
def matchStage (way : Fin 2) : Bool :=
  if cfg.rvh then decide ((read s way).vStEnbl = currentStages s i)
  else (read s way).vStEnbl.s == (currentStages s i).s

/-- A way hits. -/
def wayHits (way : Fin 2) : Bool :=
  s.sharedTagValid way && matchAsid s i way && matchVmid s i way && matchStage s i way
    && vpnHit s i way

/-- The way that the outputs show: the last one that hits. -/
def hitWay : Option (Fin 2) :=
  if wayHits s i 1 then some 1 else if wayHits s i 0 then some 0 else none

/-- `shared_tlb_hit_o`. -/
def sharedTlbHit : Bool :=
  if cfg.useSharedTlb then (hitWay s i).isSome else i.update.valid

/-- `'0`. -/
def noUpdate : TlbUpdate :=
  ⟨false, false, fun _ _ => false, 0, 0, 0, ⟨false, false, false⟩, Pte.zero, Pte.zero⟩

/-- The update of a hit; the page number of a NAPOT page is patched. -/
def hitUpdate (way : Fin 2) : TlbUpdate where
  valid := true
  isNapot64k := cfg.svnapotEn && (read s way).isNapot64k
  isPage := (read s way).isPage
  vpn := luVpn s
  asid := s.tlbUpdateAsidQ
  vmid := s.tlbUpdateVmidQ
  vStEnbl := (read s way).vStEnbl
  content :=
    if (read s way).isNapot64k && cfg.svnapotEn then
      { (read s way).pte with ppn := withLow (read s way).pte.ppn 4 (luVpn s) }
    else (read s way).pte
  gContent := if cfg.rvh then (read s way).gpte else (read s way).pte

/-- The update of the first level. -/
def firstLevelUpdate : TlbUpdate :=
  if cfg.useSharedTlb then
    match hitWay s i with
    | some way => hitUpdate s way
    | none => noUpdate
  else if i.update.valid then { i.update with vStEnbl := currentStages s i }
  else noUpdate

/-- `itlb_update_o`. -/
def itlbUpdate : TlbUpdate := if s.itlbReqQ then firstLevelUpdate s i else noUpdate

/-- `dtlb_update_o`. -/
def dtlbUpdate : TlbUpdate :=
  if s.itlbReqQ then noUpdate else if s.dtlbReqQ then firstLevelUpdate s i else noUpdate

/-! ## Update and flush -/

/-- One of the flushes. -/
def flushes : Bool := i.flush || i.flushVvma || i.flushGvma

/-- The update is written to the memories. -/
def writes : Bool := !flushes i && i.update.valid

/-- `vpn_index`, not masked for a NAPOT page. -/
def vpnIndex (cfg : UnitCfg) : Index cfg := index cfg i.update.vpn

/-- `repl_way`: the first way that is not valid, else any. -/
def replWay : Fin 2 :=
  if s.sharedTagValidQ (vpnIndex i cfg) 0 then
    if s.sharedTagValidQ (vpnIndex i cfg) 1 then i.rndWay else 1
  else 0

/-- An entry as a word of `XLEN` bits keeps it. -/
def stored (cfg : UnitCfg) (pte : Pte) : Pte :=
  if cfg.isXlen64 then pte else { pte with n := false, reserved := 0 }

/-- `shared_tag_wr` and `pte_wr_data`. -/
def rowWr : Row where
  asid := i.update.asid
  vmid := i.update.vmid
  vpn :=
    slice
      (if i.update.isNapot64k && cfg.svnapotEn then clearLow i.update.vpn 4 else i.update.vpn) 0
      (indexBits cfg.toCfg)
  vpnExtra := if cfg.rvh then slice i.update.vpn (cfg.vpnLen - 2) 2 else 0
  isPage := i.update.isPage
  vStEnbl := currentStages s i
  isNapot64k := i.update.isNapot64k
  pte := stored cfg i.update.content
  gpte := stored cfg i.update.gContent

/-- The port of the memories of a way, for any kind of words: a write takes the address of all
ways. -/
def port {α : Type} (wdata : α) (way : Fin 2) : TcSramPort (2 ^ cfg.sharedTlbBits) α where
  req := (writes i && decide (replWay s i = way)) || lookup i cfg
  we := writes i && decide (replWay s i = way)
  addr := if writes i then vpnIndex i cfg else tagRdAddr i cfg
  wdata := wdata

def sharedTagValidD (row : Index cfg) (way : Fin 2) : Bool :=
  if flushes i then false
  else if i.update.valid && decide (row = vpnIndex i cfg) && decide (way = replWay s i) then true
  else s.sharedTagValidQ row way

def step : State cfg where
  itlbVpnQ := slice i.itlbVaddr 12 (cfg.sv - 12)
  dtlbVpnQ := slice i.dtlbVaddr 12 (cfg.sv - 12)
  vpnQ :=
    if lookup i cfg then slice (lookupVaddr i cfg) 12 (indexBits cfg.toCfg) else s.vpnQ
  -- the index of the second stage is taken from the address, not from the page number
  vpnExtraQ :=
    if !cfg.rvh then 0
    else if lookup i cfg then slice (lookupVaddr i cfg) (cfg.vpnLen - 2) 2
    else s.vpnExtraQ
  tlbUpdateAsidQ :=
    if itlbLookup i cfg then i.itlbAsid
    else if dtlbLookup i cfg then i.dtlbAsid
    else s.tlbUpdateAsidQ
  tlbUpdateVmidQ := if cfg.rvh && lookup i cfg then i.luVmid else s.tlbUpdateVmidQ
  sharedTlbAccessQ := lookup i cfg
  sharedTlbVaddrQ := if lookup i cfg then lookupVaddr i cfg else s.sharedTlbVaddrQ
  itlbReqQ := itlbLookup i cfg
  dtlbReqQ := dtlbLookup i cfg
  iReqQ := if itlbLookup i cfg then true else if dtlbLookup i cfg then false else s.iReqQ
  sharedTagValidQ := sharedTagValidD s i
  sharedTagValid := s.sharedTagValidQ (tagRdAddr i cfg)
  ways := fun way => (s.ways way).step (port s i (rowWr s i) way)

/-! ## What a cycle does -/

variable {s i}

theorem wayHits_of_hitWay {way : Fin 2} (found : hitWay s i = some way) :
    wayHits s i way = true := by
  rw [hitWay] at found
  split at found
  · rename_i hit
    rw [← Option.some.inj found]
    exact hit
  · split at found
    · rename_i hit
      rw [← Option.some.inj found]
      exact hit
    · contradiction

theorem valid_of_wayHits {way : Fin 2} (hit : wayHits s i way = true) :
    s.sharedTagValid way = true := by
  simp only [wayHits, Bool.and_eq_true] at hit
  exact hit.1.1.1.1

theorem firstLevelUpdate_cases (valid : (firstLevelUpdate s i).valid = true) :
    (∃ way, cfg.useSharedTlb = true ∧ hitWay s i = some way ∧
        firstLevelUpdate s i = hitUpdate s way) ∨
      cfg.useSharedTlb = false ∧ i.update.valid = true ∧
        firstLevelUpdate s i = { i.update with vStEnbl := currentStages s i } := by
  unfold firstLevelUpdate at valid ⊢
  cases shared : cfg.useSharedTlb with
  | true =>
      rw [shared, if_pos rfl] at valid
      cases found : hitWay s i with
      | some way => exact Or.inl ⟨way, rfl, rfl, by simp⟩
      | none =>
          rw [found] at valid
          contradiction
  | false =>
      rw [shared, if_neg Bool.false_ne_true] at valid
      split at valid
      · rename_i walked
        exact Or.inr ⟨rfl, walked, by simp [walked]⟩
      · contradiction

theorem itlbUpdate_valid (valid : (itlbUpdate s i).valid = true) :
    s.itlbReqQ = true ∧ itlbUpdate s i = firstLevelUpdate s i := by
  unfold itlbUpdate at valid ⊢
  split at valid
  · rename_i request
    exact ⟨request, if_pos request⟩
  · contradiction

theorem dtlbUpdate_valid (valid : (dtlbUpdate s i).valid = true) :
    s.dtlbReqQ = true ∧ dtlbUpdate s i = firstLevelUpdate s i := by
  unfold dtlbUpdate at valid ⊢
  split at valid
  · contradiction
  · rename_i fetch
    split at valid
    · rename_i request
      exact ⟨request, by simp [fetch, request]⟩
    · contradiction

theorem sharedTagValidQ_step {row : Index cfg} {way : Fin 2}
    (valid : (step s i).sharedTagValidQ row way = true) :
    flushes i = false ∧
      (i.update.valid = true ∧ row = vpnIndex i cfg ∧ way = replWay s i ∨
        s.sharedTagValidQ row way = true) := by
  simp only [step, sharedTagValidD] at valid
  split at valid
  · contradiction
  · rename_i calm
    refine ⟨Bool.eq_false_iff.mpr calm, ?_⟩
    split at valid
    · rename_i written
      simp only [Bool.and_eq_true, decide_eq_true_eq] at written
      exact Or.inl ⟨written.1.1, written.1.2, written.2⟩
    · exact Or.inr valid

end Cva6Hpd.Mmu.SharedTlb
