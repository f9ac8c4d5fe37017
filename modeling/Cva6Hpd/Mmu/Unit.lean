import Cva6Hpd.Csr.Types
import Cva6Hpd.Mmu.Checks
import Cva6Hpd.Mmu.SharedTlb
import Cva6Hpd.Mmu.Tlb
import Cva6Hpd.Scoreboard.Core

/-!
# The memory management unit

`cva6_mmu`: the two first-level buffers, the shared one, the page-table walker, and the answers
to the instruction cache and to the load-store unit. The fences come from the commit stage
through `controller`, which flushes the execute stage with every one of them.
-/

namespace Cva6Hpd.Mmu.Unit

open Csr (PrivLvl)
open Hw (Machine)
open Common (TcSram)
open Scoreboard (ExceptionT)

/-- `sfence_vma_i`, `hfence_vvma_i` and `hfence_gvma_i`. -/
inductive FenceOp where
  | sfenceVma | hfenceVvma | hfenceGvma
deriving DecidableEq

structure Input where
  /-- The other reasons for `flush_ex_o`. -/
  flushEx : Bool
  fence : Option FenceOp
  enableTranslation : Bool
  enableGTranslation : Bool
  enLdStTranslation : Bool
  enLdStGTranslation : Bool
  fetchReq : Bool
  fetchVaddr : Nat
  misalignedEx : ExceptionT
  lsuReq : Bool
  lsuVaddr : Nat
  lsuTinst : Nat
  lsuIsStore : Bool
  privLvl : PrivLvl
  v : Bool
  ldStPrivLvl : PrivLvl
  ldStV : Bool
  sum : Bool
  vsSum : Bool
  mxr : Bool
  vmxr : Bool
  hlvxInst : Bool
  satpPpn : Nat
  vsatpPpn : Nat
  hgatpPpn : Nat
  asid : Nat
  vsAsid : Nat
  vmid : Nat
  asidToBeFlushed : Nat
  vmidToBeFlushed : Nat
  vaddrToBeFlushed : Nat
  gpaddrToBeFlushed : Nat
  mbe : Bool
  dataGnt : Bool
  dataRvalid : Bool
  dataRdata : Nat
  allowAccess : Nat → Bool
  rndWay : Fin 2

structure State (cfg : UnitCfg) where
  ptw : Ptw.State
  itlb : Tlb.State cfg.instrTlbEntries
  dtlb : Tlb.State cfg.dataTlbEntries
  shared : SharedTlb.State cfg
  lsuVaddrQ : Nat
  lsuGpaddrQ : Nat
  lsuTinstQ : Nat
  lsuReqQ : Bool
  lsuIsStoreQ : Bool
  dtlbPteQ : Pte
  dtlbGpteQ : Pte
  dtlbHitQ : Bool
  dtlbIsPageQ : Fin 2 → Bool
  misalignedExQ : ExceptionT

def noException : ExceptionT := ⟨0, 0, 0, 0, false, false⟩

def reset (cfg : UnitCfg) (powerUp : Fin 2 → TcSram (2 ^ cfg.sharedTlbBits) SharedTlb.Row) :
    State cfg where
  ptw := Ptw.reset
  itlb := Tlb.reset _
  dtlb := Tlb.reset _
  shared := SharedTlb.reset cfg powerUp
  lsuVaddrQ := 0
  lsuGpaddrQ := 0
  lsuTinstQ := 0
  lsuReqQ := false
  lsuIsStoreQ := false
  dtlbPteQ := Pte.zero
  dtlbGpteQ := Pte.zero
  dtlbHitQ := false
  dtlbIsPageQ := fun _ => false
  misalignedExQ := noException

variable (cfg : UnitCfg) (s : State cfg) (i : Input)

/-! ## Signals -/

/-- `flush_tlb_o` of the controller. -/
def flushTlb : Bool := decide (i.fence = some .sfenceVma) && !(cfg.rvh && i.v)

/-- `flush_tlb_vvma_o` of the controller. -/
def flushTlbVvma : Bool :=
  cfg.rvh && (decide (i.fence = some .sfenceVma) && i.v || decide (i.fence = some .hfenceVvma))

/-- `flush_tlb_gvma_o` of the controller. -/
def flushTlbGvma : Bool := cfg.rvh && decide (i.fence = some .hfenceGvma)

/-- `flush_ex_o` of the controller. -/
def flush : Bool := i.flushEx || flushTlb cfg i || flushTlbVvma cfg i || flushTlbGvma cfg i

/-- The stages for fetches; those of the hypervisor are tied to zero without it. -/
def stages : StEnbl := ⟨cfg.rvh && i.v, cfg.rvh && i.enableGTranslation, i.enableTranslation⟩

/-- The stages for loads and stores. -/
def ldStStages : StEnbl :=
  ⟨cfg.rvh && i.ldStV, cfg.rvh && i.enLdStGTranslation, i.enLdStTranslation⟩

def itlbLuAsid : Nat := if (stages cfg i).v then i.vsAsid else i.asid

def dtlbLuAsid : Nat := if (ldStStages cfg i).v || flushTlbVvma cfg i then i.vsAsid else i.asid

def dtlbLuAccess : Bool := i.lsuReq && !i.misalignedEx.valid

/-! ## The parts -/

/-- The inputs of the instruction buffer. -/
def itlbInput (update : TlbUpdate) : Tlb.Input where
  flush := flushTlb cfg i
  flushVvma := flushTlbVvma cfg i
  flushGvma := flushTlbGvma cfg i
  stages := stages cfg i
  update := update
  luAccess := i.fetchReq
  luAsid := itlbLuAsid cfg i
  luVmid := i.vmid
  luVaddr := i.fetchVaddr
  asidToBeFlushed := i.asidToBeFlushed
  vmidToBeFlushed := i.vmidToBeFlushed
  vaddrToBeFlushed := i.vaddrToBeFlushed
  gpaddrToBeFlushed := i.gpaddrToBeFlushed

/-- The inputs of the data buffer. -/
def dtlbInput (update : TlbUpdate) : Tlb.Input where
  flush := flushTlb cfg i
  flushVvma := flushTlbVvma cfg i
  flushGvma := flushTlbGvma cfg i
  stages := ldStStages cfg i
  update := update
  luAccess := dtlbLuAccess i
  luAsid := dtlbLuAsid cfg i
  luVmid := i.vmid
  luVaddr := i.lsuVaddr
  asidToBeFlushed := i.asidToBeFlushed
  vmidToBeFlushed := i.vmidToBeFlushed
  vaddrToBeFlushed := i.vaddrToBeFlushed
  gpaddrToBeFlushed := i.gpaddrToBeFlushed

/-- The entry of the instruction buffer that the fetch hits. -/
def itlbHitting : Option (Fin cfg.instrTlbEntries) :=
  Tlb.hitting cfg.toCfg s.itlb (itlbInput cfg i SharedTlb.noUpdate)

/-- The entry of the data buffer that the load or store hits. -/
def dtlbHitting : Option (Fin cfg.dataTlbEntries) :=
  Tlb.hitting cfg.toCfg s.dtlb (dtlbInput cfg i SharedTlb.noUpdate)

/-- The inputs of the walker, with `shared_tlb_hit`. -/
def ptwInput (sharedTlbHit : Bool) : Ptw.Input where
  flush := flush cfg i
  enableTranslation := (stages cfg i).s
  enableGTranslation := (stages cfg i).g
  enLdStTranslation := (ldStStages cfg i).s
  enLdStGTranslation := (ldStStages cfg i).g
  v := (stages cfg i).v
  ldStV := (ldStStages cfg i).v
  hlvxInst := cfg.rvh && i.hlvxInst
  lsuIsStore := i.lsuIsStore
  dataGnt := i.dataGnt
  dataRvalid := i.dataRvalid
  dataRdata := i.dataRdata
  asid := i.asid
  vsAsid := i.vsAsid
  vmid := i.vmid
  sharedTlbAccess := s.shared.sharedTlbAccessQ
  sharedTlbHit := sharedTlbHit
  sharedTlbVaddr := s.shared.sharedTlbVaddrQ
  itlbReq := s.shared.itlbReqQ
  satpPpn := i.satpPpn
  vsatpPpn := i.vsatpPpn
  hgatpPpn := i.hgatpPpn
  mxr := i.mxr
  vmxr := i.vmxr
  mbe := i.mbe
  allowAccess := i.allowAccess

/-- `update_shared_tlb`; it does not depend on the hit. -/
def walkUpdate : TlbUpdate := Ptw.sharedTlbUpdateO cfg.toCfg s.ptw (ptwInput cfg s i false)

/-- The inputs of the shared buffer. -/
def sharedInput : SharedTlb.Input where
  flush := flushTlb cfg i
  flushVvma := flushTlbVvma cfg i
  flushGvma := flushTlbGvma cfg i
  stages := stages cfg i
  ldStStages := ldStStages cfg i
  dtlbAsid := dtlbLuAsid cfg i
  itlbAsid := itlbLuAsid cfg i
  luVmid := i.vmid
  itlbAccess := i.fetchReq
  itlbHit := (itlbHitting cfg s i).isSome
  itlbVaddr := i.fetchVaddr
  dtlbAccess := dtlbLuAccess i
  dtlbHit := (dtlbHitting cfg s i).isSome
  dtlbVaddr := i.lsuVaddr
  update := walkUpdate cfg s i
  rndWay := i.rndWay

/-- `update_itlb`. -/
def updateItlb : TlbUpdate := SharedTlb.itlbUpdate s.shared (sharedInput cfg s i)

/-- `update_dtlb`. -/
def updateDtlb : TlbUpdate := SharedTlb.dtlbUpdate s.shared (sharedInput cfg s i)

/-- The inputs of the walker in the cycle. -/
def walkInput : Ptw.Input :=
  ptwInput cfg s i (SharedTlb.sharedTlbHit s.shared (sharedInput cfg s i))

/-! ## Answers -/

/-- `riscv::INSTR_PAGE_FAULT` and the others. -/
def instrAccessFault : Nat := 1
def ldAccessFault : Nat := 5
def stAccessFault : Nat := 7
def instrPageFault : Nat := 12
def loadPageFault : Nat := 13
def storePageFault : Nat := 15
def instrGuestPageFault : Nat := 20
def loadGuestPageFault : Nat := 21
def storeGuestPageFault : Nat := 23

/-- `riscv::READ_64_PSEUDOINSTRUCTION` or `READ_32_PSEUDOINSTRUCTION`. -/
def readPseudoinstruction : Nat := if cfg.isXlen64 then 0x3000 else 0x2000

/-- An exception over the one that was there. -/
def raised (ex : ExceptionT) (cause tval tval2 tinst : Nat) (gva : Bool) : ExceptionT where
  cause := cause
  tval := if cfg.tvalEn then tval else ex.tval
  tval2 := if cfg.rvh then tval2 else ex.tval2
  tinst := if cfg.rvh then tinst else ex.tinst
  gva := if cfg.rvh then gva else ex.gva
  valid := true

/-- The upper bits of a translated address are all equal. -/
def canonical (vaddr : Nat) : Bool :=
  let upper := slice vaddr (cfg.sv - 1) (cfg.vlen - cfg.sv + 1)
  decide (upper = 0) || decide (upper = 2 ^ (cfg.vlen - cfg.sv + 1) - 1)

/-- An address that is not translated. -/
def untranslated (vaddr : Nat) : Nat := slice vaddr 0 (min cfg.plen cfg.vlen)

/-- `PPNWMin`. -/
def ppnwMin : Nat := min (cfg.ppnw - 1) 29

/-- A large page keeps the bits of the address. -/
def patched (word : Nat) (isPage : Fin 2 → Bool) (vaddr : Nat) : Nat :=
  let word :=
    if decide (cfg.ptLevels = 3) && isPage 1 then
      withBits word 12 (ppnwMin cfg - cfg.vpnWidth - 11) vaddr
    else word
  if isPage 0 then withBits word 12 (ppnwMin cfg - 11) vaddr else word

/-- The physical address of a page number. -/
def translated (ppn : Nat) (isPage : Fin 2 → Bool) (vaddr : Nat) : Nat :=
  patched cfg (join ppn 12 (slice vaddr 0 12)) isPage vaddr

/-- `icache_areq_o`. -/
structure AreqO where
  fetchValid : Bool
  fetchPaddr : Nat
  fetchException : ExceptionT

/-- The entry that the outputs of the instruction buffer show. -/
def itlbEntry : Option Tlb.Entry := (itlbHitting cfg s i).map s.itlb.entries

/-- `itlb_content`. -/
def itlbContent : Pte :=
  match itlbEntry cfg s i with
  | some e => Tlb.luContent cfg.toCfg (itlbInput cfg i SharedTlb.noUpdate) e
  | none => Pte.zero

/-- `itlb_g_content`. -/
def itlbGContent : Pte :=
  match itlbEntry cfg s i with
  | some e => Tlb.luGContent cfg.toCfg (itlbInput cfg i SharedTlb.noUpdate) e
  | none => Pte.zero

/-- `itlb_gpaddr`. -/
def itlbGpaddr : Nat :=
  match itlbEntry cfg s i with
  | some e => Tlb.luGpaddr cfg.toCfg (itlbInput cfg i SharedTlb.noUpdate) e
  | none => 0

/-- `itlb_is_page`. -/
def itlbIsPage (level : Fin 2) : Bool :=
  match itlbEntry cfg s i with
  | some e => Tlb.luIsPage cfg.toCfg (itlbInput cfg i SharedTlb.noUpdate) e level
  | none => false

/-- `iaccess_err`. -/
def iaccessErr : Bool :=
  i.fetchReq && (stages cfg i).s
    && (decide (i.privLvl = .u) && !(itlbContent cfg s i).u
      || decide (i.privLvl = .s) && (itlbContent cfg s i).u)

/-- `i_g_st_access_err`. -/
def iGStAccessErr : Bool := i.fetchReq && (stages cfg i).g && !(itlbGContent cfg s i).u

/-- What the walker assigns in the cycle. -/
def walk : Ptw.Comb := Ptw.comb cfg.toCfg s.ptw (walkInput cfg s i)

/-- `ptw_bad_gpaddr`. -/
def ptwBadGpaddr : Nat :=
  if cfg.rvh && (walk cfg s i).ptwErrorAtGSt then
    if s.ptw.ptwStageQ = .gIntermed then slice s.ptw.gptwPptrQ 0 cfg.gplen else s.ptw.gpaddrQ
  else 0

/-- The translation of fetches is on. -/
def fetchTranslated : Bool := (stages cfg i).s || (stages cfg i).g

/-- The exception for an address that is not canonical. -/
def fetchCanonicalException : ExceptionT :=
  if i.fetchReq && !canonical cfg i.fetchVaddr then
    raised cfg noException instrPageFault i.fetchVaddr 0 0 (stages cfg i).v
  else noException

/-- The exception of a hit. -/
def fetchHitException : ExceptionT :=
  let ex := fetchCanonicalException cfg i
  if cfg.rvh && iGStAccessErr cfg s i then
    raised cfg ex instrGuestPageFault i.fetchVaddr (itlbGpaddr cfg s i) 0 (stages cfg i).v
  else if iaccessErr cfg s i then
    raised cfg ex instrPageFault i.fetchVaddr 0 0 (stages cfg i).v
  else ex

/-- The exception of a walk for a fetch. -/
def fetchWalkException : ExceptionT :=
  let ex := fetchCanonicalException cfg i
  let c := walk cfg s i
  if c.ptwError then
    if cfg.rvh && c.ptwErrorAtGSt then
      raised cfg ex instrGuestPageFault s.ptw.vaddrQ (ptwBadGpaddr cfg s i)
        (if c.ptwErrAtGIntSt then readPseudoinstruction cfg else 0) (stages cfg i).v
    else raised cfg ex instrPageFault s.ptw.vaddrQ 0 0 (stages cfg i).v
  else raised cfg ex instrAccessFault s.ptw.vaddrQ 0 0 (stages cfg i).v

/-- The process `instr_interface`. -/
def areqO : AreqO :=
  if fetchTranslated cfg i then
    let ppn := if (stages cfg i).g then (itlbGContent cfg s i).ppn else (itlbContent cfg s i).ppn
    let paddr := translated cfg ppn (itlbIsPage cfg s i) i.fetchVaddr
    if (itlbHitting cfg s i).isSome then ⟨i.fetchReq, paddr, fetchHitException cfg s i⟩
    else if decide (s.ptw.stateQ ≠ .idle) && s.ptw.isInstrPtwQ then
      ⟨(walk cfg s i).ptwError || (walk cfg s i).ptwAccessException, paddr,
        fetchWalkException cfg s i⟩
    else ⟨false, paddr, fetchCanonicalException cfg i⟩
  else ⟨i.fetchReq, untranslated cfg i.fetchVaddr, noException⟩

/-- `lsu_valid_o`, `lsu_paddr_o` and `lsu_exception_o`. -/
structure LsuAnswer where
  lsuValid : Bool
  lsuPaddr : Nat
  lsuException : ExceptionT

/-- The entry that the outputs of the data buffer show. -/
def dtlbEntry : Option Tlb.Entry := (dtlbHitting cfg s i).map s.dtlb.entries

/-- `dtlb_content`. -/
def dtlbContent : Pte :=
  match dtlbEntry cfg s i with
  | some e => Tlb.luContent cfg.toCfg (dtlbInput cfg i SharedTlb.noUpdate) e
  | none => Pte.zero

/-- `dtlb_g_content`. -/
def dtlbGContent : Pte :=
  match dtlbEntry cfg s i with
  | some e => Tlb.luGContent cfg.toCfg (dtlbInput cfg i SharedTlb.noUpdate) e
  | none => Pte.zero

/-- `dtlb_gpaddr`. -/
def dtlbGpaddr : Nat :=
  match dtlbEntry cfg s i with
  | some e => Tlb.luGpaddr cfg.toCfg (dtlbInput cfg i SharedTlb.noUpdate) e
  | none => 0

/-- `dtlb_is_page`. -/
def dtlbIsPage (level : Fin 2) : Bool :=
  match dtlbEntry cfg s i with
  | some e => Tlb.luIsPage cfg.toCfg (dtlbInput cfg i SharedTlb.noUpdate) e level
  | none => false

/-- The translation of loads and stores is on. -/
def lsuTranslated : Bool := (ldStStages cfg i).s || (ldStStages cfg i).g

/-- `lsu_dtlb_hit_o`. -/
def lsuDtlbHit : Bool := !lsuTranslated cfg i || (dtlbHitting cfg s i).isSome

/-- `lsu_dtlb_ppn_o`; the sizes of the page are those of the access before, and the bits of the
address are not shifted. -/
def lsuDtlbPpn : Nat :=
  if lsuTranslated cfg i && !s.misalignedExQ.valid then
    let ppn :=
      if (ldStStages cfg i).g then (dtlbGContent cfg s i).ppn else (dtlbContent cfg s i).ppn
    patched cfg ppn s.dtlbIsPageQ i.lsuVaddr
  else untranslated cfg i.lsuVaddr / 2 ^ 12

/-- `canonical_addr_check`. -/
def canonicalAddrCheck : Bool :=
  i.lsuReq && (ldStStages cfg i).s && !canonical cfg i.lsuVaddr

/-- `daccess_err`. -/
def daccessErr : Bool :=
  (ldStStages cfg i).s
    && (decide (i.ldStPrivLvl = .s)
        && (if (ldStStages cfg i).v then !i.vsSum else !i.sum) && s.dtlbPteQ.u
      || decide (i.ldStPrivLvl = .u) && !s.dtlbPteQ.u)

/-- `d_g_st_access_err`. -/
def dGStAccessErr : Bool := (ldStStages cfg i).g && !s.dtlbGpteQ.u

/-- `tval` of the data interface: an address in the sign of the access. -/
def dataTval (vaddr : Nat) : Nat :=
  if s.lsuVaddrQ.testBit (cfg.vlen - 1) then
    join (2 ^ (cfg.xlen - cfg.vlen) - 1) cfg.vlen vaddr
  else vaddr

/-- The exception of a hit. -/
def dataHitException : ExceptionT :=
  let ex := s.misalignedExQ
  let tval := dataTval cfg s s.lsuVaddrQ
  let v := (ldStStages cfg i).v
  if s.lsuIsStoreQ then
    if cfg.rvh && (ldStStages cfg i).g
        && (!s.dtlbGpteQ.w || dGStAccessErr cfg s i || !s.dtlbGpteQ.d) then
      raised cfg ex storeGuestPageFault tval s.lsuGpaddrQ 0 v
    else if ((ldStStages cfg i).s || !cfg.rvh)
        && (!s.dtlbPteQ.w || daccessErr cfg s i || canonicalAddrCheck cfg i || !s.dtlbPteQ.d) then
      raised cfg ex storePageFault tval 0 s.lsuTinstQ v
    else ex
  else if cfg.rvh && dGStAccessErr cfg s i then
    raised cfg ex loadGuestPageFault tval s.lsuGpaddrQ 0 v
  else if daccessErr cfg s i || canonicalAddrCheck cfg i then
    raised cfg ex loadPageFault tval 0 s.lsuTinstQ v
  else ex

/-- The exception of a walk for a load or store. -/
def dataWalkException : ExceptionT :=
  let c := walk cfg s i
  let tval := dataTval cfg s s.ptw.vaddrQ
  let v := (ldStStages cfg i).v
  let ex :=
    if c.ptwError then
      if cfg.rvh && c.ptwErrorAtGSt then
        raised cfg s.misalignedExQ
          (if s.lsuIsStoreQ then storeGuestPageFault else loadGuestPageFault) tval
          (ptwBadGpaddr cfg s i) (if c.ptwErrAtGIntSt then readPseudoinstruction cfg else 0) v
      else
        raised cfg s.misalignedExQ (if s.lsuIsStoreQ then storePageFault else loadPageFault) tval
          0 s.lsuTinstQ v
    else s.misalignedExQ
  if c.ptwAccessException then
    if s.lsuIsStoreQ && !cfg.rvh && decide (cfg.ptLevels = 3) then
      raised cfg ex stAccessFault tval 0 0 v
    else raised cfg ex ldAccessFault tval 0 s.lsuTinstQ v
  else ex

/-- The process `data_interface`, for the access of the cycle before. -/
def lsuAnswer : LsuAnswer :=
  if lsuTranslated cfg i && !s.misalignedExQ.valid then
    let ppn := if (ldStStages cfg i).g then s.dtlbGpteQ.ppn else s.dtlbPteQ.ppn
    let paddr := translated cfg ppn s.dtlbIsPageQ s.lsuVaddrQ
    if s.dtlbHitQ && s.lsuReqQ then ⟨true, paddr, dataHitException cfg s i⟩
    else if decide (s.ptw.stateQ ≠ .idle) && !s.ptw.isInstrPtwQ then
      ⟨(walk cfg s i).ptwError || (walk cfg s i).ptwAccessException, paddr,
        dataWalkException cfg s i⟩
    else ⟨false, paddr, s.misalignedExQ⟩
  else ⟨s.lsuReqQ, untranslated cfg s.lsuVaddrQ, s.misalignedExQ⟩

/-! ## The cycle -/

def step : State cfg where
  ptw := Ptw.step cfg.toCfg s.ptw (walkInput cfg s i)
  itlb := Tlb.step cfg.toCfg s.itlb (itlbInput cfg i (updateItlb cfg s i))
  dtlb := Tlb.step cfg.toCfg s.dtlb (dtlbInput cfg i (updateDtlb cfg s i))
  shared := SharedTlb.step s.shared (sharedInput cfg s i)
  lsuVaddrQ := i.lsuVaddr
  lsuGpaddrQ := if cfg.rvh then dtlbGpaddr cfg s i else s.lsuGpaddrQ
  lsuTinstQ := if cfg.rvh then i.lsuTinst else s.lsuTinstQ
  lsuReqQ := i.lsuReq
  lsuIsStoreQ := i.lsuIsStore
  dtlbPteQ := dtlbContent cfg s i
  dtlbGpteQ := if cfg.rvh then dtlbGContent cfg s i else s.dtlbGpteQ
  dtlbHitQ := (dtlbHitting cfg s i).isSome
  dtlbIsPageQ := dtlbIsPage cfg s i
  misalignedExQ := { i.misalignedEx with valid := i.misalignedEx.valid && i.lsuReq }

def machine (powerUp : Fin 2 → TcSram (2 ^ cfg.sharedTlbBits) SharedTlb.Row) :
    Machine (State cfg) Input where
  reset := reset cfg powerUp
  step := step cfg

/-! ## A core with Sv32 -/

/-- Sv32 with the shared buffer. -/
def sv32 : UnitCfg := ⟨⟨false, 32, false, false⟩, 2, 2, true, 6, 34, true⟩

/-- Memories that hold zeros. -/
def blank : Fin 2 → TcSram (2 ^ sv32.sharedTlbBits) SharedTlb.Row :=
  let row : SharedTlb.Row :=
    ⟨0, 0, 0, 0, fun _ _ => false, ⟨false, false, false⟩, false, Pte.zero, Pte.zero⟩
  fun _ => ⟨fun _ => row, 0, row⟩

/-- A cycle of the supervisor without an access; both sides are translated. -/
def Input.quiet : Input where
  flushEx := false
  fence := none
  enableTranslation := true
  enableGTranslation := false
  enLdStTranslation := true
  enLdStGTranslation := false
  fetchReq := false
  fetchVaddr := 0x400000
  misalignedEx := noException
  lsuReq := false
  lsuVaddr := 0x400000
  lsuTinst := 0
  lsuIsStore := false
  privLvl := .s
  v := false
  ldStPrivLvl := .s
  ldStV := false
  sum := false
  vsSum := false
  mxr := false
  vmxr := false
  hlvxInst := false
  satpPpn := 1
  vsatpPpn := 0
  hgatpPpn := 0
  asid := 0
  vsAsid := 0
  vmid := 0
  asidToBeFlushed := 0
  vmidToBeFlushed := 0
  vaddrToBeFlushed := 0
  gpaddrToBeFlushed := 0
  mbe := false
  dataGnt := false
  dataRvalid := false
  dataRdata := 0
  allowAccess := fun _ => true
  rndWay := 0

def Input.load : Input := { Input.quiet with lsuReq := true }

def Input.fetch : Input := { Input.quiet with fetchReq := true }

/-- A load walks to a large page with V, R and A set. -/
def readablePage : List Input :=
  [Input.load, Input.load, { Input.load with dataGnt := true },
    { Input.load with dataRvalid := true, dataRdata := 0x100043 }, Input.load]

end Cva6Hpd.Mmu.Unit

/-!
## Labels of the buffered translations

A label beside every entry of the three buffers follows the data: an update of the first level
takes the label of the row that hits, or that of the walk. The labels are written only; they say
where a translation comes from.
-/

namespace Cva6Hpd.Mmu.Unit

open Common (TcSram)

structure Labels (cfg : UnitCfg) (α : Type) where
  itlb : Fin cfg.instrTlbEntries → α
  dtlb : Fin cfg.dataTlbEntries → α
  ways : Fin 2 → TcSram (2 ^ cfg.sharedTlbBits) α

namespace Labels

variable {cfg : UnitCfg} {α : Type}

/-- The labels at reset. -/
def initial (powerUp : Fin 2 → TcSram (2 ^ cfg.sharedTlbBits) SharedTlb.Row) (none : α) :
    Labels cfg α where
  itlb := fun _ => none
  dtlb := fun _ => none
  ways := fun way => ⟨fun _ => none, (powerUp way).rAddrQ, none⟩

variable (s : State cfg) (i : Input) (walked : α) (looked : α → α) (labels : Labels cfg α)

/-- The label of an update of the first level. -/
def update : α :=
  match SharedTlb.hitWay s.shared (sharedInput cfg s i) with
  | some way => if cfg.useSharedTlb then looked (labels.ways way).rdataQ else walked
  | none => walked

def step : Labels cfg α where
  itlb := fun k =>
    if Tlb.writes cfg.toCfg s.itlb (itlbInput cfg i (updateItlb cfg s i)) k then
      labels.update s i walked looked
    else labels.itlb k
  dtlb := fun k =>
    if Tlb.writes cfg.toCfg s.dtlb (dtlbInput cfg i (updateDtlb cfg s i)) k then
      labels.update s i walked looked
    else labels.dtlb k
  ways := fun way =>
    (labels.ways way).step (SharedTlb.port s.shared (sharedInput cfg s i) walked way)

end Labels

/-! ## Where an update comes from -/

section Updates

variable {cfg : UnitCfg} {s : State cfg} {i : Input}

theorem walkUpdate_eq :
    walkUpdate cfg s i = Ptw.sharedTlbUpdateO cfg.toCfg s.ptw (walkInput cfg s i) :=
  (Ptw.sharedTlbUpdateO_of_hit _).symm

/-- An update of the first level with its label: a row of the shared buffer that hits, or the
entry that the walker installs. -/
theorem firstLevelUpdate_cases {α : Type} (walked : α) (looked : α → α) (labels : Labels cfg α)
    (valid : (SharedTlb.firstLevelUpdate s.shared (sharedInput cfg s i)).valid = true) :
    (∃ way, cfg.useSharedTlb = true ∧
        SharedTlb.hitWay s.shared (sharedInput cfg s i) = some way ∧
        SharedTlb.firstLevelUpdate s.shared (sharedInput cfg s i) =
          SharedTlb.hitUpdate s.shared way ∧
        labels.update s i walked looked = looked (labels.ways way).rdataQ) ∨
      (walkUpdate cfg s i).valid = true ∧
        SharedTlb.firstLevelUpdate s.shared (sharedInput cfg s i) =
          { walkUpdate cfg s i with
            vStEnbl := SharedTlb.currentStages s.shared (sharedInput cfg s i) } ∧
        labels.update s i walked looked = walked := by
  rcases SharedTlb.firstLevelUpdate_cases valid with ⟨way, shared, hit, same⟩ | ⟨alone, walks, same⟩
  · refine Or.inl ⟨way, shared, hit, same, ?_⟩
    rw [Labels.update, hit]
    exact if_pos shared
  · refine Or.inr ⟨walks, same, ?_⟩
    rw [Labels.update]
    split
    · rw [alone, if_neg Bool.false_ne_true]
    · rfl

end Updates

end Cva6Hpd.Mmu.Unit
