import Cva6Hpd.Hw.Machine
import Cva6Hpd.Mmu.Types

/-!
# The page-table walker

`cva6_ptw`. The walker reads one page-table entry at a time through a port of the data cache:
it asks until it is granted, waits for the response in its input register, and either goes on
with the next request or ends the walk. With the hypervisor extension the entries of the first
stage are themselves reached through a walk of the second one.
-/

namespace Cva6Hpd.Mmu.Ptw

open Hw (Machine)

/-- The states of the walker. -/
inductive Fsm where
  | idle | waitGrant | pteLookup | waitRvalid | propagateError | propagateAccessError | killReq
  | latency
deriving DecidableEq

/-- `ptw_stage_q`. -/
inductive Stage where
  | s | gIntermed | gFinal
deriving DecidableEq

structure State where
  stateQ : Fsm
  dataRvalidQ : Bool
  dataRdataQ : Nat
  isInstrPtwQ : Bool
  globalMappingQ : Bool
  tagValidQ : Bool
  killReqQ : Bool
  ptwStageQ : Stage
  /-- `ptw_lvl_q[0]`. -/
  ptwLvlQ : Nat
  /-- `ptw_lvl_q[HYP_EXT]`, with the hypervisor extension. -/
  ptwHypLvlQ : Nat
  tlbUpdateAsidQ : Nat
  tlbUpdateVmidQ : Nat
  vaddrQ : Nat
  gpaddrQ : Nat
  ptwPptrQ : Nat
  gptwPptrQ : Nat
  gpteQ : Pte
deriving DecidableEq

def reset : State where
  stateQ := .idle
  dataRvalidQ := false
  dataRdataQ := 0
  isInstrPtwQ := false
  globalMappingQ := false
  tagValidQ := false
  killReqQ := false
  ptwStageQ := .s
  ptwLvlQ := 0
  ptwHypLvlQ := 0
  tlbUpdateAsidQ := 0
  tlbUpdateVmidQ := 0
  vaddrQ := 0
  gpaddrQ := 0
  ptwPptrQ := 0
  gptwPptrQ := 0
  gpteQ := Pte.zero

structure Input where
  flush : Bool
  enableTranslation : Bool
  enableGTranslation : Bool
  enLdStTranslation : Bool
  enLdStGTranslation : Bool
  v : Bool
  ldStV : Bool
  hlvxInst : Bool
  lsuIsStore : Bool
  dataGnt : Bool
  dataRvalid : Bool
  dataRdata : Nat
  asid : Nat
  vsAsid : Nat
  vmid : Nat
  sharedTlbAccess : Bool
  sharedTlbHit : Bool
  sharedTlbVaddr : Nat
  itlbReq : Bool
  satpPpn : Nat
  vsatpPpn : Nat
  hgatpPpn : Nat
  mxr : Bool
  vmxr : Bool
  mbe : Bool
  /-- `i_pmp_ptw`: the reads of S-mode that the physical memory protection allows. -/
  allowAccess : Nat → Bool

variable (cfg : Cfg) (s : State) (i : Input)

/-! ## Addresses -/

/-- `pte`. -/
def pte : Pte := Pte.ofWord cfg s.dataRdataQ

/-- An entry of the table at `ppn`. -/
def tableEntry (ppn index : Nat) : Nat :=
  join (join ppn cfg.vpnWidth index) cfg.ptLevels 0

/-- An entry of the root table of the second stage, four times as long as the others. -/
def guestRoot (hgatpPpn address : Nat) : Nat :=
  join (join (hgatpPpn / 4) (cfg.vpnWidth + 2)
    (slice address (cfg.sv - cfg.vpnWidth) (cfg.vpnWidth + 2))) cfg.ptLevels 0

/-- The index of an address in its root table. -/
def rootIndex (vaddr : Nat) : Nat := slice vaddr (cfg.sv - cfg.vpnWidth) cfg.vpnWidth

/-- `vaddr_lvl`: the index of an address in the table behind level `lvl`. -/
def nextIndex (vaddr lvl : Nat) : Nat :=
  slice vaddr (12 + cfg.vpnWidth * (cfg.ptLevels - lvl - 2)) cfg.vpnWidth

/-- `gpaddr_base`. -/
def gpaddrBase : Nat := join (slice (pte cfg s).ppn 0 cfg.gppnw) 12 (slice s.vaddrQ 0 12)

/-- `gpaddr[lvl]`: the guest physical address that a leaf at `lvl` gives. -/
def gpaddr (lvl : Nat) : Nat :=
  let base := gpaddrBase cfg s
  if lvl = cfg.lastLevel then base
  else
    let low := cfg.vpnLen - cfg.vpnWidth + 1
    let middle := slice (if s.ptwLvlQ = 0 then s.vaddrQ else base) low cfg.vpnWidth
    join
      (join (slice base (cfg.vpnLen + 1) (cfg.gplen - cfg.vpnLen - 1)) cfg.vpnWidth middle) low
      (slice (if s.ptwLvlQ = lvl then s.vaddrQ else base) 0 low)

/-- `misaligned_page`, any of its bits. -/
def misalignedPage : Bool :=
  decide (s.ptwLvlQ < cfg.lastLevel) &&
    decide (slice (pte cfg s).ppn 0 (cfg.vpnWidth * (cfg.lastLevel - s.ptwLvlQ)) ≠ 0)

/-! ## What a cycle assigns -/

/-- The signals that the process `ptw` drives; `next` holds the inputs of the registers. -/
structure Comb where
  next : State
  dataReq : Bool
  ptwError : Bool
  ptwErrorAtGSt : Bool
  ptwErrAtGIntSt : Bool
  ptwAccessException : Bool
  sharedTlbUpdateValid : Bool
  isNapot64k : Bool
  sharedTlbMiss : Bool

namespace Comb

/-- `state_d = state`. -/
def goto (c : Comb) (state : Fsm) : Comb := { c with next := { c.next with stateQ := state } }

/-- `ptw_stage_d = stage`. -/
def setStage (c : Comb) (stage : Stage) : Comb :=
  { c with next := { c.next with ptwStageQ := stage } }

/-- `ptw_pptr_n = address`. -/
def setPptr (c : Comb) (address : Nat) : Comb :=
  { c with next := { c.next with ptwPptrQ := address } }

/-- `ptw_lvl_n[0] = lvl`. -/
def setLvl (c : Comb) (lvl : Nat) : Comb := { c with next := { c.next with ptwLvlQ := lvl } }

/-- `shared_tlb_update_valid = valid`. -/
def setUpdate (c : Comb) (valid : Bool) : Comb := { c with sharedTlbUpdateValid := valid }

end Comb

/-- The default assignments. -/
def defaults : Comb where
  next :=
    { s with
      tagValidQ := false
      gpteQ := if cfg.rvh then s.gpteQ else Pte.zero }
  dataReq := false
  ptwError := false
  ptwErrorAtGSt := false
  ptwErrAtGIntSt := false
  ptwAccessException := false
  sharedTlbUpdateValid := false
  isNapot64k := false
  sharedTlbMiss := false

/-! ## Starting a walk -/

/-- The first stage is enabled for fetches or for loads and stores. -/
def anyStage1 : Bool := i.enableTranslation || i.enLdStTranslation

/-- The second stage is enabled for fetches or for loads and stores. -/
def anyStage2 : Bool := i.enableGTranslation || i.enLdStGTranslation

/-- A lookup of the shared buffer missed. -/
def missed : Bool :=
  (anyStage1 i || anyStage2 i || !cfg.rvh) && i.sharedTlbAccess && !i.sharedTlbHit

/-- Both stages are walked. -/
def nested : Bool :=
  ((i.enableTranslation && i.enableGTranslation)
    || (i.enLdStTranslation && i.enLdStGTranslation)) && cfg.rvh

/-- Only the second stage is walked. -/
def onlyStage2 : Bool :=
  (((i.enableTranslation || i.enableGTranslation) && !i.enableTranslation)
    || ((i.enLdStTranslation || i.enLdStGTranslation) && !i.enLdStTranslation)) && cfg.rvh

/-- The stage and the address that a walk starts with. -/
def startWalk (next : State) : State :=
  if nested cfg i then
    let pptr := tableEntry cfg i.vsatpPpn (rootIndex cfg i.sharedTlbVaddr)
    { next with
      ptwStageQ := .gIntermed
      gptwPptrQ := pptr
      ptwPptrQ := guestRoot cfg i.hgatpPpn pptr }
  else if onlyStage2 cfg i then
    { next with
      ptwStageQ := .gFinal
      gpaddrQ := slice i.sharedTlbVaddr 0 (cfg.sv + 2)
      ptwPptrQ := guestRoot cfg i.hgatpPpn i.sharedTlbVaddr }
  else
    let root := if (i.v || i.ldStV) && cfg.rvh then i.vsatpPpn else i.satpPpn
    { next with
      ptwStageQ := .s
      ptwPptrQ := tableEntry cfg root (rootIndex cfg i.sharedTlbVaddr) }

/-- `IDLE`. -/
def idle : Comb :=
  let c := defaults cfg s
  let next :=
    { c.next with
      ptwLvlQ := 0
      ptwHypLvlQ := 0
      globalMappingQ := false
      isInstrPtwQ := false
      gpteQ := Pte.zero
      gpaddrQ := if cfg.rvh then 0 else s.gpaddrQ }
  if missed cfg i then
    let walk := startWalk cfg i next
    { c with
      sharedTlbMiss := true
      next :=
        { walk with
          stateQ := .waitGrant
          isInstrPtwQ := i.itlbReq
          vaddrQ := i.sharedTlbVaddr
          tlbUpdateAsidQ :=
            if i.itlbReq then if i.v then i.vsAsid else i.asid
            else if i.ldStV then i.vsAsid else i.asid
          tlbUpdateVmidQ := if cfg.rvh then i.vmid else walk.tlbUpdateVmidQ } }
  else { c with next := next }

/-- `WAIT_GRANT`. -/
def waitGrant : Comb :=
  let c := { defaults cfg s with dataReq := true }
  if i.dataGnt then
    { c with
      next :=
        { c.next with
          tagValidQ := true
          stateQ := if s.killReqQ || i.flush then .killReq else .pteLookup } }
  else c

/-- `KILL_REQ`: even when killed, the request sends a response. -/
def killReq : Comb :=
  let c := defaults cfg s
  { c with next := { c.next with killReqQ := false, stateQ := .waitRvalid } }

/-! ## Looking at an entry -/

/-- The second stage is enabled for the access that the walk serves. -/
def gEnabled : Bool := if s.isInstrPtwQ then i.enableGTranslation else i.enLdStGTranslation

/-- The access that the walk serves is virtualized. -/
def virtualized : Bool := if s.isInstrPtwQ then i.v else i.ldStV

/-- The entry is invalid or of a reserved form. -/
def invalid : Bool :=
  let pte := pte cfg s
  !pte.v || (!pte.r && pte.w) || (decide (pte.reserved ≠ 0) && cfg.isXlen64)
    || (!cfg.svnapotEn && pte.n) || (cfg.svnapotEn && !pte.isLeaf && pte.n)

/-- A first-stage entry points outside of the guest physical addresses. -/
def beyondGuest : Bool :=
  cfg.rvh && virtualized s i && decide (s.ptwStageQ = .s)
    && decide (slice (pte cfg s).ppn cfg.gppnw (cfg.ppnw - cfg.gppnw) ≠ 0)

/-- A page of 64 KiB is a last-level leaf with its N bit set and `1000` below. -/
def napot (c : Comb) : Comb :=
  let pte := pte cfg s
  if cfg.svnapotEn && pte.n then
    let napot := decide (slice pte.ppn 0 4 = 8) && decide (s.ptwLvlQ = 2)
    let c := { c with isNapot64k := napot }
    if napot then c else c.goto .propagateError
  else c

/-- The physical address that the second stage gives for a first-stage entry. -/
def intermediate : Nat :=
  let pptr := join (slice (pte cfg s).ppn 0 cfg.gppnw) 12 (slice s.gptwPptrQ 0 12)
  if s.ptwLvlQ = 1 then withLow pptr 21 s.gptwPptrQ
  else if s.ptwLvlQ = 0 then withLow pptr 30 s.gptwPptrQ
  else pptr

/-- A leaf of one stage leads to the other. -/
def leafStage (c : Comb) : Comb :=
  if cfg.rvh then
    match s.ptwStageQ with
    | .s =>
        if gEnabled s i then
          let address := gpaddr cfg s s.ptwLvlQ
          { c with
            next :=
              { c.next with
                stateQ := .waitGrant
                ptwStageQ := .gFinal
                gpteQ := pte cfg s
                ptwHypLvlQ := s.ptwLvlQ
                gpaddrQ := address
                ptwPptrQ := guestRoot cfg i.hgatpPpn address
                ptwLvlQ := 0 } }
        else c
    | .gIntermed =>
        { c with
          next :=
            { c.next with
              stateQ := .waitGrant
              ptwStageQ := .s
              ptwLvlQ := s.ptwHypLvlQ
              ptwPptrQ := intermediate cfg s } }
    | .gFinal => c
  else c

/-- `state_d = PROPAGATE_ERROR` in the stage of the entry. -/
def fail (c : Comb) : Comb :=
  let c := c.goto .propagateError
  if cfg.rvh then c.setStage s.ptwStageQ else c

/-- The leaf forbids the fetch that the walk serves. -/
def fetchDenied : Bool :=
  let pte := pte cfg s
  let intermed := cfg.rvh && decide (s.ptwStageQ = .gIntermed)
  (!pte.x && !intermed) || !pte.a || (intermed && !pte.r)

/-- The leaf allows the load or store that the walk serves. -/
def dataAllowed : Bool :=
  let pte := pte cfg s
  (pte.a
      && ((pte.r && !i.hlvxInst)
        || (pte.x && (i.mxr || i.hlvxInst
          || (decide (s.ptwStageQ = .s) && i.vmxr && i.ldStV && cfg.rvh)))))
    && (!i.lsuIsStore || (pte.w && pte.d) || (decide (s.ptwStageQ = .gIntermed) && cfg.rvh))

/-- The leaf ends the walk. -/
def lastStage : Bool := !cfg.rvh || decide (s.ptwStageQ = .gFinal) || !gEnabled s i

/-- The permissions of the leaf. -/
def permission (c : Comb) : Comb :=
  let denied := if s.isInstrPtwQ then fetchDenied cfg s else !dataAllowed cfg s i
  if denied then fail cfg s c
  else if lastStage cfg s i then c.setUpdate true
  else c

/-- A superpage that is not aligned. -/
def misaligned (c : Comb) : Comb :=
  if misalignedPage cfg s then (fail cfg s c).setUpdate false else c

/-- A leaf. -/
def leaf (c : Comb) : Comb :=
  let c := misaligned cfg s (permission cfg s i (leafStage cfg s i (napot cfg s c)))
  if beyondGuest cfg s i then (c.goto .propagateError).setStage .gFinal else c

/-- The request for the table that the entry points to. -/
def nextTable (c : Comb) : Comb :=
  let lvl := s.ptwLvlQ
  let entry (vaddr : Nat) := tableEntry cfg (pte cfg s).ppn (nextIndex cfg vaddr lvl)
  let c := (c.setLvl (lvl + 1)).goto .waitGrant
  if cfg.rvh then
    match s.ptwStageQ with
    | .s =>
        if gEnabled s i then
          let pptr := entry s.vaddrQ
          { c with
            next :=
              { c.next with
                ptwStageQ := .gIntermed
                ptwHypLvlQ := lvl + 1
                gptwPptrQ := pptr
                ptwPptrQ := guestRoot cfg i.hgatpPpn pptr
                ptwLvlQ := 0 } }
        else c.setPptr (entry s.vaddrQ)
    | .gIntermed => c.setPptr (entry s.gptwPptrQ)
    | .gFinal => c.setPptr (entry s.gpaddrQ)
  else c.setPptr (entry s.vaddrQ)

/-- A pointer to the next table. -/
def pointer (c : Comb) : Comb :=
  let pte := pte cfg s
  let c :=
    if s.ptwLvlQ = cfg.lastLevel then fail cfg s (c.setLvl s.ptwLvlQ)
    else
      let c := nextTable cfg s i c
      if cfg.rvh && (pte.a || pte.d || pte.u) then
        (c.goto .propagateError).setStage s.ptwStageQ
      else c
  if beyondGuest cfg s i then (c.goto .propagateError).setStage s.ptwStageQ else c

/-- The physical memory protection has the last word. -/
def pmpCheck (c : Comb) : Comb :=
  if i.allowAccess s.ptwPptrQ then c
  else
    let c := ((c.setUpdate false).setPptr s.ptwPptrQ).goto .propagateAccessError
    if cfg.rvh then c.setStage s.ptwStageQ else c

/-- The assignments before an entry is looked at: its global bit is kept. -/
def looking : Comb :=
  let c := defaults cfg s
  let global := (pte cfg s).g && (decide (s.ptwStageQ = .s) || !cfg.rvh)
  { c with next := { c.next with globalMappingQ := s.globalMappingQ || global } }

/-- `PTE_LOOKUP`. -/
def pteLookup : Comb :=
  if s.dataRvalidQ then
    pmpCheck cfg s i
      (if invalid cfg s then (looking cfg s).goto .propagateError
      else if (pte cfg s).isLeaf then leaf cfg s i ((looking cfg s).goto .latency)
      else pointer cfg s i ((looking cfg s).goto .latency))
  else defaults cfg s

/-! ## The cycle -/

/-- `PROPAGATE_ERROR`. -/
def propagateError : Comb :=
  { (defaults cfg s).goto .latency with
    ptwError := true
    ptwErrorAtGSt := cfg.rvh && decide (s.ptwStageQ ≠ .s)
    ptwErrAtGIntSt := cfg.rvh && decide (s.ptwStageQ = .gIntermed) }

/-- `PROPAGATE_ACCESS_ERROR`. -/
def propagateAccessError : Comb :=
  { (defaults cfg s).goto .latency with ptwAccessException := true }

/-- `WAIT_RVALID`: wait for the response before going back to `IDLE`. -/
def waitRvalid : Comb :=
  let c := defaults cfg s
  if s.dataRvalidQ then c.goto .idle else c

/-- The `case` on the state. -/
def unflushed : Comb :=
  match s.stateQ with
  | .idle => idle cfg s i
  | .waitGrant => waitGrant cfg s i
  | .killReq => killReq cfg s
  | .pteLookup => pteLookup cfg s i
  | .propagateError => propagateError cfg s
  | .propagateAccessError => propagateAccessError cfg s
  | .waitRvalid => waitRvalid cfg s
  | .latency => (defaults cfg s).goto .idle

/-- On a flush the walker waits for what it still has to wait for. -/
def flushed (c : Comb) : Comb :=
  let c :=
    if (s.stateQ = .pteLookup ∨ s.stateQ = .waitRvalid) ∧ s.dataRvalidQ = false then
      c.goto .waitRvalid
    else if s.stateQ ≠ .waitGrant then c.goto .latency
    else c
  { c with next := { c.next with killReqQ := decide (s.stateQ = .waitGrant) } }

/-- The process `ptw`. -/
def comb : Comb := if i.flush then flushed s (unflushed cfg s i) else unflushed cfg s i

/-- `req_port_o.kill_req`. -/
def killReqO : Bool := decide (s.stateQ = .killReq)

/-- `shared_tlb_update_o`. -/
def sharedTlbUpdateO : TlbUpdate :=
  let c := comb cfg s i
  let twoStages :=
    ((i.enableGTranslation && i.enableTranslation)
      || (i.enLdStGTranslation && i.enLdStTranslation)) && cfg.rvh
  let guest := (i.enableGTranslation || i.enLdStGTranslation) && cfg.rvh
  { valid := c.sharedTlbUpdateValid
    isNapot64k := c.isNapot64k
    isPage := fun level stage =>
      decide (level.val < cfg.lastLevel) &&
        (if twoStages then
          decide ((if stage = 1 then s.ptwLvlQ else s.ptwHypLvlQ) = level.val)
        else if i.enableTranslation || i.enLdStTranslation || !cfg.rvh then
          decide (stage = 0) && decide (s.ptwLvlQ = level.val)
        else decide (stage = 1) && decide (s.ptwLvlQ = level.val))
    vpn := slice s.vaddrQ 12 cfg.vpnLen
    asid := s.tlbUpdateAsidQ
    vmid := if cfg.rvh then s.tlbUpdateVmidQ else 0
    vStEnbl := ⟨false, false, false⟩
    content := (if guest then s.gpteQ else pte cfg s).orGlobal s.globalMappingQ
    gContent := if guest then pte cfg s else Pte.zero }

/-- `endian_data`: a word of the data cache in the byte order of the hart. -/
def endianData (mbe : Bool) (word : Nat) : Nat :=
  if mbe then byteSwapped (cfg.xlen / 8) word else slice word 0 cfg.xlen

/-- The registers of the hypervisor extension exist with it only. -/
def hypRegisters (next : State) : State :=
  if cfg.rvh then next
  else
    { next with
      gpaddrQ := s.gpaddrQ
      gptwPptrQ := s.gptwPptrQ
      ptwStageQ := s.ptwStageQ
      gpteQ := s.gpteQ
      tlbUpdateVmidQ := s.tlbUpdateVmidQ }

def step : State :=
  { hypRegisters cfg s (comb cfg s i).next with
    dataRdataQ := endianData cfg i.mbe i.dataRdata
    dataRvalidQ := i.dataRvalid }

def machine : Machine State Input where
  reset := reset
  step := step cfg

end Cva6Hpd.Mmu.Ptw
