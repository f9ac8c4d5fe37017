import Cva6Hpd.Mmu.Pairing
import Cva6Hpd.Mmu.Tables

/-!
# Walks without the hypervisor extension

What an unflushed walk does on its port and towards the translation look-aside buffers, at any
latency of the data cache: the events since its start are those of the tables that it reads,
and they are those of the translation algorithm exactly in the tables that conform.
-/

namespace Cva6Hpd.Mmu

open Hw (Machine)

/-! ## The cycle that looks at an entry -/

namespace Ptw

/-- The events of a cycle. -/
def eventsOf (cfg : Cfg) (s : State) (i : Input) : List Event :=
  (if (comb cfg s i).sharedTlbUpdateValid then [.install (sharedTlbUpdateO cfg s i)] else []) ++
    ((if (comb cfg s i).ptwError then [.pageFault] else []) ++
      if (comb cfg s i).ptwAccessException then [.accessFault] else [])

theorem tableEntry_eq (cfg : Cfg) (ppn index : Nat) :
    tableEntry cfg ppn index = ppn * 4096 + index * cfg.pteSize := by
  have page : 2 ^ cfg.vpnWidth * 2 ^ cfg.ptLevels = 4096 := by
    simp only [Cfg.vpnWidth, Cfg.vpnLen, Cfg.ptLevels]
    cases cfg.isXlen64 <;> cases cfg.rvh <;> rfl
  have size : 2 ^ cfg.ptLevels = cfg.pteSize := by
    simp only [Cfg.ptLevels, Cfg.pteSize]
    cases cfg.isXlen64 <;> rfl
  simp only [tableEntry, join]
  rw [Nat.add_zero, Nat.add_mul, Nat.mul_assoc, page, size]

theorem rootIndex_eq (cfg : Cfg) (w : Walk) :
    rootIndex cfg w.vaddr = w.vpn cfg cfg.lastLevel := by
  have low : cfg.sv - cfg.vpnWidth = 12 + cfg.vpnWidth * cfg.lastLevel := by
    simp only [Cfg.sv, Cfg.vpnWidth, Cfg.vpnLen, Cfg.ptLevels, Cfg.lastLevel]
    cases cfg.isXlen64 <;> cases cfg.rvh <;> rfl
  rw [rootIndex, Walk.vpn, low]

theorem nextIndex_eq (cfg : Cfg) (w : Walk) {lvl level : Nat}
    (place : lvl + (level + 1) = cfg.lastLevel) :
    nextIndex cfg w.vaddr lvl = w.vpn cfg level := by
  have last : cfg.lastLevel = cfg.ptLevels - 1 := rfl
  have below : cfg.ptLevels - lvl - 2 = level := by omega
  rw [nextIndex, Walk.vpn, below]

/-- The walker serves `w`, and stands at the table of `level` at page `ppn`. -/
structure Serves (cfg : Cfg) (w : Walk) (asid level ppn : Nat) (s : State) : Prop where
  vaddrQ : s.vaddrQ = w.vaddr
  asidQ : s.tlbUpdateAsidQ = asid
  isInstrPtwQ : s.isInstrPtwQ = w.isFetch
  ptwLvlQ : s.ptwLvlQ + level = cfg.lastLevel
  ptwPptrQ : s.ptwPptrQ = w.entryAddress cfg ppn level

/-- The inputs that a walk depends on are those of `w`. -/
structure Steady (w : Walk) (i : Input) : Prop where
  allowAccess : i.allowAccess = w.allowAccess
  lsuIsStore : w.isFetch = false → i.lsuIsStore = w.isStore
  mxr : w.isFetch = false → i.mxr = w.mxr
  hlvxInst : i.hlvxInst = false

/-- The registers that tell for which access the walk is made. -/
def access (s : State) : Nat × Nat × Bool := (s.vaddrQ, s.tlbUpdateAsidQ, s.isInstrPtwQ)

/-- No error is reported, and the access stays. -/
def Silent (s : State) (c : Comb) : Prop :=
  (c.ptwError, c.ptwAccessException, access c.next) = (false, false, access s)

section Silent

variable {cfg : Cfg} {s : State} {i : Input} {c : Comb} (silent : Silent s c)

include silent

theorem silent_fail : Silent s (fail cfg s c) := by
  rw [fail]
  split <;> exact silent

theorem silent_leaf : Silent s (leaf cfg s i c) := by
  have marked : Silent s (napot cfg s c) := by
    simp only [napot]
    split <;> [split; skip] <;> exact silent
  have staged : Silent s (leafStage cfg s i (napot cfg s c)) := by
    rw [leafStage]
    split <;> [split; skip] <;> [split; skip; skip; skip] <;> exact marked
  have checked : Silent s (permission cfg s i (leafStage cfg s i (napot cfg s c))) := by
    rw [permission]
    generalize (if s.isInstrPtwQ = true then fetchDenied cfg s else !dataAllowed cfg s i) = denied
    split
    · exact silent_fail staged
    · split <;> exact staged
  have aligned : Silent s
      (misaligned cfg s (permission cfg s i (leafStage cfg s i (napot cfg s c)))) := by
    rw [misaligned]
    split
    · exact silent_fail checked
    · exact checked
  rw [leaf]
  split <;> exact aligned

theorem silent_pointer : Silent s (pointer cfg s i c) := by
  have further : Silent s (nextTable cfg s i c) := by
    simp only [nextTable]
    split <;> [split; skip] <;> [split; skip; skip; skip] <;> exact silent
  have held : Silent s (c.setLvl s.ptwLvlQ) := silent
  simp only [pointer]
  split_ifs <;> first | exact silent_fail held | exact further

theorem silent_pmpCheck : Silent s (pmpCheck cfg s i c) := by
  simp only [pmpCheck]
  split_ifs <;> exact silent

end Silent

theorem silent_pteLookup (cfg : Cfg) (s : State) (i : Input) : Silent s (pteLookup cfg s i) := by
  have start : Silent s ((looking cfg s).goto .latency) := rfl
  rw [pteLookup]
  split
  · apply silent_pmpCheck
    split
    · exact start
    · split
      · exact silent_leaf start
      · exact silent_pointer start
  · rfl

section Plain

variable {cfg : Cfg} {w : Walk} {asid level ppn : Nat} {s : State} {i : Input}
  (plain : cfg.rvh = false)

include plain

theorem denied_plain (serves : Serves cfg w asid level ppn s) (steady : Steady w i) :
    (if s.isInstrPtwQ then fetchDenied cfg s else !dataAllowed cfg s i) =
      !w.permits (pte cfg s) := by
  rw [serves.isInstrPtwQ, Walk.permits]
  cases fetch : w.isFetch with
  | true => simp [fetchDenied, plain, Bool.or_comm]
  | false =>
      simp [dataAllowed, plain, steady.lsuIsStore fetch, steady.mxr fetch, steady.hlvxInst,
        Bool.and_assoc]

omit plain in
theorem misalignedPage_eq (serves : Serves cfg w asid level ppn s) :
    misalignedPage cfg s = !Walk.isAligned cfg level (pte cfg s) := by
  have place := serves.ptwLvlQ
  have width : cfg.lastLevel - s.ptwLvlQ = level := by omega
  rw [misalignedPage, Walk.isAligned, width, slice, Nat.pow_zero, Nat.div_one]
  rcases Nat.eq_zero_or_pos level with rfl | above
  · simp [Nat.mod_one]
  · simp [show s.ptwLvlQ < cfg.lastLevel by omega]

theorem sharedTlbUpdateO_plain (serves : Serves cfg w asid level ppn s)
    (valid : (comb cfg s i).sharedTlbUpdateValid = true)
    (napot : (comb cfg s i).isNapot64k = Walk.isNapot cfg level (pte cfg s)) :
    sharedTlbUpdateO cfg s i =
      w.installed cfg asid level (pte cfg s) (s.globalMappingQ || (pte cfg s).g) := by
  have place := serves.ptwLvlQ
  have lvl : cfg.lastLevel - level = s.ptwLvlQ := by omega
  have content : (pte cfg s).orGlobal s.globalMappingQ =
      (pte cfg s).orGlobal (s.globalMappingQ || (pte cfg s).g) := by
    simp only [Pte.orGlobal]
    cases (pte cfg s).g <;> cases s.globalMappingQ <;> rfl
  simp only [sharedTlbUpdateO, plain, Walk.installed, valid, napot, serves.vaddrQ, serves.asidQ,
    lvl]
  simp [Bool.and_assoc, content]

/-- What looking at an entry leads to; `outcome` is what is still to be seen of the walk. -/
inductive Leads (cfg : Cfg) (w : Walk) (level : Nat) (global : Bool) (further : Pte → List Event)
    (pte : Pte) (s : State) (events outcome : List Event) : Prop where
  | finished (state : s.stateQ = .latency) (same : events = outcome)
  | pageFault (state : s.stateQ = .propagateError) (same : events ++ [.pageFault] = outcome)
  | accessFault (state : s.stateQ = .propagateAccessError)
      (same : events ++ [.accessFault] = outcome)
  | pointer (state : s.stateQ = .waitGrant) (none : events = []) (same : further pte = outcome)
      (above : 0 < level) (lvl : s.ptwLvlQ + (level - 1) = cfg.lastLevel)
      (address : s.ptwPptrQ = w.entryAddress cfg pte.ppn (level - 1))
      (globalQ : s.globalMappingQ = (global || pte.g))

omit plain in
theorem comb_of_lookup (state : s.stateQ = .pteLookup) (calm : i.flush = false) :
    comb cfg s i = pteLookup cfg s i := by
  simp [comb, calm, unflushed, state]

omit plain in
theorem eventsOf_lookup (state : s.stateQ = .pteLookup) (calm : i.flush = false) :
    eventsOf cfg s i =
      if (pteLookup cfg s i).sharedTlbUpdateValid then [.install (sharedTlbUpdateO cfg s i)]
      else [] := by
  have silent := silent_pteLookup cfg s i
  simp only [Silent, Prod.mk.injEq] at silent
  rw [eventsOf, comb_of_lookup state calm, silent.1, silent.2.1]
  simp

omit plain in
theorem napot_eq (serves : Serves cfg w asid level ppn s)
    (narrow : cfg.isXlen64 = false → (pte cfg s).n = false) {c : Comb}
    (fresh : c.isNapot64k = false) :
    napot cfg s c =
      if Walk.badNapot cfg level (pte cfg s) then c.goto .propagateError
      else { c with isNapot64k := Walk.isNapot cfg level (pte cfg s) } := by
  have place := serves.ptwLvlQ
  have kept : { c with isNapot64k := false } = c := by rw [← fresh]
  by_cases marked : (cfg.svnapotEn && (pte cfg s).n) = true
  · rcases Bool.and_eq_true_iff.mp marked with ⟨enabled, n⟩
    have wide : cfg.isXlen64 = true := by
      rw [← Bool.not_eq_false]
      intro narrower
      rw [narrow narrower] at n
      contradiction
    have three : cfg.lastLevel = 2 := by simp [Cfg.lastLevel, Cfg.ptLevels, wide]
    have bottom : s.ptwLvlQ = 2 ↔ level = 0 := by omega
    have low : slice (pte cfg s).ppn 0 4 = (pte cfg s).ppn % 16 := by
      simp [slice]
    rw [napot, if_pos marked]
    simp only [Walk.badNapot, Walk.isNapot, enabled, n, bottom, low, Bool.true_and]
    cases size : (decide ((pte cfg s).ppn % 16 = 8) && decide (level = 0)) <;>
      simp [kept]
  · have other : (cfg.svnapotEn && (pte cfg s).n) = false := Bool.eq_false_iff.mpr marked
    rw [napot, if_neg marked]
    simp [Walk.badNapot, Walk.isNapot, other, kept]

theorem leaf_plain (serves : Serves cfg w asid level ppn s) (steady : Steady w i)
    (narrow : cfg.isXlen64 = false → (pte cfg s).n = false) {c : Comb}
    (fresh : c.isNapot64k = false) (none : c.sharedTlbUpdateValid = false) :
    (leaf cfg s i c).next.stateQ =
        (if (w.permits (pte cfg s) && Walk.isAligned cfg level (pte cfg s)) &&
          !Walk.badNapot cfg level (pte cfg s) then c.next.stateQ else .propagateError) ∧
      (leaf cfg s i c).sharedTlbUpdateValid =
        (w.permits (pte cfg s) && Walk.isAligned cfg level (pte cfg s)) ∧
      (leaf cfg s i c).isNapot64k = Walk.isNapot cfg level (pte cfg s) := by
  have same := denied_plain plain serves steady
  have alignment := misalignedPage_eq serves
  have small : Walk.badNapot cfg level (pte cfg s) = true →
      Walk.isNapot cfg level (pte cfg s) = false := by
    simp [Walk.badNapot]
  simp only [leaf, beyondGuest, plain, misaligned, alignment, permission, same, fail, lastStage,
    leafStage, napot_eq serves narrow fresh]
  cases permitted : w.permits (pte cfg s) <;>
    cases aligned : Walk.isAligned cfg level (pte cfg s) <;>
      cases bad : Walk.badNapot cfg level (pte cfg s) <;>
        simp_all [Comb.goto, Comb.setUpdate]

/-- What a pointer assigns; its A, D and U bits are not looked at. -/
theorem pointer_plain (c : Comb) :
    pointer cfg s i c =
      if s.ptwLvlQ = cfg.lastLevel then (c.setLvl s.ptwLvlQ).goto .propagateError
      else ((c.setLvl (s.ptwLvlQ + 1)).goto .waitGrant).setPptr
        (tableEntry cfg (pte cfg s).ppn (nextIndex cfg s.vaddrQ s.ptwLvlQ)) := by
  simp only [pointer, beyondGuest, nextTable, fail, plain, Bool.false_and, Bool.false_eq_true,
    if_false]

omit plain in
theorem ptwLvlQ_step : (step cfg s i).ptwLvlQ = (comb cfg s i).next.ptwLvlQ := by
  simp only [step, hypRegisters]
  split <;> rfl

omit plain in
theorem ptwPptrQ_step : (step cfg s i).ptwPptrQ = (comb cfg s i).next.ptwPptrQ := by
  simp only [step, hypRegisters]
  split <;> rfl

omit plain in
theorem globalMappingQ_step :
    (step cfg s i).globalMappingQ = (comb cfg s i).next.globalMappingQ := by
  simp only [step, hypRegisters]
  split <;> rfl

theorem lookup_leads (serves : Serves cfg w asid level ppn s) (steady : Steady w i)
    (state : s.stateQ = .pteLookup) (arrived : s.dataRvalidQ = true) (calm : i.flush = false)
    (entry : pte cfg s = w.entryAt s.ptwPptrQ)
    (narrow : cfg.isXlen64 = false → (pte cfg s).n = false) (further : Pte → List Event)
    (last : level = 0 → further (pte cfg s) = [.pageFault]) :
    Leads cfg w level s.globalMappingQ further (pte cfg s) (step cfg s i) (eventsOf cfg s i)
      (w.look cfg asid level ppn s.globalMappingQ further) := by
  have stateQ : (step cfg s i).stateQ = (pteLookup cfg s i).next.stateQ := by
    rw [stateQ_step_of_calm calm, unflushed, state]
  have rejected : invalid cfg s = Walk.isInvalid cfg (pte cfg s) := rfl
  simp only [Walk.look]
  rw [← serves.ptwPptrQ, ← entry, ← steady.allowAccess, eventsOf_lookup state calm]
  cases allowed : i.allowAccess s.ptwPptrQ with
  | false =>
      apply Leads.accessFault
      · simp [stateQ, pteLookup, arrived, pmpCheck, allowed, plain, Comb.goto]
      · simp [pteLookup, arrived, pmpCheck, allowed, plain, Comb.goto, Comb.setUpdate,
          Comb.setPptr]
  | true =>
      cases bad : Walk.isInvalid cfg (pte cfg s) with
      | true =>
          apply Leads.pageFault
          · simp [stateQ, pteLookup, arrived, pmpCheck, allowed, rejected, bad, Comb.goto]
          · simp [pteLookup, arrived, pmpCheck, allowed, rejected, bad, Comb.goto, looking,
              defaults]
      | false =>
          cases isLeaf : (pte cfg s).isLeaf with
          | true =>
              have lookup : pteLookup cfg s i = leaf cfg s i ((looking cfg s).goto .latency) := by
                simp [pteLookup, arrived, pmpCheck, allowed, rejected, bad, isLeaf]
              obtain ⟨next, valid, napot⟩ := leaf_plain plain serves steady narrow
                (show ((looking cfg s).goto .latency).isNapot64k = false from rfl) rfl
              have page (updates : (pteLookup cfg s i).sharedTlbUpdateValid = true) :
                  sharedTlbUpdateO cfg s i = w.installed cfg asid level (pte cfg s)
                    (s.globalMappingQ || (pte cfg s).g) := by
                apply sharedTlbUpdateO_plain plain serves
                · rwa [comb_of_lookup state calm]
                · rw [comb_of_lookup state calm, lookup, napot]
              rw [← lookup] at next valid
              cases granted : (w.permits (pte cfg s) && Walk.isAligned cfg level (pte cfg s)) with
              | false =>
                  apply Leads.pageFault
                  · simp [stateQ, next, granted]
                  · simp [valid, granted]
              | true =>
                  rw [granted] at valid
                  cases reserved : Walk.badNapot cfg level (pte cfg s) with
                  | true =>
                      apply Leads.pageFault
                      · simp [stateQ, next, granted, reserved]
                      · simp [valid, page valid]
                  | false =>
                      apply Leads.finished
                      · simp [stateQ, next, granted, reserved, Comb.goto]
                      · simp [valid, page valid]
          | false =>
              have lookup : pteLookup cfg s i =
                  pointer cfg s i ((looking cfg s).goto .latency) := by
                simp [pteLookup, arrived, pmpCheck, allowed, rejected, bad, isLeaf]
              rw [pointer_plain plain] at lookup
              have place := serves.ptwLvlQ
              rcases Nat.eq_zero_or_pos level with bottom | above
              · have reached : s.ptwLvlQ = cfg.lastLevel := by omega
                rw [if_pos reached] at lookup
                apply Leads.pageFault
                · rw [stateQ, lookup]
                  rfl
                · rw [lookup]
                  simp [last bottom, Comb.goto, Comb.setLvl, looking, defaults]
              · have deeper : s.ptwLvlQ ≠ cfg.lastLevel := by omega
                have below : s.ptwLvlQ + (level - 1 + 1) = cfg.lastLevel := by omega
                rw [if_neg deeper] at lookup
                apply Leads.pointer
                · rw [stateQ, lookup]
                  rfl
                · rw [lookup]
                  simp [Comb.goto, Comb.setLvl, Comb.setPptr, looking, defaults]
                · simp
                · exact above
                · rw [ptwLvlQ_step, comb_of_lookup state calm, lookup]
                  simp only [Comb.goto, Comb.setLvl, Comb.setPptr]
                  omega
                · rw [ptwPptrQ_step, comb_of_lookup state calm, lookup]
                  simp only [Comb.setPptr]
                  rw [tableEntry_eq, serves.vaddrQ, nextIndex_eq cfg w below, Walk.entryAddress]
                · rw [globalMappingQ_step, comb_of_lookup state calm, lookup]
                  simp [Comb.goto, Comb.setLvl, Comb.setPptr, looking, plain]

end Plain

section Cycles

variable {cfg : Cfg} {s : State} {i : Input}

/-- A flush changes the state and the pending kill only. -/
theorem access_comb : access (comb cfg s i).next = access (unflushed cfg s i).next := by
  rw [comb]
  split
  · simp only [flushed]
    split_ifs <;> rfl
  · rfl

theorem access_step (busy : s.stateQ ≠ .idle) : access (step cfg s i) = access s := by
  have latched : access (step cfg s i) = access (comb cfg s i).next := by
    simp only [step, hypRegisters]
    split <;> rfl
  rw [latched, access_comb, unflushed]
  cases state : s.stateQ with
  | idle => exact absurd state busy
  | waitGrant =>
      simp only [waitGrant]
      split <;> rfl
  | pteLookup =>
      have silent := silent_pteLookup cfg s i
      simp only [Silent, Prod.mk.injEq] at silent
      exact silent.2.2
  | waitRvalid =>
      simp only [waitRvalid]
      split <;> rfl
  | propagateError => rfl
  | propagateAccessError => rfl
  | killReq => rfl
  | latency => rfl

theorem outputs_comb : (comb cfg s i).sharedTlbUpdateValid =
      (unflushed cfg s i).sharedTlbUpdateValid ∧
    (comb cfg s i).ptwError = (unflushed cfg s i).ptwError ∧
      (comb cfg s i).ptwAccessException = (unflushed cfg s i).ptwAccessException := by
  rw [comb]
  split
  · simp only [flushed]
    split_ifs <;> exact ⟨rfl, rfl, rfl⟩
  · exact ⟨rfl, rfl, rfl⟩

theorem eventsOf_of_other (looks : s.stateQ = .pteLookup → s.dataRvalidQ = false) :
    eventsOf cfg s i =
      if s.stateQ = .propagateError then [.pageFault]
      else if s.stateQ = .propagateAccessError then [.accessFault] else [] := by
  rcases @outputs_comb cfg s i with ⟨updates, error, exception⟩
  rw [eventsOf, updates, error, exception, unflushed]
  cases state : s.stateQ with
  | idle =>
      simp only [idle]
      split <;> rfl
  | waitGrant =>
      simp only [waitGrant]
      split <;> rfl
  | pteLookup => simp [pteLookup, looks state, defaults]
  | waitRvalid =>
      simp only [waitRvalid]
      split <;> rfl
  | propagateError => rfl
  | propagateAccessError => rfl
  | killReq => rfl
  | latency => rfl

theorem globalMappingQ_of_waits
    (waits : s.stateQ = .waitGrant ∨ s.stateQ = .pteLookup ∧ s.dataRvalidQ = false) :
    (step cfg s i).globalMappingQ = s.globalMappingQ := by
  have kept : (comb cfg s i).next.globalMappingQ = (unflushed cfg s i).next.globalMappingQ := by
    rw [comb]
    split
    · simp only [flushed]
      split_ifs <;> rfl
    · rfl
  rw [globalMappingQ_step, kept, unflushed]
  rcases waits with state | ⟨state, waits⟩
  · simp only [state, waitGrant]
    split <;> rfl
  · simp [state, pteLookup, waits, defaults]

end Cycles

/-! ## Observed walks -/

/-- A cycle with the memory that the data cache reads. -/
structure Cycle where
  input : Input
  memory : Nat → Nat

namespace Cycle

variable (cfg : Cfg) (cycle : Cycle)

/-- The walk that starts in a cycle. -/
def walk : Walk where
  vaddr := cycle.input.sharedTlbVaddr
  root := cycle.input.satpPpn
  isFetch := cycle.input.itlbReq
  isStore := cycle.input.lsuIsStore
  mxr := cycle.input.mxr
  allowAccess := cycle.input.allowAccess
  entryAt := fun address =>
    Pte.ofWord cfg (endianData cfg cycle.input.mbe (cycle.memory address))

/-- The address space of the access. -/
def asid : Nat :=
  if cycle.input.itlbReq then if cycle.input.v then cycle.input.vsAsid else cycle.input.asid
  else if cycle.input.ldStV then cycle.input.vsAsid else cycle.input.asid

/-- What the algorithm asks for. -/
def asked : List Event :=
  ((cycle.walk cfg).outcome cfg).events cfg (cycle.walk cfg) cycle.asid

/-- The tables, as far as the walk reads them, conform. -/
def Conforms : Prop := (cycle.walk cfg).Conforms cfg cfg.lastLevel cycle.input.satpPpn

/-- Nothing that a walk depends on has changed since it started. -/
structure Unchanged (start : Cycle) : Prop where
  memory : cycle.memory = start.memory
  mbe : cycle.input.mbe = start.input.mbe
  allowAccess : cycle.input.allowAccess = start.input.allowAccess
  lsuIsStore : start.input.itlbReq = false → cycle.input.lsuIsStore = start.input.lsuIsStore
  mxr : start.input.itlbReq = false → cycle.input.mxr = start.input.mxr

end Cycle

/-- The cycle in which the last walk started, and the events since then. -/
structure Observed where
  start : Cycle
  events : List Event

def observe (cfg : Cfg) (c : State × History) (cycle : Cycle) (o : Observed) : Observed :=
  if starts cfg c.1 cycle.input then ⟨cycle, []⟩
  else { o with events := o.events ++ eventsOf cfg c.1 cycle.input }

/-- The walker with the events of its last walk. -/
def observing (cfg : Cfg) (start : Cycle) : Machine ((State × History) × Observed) Cycle :=
  ((walking cfg).onInputs Cycle.input).withHistory ⟨start, []⟩ (observe cfg)

/-- The data cache answers with what is in memory; without the hypervisor extension there are
no loads by its instructions. -/
structure Environment (c : (State × History) × Observed) (cycle : Cycle) : Prop where
  regular : Regular c.1 cycle.input
  data : cycle.input.dataRvalid = true → ∀ request ∈ c.1.2.outstanding.head?,
    cycle.input.dataRdata = cycle.memory request.place.2.2.2
  unchanged : c.1.1.stateQ ≠ .idle → cycle.Unchanged c.2.start
  hlvxInst : cycle.input.hlvxInst = false

/-- What the walker does in the tables of a walk. -/
def Cycle.done (cfg : Cfg) (cycle : Cycle) : List Event :=
  (cycle.walk cfg).behaves cfg cycle.asid cfg.lastLevel cycle.input.satpPpn false

/-- The walker waits or looks at the table of some level; what is still to come from there is
all of the walk. -/
structure Underway (cfg : Cfg) (s : State) (o : Observed) : Prop where
  none : o.events = []
  stands : ∃ level ppn, Serves cfg (o.start.walk cfg) o.start.asid level ppn s ∧
    (o.start.walk cfg).behaves cfg o.start.asid level ppn s.globalMappingQ = o.start.done cfg
  entry : s.stateQ = .pteLookup → s.dataRvalidQ = true →
    pte cfg s = (o.start.walk cfg).entryAt s.ptwPptrQ

/-- What is seen of the last walk, and what is to come. -/
def Follows (cfg : Cfg) (s : State) (o : Observed) : Prop :=
  match s.stateQ with
  | .idle | .latency => o.events = o.start.done cfg
  | .propagateError => o.events ++ [.pageFault] = o.start.done cfg
  | .propagateAccessError => o.events ++ [.accessFault] = o.start.done cfg
  | .waitGrant | .pteLookup => Underway cfg s o
  | .killReq | .waitRvalid => False

section Walked

variable {cfg : Cfg} {s : State} {h : History} {o : Observed} {cycle : Cycle}

theorem n_of_narrow (narrow : cfg.isXlen64 = false) (mbe : Bool) (word : Nat) :
    (Pte.ofWord cfg (endianData cfg mbe word)).n = false := by
  have small : endianData cfg mbe word < 2 ^ 32 := by
    have bytes : cfg.xlen / 8 = 4 := by simp [Cfg.xlen, narrow]
    have width : cfg.xlen = 32 := by simp [Cfg.xlen, narrow]
    rw [endianData, bytes, width]
    split
    · have byte (low : Nat) : slice word low 8 < 256 := Nat.mod_lt _ (by decide)
      have b0 := byte (8 * 0)
      have b1 := byte (8 * 1)
      have b2 := byte (8 * 2)
      have b3 := byte (8 * 3)
      simp only [byteSwapped, List.range, List.range.loop, List.foldl, join]
      omega
    · exact Nat.mod_lt _ (by decide)
  have bit : 10 + cfg.ppnw + 9 = 41 := by simp [Cfg.ppnw, narrow]
  rw [Pte.ofWord, bit]
  exact Nat.testBit_lt_two_pow (small.trans (by decide))

theorem idle_of_starts (starting : starts cfg s cycle.input = true) :
    s.stateQ = .idle ∧ cycle.input.flush = false ∧ missed cfg cycle.input = true ∧
      (step cfg s cycle.input).stateQ = .waitGrant := by
  simp only [starts, Bool.and_eq_true, decide_eq_true_eq] at starting
  rcases starting with ⟨state, next⟩
  have result := step_of_idle cfg cycle.input state
  rw [next] at result
  refine ⟨state, ?_, ?_, next⟩
  · cases flush : cycle.input.flush with
    | true => simp [flush] at result
    | false => rfl
  · cases missed : missed cfg cycle.input with
    | true => rfl
    | false => cases flush : cycle.input.flush <;> simp [missed, flush] at result

/-- A walk starts at its root table. -/
theorem underway_of_starts (plain : cfg.rvh = false)
    (starting : starts cfg s cycle.input = true) :
    Underway cfg (step cfg s cycle.input) ⟨cycle, []⟩ := by
  rcases idle_of_starts starting with ⟨state, calm, missing, next⟩
  have comb_eq : comb cfg s cycle.input = idle cfg s cycle.input := by
    simp [comb, calm, unflushed, state]
  refine ⟨rfl, ⟨cfg.lastLevel, cycle.input.satpPpn, ⟨?_, ?_, ?_, ?_, ?_⟩, ?_⟩, ?_⟩
  · simp [step, hypRegisters, comb_eq, idle, missing, plain, Cycle.walk]
  · simp [step, hypRegisters, comb_eq, idle, missing, plain, Cycle.asid]
  · simp [step, hypRegisters, comb_eq, idle, missing, plain, Cycle.walk]
  · simp [step, hypRegisters, comb_eq, idle, missing, plain, startWalk, nested, onlyStage2]
  · have root := rootIndex_eq cfg (cycle.walk cfg)
    rw [Walk.entryAddress, ← root, ← tableEntry_eq]
    simp [step, hypRegisters, comb_eq, idle, missing, plain, startWalk, nested, onlyStage2,
      Cycle.walk]
  · have global : (step cfg s cycle.input).globalMappingQ = false := by
      simp [step, hypRegisters, comb_eq, idle, missing, plain, startWalk, nested, onlyStage2]
    rw [global]
    rfl
  · intro looks
    rw [next] at looks
    contradiction

theorem Serves.of_kept {w : Walk} {asid level ppn : Nat} {next : State}
    (serves : Serves cfg w asid level ppn s) (same : access next = access s)
    (kept : place next = place s) : Serves cfg w asid level ppn next := by
  simp only [access, Prod.mk.injEq] at same
  simp only [place, Prod.mk.injEq] at kept
  rcases same with ⟨vaddr, asid, fetch⟩
  rcases kept with ⟨_, lvl, _, address⟩
  exact ⟨vaddr.trans serves.vaddrQ, asid.trans serves.asidQ, fetch.trans serves.isInstrPtwQ,
    lvl ▸ serves.ptwLvlQ, address.trans serves.ptwPptrQ⟩

theorem Underway.waits (underway : Underway cfg s o)
    (waits : s.stateQ = .waitGrant ∨ s.stateQ = .pteLookup ∧ s.dataRvalidQ = false)
    (entry : (step cfg s cycle.input).stateQ = .pteLookup → cycle.input.dataRvalid = true →
      pte cfg (step cfg s cycle.input) = (o.start.walk cfg).entryAt s.ptwPptrQ) :
    Underway cfg (step cfg s cycle.input)
      { o with events := o.events ++ eventsOf cfg s cycle.input } := by
  have busy : s.stateQ ≠ .idle := by
    rcases waits with state | ⟨state, _⟩ <;> simp [state]
  have kept : place (step cfg s cycle.input) = place s := by
    rcases waits with state | ⟨state, waits⟩
    · exact (step_of_waitGrant cfg cycle.input state).2
    · exact (step_of_pteLookup cfg cycle.input state waits).2
  have same : access (step cfg s cycle.input) = access s := access_step busy
  have global : (step cfg s cycle.input).globalMappingQ = s.globalMappingQ :=
    globalMappingQ_of_waits waits
  have quiet : eventsOf cfg s cycle.input = [] := by
    rw [eventsOf_of_other]
    · rcases waits with state | ⟨state, _⟩ <;> simp [state]
    · intro looks
      rcases waits with state | ⟨_, waits⟩
      · rw [looks] at state
        contradiction
      · exact waits
  have address : (step cfg s cycle.input).ptwPptrQ = s.ptwPptrQ := by
    simp only [place, Prod.mk.injEq] at kept
    exact kept.2.2.2
  rcases underway.stands with ⟨level, ppn, serves, rest⟩
  refine ⟨?_, ⟨level, ppn, serves.of_kept same kept, ?_⟩, ?_⟩
  · rw [quiet, List.append_nil]
    exact underway.none
  · rw [global]
    exact rest
  · intro looks arrived
    rw [address]
    exact entry looks arrived

theorem follows_of_waitGrant (walking : Walking cfg s h) (regular : Regular (s, h) cycle.input)
    (state : s.stateQ = .waitGrant) (calm : cycle.input.flush = false)
    (alive : h.aborted = false) (underway : Underway cfg s o) :
    Follows cfg (step cfg s cycle.input)
      { o with events := o.events ++ eventsOf cfg s cycle.input } := by
  rcases step_of_waitGrant cfg cycle.input state with ⟨next, _⟩
  have kill : s.killReqQ = false := by
    rw [Bool.eq_false_iff]
    intro pending
    rw [walking.aborts.killing (Or.inr pending)] at alive
    contradiction
  rw [kill, calm] at next
  cases grant : cycle.input.dataGnt with
  | false =>
      rw [grant] at next
      simp only [Follows, next]
      refine underway.waits (Or.inl state) fun looks => ?_
      rw [next] at looks
      contradiction
  | true =>
      rw [grant] at next
      have expected := expected_step walking regular
      simp only [Expected, next] at expected
      have response : cycle.input.dataRvalid = false := by
        rcases expected.2 with ⟨quiet, _⟩ | ⟨_, none, _⟩
        · exact quiet
        · simp [record, granted, state, grant] at none
      simp only [Follows, next]
      refine underway.waits (Or.inl state) fun _ arrived => ?_
      rw [response] at arrived
      contradiction

theorem follows_of_waits (walking : Walking cfg s h)
    (data : cycle.input.dataRvalid = true → ∀ request ∈ h.outstanding.head?,
      cycle.input.dataRdata = cycle.memory request.place.2.2.2)
    (unchanged : cycle.Unchanged o.start) (state : s.stateQ = .pteLookup)
    (waits : s.dataRvalidQ = false) (calm : cycle.input.flush = false)
    (underway : Underway cfg s o) :
    Follows cfg (step cfg s cycle.input)
      { o with events := o.events ++ eventsOf cfg s cycle.input } := by
  rcases step_of_pteLookup cfg cycle.input state waits with ⟨next, _⟩
  rw [calm] at next
  have sole : h.outstanding = [current s h] := by
    have expected := walking.expected
    simp only [Expected, state] at expected
    rcases expected.2 with ⟨_, sole⟩ | ⟨arrived, _⟩
    · exact sole
    · rw [waits] at arrived
      contradiction
  simp only [Follows, next]
  refine underway.waits (Or.inr ⟨state, waits⟩) fun _ response => ?_
  have word := data response (current s h) (by rw [sole]; rfl)
  have register : (step cfg s cycle.input).dataRdataQ =
      endianData cfg cycle.input.mbe cycle.input.dataRdata := rfl
  rw [pte, register, word, unchanged.mbe, unchanged.memory]
  rfl

theorem steady_of_unchanged (unchanged : cycle.Unchanged o.start)
    (hlvxInst : cycle.input.hlvxInst = false) : Steady (o.start.walk cfg) cycle.input where
  allowAccess := unchanged.allowAccess
  lsuIsStore := unchanged.lsuIsStore
  mxr := unchanged.mxr
  hlvxInst := hlvxInst

/-- A walker that looks at an entry. -/
theorem follows_of_arrived (plain : cfg.rvh = false) (unchanged : cycle.Unchanged o.start)
    (hlvxInst : cycle.input.hlvxInst = false) (state : s.stateQ = .pteLookup)
    (arrived : s.dataRvalidQ = true) (calm : cycle.input.flush = false)
    (underway : Underway cfg s o) :
    Follows cfg (step cfg s cycle.input)
      { o with events := o.events ++ eventsOf cfg s cycle.input } := by
  have steady : Steady (o.start.walk cfg) cycle.input := steady_of_unchanged unchanged hlvxInst
  have entry := underway.entry state arrived
  have narrow (small : cfg.isXlen64 = false) : (pte cfg s).n = false := by
    rw [entry]
    exact n_of_narrow small _ _
  have same : access (step cfg s cycle.input) = access s := access_step (by simp [state])
  simp only [access, Prod.mk.injEq] at same
  rw [underway.none, List.nil_append]
  rcases underway.stands with ⟨level, ppn, serves, rest⟩
  cases level with
  | zero =>
      rw [Walk.behaves] at rest
      have leads := lookup_leads plain serves steady state arrived calm entry narrow
        (fun _ => [.pageFault]) fun _ => rfl
      rw [rest] at leads
      cases leads with
      | finished next same => simpa only [Follows, next] using same
      | pageFault next same => simpa only [Follows, next] using same
      | accessFault next same => simpa only [Follows, next] using same
      | pointer _ _ _ above => exact absurd above (Nat.lt_irrefl 0)
  | succ level =>
      rw [Walk.behaves] at rest
      have leads := lookup_leads plain serves steady state arrived calm entry narrow
        (fun pte => (o.start.walk cfg).behaves cfg o.start.asid level pte.ppn
          (s.globalMappingQ || pte.g)) fun bottom => absurd bottom (Nat.succ_ne_zero level)
      rw [rest] at leads
      cases leads with
      | finished next same => simpa only [Follows, next] using same
      | pageFault next same => simpa only [Follows, next] using same
      | accessFault next same => simpa only [Follows, next] using same
      | pointer next none rest _ lvl address global =>
          simp only [Follows, next]
          refine ⟨none, ⟨level, (pte cfg s).ppn, ?_, ?_⟩, ?_⟩
          · exact ⟨same.1.trans serves.vaddrQ, same.2.1.trans serves.asidQ,
              same.2.2.trans serves.isInstrPtwQ, lvl, address⟩
          · rw [global]
            exact rest
          · intro looks
            rw [next] at looks
            contradiction

theorem follows_step (plain : cfg.rvh = false) (walking : Walking cfg s h)
    (environment : Environment ((s, h), o) cycle)
    (follows : 0 < h.walks → h.aborted = false → Follows cfg s o) :
    0 < (record cfg s cycle.input h).walks → (record cfg s cycle.input h).aborted = false →
      Follows cfg (step cfg s cycle.input) (observe cfg (s, h) cycle o) := by
  intro some alive
  cases starting : starts cfg s cycle.input with
  | true =>
      rcases idle_of_starts starting with ⟨_, _, _, next⟩
      simp only [observe, starting, if_true, Follows, next]
      exact underway_of_starts plain starting
  | false =>
      simp only [record, starting, Bool.false_eq_true, if_false, Bool.or_eq_false_iff] at some alive
      have follows := follows some alive.1
      have calm := alive.2
      have quiet (other : s.stateQ ≠ .pteLookup) := @eventsOf_of_other cfg s cycle.input
        fun looks => absurd looks other
      simp only [observe, starting, Bool.false_eq_true, if_false]
      unfold Follows at follows
      cases state : s.stateQ with
      | idle =>
          rw [state] at follows
          have next := step_of_idle cfg cycle.input state
          have rests : (step cfg s cycle.input).stateQ = .idle := by
            cases missing : missed cfg cycle.input with
            | true => simp [starts, state, next, calm, missing] at starting
            | false => simp [next, calm, missing]
          rw [quiet (by simp [state]), state]
          simpa [Follows, rests] using follows
      | waitGrant =>
          rw [state] at follows
          exact follows_of_waitGrant walking environment.regular state calm alive.1 follows
      | pteLookup =>
          rw [state] at follows
          have unchanged : cycle.Unchanged o.start := environment.unchanged (by simp [state])
          cases arrived : s.dataRvalidQ with
          | true =>
              exact follows_of_arrived plain unchanged environment.hlvxInst state arrived calm
                follows
          | false =>
              exact follows_of_waits walking environment.data unchanged state arrived calm follows
      | waitRvalid =>
          rw [state] at follows
          exact follows.elim
      | killReq =>
          rw [state] at follows
          exact follows.elim
      | propagateError =>
          rw [state] at follows
          have next := step_of_error cfg cycle.input (Or.inl state)
          rw [quiet (by simp [state]), state]
          simpa [Follows, next] using follows
      | propagateAccessError =>
          rw [state] at follows
          have next := step_of_error cfg cycle.input (Or.inr state)
          rw [quiet (by simp [state]), state]
          simpa [Follows, next] using follows
      | latency =>
          rw [state] at follows
          have next := step_of_latency cfg cycle.input state
          rw [calm] at next
          rw [quiet (by simp [state]), state]
          simpa [Follows, next] using follows

end Walked

/-! ## Runs -/

section Runs

variable {cfg : Cfg} {start : Cycle}

/-- What holds in every cycle of an observed run. -/
structure Walked (cfg : Cfg) (c : (State × History) × Observed) : Prop where
  walking : Walking cfg c.1.1 c.1.2
  follows : 0 < c.1.2.walks → c.1.2.aborted = false → Follows cfg c.1.1 c.2

theorem walked_run (plain : cfg.rvh = false) {cycles : List Cycle}
    (environment : (observing cfg start).RunAlong Environment cycles) :
    Walked cfg ((observing cfg start).run cycles) := by
  refine (observing cfg start).run_invariant_along (Walked cfg)
    ⟨walking_reset cfg, fun some => absurd some (Nat.lt_irrefl 0)⟩ ?_ environment
  rintro ⟨⟨s, h⟩, o⟩ cycle walked environment
  exact ⟨walking_step walked.walking environment.regular,
    follows_step plain walked.walking environment walked.follows⟩

theorem observing_after (cycles : Nat → Cycle) (n : Nat) :
    ((observing cfg start).after cycles n).1 =
      (walking cfg).after (fun n => (cycles n).input) n := by
  induction n with
  | zero => rfl
  | succ n inductionHypothesis =>
      change (walking cfg).step ((observing cfg start).after cycles n).1 (cycles n).input = _
      rw [inductionHypothesis]
      rfl

/-- Without the hypervisor extension every walk ends, and what an unflushed walk has done in
the end is what the algorithm asks for, exactly in the tables that conform. -/
theorem walks_follow_algorithm (plain : cfg.rvh = false) (start : Cycle) :
    (∀ cycles : List Cycle, (observing cfg start).RunAlong Environment cycles →
      ((observing cfg start).run cycles).1.1.stateQ = .idle →
        0 < ((observing cfg start).run cycles).1.2.walks →
          ((observing cfg start).run cycles).1.2.aborted = false →
            (((observing cfg start).run cycles).2.events =
                ((observing cfg start).run cycles).2.start.asked cfg ↔
              ((observing cfg start).run cycles).2.start.Conforms cfg)) ∧
      ∀ cycles : Nat → Cycle,
        (∀ n, Environment ((observing cfg start).after cycles n) (cycles n)) →
          Fair cfg (fun n => (cycles n).input) →
            ∀ n, ∃ m, n ≤ m ∧ ((observing cfg start).after cycles m).1.1.stateQ = .idle := by
  constructor
  · intro cycles environment state some alive
    have follows := (walked_run plain environment).follows some alive
    simp only [Follows, state] at follows
    rw [follows]
    exact Walk.behaves_eq_iff
  · intro cycles environment fair n
    have regular (n : Nat) : Regular ((walking cfg).after (fun n => (cycles n).input) n)
        (cycles n).input := by
      have same : ((observing cfg start).after cycles n).1 =
          (walking cfg).after (fun n => (cycles n).input) n := observing_after cycles n
      exact same ▸ (environment n).regular
    rcases returns_idle regular fair n with ⟨m, later, idle⟩
    exact ⟨m, later, by rwa [observing_after]⟩

end Runs

section Tests

/-- Every cycle has the memory and the settings of one of them. -/
structure Settled (base cycle : Cycle) : Prop where
  memory : cycle.memory = base.memory
  mbe : cycle.input.mbe = base.input.mbe
  allowAccess : cycle.input.allowAccess = base.input.allowAccess
  lsuIsStore : cycle.input.lsuIsStore = base.input.lsuIsStore
  mxr : cycle.input.mxr = base.input.mxr
  hlvxInst : cycle.input.hlvxInst = false

theorem settled_start {cfg : Cfg} {base : Cycle}
    {c : (State × History) × Observed} {cycle : Cycle} (settled : Settled base c.2.start)
    (now : Settled base cycle) : Settled base ((observing cfg base).step c cycle).2.start := by
  change Settled base (observe cfg c.1 cycle c.2).start
  rw [observe]
  split
  · exact now
  · exact settled

theorem environment_of_settled {base : Cycle} {c : (State × History) × Observed} {cycle : Cycle}
    (settled : Settled base c.2.start) (now : Settled base cycle)
    (regular : Regular c.1 cycle.input)
    (data : cycle.input.dataRvalid = true → ∀ request ∈ c.1.2.outstanding.head?,
      cycle.input.dataRdata = cycle.memory request.place.2.2.2) : Environment c cycle where
  regular := regular
  data := data
  unchanged _ :=
    { memory := now.memory.trans settled.memory.symm
      mbe := now.mbe.trans settled.mbe.symm
      allowAccess := now.allowAccess.trans settled.allowAccess.symm
      lsuIsStore := fun _ => now.lsuIsStore.trans settled.lsuIsStore.symm
      mxr := fun _ => now.mxr.trans settled.mxr.symm }
  hlvxInst := now.hlvxInst

/-- What of the environment is checked cycle by cycle. -/
def Answered (c : (State × History) × Observed) (cycle : Cycle) : Prop :=
  Regular c.1 cycle.input ∧ (cycle.input.dataRvalid = true →
    ∀ request ∈ c.1.2.outstanding.head?,
      cycle.input.dataRdata = cycle.memory request.place.2.2.2)

instance (c : (State × History) × Observed) (cycle : Cycle) : Decidable (Answered c cycle) :=
  inferInstanceAs (Decidable (_ ∧ _))

theorem runAlong_of_settled {cfg : Cfg} {base : Cycle} (itself : Settled base base)
    {cycles : List Cycle} (settled : ∀ cycle ∈ cycles, Settled base cycle)
    (answered : (observing cfg base).RunAlong Answered cycles) :
    (observing cfg base).RunAlong Environment cycles := by
  suffices along : ∀ c : (State × History) × Observed, Settled base c.2.start →
      (observing cfg base).Along Answered c cycles →
        (observing cfg base).Along Environment c cycles from
    along _ itself answered
  clear answered
  induction cycles with
  | nil => exact fun _ _ _ => trivial
  | cons cycle cycles inductionHypothesis =>
      intro c begun answered
      have now := settled cycle List.mem_cons_self
      refine ⟨environment_of_settled begun now answered.1.1 answered.1.2, ?_⟩
      exact inductionHypothesis (fun cycle member => settled cycle (List.mem_cons_of_mem _ member))
        _ (settled_start begun now) answered.2

/-- A memory of one word, which stands everywhere. -/
def oneWord (word : Nat) (input : Input) : Cycle :=
  ⟨{ input with dataRdata := word }, fun _ => word⟩

/-- A walk of one entry. -/
def oneEntry (word : Nat) : List Cycle :=
  [{ Input.quiet with sharedTlbAccess := true }, { Input.quiet with dataGnt := true },
    { Input.quiet with dataRvalid := true }, Input.quiet, Input.quiet, Input.quiet].map
      (oneWord word)

/-- Sv39 with Svnapot. -/
def svnapot : Cfg := ⟨true, 64, false, true⟩

/-- An aligned leaf of the root table with A, R, V and N set. -/
def nLeaf : Nat := 2 ^ 63 + 2 ^ 6 + 2 ^ 1 + 2 ^ 0

theorem settled_oneWord (word : Nat) {input : Input} (mbe : input.mbe = false)
    (allowAccess : input.allowAccess = fun _ => true) (lsuIsStore : input.lsuIsStore = false)
    (mxr : input.mxr = false) (hlvxInst : input.hlvxInst = false) :
    Settled (oneWord word Input.quiet) (oneWord word input) :=
  ⟨rfl, mbe, allowAccess, lsuIsStore, mxr, hlvxInst⟩

theorem settled_oneEntry (word : Nat) :
    ∀ cycle ∈ oneEntry word, Settled (oneWord word Input.quiet) cycle := by
  intro cycle member
  simp only [oneEntry, List.map_cons, List.map_nil, List.mem_cons, List.not_mem_nil,
    or_false] at member
  rcases member with rfl | rfl | rfl | rfl | rfl | rfl <;>
    exact settled_oneWord word rfl rfl rfl rfl rfl

/-- The leaf with its N bit set is installed along with the error. -/
theorem installs_reserved_leaf :
    (observing svnapot (oneWord nLeaf Input.quiet)).RunAlong Environment (oneEntry nLeaf) ∧
      ((observing svnapot (oneWord nLeaf Input.quiet)).run (oneEntry nLeaf)).1.1.stateQ = .idle ∧
        ((observing svnapot (oneWord nLeaf Input.quiet)).run
            (oneEntry nLeaf)).1.2.aborted = false ∧
          ((observing svnapot (oneWord nLeaf Input.quiet)).run (oneEntry nLeaf)).2.events ≠
            ((observing svnapot (oneWord nLeaf Input.quiet)).run
              (oneEntry nLeaf)).2.start.asked svnapot := by
  refine ⟨?_, ?_, ?_, ?_⟩
  · exact runAlong_of_settled (settled_oneWord nLeaf rfl rfl rfl rfl rfl)
      (settled_oneEntry nLeaf) (by decide +kernel)
  · decide +kernel
  · decide +kernel
  · decide +kernel

/-- A leaf of the root table that permits loads. -/
def rLeaf : Nat := 2 ^ 6 + 2 ^ 1 + 2 ^ 0

/-- The walk of an invalid entry, endless. -/
def oneWalkCycles (n : Nat) : Cycle := ⟨oneWalk n, fun _ => 0⟩

theorem settled_oneWalk (n : Nat) : Settled ⟨Input.quiet, fun _ => 0⟩ (oneWalkCycles n) := by
  refine ⟨rfl, ?_, ?_, ?_, ?_, ?_⟩ <;>
    simp only [oneWalkCycles, oneWalk] <;> split <;> rfl

theorem oneWalk_environment (n : Nat) :
    Environment ((observing Cfg.sv39 ⟨Input.quiet, fun _ => 0⟩).after oneWalkCycles n)
      (oneWalkCycles n) := by
  have begun : Settled ⟨Input.quiet, fun _ => 0⟩
      ((observing Cfg.sv39 ⟨Input.quiet, fun _ => 0⟩).after oneWalkCycles n).2.start := by
    induction n with
    | zero => exact ⟨rfl, rfl, rfl, rfl, rfl, rfl⟩
    | succ n inductionHypothesis => exact settled_start inductionHypothesis (settled_oneWalk n)
  refine environment_of_settled begun (settled_oneWalk n) ?_ ?_
  · rw [observing_after]
    exact oneWalk_regular n
  · intro _ _ _
    simp only [oneWalkCycles, oneWalk]
    split <;> rfl

theorem walks_follow_algorithm_runs :
    (((observing Cfg.sv39 (oneWord rLeaf Input.quiet)).run (oneEntry rLeaf)).2.events =
        ((observing Cfg.sv39 (oneWord rLeaf Input.quiet)).run (oneEntry rLeaf)).2.start.asked
          Cfg.sv39 ↔
      ((observing Cfg.sv39 (oneWord rLeaf Input.quiet)).run
        (oneEntry rLeaf)).2.start.Conforms Cfg.sv39) ∧
      ∀ n, ∃ m, n ≤ m ∧ ((observing Cfg.sv39 ⟨Input.quiet, fun _ => 0⟩).after
        oneWalkCycles m).1.1.stateQ = .idle :=
  ⟨(walks_follow_algorithm rfl (oneWord rLeaf Input.quiet)).1 (oneEntry rLeaf)
      (runAlong_of_settled (settled_oneWord rLeaf rfl rfl rfl rfl rfl) (settled_oneEntry rLeaf)
        (by decide +kernel))
      (by decide +kernel) (by decide +kernel) (by decide +kernel),
    (walks_follow_algorithm rfl ⟨Input.quiet, fun _ => 0⟩).2 oneWalkCycles oneWalk_environment
      oneWalk_fair⟩

end Tests

end Ptw

end Cva6Hpd.Mmu
