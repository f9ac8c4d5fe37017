import Cva6Hpd.Mmu.Report

/-!
# The priority of the exceptions of an access

Both interfaces of `pmp_data_if`, behind the memory management unit or without one. A fault of the
translation comes with an address that means nothing. The interface of fetches keeps a page fault
where that address is refused, but not a guest page fault; the interface of loads and stores keeps
neither. The access fault of a walk is that of a load wherever there is a hypervisor, or two levels
of page tables.
-/

namespace Cva6Hpd.Mmu.Priority

open Cva6Hpd.Scoreboard (ExceptionT)
open Cva6Hpd.Mmu.Report (DataSettings State Input csrHsLdStInst mmuInput dataAllow dataInterface)
open Cva6Hpd.Mmu.Unit (AreqO LsuAnswer noException raised)

/-- The parameters beside those of the unit: the rules of executable regions are their bases and
lengths. -/
structure Params where
  mmuPresent : Bool
  nrPmpEntries : Nat
  executeRegionRules : List (Nat × Nat)

/-! ## The code -/

def rangeCheck (base len address : Nat) : Bool :=
  decide (base ≤ address) && decide (address < base + len)

/-- `is_inside_execute_regions`. -/
def Params.isInsideExecuteRegions (p : Params) (address : Nat) : Bool :=
  p.executeRegionRules.isEmpty ||
    p.executeRegionRules.any fun rule => rangeCheck rule.1 rule.2 address

section Code

variable {cfg : UnitCfg} (p : Params) (s : State cfg) (i : Input cfg.plen)

/-- `icache_areq_i`: without a memory management unit the address is not translated. -/
def icacheAreq : AreqO :=
  if p.mmuPresent then Unit.areqO cfg s.mmu (mmuInput s i)
  else ⟨i.rest.fetchReq, Unit.untranslated cfg i.rest.fetchVaddr, noException⟩

/-- `pmp_if_allow`. -/
def pmpIfAllow : Bool :=
  Pmp.allowO p.nrPmpEntries
    { addr := BitVec.ofNat cfg.plen (icacheAreq p s i).fetchPaddr
      accessType := .exec
      privLvl := i.rest.privLvl
      confAddr := i.confAddr
      conf := i.conf }

/-- No region is executable at the address, or the physical memory protection refuses it. -/
def fetchRefused : Bool :=
  !p.isInsideExecuteRegions (icacheAreq p s i).fetchPaddr || !pmpIfAllow p s i

/-- `icache_areq_o.fetch_exception`. -/
def instrInterface : ExceptionT :=
  let areq := icacheAreq p s i
  if areq.fetchValid && decide (areq.fetchException.cause ≠ Unit.instrPageFault)
      && fetchRefused p s i then
    raised cfg areq.fetchException Unit.instrAccessFault (i.rest.fetchVaddr % 2 ^ cfg.xlen) 0 0
      i.rest.v
  else areq.fetchException

/-- The settings of the cycle. -/
def settings : DataSettings := i.settings (csrHsLdStInst s i)

/-- `lsu_valid_i`, `lsu_paddr_i` and `lsu_exception_i`. -/
def lsuAnswer : LsuAnswer :=
  if p.mmuPresent then Unit.lsuAnswer cfg s.mmu (mmuInput s i)
  else ⟨s.mmu.lsuReqQ, Unit.untranslated cfg s.mmu.lsuVaddrQ, s.mmu.misalignedExQ⟩

/-- The physical memory protection refuses the address that is answered. -/
def dataRefused : Bool :=
  !dataAllow p.nrPmpEntries i (settings s i) i.access.pmpAccessType (lsuAnswer p s i).lsuPaddr

/-- `lsu_exception_o`. -/
def dataException : ExceptionT := dataInterface p.nrPmpEntries i (settings s i) (lsuAnswer p s i)

end Code

/-! ## The law -/

section Law

variable {cfg : UnitCfg} (p : Params) (s : State cfg) (i : Input cfg.plen)

/-- The access fault of a load, or of a store. -/
def accessFaultOf (isStore : Bool) : Nat :=
  if isStore then Unit.stAccessFault else Unit.ldAccessFault

/-- The page faults and guest page faults of loads and stores. -/
def pageFaults : List Nat :=
  [Unit.loadPageFault, Unit.storePageFault, Unit.loadGuestPageFault, Unit.storeGuestPageFault]

/-- The answer is that of a walk that was not allowed to read its tables. -/
def walkRefused : Bool :=
  p.mmuPresent && (Unit.lsuTranslated cfg (mmuInput s i) && !s.mmu.misalignedExQ.valid) &&
    !(s.mmu.dtlbHitQ && s.mmu.lsuReqQ) &&
    (decide (s.mmu.ptw.stateQ ≠ .idle) && !s.mmu.ptw.isInstrPtwQ) &&
    (Unit.walk cfg s.mmu (mmuInput s i)).ptwAccessException

/-- What the translation of a fetch raises. -/
def fetchFault : Option ExceptionT :=
  let areq := icacheAreq p s i
  if areq.fetchValid && areq.fetchException.valid then some areq.fetchException else none

/-- What the translation of a load or store raises: a page fault, or the access fault of the walk,
with the cause for the type of the access. -/
def dataFault : Option ExceptionT :=
  let answer := lsuAnswer p s i
  if walkRefused p s i then
    some { answer.lsuException with cause := accessFaultOf s.mmu.lsuIsStoreQ }
  else if answer.lsuValid && answer.lsuException.valid
      && pageFaults.contains answer.lsuException.cause then some answer.lsuException
  else none

/-- What is asked for of a fetch: a fault of the translation is reported as it is, and an address
that is refused without one is an access fault. -/
structure FetchReported : Prop where
  fault : ∀ fault ∈ fetchFault p s i, instrInterface p s i = fault
  refused : fetchFault p s i = none → (icacheAreq p s i).fetchValid = true →
    fetchRefused p s i = true →
      (instrInterface p s i).valid = true ∧ (instrInterface p s i).cause = Unit.instrAccessFault

/-- What is asked for of a load or store. -/
structure DataReported : Prop where
  fault : ∀ fault ∈ dataFault p s i, dataException p s i = fault
  refused : dataFault p s i = none → (lsuAnswer p s i).lsuValid = true →
    dataRefused p s i = true →
      (dataException p s i).valid = true ∧
        (dataException p s i).cause = accessFaultOf s.mmu.lsuIsStoreQ

/-- The condition on a fetch. Where the address is refused, the fault is a page fault, or the
access fault of a walk for the address that is still presented. -/
def FetchClear : Prop :=
  ∀ fault ∈ fetchFault p s i, fetchRefused p s i = true →
    fault.cause = Unit.instrPageFault ∨
      fault.cause = Unit.instrAccessFault ∧
        (cfg.tvalEn = true → i.rest.fetchVaddr % 2 ^ cfg.xlen = s.mmu.ptw.vaddrQ)

/-- The condition on a load or store. No page fault comes with an address that is refused. The
access fault of a walk is that of a load, or there are three levels and no hypervisor; where its
address is refused, the access that is presented is the one that walked, and its instruction is
not reported. An address that is refused without a fault is presented with its type. -/
structure DataClear : Prop where
  page : walkRefused p s i = false → (dataFault p s i).isSome = true →
    dataRefused p s i = false
  walk : walkRefused p s i = true → dataRefused p s i = false → s.mmu.lsuIsStoreQ = true →
    cfg.rvh = false ∧ cfg.ptLevels = 3
  presented : walkRefused p s i = true → dataRefused p s i = true →
    i.access.lsuIsStore = s.mmu.lsuIsStoreQ ∧
      (cfg.tvalEn = true → i.access.lsuVaddr % 2 ^ cfg.xlen =
        Unit.dataTval cfg s.mmu s.mmu.ptw.vaddrQ) ∧
      (cfg.rvh = true → s.mmu.lsuTinstQ = 0)
  type : dataFault p s i = none → (lsuAnswer p s i).lsuValid = true → dataRefused p s i = true →
    i.access.lsuIsStore = s.mmu.lsuIsStoreQ

end Law

/-! ## Loads and stores -/

section Data

variable {cfg : UnitCfg} {p : Params} {s : State cfg} {i : Input cfg.plen}

theorem raised_inj {ex : ExceptionT} {cause cause' tval tval' tval2 tval2' tinst tinst' : Nat}
    {gva gva' : Bool} :
    raised cfg ex cause tval tval2 tinst gva = raised cfg ex cause' tval' tval2' tinst' gva' ↔
      cause = cause' ∧ (cfg.tvalEn = true → tval = tval') ∧
        (cfg.rvh = true → tval2 = tval2' ∧ tinst = tinst' ∧ gva = gva') := by
  simp only [raised]
  cases cfg.tvalEn <;> cases cfg.rvh <;> simp

theorem accessFaultOf_inj {first second : Bool} :
    accessFaultOf first = accessFaultOf second ↔ first = second := by
  revert first second
  decide

theorem dataException_eq : dataException p s i =
    if (lsuAnswer p s i).lsuValid && dataRefused p s i then
      raised cfg (lsuAnswer p s i).lsuException (accessFaultOf i.access.lsuIsStore)
        (i.access.lsuVaddr % 2 ^ cfg.xlen) 0 0 (settings s i).ldStV
    else (lsuAnswer p s i).lsuException := rfl

theorem lsuAnswer_of_walkRefused (walk : walkRefused p s i = true) :
    (lsuAnswer p s i).lsuValid = true ∧
      (lsuAnswer p s i).lsuException =
        raised cfg s.mmu.misalignedExQ
          (if s.mmu.lsuIsStoreQ && !cfg.rvh && decide (cfg.ptLevels = 3) then Unit.stAccessFault
            else Unit.ldAccessFault)
          (Unit.dataTval cfg s.mmu s.mmu.ptw.vaddrQ) 0 s.mmu.lsuTinstQ
          (cfg.rvh && (settings s i).ldStV) := by
  rw [walkRefused, Bool.and_eq_true, Bool.and_eq_true, Bool.and_eq_true, Bool.and_eq_true] at walk
  obtain ⟨⟨⟨⟨present, translated⟩, miss⟩, active⟩, refused⟩ := walk
  have hit : (s.mmu.dtlbHitQ && s.mmu.lsuReqQ) = false := (Bool.not_eq_true' _).mp miss
  have v : (Unit.ldStStages cfg (mmuInput s i)).v = (cfg.rvh && (settings s i).ldStV) := rfl
  rw [lsuAnswer, if_pos present, Unit.lsuAnswer, if_pos translated, hit,
    if_neg Bool.false_ne_true, if_pos active, refused, Bool.or_true]
  refine ⟨rfl, ?_⟩
  obtain ⟨error, exception⟩ := Report.walk_errors (s := s.mmu) (i := mmuInput s i)
  have state : s.mmu.ptw.stateQ = .propagateAccessError := by
    rw [exception, decide_eq_true_eq] at refused
    exact refused
  have noError : (Unit.walk cfg s.mmu (mmuInput s i)).ptwError = false := by
    rw [error, state]
    rfl
  simp only [Unit.dataWalkException, refused, noError, v, if_true, Bool.false_eq_true, if_false]
  split_ifs with three
  · simp only [Bool.and_eq_true, Bool.not_eq_true'] at three
    apply raised_inj.mpr
    simp [three.1.2]
  · rfl

theorem lsuValid_of_dataFault (fault : (dataFault p s i).isSome = true) :
    (lsuAnswer p s i).lsuValid = true := by
  cases walk : walkRefused p s i with
  | true => exact (lsuAnswer_of_walkRefused walk).1
  | false =>
      rw [dataFault, walk, if_neg Bool.false_ne_true] at fault
      split at fault
      · rename_i raised
        simp only [Bool.and_eq_true] at raised
        exact raised.1.1
      · cases fault

theorem fault_iff_of_walk (walk : walkRefused p s i = true) :
    (∀ fault ∈ dataFault p s i, dataException p s i = fault) ↔
      if dataRefused p s i then
        i.access.lsuIsStore = s.mmu.lsuIsStoreQ ∧
          (cfg.tvalEn = true → i.access.lsuVaddr % 2 ^ cfg.xlen =
            Unit.dataTval cfg s.mmu s.mmu.ptw.vaddrQ) ∧
          (cfg.rvh = true → s.mmu.lsuTinstQ = 0)
      else s.mmu.lsuIsStoreQ = true → cfg.rvh = false ∧ cfg.ptLevels = 3 := by
  obtain ⟨valid, exception⟩ := lsuAnswer_of_walkRefused walk
  simp only [dataFault, walk, if_true, Option.mem_some_iff, forall_eq']
  rw [dataException_eq, valid, exception, Bool.true_and]
  have expected (cause : Nat) : { raised cfg s.mmu.misalignedExQ cause
        (Unit.dataTval cfg s.mmu s.mmu.ptw.vaddrQ) 0 s.mmu.lsuTinstQ
        (cfg.rvh && (settings s i).ldStV) with cause := accessFaultOf s.mmu.lsuIsStoreQ } =
      raised cfg s.mmu.misalignedExQ (accessFaultOf s.mmu.lsuIsStoreQ)
        (Unit.dataTval cfg s.mmu s.mmu.ptw.vaddrQ) 0 s.mmu.lsuTinstQ
        (cfg.rvh && (settings s i).ldStV) := rfl
  rw [expected]
  cases refused : dataRefused p s i with
  | true =>
      rw [if_pos rfl, if_pos rfl, Report.raised_raised, raised_inj, accessFaultOf_inj]
      apply and_congr_right'
      apply and_congr_right'
      apply imp_congr_right
      intro rvh
      rw [rvh]
      simp [eq_comm]
  | false =>
      rw [if_neg Bool.false_ne_true, if_neg Bool.false_ne_true, raised_inj]
      simp only [implies_true, and_self, and_true, accessFaultOf]
      cases s.mmu.lsuIsStoreQ <;> cases cfg.rvh <;>
        by_cases three : cfg.ptLevels = 3 <;>
          simp [three, Unit.stAccessFault, Unit.ldAccessFault]

theorem fault_iff_of_page (walk : walkRefused p s i = false) :
    (∀ fault ∈ dataFault p s i, dataException p s i = fault) ↔
      ((dataFault p s i).isSome = true → dataRefused p s i = false) := by
  cases found : dataFault p s i with
  | none => simp
  | some fault =>
      have valid := lsuValid_of_dataFault (Option.isSome_of_mem found)
      rw [dataFault, walk, if_neg Bool.false_ne_true] at found
      split at found
      · rename_i raised
        simp only [Bool.and_eq_true] at raised
        obtain rfl := Option.some.inj found
        simp only [Option.mem_some_iff, forall_eq']
        rw [dataException_eq, valid, Bool.true_and]
        cases refused : dataRefused p s i with
        | false => simp
        | true =>
            rw [if_pos rfl]
            apply iff_of_false
            · intro same
              have cause := congrArg ExceptionT.cause same
              have page := raised.2
              rw [← cause] at page
              revert page
              change ¬pageFaults.contains (accessFaultOf i.access.lsuIsStore) = true
              cases i.access.lsuIsStore <;> decide
            · intro never
              cases never rfl
      · cases found

/-- A load or store is reported as it should exactly under the condition. -/
theorem dataReported_iff : DataReported p s i ↔ DataClear p s i := by
  have type : (dataFault p s i = none → (lsuAnswer p s i).lsuValid = true →
      dataRefused p s i = true → (dataException p s i).valid = true ∧
        (dataException p s i).cause = accessFaultOf s.mmu.lsuIsStoreQ) ↔
      (dataFault p s i = none → (lsuAnswer p s i).lsuValid = true → dataRefused p s i = true →
        i.access.lsuIsStore = s.mmu.lsuIsStoreQ) := by
    apply imp_congr_right
    intro _
    apply imp_congr_right
    intro valid
    apply imp_congr_right
    intro refused
    rw [dataException_eq, valid, refused, Bool.and_self, if_pos rfl]
    change true = true ∧ accessFaultOf _ = _ ↔ _
    rw [accessFaultOf_inj, eq_self, true_and]
  cases walk : walkRefused p s i with
  | true =>
      have fault := fault_iff_of_walk walk
      constructor
      · rintro ⟨reported, kept⟩
        have clear := fault.mp reported
        refine ⟨fun other => ?_, fun _ allowed => ?_, fun _ refused => ?_, type.mp kept⟩
        · rw [walk] at other
          cases other
        · rwa [allowed, if_neg Bool.false_ne_true] at clear
        · rwa [refused, if_pos rfl] at clear
      · rintro ⟨-, levels, presented, kept⟩
        refine ⟨fault.mpr ?_, type.mpr kept⟩
        cases refused : dataRefused p s i with
        | true => exact presented walk refused
        | false => exact levels walk refused
  | false =>
      have fault := fault_iff_of_page walk
      constructor
      · rintro ⟨reported, kept⟩
        refine ⟨fun _ => fault.mp reported, fun other => ?_, fun other => ?_, type.mp kept⟩
        · rw [walk] at other
          cases other
        · rw [walk] at other
          cases other
      · rintro ⟨page, -, -, kept⟩
        exact ⟨fault.mpr (page walk), type.mpr kept⟩

end Data

/-! ## Fetches -/

section Fetch

variable {cfg : UnitCfg} {p : Params} {s : State cfg} {i : Input cfg.plen}

/-- The exceptions of the translation of a fetch: none, a page fault or guest page fault, or the
access fault of a walk. -/
def Translates (s : State cfg) (i : Input cfg.plen) (ex : ExceptionT) : Prop :=
  ex = noException ∨
    ex.valid = true ∧ (ex.cause = Unit.instrPageFault ∨ ex.cause = Unit.instrGuestPageFault) ∨
    ∃ before, ex = raised cfg before Unit.instrAccessFault s.mmu.ptw.vaddrQ 0 0
      (cfg.rvh && i.rest.v)

theorem translates_canonical :
    Translates s i (Unit.fetchCanonicalException cfg (mmuInput s i)) := by
  rw [Unit.fetchCanonicalException]
  split
  · exact Or.inr (Or.inl ⟨rfl, Or.inl rfl⟩)
  · exact Or.inl rfl

theorem translates_hit : Translates s i (Unit.fetchHitException cfg s.mmu (mmuInput s i)) := by
  rw [Unit.fetchHitException]
  split
  · exact Or.inr (Or.inl ⟨rfl, Or.inr rfl⟩)
  · split
    · exact Or.inr (Or.inl ⟨rfl, Or.inl rfl⟩)
    · exact translates_canonical

theorem translates_walk : Translates s i (Unit.fetchWalkException cfg s.mmu (mmuInput s i)) := by
  rw [Unit.fetchWalkException]
  split
  · split
    · exact Or.inr (Or.inl ⟨rfl, Or.inr rfl⟩)
    · exact Or.inr (Or.inl ⟨rfl, Or.inl rfl⟩)
  · exact Or.inr (Or.inr ⟨_, rfl⟩)

theorem translates_icacheAreq : Translates s i (icacheAreq p s i).fetchException := by
  rw [icacheAreq]
  split
  · rw [Unit.areqO]
    split
    · dsimp only
      split
      · exact translates_hit
      · split
        · exact translates_walk
        · exact translates_canonical
    · exact Or.inl rfl
  · exact Or.inl rfl

theorem instrInterface_of_refused (valid : (icacheAreq p s i).fetchValid = true)
    (refused : fetchRefused p s i = true) : instrInterface p s i =
      if (icacheAreq p s i).fetchException.cause = Unit.instrPageFault then
        (icacheAreq p s i).fetchException
      else
        raised cfg (icacheAreq p s i).fetchException Unit.instrAccessFault
          (i.rest.fetchVaddr % 2 ^ cfg.xlen) 0 0 i.rest.v := by
  rw [instrInterface]
  by_cases page : (icacheAreq p s i).fetchException.cause = Unit.instrPageFault <;>
    simp [valid, refused, page]

theorem instrInterface_of_allowed (allowed : fetchRefused p s i = false) :
    instrInterface p s i = (icacheAreq p s i).fetchException := by
  rw [instrInterface, allowed]
  simp

theorem raised_eq_fault_iff {fault : ExceptionT} (translates : Translates s i fault)
    (present : fault.valid = true) :
    raised cfg fault Unit.instrAccessFault (i.rest.fetchVaddr % 2 ^ cfg.xlen) 0 0 i.rest.v =
        fault ↔
      fault.cause = Unit.instrAccessFault ∧
        (cfg.tvalEn = true → i.rest.fetchVaddr % 2 ^ cfg.xlen = s.mmu.ptw.vaddrQ) := by
  rcases translates with rfl | ⟨-, page⟩ | ⟨before, rfl⟩
  · cases present
  · have other : fault.cause ≠ Unit.instrAccessFault := by
      rcases page with same | same <;> rw [same] <;> decide
    apply iff_of_false
    · intro same
      exact other (congrArg ExceptionT.cause same).symm
    · exact fun same => other same.1
  · rw [Report.raised_raised, raised_inj]
    change _ ↔ Unit.instrAccessFault = _ ∧ _
    rw [eq_self, true_and, true_and]
    apply and_iff_left
    intro rvh
    simp [rvh]

theorem fetchReported_iff : FetchReported p s i ↔ FetchClear p s i := by
  have translates : Translates s i (icacheAreq p s i).fetchException := translates_icacheAreq
  constructor
  · rintro ⟨reported, -⟩ fault found refused
    have same := reported fault found
    rw [fetchFault] at found
    split at found
    · rename_i raises
      rw [Bool.and_eq_true] at raises
      obtain rfl := Option.some.inj found
      rw [instrInterface_of_refused raises.1 refused] at same
      split at same
      · exact Or.inl ‹_›
      · exact Or.inr ((raised_eq_fault_iff translates raises.2).mp same)
    · cases found
  · intro clear
    constructor
    · intro fault found
      have condition := clear fault found
      rw [fetchFault] at found
      split at found
      · rename_i raises
        rw [Bool.and_eq_true] at raises
        obtain rfl := Option.some.inj found
        cases refused : fetchRefused p s i with
        | false => exact instrInterface_of_allowed refused
        | true =>
            rw [instrInterface_of_refused raises.1 refused]
            rcases condition refused with page | walk
            · rw [if_pos page]
            · split
              · rfl
              · exact (raised_eq_fault_iff translates raises.2).mpr walk
      · cases found
    · intro none valid refused
      have silent : (icacheAreq p s i).fetchException = noException := by
        rw [fetchFault, valid, Bool.true_and] at none
        split at none
        · cases none
        · rename_i quiet
          rcases translates with same | ⟨present, -⟩ | ⟨before, same⟩
          · exact same
          · exact absurd present quiet
          · rw [same] at quiet
            exact absurd rfl quiet
      rw [instrInterface_of_refused valid refused, silent,
        if_neg (by decide : noException.cause ≠ Unit.instrPageFault)]
      exact ⟨rfl, rfl⟩

end Fetch

/-! ## Both interfaces -/

/-- The faults of every fetch, and of every load and store, are reported with their priority and
their cause exactly under the condition of the interface. -/
theorem reported_iff {cfg : UnitCfg} (p : Params) (s : State cfg) (i : Input cfg.plen) :
    (FetchReported p s i ↔ FetchClear p s i) ∧ (DataReported p s i ↔ DataClear p s i) :=
  ⟨fetchReported_iff, dataReported_iff⟩

/-- A store of the supervisor that is translated, where the memory from 4096 on is refused. -/
def store : Input Unit.sv32.plen where
  access := Report.accessOf true true 0x400000
  ordinary := ⟨true, false, .s, false⟩
  hypervisor := ⟨false, false, .s, false⟩
  confAddr _ := 0x400
  conf _ := ⟨false, 0, .tor, false, true, true⟩
  rest := { Unit.Input.quiet with allowAccess := fun address => decide (address < 0x1000) }

/-- The walk of the store reads its table. -/
def storeWalk : List (Input Unit.sv32.plen) :=
  [store, store, { store with rest := { store.rest with dataGnt := true } },
    { store with rest := { store.rest with dataRvalid := true } }, store]

/-- A core with one entry of the physical memory protection. -/
def oneEntry : Params := ⟨true, 1, []⟩

/-- The store is reported with the access fault of a load. -/
theorem load_fault_of_store :
    ¬DataReported oneEntry ((Report.machine Unit.blank).run storeWalk) store := by
  have clear : walkRefused oneEntry ((Report.machine Unit.blank).run storeWalk) store = true ∧
      dataRefused oneEntry ((Report.machine Unit.blank).run storeWalk) store = false ∧
      ((Report.machine Unit.blank).run storeWalk).mmu.lsuIsStoreQ = true := by decide +kernel
  intro reported
  have levels := (dataReported_iff.mp reported).walk clear.1 clear.2.1 clear.2.2
  exact absurd levels.2 (by decide)

end Cva6Hpd.Mmu.Priority
