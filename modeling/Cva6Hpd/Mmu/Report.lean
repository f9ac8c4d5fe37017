import Cva6Hpd.Mmu.Unit
import Cva6Hpd.Mmu.Walk
import Cva6Hpd.Pmp.Decision

/-!
# The exceptions of loads and stores

The data interface of `pmp_data_if` behind the memory management unit, as `load_store_unit`
connects the two without an accelerator. A translation is answered in the cycle after the
access was presented. The memory management unit keeps the access for the answer, but the
physical memory protection looks at the type and the address that are presented while it
answers, and so do the check of canonical addresses and the settings of hypervisor accesses.
-/

namespace Cva6Hpd.Mmu.Report

open Cva6Hpd.Csr (PmpCfg PrivLvl)
open Cva6Hpd.Scoreboard (ExceptionT)
open Hw (Machine)
open Common (TcSram)
open Cva6Hpd.Mmu.Unit (LsuAnswer lsuAnswer)

/-! ## The code -/

/-- The access that the load-store unit presents. -/
structure Access where
  misalignedEx : ExceptionT
  lsuReq : Bool
  lsuVaddr : Nat
  lsuTinst : Nat
  lsuIsStore : Bool
  hlvxInst : Bool
  hsLdStInst : Bool

/-- The settings of the translation of loads and stores. -/
structure DataSettings where
  enLdStTranslation : Bool
  enLdStGTranslation : Bool
  ldStPrivLvl : PrivLvl
  ldStV : Bool
deriving DecidableEq

/-- The inputs of a cycle. The control and status registers give the settings of ordinary and
of hypervisor accesses and the entries of the physical memory protection; of `rest` the fields
of the access and of these settings are not used. -/
structure Input (plen : Nat) where
  access : Access
  ordinary : DataSettings
  hypervisor : DataSettings
  confAddr : Nat → BitVec (plen - 2)
  conf : Nat → PmpCfg
  rest : Unit.Input

/-- The unit, and the register of `hs_ld_st_inst_i`. -/
structure State (cfg : UnitCfg) where
  mmu : Unit.State cfg
  hsLdStInstQ : Bool

variable {cfg : UnitCfg} (nrPmpEntries : Nat) (s : State cfg) (i : Input cfg.plen)

/-- `csr_hs_ld_st_inst_o`. -/
def csrHsLdStInst : Bool := cfg.rvh && (i.access.hsLdStInst || s.hsLdStInstQ)

/-- The settings that the register file gives. -/
def Input.settings (hs : Bool) : DataSettings := if hs then i.hypervisor else i.ordinary

/-- The inputs of the unit with the given settings. -/
def Input.mmuWith (settings : DataSettings) : Unit.Input :=
  { i.rest with
    enLdStTranslation := settings.enLdStTranslation
    enLdStGTranslation := settings.enLdStGTranslation
    ldStPrivLvl := settings.ldStPrivLvl
    ldStV := settings.ldStV
    misalignedEx := i.access.misalignedEx
    lsuReq := i.access.lsuReq
    lsuVaddr := i.access.lsuVaddr
    lsuTinst := i.access.lsuTinst
    lsuIsStore := i.access.lsuIsStore
    hlvxInst := i.access.hlvxInst }

/-- The inputs of the unit. -/
def mmuInput : Unit.Input := i.mmuWith (i.settings (csrHsLdStInst s i))

/-- `pmp_access_type`. -/
def Access.pmpAccessType (access : Access) : Pmp.Access :=
  if access.lsuIsStore then .write else .read

/-- `data_allow_o`. -/
def dataAllow (settings : DataSettings) (accessType : Pmp.Access) (lsuPaddr : Nat) : Bool :=
  Pmp.allowO nrPmpEntries
    { addr := BitVec.ofNat cfg.plen lsuPaddr
      accessType := accessType
      privLvl := settings.ldStPrivLvl
      confAddr := i.confAddr
      conf := i.conf }

/-- `lsu_exception_o` of `pmp_data_if`. -/
def dataInterface (settings : DataSettings) (answer : LsuAnswer) : ExceptionT :=
  if answer.lsuValid
      && !dataAllow nrPmpEntries i settings i.access.pmpAccessType answer.lsuPaddr then
    Unit.raised cfg answer.lsuException
      (if i.access.lsuIsStore then Unit.stAccessFault else Unit.ldAccessFault)
      (i.access.lsuVaddr % 2 ^ cfg.xlen) 0 0 settings.ldStV
  else answer.lsuException

/-- What is said of an access: the exception, and the type that was checked. -/
structure Answer where
  exception : ExceptionT
  accessType : Pmp.Access

/-- What is said in a cycle of the access of the cycle before. -/
def report : Option Answer :=
  let answer := lsuAnswer cfg s.mmu (mmuInput s i)
  if answer.lsuValid then
    some
      { exception :=
          dataInterface nrPmpEntries i (i.settings (csrHsLdStInst s i)) answer
        accessType := i.access.pmpAccessType }
  else none

def step : State cfg where
  mmu := Unit.step cfg s.mmu (mmuInput s i)
  hsLdStInstQ := i.access.hsLdStInst

def machine (powerUp : Fin 2 → TcSram (2 ^ cfg.sharedTlbBits) SharedTlb.Row) :
    Machine (State cfg) (Input cfg.plen) where
  reset := ⟨Unit.reset cfg powerUp, false⟩
  step := step

/-! ## The law -/

/-- The access that an answer is about. -/
def registered : Access where
  misalignedEx := s.mmu.misalignedExQ
  lsuReq := s.mmu.lsuReqQ
  lsuVaddr := s.mmu.lsuVaddrQ
  lsuTinst := s.mmu.lsuTinstQ
  lsuIsStore := s.mmu.lsuIsStoreQ
  hlvxInst := false
  hsLdStInst := s.hsLdStInstQ

/-- The cycle with another access. -/
def Input.withAccess (access : Access) : Input cfg.plen := { i with access := access }

/-- What is to be said of the access: that which is said when it is still presented. -/
def own : Option Answer := report nrPmpEntries s (i.withAccess (registered s))

/-- The settings of the access that the answer is about. -/
def ownSettings : DataSettings := i.settings (cfg.rvh && s.hsLdStInstQ)

/-- The settings in the cycle of the answer are those of the access. -/
def SettingsKept : Prop := i.settings (csrHsLdStInst s i) = ownSettings s i

/-- The answer of the unit, with the settings of the access. -/
def answered : LsuAnswer := lsuAnswer cfg s.mmu (i.mmuWith (ownSettings s i))

/-- The physical memory protection refuses the access. -/
def refused : Bool :=
  !dataAllow nrPmpEntries i (ownSettings s i) (registered s).pmpAccessType
    (answered s i).lsuPaddr

/-- A hit that nothing but the check of its address can refuse. -/
def undecided (s : Unit.State cfg) (i : Unit.Input) : Bool :=
  Unit.lsuTranslated cfg i && !s.misalignedExQ.valid && s.dtlbHitQ && s.lsuReqQ &&
    if s.lsuIsStoreQ then
      !(cfg.rvh && (Unit.ldStStages cfg i).g
          && (!s.dtlbGpteQ.w || Unit.dGStAccessErr cfg s i || !s.dtlbGpteQ.d))
        && ((Unit.ldStStages cfg i).s || !cfg.rvh)
        && !(!s.dtlbPteQ.w || Unit.daccessErr cfg s i || !s.dtlbPteQ.d)
    else !(cfg.rvh && Unit.dGStAccessErr cfg s i) && !Unit.daccessErr cfg s i

/-- The condition on the access that follows. It is of the same type; where the physical memory
protection refuses the access it has the same address, as far as it is reported; and where
nothing else is left to refuse a hit its address is canonical exactly if that of the access is. -/
structure Respects : Prop where
  type : i.access.lsuIsStore = s.mmu.lsuIsStoreQ
  address : refused nrPmpEntries s i = true → cfg.tvalEn = true →
    i.access.lsuVaddr % 2 ^ cfg.xlen = s.mmu.lsuVaddrQ % 2 ^ cfg.xlen
  canonical : refused nrPmpEntries s i = false →
    undecided s.mmu (i.mmuWith (ownSettings s i)) = true →
      Unit.canonicalAddrCheck cfg (i.mmuWith (ownSettings s i)) =
        Unit.canonicalAddrCheck cfg
          ((i.withAccess (registered s)).mmuWith (ownSettings s i))

/-! ## The answer of the unit -/

section Unit

variable {s : Unit.State cfg} {i j : Unit.Input}

theorem walk_errors : (Unit.walk cfg s i).ptwError = decide (s.ptw.stateQ = .propagateError) ∧
    (Unit.walk cfg s i).ptwAccessException =
      decide (s.ptw.stateQ = .propagateAccessError) := by
  obtain ⟨-, error, exception⟩ :=
    @Ptw.outputs_comb cfg.toCfg s.ptw (Unit.walkInput cfg s i)
  rw [Unit.walk, error, exception, Ptw.unflushed]
  cases state : s.ptw.stateQ with
  | idle =>
    simp only [Ptw.idle]
    split <;> exact ⟨rfl, rfl⟩
  | waitGrant =>
    simp only [Ptw.waitGrant]
    split <;> exact ⟨rfl, rfl⟩
  | pteLookup =>
    have silent := Ptw.silent_pteLookup cfg.toCfg s.ptw (Unit.walkInput cfg s i)
    exact ⟨congrArg Prod.fst silent, congrArg (·.2.1) silent⟩
  | waitRvalid =>
    simp only [Ptw.waitRvalid]
    split <;> exact ⟨rfl, rfl⟩
  | propagateError => exact ⟨rfl, rfl⟩
  | propagateAccessError => exact ⟨rfl, rfl⟩
  | killReq => exact ⟨rfl, rfl⟩
  | latency => exact ⟨rfl, rfl⟩

theorem walk_stage (error : s.ptw.stateQ = .propagateError) :
    (Unit.walk cfg s i).ptwErrorAtGSt = (cfg.rvh && decide (s.ptw.ptwStageQ ≠ .s)) ∧
      (Unit.walk cfg s i).ptwErrAtGIntSt =
        (cfg.rvh && decide (s.ptw.ptwStageQ = .gIntermed)) := by
  rw [Unit.walk, Ptw.comb, Ptw.unflushed, error]
  dsimp only
  split
  · simp only [Ptw.flushed]
    split_ifs <;> exact ⟨rfl, rfl⟩
  · exact ⟨rfl, rfl⟩

theorem dataWalkException_eq (stages : Unit.ldStStages cfg i = Unit.ldStStages cfg j) :
    Unit.dataWalkException cfg s i = Unit.dataWalkException cfg s j := by
  obtain ⟨error, exception⟩ := walk_errors (s := s) (i := i)
  obtain ⟨error', exception'⟩ := walk_errors (s := s) (i := j)
  simp only [Unit.dataWalkException, error, exception, error', exception', stages]
  by_cases failed : s.ptw.stateQ = .propagateError
  · obtain ⟨stage, intermediate⟩ := walk_stage (i := i) failed
    obtain ⟨stage', intermediate'⟩ := walk_stage (i := j) failed
    simp only [Unit.ptwBadGpaddr, stage, intermediate, stage', intermediate']
  · rw [decide_eq_false failed]
    rfl

/-- The exception of a hit, with the outcome of the check of the address. -/
def hitException (s : Unit.State cfg) (i : Unit.Input) (check : Bool) : ExceptionT :=
  let ex := s.misalignedExQ
  let tval := Unit.dataTval cfg s s.lsuVaddrQ
  let v := (Unit.ldStStages cfg i).v
  if s.lsuIsStoreQ then
    if cfg.rvh && (Unit.ldStStages cfg i).g
        && (!s.dtlbGpteQ.w || Unit.dGStAccessErr cfg s i || !s.dtlbGpteQ.d) then
      Unit.raised cfg ex Unit.storeGuestPageFault tval s.lsuGpaddrQ 0 v
    else if ((Unit.ldStStages cfg i).s || !cfg.rvh)
        && (!s.dtlbPteQ.w || Unit.daccessErr cfg s i || check || !s.dtlbPteQ.d) then
      Unit.raised cfg ex Unit.storePageFault tval 0 s.lsuTinstQ v
    else ex
  else if cfg.rvh && Unit.dGStAccessErr cfg s i then
    Unit.raised cfg ex Unit.loadGuestPageFault tval s.lsuGpaddrQ 0 v
  else if Unit.daccessErr cfg s i || check then
    Unit.raised cfg ex Unit.loadPageFault tval 0 s.lsuTinstQ v
  else ex

theorem dataHitException_eq :
    Unit.dataHitException cfg s i = hitException s i (Unit.canonicalAddrCheck cfg i) :=
  rfl

/-- The check decides exactly where nothing else does. -/
theorem hitException_eq_iff (translated : Unit.lsuTranslated cfg i = true)
    (aligned : s.misalignedExQ.valid = false) (hit : s.dtlbHitQ = true)
    (request : s.lsuReqQ = true) {first second : Bool} :
    hitException s i first = hitException s i second ↔
      (undecided s i = true → first = second) := by
  have differ (cause tval tval2 tinst : Nat) (gva : Bool) :
      Unit.raised cfg s.misalignedExQ cause tval tval2 tinst gva ≠ s.misalignedExQ := by
    intro same
    have valid := congrArg ExceptionT.valid same
    rw [aligned] at valid
    cases valid
  simp only [hitException, undecided, translated, aligned, hit, request, Bool.not_false,
    Bool.true_and]
  cases s.lsuIsStoreQ with
  | true =>
    simp only [↓reduceIte]
    generalize (cfg.rvh && (Unit.ldStStages cfg i).g
      && (!s.dtlbGpteQ.w || Unit.dGStAccessErr cfg s i || !s.dtlbGpteQ.d)) = guest
    generalize ((Unit.ldStStages cfg i).s || !cfg.rvh) = stage
    generalize s.dtlbPteQ.w = writable
    generalize Unit.daccessErr cfg s i = level
    generalize s.dtlbPteQ.d = dirty
    cases guest <;> cases stage <;> cases writable <;> cases level <;> cases dirty <;>
      cases first <;> cases second <;> simp [differ, (differ _ _ _ _ _).symm]
  | false =>
    simp only [Bool.false_eq_true, ↓reduceIte]
    generalize (cfg.rvh && Unit.dGStAccessErr cfg s i) = guest
    generalize Unit.daccessErr cfg s i = level
    cases guest <;> cases level <;> cases first <;> cases second <;>
      simp [differ, (differ _ _ _ _ _).symm]

/-- The last exception over another covers it. -/
theorem raised_raised (ex : ExceptionT) (cause tval tval2 tinst cause' tval' tval2' tinst' : Nat)
    (gva gva' : Bool) :
    Unit.raised cfg (Unit.raised cfg ex cause tval tval2 tinst gva) cause' tval' tval2' tinst'
        gva' =
      Unit.raised cfg ex cause' tval' tval2' tinst' gva' := by
  simp only [Unit.raised]
  cases cfg.tvalEn <;> cases cfg.rvh <;> rfl

theorem lsuException_eq : (lsuAnswer cfg s i).lsuException =
    if Unit.lsuTranslated cfg i && !s.misalignedExQ.valid then
      if s.dtlbHitQ && s.lsuReqQ then Unit.dataHitException cfg s i
      else if decide (s.ptw.stateQ ≠ .idle) && !s.ptw.isInstrPtwQ then
        Unit.dataWalkException cfg s i
      else s.misalignedExQ
    else s.misalignedExQ := by
  simp only [lsuAnswer]
  split_ifs <;> rfl

theorem raised_lsuAnswer (cause tval tval2 tinst : Nat) (gva : Bool) :
    Unit.raised cfg (lsuAnswer cfg s i).lsuException cause tval tval2 tinst gva =
      Unit.raised cfg s.misalignedExQ cause tval tval2 tinst gva := by
  rw [lsuException_eq]
  split_ifs
  · simp only [Unit.dataHitException]
    split_ifs <;> first | exact raised_raised .. | rfl
  · simp only [Unit.dataWalkException]
    split_ifs <;> simp only [raised_raised]
  · rfl
  · rfl

end Unit

/-! ## The answer for two accesses -/

section Accesses

variable {nrPmpEntries : Nat} {s : State cfg} {i : Input cfg.plen} {access : Access}
  {settings : DataSettings}

/-- The answer comes and has its address whatever is presented. -/
theorem lsuAnswer_withAccess :
    (lsuAnswer cfg s.mmu ((i.withAccess access).mmuWith settings)).lsuValid =
        (lsuAnswer cfg s.mmu (i.mmuWith settings)).lsuValid ∧
      (lsuAnswer cfg s.mmu ((i.withAccess access).mmuWith settings)).lsuPaddr =
        (lsuAnswer cfg s.mmu (i.mmuWith settings)).lsuPaddr := by
  have stages : Unit.ldStStages cfg ((i.withAccess access).mmuWith settings) =
      Unit.ldStStages cfg (i.mmuWith settings) := rfl
  simp only [lsuAnswer, Unit.lsuTranslated, stages, walk_errors]
  split
  · split
    · exact ⟨rfl, rfl⟩
    · split <;> exact ⟨rfl, rfl⟩
  · exact ⟨rfl, rfl⟩

theorem lsuException_withAccess :
    (lsuAnswer cfg s.mmu (i.mmuWith settings)).lsuException =
        (lsuAnswer cfg s.mmu ((i.withAccess access).mmuWith settings)).lsuException ↔
      (undecided s.mmu (i.mmuWith settings) = true →
        Unit.canonicalAddrCheck cfg (i.mmuWith settings) =
          Unit.canonicalAddrCheck cfg ((i.withAccess access).mmuWith settings)) := by
  have stages : Unit.ldStStages cfg ((i.withAccess access).mmuWith settings) =
      Unit.ldStStages cfg (i.mmuWith settings) := rfl
  have same (check : Bool) : hitException s.mmu ((i.withAccess access).mmuWith settings) check =
      hitException s.mmu (i.mmuWith settings) check := rfl
  cases translated : Unit.lsuTranslated cfg (i.mmuWith settings) && !s.mmu.misalignedExQ.valid with
  | false =>
    have decided : undecided s.mmu (i.mmuWith settings) = false := by
      simp only [undecided, translated, Bool.false_and]
    have untranslated : (Unit.lsuTranslated cfg ((i.withAccess access).mmuWith settings)
        && !s.mmu.misalignedExQ.valid) = false := translated
    simp [lsuAnswer, translated, untranslated, decided]
  | true =>
    have kept : (Unit.lsuTranslated cfg ((i.withAccess access).mmuWith settings)
        && !s.mmu.misalignedExQ.valid) = true := translated
    rw [lsuAnswer, lsuAnswer, if_pos translated, if_pos kept]
    by_cases hit : (s.mmu.dtlbHitQ && s.mmu.lsuReqQ) = true
    · rw [if_pos hit, if_pos hit]
      simp only [Bool.and_eq_true, Bool.not_eq_true'] at translated hit
      dsimp only
      rw [dataHitException_eq, dataHitException_eq, same]
      exact hitException_eq_iff translated.1 translated.2 hit.1 hit.2
    · have decided : undecided s.mmu (i.mmuWith settings) = false := by
        simp only [undecided, translated, Bool.true_and, Bool.eq_false_iff.mpr hit,
          Bool.false_and]
      rw [if_neg hit, if_neg hit, decided]
      have walked := dataWalkException_eq (s := s.mmu) stages
      split
      · simp [walked]
      · simp

/-- Two exceptions that differ in their address. -/
theorem raised_eq_iff {ex : ExceptionT} {cause first second tval2 tinst : Nat} {gva : Bool} :
    Unit.raised cfg ex cause first tval2 tinst gva =
        Unit.raised cfg ex cause second tval2 tinst gva ↔
      (cfg.tvalEn = true → first = second) := by
  simp only [Unit.raised]
  cases cfg.tvalEn <;> simp

theorem pmpAccessType_eq_iff {first second : Access} :
    first.pmpAccessType = second.pmpAccessType ↔ first.lsuIsStore = second.lsuIsStore := by
  simp only [Access.pmpAccessType]
  cases first.lsuIsStore <;> cases second.lsuIsStore <;> simp

theorem report_of_settingsKept (kept : SettingsKept s i) :
    report nrPmpEntries s i =
      if (answered s i).lsuValid then
        some
          { exception := dataInterface nrPmpEntries i (ownSettings s i) (answered s i)
            accessType := i.access.pmpAccessType }
      else none := by
  rw [report, mmuInput, kept]
  rfl

theorem settingsKept_registered : SettingsKept s (i.withAccess (registered s)) := by
  have same : csrHsLdStInst s (i.withAccess (registered s)) = (cfg.rvh && s.hsLdStInstQ) := by
    change (cfg.rvh && (s.hsLdStInstQ || s.hsLdStInstQ)) = _
    rw [Bool.or_self]
  rw [SettingsKept, same]
  rfl

theorem dataInterface_withAccess (type : access.lsuIsStore = s.mmu.lsuIsStoreQ)
    (valid : (answered s i).lsuValid = true) :
    dataInterface nrPmpEntries (i.withAccess access) (ownSettings s i)
        (answered s (i.withAccess access)) =
      if refused nrPmpEntries s i then
        Unit.raised cfg (answered s (i.withAccess access)).lsuException
          (if s.mmu.lsuIsStoreQ then Unit.stAccessFault else Unit.ldAccessFault)
          (access.lsuVaddr % 2 ^ cfg.xlen) 0 0 (ownSettings s i).ldStV
      else (answered s (i.withAccess access)).lsuException := by
  obtain ⟨comes, place⟩ :=
    @lsuAnswer_withAccess cfg s i access (ownSettings s i)
  have gate : ((answered s (i.withAccess access)).lsuValid &&
      !dataAllow nrPmpEntries (i.withAccess access) (ownSettings s i) access.pmpAccessType
        (answered s (i.withAccess access)).lsuPaddr) = refused nrPmpEntries s i := by
    have checked : access.pmpAccessType = (registered s).pmpAccessType :=
      pmpAccessType_eq_iff.mpr type
    rw [checked, refused, answered, answered]
    change ((lsuAnswer cfg s.mmu ((i.withAccess access).mmuWith (ownSettings s i))).lsuValid &&
      !dataAllow nrPmpEntries i (ownSettings s i) _
        (lsuAnswer cfg s.mmu ((i.withAccess access).mmuWith (ownSettings s i))).lsuPaddr) = _
    rw [comes, place]
    change ((answered s i).lsuValid && _) = _
    rw [valid, Bool.true_and]
  rw [dataInterface]
  change (if ((answered s (i.withAccess access)).lsuValid &&
      !dataAllow nrPmpEntries (i.withAccess access) (ownSettings s i) access.pmpAccessType
        (answered s (i.withAccess access)).lsuPaddr) = true then
    Unit.raised cfg (answered s (i.withAccess access)).lsuException
      (if access.lsuIsStore then Unit.stAccessFault else Unit.ldAccessFault)
      (access.lsuVaddr % 2 ^ cfg.xlen) 0 0 (ownSettings s i).ldStV
    else (answered s (i.withAccess access)).lsuException) = _
  rw [gate, type]

/-- With the settings of the access the answer is its own exactly under the condition. -/
theorem report_eq_own_iff (kept : SettingsKept s i) (valid : (answered s i).lsuValid = true) :
    report nrPmpEntries s i = own nrPmpEntries s i ↔ Respects nrPmpEntries s i := by
  have comes : (answered s (i.withAccess (registered s))).lsuValid = true :=
    lsuAnswer_withAccess.1.trans valid
  have exceptions : (answered s i).lsuException =
        (answered s (i.withAccess (registered s))).lsuException ↔ _ :=
    @lsuException_withAccess cfg s i (registered s) (ownSettings s i)
  have presented := @dataInterface_withAccess cfg nrPmpEntries s i i.access
  have kept' := @dataInterface_withAccess cfg nrPmpEntries s i (registered s) rfl valid
  rw [own, report_of_settingsKept kept, report_of_settingsKept settingsKept_registered, comes,
    if_pos valid, if_pos rfl, Option.some_inj, Answer.mk.injEq, pmpAccessType_eq_iff]
  constructor
  · rintro ⟨same, type⟩
    replace same := (presented type valid).symm.trans (same.trans kept')
    refine ⟨type, fun refusal => ?_, fun grant => ?_⟩
    · rw [refusal, if_pos rfl, if_pos rfl, answered, answered, raised_lsuAnswer,
        raised_lsuAnswer] at same
      exact raised_eq_iff.mp same
    · rw [grant] at same
      exact exceptions.mp same
  · rintro ⟨type, address, canonical⟩
    refine ⟨(presented type valid).trans (Eq.trans ?_ kept'.symm), type⟩
    cases refusal : refused nrPmpEntries s i with
    | true =>
      rw [if_pos rfl, if_pos rfl, answered, answered, raised_lsuAnswer, raised_lsuAnswer]
      exact raised_eq_iff.mpr (address refusal)
    | false => exact exceptions.mpr (canonical refusal)

end Accesses

/-! ## Runs -/

section Runs

variable (powerUp : Fin 2 → TcSram (2 ^ cfg.sharedTlbBits) SharedTlb.Row)

/-- The access that follows keeps the settings of the one that is answered, and respects it. -/
structure Follows (s : State cfg) (i : Input cfg.plen) : Prop where
  settings : SettingsKept s i
  respects : (answered s i).lsuValid = true → Respects nrPmpEntries s i

theorem report_eq_own_of_follows {s : State cfg} {i : Input cfg.plen}
    (follows : Follows nrPmpEntries s i) :
    report nrPmpEntries s i = own nrPmpEntries s i := by
  cases valid : (answered s i).lsuValid with
  | true => exact (report_eq_own_iff follows.settings valid).mpr (follows.respects valid)
  | false =>
    have silent : (answered s (i.withAccess (registered s))).lsuValid = false :=
      lsuAnswer_withAccess.1.trans valid
    rw [own, report_of_settingsKept follows.settings,
      report_of_settingsKept settingsKept_registered, silent, valid]
    rfl

/-- Two runs that differ in the access that follows, and in both of which it keeps to the
condition, say the same of the first. -/
theorem report_eq_of_follows (inputs : List (Input cfg.plen)) {i : Input cfg.plen}
    {access : Access} (first : Follows nrPmpEntries ((machine powerUp).run inputs) i)
    (second : Follows nrPmpEntries ((machine powerUp).run inputs) (i.withAccess access)) :
    report nrPmpEntries ((machine powerUp).run inputs) i =
      report nrPmpEntries ((machine powerUp).run inputs) (i.withAccess access) := by
  have same : own nrPmpEntries ((machine powerUp).run inputs) (i.withAccess access) =
      own nrPmpEntries ((machine powerUp).run inputs) i := rfl
  rw [report_eq_own_of_follows nrPmpEntries first, report_eq_own_of_follows nrPmpEntries second,
    same]

end Runs

/-! ## A store to a page of bytes that may be read -/

/-- A store or a load, or neither. -/
def accessOf (lsuReq lsuIsStore : Bool) (lsuVaddr : Nat) : Access where
  misalignedEx := Unit.noException
  lsuReq := lsuReq
  lsuVaddr := lsuVaddr
  lsuTinst := 0
  lsuIsStore := lsuIsStore
  hlvxInst := false
  hsLdStInst := false

/-- The supervisor without translation; the memory below 4096 may only be read. -/
def readOnly (access : Access) : Input Unit.sv32.plen where
  access := access
  ordinary := ⟨false, false, .s, false⟩
  hypervisor := ⟨false, false, .s, false⟩
  confAddr _ := 0x400
  conf _ := ⟨false, 0, .tor, false, false, true⟩
  rest := Unit.Input.quiet

/-- What is said of a load does not depend on the address of the load that follows. -/
theorem load_report_eq :
    report 1 ((machine Unit.blank).run [readOnly (accessOf true false 0)])
        (readOnly (accessOf true false 0)) =
      report 1 ((machine Unit.blank).run [readOnly (accessOf true false 0)])
        ((readOnly (accessOf true false 0)).withAccess (accessOf true false 64)) := by
  apply report_eq_of_follows
  · exact ⟨rfl, fun _ => ⟨rfl, by decide, by decide⟩⟩
  · exact ⟨rfl, fun _ => ⟨rfl, by decide, by decide⟩⟩

/-- The store is refused while it is still presented, and let pass when a load follows. -/
theorem store_report_ne :
    report 1 ((machine Unit.blank).run [readOnly (accessOf true true 0)])
        (readOnly (accessOf true true 0)) ≠
      report 1 ((machine Unit.blank).run [readOnly (accessOf true true 0)])
        (readOnly (accessOf true false 0)) := by
  intro same
  have refused := congrArg (Option.map fun answer => answer.exception.valid) same
  revert refused
  decide

end Cva6Hpd.Mmu.Report
