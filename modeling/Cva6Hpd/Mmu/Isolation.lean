import Cva6Hpd.Mmu.Checks

/-!
# The settings that a walk depends on

With the hypervisor extension fetches on one side and loads and stores on the other have their
own translation settings. The walker keeps for which side it walks, but it selects the root and
the stages of a walk and the content of an update by the settings of both. A walk does not
depend on the other side where the settings of its own side already decide these selections.
-/

namespace Cva6Hpd.Mmu.Ptw

/-! ## Two sides -/

/-- Whom a walk serves. -/
inductive Side where
  | fetch | data
deriving DecidableEq

namespace Side

/-- `itlb_req_i`. -/
def isInstr (side : Side) : Bool := side = .fetch

def other : Side → Side
  | fetch => data
  | data => fetch

/-- The translation settings of a side. -/
def settings (side : Side) (i : Input) : StEnbl :=
  match side with
  | fetch => ⟨i.v, i.enableGTranslation, i.enableTranslation⟩
  | data => ⟨i.ldStV, i.enLdStGTranslation, i.enLdStTranslation⟩

end Side

/-- The input with what belongs to the other side taken from `o`: its settings and, of loads and
stores, the properties of the access. -/
def Input.withOther (side : Side) (i o : Input) : Input :=
  match side with
  | .fetch =>
    { i with
      enLdStTranslation := o.enLdStTranslation
      enLdStGTranslation := o.enLdStGTranslation
      ldStV := o.ldStV
      hlvxInst := o.hlvxInst
      lsuIsStore := o.lsuIsStore
      mxr := o.mxr
      vmxr := o.vmxr }
  | .data =>
    { i with
      enableTranslation := o.enableTranslation
      enableGTranslation := o.enableGTranslation
      v := o.v }

/-! ## What a walk shows -/

/-- The request for an entry. -/
structure ReadRequest where
  dataReq : Bool
  tagValid : Bool
  killReq : Bool
  address : Nat
deriving DecidableEq

/-- What a walker shows in one cycle: its requests, its faults and its results. -/
structure View where
  request : ReadRequest
  ptwError : Bool
  ptwErrorAtGSt : Bool
  ptwErrAtGIntSt : Bool
  ptwAccessException : Bool
  sharedTlbMiss : Bool
  update : Option TlbUpdate
deriving DecidableEq

section Code

variable (cfg : Cfg) (s : State) (i : Input)

def view : View where
  request := ⟨(comb cfg s i).dataReq, s.tagValidQ, killReqO s, s.ptwPptrQ⟩
  ptwError := (comb cfg s i).ptwError
  ptwErrorAtGSt := (comb cfg s i).ptwErrorAtGSt
  ptwErrAtGIntSt := (comb cfg s i).ptwErrAtGIntSt
  ptwAccessException := (comb cfg s i).ptwAccessException
  sharedTlbMiss := (comb cfg s i).sharedTlbMiss
  update :=
    if (comb cfg s i).sharedTlbUpdateValid then some (sharedTlbUpdateO cfg s i) else none

/-- What a run shows. -/
def views : State → List Input → List View
  | _, [] => []
  | s, i :: inputs => view cfg s i :: views (step cfg s i) inputs

/-- The walker serves a side, or looks at a miss of it. -/
def ServesSide (side : Side) : Prop :=
  if s.stateQ = .idle then i.itlbReq = side.isInstr else s.isInstrPtwQ = side.isInstr

/-- A walk starts, if any side is translated. -/
def lookupMissed : Bool := decide (s.stateQ = .idle) && i.sharedTlbAccess && !i.sharedTlbHit

/-- The settings of a side decide with which root and stages a walk of it starts. -/
def startDecided (own other : StEnbl) : Bool :=
  if own.g && own.s then true
  else if own.g then !(other.g && other.s)
  else if own.s then !other.g && (own.v || other.v) = own.v
  else !(other.g || other.s)

/-- The settings of a side decide what its walk installs. -/
def updateDecided (own other : StEnbl) : Bool :=
  if own.g && own.s then true
  else if own.g then !other.s
  else if own.s then !other.g
  else !(other.g || other.s)

/-- The condition on a cycle of a walk: where a walk starts, and where an entry has arrived, the
settings of its own side decide. -/
structure Decided (side : Side) : Prop where
  start : lookupMissed s i = true →
    startDecided (side.settings i) (side.other.settings i) = true
  update : looks s = true →
    updateDecided (side.settings i) (side.other.settings i) = true

end Code

/-! ## A walk with one side -/

/-- The input with the other side switched off. -/
def Input.alone (side : Side) (i : Input) : Input :=
  i.withOther side
    { i with
      enableTranslation := false
      enableGTranslation := false
      v := false
      enLdStTranslation := false
      enLdStGTranslation := false
      ldStV := false
      hlvxInst := false
      lsuIsStore := false
      mxr := false
      vmxr := false }

section Alone

variable {cfg : Cfg} {s : State} {i o : Input} {side : Side}

theorem alone_withOther : (i.withOther side o).alone side = i.alone side := by
  cases side <;> rfl

theorem settings_withOther : side.settings (i.withOther side o) = side.settings i := by
  cases side <;> rfl

theorem settings_alone : side.settings (i.alone side) = side.settings i :=
  settings_withOther

/-- A side is translated. -/
def translates (settings : StEnbl) : Bool := settings.g || settings.s

theorem missed_eq (rvh : cfg.rvh = true) :
    missed cfg i = ((translates (side.settings i) || translates (side.other.settings i)) &&
      (i.sharedTlbAccess && !i.sharedTlbHit)) := by
  rw [missed, anyStage1, anyStage2, translates, translates, rvh, Bool.and_assoc]
  cases side <;> simp only [Side.settings, Side.other] <;> cases i.enableTranslation <;>
    cases i.enableGTranslation <;> cases i.enLdStTranslation <;> cases i.enLdStGTranslation <;>
    rfl

theorem selections_eq (rvh : cfg.rvh = true) :
    nested cfg i = ((side.settings i).g && (side.settings i).s
        || (side.other.settings i).g && (side.other.settings i).s) ∧
      onlyStage2 cfg i = ((side.settings i).g && !(side.settings i).s
        || (side.other.settings i).g && !(side.other.settings i).s) ∧
      (i.v || i.ldStV) = ((side.settings i).v || (side.other.settings i).v) := by
  rw [nested, onlyStage2, rvh]
  cases side <;> simp only [Side.settings, Side.other] <;> cases i.enableTranslation <;>
    cases i.enableGTranslation <;> cases i.enLdStTranslation <;> cases i.enLdStGTranslation <;>
    simp [Bool.or_comm]

theorem startWalk_alone (next : State) (own : translates (side.settings i) = true)
    (rvh : cfg.rvh = true)
    (decided : startDecided (side.settings i) (side.other.settings i) = true) :
    startWalk cfg i next = startWalk cfg (i.alone side) next := by
  obtain ⟨nested, only, root⟩ := @selections_eq cfg i side rvh
  obtain ⟨nested', only', root'⟩ := @selections_eq cfg (i.alone side) side rvh
  have off : side.other.settings (i.alone side) = ⟨false, false, false⟩ := by
    cases side <;> rfl
  have frame : (i.alone side).sharedTlbVaddr = i.sharedTlbVaddr ∧
      (i.alone side).satpPpn = i.satpPpn ∧ (i.alone side).vsatpPpn = i.vsatpPpn ∧
        (i.alone side).hgatpPpn = i.hgatpPpn := by
    cases side <;> exact ⟨rfl, rfl, rfl, rfl⟩
  rw [settings_alone, off] at nested' only' root'
  obtain ⟨vaddr, satp, vsatp, hgatp⟩ := frame
  rw [startWalk, startWalk, nested, only, root, nested', only', root', vaddr, satp, vsatp, hgatp]
  revert own decided
  generalize side.settings i = own
  generalize side.other.settings i = other
  rcases own with ⟨v, g, s⟩
  rcases other with ⟨v', g', s'⟩
  cases g <;> cases s <;> cases g' <;> cases s' <;> cases v <;> cases v' <;>
    simp [translates, startDecided]

theorem idle_alone (rvh : cfg.rvh = true) (serves : i.itlbReq = side.isInstr)
    (decided : (i.sharedTlbAccess && !i.sharedTlbHit) = true →
      startDecided (side.settings i) (side.other.settings i) = true) :
    idle cfg s i = idle cfg s (i.alone side) := by
  have lookup : ((i.alone side).sharedTlbAccess && !(i.alone side).sharedTlbHit) =
      (i.sharedTlbAccess && !i.sharedTlbHit) := by cases side <;> rfl
  have quiet : translates (side.other.settings (i.alone side)) = false := by cases side <;> rfl
  have alone : missed cfg (i.alone side) = (translates (side.settings i) &&
      (i.sharedTlbAccess && !i.sharedTlbHit)) := by
    rw [@missed_eq cfg (i.alone side) side rvh, settings_alone, quiet, Bool.or_false, lookup]
  have both := @missed_eq cfg i side rvh
  cases looked : i.sharedTlbAccess && !i.sharedTlbHit with
  | false =>
    rw [looked, Bool.and_false] at alone both
    rw [idle, idle, alone, both]
    rfl
  | true =>
    have start := decided looked
    rw [looked, Bool.and_true] at alone both
    cases own : translates (side.settings i) with
    | false =>
      have off : translates (side.other.settings i) = false := by
        simp only [translates, Bool.or_eq_false_iff] at own
        simpa [startDecided, own, translates] using start
      rw [own] at alone both
      rw [off] at both
      rw [idle, idle, alone, both]
      rfl
    | true =>
      rw [own] at alone both
      rw [idle, idle, alone, both, Bool.true_or, if_pos rfl, if_pos rfl,
        startWalk_alone _ own rvh start]
      cases side with
      | fetch =>
        have request : i.itlbReq = true := serves
        simp [Input.alone, Input.withOther, request]
      | data =>
        have request : i.itlbReq = false := serves
        simp [Input.alone, Input.withOther, request]

theorem pteLookup_alone (serves : s.isInstrPtwQ = side.isInstr) :
    pteLookup cfg s i = pteLookup cfg s (i.alone side) := by
  have guest : gEnabled s (i.alone side) = gEnabled s i := by
    cases side <;> simp only [gEnabled, serves] <;> rfl
  have level : virtualized s (i.alone side) = virtualized s i := by
    cases side <;> simp only [virtualized, serves] <;> rfl
  have denied : (if s.isInstrPtwQ then fetchDenied cfg s else !dataAllowed cfg s (i.alone side)) =
      if s.isInstrPtwQ then fetchDenied cfg s else !dataAllowed cfg s i := by
    cases side <;> simp only [serves] <;> rfl
  have root : (i.alone side).hgatpPpn = i.hgatpPpn := by cases side <;> rfl
  have allowed : (i.alone side).allowAccess = i.allowAccess := by cases side <;> rfl
  simp only [pteLookup, pmpCheck, leaf, misaligned, permission, leafStage, lastStage, beyondGuest,
    pointer, nextTable, guest, level, denied, root, allowed]

theorem comb_alone (rvh : cfg.rvh = true) (serves : ServesSide s i side)
    (decided : Decided s i side) : comb cfg s i = comb cfg s (i.alone side) := by
  have flush : (i.alone side).flush = i.flush := by cases side <;> rfl
  have grant : (i.alone side).dataGnt = i.dataGnt := by cases side <;> rfl
  have same : unflushed cfg s i = unflushed cfg s (i.alone side) := by
    rw [ServesSide] at serves
    rw [unflushed, unflushed]
    cases state : s.stateQ with
    | idle =>
      rw [if_pos state] at serves
      apply idle_alone rvh serves
      intro looked
      apply decided.start
      rw [lookupMissed, decide_eq_true state, Bool.true_and, looked]
    | pteLookup =>
      rw [if_neg (by rw [state]; exact Fsm.noConfusion)] at serves
      exact pteLookup_alone serves
    | waitGrant => simp only [waitGrant, flush, grant]
    | _ => rfl
  rw [comb, comb, flush, same]

theorem stages_eq :
    (i.enableGTranslation && i.enableTranslation
        || i.enLdStGTranslation && i.enLdStTranslation) =
      ((side.settings i).g && (side.settings i).s
        || (side.other.settings i).g && (side.other.settings i).s) ∧
    (i.enableGTranslation || i.enLdStGTranslation) =
      ((side.settings i).g || (side.other.settings i).g) ∧
    (i.enableTranslation || i.enLdStTranslation) =
      ((side.settings i).s || (side.other.settings i).s) := by
  cases side <;> simp [Side.settings, Side.other, Bool.or_comm]

theorem update_alone (rvh : cfg.rvh = true)
    (decided : updateDecided (side.settings i) (side.other.settings i) = true)
    (same : comb cfg s i = comb cfg s (i.alone side)) :
    sharedTlbUpdateO cfg s i = sharedTlbUpdateO cfg s (i.alone side) := by
  obtain ⟨two, guest, first⟩ := @stages_eq i side
  obtain ⟨two', guest', first'⟩ := @stages_eq (i.alone side) side
  have off : side.other.settings (i.alone side) = ⟨false, false, false⟩ := by
    cases side <;> rfl
  rw [settings_alone, off] at two' guest' first'
  simp only [sharedTlbUpdateO, two, guest, first, two', guest', first', same, rvh]
  revert decided
  generalize side.settings i = own
  generalize side.other.settings i = other
  rcases own with ⟨v, g, s⟩
  rcases other with ⟨v', g', s'⟩
  cases g <;> cases s <;> cases g' <;> cases s' <;> simp [updateDecided]

theorem cycle_alone (rvh : cfg.rvh = true) (serves : ServesSide s i side)
    (decided : Decided s i side) :
    view cfg s i = view cfg s (i.alone side) ∧ step cfg s i = step cfg s (i.alone side) := by
  have same := comb_alone rvh serves decided
  constructor
  · have results : (if (comb cfg s i).sharedTlbUpdateValid then
        some (sharedTlbUpdateO cfg s i) else none) =
        if (comb cfg s i).sharedTlbUpdateValid then
          some (sharedTlbUpdateO cfg s (i.alone side)) else none := by
      split
      · next valid =>
        rw [update_alone rvh (decided.update (of_update valid).1) same]
      · rfl
    rw [view, view, results, same]
  · have data : (i.alone side).mbe = i.mbe ∧ (i.alone side).dataRdata = i.dataRdata ∧
        (i.alone side).dataRvalid = i.dataRvalid := by
      cases side <;> exact ⟨rfl, rfl, rfl⟩
    rw [step, step, same, data.1, data.2.1, data.2.2]

end Alone

/-! ## Two runs -/

/-- A cycle of two runs: an input, and another one whose settings of the other side are those of
the second run. -/
structure Pair where
  input : Input
  others : Input

/-- The input of the second run. -/
def Pair.second (side : Side) (pair : Pair) : Input := pair.input.withOther side pair.others

/-- In every cycle of both runs the walker serves the side, and its settings decide. -/
def Isolated (cfg : Cfg) (side : Side) : State → List Pair → Prop
  | _, [] => True
  | s, pair :: pairs =>
      ServesSide s pair.input side ∧ Decided s pair.input side ∧
        Decided s (pair.second side) side ∧
          Isolated cfg side (step cfg s pair.input) pairs

section Runs

variable {cfg : Cfg} {side : Side}

/-- Walks of a side are the same in two runs that differ in the settings of the other side, as
long as the settings of their own side decide in both. -/
theorem views_eq_of_isolated (rvh : cfg.rvh = true) (s : State) (pairs : List Pair)
    (isolated : Isolated cfg side s pairs) :
    views cfg s (pairs.map Pair.input) = views cfg s (pairs.map (Pair.second side)) := by
  induction pairs generalizing s with
  | nil => rfl
  | cons pair pairs inductionHypothesis =>
    obtain ⟨serves, first, second, rest⟩ := isolated
    have serves' : ServesSide s (pair.second side) side := by
      have request : (pair.second side).itlbReq = pair.input.itlbReq := by cases side <;> rfl
      rw [ServesSide, request]
      exact serves
    obtain ⟨shown, done⟩ := cycle_alone rvh serves first
    obtain ⟨shown', done'⟩ := cycle_alone rvh serves' second
    have alone : (pair.second side).alone side = pair.input.alone side := alone_withOther
    rw [alone] at shown' done'
    rw [List.map_cons, List.map_cons, views, views, shown, shown', done, done',
      ← inductionHypothesis _ (by rw [← done]; exact rest)]

end Runs

/-! ## A hypervisor that loads from its guest -/

/-- Sv39 with the hypervisor extension. -/
def sv39x4 : Cfg := ⟨true, 64, true, false⟩

/-- A miss of the hypervisor, which fetches through its own tables. Its loads and stores are those
of its guest, where `guest` is set. -/
def hypervisorMiss (itlbReq guest : Bool) : Input where
  flush := false
  enableTranslation := true
  enableGTranslation := false
  enLdStTranslation := true
  enLdStGTranslation := guest
  v := false
  ldStV := guest
  hlvxInst := false
  lsuIsStore := false
  dataGnt := false
  dataRvalid := false
  dataRdata := 0
  asid := 0
  vsAsid := 0
  vmid := 0
  sharedTlbAccess := true
  sharedTlbHit := false
  sharedTlbVaddr := 0
  itlbReq := itlbReq
  satpPpn := 1
  vsatpPpn := 2
  hgatpPpn := 4
  mxr := false
  vmxr := false
  mbe := false
  allowAccess := fun _ => true

/-- A walk for a load from the guest, with and without translated fetches. -/
def guestLoad : List Pair :=
  List.replicate 2
    ⟨hypervisorMiss false true, { hypervisorMiss false true with enableTranslation := false }⟩

theorem guestLoad_views_eq :
    views sv39x4 reset (guestLoad.map Pair.input) =
      views sv39x4 reset (guestLoad.map (Pair.second .data)) := by
  apply views_eq_of_isolated rfl
  exact ⟨rfl, ⟨by decide, by decide⟩, ⟨by decide, by decide⟩, rfl, ⟨by decide, by decide⟩,
    ⟨by decide, by decide⟩, trivial⟩

/-- A fetch of the hypervisor starts at the root of the guest while a load from the guest is
made. -/
theorem fetch_views_ne :
    ServesSide reset (hypervisorMiss true false) .fetch ∧
      ServesSide (step sv39x4 reset (hypervisorMiss true false)) (hypervisorMiss true false)
        .fetch ∧
      views sv39x4 reset [hypervisorMiss true false, hypervisorMiss true false] ≠
        views sv39x4 reset
          ([hypervisorMiss true false, hypervisorMiss true false].map
            (Input.withOther .fetch · (hypervisorMiss true true))) := by
  refine ⟨rfl, rfl, ?_⟩
  decide

end Cva6Hpd.Mmu.Ptw
