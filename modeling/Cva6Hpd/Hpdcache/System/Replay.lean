import Cva6Hpd.Hpdcache.CoreArbiter
import Cva6Hpd.Hpdcache.Rtab.Lists
import Cva6Hpd.Hpdcache.System.Cycle

/-!
# The replay table in the cache

What the controller asks of the replay table in a cycle is one of the
operations that keep its lists. `Replay` relates the request in stage 1 to the
table: a replayed request is the popped entry, and a new one found a free entry
and no request in the table that has to be executed in program order.
-/

namespace Cva6Hpd.Hpdcache.Top

open Cva6Hpd.Hw
open Cva6Hpd.Common

variable {cfg : Cfg}

/-- The popped entry whose request is in stage 1. -/
def popped (state : State cfg) : Option cfg.RtabPtr :=
  if state.ctrl.st1ReqValidQ && state.ctrl.st1ReqQ.fromRtab then
    some state.ctrl.st1RtabPopTryPtrQ
  else
    none

/-- A new request is in stage 1. -/
def NewInSt1 (state : State cfg) : Prop :=
  state.ctrl.st1ReqValidQ = true ∧ state.ctrl.st1ReqQ.fromRtab = false

theorem popped_eq_some_iff (state : State cfg) (i : cfg.RtabPtr) :
    popped state = some i ↔ state.ctrl.st1ReqValidQ = true ∧
      state.ctrl.st1ReqQ.fromRtab = true ∧ state.ctrl.st1RtabPopTryPtrQ = i := by
  rw [popped]
  split
  · rename_i inSt1
    rw [Bool.and_eq_true] at inSt1
    simp [inSt1]
  · rename_i notInSt1
    rw [Bool.and_eq_true, not_and] at notInSt1
    simp only [reduceCtorEq, false_iff, not_and]
    exact fun valid replayed => absurd replayed (notInSt1 valid)

/-- The request in stage 1 and the replay table, whose entries are limited to one
in the single-entry mode. -/
structure Replay (single : Bool) (state : State cfg) (lists : List (List cfg.RtabPtr)) :
    Prop where
  linked : Rtab.Lists state.ctrl.rtab (popped state) lists
  replayed : ∀ i, popped state = some i →
    state.ctrl.st1ReqQ.req = { (state.ctrl.rtab.reqQ i).req.req with physIndexed := true }
  free : NewInSt1 state → Rtab.full state.ctrl.rtab single = false
  unfenced : NewInSt1 state → ∀ i ∈ lists.flatten, Rtab.isFence state.ctrl.rtab i = false
  /-- A fence waits for the pending transactions only. -/
  waits : ∀ i ∈ lists.flatten, Rtab.isFence state.ctrl.rtab i = true →
    state.ctrl.rtab.depsQ i =
      { RtabDeps.none with pendTrans := (state.ctrl.rtab.depsQ i).pendTrans }

/-! ## The request in stage 1 -/

section Request

variable (state : State cfg) (input : Input cfg)

@[simp]
theorem addrSet_st1Req :
    (Ctrl.st1Req state.ctrl input.ctrl).req.addrSet = state.ctrl.st1ReqQ.req.addrSet := by
  rw [Ctrl.st1Req]
  split <;> rfl

theorem st1Req_of_replayed (replayed : state.ctrl.st1ReqQ.fromRtab = true) :
    Ctrl.st1Req state.ctrl input.ctrl = state.ctrl.st1ReqQ := by
  rw [Ctrl.st1Req, if_pos replayed]

theorem st1ReqRtab_peIn : (peIn state input).st1ReqRtab = state.ctrl.st1ReqQ.fromRtab :=
  Ctrl.fromRtab_st1Req

theorem isCmoh_peIn : (peIn state input).isCmoh = state.ctrl.st1ReqQ.req.op.isCmoh :=
  Ctrl.isCmoh_peIn

/-- The entry that the request in stage 1 is put in the table as. -/
def heldEntry : Rtab.Entry cfg where
  req := Ctrl.st1Req state.ctrl input.ctrl
  wayFetch := (units state input).dirHitWay.lastIndex

variable {state input}

theorem st1Fence_eq (notCmoh : (peIn state input).isCmoh = false)
    (enabled : state.ctrl.st1ReqQ.fromRtab = true →
      input.ctrl.cfgEnable = true ∨ state.ctrl.st1ReqQ.req.pma.uncacheable = true) :
    (peIn state input).st1Fence = (heldEntry state input).isFence := by
  have uncacheable : Ctrl.st1ReqIsUncacheable state.ctrl input.ctrl =
      (Ctrl.st1Req state.ctrl input.ctrl).req.pma.uncacheable := by
    cases replayed : state.ctrl.st1ReqQ.fromRtab with
    | true =>
        rw [Ctrl.st1ReqIsUncacheable, st1Req_of_replayed state input replayed]
        rcases enabled replayed with on | unc
        · rw [on]
          rfl
        · rw [unc, Bool.or_true]
    | false =>
        simp only [Ctrl.st1ReqIsUncacheable, Ctrl.st1Req, replayed, Ctrl.st1ReqPma, Ctrl.forcePma]
        cases input.ctrl.cfgEnable <;> simp
  simp only [PeIn.isCmoh, Bool.or_eq_false_iff] at notCmoh
  simp only [PeIn.st1Fence, Rtab.Entry.isFence, heldEntry, notCmoh, Bool.or_false]
  rw [← uncacheable]
  rfl

theorem fence_of_held (isFence : (heldEntry state input).isFence = true) :
    (peIn state input).st1Fence = true := by
  have amo : (peIn state input).st1ReqIsAmo = (heldEntry state input).req.req.op.isAmo := rfl
  have uncacheable : (peIn state input).st1ReqIsUncacheable =
      (!input.ctrl.cfgEnable || (heldEntry state input).req.req.pma.uncacheable) := rfl
  rw [Rtab.Entry.isFence, Bool.or_eq_true] at isFence
  rcases isFence with isAmo | isUncacheable
  · simp [PeIn.st1Fence, amo, isAmo]
  · simp [PeIn.st1Fence, uncacheable, isUncacheable]

theorem Replay.isFence_held {single : Bool} {lists : List (List cfg.RtabPtr)}
    (replay : Replay single state lists) {i : cfg.RtabPtr} (isPopped : popped state = some i) :
    (heldEntry state input).isFence = Rtab.isFence state.ctrl.rtab i := by
  have replayed := ((popped_eq_some_iff state i).mp isPopped).2.1
  rw [Rtab.Entry.isFence, heldEntry, st1Req_of_replayed state input replayed,
    replay.replayed i isPopped]
  rfl

theorem Replay.nline_held {single : Bool} {lists : List (List cfg.RtabPtr)}
    (replay : Replay single state lists) {i : cfg.RtabPtr} (isPopped : popped state = some i) :
    (heldEntry state input).req.req.nline = Rtab.nline state.ctrl.rtab i := by
  have replayed := ((popped_eq_some_iff state i).mp isPopped).2.1
  rw [heldEntry, st1Req_of_replayed state input replayed, replay.replayed i isPopped]
  rfl

end Request

/-! ## Operations on the table -/

/-- What a cycle has to meet for the table to stay in order: no unrecoverable error
hits a replayed request, the cache is not disabled while a cacheable one is replayed,
and a fence in stage 1 waits for nothing but the pending transactions, which it does
unless its line is marked as being fetched or the flush controller is not ready. -/
structure Orderly (single : Bool) (state : State cfg) (input : Input cfg) : Prop where
  recovers : state.ctrl.st1ReqQ.fromRtab = true → ¬Unrecoverable cfg (peIn state input)
  enabled : state.ctrl.st1ReqQ.fromRtab = true →
    input.ctrl.cfgEnable = true ∨ state.ctrl.st1ReqQ.req.pma.uncacheable = true
  waits : (peIn state input).st1Fence = true →
    (effects state input).deps = (peIn state input).baseDeps
  steady : input.ctrl.cfgRtabSingleEntry = single

section Operations

variable {single : Bool} {state : State cfg} {input : Input cfg}
  {lists : List (List cfg.RtabPtr)}

/-- The inputs of the replay table. -/
def rtabInput (state : State cfg) (input : Input cfg) : Rtab.Input cfg :=
  Ctrl.rtabInput state.ctrl input.ctrl (units state input) (late state input)

theorem rtab_step (state : State cfg) (input : Input cfg) :
    (step state input).ctrl.rtab = Rtab.step state.ctrl.rtab (rtabInput state input) :=
  rfl

theorem operations_rtabInput (state : State cfg) (input : Input cfg) :
    (rtabInput state input).operations =
      ((effects state input).hold && !state.ctrl.st1ReqQ.fromRtab, (effects state input).link,
        (effects state input).commit,
        (effects state input).hold && state.ctrl.st1ReqQ.fromRtab) := by
  rw [← st1ReqRtab_peIn state input]
  rfl

theorem noPop_of_nop (calm : Calm state) (bubble : (effects state input).nop = true) :
    (rtabInput state input).popTry = false := by
  rw [Bool.eq_false_iff]
  intro pop
  have noNop := (replays_of_rtab calm.unscrubbed pop).noNop
  rw [nop, Bool.or_eq_false_iff] at noNop
  rw [show (effects state input).nop = (pe state input).st1Nop from rfl, noNop.1] at bubble
  contradiction

theorem not_all_of_not_full {table : Rtab.State cfg} (room : Rtab.full table single = false) :
    table.validQ.all = false :=
  (Bool.or_eq_false_iff.mp room).1

/-- The controller asks for one of the operations that keep the lists. -/
theorem Replay.operation (replay : Replay single state lists) (calm : Calm state)
    (orderly : Orderly single state input) :
    Rtab.Operation state.ctrl.rtab (rtabInput state input) lists (popped state) := by
  have operations := operations_rtabInput state input
  rcases calm.turn input with ⟨empty, idle⟩ | ⟨valid, _, decision⟩
  · have noPopped : popped state = none := by simp [popped, empty]
    rw [idle] at operations
    rw [noPopped]
    exact .idle operations
  · cases replayed : state.ctrl.st1ReqQ.fromRtab with
    | false =>
        have noPopped : popped state = none := by simp [popped, replayed]
        have isNew : NewInSt1 state := ⟨valid, replayed⟩
        have free := not_all_of_not_full (replay.free isNew)
        have rtab : (peIn state input).st1ReqRtab = false := by rw [st1ReqRtab_peIn, replayed]
        have hit : (peIn state input).rtabCheckHit =
            Rtab.checkHit state.ctrl.rtab (Ctrl.st1ReqNline state.ctrl input.ctrl) := rfl
        rw [noPopped]
        rw [replayed] at operations
        cases decision.table with
        | done hold link commit =>
            exact .idle (by rw [operations, hold, link, commit, rtab]; rfl)
        | held hold link commit bubble executes =>
            apply Rtab.Operation.alloc (by rw [operations, hold, link, commit]; rfl)
              (noPop_of_nop calm bubble) free
            intro notFence i inside line
            have check : (peIn state input).rtabCheck = true := by
              have notHeldFence : (heldEntry state input).isFence = false := notFence
              rw [PeIn.rtabCheck, rtab, st1Fence_eq executes.notCmoh orderly.enabled, notHeldFence]
              rfl
            have miss := executes.unlinked check
            rw [hit, Rtab.checkHit, Bits.any_eq_false_iff] at miss
            have known := miss i
            rw [Rtab.checkHitBv, (replay.linked.valid i).mpr inside, line] at known
            simp [Ctrl.st1ReqNline, rtabInput, Ctrl.rtabInput] at known
        | linked hold link commit bubble check hits noDeps =>
            apply Rtab.Operation.link (by rw [operations, hold, link, commit]; rfl)
              (noPop_of_nop calm bubble) free noDeps rfl ?_ ?_ (replay.unfenced isNew)
            · exact Bool.eq_false_iff.mpr fun isFence => by
                simp [PeIn.rtabCheck, fence_of_held isFence] at check
            rw [hit, Rtab.checkHit, Bits.any_eq_true_iff] at hits
            rcases hits with ⟨i, known⟩
            rw [Rtab.checkHitBv, Bool.and_eq_true, decide_eq_true_eq] at known
            exact ⟨i, (replay.linked.valid i).mp known.1, known.2.symm⟩
        | cmoh hold link commit cmoh =>
            exact .idle (by rw [operations, hold, link, commit]; rfl)
        | lost hold link commit =>
            exact .idle (by rw [operations, hold, link, commit]; rfl)
    | true =>
        have isPopped : popped state = some state.ctrl.st1RtabPopTryPtrQ :=
          (popped_eq_some_iff _ _).mpr ⟨valid, replayed, rfl⟩
        have rtab : (peIn state input).st1ReqRtab = true := by rw [st1ReqRtab_peIn, replayed]
        have notCmoh : (peIn state input).isCmoh = false :=
          (isCmoh_peIn state input).trans (calm.noCmoh.replayed replayed)
        rw [isPopped]
        rw [replayed] at operations
        rcases decision.commits_or_holds rtab notCmoh (orderly.recovers replayed) with
          ⟨link, ⟨commit, hold⟩ | ⟨commit, hold, bubble⟩⟩
        · exact .commit _ (by rw [operations, hold, link, commit]; rfl) rfl
        · exact .rback _ (by rw [operations, hold, link, commit]; rfl)
            (noPop_of_nop calm bubble) rfl (replay.nline_held isPopped)
            (replay.isFence_held isPopped)

end Operations

/-! ## One cycle -/

section Step

variable {single : Bool} {state : State cfg} {input : Input cfg}
  {lists : List (List cfg.RtabPtr)}

/-- A request that enters stage 1 finds nothing put in the table. -/
theorem Calm.quiet (calm : Calm state) (enters : nop state input = false) :
    (effects state input).hold = false ∧ (effects state input).link = false := by
  rw [nop, Bool.or_eq_false_iff] at enters
  rcases calm.turn input with ⟨_, idle⟩ | ⟨_, _, decision⟩
  · rw [idle]
    exact ⟨rfl, rfl⟩
  · rcases decision.quiet_of_no_nop enters.1 with ⟨hold, link, _⟩
    exact ⟨hold, link⟩

theorem st1ReqQ_step
    (accepted : ((pe state input).coreReqReady || (pe state input).rtabReqReady) = true) :
    (step state input).ctrl.st1ReqQ = Ctrl.st0Req state.ctrl input.ctrl :=
  if_pos accepted

theorem fromRtab_of_core (calm : Calm state) (core : (pe state input).coreReqReady = true) :
    (step state input).ctrl.st1ReqQ.fromRtab = false := by
  rcases free_of_core calm.unscrubbed core with ⟨free, noScrub⟩
  rw [st1ReqQ_step (by rw [core]; rfl), Ctrl.st0Req, free.noReplay, noScrub]
  rfl

theorem st1ReqQ_of_rtab (calm : Calm state) (rtab : (pe state input).rtabReqReady = true) :
    (step state input).ctrl.st1ReqQ =
      { (Rtab.popTryReq state.ctrl.rtab).req with
        req := { (Rtab.popTryReq state.ctrl.rtab).req.req with physIndexed := true }
        fromRtab := true } := by
  rw [st1ReqQ_step (by rw [rtab, Bool.or_true]), Ctrl.st0Req,
    (replays_of_rtab calm.unscrubbed rtab).valid]
  rfl

theorem Calm.core_of_new (calm : Calm state) (new : NewInSt1 (Top.step state input)) :
    (pe state input).coreReqReady = true := by
  have entered : (Top.step state input).ctrl.st1ReqValidQ = _ := calm.st1ReqValid_next
  rw [new.1, eq_comm, Bool.or_eq_true] at entered
  rcases entered with core | rtab
  · exact core
  · have replayed := new.2
    rw [st1ReqQ_of_rtab calm rtab] at replayed
    contradiction

theorem Calm.popped_step (calm : Calm state) :
    popped (Top.step state input) =
      Rtab.poppedNext state.ctrl.rtab (rtabInput state input) := by
  have entered : (Top.step state input).ctrl.st1ReqValidQ = _ := calm.st1ReqValid_next
  rw [Rtab.poppedNext, show (rtabInput state input).popTry = (pe state input).rtabReqReady from rfl]
  cases rtab : (pe state input).rtabReqReady with
  | true =>
      rw [if_pos rfl, popped_eq_some_iff, entered, rtab, Bool.or_true, st1ReqQ_of_rtab calm rtab]
      exact ⟨rfl, rfl, if_pos rtab⟩
  | false =>
      rw [if_neg Bool.false_ne_true, popped, if_neg]
      rw [Bool.and_eq_true]
      rintro ⟨valid, replayed⟩
      rw [entered, rtab, Bool.or_false] at valid
      rw [fromRtab_of_core calm valid] at replayed
      contradiction

/-- The entry is written in this cycle. -/
def stores (state : State cfg) (input : Input cfg) (i : cfg.RtabPtr) : Bool :=
  Rtab.allocBv state.ctrl.rtab (rtabInput state input) i ||
    Rtab.popRbackBv (rtabInput state input) i

theorem reqQ_stored (i : cfg.RtabPtr) : (step state input).ctrl.rtab.reqQ i =
    if stores state input i then heldEntry state input else state.ctrl.rtab.reqQ i :=
  rfl

theorem depsQ_stored (i : cfg.RtabPtr) : (step state input).ctrl.rtab.depsQ i =
    Rtab.updateDeps (state.ctrl.rtab.depsQ i)
      (if stores state input i then (effects state input).deps else RtabDeps.none)
      (Rtab.depsRst state.ctrl.rtab (rtabInput state input) i) :=
  rfl

theorem stores_of_quiet (quiet : (effects state input).hold = false ∧
    (effects state input).link = false) (i : cfg.RtabPtr) : stores state input i = false := by
  have operations := operations_rtabInput state input
  rw [quiet.1, quiet.2] at operations
  simp only [Rtab.Input.operations, Bool.false_and, Prod.mk.injEq] at operations
  simp [stores, Rtab.allocBv, Rtab.popRbackBv, operations]

theorem valid_of_quiet (quiet : (effects state input).hold = false ∧
    (effects state input).link = false) {i : cfg.RtabPtr}
    (valid : (step state input).ctrl.rtab.validQ i = true) :
    state.ctrl.rtab.validQ i = true ∧
      Rtab.popCommitBv (rtabInput state input) i = false := by
  have none := stores_of_quiet quiet i
  rw [stores, Bool.or_eq_false_iff] at none
  simpa [rtab_step, Rtab.step, Rtab.setReset, none.1] using valid

theorem Calm.valid_of_hold (calm : Calm state) (hold : (effects state input).hold = true) :
    state.ctrl.st1ReqValidQ = true := by
  rcases calm.turn input with ⟨_, idle⟩ | ⟨valid, _, _⟩
  · rw [idle] at hold
    contradiction
  · exact valid

theorem Calm.linked (calm : Calm state) (link : (rtabInput state input).allocAndLink = true) :
    NewInSt1 state ∧ (peIn state input).rtabCheck = true ∧
      (peIn state input).rtabCheckHit = true ∧ (effects state input).hold = false := by
  have links : (effects state input).link = true := link
  rcases calm.turn input with ⟨_, idle⟩ | ⟨valid, _, decision⟩
  · rw [idle] at links
    contradiction
  · cases decision.table with
    | linked hold _ _ _ check hit =>
        have new := check
        simp only [PeIn.rtabCheck, Bool.and_eq_true, Bool.not_eq_true'] at new
        exact ⟨⟨valid, by rw [← st1ReqRtab_peIn state input, new.1]⟩, check, hit, hold⟩
    | done _ noLink | held _ noLink | cmoh _ noLink | lost _ noLink =>
        rw [noLink] at links
        contradiction

theorem Calm.new_of_asked (calm : Calm state)
    (asked : ((rtabInput state input).alloc || (rtabInput state input).allocAndLink) = true) :
    NewInSt1 state := by
  have operations := operations_rtabInput state input
  simp only [Rtab.Input.operations, Prod.mk.injEq] at operations
  rw [Bool.or_eq_true] at asked
  rcases asked with alloc | link
  · rw [operations.1, Bool.and_eq_true, Bool.not_eq_true'] at alloc
    exact ⟨calm.valid_of_hold alloc.1, alloc.2⟩
  · exact (calm.linked link).1

theorem Calm.stored (calm : Calm state) {i : cfg.RtabPtr} (writes : stores state input i = true) :
    (state.ctrl.rtab.validQ i = false ∧ NewInSt1 state) ∨ popped state = some i := by
  have operations := operations_rtabInput state input
  simp only [Rtab.Input.operations, Prod.mk.injEq] at operations
  rw [stores, Bool.or_eq_true] at writes
  rcases writes with alloc | back
  · simp only [Rtab.allocBv, Bool.and_eq_true, Rtab.freeAlloc] at alloc
    exact Or.inl ⟨by simpa using Bits.lowest_le alloc.1, calm.new_of_asked alloc.2⟩
  · simp only [Rtab.popRbackBv, Bool.and_eq_true, decide_eq_true_eq, operations.2.2.2] at back
    exact Or.inr ((popped_eq_some_iff _ _).mpr
      ⟨calm.valid_of_hold back.1.1, back.1.2, back.2.symm⟩)

/-- Requests that stay in the table keep their line, and whether they are fences. -/
theorem Replay.entry_step (replay : Replay single state lists) (calm : Calm state)
    {i : cfg.RtabPtr} (valid : state.ctrl.rtab.validQ i = true) :
    Rtab.isFence (step state input).ctrl.rtab i = Rtab.isFence state.ctrl.rtab i := by
  rw [Rtab.isFence, reqQ_stored]
  split
  · rename_i writes
    rcases calm.stored writes with ⟨invalid, _⟩ | isPopped
    · rw [valid] at invalid
      contradiction
    · exact replay.isFence_held isPopped
  · rfl

/-- A fence that no request may overtake: it is not ready, or it is replayed. -/
theorem Replay.passed (replay : Replay single state lists) (calm : Calm state)
    (orderly : Orderly single state input)
    (free : Free state input) {i : cfg.RtabPtr} (inside : i ∈ lists.flatten)
    (isFence : Rtab.isFence state.ctrl.rtab i = true) :
    Rtab.popCommitBv (rtabInput state input) i = true := by
  have noDeps : state.ctrl.rtab.depsQ i = RtabDeps.none := by
    have waits := replay.waits i inside isFence
    have absent := (Bits.any_eq_false_iff _).mp free.noFence i
    rw [Rtab.fenceBv] at absent
    rw [waits, absent]
    rfl
  have notReady := free.noReplay
  rcases replay.linked.first i [] (replay.linked.alone inside isFence) with
    head | isPopped | ⟨waiting, _⟩
  · have isReady := (Rtab.ready_iff _ _).mpr ⟨(replay.linked.valid i).mpr inside, head, noDeps⟩
    rw [Rtab.popTryValid] at notReady
    split at notReady
    · rw [Bits.any_eq_false_iff] at notReady
      rw [notReady i] at isReady
      contradiction
    all_goals contradiction
  · rcases (popped_eq_some_iff _ _).mp isPopped with ⟨valid, replayed, ptr⟩
    have rtab : (peIn state input).st1ReqRtab = true := by rw [st1ReqRtab_peIn, replayed]
    have notCmoh : (peIn state input).isCmoh = false :=
      (isCmoh_peIn state input).trans (calm.noCmoh.replayed replayed)
    rcases calm.turn input with ⟨empty, _⟩ | ⟨_, _, decision⟩
    · rw [valid] at empty
      contradiction
    · rcases decision.commits_or_holds rtab notCmoh (orderly.recovers replayed) with
        ⟨_, ⟨commit, _⟩ | ⟨_, hold, _⟩⟩
      · have commits : (rtabInput state input).popCommit = true := commit
        rw [Rtab.popCommitBv, commits, Bool.true_and, decide_eq_true_eq]
        exact ptr.symm
      · rw [(calm.quiet free.noNop).1] at hold
        contradiction
  · simp [Rtab.popTryValid, waiting] at notReady

theorem Replay.fence_step (replay : Replay single state lists) (calm : Calm state)
    {i : cfg.RtabPtr} (valid : (Top.step state input).ctrl.rtab.validQ i = true)
    (isFence : Rtab.isFence (Top.step state input).ctrl.rtab i = true) :
    (i ∈ lists.flatten ∧ Rtab.isFence state.ctrl.rtab i = true) ∨
      (i ∉ lists.flatten ∧ stores state input i = true ∧
        (heldEntry state input).isFence = true) := by
  by_cases before : i ∈ lists.flatten
  · rw [replay.entry_step calm ((replay.linked.valid i).mpr before)] at isFence
    exact Or.inl ⟨before, isFence⟩
  · have free : state.ctrl.rtab.validQ i = false :=
      Bool.eq_false_iff.mpr fun valid => before ((replay.linked.valid i).mp valid)
    rw [rtab_step, Rtab.step] at valid
    simp only [Rtab.setReset, free, Bool.not_false, Bool.true_and, Bool.false_and,
      Bool.or_false] at valid
    have writes : stores state input i = true := by rw [stores, valid, Bool.true_or]
    rw [Rtab.isFence, reqQ_stored, if_pos writes] at isFence
    exact Or.inr ⟨before, writes, isFence⟩

theorem Calm.fence_stored (calm : Calm state) (orderly : Orderly single state input)
    {i : cfg.RtabPtr} (writes : stores state input i = true) :
    (effects state input).deps.pendTrans = (heldEntry state input).isFence := by
  have silent (hold : (effects state input).hold = false)
      (link : (effects state input).link = false) : False := by
    rw [stores_of_quiet ⟨hold, link⟩ i] at writes
    contradiction
  rcases calm.turn input with ⟨_, idle⟩ | ⟨_, _, decision⟩
  · exact (silent (by rw [idle]; rfl) (by rw [idle]; rfl)).elim
  · rw [decision.pendTrans_deps]
    cases decision.table with
    | done hold link => exact (silent hold link).elim
    | held _ _ _ _ executes => exact st1Fence_eq executes.notCmoh orderly.enabled
    | linked _ _ _ _ check =>
        simp only [PeIn.rtabCheck, Bool.and_eq_true, Bool.not_eq_true'] at check
        rw [check.2, eq_comm, Bool.eq_false_iff]
        intro isFence
        rw [fence_of_held isFence] at check
        exact Bool.noConfusion check.2
    | cmoh hold link => exact (silent hold link).elim
    | lost hold link => exact (silent hold link).elim

theorem Replay.depsQ_written (replay : Replay single state lists) (calm : Calm state)
    {i : cfg.RtabPtr} (writes : stores state input i = true) :
    (Top.step state input).ctrl.rtab.depsQ i = (effects state input).deps := by
  have noDeps : state.ctrl.rtab.depsQ i = RtabDeps.none := by
    rcases calm.stored writes with ⟨invalid, _⟩ | isPopped
    · refine (replay.linked.outside fun inside => ?_).2
      rw [(replay.linked.valid i).mpr inside] at invalid
      contradiction
    · exact (replay.linked.poppedFirst i isPopped).2.2
  rw [depsQ_stored, if_pos writes, noDeps, Rtab.updateDeps_none]

theorem updateDeps_pendTrans (pend : Bool) (rst : RtabDeps) :
    Rtab.updateDeps { RtabDeps.none with pendTrans := pend } RtabDeps.none rst =
      { RtabDeps.none with pendTrans := pend && !rst.pendTrans } := by
  simp [Rtab.updateDeps, Rtab.setReset, RtabDeps.none]

theorem Replay.depsQ_step (replay : Replay single state lists) (calm : Calm state)
    (orderly : Orderly single state input) {i : cfg.RtabPtr}
    (valid : (Top.step state input).ctrl.rtab.validQ i = true)
    (isFence : Rtab.isFence (Top.step state input).ctrl.rtab i = true) :
    (Top.step state input).ctrl.rtab.depsQ i = { RtabDeps.none with
      pendTrans := if stores state input i then true else
        (state.ctrl.rtab.depsQ i).pendTrans &&
          !(Rtab.depsRst state.ctrl.rtab (rtabInput state input) i).pendTrans } := by
  have turn := replay.fence_step calm valid isFence
  cases writes : stores state input i with
  | true =>
      rw [Rtab.isFence, reqQ_stored, if_pos writes] at isFence
      have fence := fence_of_held isFence
      rw [replay.depsQ_written calm writes, if_pos rfl, orderly.waits fence, PeIn.baseDeps, fence]
  | false =>
      rcases turn with ⟨before, wasFence⟩ | ⟨_, stored, _⟩
      · rw [depsQ_stored, writes, if_neg Bool.false_ne_true, if_neg Bool.false_ne_true,
          ← updateDeps_pendTrans, ← replay.waits i before wasFence]
      · rw [writes] at stored
        contradiction

theorem Replay.step (replay : Replay single state lists) (calm : Calm state)
    (orderly : Orderly single state input) :
    ∃ lists', Rtab.Change state.ctrl.rtab (rtabInput state input) (popped state) lists lists' ∧
      Replay single (Top.step state input) lists' := by
  have pops : (rtabInput state input).popTry = true →
      Rtab.popTryValid state.ctrl.rtab = true := fun pop =>
    (replays_of_rtab calm.unscrubbed pop).valid
  rcases replay.linked.step_operation (replay.operation calm orderly) pops with
    ⟨lists', change, linked⟩
  rw [← rtab_step, ← calm.popped_step] at linked
  refine ⟨lists', change, ?_⟩
  constructor
  · exact linked
  · intro i isPopped
    rw [calm.popped_step, Rtab.poppedNext] at isPopped
    split at isPopped
    · rename_i pop
      have quiet := calm.quiet (replays_of_rtab calm.unscrubbed pop).noNop
      rcases replay.linked.popSel_single (pops pop) with ⟨j, sel, ptr, _, _⟩
      rw [Option.some.injEq] at isPopped
      rw [st1ReqQ_of_rtab calm pop, reqQ_stored, if_neg (by simp [stores_of_quiet quiet]),
        ← isPopped]
      simp [Rtab.popTryReq, sel]
    · contradiction
  · intro new
    have free := (free_of_core calm.unscrubbed (calm.core_of_new new)).1
    have kept (i : cfg.RtabPtr) := valid_of_quiet (i := i) (calm.quiet free.noNop)
    have room := free.notFull
    rw [orderly.steady, Bool.eq_false_iff] at room
    rw [Bool.eq_false_iff]
    intro full
    apply room
    rw [Rtab.full, Bool.or_eq_true, Bool.and_eq_true, Bits.all_eq_true_iff,
      Bits.any_eq_true_iff] at full ⊢
    exact full.imp (fun all i => (kept i (all i)).1)
      (fun some => ⟨some.1.imp fun i valid => (kept i valid).1, some.2⟩)
  · intro new i inside
    have free := (free_of_core calm.unscrubbed (calm.core_of_new new)).1
    rcases valid_of_quiet (calm.quiet free.noNop) ((linked.valid i).mpr inside) with
      ⟨valid, stays⟩
    rw [replay.entry_step calm valid, Bool.eq_false_iff]
    intro isFence
    rw [replay.passed calm orderly free ((replay.linked.valid i).mp valid) isFence] at stays
    contradiction
  · intro i inside isFence
    rw [replay.depsQ_step calm orderly ((linked.valid i).mpr inside) isFence]

theorem replay_reset (single : Bool) (powerUp : PowerUp cfg) :
    Replay single (reset powerUp) [] where
  linked := Rtab.lists_reset
  replayed := fun _ isPopped => by simp [popped, reset, Ctrl.reset] at isPopped
  free := fun new => absurd new.1 Bool.false_ne_true
  unfenced := fun new => absurd new.1 Bool.false_ne_true
  waits := fun _ inside => absurd inside List.not_mem_nil

end Step

/-! ## The order of the requests -/

/-- When each entry was put in the table. -/
structure Stamps (cfg : Cfg) where
  now : Nat
  stamp : cfg.RtabPtr → Nat

def Stamps.record (state : State cfg) (input : Input cfg) (stamps : Stamps cfg) : Stamps cfg where
  now := stamps.now + 1
  stamp i :=
    if Rtab.allocBv state.ctrl.rtab (rtabInput state input) i then stamps.now else stamps.stamp i

/-- The cache with the stamps of the entries. -/
def stamped (powerUp : PowerUp cfg) : Machine (State cfg × Stamps cfg) (Input cfg) :=
  (machine powerUp).withHistory ⟨0, fun _ => 0⟩ Stamps.record

/-- The lists are in the order in which their entries were put in the table. Nothing
is put in it after a fence, and only a fence waits for the pending transactions,
unless nothing else is in the table. -/
structure InOrder (state : State cfg) (stamps : Stamps cfg) (lists : List (List cfg.RtabPtr)) :
    Prop where
  past : ∀ i ∈ lists.flatten, stamps.stamp i < stamps.now
  sorted : ∀ list ∈ lists, list.Pairwise fun i j => stamps.stamp i < stamps.stamp j
  fenceLast : ∀ i ∈ lists.flatten, ∀ j ∈ lists.flatten, i ≠ j →
    Rtab.isFence state.ctrl.rtab j = true → stamps.stamp i < stamps.stamp j
  pending : ∀ i ∈ lists.flatten, Rtab.fenceBv state.ctrl.rtab i = true →
    Rtab.isFence state.ctrl.rtab i = true
  alone : ∀ i ∈ lists.flatten, Rtab.isFence state.ctrl.rtab i = true →
    Rtab.fenceBv state.ctrl.rtab i = false → ∀ j ∈ lists.flatten, j = i

section Order

variable {single : Bool} {state : State cfg} {input : Input cfg}
  {lists : List (List cfg.RtabPtr)} {stamps : Stamps cfg}

/-- An entry that is put in the table was free, and its request is a new one. -/
theorem Replay.allocated (replay : Replay single state lists) (calm : Calm state)
    {i : cfg.RtabPtr}
    (puts : Rtab.allocBv state.ctrl.rtab (rtabInput state input) i = true) :
    NewInSt1 state ∧ i = Rtab.freePtr state.ctrl.rtab ∧ i ∉ lists.flatten := by
  have isFree : Rtab.freeAlloc state.ctrl.rtab i = true := by
    rw [Rtab.allocBv, Bool.and_eq_true] at puts
    exact puts.1
  have invalid : state.ctrl.rtab.validQ i = false := by
    rw [Rtab.freeAlloc] at isFree
    simpa using Bits.lowest_le isFree
  have outside : i ∉ lists.flatten := by
    rw [← replay.linked.valid, invalid]
    exact Bool.false_ne_true
  have new : NewInSt1 state := by
    rcases calm.stored (show stores state input i = true by rw [stores, puts, Bool.true_or]) with
      ⟨_, new⟩ | isPopped
    · exact new
    · rcases (replay.linked.poppedFirst i isPopped).1 with ⟨rest, member⟩
      exact absurd (Rtab.mem_flatten_first member) outside
  have single := (Rtab.freeAlloc_single (not_all_of_not_full (replay.free new))).1
  rw [single, Bits.single_eq_true_iff] at isFree
  exact ⟨new, isFree, outside⟩

theorem InOrder.fence_unique (order : InOrder state stamps lists) {i j : cfg.RtabPtr}
    (insideI : i ∈ lists.flatten) (insideJ : j ∈ lists.flatten)
    (fenceI : Rtab.isFence state.ctrl.rtab i = true)
    (fenceJ : Rtab.isFence state.ctrl.rtab j = true) : j = i := by
  by_contra other
  exact Nat.lt_asymm (order.fenceLast i insideI j insideJ (Ne.symm other) fenceJ)
    (order.fenceLast j insideJ i insideI other fenceI)

/-- A fence that no longer waits is the only entry. -/
theorem InOrder.alone_of_released (order : InOrder state stamps lists)
    (replay : Replay single state lists) {i : cfg.RtabPtr} (inside : i ∈ lists.flatten)
    (isFence : Rtab.isFence state.ctrl.rtab i = true)
    (released : (Rtab.fenceBv state.ctrl.rtab i &&
      !(Rtab.depsRst state.ctrl.rtab (rtabInput state input) i).pendTrans) = false) :
    ∀ j ∈ lists.flatten, j = i := by
  cases waits : Rtab.fenceBv state.ctrl.rtab i with
  | false => exact order.alone i inside isFence waits
  | true =>
      intro j insideJ
      rw [waits, Bool.true_and, Bool.not_eq_false'] at released
      simp only [Rtab.depsRst, Rtab.fenceOnly, Bool.and_eq_true, decide_eq_true_eq] at released
      have waitsJ := (released.2 j).symm.trans ((replay.linked.valid j).mpr insideJ)
      exact order.fence_unique inside insideJ isFence (order.pending j insideJ waitsJ)

theorem InOrder.step (order : InOrder state stamps lists) (replay : Replay single state lists)
    (calm : Calm state) (orderly : Orderly single state input)
    {lists' : List (List cfg.RtabPtr)}
    (change : Rtab.Change state.ctrl.rtab (rtabInput state input) (popped state) lists lists')
    (next : Replay single (Top.step state input) lists') :
    InOrder (Top.step state input) (stamps.record state input) lists' := by
  have kept {i : cfg.RtabPtr} (inside : i ∈ lists.flatten) :
      (stamps.record state input).stamp i = stamps.stamp i :=
    if_neg fun puts => (replay.allocated calm puts).2.2 inside
  have fresh {i : cfg.RtabPtr}
      (puts : Rtab.allocBv state.ctrl.rtab (rtabInput state input) i = true) :
      (stamps.record state input).stamp i = stamps.now :=
    if_pos puts
  -- What the table holds was there before, or is put there.
  have source {i : cfg.RtabPtr} (inside : i ∈ lists'.flatten) : i ∈ lists.flatten ∨
      Rtab.allocBv state.ctrl.rtab (rtabInput state input) i = true := by
    have valid := (next.linked.valid i).mpr inside
    simp only [rtab_step, Rtab.step, Rtab.setReset, Bool.or_eq_true, Bool.and_eq_true] at valid
    rw [← replay.linked.valid]
    tauto
  constructor
  · intro i inside
    rcases source inside with old | puts
    · rw [kept old]
      exact Nat.lt_succ_of_lt (order.past i old)
    · rw [fresh puts]
      exact Nat.lt_succ_self _
  · refine change.sorted (fun list member => ?_) fun puts i inside => ?_
    · refine (order.sorted list member).imp_of_mem fun inI inJ before => ?_
      rwa [kept (List.mem_flatten.mpr ⟨list, member, inI⟩),
        kept (List.mem_flatten.mpr ⟨list, member, inJ⟩)]
    · rw [kept inside, fresh puts]
      exact order.past i inside
  · intro i insideI j insideJ other isFence
    rcases source insideJ with oldJ | putsJ
    · rw [replay.entry_step calm ((replay.linked.valid j).mpr oldJ)] at isFence
      rcases source insideI with oldI | putsI
      · rw [kept oldI, kept oldJ]
        exact order.fenceLast i oldI j oldJ other isFence
      · rw [replay.unfenced (replay.allocated calm putsI).1 j oldJ] at isFence
        contradiction
    · rcases source insideI with oldI | putsI
      · rw [kept oldI, fresh putsJ]
        exact order.past i oldI
      · exact absurd ((replay.allocated calm putsI).2.1.trans
          (replay.allocated calm putsJ).2.1.symm) other
  · intro i inside waits
    by_cases writes : stores state input i = true
    · rw [Rtab.fenceBv, replay.depsQ_written calm writes, calm.fence_stored orderly writes] at waits
      rwa [Rtab.isFence, reqQ_stored, if_pos writes]
    · have old := (source inside).resolve_right fun puts => writes (by rw [stores, puts]; rfl)
      rw [replay.entry_step calm ((replay.linked.valid i).mpr old)]
      refine order.pending i old ?_
      rw [Rtab.fenceBv, depsQ_stored, if_neg writes] at waits
      simp only [Rtab.updateDeps, Rtab.setReset, RtabDeps.none, Bool.and_false, Bool.false_or,
        Bool.and_eq_true] at waits
      exact waits.1
  · intro i inside isFence released j insideJ
    have deps := replay.depsQ_step calm orderly ((next.linked.valid i).mpr inside) isFence
    rw [Rtab.fenceBv, deps] at released
    simp only at released
    split at released
    · contradiction
    · rename_i writes
      have old := (source inside).resolve_right fun puts => writes (by rw [stores, puts]; rfl)
      rw [replay.entry_step calm ((replay.linked.valid i).mpr old)] at isFence
      rcases source insideJ with oldJ | puts
      · exact order.alone_of_released replay old isFence released j oldJ
      · rw [replay.unfenced (replay.allocated calm puts).1 i old] at isFence
        contradiction

/-- What holds in every state of an orderly run. -/
structure Tracked (single : Bool) (s : State cfg × Stamps cfg) : Prop where
  calm : Calm s.1
  listed : ∃ lists, Replay single s.1 lists ∧ InOrder s.1 s.2 lists

theorem Tracked.step {s : State cfg × Stamps cfg} (tracked : Tracked single s)
    (orderly : Orderly single s.1 input) :
    Tracked single (Top.step s.1 input, s.2.record s.1 input) := by
  rcases tracked.listed with ⟨lists, replay, order⟩
  rcases replay.step tracked.calm orderly with ⟨lists', change, next⟩
  refine ⟨tracked.calm.step fun empty => ?_, lists', next,
    order.step replay tracked.calm orderly change next⟩
  rw [Bool.eq_false_iff]
  intro presented
  rcases replay.linked.popSel_single presented with ⟨i, _, _, _, first | ⟨j, _, _, member⟩⟩
  · rcases first.2 with ⟨rest, member⟩
    have valid := (replay.linked.valid i).mpr (Rtab.mem_flatten_first member)
    simpa [valid] using (Bits.all_eq_true_iff _).mp empty i
  · have valid := (replay.linked.valid j).mpr (Rtab.mem_flatten_first member)
    simpa [valid] using (Bits.all_eq_true_iff _).mp empty j

theorem tracked_reset (powerUp : PowerUp cfg) : Tracked single (stamped powerUp).reset where
  calm := calm_reset powerUp
  listed := ⟨[], replay_reset single powerUp, by simp, by simp, by simp, by simp, by simp⟩

end Order

/-! ## What the table guarantees -/

/-- The assertions of `hpdcache_rtab`. -/
structure Asserted (single : Bool) (state : State cfg) (input : Input cfg) : Prop where
  tail : state.ctrl.st1ReqValidQ = true → (peIn state input).rtabCheck = true →
    (Rtab.matchCheckTail state.ctrl.rtab (rtabInput state input).checkNline).AtMostOne
  link : (rtabInput state input).allocAndLink = true →
    (peIn state input).rtabCheck = true ∧
      Rtab.checkHit state.ctrl.rtab (rtabInput state input).checkNline = true ∧
      (rtabInput state input).allocReq.req.req.nline = (rtabInput state input).checkNline ∧
      (rtabInput state input).alloc = false ∧ single = false
  followed : popped state ≠ none →
    ((rtabInput state input).popCommit || (rtabInput state input).popRback) = true
  commit : (rtabInput state input).popCommit = true →
    state.ctrl.rtab.validQ (rtabInput state input).popCommitPtr = true
  rback : (rtabInput state input).popRback = true →
    state.ctrl.rtab.validQ (rtabInput state input).popRbackPtr = true ∧
      (rtabInput state input).popTry = false ∧
      ((rtabInput state input).alloc || (rtabInput state input).allocAndLink) = false
  room : ((rtabInput state input).alloc || (rtabInput state input).allocAndLink) = true →
    Rtab.full state.ctrl.rtab input.ctrl.cfgRtabSingleEntry = false
  fence : (Rtab.fenceBv state.ctrl.rtab).AtMostOne

section Guarantees

variable {single : Bool} {s : State cfg × Stamps cfg} {input : Input cfg}

theorem Tracked.asserted (tracked : Tracked single s) (orderly : Orderly single s.1 input) :
    Asserted single s.1 input := by
  rcases tracked.listed with ⟨lists, replay, order⟩
  have operation := replay.operation tracked.calm orderly
  have valid {i : cfg.RtabPtr} (isPopped : popped s.1 = some i) :
      s.1.ctrl.rtab.validQ i = true := by
    rcases (replay.linked.poppedFirst i isPopped).1 with ⟨rest, member⟩
    exact (replay.linked.valid i).mpr (Rtab.mem_flatten_first member)
  have waiting {i : cfg.RtabPtr} (waits : Rtab.fenceBv s.1.ctrl.rtab i = true) :
      i ∈ lists.flatten := by
    by_contra outside
    rw [Rtab.fenceBv, (replay.linked.outside outside).2] at waits
    contradiction
  constructor
  · intro present check i j tailI tailJ
    simp only [PeIn.rtabCheck, Bool.and_eq_true, Bool.not_eq_true', st1ReqRtab_peIn] at check
    have noFence := replay.unfenced ⟨present, check.1⟩
    simp only [Rtab.matchCheckTail, Rtab.checkHitBv, Bool.and_eq_true, decide_eq_true_eq,
      replay.linked.valid] at tailI tailJ
    rcases List.mem_flatten.mp tailI.1.1 with ⟨list, member, inList⟩
    rcases List.mem_flatten.mp tailJ.1.1 with ⟨list', member', inList'⟩
    have same := (replay.linked.keyed list member list' member' i inList j inList').mp (by
      rw [Rtab.lineKey_of_not (noFence i tailI.1.1), Rtab.lineKey_of_not (noFence j tailJ.1.1),
        ← tailI.1.2, ← tailJ.1.2])
    have last := (replay.linked.threaded.ends list member i inList).mp tailI.2
    rw [same, (replay.linked.threaded.ends list' member' j inList').mp tailJ.2] at last
    exact (Option.some.inj last).symm
  · intro link
    rcases tracked.calm.linked link with ⟨isNew, check, hit, hold⟩
    have known : (Bits.any s.1.ctrl.rtab.validQ) = true := by
      rcases (Bits.any_eq_true_iff _).mp hit with ⟨i, known⟩
      exact (Bits.any_eq_true_iff _).mpr ⟨i, (Bool.and_eq_true_iff.mp known).1⟩
    have room := replay.free isNew
    rw [Rtab.full, known, Bool.true_and, Bool.or_eq_false_iff] at room
    have noAlloc : (rtabInput s.1 input).alloc = false := by
      have operations := operations_rtabInput s.1 input
      simp only [Rtab.Input.operations, Prod.mk.injEq] at operations
      rw [operations.1, hold, Bool.false_and]
    exact ⟨check, hit, rfl, noAlloc, room.2⟩
  · exact operation.pops.2.2
  · exact fun commit => valid (operation.pops.1 commit)
  · intro rback
    rcases operation.pops.2.1 rback with ⟨isPopped, noPop, noAlloc⟩
    exact ⟨valid isPopped, noPop, noAlloc⟩
  · intro asked
    rw [orderly.steady]
    exact replay.free (tracked.calm.new_of_asked asked)
  · intro i j waitsI waitsJ
    have fence {k : cfg.RtabPtr} (waits : Rtab.fenceBv s.1.ctrl.rtab k = true) :=
      order.pending k (waiting waits) waits
    exact order.fence_unique (waiting waitsJ) (waiting waitsI) (fence waitsJ) (fence waitsI)

end Guarantees

/-! ## Runs -/

section Runs

variable {single : Bool} {powerUp : PowerUp cfg} {inputs : List (Input cfg)}

theorem asserted_run
    (orderly : (stamped powerUp).RunAlong (fun s => Orderly single s.1) inputs) :
    (stamped powerUp).RunAlong (fun s => Asserted single s.1) inputs :=
  Machine.Along.of_invariant (Tracked single) (fun _ _ tracked orderly => tracked.step orderly)
    (fun _ _ tracked orderly => tracked.asserted orderly) (tracked_reset powerUp) orderly

instance decidableUnrecoverable (i : PeIn) : Decidable (Unrecoverable cfg i) :=
  decidable_of_iff (cfg.eccEn = true ∧ cfg.wbEn = true ∧
      (i.st1DirErrUnc = true ∨ i.st1DatErrUncDirty = true) ∧ i.st1ReqIsError = false ∧
      i.st1ReqIsUncacheable = false)
    ⟨fun ⟨ecc, wb, unc, noError, cacheable⟩ => ⟨ecc, wb, unc, noError, cacheable⟩,
      fun ⟨ecc, wb, unc, noError, cacheable⟩ => ⟨ecc, wb, unc, noError, cacheable⟩⟩

instance decidableOrderly (state : State cfg) (input : Input cfg) :
    Decidable (Orderly single state input) :=
  decidable_of_iff ((state.ctrl.st1ReqQ.fromRtab = true → ¬Unrecoverable cfg (peIn state input)) ∧
      (state.ctrl.st1ReqQ.fromRtab = true →
        input.ctrl.cfgEnable = true ∨ state.ctrl.st1ReqQ.req.pma.uncacheable = true) ∧
      ((peIn state input).st1Fence = true →
        (effects state input).deps = (peIn state input).baseDeps) ∧
      input.ctrl.cfgRtabSingleEntry = single)
    ⟨fun ⟨recovers, enabled, waits, steady⟩ => ⟨recovers, enabled, waits, steady⟩,
      fun ⟨recovers, enabled, waits, steady⟩ => ⟨recovers, enabled, waits, steady⟩⟩

/-- Two loads of one line: the second one waits for the refill, and is replayed. -/
def loadTwice : List (Input Cfg.small) :=
  let idle := (CoreArbiter.request Bits.zero).top
  let load := { idle with
    memReadReady := true
    ctrl := { idle.ctrl with coreReqValid := true } }
  List.replicate 7 load ++
    List.replicate 6 { idle with memRespValid := true, memRespLast := true }

theorem orderly_loadTwice :
    (stamped CoreArbiter.cleared).RunAlong (fun s => Orderly false s.1) loadTwice := by
  decide

theorem asserted_loadTwice : (stamped CoreArbiter.cleared).RunAlong
    (fun s => Asserted false s.1) loadTwice :=
  asserted_run orderly_loadTwice

end Runs

end Cva6Hpd.Hpdcache.Top
