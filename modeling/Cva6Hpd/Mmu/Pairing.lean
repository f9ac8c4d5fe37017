import Cva6Hpd.Mmu.Descent

/-!
# Requests and responses of the walker

The data cache answers the requests that it has granted, each once and in order; a request that
is killed sends a response, too. The history of a run keeps the requests that are not answered
yet and the one that the input register answers. Every entry that the walker looks at is then
the response to its own request, and the walker comes back to `IDLE`, unless a flush in the
state `KILL_REQ` takes it away from a response that arrives after its next request is granted.
-/

namespace Cva6Hpd.Mmu.Ptw

open Hw (Machine eventually_of_persists)

/-! ## What a cycle does to the state -/

section Step

variable {cfg : Cfg} {s : State} {i : Input}

/-- The place of a walk: the stage, the levels and the address of its entry. -/
def place (s : State) : Stage × Nat × Nat × Nat :=
  (s.ptwStageQ, s.ptwLvlQ, s.ptwHypLvlQ, s.ptwPptrQ)

theorem rank_eq_of_place {first second : State} (same : place first = place second) :
    rank first = rank second := by
  simp only [place, Prod.mk.injEq] at same
  rcases same with ⟨stage, lvl, hypLvl, _⟩
  rw [rank, rank, stage, lvl, hypLvl]

theorem Levels.of_place {first second : State} (levels : Levels cfg second)
    (same : place first = place second) : Levels cfg first := by
  simp only [place, Prod.mk.injEq] at same
  rcases same with ⟨_, lvl, hypLvl, _⟩
  exact ⟨lvl ▸ levels.lvl, hypLvl ▸ levels.hypLvl⟩

/-- A flush keeps the place that the state assigns. -/
theorem place_step :
    place (step cfg s i) = place (hypRegisters cfg s (unflushed cfg s i).next) := by
  simp only [step, comb]
  split
  · simp only [flushed]
    split_ifs <;> simp only [hypRegisters] <;> split <;> rfl
  · rfl

@[simp]
theorem dataRvalidQ_step : (step cfg s i).dataRvalidQ = i.dataRvalid :=
  rfl

theorem stateQ_step_of_calm (calm : i.flush = false) :
    (step cfg s i).stateQ = (unflushed cfg s i).next.stateQ := by
  simp only [step, hypRegisters, comb, calm, Bool.false_eq_true, if_false]
  split <;> rfl

theorem killReqQ_step_of_calm (calm : i.flush = false) :
    (step cfg s i).killReqQ = (unflushed cfg s i).next.killReqQ := by
  simp only [step, hypRegisters, comb, calm, Bool.false_eq_true, if_false]
  split <;> rfl

theorem stateQ_step_of_flush (flush : i.flush = true) :
    (step cfg s i).stateQ =
      if (s.stateQ = .pteLookup ∨ s.stateQ = .waitRvalid) ∧ s.dataRvalidQ = false then .waitRvalid
      else if s.stateQ ≠ .waitGrant then .latency
      else (unflushed cfg s i).next.stateQ := by
  simp only [step, hypRegisters, comb, flush, if_true, flushed]
  split_ifs <;> rfl

theorem killReqQ_step_of_flush (flush : i.flush = true) :
    (step cfg s i).killReqQ = decide (s.stateQ = .waitGrant) := by
  simp only [step, hypRegisters, comb, flush, if_true, flushed]
  split <;> rfl

theorem place_hypRegisters {next : State} (same : place next = place s) :
    place (hypRegisters cfg s next) = place s := by
  rw [hypRegisters]
  split
  · exact same
  · simp only [place, Prod.mk.injEq] at same ⊢
    exact ⟨trivial, same.2⟩

variable (cfg i)

theorem step_of_idle (state : s.stateQ = .idle) :
    (step cfg s i).stateQ =
      if i.flush then .latency else if missed cfg i then .waitGrant else .idle := by
  cases flush : i.flush with
  | true => simp [stateQ_step_of_flush flush, state]
  | false =>
      simp only [stateQ_step_of_calm flush, unflushed, state, idle, Bool.false_eq_true, if_false]
      split
      · rfl
      · exact state

theorem step_of_waitGrant (state : s.stateQ = .waitGrant) :
    (step cfg s i).stateQ =
        (if i.dataGnt then if s.killReqQ || i.flush then .killReq else .pteLookup
        else .waitGrant) ∧
      place (step cfg s i) = place s := by
  have next : (unflushed cfg s i).next.stateQ =
      if i.dataGnt then if s.killReqQ || i.flush then .killReq else .pteLookup
      else .waitGrant := by
    simp only [unflushed, state, waitGrant]
    split
    · rfl
    · exact state
  constructor
  · cases flush : i.flush with
    | true => simp [stateQ_step_of_flush flush, state, next, flush]
    | false => rw [stateQ_step_of_calm flush, next, flush]
  · rw [place_step]
    apply place_hypRegisters
    simp only [unflushed, state, waitGrant]
    split <;> rfl

theorem step_of_killReq (state : s.stateQ = .killReq) :
    (step cfg s i).stateQ = if i.flush then .latency else .waitRvalid := by
  cases flush : i.flush with
  | true => simp [stateQ_step_of_flush flush, state]
  | false => simp [stateQ_step_of_calm flush, unflushed, state, killReq]

/-- The walker waits for the response to a request that it uses. -/
theorem step_of_pteLookup (state : s.stateQ = .pteLookup) (waits : s.dataRvalidQ = false) :
    (step cfg s i).stateQ = (if i.flush then .waitRvalid else .pteLookup) ∧
      place (step cfg s i) = place s := by
  have next : (unflushed cfg s i).next = (defaults cfg s).next := by
    simp [unflushed, state, pteLookup, waits]
  constructor
  · cases flush : i.flush with
    | true => simp [stateQ_step_of_flush flush, state, waits]
    | false =>
        rw [stateQ_step_of_calm flush, next]
        exact state
  · rw [place_step, next]
    exact place_hypRegisters rfl

theorem step_of_arrived_flush (state : s.stateQ = .pteLookup) (arrived : s.dataRvalidQ = true)
    (flush : i.flush = true) : (step cfg s i).stateQ = .latency := by
  simp [stateQ_step_of_flush flush, state, arrived]

/-- The response has arrived: the walk ends or goes on closer to its end. -/
theorem step_of_arrived (levels : Levels cfg s) (state : s.stateQ = .pteLookup)
    (arrived : s.dataRvalidQ = true) :
    (step cfg s i).stateQ.Ends ∨
      i.flush = false ∧ (step cfg s i).stateQ = .waitGrant ∧ rank (step cfg s i) < rank s := by
  cases flush : i.flush with
  | true =>
      exact Or.inl (Or.inl (step_of_arrived_flush cfg i state arrived flush))
  | false =>
      have descends := pteLookup_descends levels arrived (i := i)
      have next : unflushed cfg s i = pteLookup cfg s i := by simp [unflushed, state]
      rcases descends.ends with ends | ⟨again, closer⟩
      · left
        rw [stateQ_step_of_calm flush, next]
        exact ends
      · right
        rw [stateQ_step_of_calm flush, next, rank_eq_of_place place_step, next]
        exact ⟨rfl, again, closer⟩

theorem step_of_waitRvalid (state : s.stateQ = .waitRvalid) :
    (step cfg s i).stateQ =
      if s.dataRvalidQ then if i.flush then .latency else .idle else .waitRvalid := by
  cases flush : i.flush with
  | true => cases arrived : s.dataRvalidQ <;> simp [stateQ_step_of_flush flush, state, arrived]
  | false =>
      simp only [stateQ_step_of_calm flush, unflushed, state, waitRvalid, Bool.false_eq_true,
        if_false]
      split
      · rfl
      · exact state

theorem step_of_latency (state : s.stateQ = .latency) :
    (step cfg s i).stateQ = if i.flush then .latency else .idle := by
  cases flush : i.flush with
  | true => simp [stateQ_step_of_flush flush, state]
  | false => simp [stateQ_step_of_calm flush, unflushed, state, Comb.goto]

theorem step_of_error (state : s.stateQ = .propagateError ∨ s.stateQ = .propagateAccessError) :
    (step cfg s i).stateQ = .latency := by
  cases flush : i.flush with
  | true => rcases state with state | state <;> simp [stateQ_step_of_flush flush, state]
  | false =>
      rcases state with state | state <;>
        simp [stateQ_step_of_calm flush, unflushed, state, Comb.goto, propagateError,
          propagateAccessError]

variable {cfg i}

theorem killReqQ_step (levels : Levels cfg s) :
    (step cfg s i).killReqQ =
      if i.flush then decide (s.stateQ = .waitGrant)
      else if s.stateQ = .killReq then false else s.killReqQ := by
  cases flush : i.flush with
  | true => exact killReqQ_step_of_flush flush
  | false =>
      simp only [killReqQ_step_of_calm flush, Bool.false_eq_true, if_false, unflushed]
      cases state : s.stateQ with
      | idle =>
          simp only [idle, startWalk]
          split_ifs <;> first | rfl | contradiction
      | waitGrant =>
          simp only [waitGrant]
          split <;> rfl
      | pteLookup =>
          cases arrived : s.dataRvalidQ with
          | true => exact (pteLookup_descends levels arrived).killReqQ
          | false => simp [pteLookup, arrived, defaults]
      | waitRvalid =>
          simp only [waitRvalid]
          split <;> rfl
      | propagateError => rfl
      | propagateAccessError => rfl
      | killReq => rfl
      | latency => rfl

theorem Levels.step (levels : Levels cfg s) : Levels cfg (Ptw.step cfg s i) := by
  have kept {next : State} (bounded : Levels cfg next) :
      Levels cfg (hypRegisters cfg s next) := by
    rw [hypRegisters]
    split <;> exact ⟨bounded.lvl, bounded.hypLvl⟩
  refine Levels.of_place ?_ place_step
  apply kept
  simp only [unflushed]
  cases state : s.stateQ with
  | idle =>
      simp only [idle, startWalk]
      split_ifs <;> exact ⟨Nat.zero_le _, Nat.zero_le _⟩
  | waitGrant =>
      simp only [waitGrant]
      split <;> exact ⟨levels.lvl, levels.hypLvl⟩
  | pteLookup =>
      cases arrived : s.dataRvalidQ with
      | true => exact (pteLookup_descends levels arrived).levels
      | false =>
          rw [pteLookup, if_neg (by simp [arrived])]
          exact ⟨levels.lvl, levels.hypLvl⟩
  | waitRvalid =>
      simp only [waitRvalid]
      split <;> exact ⟨levels.lvl, levels.hypLvl⟩
  | propagateError => exact ⟨levels.lvl, levels.hypLvl⟩
  | propagateAccessError => exact ⟨levels.lvl, levels.hypLvl⟩
  | killReq => exact ⟨levels.lvl, levels.hypLvl⟩
  | latency => exact ⟨levels.lvl, levels.hypLvl⟩

end Step

/-! ## The history of the requests -/

/-- A request that was granted: the walk that issued it, and its place in the walk. -/
structure Request where
  walk : Nat
  place : Stage × Nat × Nat × Nat
deriving DecidableEq

structure History where
  /-- The walks that were started. -/
  walks : Nat
  /-- The granted requests without a response, the oldest first. -/
  outstanding : List Request
  /-- The request that the word in the input register answers. -/
  source : Option Request
  /-- The last walk was flushed. -/
  aborted : Bool
  /-- A killed request that the walker did not wait for is not answered yet. -/
  abandoned : Bool
deriving DecidableEq

def History.initial : History := ⟨0, [], none, false, false⟩

section Record

variable (cfg : Cfg) (s : State) (i : Input) (h : History)

/-- The request of the walker at its place. -/
def current : Request := ⟨h.walks, place s⟩

/-- A walk starts. -/
def starts : Bool := decide (s.stateQ = .idle) && decide ((step cfg s i).stateQ = .waitGrant)

/-- A request is granted. -/
def granted : Bool := decide (s.stateQ = .waitGrant) && i.dataGnt

def record : History where
  walks := if starts cfg s i then h.walks + 1 else h.walks
  outstanding :=
    (if i.dataRvalid then h.outstanding.tail else h.outstanding)
      ++ if granted s i then [current s h] else []
  source := if i.dataRvalid then h.outstanding.head? else none
  aborted := if starts cfg s i then false else h.aborted || i.flush
  abandoned :=
    !i.dataRvalid && (h.abandoned || (decide (s.stateQ = .killReq) && i.flush))

end Record

/-- The walker with the history of its requests. -/
def walking (cfg : Cfg) : Machine (State × History) Input :=
  (machine cfg).withHistory History.initial (record cfg)

/-- The data cache answers only what it has granted. -/
def Answers (c : State × History) (i : Input) : Prop :=
  i.dataRvalid = true → c.2.outstanding ≠ []

instance (c : State × History) (i : Input) : Decidable (Answers c i) :=
  inferInstanceAs (Decidable (_ → _))

/-- A request that was abandoned in a flush is answered before the next one is granted. -/
def InTime (c : State × History) (i : Input) : Prop :=
  granted c.1 i = true → c.2.abandoned = false

instance (c : State × History) (i : Input) : Decidable (InTime c i) :=
  inferInstanceAs (Decidable (_ → _))

/-- The cycles of a cache that answers in time. -/
structure Regular (c : State × History) (i : Input) : Prop where
  answers : Answers c i
  inTime : InTime c i

instance (c : State × History) (i : Input) : Decidable (Regular c i) :=
  decidable_of_iff (Answers c i ∧ InTime c i)
    ⟨fun ⟨answers, inTime⟩ => ⟨answers, inTime⟩, fun ⟨answers, inTime⟩ => ⟨answers, inTime⟩⟩

/-! ## What is outstanding in each state -/

section Invariant

variable {cfg : Cfg} {s : State} {i : Input} {h : History}

/-- The responses that the walker still waits for, in each of its states. -/
def Expected (s : State) (h : History) : Prop :=
  match s.stateQ with
  | .pteLookup => h.abandoned = false ∧
      (s.dataRvalidQ = false ∧ h.outstanding = [current s h] ∨
        s.dataRvalidQ = true ∧ h.outstanding = [] ∧ h.source = some (current s h))
  | .killReq => h.abandoned = false ∧ s.dataRvalidQ = false ∧ h.outstanding.length = 1
  | .waitRvalid => h.abandoned = false ∧
      h.outstanding.length = if s.dataRvalidQ then 0 else 1
  | .propagateError | .propagateAccessError => h.abandoned = false ∧ h.outstanding.length = 0
  | .idle | .waitGrant | .latency => h.outstanding.length = if h.abandoned then 1 else 0

/-- An aborted walk waits for what is left of it; only such a walk kills its request. -/
structure Aborts (s : State) (h : History) : Prop where
  rest : h.aborted = true → s.stateQ = .idle ∨ s.stateQ = .latency ∨ s.stateQ = .waitRvalid ∨
    s.stateQ = .killReq ∨ s.stateQ = .waitGrant ∧ s.killReqQ = true
  killing : s.stateQ = .killReq ∨ s.killReqQ = true → h.aborted = true
  killReqQ : s.killReqQ = true → s.stateQ = .waitGrant ∨ s.stateQ = .killReq

structure Walking (cfg : Cfg) (s : State) (h : History) : Prop where
  levels : Levels cfg s
  expected : Expected s h
  aborts : Aborts s h

theorem granted_of_ne (other : s.stateQ ≠ .waitGrant) : granted s i = false := by
  simp [granted, other]

/-- Without a grant there is only the response. -/
theorem length_outstanding_record (answers : Answers (s, h) i) (ungranted : granted s i = false) :
    (record cfg s i h).outstanding.length + i.dataRvalid.toNat = h.outstanding.length := by
  simp only [record, ungranted, Bool.false_eq_true, if_false, List.append_nil]
  cases response : i.dataRvalid with
  | false => simp
  | true =>
      have some : 0 < h.outstanding.length := List.length_pos_iff.mpr (answers response)
      simp only [if_true, List.length_tail, Bool.toNat_true]
      omega

theorem dataRvalid_of_none (answers : Answers (s, h) i) (none : h.outstanding = []) :
    i.dataRvalid = false :=
  Bool.eq_false_iff.mpr fun response => answers response none

theorem walks_record (busy : s.stateQ ≠ .idle) : (record cfg s i h).walks = h.walks := by
  simp [record, starts, busy]

theorem abandoned_record (other : s.stateQ ≠ .killReq) :
    (record cfg s i h).abandoned = (!i.dataRvalid && h.abandoned) := by
  simp [record, other]

/-- A walker that has nothing to wait for, but for an abandoned response. -/
theorem expected_of_rest
    (rest : (step cfg s i).stateQ = .idle ∨ (step cfg s i).stateQ = .waitGrant ∨
      (step cfg s i).stateQ = .latency)
    (count : (record cfg s i h).outstanding.length =
      if (record cfg s i h).abandoned then 1 else 0) :
    Expected (step cfg s i) (record cfg s i h) := by
  rcases rest with state | state | state <;> simpa only [Expected, state] using count

theorem count_of_rest (regular : Regular (s, h) i) (other : s.stateQ ≠ .killReq)
    (ungranted : granted s i = false)
    (count : h.outstanding.length = if h.abandoned then 1 else 0) :
    (record cfg s i h).outstanding.length =
      if (record cfg s i h).abandoned then 1 else 0 := by
  have balance : (record cfg s i h).outstanding.length + i.dataRvalid.toNat =
      h.outstanding.length := length_outstanding_record regular.answers ungranted
  rw [abandoned_record other]
  cases response : i.dataRvalid <;> cases abandoned : h.abandoned <;>
    simp_all

theorem expected_of_granted (regular : Regular (s, h) i) (state : s.stateQ = .waitGrant)
    (grant : i.dataGnt = true) (count : h.outstanding.length = if h.abandoned then 1 else 0) :
    Expected (step cfg s i) (record cfg s i h) := by
  have grants : granted s i = true := by simp [granted, state, grant]
  have kept : h.abandoned = false := regular.inTime grants
  have none : h.outstanding = [] := by simpa [kept] using count
  have quiet := dataRvalid_of_none regular.answers none
  have busy : s.stateQ ≠ .idle := by simp [state]
  rcases step_of_waitGrant cfg i state with ⟨next, same⟩
  have own : current (step cfg s i) (record cfg s i h) = current s h := by
    rw [current, current, same, walks_record busy]
  have sole : (record cfg s i h).outstanding = [current s h] := by
    simp [record, quiet, none, grants]
  have answered : (record cfg s i h).abandoned = false := by
    simp [record, quiet, kept, state]
  rw [if_pos grant] at next
  split at next
  · simp only [Expected, next]
    exact ⟨answered, quiet, by rw [sole, List.length_singleton]⟩
  · simp only [Expected, next, own]
    exact ⟨answered, Or.inl ⟨quiet, sole⟩⟩

theorem expected_step (walking : Walking cfg s h) (regular : Regular (s, h) i) :
    Expected (step cfg s i) (record cfg s i h) := by
  have expected := walking.expected
  unfold Expected at expected
  cases state : s.stateQ with
  | idle =>
      rw [state] at expected
      have next := step_of_idle cfg i state
      refine expected_of_rest ?_ (count_of_rest regular (by simp [state])
        (granted_of_ne (by simp [state])) expected)
      rw [next]
      split_ifs <;> simp
  | waitGrant =>
      rw [state] at expected
      cases grant : i.dataGnt with
      | true => exact expected_of_granted regular state grant expected
      | false =>
          rcases step_of_waitGrant cfg i state with ⟨next, _⟩
          refine expected_of_rest ?_ (count_of_rest regular (by simp [state])
            (by simp [granted, grant]) expected)
          simp [next, grant]
  | killReq =>
      rw [state] at expected
      rcases expected with ⟨kept, _, count⟩
      have balance : (record cfg s i h).outstanding.length + i.dataRvalid.toNat =
          h.outstanding.length :=
        length_outstanding_record regular.answers (granted_of_ne (by simp [state]))
      have next := step_of_killReq cfg i state
      have left : (record cfg s i h).abandoned = (!i.dataRvalid && i.flush) := by
        simp [record, kept, state]
      cases flush : i.flush with
      | true =>
          refine expected_of_rest (Or.inr (Or.inr (by simp [next, flush]))) ?_
          rw [left, flush]
          cases response : i.dataRvalid <;> simp_all
      | false =>
          have drains : (step cfg s i).stateQ = .waitRvalid := by simp [next, flush]
          simp only [Expected, drains]
          refine ⟨by simp [left, flush], ?_⟩
          rw [dataRvalidQ_step]
          cases response : i.dataRvalid <;> simp_all
  | pteLookup =>
      rw [state] at expected
      have balance : (record cfg s i h).outstanding.length + i.dataRvalid.toNat =
          h.outstanding.length :=
        length_outstanding_record regular.answers (granted_of_ne (by simp [state]))
      have left : (record cfg s i h).abandoned = false := by
        rw [abandoned_record (by simp [state]), expected.1, Bool.and_false]
      rcases expected.2 with ⟨waits, sole⟩ | ⟨arrived, none, _⟩
      · rcases step_of_pteLookup cfg i state waits with ⟨next, same⟩
        have own : current (step cfg s i) (record cfg s i h) = current s h := by
          rw [current, current, same, walks_record (by simp [state])]
        cases flush : i.flush with
        | true =>
            rw [flush, if_pos rfl] at next
            simp only [Expected, next]
            refine ⟨left, ?_⟩
            rw [dataRvalidQ_step]
            cases response : i.dataRvalid <;> simp_all
        | false =>
            rw [flush, if_neg (by decide)] at next
            simp only [Expected, next, own]
            refine ⟨left, ?_⟩
            rw [dataRvalidQ_step]
            cases response : i.dataRvalid with
            | false => exact Or.inl ⟨rfl, by simp [record, response, sole, granted, state]⟩
            | true => exact Or.inr ⟨rfl, by simp [record, response, sole, granted, state]⟩
      · have quiet := dataRvalid_of_none regular.answers none
        have empty : (record cfg s i h).outstanding.length = 0 := by simp_all
        rcases step_of_arrived cfg i walking.levels state arrived with ends | ⟨_, again, _⟩
        · rcases ends with next | next | next
          · exact expected_of_rest (Or.inr (Or.inr next)) (by simp [left, empty])
          · simp only [Expected, next]
            exact ⟨left, empty⟩
          · simp only [Expected, next]
            exact ⟨left, empty⟩
        · exact expected_of_rest (Or.inr (Or.inl again)) (by simp [left, empty])
  | waitRvalid =>
      rw [state] at expected
      rcases expected with ⟨kept, count⟩
      have balance : (record cfg s i h).outstanding.length + i.dataRvalid.toNat =
          h.outstanding.length :=
        length_outstanding_record regular.answers (granted_of_ne (by simp [state]))
      have left : (record cfg s i h).abandoned = false := by
        rw [abandoned_record (by simp [state]), kept, Bool.and_false]
      have next := step_of_waitRvalid cfg i state
      cases arrived : s.dataRvalidQ with
      | true =>
          have none : h.outstanding = [] := by simpa [arrived] using count
          refine expected_of_rest ?_ (by simp_all)
          rw [next, arrived]
          cases i.flush <;> simp
      | false =>
          have drains : (step cfg s i).stateQ = .waitRvalid := by simp [next, arrived]
          simp only [Expected, drains]
          refine ⟨left, ?_⟩
          rw [dataRvalidQ_step]
          cases response : i.dataRvalid <;> simp_all
  | propagateError =>
      rw [state] at expected
      have next : (step cfg s i).stateQ = .latency := step_of_error cfg i (Or.inl state)
      exact expected_of_rest (Or.inr (Or.inr next)) (count_of_rest regular (by simp [state])
        (granted_of_ne (by simp [state])) (by simp [expected]))
  | propagateAccessError =>
      rw [state] at expected
      have next : (step cfg s i).stateQ = .latency := step_of_error cfg i (Or.inr state)
      exact expected_of_rest (Or.inr (Or.inr next)) (count_of_rest regular (by simp [state])
        (granted_of_ne (by simp [state])) (by simp [expected]))
  | latency =>
      rw [state] at expected
      have next := step_of_latency cfg i state
      refine expected_of_rest ?_ (count_of_rest regular (by simp [state])
        (granted_of_ne (by simp [state])) expected)
      rw [next]
      split_ifs <;> simp

theorem aborted_record :
    (record cfg s i h).aborted = if starts cfg s i then false else h.aborted || i.flush :=
  rfl

theorem starts_of_busy (busy : s.stateQ ≠ .idle) : starts cfg s i = false := by
  simp [starts, busy]

theorem killReqQ_of_other (aborts : Aborts s h) (asks : s.stateQ ≠ .waitGrant)
    (kills : s.stateQ ≠ .killReq) : s.killReqQ = false := by
  rw [Bool.eq_false_iff]
  intro kill
  rcases aborts.killReqQ kill with state | state
  · exact asks state
  · exact kills state

theorem aborts_of_other (levels : Levels cfg s) (aborts : Aborts s h)
    (asks : s.stateQ ≠ .waitGrant) (kills : (step cfg s i).stateQ ≠ .killReq)
    (rest : (record cfg s i h).aborted = true → (step cfg s i).stateQ = .idle ∨
      (step cfg s i).stateQ = .latency ∨ (step cfg s i).stateQ = .waitRvalid) :
    Aborts (step cfg s i) (record cfg s i h) := by
  have calm : (step cfg s i).killReqQ = false := by
    rw [killReqQ_step levels]
    split_ifs with flush state
    · simp [asks]
    · rfl
    · exact killReqQ_of_other aborts asks state
  refine ⟨?_, ?_, ?_⟩
  · intro aborted
    rcases rest aborted with next | next | next
    · exact Or.inl next
    · exact Or.inr (Or.inl next)
    · exact Or.inr (Or.inr (Or.inl next))
  · rintro (next | kill)
    · exact absurd next kills
    · rw [calm] at kill
      contradiction
  · intro kill
    rw [calm] at kill
    contradiction

theorem aborts_step (levels : Levels cfg s) (aborts : Aborts s h) :
    Aborts (step cfg s i) (record cfg s i h) := by
  have rest := aborts.rest
  cases state : s.stateQ with
  | idle =>
      have next := step_of_idle cfg i state
      refine aborts_of_other levels aborts (by simp [state]) ?_ ?_
      · rw [next]
        split_ifs <;> simp
      · rw [aborted_record, starts, state, next]
        cases i.flush <;> cases missed cfg i <;> simp
  | waitGrant =>
      rcases step_of_waitGrant cfg i state with ⟨next, _⟩
      have kill : (step cfg s i).killReqQ = (s.killReqQ || i.flush) := by
        rw [killReqQ_step levels, state]
        cases i.flush <;> simp
      have aborted : (record cfg s i h).aborted = (s.killReqQ || i.flush) := by
        rw [aborted_record, starts_of_busy (by simp [state])]
        have same : h.aborted = s.killReqQ := by
          cases pending : s.killReqQ with
          | true => exact aborts.killing (Or.inr pending)
          | false =>
              rw [Bool.eq_false_iff]
              intro given
              simpa [state, pending] using rest given
        rw [same]
        simp
      refine ⟨?_, ?_, ?_⟩
      · intro given
        rw [next, kill]
        rw [aborted] at given
        rw [given]
        cases i.dataGnt <;> simp
      · rw [next, kill, aborted]
        cases i.dataGnt <;> cases s.killReqQ <;> cases i.flush <;> simp
      · rw [kill]
        intro given
        rw [next, given]
        cases i.dataGnt <;> simp
  | killReq =>
      have next := step_of_killReq cfg i state
      refine aborts_of_other levels aborts (by simp [state]) ?_ ?_
      · rw [next]
        split_ifs <;> simp
      · intro _
        rw [next]
        split_ifs <;> simp
  | pteLookup =>
      have live : h.aborted = false := by
        rw [Bool.eq_false_iff]
        intro given
        simpa [state] using rest given
      have flushed : (record cfg s i h).aborted = i.flush := by
        rw [aborted_record, starts_of_busy (by simp [state]), live]
        simp
      cases arrived : s.dataRvalidQ with
      | true =>
          have next := step_of_arrived cfg i levels state arrived
          refine aborts_of_other levels aborts (by simp [state]) ?_ ?_
          · rcases next with (next | next | next) | ⟨_, next, _⟩ <;> simp [next]
          · rw [flushed]
            intro flush
            exact Or.inr (Or.inl (step_of_arrived_flush cfg i state arrived flush))
      | false =>
          rcases step_of_pteLookup cfg i state arrived with ⟨next, _⟩
          refine aborts_of_other levels aborts (by simp [state]) ?_ ?_
          · rw [next]
            split_ifs <;> simp
          · rw [flushed, next]
            intro flush
            simp [flush]
  | waitRvalid =>
      have next := step_of_waitRvalid cfg i state
      refine aborts_of_other levels aborts (by simp [state]) ?_ ?_
      · rw [next]
        split_ifs <;> simp
      · intro _
        rw [next]
        split_ifs <;> simp
  | propagateError =>
      have next := step_of_error cfg i (Or.inl state)
      exact aborts_of_other levels aborts (by simp [state]) (by simp [next])
        fun _ => Or.inr (Or.inl next)
  | propagateAccessError =>
      have next := step_of_error cfg i (Or.inr state)
      exact aborts_of_other levels aborts (by simp [state]) (by simp [next])
        fun _ => Or.inr (Or.inl next)
  | latency =>
      have next := step_of_latency cfg i state
      refine aborts_of_other levels aborts (by simp [state]) ?_ ?_
      · rw [next]
        split_ifs <;> simp
      · intro _
        rw [next]
        split_ifs <;> simp

theorem walking_step (walking : Walking cfg s h) (regular : Regular (s, h) i) :
    Walking cfg (step cfg s i) (record cfg s i h) :=
  ⟨walking.levels.step, expected_step walking regular, aborts_step walking.levels walking.aborts⟩

theorem walking_reset (cfg : Cfg) : Walking cfg reset History.initial where
  levels := ⟨Nat.zero_le _, Nat.zero_le _⟩
  expected := rfl
  aborts := ⟨by decide, by decide, by decide⟩

end Invariant

/-! ## Runs -/

/-- The walker looks only at the response to its own request, and an aborted walk looks at
none and reports nothing. -/
structure Paired (s : State) (h : History) : Prop where
  taken : s.stateQ = .pteLookup → s.dataRvalidQ = true → h.source = some (current s h)
  alone : s.stateQ = .pteLookup → ∀ request ∈ h.outstanding, request = current s h
  aborted : h.aborted = true → s.stateQ ≠ .pteLookup ∧ s.stateQ ≠ .propagateError ∧
    s.stateQ ≠ .propagateAccessError
  killed : s.stateQ = .killReq → h.aborted = true

theorem Walking.paired {cfg : Cfg} {s : State} {h : History} (walking : Walking cfg s h) :
    Paired s h := by
  have expected := walking.expected
  unfold Expected at expected
  refine ⟨?_, ?_, ?_, ?_⟩
  · intro state arrived
    simp only [state] at expected
    rcases expected.2 with ⟨waits, _⟩ | ⟨_, _, source⟩
    · rw [arrived] at waits
      contradiction
    · exact source
  · intro state request
    simp only [state] at expected
    rcases expected.2 with ⟨_, sole⟩ | ⟨_, none, _⟩
    · simp [sole]
    · simp [none]
  · intro aborted
    rcases walking.aborts.rest aborted with state | state | state | state | ⟨state, _⟩ <;>
      simp [state]
  · exact fun state => walking.aborts.killing (Or.inl state)

section Endless

variable {cfg : Cfg} {inputs : Nat → Input}

/-- A cache that grants and answers in the end, and flushes that do not last. -/
structure Fair (cfg : Cfg) (inputs : Nat → Input) : Prop where
  grants : ∀ n, ((walking cfg).after inputs n).1.stateQ = .waitGrant →
    ∃ m, n ≤ m ∧ (inputs m).dataGnt = true
  responses : ∀ n, ((walking cfg).after inputs n).2.outstanding ≠ [] →
    ∃ m, n ≤ m ∧ (inputs m).dataRvalid = true
  calm : ∀ n, ∃ m, n ≤ m ∧ (inputs m).flush = false

theorem latency_ends (fair : Fair cfg inputs) {n : Nat}
    (state : ((walking cfg).after inputs n).1.stateQ = .latency) :
    ∃ m, n ≤ m ∧ ((walking cfg).after inputs (m + 1)).1.stateQ = .idle := by
  refine eventually_of_persists
    (fun m => ((walking cfg).after inputs m).1.stateQ = .latency) state ?_ ?_
  · intro m _ state
    have next := step_of_latency cfg (inputs m) state
    cases flush : (inputs m).flush with
    | true => exact Or.inr (by rwa [flush] at next)
    | false => exact Or.inl (by rwa [flush] at next)
  · rcases fair.calm n with ⟨m, later, calm⟩
    refine ⟨m, later, fun state => ?_⟩
    have next := step_of_latency cfg (inputs m) state
    rwa [calm] at next

theorem waitGrant_ends (fair : Fair cfg inputs) {n : Nat}
    (state : ((walking cfg).after inputs n).1.stateQ = .waitGrant) :
    ∃ m, n ≤ m ∧ (((walking cfg).after inputs (m + 1)).1.stateQ = .killReq ∨
      ((walking cfg).after inputs (m + 1)).1.stateQ = .pteLookup) ∧
        place ((walking cfg).after inputs (m + 1)).1 =
          place ((walking cfg).after inputs n).1 := by
  have grants (m : Nat) (state : ((walking cfg).after inputs m).1.stateQ = .waitGrant)
      (same : place ((walking cfg).after inputs m).1 = place ((walking cfg).after inputs n).1)
      (grant : (inputs m).dataGnt = true) :
      (((walking cfg).after inputs (m + 1)).1.stateQ = .killReq ∨
        ((walking cfg).after inputs (m + 1)).1.stateQ = .pteLookup) ∧
          place ((walking cfg).after inputs (m + 1)).1 =
            place ((walking cfg).after inputs n).1 := by
    rcases step_of_waitGrant cfg (inputs m) state with ⟨next, kept⟩
    rw [grant, if_pos rfl] at next
    refine ⟨?_, kept.trans same⟩
    split at next
    · exact Or.inl next
    · exact Or.inr next
  refine eventually_of_persists
    (fun m => ((walking cfg).after inputs m).1.stateQ = .waitGrant ∧
      place ((walking cfg).after inputs m).1 = place ((walking cfg).after inputs n).1)
    ⟨state, rfl⟩ ?_ ?_
  · rintro m _ ⟨state, same⟩
    cases grant : (inputs m).dataGnt with
    | true => exact Or.inl (grants m state same grant)
    | false =>
        rcases step_of_waitGrant cfg (inputs m) state with ⟨next, kept⟩
        exact Or.inr ⟨by rwa [grant] at next, kept.trans same⟩
  · rcases fair.grants n state with ⟨m, later, grant⟩
    exact ⟨m, later, fun ⟨state, same⟩ => grants m state same grant⟩

variable (regular : ∀ n, Regular ((walking cfg).after inputs n) (inputs n))

include regular

theorem walking_after (n : Nat) :
    Walking cfg ((walking cfg).after inputs n).1 ((walking cfg).after inputs n).2 :=
  (walking cfg).after_invariant (fun c => Walking cfg c.1 c.2) (walking_reset cfg)
    (fun _ _ walking regular => walking_step walking regular) regular n

theorem response_arrives (fair : Fair cfg inputs) {n : Nat}
    (waits : ((walking cfg).after inputs n).1.stateQ = .pteLookup ∨
      ((walking cfg).after inputs n).1.stateQ = .waitRvalid) :
    ∃ m, n ≤ m ∧ ((walking cfg).after inputs m).1.dataRvalidQ = true := by
  cases arrived : ((walking cfg).after inputs n).1.dataRvalidQ with
  | true => exact ⟨n, le_refl n, arrived⟩
  | false =>
      have some : ((walking cfg).after inputs n).2.outstanding ≠ [] := by
        have expected := (walking_after regular n).expected
        unfold Expected at expected
        rcases waits with state | state
        · simp only [state, arrived] at expected
          rcases expected.2 with ⟨_, sole⟩ | ⟨impossible, _⟩
          · rw [sole]
            exact List.cons_ne_nil _ _
          · contradiction
        · simp only [state, arrived] at expected
          exact List.ne_nil_of_length_eq_add_one expected.2
      rcases fair.responses n some with ⟨m, later, response⟩
      exact ⟨m + 1, by omega, response⟩

theorem waitRvalid_ends (fair : Fair cfg inputs) {n : Nat}
    (state : ((walking cfg).after inputs n).1.stateQ = .waitRvalid) :
    ∃ m, n ≤ m ∧ (((walking cfg).after inputs (m + 1)).1.stateQ = .idle ∨
      ((walking cfg).after inputs (m + 1)).1.stateQ = .latency) := by
  have drained (m : Nat) (state : ((walking cfg).after inputs m).1.stateQ = .waitRvalid)
      (arrived : ((walking cfg).after inputs m).1.dataRvalidQ = true) :
      ((walking cfg).after inputs (m + 1)).1.stateQ = .idle ∨
        ((walking cfg).after inputs (m + 1)).1.stateQ = .latency := by
    have next := step_of_waitRvalid cfg (inputs m) state
    rw [arrived, if_pos rfl] at next
    cases flush : (inputs m).flush with
    | true => exact Or.inr (by rwa [flush] at next)
    | false => exact Or.inl (by rwa [flush] at next)
  refine eventually_of_persists
    (fun m => ((walking cfg).after inputs m).1.stateQ = .waitRvalid) state ?_ ?_
  · intro m _ state
    cases arrived : ((walking cfg).after inputs m).1.dataRvalidQ with
    | true => exact Or.inl (drained m state arrived)
    | false =>
        have next := step_of_waitRvalid cfg (inputs m) state
        exact Or.inr (by rwa [arrived] at next)
  · rcases response_arrives regular fair (Or.inr state) with ⟨m, later, arrived⟩
    exact ⟨m, later, fun state => drained m state arrived⟩

/-- A walk that is over comes back to `IDLE`. -/
theorem ends_idle (fair : Fair cfg inputs) {n : Nat}
    (ends : ((walking cfg).after inputs n).1.stateQ.Ends ∨
      ((walking cfg).after inputs n).1.stateQ = .waitRvalid) :
    ∃ m, n ≤ m ∧ ((walking cfg).after inputs m).1.stateQ = .idle := by
  have ofLatency {n' : Nat} (later : n ≤ n')
      (state : ((walking cfg).after inputs n').1.stateQ = .latency) :
      ∃ m, n ≤ m ∧ ((walking cfg).after inputs m).1.stateQ = .idle := by
    rcases latency_ends fair state with ⟨m, after, idle⟩
    exact ⟨m + 1, by omega, idle⟩
  rcases ends with (state | state | state) | state
  · exact ofLatency le_rfl state
  · exact ofLatency (n.le_add_right 1) (step_of_error cfg (inputs n) (Or.inl state))
  · exact ofLatency (n.le_add_right 1) (step_of_error cfg (inputs n) (Or.inr state))
  · rcases waitRvalid_ends regular fair state with ⟨m, later, idle | latency⟩
    · exact ⟨m + 1, by omega, idle⟩
    · exact ofLatency (by omega) latency

theorem killReq_ends (fair : Fair cfg inputs) {n : Nat}
    (state : ((walking cfg).after inputs n).1.stateQ = .killReq) :
    ∃ m, n ≤ m ∧ ((walking cfg).after inputs m).1.stateQ = .idle := by
  have next : ((walking cfg).after inputs (n + 1)).1.stateQ.Ends ∨
      ((walking cfg).after inputs (n + 1)).1.stateQ = .waitRvalid := by
    have next := step_of_killReq cfg (inputs n) state
    cases flush : (inputs n).flush with
    | true => exact Or.inl (Or.inl (by rwa [flush] at next))
    | false => exact Or.inr (by rwa [flush] at next)
  rcases ends_idle regular fair next with ⟨m, later, idle⟩
  exact ⟨m, by omega, idle⟩

/-- An entry is looked at: the walk is over, or asks again closer to its end. -/
theorem pteLookup_ends (fair : Fair cfg inputs) {n : Nat}
    (state : ((walking cfg).after inputs n).1.stateQ = .pteLookup) :
    ∃ m, n ≤ m ∧ ((((walking cfg).after inputs (m + 1)).1.stateQ.Ends ∨
      ((walking cfg).after inputs (m + 1)).1.stateQ = .waitRvalid) ∨
        ((walking cfg).after inputs (m + 1)).1.stateQ = .waitGrant ∧
          rank ((walking cfg).after inputs (m + 1)).1 <
            rank ((walking cfg).after inputs n).1) := by
  have looked (m : Nat) (state : ((walking cfg).after inputs m).1.stateQ = .pteLookup)
      (same : place ((walking cfg).after inputs m).1 = place ((walking cfg).after inputs n).1)
      (arrived : ((walking cfg).after inputs m).1.dataRvalidQ = true) :
      (((walking cfg).after inputs (m + 1)).1.stateQ.Ends ∨
        ((walking cfg).after inputs (m + 1)).1.stateQ = .waitRvalid) ∨
          ((walking cfg).after inputs (m + 1)).1.stateQ = .waitGrant ∧
            rank ((walking cfg).after inputs (m + 1)).1 <
              rank ((walking cfg).after inputs n).1 := by
    have levels := (walking_after regular m).levels
    rcases step_of_arrived cfg (inputs m) levels state arrived with ends | ⟨_, again, closer⟩
    · exact Or.inl (Or.inl ends)
    · exact Or.inr ⟨again, closer.trans_eq (rank_eq_of_place same)⟩
  refine eventually_of_persists
    (fun m => ((walking cfg).after inputs m).1.stateQ = .pteLookup ∧
      place ((walking cfg).after inputs m).1 = place ((walking cfg).after inputs n).1)
    ⟨state, rfl⟩ ?_ ?_
  · rintro m _ ⟨state, same⟩
    cases arrived : ((walking cfg).after inputs m).1.dataRvalidQ with
    | true => exact Or.inl (looked m state same arrived)
    | false =>
        rcases step_of_pteLookup cfg (inputs m) state arrived with ⟨next, kept⟩
        cases flush : (inputs m).flush with
        | true => exact Or.inl (Or.inl (Or.inr (by rwa [flush] at next)))
        | false => exact Or.inr ⟨by rwa [flush] at next, kept.trans same⟩
  · rcases response_arrives regular fair (Or.inl state) with ⟨m, later, arrived⟩
    exact ⟨m, later, fun ⟨state, same⟩ => looked m state same arrived⟩

/-- A walk comes back to `IDLE`, by induction on the tables that are still to be read. -/
theorem lookup_idle (fair : Fair cfg inputs) (bound : Nat) :
    ∀ n, ((walking cfg).after inputs n).1.stateQ = .pteLookup →
      rank ((walking cfg).after inputs n).1 ≤ bound →
        ∃ m, n ≤ m ∧ ((walking cfg).after inputs m).1.stateQ = .idle := by
  induction bound using Nat.strong_induction_on with
  | _ bound inductionHypothesis =>
      intro n state bounded
      rcases pteLookup_ends regular fair state with ⟨m, later, ends | ⟨again, closer⟩⟩
      · rcases ends_idle regular fair ends with ⟨m', after, idle⟩
        exact ⟨m', by omega, idle⟩
      · rcases waitGrant_ends fair again with ⟨m', after, kills | looks, same⟩
        · rcases killReq_ends regular fair kills with ⟨last, behind, idle⟩
          exact ⟨last, by omega, idle⟩
        · have less := closer.trans_le bounded
          rcases inductionHypothesis _ less (m' + 1) looks (rank_eq_of_place same).le with
            ⟨last, behind, idle⟩
          exact ⟨last, by omega, idle⟩

/-- The walker always comes back to `IDLE`. -/
theorem returns_idle (fair : Fair cfg inputs) (n : Nat) :
    ∃ m, n ≤ m ∧ ((walking cfg).after inputs m).1.stateQ = .idle := by
  cases state : ((walking cfg).after inputs n).1.stateQ with
  | idle => exact ⟨n, le_rfl, state⟩
  | waitGrant =>
      rcases waitGrant_ends fair state with ⟨m, later, kills | looks, _⟩
      · rcases killReq_ends regular fair kills with ⟨last, behind, idle⟩
        exact ⟨last, by omega, idle⟩
      · rcases lookup_idle regular fair _ (m + 1) looks le_rfl with ⟨last, behind, idle⟩
        exact ⟨last, by omega, idle⟩
  | pteLookup => exact lookup_idle regular fair _ n state le_rfl
  | waitRvalid => exact ends_idle regular fair (Or.inr state)
  | propagateError => exact ends_idle regular fair (Or.inl (Or.inr (Or.inl state)))
  | propagateAccessError => exact ends_idle regular fair (Or.inl (Or.inr (Or.inr state)))
  | killReq => exact killReq_ends regular fair state
  | latency => exact ends_idle regular fair (Or.inl (Or.inl state))

end Endless

theorem walking_run {cfg : Cfg} {inputs : List Input}
    (regular : (walking cfg).RunAlong Regular inputs) :
    Walking cfg ((walking cfg).run inputs).1 ((walking cfg).run inputs).2 :=
  (walking cfg).run_invariant_along (fun c => Walking cfg c.1 c.2) (walking_reset cfg)
    (fun _ _ walking regular => walking_step walking regular) regular

/-- When every abandoned request is answered before the next one is granted, every entry that
the walker looks at is the response to its own request, whatever is flushed when; and the walker
always comes back to `IDLE`. -/
theorem pairs_and_returns (cfg : Cfg) :
    (∀ inputs : List Input, (walking cfg).RunAlong Regular inputs →
        Paired ((walking cfg).run inputs).1 ((walking cfg).run inputs).2) ∧
      ∀ inputs : Nat → Input, (∀ n, Regular ((walking cfg).after inputs n) (inputs n)) →
        Fair cfg inputs →
          ∀ n, ∃ m, n ≤ m ∧ ((walking cfg).after inputs m).1.stateQ = .idle :=
  ⟨fun _ regular => (walking_run regular).paired, fun _ regular fair n =>
    returns_idle regular fair n⟩

section Runs

/-- A cycle without a miss, a grant, a response or a flush. -/
def Input.quiet : Input where
  flush := false
  enableTranslation := true
  enableGTranslation := false
  enLdStTranslation := true
  enLdStGTranslation := false
  v := false
  ldStV := false
  hlvxInst := false
  lsuIsStore := false
  dataGnt := false
  dataRvalid := false
  dataRdata := 0
  asid := 0
  vsAsid := 0
  vmid := 0
  sharedTlbAccess := false
  sharedTlbHit := false
  sharedTlbVaddr := 0
  itlbReq := false
  satpPpn := 1
  vsatpPpn := 0
  hgatpPpn := 0
  mxr := false
  vmxr := false
  mbe := false
  allowAccess := fun _ => true

/-- A walk whose only entry is invalid. -/
def oneWalk : Nat → Input
  | 0 => { Input.quiet with sharedTlbAccess := true }
  | 1 => { Input.quiet with dataGnt := true }
  | 2 => { Input.quiet with dataRvalid := true }
  | _ => Input.quiet

/-- A request is killed, a second flush comes in the cycle of the kill, and the response only
after the next walk has asked. -/
def lateAnswer : List Input :=
  [{ Input.quiet with sharedTlbAccess := true },
    { Input.quiet with dataGnt := true, flush := true },
    { Input.quiet with flush := true },
    Input.quiet,
    { Input.quiet with sharedTlbAccess := true },
    { Input.quiet with dataGnt := true },
    { Input.quiet with dataRvalid := true }]

/-- The walker looks at the response to the killed request. -/
theorem takes_killed_response :
    (walking Cfg.sv39).RunAlong Answers lateAnswer ∧
      ¬Paired ((walking Cfg.sv39).run lateAnswer).1 ((walking Cfg.sv39).run lateAnswer).2 := by
  constructor
  · decide +kernel
  · intro paired
    have taken := paired.taken (by decide +kernel) (by decide +kernel)
    revert taken
    decide +kernel

theorem after_oneWalk (n : Nat) :
    (walking Cfg.sv39).after oneWalk (n + 7) = (walking Cfg.sv39).after oneWalk 7 := by
  induction n with
  | zero => rfl
  | succ n inductionHypothesis =>
      have rest : (walking Cfg.sv39).step ((walking Cfg.sv39).after oneWalk 7) Input.quiet =
          (walking Cfg.sv39).after oneWalk 7 := by
        decide +kernel
      rw [Nat.add_right_comm, Machine.after, inductionHypothesis]
      exact rest

theorem oneWalk_regular (n : Nat) :
    Regular ((walking Cfg.sv39).after oneWalk n) (oneWalk n) := by
  have early : ∀ n < 7, Answers ((walking Cfg.sv39).after oneWalk n) (oneWalk n) ∧
      InTime ((walking Cfg.sv39).after oneWalk n) (oneWalk n) := by
    decide +kernel
  rcases Nat.lt_or_ge n 7 with small | large
  · exact ⟨(early n small).1, (early n small).2⟩
  · rcases Nat.exists_eq_add_of_le' large with ⟨k, rfl⟩
    have last : Regular ((walking Cfg.sv39).after oneWalk 7) Input.quiet := by decide +kernel
    rw [after_oneWalk]
    exact last

theorem oneWalk_fair : Fair Cfg.sv39 oneWalk := by
  have rest (n : Nat) (large : 7 ≤ n) :
      (walking Cfg.sv39).after oneWalk n = (walking Cfg.sv39).after oneWalk 7 := by
    rcases Nat.exists_eq_add_of_le' large with ⟨k, rfl⟩
    exact after_oneWalk k
  refine ⟨?_, ?_, ?_⟩
  · intro n state
    have early : ∀ n < 7, ((walking Cfg.sv39).after oneWalk n).1.stateQ = .waitGrant → n ≤ 1 := by
      decide +kernel
    rcases Nat.lt_or_ge n 7 with small | large
    · exact ⟨1, early n small state, rfl⟩
    · rw [rest n large] at state
      exact absurd state (by decide +kernel)
  · intro n some
    have early : ∀ n < 7, ((walking Cfg.sv39).after oneWalk n).2.outstanding ≠ [] → n ≤ 2 := by
      decide +kernel
    rcases Nat.lt_or_ge n 7 with small | large
    · exact ⟨2, early n small some, rfl⟩
    · rw [rest n large] at some
      exact absurd (by decide +kernel) some
  · intro n
    refine ⟨n, le_rfl, ?_⟩
    unfold oneWalk
    split <;> rfl

/-- A request is killed, and its response comes before the next request. -/
def timelyAnswer : List Input :=
  [{ Input.quiet with sharedTlbAccess := true },
    { Input.quiet with dataGnt := true, flush := true },
    { Input.quiet with flush := true },
    { Input.quiet with dataRvalid := true },
    { Input.quiet with sharedTlbAccess := true },
    { Input.quiet with dataGnt := true },
    { Input.quiet with dataRvalid := true }]

theorem pairs_and_returns_runs :
    Paired ((walking Cfg.sv39).run timelyAnswer).1 ((walking Cfg.sv39).run timelyAnswer).2 ∧
      ∀ n, ∃ m, n ≤ m ∧ ((walking Cfg.sv39).after oneWalk m).1.stateQ = .idle :=
  ⟨(pairs_and_returns Cfg.sv39).1 timelyAnswer (by decide +kernel),
    (pairs_and_returns Cfg.sv39).2 oneWalk oneWalk_regular oneWalk_fair⟩

end Runs

end Cva6Hpd.Mmu.Ptw
