import Cva6Hpd.Hw.Bits
import Cva6Hpd.Hw.Machine
import Mathlib.Algebra.Group.Fin.Basic

/-!
# One-hot multiplexers and locking arbiters

`hpdcache_fxarb` grants the lowest requester, `hpdcache_rrarb` the first one
after the last grant. Both hold their grant in `gnt_q` while the consumer is
not ready: once `wait_q` is set the output no longer depends on the requests.
-/

/-!
## One-hot multiplexers

`hpdcache_mux` with a one-hot selector: the input that is selected, or zero when
none is.
-/

namespace Cva6Hpd.Common

open Cva6Hpd.Hw

/-- `hpdcache_mux` with a selector that is one-hot or zero; a single input needs
no selector. -/
def muxOneHot {n : Nat} [NeZero n] {α : Type} (zero : α) (sel : Bits n) (data : Fin n → α) : α :=
  if n = 1 then data 0 else if sel.any then data sel.lastIndex else zero

theorem muxOneHot_single {n : Nat} [NeZero n] {α : Type} (zero : α) (i : Fin n)
    (data : Fin n → α) : muxOneHot zero (Bits.single i) data = data i := by
  unfold muxOneHot
  split_ifs with only selected
  · congr 1
    apply Fin.ext
    have bound := i.isLt
    simp only [Fin.val_zero]
    omega
  · rw [Bits.lastIndex_single]
  · exact absurd ((Bits.any_eq_true_iff _).mpr ⟨i, Bits.single_self i⟩) selected

end Cva6Hpd.Common

namespace Cva6Hpd.Common

open Cva6Hpd.Hw

/-- The registers of either arbiter. -/
structure Arbiter (n : Nat) where
  waitQ : Bool
  gntQ : Bits n

/-- `hpdcache_prio_1hot_encoder`. -/
abbrev prio1hotEncoder {n : Nat} (val : Bits n) : Bits n :=
  val.lowest

namespace Arbiter

variable {n : Nat}

/-- `gnt_o`: the held grant while waiting, the new one otherwise. -/
def gntO (arbiter : Arbiter n) (gnt : Bits n) : Bits n :=
  if arbiter.waitQ then arbiter.gntQ else gnt

/-- `wait_q`: a request was presented and has not been consumed yet. -/
def waitD (arbiter : Arbiter n) (req : Bits n) (ready : Bool) : Bool :=
  !ready && (arbiter.waitQ || req.any)

@[simp]
theorem gntO_of_waiting {arbiter : Arbiter n} (waiting : arbiter.waitQ = true)
    (gnt : Bits n) : arbiter.gntO gnt = arbiter.gntQ := by
  simp [gntO, waiting]

@[simp]
theorem gntO_of_idle {arbiter : Arbiter n} (idle : arbiter.waitQ = false)
    (gnt : Bits n) : arbiter.gntO gnt = gnt := by
  simp [gntO, idle]

theorem waitD_eq_true_iff (arbiter : Arbiter n) (req : Bits n) (ready : Bool) :
    arbiter.waitD req ready = true ↔
      ready = false ∧ (arbiter.waitQ = true ∨ ∃ i, req i = true) := by
  simp [waitD]

end Arbiter

/-! ## Fixed priority -/

namespace Fxarb

variable {n : Nat}

def reset : Arbiter n where
  waitQ := false
  gntQ := Bits.zero

/-- `gnt_o` of `hpdcache_fxarb`. -/
def gnt (arbiter : Arbiter n) (req : Bits n) : Bits n :=
  arbiter.gntO (prio1hotEncoder req)

def step (arbiter : Arbiter n) (req : Bits n) (ready : Bool) : Arbiter n where
  waitQ := arbiter.waitD req ready
  gntQ :=
    if !ready && !arbiter.waitQ && req.any then
      prio1hotEncoder req
    else
      arbiter.gntQ

/-- A held grant is granted to exactly one requester, and to one that
`eligible` still describes. -/
def Holds (arbiter : Arbiter n) (eligible : Fin n → Prop) : Prop :=
  arbiter.waitQ = true → ∃ i, arbiter.gntQ = Bits.single i ∧ eligible i

theorem holds_reset (eligible : Fin n → Prop) : Holds reset eligible := by
  intro waiting
  simp [reset] at waiting

/-- While somebody requests, exactly one eligible requester is granted. -/
theorem gnt_oneHot {arbiter : Arbiter n} {req : Bits n}
    (holds : Holds arbiter (fun i => req i = true)) (pending : req.any = true) :
    ∃ i, gnt arbiter req = Bits.single i ∧ req i = true := by
  cases waiting : arbiter.waitQ with
  | true =>
      rw [gnt, Arbiter.gntO_of_waiting waiting]
      exact holds waiting
  | false =>
      rw [gnt, Arbiter.gntO_of_idle waiting]
      rcases (Bits.any_eq_true_iff req).mp pending with ⟨i, request⟩
      rcases Bits.exists_lowest request with ⟨j, lowest⟩
      exact ⟨j, Bits.oneHot_of_atMostOne (Bits.atMostOne_lowest req) lowest,
        Bits.lowest_le lowest⟩

/-- A grant that is not consumed is held: requesters that stay eligible keep
the arbiter on an eligible one. -/
theorem holds_step {arbiter : Arbiter n} {req : Bits n} {ready : Bool}
    {eligible : Fin n → Prop}
    (holds : Holds arbiter (fun i => req i = true))
    (remain : ready = false → ∀ i, req i = true → eligible i) :
    Holds (step arbiter req ready) eligible := by
  intro waiting
  rcases (Arbiter.waitD_eq_true_iff arbiter req ready).mp waiting with
    ⟨stalled, pending⟩
  cases held : arbiter.waitQ with
  | true =>
      rcases holds held with ⟨i, grant, request⟩
      exact ⟨i, by simp [step, held, grant], remain stalled i request⟩
  | false =>
      have requested : req.any = true := by simpa [held] using pending
      rcases gnt_oneHot holds requested with ⟨i, grant, request⟩
      rw [gnt, Arbiter.gntO_of_idle held] at grant
      refine ⟨i, ?_, remain stalled i request⟩
      simp only [step, stalled, held, requested]
      exact grant

theorem gnt_atMostOne {arbiter : Arbiter n} (held : arbiter.gntQ.AtMostOne) (req : Bits n) :
    (gnt arbiter req).AtMostOne := by
  cases waiting : arbiter.waitQ with
  | true =>
      rw [gnt, Arbiter.gntO_of_waiting waiting]
      exact held
  | false =>
      rw [gnt, Arbiter.gntO_of_idle waiting]
      exact Bits.atMostOne_lowest _

theorem gntQ_atMostOne_reset : (reset : Arbiter n).gntQ.AtMostOne := by
  intro i j hit
  contradiction

theorem gntQ_atMostOne_step {arbiter : Arbiter n} (held : arbiter.gntQ.AtMostOne)
    (req : Bits n) (ready : Bool) : (step arbiter req ready).gntQ.AtMostOne := by
  simp only [step]
  split_ifs
  · exact Bits.atMostOne_lowest _
  · exact held

end Fxarb

/-! ## Round robin -/

namespace Rrarb

variable {n : Nat} [NeZero n]

def reset : Arbiter n where
  waitQ := false
  gntQ := Bits.single (Fin.ofNat n (n - 1))

/-- The last grant rotated by one position. -/
def nxt (arbiter : Arbiter n) : Bits n := fun i => arbiter.gntQ (i - 1)

/-- The thermometer mask: every position from the rotated grant upwards. -/
def mask (arbiter : Arbiter n) : Bits n := fun i =>
  decide (∃ j, j ≤ i ∧ nxt arbiter j = true)

/-- The grant when none is held: the first requester after the last grant, or
the first one of all. -/
def grant (arbiter : Arbiter n) (req : Bits n) : Bits n :=
  let gntMsk := prio1hotEncoder fun i => req i && mask arbiter i
  let gntNomsk := prio1hotEncoder req
  if gntMsk.any then gntMsk else gntNomsk

/-- `gnt_o` of `hpdcache_rrarb`. -/
def gnt (arbiter : Arbiter n) (req : Bits n) : Bits n :=
  arbiter.gntO (grant arbiter req)

def step (arbiter : Arbiter n) (req : Bits n) (ready : Bool) : Arbiter n where
  waitQ := arbiter.waitD req ready
  gntQ := if !arbiter.waitQ && req.any then grant arbiter req else arbiter.gntQ

omit [NeZero n] in
theorem prio1hotEncoder_oneHot {req : Bits n} (pending : req.any = true) :
    ∃ i, prio1hotEncoder req = Bits.single i ∧ req i = true := by
  rcases (Bits.any_eq_true_iff req).mp pending with ⟨i, request⟩
  rcases Bits.exists_lowest request with ⟨j, lowest⟩
  exact ⟨j, Bits.oneHot_of_atMostOne (Bits.atMostOne_lowest req) lowest,
    Bits.lowest_le lowest⟩

theorem grant_oneHot (arbiter : Arbiter n) {req : Bits n} (pending : req.any = true) :
    ∃ i, grant arbiter req = Bits.single i ∧ req i = true := by
  simp only [grant, Bits.any_lowest]
  cases masked : Bits.any fun i => req i && mask arbiter i with
  | true =>
      rcases prio1hotEncoder_oneHot masked with ⟨i, granted, request⟩
      exact ⟨i, granted, (Bool.and_eq_true_iff.mp request).1⟩
  | false => exact prio1hotEncoder_oneHot pending

theorem grant_of_none (arbiter : Arbiter n) {req : Bits n} (idle : req.any = false) :
    grant arbiter req = Bits.zero := by
  have quiet : ∀ i, req i = false := (Bits.any_eq_false_iff req).mp idle
  funext i
  simp [grant, Bits.lowest, quiet]

theorem gntQ_step_of_idle {arbiter : Arbiter n} {req : Bits n} (ready : Bool)
    (idle : arbiter.waitQ = false) (pending : req.any = true) :
    (step arbiter req ready).gntQ = grant arbiter req := by
  simp [step, idle, pending]

theorem gntQ_step_of_waiting {arbiter : Arbiter n} (req : Bits n) (ready : Bool)
    (waiting : arbiter.waitQ = true) :
    (step arbiter req ready).gntQ = arbiter.gntQ := by
  simp [step, waiting]

theorem gntQ_step_of_none {arbiter : Arbiter n} {req : Bits n} (ready : Bool)
    (none : req.any = false) : (step arbiter req ready).gntQ = arbiter.gntQ := by
  simp [step, none]

theorem gntQ_oneHot_reset : (reset : Arbiter n).gntQ.OneHot :=
  ⟨_, rfl⟩

/-- The grant register is always one-hot. -/
theorem gntQ_oneHot_step {arbiter : Arbiter n} (req : Bits n) (ready : Bool)
    (oneHot : arbiter.gntQ.OneHot) : (step arbiter req ready).gntQ.OneHot := by
  cases waiting : arbiter.waitQ with
  | true =>
      rw [gntQ_step_of_waiting req ready waiting]
      exact oneHot
  | false =>
      cases pending : req.any with
      | true =>
          rw [gntQ_step_of_idle ready waiting pending]
          rcases grant_oneHot arbiter pending with ⟨i, granted, _⟩
          exact ⟨i, granted⟩
      | false =>
          rw [gntQ_step_of_none ready pending]
          exact oneHot

/-- A held grant is granted to exactly one requester, and to one that
`eligible` still describes. -/
def Holds (arbiter : Arbiter n) (eligible : Fin n → Prop) : Prop :=
  arbiter.waitQ = true → ∃ i, arbiter.gntQ = Bits.single i ∧ eligible i

theorem holds_reset (eligible : Fin n → Prop) : Holds reset eligible := by
  intro waiting
  simp [reset] at waiting

/-- The output grant goes to exactly one requester, or to the held one. -/
theorem gnt_oneHot {arbiter : Arbiter n} {req : Bits n} {eligible : Fin n → Prop}
    (holds : Holds arbiter eligible) (pending : req.any = true) :
    ∃ i, gnt arbiter req = Bits.single i ∧
      (if arbiter.waitQ then eligible i else req i = true) := by
  cases waiting : arbiter.waitQ with
  | true =>
      rw [gnt, Arbiter.gntO_of_waiting waiting]
      simpa using holds waiting
  | false =>
      rw [gnt, Arbiter.gntO_of_idle waiting]
      simpa using grant_oneHot arbiter pending

/-- A grant that is not consumed is held. -/
theorem holds_step {arbiter : Arbiter n} {req : Bits n} {ready : Bool}
    {eligible remaining : Fin n → Prop} (holds : Holds arbiter eligible)
    (held : ready = false → ∀ i, eligible i → remaining i)
    (fresh : ready = false → ∀ i, req i = true → remaining i) :
    Holds (step arbiter req ready) remaining := by
  intro waiting
  rcases (Arbiter.waitD_eq_true_iff arbiter req ready).mp waiting with
    ⟨stalled, pending⟩
  cases before : arbiter.waitQ with
  | true =>
      rcases holds before with ⟨i, granted, eligible⟩
      refine ⟨i, ?_, held stalled i eligible⟩
      rw [gntQ_step_of_waiting req ready before]
      exact granted
  | false =>
      have requested : req.any = true := by simpa [before] using pending
      rcases grant_oneHot arbiter requested with ⟨i, granted, request⟩
      refine ⟨i, ?_, fresh stalled i request⟩
      rw [gntQ_step_of_idle ready before requested]
      exact granted

/-! ### The order of the grants -/

/-- How many requesters come before `i` when the last grant went to `last`. -/
def distance (last i : Fin n) : Nat :=
  if last < i then i.val - last.val - 1 else i.val + n - last.val - 1

omit [NeZero n] in
/-- The requester of the last grant itself comes at the end. -/
theorem distance_lt {last i : Fin n} (other : i ≠ last) : distance last i < distance last last := by
  have bound := i.isLt
  have bound' := last.isLt
  have different : i.val ≠ last.val := fun equal => other (Fin.ext equal)
  simp only [distance, Fin.lt_def, Nat.lt_irrefl, if_false]
  split <;> omega

omit [NeZero n] in
theorem distance_injective {last i j : Fin n} (same : distance last i = distance last j) :
    i = j := by
  have boundI := i.isLt
  have boundJ := j.isLt
  have bound := last.isLt
  simp only [distance, Fin.lt_def] at same
  apply Fin.ext
  split at same <;> split at same <;> omega

omit [NeZero n] in
/-- From a requester that comes before another, the way to it is the rest of the way. -/
theorem distance_of_lt {last i j : Fin n} (before : distance last i < distance last j)
    (other : j ≠ last) (k : Fin n) (reached : distance i k ≤ distance i j) :
    distance last k ≤ distance last j := by
  have boundI := i.isLt
  have boundJ := j.isLt
  have boundK := k.isLt
  have bound := last.isLt
  have different : j.val ≠ last.val := fun equal => other (Fin.ext equal)
  simp only [distance, Fin.lt_def] at before reached ⊢
  split_ifs at before reached ⊢ <;> omega

theorem mask_iff {arbiter : Arbiter n} {last : Fin n} (lastGrant : arbiter.gntQ = Bits.single last)
    (i : Fin n) : mask arbiter i = true ↔ last.val + 1 = n ∨ last < i := by
  have bound := last.isLt
  have next : (last + 1).val = if last.val + 1 = n then 0 else last.val + 1 := by
    rw [Fin.val_add, Fin.val_one', Nat.add_mod_mod]
    split_ifs with turn
    · rw [turn, Nat.mod_self]
    · exact Nat.mod_eq_of_lt (by omega)
  have rotated (j : Fin n) : nxt arbiter j = true ↔ j = last + 1 := by
    rw [nxt, lastGrant, Bits.single_eq_true_iff, sub_eq_iff_eq_add]
  simp only [mask, decide_eq_true_eq, rotated, exists_eq_right, Fin.le_def, Fin.lt_def, next]
  split_ifs with turn
  · simp [turn]
  · simp only [turn, false_or]
    omega

theorem grant_first {arbiter : Arbiter n} {last : Fin n}
    (lastGrant : arbiter.gntQ = Bits.single last) {req : Bits n} (pending : req.any = true) :
    ∃ i, grant arbiter req = Bits.single i ∧ req i = true ∧
      ∀ j, req j = true → distance last i ≤ distance last j := by
  have behind := mask_iff lastGrant
  have bound := last.isLt
  simp only [grant, Bits.any_lowest]
  cases masked : Bits.any fun i => req i && mask arbiter i with
  | true =>
      rcases prio1hotEncoder_oneHot masked with ⟨i, granted, _⟩
      have lowest := (Bits.lowest_eq_true_iff _ i).mp
        (by rw [show Bits.lowest _ = _ from granted, Bits.single_self])
      rcases lowest with ⟨requested, before⟩
      rw [Bool.and_eq_true_iff, behind i] at requested
      refine ⟨i, granted, requested.1, ?_⟩
      intro j request
      have boundI := i.isLt
      have boundJ := j.isLt
      have order : j < i → ¬(last.val + 1 = n ∨ last < j) := by
        intro less covered
        have miss := before j less
        rw [request, (behind j).mpr covered] at miss
        contradiction
      simp only [distance, Fin.lt_def] at requested order ⊢
      split_ifs <;> omega
  | false =>
      rcases prio1hotEncoder_oneHot pending with ⟨i, granted, requested⟩
      have lowest := (Bits.lowest_eq_true_iff _ i).mp
        (by rw [show Bits.lowest _ = _ from granted, Bits.single_self])
      have unmasked (j : Fin n) (request : req j = true) : ¬(last.val + 1 = n ∨ last < j) := by
        have miss := (Bits.any_eq_false_iff _).mp masked j
        rw [request, Bool.true_and] at miss
        rw [← behind j, miss]
        exact Bool.false_ne_true
      refine ⟨i, granted, requested, ?_⟩
      intro j request
      have boundI := i.isLt
      have boundJ := j.isLt
      have low := unmasked i requested
      have lowJ := unmasked j request
      have order : ¬j < i := by
        intro less
        rw [lowest.2 j less] at request
        contradiction
      simp only [distance, Fin.lt_def] at low lowJ order ⊢
      split_ifs <;> omega

/-! ### Runs -/

/-- The inputs of one cycle. -/
structure Cycle (n : Nat) where
  req : Bits n
  ready : Bool

def machine (n : Nat) [NeZero n] : Machine (Arbiter n) (Cycle n) where
  reset := reset
  step arbiter cycle := step arbiter cycle.req cycle.ready

theorem gntQ_oneHot_run (cycles : List (Cycle n)) : ((machine n).run cycles).gntQ.OneHot :=
  (machine n).run_invariant (fun arbiter => arbiter.gntQ.OneHot) gntQ_oneHot_reset
    (fun _ cycle oneHot => gntQ_oneHot_step cycle.req cycle.ready oneHot) cycles

theorem gnt_cases {arbiter : Arbiter n} (oneHot : arbiter.gntQ.OneHot) (req : Bits n) :
    (gnt arbiter req).OneHot ∨
      arbiter.waitQ = false ∧ req.any = false ∧ gnt arbiter req = Bits.zero := by
  cases waiting : arbiter.waitQ with
  | true =>
      left
      rw [gnt, Arbiter.gntO_of_waiting waiting]
      exact oneHot
  | false =>
      rw [gnt, Arbiter.gntO_of_idle waiting]
      cases pending : req.any with
      | true =>
          rcases grant_oneHot arbiter pending with ⟨i, granted, _⟩
          exact Or.inl ⟨i, granted⟩
      | false => exact Or.inr ⟨rfl, rfl, grant_of_none arbiter pending⟩

/-- A grant is latched, whether it is accepted or not. -/
theorem gntQ_step_of_gnt {arbiter : Arbiter n} (oneHot : arbiter.gntQ.OneHot) {req : Bits n}
    {i : Fin n} (granted : gnt arbiter req i = true) (ready : Bool) :
    (step arbiter req ready).gntQ = Bits.single i ∧
      gnt arbiter req = Bits.single i ∧ (step arbiter req ready).waitQ = !ready := by
  have single : gnt arbiter req = Bits.single i := by
    rcases gnt_cases oneHot req with ⟨j, one⟩ | ⟨_, _, none⟩
    · rw [one, Bits.single_eq_true_iff] at granted
      rw [one, granted]
    · rw [none] at granted
      contradiction
  cases waiting : arbiter.waitQ with
  | true =>
      refine ⟨?_, single, by simp [step, Arbiter.waitD, waiting]⟩
      rw [gntQ_step_of_waiting req ready waiting]
      rwa [gnt, Arbiter.gntO_of_waiting waiting] at single
  | false =>
      have pending : req.any = true := by
        by_contra none
        rw [Bool.not_eq_true] at none
        rw [gnt, Arbiter.gntO_of_idle waiting, grant_of_none arbiter none] at granted
        contradiction
      refine ⟨?_, single, by simp only [step, Arbiter.waitD, waiting, pending]; simp⟩
      rw [gntQ_step_of_idle ready waiting pending]
      rwa [gnt, Arbiter.gntO_of_idle waiting] at single

theorem gnt_held {arbiter : Arbiter n} (oneHot : arbiter.gntQ.OneHot) {req : Bits n} {i : Fin n}
    (granted : gnt arbiter req i = true) (next : Bits n) :
    gnt (step arbiter req false) next = Bits.single i := by
  rcases gntQ_step_of_gnt oneHot granted false with ⟨latched, _, waits⟩
  rw [gnt, Arbiter.gntO_of_waiting waits, latched]

/-! ### Fairness -/

/-- A cycle in which the grant of a requester is accepted. -/
def accepts (arbiter : Arbiter n) (cycle : Cycle n) (i : Fin n) : Bool :=
  gnt arbiter cycle.req i && cycle.ready

/-- How often a requester is accepted in some cycles. -/
def acceptances (i : Fin n) : Arbiter n → List (Cycle n) → Nat
  | _, [] => 0
  | arbiter, cycle :: cycles =>
      (if accepts arbiter cycle i then 1 else 0) +
        acceptances i (step arbiter cycle.req cycle.ready) cycles

/-- The grants since the one accepted for `i` have not gone past `j`: a held grant may be the one
for `j` itself. -/
def Turn (i j : Fin n) (arbiter : Arbiter n) : Prop :=
  ∃ last, arbiter.gntQ = Bits.single last ∧
    if arbiter.waitQ then distance i last ≤ distance i j
    else last = i ∨ distance i last < distance i j

omit [NeZero n] in
theorem Turn.oneHot {i j : Fin n} {arbiter : Arbiter n} (turn : Turn i j arbiter) :
    arbiter.gntQ.OneHot := by
  rcases turn with ⟨last, latched, _⟩
  exact ⟨last, latched⟩

theorem turn_of_accepts {arbiter : Arbiter n} (oneHot : arbiter.gntQ.OneHot) {cycle : Cycle n}
    {i : Fin n} (accepted : accepts arbiter cycle i = true) (j : Fin n) :
    Turn i j (step arbiter cycle.req cycle.ready) := by
  rcases Bool.and_eq_true_iff.mp accepted with ⟨granted, ready⟩
  rcases gntQ_step_of_gnt oneHot granted cycle.ready with ⟨latched, _, waits⟩
  rw [ready] at waits
  refine ⟨i, latched, ?_⟩
  rw [ready, waits]
  exact Or.inl rfl

/-- While `j` requests, the grant does not go past it. -/
theorem Turn.gnt_le {arbiter : Arbiter n} {i j : Fin n} (turn : Turn i j arbiter) (other : j ≠ i)
    {req : Bits n} (request : req j = true) {k : Fin n} (granted : gnt arbiter req k = true) :
    distance i k ≤ distance i j := by
  have single := (gntQ_step_of_gnt turn.oneHot granted false).2.1
  rcases turn with ⟨last, latched, order⟩
  cases waiting : arbiter.waitQ with
  | true =>
      rw [waiting, if_pos rfl] at order
      rw [gnt, Arbiter.gntO_of_waiting waiting, latched, Bits.single_eq_true_iff] at granted
      rwa [granted]
  | false =>
      rw [waiting, if_neg Bool.false_ne_true] at order
      have pending : req.any = true := (Bits.any_eq_true_iff req).mpr ⟨j, request⟩
      rcases grant_first latched pending with ⟨first, fresh, _, least⟩
      rw [gnt, Arbiter.gntO_of_idle waiting, fresh, Bits.single_eq_true_iff] at granted
      subst granted
      rcases order with rfl | before
      · exact least j request
      · exact distance_of_lt before other k (least j request)

/-- A cycle in which `j` requests and is not accepted does not accept `i` either. -/
theorem Turn.step {arbiter : Arbiter n} {i j : Fin n} (turn : Turn i j arbiter) (other : j ≠ i)
    {cycle : Cycle n} (request : cycle.req j = true) (misses : accepts arbiter cycle j = false) :
    accepts arbiter cycle i = false ∧ Turn i j (step arbiter cycle.req cycle.ready) := by
  have early (k : Fin n) (granted : gnt arbiter cycle.req k = true) :
      distance i k ≤ distance i j := turn.gnt_le other request granted
  constructor
  · refine Bool.eq_false_iff.mpr fun accepted => ?_
    have late := early i (Bool.and_eq_true_iff.mp accepted).1
    have last := distance_lt other
    omega
  · have granted : ∃ k, gnt arbiter cycle.req k = true := by
      rcases gnt_cases turn.oneHot cycle.req with ⟨k, one⟩ | ⟨_, none, _⟩
      · exact ⟨k, by rw [one, Bits.single_self]⟩
      · rw [(Bits.any_eq_false_iff _).mp none j] at request
        contradiction
    rcases granted with ⟨k, granted⟩
    rcases gntQ_step_of_gnt turn.oneHot granted cycle.ready with ⟨latched, _, waits⟩
    refine ⟨k, latched, ?_⟩
    rw [waits]
    cases ready : cycle.ready with
    | false => exact early k granted
    | true =>
        refine Or.inr (Nat.lt_of_le_of_ne (early k granted) fun same => ?_)
        rw [distance_injective same] at granted
        rw [accepts, granted, ready] at misses
        contradiction

theorem Turn.run {i j : Fin n} (other : j ≠ i) {cycles : List (Cycle n)} {arbiter : Arbiter n}
    (turn : Turn i j arbiter) (requests : ∀ cycle ∈ cycles, cycle.req j = true)
    (misses : acceptances j arbiter cycles = 0) :
    acceptances i arbiter cycles = 0 ∧ Turn i j ((machine n).runFrom arbiter cycles) := by
  induction cycles generalizing arbiter with
  | nil => exact ⟨rfl, turn⟩
  | cons cycle cycles inductionHypothesis =>
      rw [acceptances, Nat.add_eq_zero_iff] at misses
      have missed : accepts arbiter cycle j = false := by
        by_contra accepted
        rw [Bool.not_eq_false] at accepted
        rw [if_pos accepted] at misses
        exact absurd misses.1 (Nat.succ_ne_zero 0)
      rcases turn.step other (requests cycle List.mem_cons_self) missed with ⟨missesI, turn⟩
      rcases inductionHypothesis turn
        (fun later member => requests later (List.mem_cons_of_mem cycle member)) misses.2 with
        ⟨rest, turn⟩
      rw [acceptances, missesI, rest]
      exact ⟨rfl, turn⟩

/-- While both request and `i` is not accepted again, `j` is accepted once at most. -/
theorem Turn.acceptances_le_one {i j : Fin n} (other : j ≠ i) {cycles : List (Cycle n)}
    {arbiter : Arbiter n} (turn : Turn i j arbiter)
    (requests : ∀ cycle ∈ cycles, cycle.req i = true ∧ cycle.req j = true)
    (misses : acceptances i arbiter cycles = 0) : acceptances j arbiter cycles ≤ 1 := by
  induction cycles generalizing arbiter with
  | nil => exact Nat.zero_le 1
  | cons cycle cycles inductionHypothesis =>
      have later (member : Cycle n) (inside : member ∈ cycles) :
          member.req i = true ∧ member.req j = true :=
        requests member (List.mem_cons_of_mem cycle inside)
      rw [acceptances, Nat.add_eq_zero_iff] at misses
      rw [acceptances]
      cases accepted : accepts arbiter cycle j with
      | true =>
          -- From here on it is the turn of `i` again.
          have back := turn_of_accepts turn.oneHot accepted i
          have none := (back.run other.symm (fun member inside => (later member inside).1)
            misses.2).1
          rw [if_pos rfl, none]
      | false =>
          have next := (turn.step other (requests cycle List.mem_cons_self).2 accepted).2
          rw [if_neg Bool.false_ne_true, Nat.zero_add]
          exact inductionHypothesis next later misses.2

/-- Between two acceptances of `i`, with none in between, a requester that requests in every cycle
is accepted, and exactly once if `i` requests all the time as well. -/
theorem acceptances_between {i j : Fin n} (other : j ≠ i) {arbiter : Arbiter n}
    (oneHot : arbiter.gntQ.OneHot) {first last : Cycle n} {between : List (Cycle n)}
    (accepted : accepts arbiter first i = true)
    (misses : acceptances i (step arbiter first.req first.ready) between = 0)
    (again : accepts ((machine n).runFrom arbiter (first :: between)) last i = true)
    (requests : ∀ cycle ∈ between ++ [last], cycle.req j = true) :
    1 ≤ acceptances j (step arbiter first.req first.ready) between ∧
      ((∀ cycle ∈ between, cycle.req i = true) →
        acceptances j (step arbiter first.req first.ready) between = 1) := by
  have turn := turn_of_accepts oneHot accepted j
  have inside (cycle : Cycle n) (member : cycle ∈ between) : cycle.req j = true :=
    requests cycle (List.mem_append_left _ member)
  have atLeast : 1 ≤ acceptances j (step arbiter first.req first.ready) between := by
    by_contra none
    rcases turn.run other inside (by omega) with ⟨_, reached⟩
    have late := reached.gnt_le other (requests last (by simp)) (Bool.and_eq_true_iff.mp again).1
    have least := distance_lt other
    omega
  refine ⟨atLeast, fun keeps => Nat.le_antisymm ?_ atLeast⟩
  exact turn.acceptances_le_one other
    (fun cycle member => ⟨keeps cycle member, inside cycle member⟩) misses

/-- The arbiter over every run: the grant is one-hot, or zero when nobody requests and none is
held; a free arbiter grants a requester; a grant stays until it is accepted; and between two
acceptances of one requester, each other one that requests all the time is accepted, exactly once
if the first one requests all the time too. -/
theorem rrarb_run (cycles : List (Cycle n)) :
    (∀ req, (gnt ((machine n).run cycles) req).OneHot ∨
      ((machine n).run cycles).waitQ = false ∧ req.any = false ∧
        gnt ((machine n).run cycles) req = Bits.zero) ∧
    (∀ req, ((machine n).run cycles).waitQ = false → req.any = true →
      ∃ i, gnt ((machine n).run cycles) req = Bits.single i ∧ req i = true) ∧
    (∀ req i, gnt ((machine n).run cycles) req i = true →
      ∀ next, gnt ((machine n).run (cycles ++ [⟨req, false⟩])) next = Bits.single i) ∧
    ∀ i j first between last, j ≠ i → accepts ((machine n).run cycles) first i = true →
      acceptances i ((machine n).run (cycles ++ [first])) between = 0 →
      accepts ((machine n).run (cycles ++ first :: between)) last i = true →
      (∀ cycle ∈ between ++ [last], cycle.req j = true) →
      1 ≤ acceptances j ((machine n).run (cycles ++ [first])) between ∧
        ((∀ cycle ∈ between, cycle.req i = true) →
          acceptances j ((machine n).run (cycles ++ [first])) between = 1) := by
  have oneHot := gntQ_oneHot_run cycles
  refine ⟨gnt_cases oneHot, ?_, ?_, ?_⟩
  · intro req idle pending
    rw [gnt, Arbiter.gntO_of_idle idle]
    exact grant_oneHot _ pending
  · intro req i granted next
    rw [Machine.run_concat]
    exact gnt_held oneHot granted next
  · intro i j first between last other accepted misses again requests
    rw [Machine.run_concat] at misses ⊢
    rw [Machine.run_append] at again
    exact acceptances_between other oneHot accepted misses again requests

/-- Both of two requesters ask in turn and are accepted at once. -/
theorem rrarb_run_alternating :
    acceptances 1 ((machine 2).run [⟨Bits.single 0, true⟩]) [⟨fun _ => true, true⟩] = 1 := by
  have law := (rrarb_run ([] : List (Cycle 2))).2.2.2 0 1 ⟨Bits.single 0, true⟩
    [⟨fun _ => true, true⟩] ⟨fun _ => true, true⟩ (by decide) (by decide) (by decide) (by decide)
    (by decide)
  exact law.2 (by decide)

/-- A requester that does not ask again is overtaken twice before its next acceptance. -/
theorem accepted_twice :
    accepts ((machine 2).run []) ⟨Bits.single 0, true⟩ 0 = true ∧
    acceptances 0 ((machine 2).run [⟨Bits.single 0, true⟩])
      [⟨Bits.single 1, true⟩, ⟨Bits.single 1, true⟩] = 0 ∧
    accepts ((machine 2).run [⟨Bits.single 0, true⟩, ⟨Bits.single 1, true⟩, ⟨Bits.single 1, true⟩])
      ⟨fun _ => true, true⟩ 0 = true ∧
    (∀ cycle ∈ [(⟨Bits.single 1, true⟩ : Cycle 2), ⟨Bits.single 1, true⟩, ⟨fun _ => true, true⟩],
      cycle.req 1 = true) ∧
    acceptances 1 ((machine 2).run [⟨Bits.single 0, true⟩])
      [⟨Bits.single 1, true⟩, ⟨Bits.single 1, true⟩] = 2 := by
  decide

end Rrarb

end Cva6Hpd.Common

/-!
## The arbiter tree of two requesters

`rr_arb_tree` with `NumIn` two, `AxiVldRdy`, `LockIn` and `FairArb`: while a request is not
granted, the requests that it was chosen from are held.
-/

namespace Cva6Hpd.Common

open Cva6Hpd.Hw

/-- The registers of `rr_arb_tree`; a bit stands for an index. -/
structure RrArbTree where
  rrQ : Bool
  lockQ : Bool
  reqQ : Bits 2

namespace RrArbTree

def reset : RrArbTree where
  rrQ := false
  lockQ := false
  reqQ := Bits.zero

section Code

variable (arb : RrArbTree) (req : Bits 2) (gnt : Bool)

def reqD : Bits 2 := if arb.lockQ then arb.reqQ else req

def reqO : Bool := reqD arb req 0 || reqD arb req 1

/-- `idx_o`. -/
def idx : Bool := !reqD arb req 0 || (reqD arb req 1 && arb.rrQ)

/-- `gnt_o`. -/
def gntO : Bits 2 := fun i => gnt && (if i = 0 then !idx arb req else idx arb req)

def nextIdx : Bool :=
  let upper := !arb.rrQ && reqD arb req 1
  let lowerIdx := !reqD arb req 0 && (arb.rrQ && reqD arb req 1)
  if upper then true else lowerIdx

def step : RrArbTree where
  rrQ := if gnt && reqO arb req then nextIdx arb req else arb.rrQ
  lockQ := reqO arb req && !gnt
  reqQ := reqD arb req

end Code

/-! ## Held requests -/

/-- The requests that are held are still there. -/
structure Held (arb : RrArbTree) (req : Bits 2) : Prop where
  stays : arb.lockQ = true → ∀ i, arb.reqQ i = true → req i = true
  some : arb.lockQ = true → (arb.reqQ 0 || arb.reqQ 1) = true

variable {arb : RrArbTree} {req next : Bits 2} {gnt : Bool}

theorem held_reset (req : Bits 2) : Held reset req :=
  ⟨nofun, nofun⟩

theorem Held.reqD_le (held : Held arb req) {i : Fin 2} (requested : reqD arb req i = true) :
    req i = true := by
  rw [reqD] at requested
  split at requested
  case isTrue locked => exact held.stays locked i requested
  case isFalse => exact requested

theorem Held.reqO_of_any (held : Held arb req) (some : req.any = true) : reqO arb req = true := by
  rw [reqO, reqD]
  split
  case isTrue locked => exact held.some locked
  case isFalse =>
    obtain ⟨i, requests⟩ := (Bits.any_eq_true_iff req).mp some
    match i with
    | 0 => simp [requests]
    | 1 => simp [requests]

theorem Held.req_of_idx (held : Held arb req) (some : req.any = true) :
    req (if idx arb req then 1 else 0) = true := by
  have requested := held.reqO_of_any some
  rw [reqO] at requested
  cases first : reqD arb req 0 with
  | false =>
      rw [first, Bool.false_or] at requested
      simpa [idx, first] using held.reqD_le requested
  | true =>
      cases chosen : idx arb req with
      | false => exact held.reqD_le first
      | true =>
          have second : (reqD arb req 1 && arb.rrQ) = true := by simpa [idx, first] using chosen
          exact held.reqD_le (Bool.and_eq_true_iff.mp second).1

theorem Held.step (held : Held arb req)
    (stays : gnt = false → ∀ i, req i = true → next i = true) :
    Held (arb.step req gnt) next := by
  constructor
  · intro locked i requested
    have notGranted : gnt = false := by simpa using (Bool.and_eq_true_iff.mp locked).2
    exact stays notGranted i (held.reqD_le requested)
  · intro locked
    exact (Bool.and_eq_true_iff.mp locked).1

/-- Without a grant, the choice is held. -/
theorem Held.idx_step (held : Held arb req) (some : req.any = true) :
    idx (arb.step req false) next = idx arb req := by
  have locked : (arb.step req false).lockQ = true := by simp [RrArbTree.step, held.reqO_of_any some]
  have same : reqD (arb.step req false) next = reqD arb req := by
    rw [reqD, locked, if_pos rfl]
    rfl
  rw [idx, idx, same]
  rfl

end RrArbTree

end Cva6Hpd.Common
