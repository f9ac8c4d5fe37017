import Cva6Hpd.Prefetcher.Predictions
import Mathlib.Data.List.Chain

/-!
# Which history a prediction comes from

On addresses that fit the index, the first table predicts what followed the
last miss. The index of a pair is the exclusive or of its two addresses, so the
second table predicts what followed some pair with the same exclusive or: the
same pair in either order, or any other pair of the same difference.
-/

namespace Cva6Hpd.Prefetcher

open Cva6Hpd.Hw

variable {addrWidth indexWidth : Nat}

/-- In a list of misses, last first, `next` came right after `addr`. -/
def Followed (past : List (BitVec addrWidth)) (addr next : BitVec addrWidth) : Prop :=
  [next, addr] <:+: past

/-- In a list of misses, last first, `next` came right after `pre` and `addr`. -/
def PairFollowed (past : List (BitVec addrWidth)) (pre addr next : BitVec addrWidth) : Prop :=
  [next, addr, pre] <:+: past

/-- The misses after two misses to address zero. -/
def withReset (past : List (BitVec addrWidth)) : List (BitVec addrWidth) :=
  past ++ [0, 0]

theorem pairFollowed_cons (next : BitVec addrWidth) (past : List (BitVec addrWidth)) :
    PairFollowed (withReset (next :: past)) (missBack past 1) (missBack past 0) next := by
  match past with
  | [] => exact (List.prefix_refl _).isInfix
  | [_] => exact (List.prefix_append _ [0]).isInfix
  | _ :: _ :: past => exact (List.prefix_append _ (past ++ [0, 0])).isInfix

theorem PairFollowed.cons {past : List (BitVec addrWidth)} {pre addr next : BitVec addrWidth}
    (followed : PairFollowed (withReset past) pre addr next) (later : BitVec addrWidth) :
    PairFollowed (withReset (later :: past)) pre addr next :=
  List.infix_cons followed

/-- What a search finds came after two misses that `hit` describes. -/
theorem pairFollowed_of_lastAfter {hit : BitVec addrWidth → BitVec addrWidth → Bool}
    {past : List (BitVec addrWidth)} {next : BitVec addrWidth}
    (found : lastAfter hit past = some next) :
    ∃ pre addr, hit addr pre = true ∧ PairFollowed (withReset past) pre addr next := by
  induction past with
  | nil => simp [lastAfter] at found
  | cons last past inductionHypothesis =>
      rw [lastAfter] at found
      split_ifs at found with hits
      · cases found
        exact ⟨_, _, hits, pairFollowed_cons _ _⟩
      · rcases inductionHypothesis found with ⟨pre, addr, hits, followed⟩
        exact ⟨pre, addr, hits, followed.cons last⟩

/-- What came after a pair came after its second miss, and is itself a miss of
the run. -/
theorem PairFollowed.followed {past : List (BitVec addrWidth)} {pre addr next : BitVec addrWidth}
    (followed : PairFollowed (withReset past) pre addr next) :
    Followed (past ++ [0]) addr next := by
  rcases followed with ⟨later, earlier, equal⟩
  rcases List.eq_nil_or_concat earlier with rfl | ⟨earlier, oldest, rfl⟩
  · have regroup : (later ++ [next, addr]) ++ [pre] = (past ++ [0]) ++ [0] := by
      simpa [withReset] using equal
    exact ⟨later, [], by simpa using (List.append_inj' regroup rfl).1⟩
  · have regroup : (later ++ next :: addr :: pre :: earlier) ++ [oldest] =
        (past ++ [0]) ++ [0] := by
      simpa [withReset] using equal
    exact ⟨later, pre :: earlier, by simpa using (List.append_inj' regroup rfl).1⟩

/-! ## Small addresses -/

theorem zero_lt_twoPow : (0 : BitVec addrWidth).toNat < 2 ^ indexWidth := by
  exact Nat.two_pow_pos indexWidth

/-- Every miss fits the index. -/
def Small (indexWidth : Nat) (past : List (BitVec addrWidth)) : Prop :=
  ∀ addr ∈ past, addr.toNat < 2 ^ indexWidth

theorem Small.withReset {past : List (BitVec addrWidth)} (small : Small indexWidth past) :
    Small indexWidth (withReset past) := by
  intro addr member
  rcases List.mem_append.mp member with real | zero
  · exact small addr real
  · have equal : addr = 0 := by simpa using zero
    rw [equal]
    exact zero_lt_twoPow

theorem Small.missBack {past : List (BitVec addrWidth)} (small : Small indexWidth past)
    (k : Nat) : (missBack past k).toNat < 2 ^ indexWidth := by
  rw [Prefetcher.missBack, List.getD_eq_getElem?_getD]
  cases found : past[k]? with
  | none => exact zero_lt_twoPow
  | some addr => exact small addr (List.mem_of_getElem? found)

theorem pair_of_lastAfterPair {past : List (BitVec addrWidth)} {next a b : BitVec addrWidth}
    (small : Small indexWidth past) (smallA : a.toNat < 2 ^ indexWidth)
    (smallB : b.toNat < 2 ^ indexWidth)
    (found : lastAfterPair past (xorHash indexWidth a b) = some next) :
    ∃ pre addr, addr ^^^ pre = a ^^^ b ∧ PairFollowed (withReset past) pre addr next := by
  rcases pairFollowed_of_lastAfter found with ⟨pre, addr, hits, followed⟩
  have member := fun x (inside : x ∈ [next, addr, pre]) =>
    small.withReset x (followed.subset inside)
  refine ⟨pre, addr, ?_, followed⟩
  exact xor_eq_of_xorHash_eq (member addr (by simp)) (member pre (by simp)) smallA smallB
    (beq_iff_eq.mp hits)

theorem followed_of_lastAfterMiss {past : List (BitVec addrWidth)} {next a : BitVec addrWidth}
    (small : Small indexWidth past) (smallA : a.toNat < 2 ^ indexWidth)
    (found : lastAfterMiss past (xorHash indexWidth a 0) = some next) :
    Followed (past ++ [0]) a next := by
  rcases pairFollowed_of_lastAfter found with ⟨pre, addr, hits, followed⟩
  have smallAddr := small.withReset addr (followed.subset (by simp))
  have equal := xor_eq_of_xorHash_eq smallAddr zero_lt_twoPow smallA zero_lt_twoPow
    (beq_iff_eq.mp hits)
  have same : addr = a := by simpa using equal
  exact same ▸ followed.followed

/-! ## Runs -/

variable (powerUp : PowerUp addrWidth indexWidth)

/-- A prediction for the last miss repeats observed history: taken from the
second table it followed the last two misses in their order, taken from the
first it followed the last miss. -/
def Grounded (inputs : List (Input addrWidth)) (trigger next : Input addrWidth) : Prop :=
  let past := misses powerUp (inputs ++ [trigger])
  let lookup := (machine powerUp).run (inputs ++ [trigger])
  ∀ addr ∈ ((machine powerUp).run (inputs ++ [trigger, next])).prefReq.request,
    if lookup.mht2.readValid then
      PairFollowed past (missBack past 1) (missBack past 0) addr
    else
      Followed past (missBack past 0) addr

theorem Grounded.followed {powerUp : PowerUp addrWidth indexWidth}
    {inputs : List (Input addrWidth)} {trigger next : Input addrWidth}
    (grounded : Grounded powerUp inputs trigger next) {addr : BitVec addrWidth}
    (issued : ((machine powerUp).run (inputs ++ [trigger, next])).prefReq.request = some addr) :
    Followed (misses powerUp (inputs ++ [trigger]))
      (missBack (misses powerUp (inputs ++ [trigger])) 0) addr := by
  have source := grounded addr issued
  split_ifs at source
  · exact (List.prefix_append [addr, _] [_]).isInfix.trans source
  · exact source

/-- A cycle with a read miss. -/
def missAt (missAddr : BitVec addrWidth) : Input addrWidth where
  evtCacheReadMiss := true
  missAddr := missAddr

/-- A cycle without a read miss. -/
def quiet : Input addrWidth where
  evtCacheReadMiss := false
  missAddr := 0

/-- Data arrays of zeros, for the widths of `domino_pkg`. -/
def zeroArrays : PowerUp 56 10 where
  mht1 := fun _ => 0
  mht2 := fun _ => 0

/-- The misses 1 and 2, each followed by a quiet cycle. -/
def oneTwo : List (Input 56) := [missAt 1, quiet, missAt 2, quiet]

/-- The third of the misses 1, 2, 1 is predicted to follow itself: its pair has
the index of the pair that it followed. And a first miss to address zero is
predicted to follow itself, since the empty history is address zero. -/
theorem ungrounded_predictions :
    (Small 10 (misses zeroArrays (oneTwo ++ [missAt 1])) ∧
        ¬Grounded zeroArrays oneTwo (missAt 1) quiet) ∧
      (Small 10 (misses zeroArrays ([] ++ [missAt 0])) ∧
        ¬Grounded zeroArrays [] (missAt 0) quiet) := by
  have oneTwoOne : misses zeroArrays (oneTwo ++ [missAt 1]) = [1, 2, 1] := by decide +kernel
  have zero : misses zeroArrays ([] ++ [missAt 0]) = [0] := by decide +kernel
  refine ⟨⟨by rw [oneTwoOne]; simp [Small], fun grounded => ?_⟩,
    by rw [zero]; simp [Small], fun grounded => ?_⟩
  · have issued := request_of_miss zeroArrays
      (show ((machine zeroArrays).run oneTwo).trigger.missDetected (missAt 1) = true from rfl) quiet
    rw [oneTwoOne, show predict 10 [1, 2, 1] = some 1 by decide +kernel] at issued
    have followed := grounded.followed issued
    rw [oneTwoOne] at followed
    simp [Followed, missBack, List.infix_cons_iff] at followed
  · have issued := request_of_miss zeroArrays
      (show ((machine zeroArrays).run []).trigger.missDetected (missAt 0) = true from rfl) quiet
    rw [zero, show predict 10 [0] = some 0 by decide +kernel] at issued
    have followed := grounded.followed issued
    rw [zero] at followed
    simp [Followed, missBack, List.infix_cons_iff] at followed

/-- What a table predicts on addresses that fit the index: the first what
followed the last miss, the second what followed two misses with the exclusive
or of the last two. -/
theorem predictions_drawn (inputs : List (Input addrWidth)) (trigger next : Input addrWidth)
    (small : Small indexWidth (misses powerUp (inputs ++ [trigger])))
    {addr : BitVec addrWidth}
    (issued : ((machine powerUp).run (inputs ++ [trigger, next])).prefReq.request = some addr) :
    let past := misses powerUp (inputs ++ [trigger])
    let lookup := (machine powerUp).run (inputs ++ [trigger])
    if lookup.mht2.readValid then
      ∃ pre prior, prior ^^^ pre = missBack past 0 ^^^ missBack past 1 ∧
        PairFollowed (withReset past) pre prior addr
    else
      Followed (past ++ [0]) (missBack past 0) addr := by
  intro past lookup
  have reads := reads_run powerUp inputs trigger
  rw [request_run] at issued
  change lookup.mht2.read.or lookup.mht1.read = some addr at issued
  split_ifs at reads with miss
  · rcases reads with ⟨second, first⟩
    cases valid : lookup.mht2.readValid with
    | true =>
        rw [MhtRam.read_of_valid valid] at issued second
        have found := second.symm.trans issued
        exact pair_of_lastAfterPair small (small.missBack 0) (small.missBack 1) found
    | false =>
        rw [MhtRam.read_of_invalid valid, Option.none_or] at issued
        exact followed_of_lastAfterMiss small (small.missBack 0) (first.symm.trans issued)
  · rcases reads with ⟨second, first⟩
    change lookup.mht2.read = none at second
    change lookup.mht1.read = none at first
    rw [second, first] at issued
    contradiction

/-- The miss that repeats the pair 1, 2 draws on what followed it. -/
theorem predictions_drawn_swapped :
    let past := misses zeroArrays (oneTwo ++ [missAt 1])
    let lookup := (machine zeroArrays).run (oneTwo ++ [missAt 1])
    if lookup.mht2.readValid then
      ∃ pre prior, prior ^^^ pre = missBack past 0 ^^^ missBack past 1 ∧
        PairFollowed (withReset past) pre prior 1
    else
      Followed (past ++ [0]) (missBack past 0) 1 := by
  have past : misses zeroArrays (oneTwo ++ [missAt 1]) = [1, 2, 1] := by decide +kernel
  refine predictions_drawn zeroArrays oneTwo (missAt 1) quiet
    (by rw [past]; simp [Small]) ?_
  rw [request_of_miss zeroArrays rfl quiet, past]
  decide +kernel

end Cva6Hpd.Prefetcher

/-!
## The events that the prefetcher trains on

The cache reports a read miss in every cycle of which the event is asserted. The trigger sees the
rising edges of the event: of misses in consecutive cycles only the first one trains the tables.
-/

namespace Cva6Hpd.Prefetcher

open Cva6Hpd.Hw

variable {addrWidth indexWidth : Nat}

/-! ## Events -/

/-- The addresses of the misses that the cache reports, first to last. -/
def events (inputs : List (Input addrWidth)) : List (BitVec addrWidth) :=
  (inputs.filter Input.evtCacheReadMiss).map Input.missAddr

/-- No two misses in consecutive cycles. -/
def Separated (inputs : List (Input addrWidth)) : Prop :=
  inputs.IsChain fun first second =>
    ¬(first.evtCacheReadMiss = true ∧ second.evtCacheReadMiss = true)

theorem events_concat (inputs : List (Input addrWidth)) (input : Input addrWidth) :
    events (inputs ++ [input]) =
      if input.evtCacheReadMiss then events inputs ++ [input.missAddr] else events inputs := by
  rw [events, List.filter_append, List.map_append, events]
  cases miss : input.evtCacheReadMiss with
  | true => simp [miss]
  | false => simp [miss]

theorem separated_concat (inputs : List (Input addrWidth)) (input : Input addrWidth) :
    Separated (inputs ++ [input]) ↔ Separated inputs ∧
      ∀ last ∈ inputs.getLast?,
        ¬(last.evtCacheReadMiss = true ∧ input.evtCacheReadMiss = true) := by
  rw [Separated, List.isChain_append]
  simp [Separated]

/-! ## Runs -/

variable (powerUp : PowerUp addrWidth indexWidth)

theorem missQ_run (inputs : List (Input addrWidth)) :
    ((machine powerUp).run inputs).trigger.missQ =
      inputs.getLast?.any Input.evtCacheReadMiss := by
  induction inputs using List.reverseRecOn with
  | nil => rfl
  | append_singleton inputs input _ =>
      rw [Machine.run_concat, List.getLast?_concat]
      rfl

/-- The tables are trained with no more misses than the cache reports. -/
theorem length_misses_le (inputs : List (Input addrWidth)) :
    (misses powerUp inputs).length ≤ (events inputs).length := by
  induction inputs using List.reverseRecOn with
  | nil => exact Nat.le_refl 0
  | append_singleton inputs input inductionHypothesis =>
      rw [misses_concat, events_concat, TriggerDetector.missDetected]
      cases miss : input.evtCacheReadMiss with
      | false => simpa using inductionHypothesis
      | true =>
          rw [if_pos rfl, List.length_append, List.length_singleton]
          split
          · exact Nat.succ_le_succ inductionHypothesis
          · exact Nat.le_succ_of_le inductionHypothesis

/-- The misses that train the tables are exactly those that the cache reports if and only if no
two of them come in consecutive cycles. -/
theorem trains_on_events_iff (inputs : List (Input addrWidth)) :
    (misses powerUp inputs).reverse = events inputs ↔ Separated inputs := by
  induction inputs using List.reverseRecOn with
  | nil => exact iff_of_true rfl .nil
  | append_singleton inputs input inductionHypothesis =>
      rw [misses_concat, events_concat, separated_concat, TriggerDetector.missDetected, missQ_run]
      cases miss : input.evtCacheReadMiss with
      | false => simpa using inductionHypothesis
      | true =>
          cases before : inputs.getLast?.any Input.evtCacheReadMiss with
          | false =>
              have alone : ∀ last ∈ inputs.getLast?, last.evtCacheReadMiss = false := by
                intro last shown
                rw [shown] at before
                exact before
              rw [Bool.not_false, Bool.and_self, if_pos rfl, if_pos rfl, List.reverse_cons,
                List.append_cancel_right_eq, inductionHypothesis]
              constructor
              · intro separated
                refine ⟨separated, fun last shown both => ?_⟩
                rw [alone last shown] at both
                exact Bool.false_ne_true both.1
              · exact And.left
          | true =>
              have fewer := length_misses_le powerUp inputs
              constructor
              · intro equal
                have lengths := congrArg List.length equal
                simp at lengths
                omega
              · rintro ⟨-, apart⟩
                obtain ⟨last, shown, hit⟩ := (Option.any_eq_true _ _).mp before
                exact absurd ⟨hit, rfl⟩ (apart last shown)

/-- Misses in two consecutive cycles: the second one is dropped. -/
theorem secondMiss_dropped :
    (misses zeroArrays [missAt 1, missAt 2]).reverse ≠ events [missAt 1, missAt 2] := by
  decide +kernel

end Cva6Hpd.Prefetcher
