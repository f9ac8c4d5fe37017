import Mathlib.Data.List.Infix
import Cva6Hpd.Prefetcher.Domino

/-!
# What the prefetcher predicts

Seen from outside, the two tables and the history registers are a search in the
list of the detected misses: the last miss whose preceding two, or whose
preceding one, fall on the index of the lookup. Misses are listed last first,
and the misses before the first one are taken as address zero.
-/

namespace Cva6Hpd.Prefetcher

open Cva6Hpd.Hw

variable {addrWidth indexWidth : Nat}

/-! ## Searching the misses -/

/-- The miss `k` before the last one. -/
def missBack (past : List (BitVec addrWidth)) (k : Nat) : BitVec addrWidth :=
  past.getD k 0

/-- The last miss whose two preceding misses satisfy `hit`. -/
def lastAfter (hit : BitVec addrWidth → BitVec addrWidth → Bool) :
    List (BitVec addrWidth) → Option (BitVec addrWidth)
  | [] => none
  | next :: past =>
      if hit (missBack past 0) (missBack past 1) then some next else lastAfter hit past

/-- The search of the first table. -/
def lastAfterMiss (past : List (BitVec addrWidth)) (index : BitVec indexWidth) :
    Option (BitVec addrWidth) :=
  lastAfter (fun preMiss _ => xorHash indexWidth preMiss 0 == index) past

/-- The search of the second table. -/
def lastAfterPair (past : List (BitVec addrWidth)) (index : BitVec indexWidth) :
    Option (BitVec addrWidth) :=
  lastAfter (fun preMiss pre2Miss => xorHash indexWidth preMiss pre2Miss == index) past

/-- The prediction for the last miss of the list. -/
def predict (indexWidth : Nat) (past : List (BitVec addrWidth)) : Option (BitVec addrWidth) :=
  (lastAfterPair past (xorHash indexWidth (missBack past 0) (missBack past 1))).or
    (lastAfterMiss past (xorHash indexWidth (missBack past 0) 0))

/-! ## The tables store the searches -/

/-- The registers hold the last two misses, and the tables the results of the
searches for every index. -/
structure Trained (s : State addrWidth indexWidth) (past : List (BitVec addrWidth)) : Prop where
  preMiss : s.history.preMiss = missBack past 0
  pre2Miss : s.history.pre2Miss = missBack past 1
  mht1 : ∀ i, s.mht1.entry i = lastAfterMiss past i
  mht2 : ∀ i, s.mht2.entry i = lastAfterPair past i

theorem trained_reset (powerUp : PowerUp addrWidth indexWidth) :
    Trained (State.reset powerUp) [] where
  preMiss := rfl
  pre2Miss := rfl
  mht1 := fun _ => rfl
  mht2 := fun _ => rfl

section Step

variable {s : State addrWidth indexWidth} {past : List (BitVec addrWidth)}
variable {input : Input addrWidth}

/-- Without a miss only the read ports change. -/
theorem Trained.step_of_idle (trained : Trained s past)
    (idle : s.trigger.missDetected input = false) : Trained (s.step input) past where
  preMiss := by simpa [State.step, HistoryBuffers.step, idle] using trained.preMiss
  pre2Miss := by simpa [State.step, HistoryBuffers.step, idle] using trained.pre2Miss
  mht1 := fun i => by
    simp only [State.step, idle, MhtRam.entry_step_of_idle]
    exact trained.mht1 i
  mht2 := fun i => by
    simp only [State.step, idle, MhtRam.entry_step_of_idle]
    exact trained.mht2 i

/-- A miss becomes the successor of the history before it. -/
theorem Trained.step_of_miss (trained : Trained s past)
    (miss : s.trigger.missDetected input = true) :
    Trained (s.step input) (input.missAddr :: past) where
  preMiss := by simp [State.step, HistoryBuffers.step, miss, missBack]
  pre2Miss := by
    simp only [State.step, HistoryBuffers.step, miss, if_true, trained.preMiss]
    rfl
  mht1 := fun i => by
    simp only [State.step, miss, MhtRam.entry_step_of_write, trained.preMiss, trained.mht1,
      lastAfterMiss, lastAfter, beq_iff_eq]
  mht2 := fun i => by
    simp only [State.step, miss, MhtRam.entry_step_of_write, trained.preMiss, trained.pre2Miss,
      trained.mht2, lastAfterPair, lastAfter, beq_iff_eq]

theorem Trained.read_of_miss (trained : Trained s past)
    (miss : s.trigger.missDetected input = true) :
    (s.step input).mht2.read =
        lastAfterPair (input.missAddr :: past)
          (xorHash indexWidth input.missAddr (missBack past 0)) ∧
      (s.step input).mht1.read =
        lastAfterMiss (input.missAddr :: past) (xorHash indexWidth input.missAddr 0) := by
  have after := trained.step_of_miss miss
  constructor
  · rw [← trained.preMiss, ← after.mht2]
    simp only [State.step, miss]
    exact MhtRam.read_step_of_write _ _ _ _ true rfl
  · rw [← after.mht1]
    simp only [State.step, miss]
    exact MhtRam.read_step_of_write _ _ _ _ true rfl

theorem read_of_idle (idle : s.trigger.missDetected input = false) :
    (s.step input).mht2.read = none ∧ (s.step input).mht1.read = none := by
  simp only [State.step, idle]
  exact ⟨MhtRam.read_step_of_idle .., MhtRam.read_step_of_idle ..⟩

end Step

/-! ## Runs -/

/-- The prefetcher together with the misses detected so far, last first. -/
def observed (powerUp : PowerUp addrWidth indexWidth) :
    Machine (State addrWidth indexWidth × List (BitVec addrWidth)) (Input addrWidth) :=
  (machine powerUp).withHistory [] fun s input past =>
    if s.trigger.missDetected input then input.missAddr :: past else past

variable (powerUp : PowerUp addrWidth indexWidth)

/-- The misses of a run, last first. -/
def misses (inputs : List (Input addrWidth)) : List (BitVec addrWidth) :=
  ((observed powerUp).run inputs).2

theorem run_eq (inputs : List (Input addrWidth)) :
    ((observed powerUp).run inputs).1 = (machine powerUp).run inputs :=
  (machine powerUp).withHistory_run_fst _ _ inputs

theorem misses_concat (inputs : List (Input addrWidth)) (input : Input addrWidth) :
    misses powerUp (inputs ++ [input]) =
      if ((machine powerUp).run inputs).trigger.missDetected input then
        input.missAddr :: misses powerUp inputs
      else
        misses powerUp inputs := by
  rw [misses, Machine.run_concat, ← run_eq]
  rfl

/-- In every reachable state the tables store the searches of the misses so
far. -/
theorem trained_run (inputs : List (Input addrWidth)) :
    Trained ((machine powerUp).run inputs) (misses powerUp inputs) := by
  induction inputs using List.reverseRecOn with
  | nil => exact trained_reset powerUp
  | append_singleton inputs input inductionHypothesis =>
      rw [misses_concat, Machine.run_concat]
      cases miss : ((machine powerUp).run inputs).trigger.missDetected input with
      | true => exact inductionHypothesis.step_of_miss miss
      | false => exact inductionHypothesis.step_of_idle miss

/-- After a miss both read ports hold the searches in the misses up to that
one; after any other cycle they hold nothing. -/
theorem reads_run (inputs : List (Input addrWidth)) (trigger : Input addrWidth) :
    let lookup := (machine powerUp).run (inputs ++ [trigger])
    let past := misses powerUp (inputs ++ [trigger])
    if ((machine powerUp).run inputs).trigger.missDetected trigger then
      lookup.mht2.read =
          lastAfterPair past (xorHash indexWidth (missBack past 0) (missBack past 1)) ∧
        lookup.mht1.read = lastAfterMiss past (xorHash indexWidth (missBack past 0) 0)
    else
      lookup.mht2.read = none ∧ lookup.mht1.read = none := by
  intro lookup past
  simp only [lookup, past, Machine.run_concat, misses_concat]
  cases miss : ((machine powerUp).run inputs).trigger.missDetected trigger with
  | true => exact (trained_run powerUp inputs).read_of_miss miss
  | false => exact read_of_idle miss

theorem request_run (inputs : List (Input addrWidth)) (trigger next : Input addrWidth) :
    ((machine powerUp).run (inputs ++ [trigger, next])).prefReq.request =
      ((machine powerUp).run (inputs ++ [trigger])).mht2.read.or
        ((machine powerUp).run (inputs ++ [trigger])).mht1.read := by
  have split : inputs ++ [trigger, next] = (inputs ++ [trigger]) ++ [next] := by simp
  rw [split, Machine.run_concat]
  exact State.request_step _ _

theorem request_of_miss {inputs : List (Input addrWidth)} {trigger : Input addrWidth}
    (miss : ((machine powerUp).run inputs).trigger.missDetected trigger = true)
    (next : Input addrWidth) :
    ((machine powerUp).run (inputs ++ [trigger, next])).prefReq.request =
      predict indexWidth (misses powerUp (inputs ++ [trigger])) := by
  have reads := reads_run powerUp inputs trigger
  rw [if_pos miss] at reads
  rw [request_run, reads.1, reads.2, predict]

theorem request_of_idle {inputs : List (Input addrWidth)} {trigger : Input addrWidth}
    (idle : ((machine powerUp).run inputs).trigger.missDetected trigger = false)
    (next : Input addrWidth) :
    ((machine powerUp).run (inputs ++ [trigger, next])).prefReq.request = none := by
  have reads := reads_run powerUp inputs trigger
  rw [if_neg (by simp [idle])] at reads
  rw [request_run, reads.1, reads.2, Option.or_none]

/-- Two cycles after a miss the request register holds the prediction of the
misses up to that one; two cycles after any other cycle it holds none. -/
theorem predictions_run (inputs : List (Input addrWidth)) (trigger next : Input addrWidth) :
    ((machine powerUp).run (inputs ++ [trigger, next])).prefReq.request =
      if ((machine powerUp).run inputs).trigger.missDetected trigger then
        predict indexWidth (misses powerUp (inputs ++ [trigger]))
      else
        none := by
  cases miss : ((machine powerUp).run inputs).trigger.missDetected trigger with
  | true => exact request_of_miss powerUp miss next
  | false => exact request_of_idle powerUp miss next

end Cva6Hpd.Prefetcher
