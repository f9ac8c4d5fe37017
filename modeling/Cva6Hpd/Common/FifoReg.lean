import Mathlib.Data.Fin.Basic
import Mathlib.Data.List.GetD
import Mathlib.Data.Nat.ModEq
import Mathlib.Logic.Function.Basic
import Mathlib.Tactic.Linarith

/-!
# The register FIFO

`hpdcache_fifo_reg` with at least one entry: a ring of registers, a read and a
write pointer, and a bit telling that the write pointer has wrapped. Its
contents are read as a list, oldest element first; one clock edge removes the
head, appends at the end, or does both.
-/

namespace Cva6Hpd.Common

universe u

/-- The registers of `hpdcache_fifo_reg`. -/
structure FifoRegs (depth : Nat) (α : Type u) where
  fifoMemQ : Fin depth → α
  rptrQ : Fin depth
  wptrQ : Fin depth
  crossoverQ : Bool

namespace FifoRegs

variable {depth : Nat} {α : Type u}

def matchPtr (fifo : FifoRegs depth α) : Bool :=
  fifo.wptrQ == fifo.rptrQ

def empty (fifo : FifoRegs depth α) : Bool :=
  fifo.matchPtr && !fifo.crossoverQ

def full (fifo : FifoRegs depth α) : Bool :=
  fifo.matchPtr && fifo.crossoverQ

def rok (feedthrough : Bool) (fifo : FifoRegs depth α) (w : Bool) : Bool :=
  !fifo.empty || (feedthrough && w)

def wok (feedthrough : Bool) (fifo : FifoRegs depth α) (r : Bool) : Bool :=
  !fifo.full || (feedthrough && r)

def rexec (fifo : FifoRegs depth α) (r : Bool) : Bool :=
  r && !fifo.empty

def wexec (feedthrough : Bool) (fifo : FifoRegs depth α) (w r : Bool) : Bool :=
  w && ((feedthrough && ((fifo.empty && !r) || (fifo.full && r) ||
      (!fifo.full && !fifo.empty))) ||
    (!feedthrough && !fifo.full))

def rdata (feedthrough : Bool) (fifo : FifoRegs depth α) (wdata : α) : α :=
  if feedthrough && fifo.empty then wdata else fifo.fifoMemQ fifo.rptrQ

/-- The pointer after `ptr`, wrapping at the last entry. -/
def advance [NeZero depth] (ptr : Fin depth) : Fin depth :=
  if ptr.val = depth - 1 then 0 else ptr + 1

def step [NeZero depth] (feedthrough : Bool) (fifo : FifoRegs depth α) (w : Bool)
    (wdata : α) (r : Bool) : FifoRegs depth α where
  fifoMemQ :=
    if fifo.wexec feedthrough w r then
      Function.update fifo.fifoMemQ fifo.wptrQ wdata
    else
      fifo.fifoMemQ
  rptrQ := if fifo.rexec r then advance fifo.rptrQ else fifo.rptrQ
  wptrQ := if fifo.wexec feedthrough w r then advance fifo.wptrQ else fifo.wptrQ
  crossoverQ :=
    if fifo.wexec feedthrough w r && decide (fifo.wptrQ.val = depth - 1) then true
    else if fifo.rexec r && decide (fifo.rptrQ.val = depth - 1) then false
    else fifo.crossoverQ

/-- The read pointer is never ahead of the write pointer. -/
def Ordered (fifo : FifoRegs depth α) : Prop :=
  if fifo.crossoverQ then fifo.wptrQ ≤ fifo.rptrQ else fifo.rptrQ ≤ fifo.wptrQ

/-- The number of stored elements. -/
def count (fifo : FifoRegs depth α) : Nat :=
  (if fifo.crossoverQ then depth else 0) + fifo.wptrQ.val - fifo.rptrQ.val

/-- The stored elements, oldest first. -/
def contents [NeZero depth] (fifo : FifoRegs depth α) : List α :=
  (List.range fifo.count).map fun k =>
    fifo.fifoMemQ (Fin.ofNat depth (fifo.rptrQ.val + k))

section Refinement

variable [NeZero depth]

theorem advance_val (ptr : Fin depth) :
    (advance ptr).val = if ptr.val = depth - 1 then 0 else ptr.val + 1 := by
  have bound := ptr.isLt
  by_cases last : ptr.val = depth - 1
  · simp [advance, last]
  · simp only [advance, last, if_false]
    have one : depth ≠ 1 := by omega
    rw [Fin.val_add, Fin.val_one', Nat.add_mod_mod, Nat.mod_eq_of_lt (by omega)]

omit [NeZero depth] in
theorem empty_eq_true_iff {fifo : FifoRegs depth α} (ordered : fifo.Ordered) :
    fifo.empty = true ↔ fifo.count = 0 := by
  have readBound := fifo.rptrQ.isLt
  have writeBound := fifo.wptrQ.isLt
  simp only [Ordered, Fin.le_def] at ordered
  cases crossover : fifo.crossoverQ with
  | true =>
      simp [empty, count, crossover]
      omega
  | false =>
      simp only [crossover, Bool.false_eq_true, if_false] at ordered
      simp [empty, matchPtr, count, crossover, Fin.ext_iff]
      omega

omit [NeZero depth] in
theorem full_eq_true_iff (fifo : FifoRegs depth α) :
    fifo.full = true ↔ fifo.count = depth := by
  have readBound := fifo.rptrQ.isLt
  have writeBound := fifo.wptrQ.isLt
  cases crossover : fifo.crossoverQ with
  | true =>
      simp [full, matchPtr, count, crossover, Fin.ext_iff]
      omega
  | false =>
      simp [full, count, crossover]
      omega

omit [NeZero depth] in
theorem count_of_rexec {fifo : FifoRegs depth α} (ordered : fifo.Ordered) {r : Bool}
    (reads : fifo.rexec r = true) : 0 < fifo.count := by
  have filled : ¬fifo.empty = true := by
    simp only [rexec, Bool.and_eq_true, Bool.not_eq_true'] at reads
    simp [reads.2]
  rw [empty_eq_true_iff ordered] at filled
  omega

omit [NeZero depth] in
theorem count_of_wexec {fifo : FifoRegs depth α} (ordered : fifo.Ordered)
    {feedthrough w r : Bool} (writes : fifo.wexec feedthrough w r = true) :
    fifo.count < depth ∨ (fifo.count = depth ∧ fifo.rexec r = true) := by
  have bound := fifo.wptrQ.isLt
  have limit : fifo.count ≤ depth := by
    simp only [Ordered, Fin.le_def] at ordered
    unfold count
    split_ifs at ordered ⊢ <;> omega
  cases isFull : fifo.full with
  | true =>
      have saturated := (full_eq_true_iff fifo).mp isFull
      have filled : fifo.empty = false := by
        rw [Bool.eq_false_iff, Ne, empty_eq_true_iff ordered]
        omega
      refine Or.inr ⟨saturated, ?_⟩
      simp only [wexec, isFull, filled] at writes
      simp only [rexec, filled]
      revert writes
      cases feedthrough <;> cases w <;> cases r <;> simp
  | false =>
      have room : ¬fifo.count = depth := by
        rw [← full_eq_true_iff, isFull]
        simp
      omega

omit [NeZero depth] in
theorem slot_injective {base first second : Nat} (firstBound : first < depth)
    (secondBound : second < depth)
    (equal : (base + first) % depth = (base + second) % depth) : first = second :=
  Nat.ModEq.eq_of_lt_of_lt (Nat.ModEq.add_left_cancel' base equal) firstBound
    secondBound

omit [NeZero depth] in
/-- The write pointer is the slot behind the last stored element. -/
theorem slot_count {fifo : FifoRegs depth α} (ordered : fifo.Ordered) :
    (fifo.rptrQ.val + fifo.count) % depth = fifo.wptrQ.val := by
  have readBound := fifo.rptrQ.isLt
  have writeBound := fifo.wptrQ.isLt
  simp only [Ordered, Fin.le_def] at ordered
  cases crossover : fifo.crossoverQ with
  | true =>
      have total : fifo.rptrQ.val + fifo.count = depth + fifo.wptrQ.val := by
        simp only [count, crossover, if_true]
        omega
      rw [total, Nat.add_mod_left, Nat.mod_eq_of_lt writeBound]
  | false =>
      have total : fifo.rptrQ.val + fifo.count = fifo.wptrQ.val := by
        simp only [crossover, Bool.false_eq_true, if_false] at ordered
        simp only [count, crossover, Bool.false_eq_true, if_false]
        omega
      rw [total, Nat.mod_eq_of_lt writeBound]

theorem slot_advance (ptr : Fin depth) (k : Nat) :
    ((advance ptr).val + k) % depth = (ptr.val + (k + 1)) % depth := by
  have bound := ptr.isLt
  rw [advance_val]
  split_ifs with last
  · have total : ptr.val + (k + 1) = depth + (0 + k) := by omega
    rw [total, Nat.add_mod_left]
  · congr 1
    omega

@[simp]
theorem length_contents (fifo : FifoRegs depth α) :
    fifo.contents.length = fifo.count := by
  simp [contents]

theorem getElem_contents (fifo : FifoRegs depth α) (k : Nat)
    (bound : k < fifo.contents.length) :
    fifo.contents[k] = fifo.fifoMemQ (Fin.ofNat depth (fifo.rptrQ.val + k)) := by
  simp [contents]

/-! ### Removing and appending one element -/

/-- The read half of a clock edge. -/
def pop (fifo : FifoRegs depth α) : FifoRegs depth α :=
  { fifo with
    rptrQ := advance fifo.rptrQ
    crossoverQ := if fifo.rptrQ.val = depth - 1 then false else fifo.crossoverQ }

/-- The write half of a clock edge. -/
def push (fifo : FifoRegs depth α) (wdata : α) : FifoRegs depth α where
  fifoMemQ := Function.update fifo.fifoMemQ fifo.wptrQ wdata
  rptrQ := fifo.rptrQ
  wptrQ := advance fifo.wptrQ
  crossoverQ := if fifo.wptrQ.val = depth - 1 then true else fifo.crossoverQ

theorem step_eq_push_pop (fifo : FifoRegs depth α) (feedthrough w : Bool)
    (wdata : α) (r : Bool) :
    fifo.step feedthrough w wdata r =
      let popped := if fifo.rexec r then fifo.pop else fifo
      if fifo.wexec feedthrough w r then popped.push wdata else popped := by
  cases reads : fifo.rexec r <;> cases writes : fifo.wexec feedthrough w r <;>
    simp [step, push, pop, reads, writes]

theorem count_pop {fifo : FifoRegs depth α} (ordered : fifo.Ordered)
    (filled : 0 < fifo.count) :
    fifo.pop.Ordered ∧ fifo.pop.count = fifo.count - 1 := by
  have readBound := fifo.rptrQ.isLt
  have writeBound := fifo.wptrQ.isLt
  simp only [Ordered, count, Fin.le_def] at ordered filled
  simp only [Ordered, count, Fin.le_def, pop, advance_val]
  by_cases last : fifo.rptrQ.val = depth - 1
  · simp only [last, if_true, Bool.false_eq_true, if_false]
    split_ifs at ordered filled ⊢ <;> omega
  · simp only [last, if_false]
    split_ifs at ordered filled ⊢ <;> omega

theorem count_push {fifo : FifoRegs depth α} (ordered : fifo.Ordered)
    (room : fifo.count < depth) (wdata : α) :
    (fifo.push wdata).Ordered ∧ (fifo.push wdata).count = fifo.count + 1 := by
  have readBound := fifo.rptrQ.isLt
  have writeBound := fifo.wptrQ.isLt
  simp only [Ordered, count, Fin.le_def] at ordered room
  simp only [Ordered, count, Fin.le_def, push, advance_val]
  by_cases last : fifo.wptrQ.val = depth - 1
  · simp only [last, if_true]
    split_ifs at ordered room ⊢ <;> omega
  · simp only [last, if_false]
    split_ifs at ordered room ⊢ <;> omega

theorem contents_pop {fifo : FifoRegs depth α} (ordered : fifo.Ordered)
    (filled : 0 < fifo.count) : fifo.pop.contents = fifo.contents.tail := by
  have shorter := (count_pop ordered filled).2
  apply List.ext_getElem
  · simp [shorter]
  · intro k bound _
    rw [List.getElem_tail, getElem_contents, getElem_contents]
    have slot : Fin.ofNat depth ((advance fifo.rptrQ).val + k) =
        Fin.ofNat depth (fifo.rptrQ.val + (k + 1)) :=
      Fin.ext (slot_advance fifo.rptrQ k)
    exact congrArg fifo.fifoMemQ slot

theorem contents_push {fifo : FifoRegs depth α} (ordered : fifo.Ordered)
    (room : fifo.count < depth) (wdata : α) :
    (fifo.push wdata).contents = fifo.contents ++ [wdata] := by
  have longer := (count_push ordered room wdata).2
  have behind := slot_count ordered
  apply List.ext_getElem
  · simp [longer]
  · intro k bound _
    rw [length_contents, longer] at bound
    rw [getElem_contents]
    by_cases old : k < fifo.count
    · have other : Fin.ofNat depth (fifo.rptrQ.val + k) ≠ fifo.wptrQ := by
        intro equal
        have slots := congrArg Fin.val equal
        rw [Fin.val_ofNat, ← behind] at slots
        have same := slot_injective (by omega) room slots
        omega
      rw [List.getElem_append_left (by simpa using old), getElem_contents]
      simp only [push, Function.update_of_ne other]
    · have last : k = fifo.count := by omega
      have target : Fin.ofNat depth (fifo.rptrQ.val + k) = fifo.wptrQ := by
        rw [last]
        exact Fin.ext behind
      rw [List.getElem_append_right (by simp [last])]
      simp only [push, target, Function.update_self, List.getElem_singleton]

/-! ### One clock edge -/

theorem ordered_step {fifo : FifoRegs depth α} (ordered : fifo.Ordered)
    (feedthrough w : Bool) (wdata : α) (r : Bool) :
    (fifo.step feedthrough w wdata r).Ordered := by
  rw [step_eq_push_pop]
  cases reads : fifo.rexec r with
  | true =>
      have popped := count_pop ordered (count_of_rexec ordered reads)
      have filled := count_of_rexec ordered reads
      cases writes : fifo.wexec feedthrough w r with
      | true =>
          have room := count_of_wexec ordered writes
          exact (count_push popped.1 (by omega) wdata).1
      | false => exact popped.1
  | false =>
      cases writes : fifo.wexec feedthrough w r with
      | true =>
          have room := count_of_wexec ordered writes
          exact (count_push ordered (by simp_all) wdata).1
      | false => exact ordered

/-- One clock edge removes the head when it reads and appends the written
element when it writes. -/
theorem contents_step {fifo : FifoRegs depth α} (ordered : fifo.Ordered)
    (feedthrough w : Bool) (wdata : α) (r : Bool) :
    (fifo.step feedthrough w wdata r).contents =
      (if fifo.rexec r then fifo.contents.tail else fifo.contents) ++
        (if fifo.wexec feedthrough w r then [wdata] else []) := by
  rw [step_eq_push_pop]
  cases reads : fifo.rexec r with
  | true =>
      have filled := count_of_rexec ordered reads
      have popped := count_pop ordered filled
      cases writes : fifo.wexec feedthrough w r with
      | true =>
          simp only [if_true]
          rw [contents_push popped.1 (by have := count_of_wexec ordered writes; omega),
            contents_pop ordered filled]
      | false =>
          simp only [if_true, Bool.false_eq_true, if_false, List.append_nil]
          exact contents_pop ordered filled
  | false =>
      cases writes : fifo.wexec feedthrough w r with
      | true =>
          simp only [Bool.false_eq_true, if_true, if_false]
          exact contents_push ordered (by have := count_of_wexec ordered writes; simp_all) wdata
      | false => simp

end Refinement

end FifoRegs

/-- A register FIFO in a state its pointers can be in. -/
structure FifoReg (depth : Nat) (α : Type u) extends FifoRegs depth α where
  ordered : toFifoRegs.Ordered

namespace FifoReg

variable {depth : Nat} [NeZero depth] {α : Type u}

def reset (initial : α) : FifoReg depth α where
  fifoMemQ := fun _ => initial
  rptrQ := 0
  wptrQ := 0
  crossoverQ := false
  ordered := by simp [FifoRegs.Ordered]

def step (feedthrough : Bool) (fifo : FifoReg depth α) (w : Bool) (wdata : α)
    (r : Bool) : FifoReg depth α where
  toFifoRegs := fifo.toFifoRegs.step feedthrough w wdata r
  ordered := FifoRegs.ordered_step fifo.ordered feedthrough w wdata r

/-- The stored elements, oldest first. -/
def contents (fifo : FifoReg depth α) : List α :=
  fifo.toFifoRegs.contents

@[simp]
theorem contents_reset (initial : α) :
    (reset initial : FifoReg depth α).contents = [] := by
  simp [contents, FifoRegs.contents, FifoRegs.count, reset]

theorem empty_eq_decide (fifo : FifoReg depth α) :
    fifo.empty = decide (fifo.contents = []) := by
  rw [Bool.eq_iff_iff, FifoRegs.empty_eq_true_iff fifo.ordered, decide_eq_true_eq,
    ← List.length_eq_zero_iff]
  simp [contents]

theorem full_eq_decide (fifo : FifoReg depth α) :
    fifo.full = decide (fifo.contents.length = depth) := by
  rw [Bool.eq_iff_iff, FifoRegs.full_eq_true_iff, decide_eq_true_eq]
  simp [contents]

theorem length_contents_le (fifo : FifoReg depth α) : fifo.contents.length ≤ depth := by
  have readBound := fifo.rptrQ.isLt
  have writeBound := fifo.wptrQ.isLt
  have ordered := fifo.ordered
  simp only [FifoRegs.Ordered, Fin.le_def] at ordered
  simp only [contents, FifoRegs.length_contents, FifoRegs.count]
  split_ifs at ordered ⊢ <;> omega

theorem rdata_of_cons {fifo : FifoReg depth α} {oldest : α} {rest : List α}
    (stored : fifo.contents = oldest :: rest) (feedthrough : Bool) (wdata : α) :
    fifo.rdata feedthrough wdata = oldest := by
  have filled : fifo.empty = false := by simp [empty_eq_decide, stored]
  have bound : 0 < fifo.contents.length := by simp [stored]
  have first : fifo.contents[0] = oldest := by simp [stored]
  rw [← first]
  simp only [FifoRegs.rdata, filled, Bool.and_false, Bool.false_eq_true, if_false]
  simp only [contents]
  rw [FifoRegs.getElem_contents]
  simp [Fin.ofNat, Nat.mod_eq_of_lt]

theorem contents_step (fifo : FifoReg depth α) (feedthrough w : Bool) (wdata : α)
    (r : Bool) :
    (fifo.step feedthrough w wdata r).contents =
      (if fifo.rexec r then fifo.contents.tail else fifo.contents) ++
        (if fifo.wexec feedthrough w r then [wdata] else []) :=
  FifoRegs.contents_step fifo.ordered feedthrough w wdata r

/-- No element is lost, duplicated or reordered: what is stored followed by what
the write port hands over is what the read port hands over followed by what is
stored after the edge. -/
theorem contents_conserved (fifo : FifoReg depth α) (feedthrough w : Bool) (wdata : α)
    (r : Bool) :
    fifo.contents ++ (if w && fifo.wok feedthrough r then [wdata] else []) =
      (if r && fifo.rok feedthrough w then [fifo.rdata feedthrough wdata] else []) ++
        (fifo.step feedthrough w wdata r).contents := by
  rw [contents_step]
  have positive : 0 < depth := Nat.pos_of_ne_zero (NeZero.ne depth)
  cases stored : fifo.contents with
  | nil =>
      have isEmpty : fifo.empty = true := by simp [empty_eq_decide, stored]
      have notFull : fifo.full = false := by
        simp [full_eq_decide, stored, positive.ne]
      cases feedthrough <;> cases w <;> cases r <;>
        simp [FifoRegs.wok, FifoRegs.rok, FifoRegs.rexec, FifoRegs.wexec,
          FifoRegs.rdata, isEmpty, notFull]
  | cons oldest rest =>
      have notEmpty : fifo.empty = false := by simp [empty_eq_decide, stored]
      rw [rdata_of_cons stored]
      cases isFull : fifo.full <;> cases feedthrough <;> cases w <;> cases r <;>
        simp [FifoRegs.wok, FifoRegs.rok, FifoRegs.rexec, FifoRegs.wexec,
          notEmpty, isFull]

/-- A single-entry buffer that is read in each cycle holds what was written in
the last one. -/
theorem written_of_held (fifo : FifoReg 1 α) {feedthrough w : Bool} {wdata : α}
    (held : (fifo.step feedthrough w wdata true).contents ≠ []) : w = true := by
  have short := fifo.length_contents_le
  rw [contents_step] at held
  cases w with
  | true => rfl
  | false =>
      refine absurd ?_ held
      cases stored : fifo.contents with
      | nil => simp [FifoRegs.wexec]
      | cons oldest rest =>
          have alone : rest = [] := by
            rw [stored, List.length_cons] at short
            exact List.length_eq_zero_iff.mp (by omega)
          simp [FifoRegs.wexec, FifoRegs.rexec, empty_eq_decide, stored, alone]

end FifoReg

end Cva6Hpd.Common
