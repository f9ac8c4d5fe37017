import Cva6Hpd.Common.Ring

/-!
# The counting FIFO

`cva6_fifo_v3` without fall-through and in registers: a ring of entries with a read pointer, a
write pointer and a counter. A push into a full queue and a pop of an empty one are dropped.
-/

namespace Cva6Hpd.Common

open Cva6Hpd.Common.FifoRegs (advance)
open Cva6Hpd.Common.Ring (slot window)

universe u

/-- The registers of `cva6_fifo_v3`. -/
structure FifoV3 (depth : Nat) (α : Type u) where
  memQ : Fin depth → α
  readPointerQ : Fin depth
  writePointerQ : Fin depth
  statusCntQ : Nat

namespace FifoV3

variable {depth : Nat} {α : Type u}

/-! ## The code -/

def full (fifo : FifoV3 depth α) : Bool := fifo.statusCntQ == depth

def empty (fifo : FifoV3 depth α) : Bool := fifo.statusCntQ == 0

def dataOut (fifo : FifoV3 depth α) : α := fifo.memQ fifo.readPointerQ

/-- The registers after reset; the memory is cleared to the value given. -/
def init [NeZero depth] (cleared : α) : FifoV3 depth α :=
  ⟨fun _ => cleared, 0, 0, 0⟩

section Code

variable [NeZero depth] (fifo : FifoV3 depth α) (push : Bool) (data : α) (pop : Bool)

def memN : Fin depth → α :=
  if push && !fifo.full then Function.update fifo.memQ fifo.writePointerQ data else fifo.memQ

def writePointerN : Fin depth :=
  if push && !fifo.full then advance fifo.writePointerQ else fifo.writePointerQ

def readPointerN : Fin depth :=
  if pop && !fifo.empty then advance fifo.readPointerQ else fifo.readPointerQ

def statusCntN : Nat :=
  if push && pop && !fifo.full && !fifo.empty then fifo.statusCntQ
  else if pop && !fifo.empty then fifo.statusCntQ - 1
  else if push && !fifo.full then fifo.statusCntQ + 1
  else fifo.statusCntQ

/-- One clock edge. -/
def step (flush : Bool) : FifoV3 depth α where
  memQ := memN fifo push data
  readPointerQ := if flush then 0 else readPointerN fifo pop
  writePointerQ := if flush then 0 else writePointerN fifo push
  statusCntQ := if flush then 0 else statusCntN fifo push pop

end Code

/-! ## Its contents -/

variable [NeZero depth]

/-- The entries, oldest first. -/
def contents (fifo : FifoV3 depth α) : List α :=
  window fifo.memQ fifo.readPointerQ fifo.statusCntQ

/-- The write pointer stands behind the last entry. -/
structure Formed (fifo : FifoV3 depth α) : Prop where
  statusCnt_le : fifo.statusCntQ ≤ depth
  writePointer_eq : fifo.writePointerQ = slot fifo.readPointerQ fifo.statusCntQ

variable {fifo : FifoV3 depth α}

@[simp]
theorem length_contents : fifo.contents.length = fifo.statusCntQ :=
  Ring.length_window ..

theorem full_eq_true_iff : fifo.full = true ↔ fifo.contents.length = depth := by
  rw [full, beq_iff_eq, length_contents]

theorem empty_eq_true_iff : fifo.empty = true ↔ fifo.contents = [] := by
  rw [empty, beq_iff_eq, ← List.length_eq_zero_iff, length_contents]

/-- The output shows the oldest entry. -/
theorem dataOut_eq {x : α} {xs : List α} (head : fifo.contents = x :: xs) : fifo.dataOut = x := by
  have filled : fifo.statusCntQ = xs.length + 1 := by
    rw [← length_contents, head, List.length_cons]
  rw [contents, filled, Ring.window_succ_head] at head
  exact (List.cons.inj head).1

theorem formed_init (cleared : α) : (init cleared : FifoV3 depth α).Formed :=
  ⟨Nat.zero_le depth, (Ring.slot_zero _).symm⟩

theorem contents_flush (push : Bool) (data : α) (pop : Bool) :
    (fifo.step push data pop true).contents = [] :=
  rfl

theorem formed_flush (push : Bool) (data : α) (pop : Bool) :
    (fifo.step push data pop true).Formed :=
  ⟨Nat.zero_le depth, (Ring.slot_zero _).symm⟩

section Step

variable (push : Bool) (data : α) (pop : Bool)

/-- The number of entries that a clock edge leaves of those that are stored. -/
def kept (fifo : FifoV3 depth α) (pop : Bool) : Nat :=
  if pop && !fifo.empty then fifo.statusCntQ - 1 else fifo.statusCntQ

omit [NeZero depth] in
theorem statusCntN_eq :
    statusCntN fifo push pop = kept fifo pop + if push && !fifo.full then 1 else 0 := by
  have positive : fifo.empty = false → 0 < fifo.statusCntQ := by
    intro filled
    rw [empty, beq_eq_false_iff_ne] at filled
    exact Nat.pos_of_ne_zero filled
  rw [statusCntN, kept]
  cases hEmpty : fifo.empty with
  | true => cases push <;> cases pop <;> cases fifo.full <;> simp
  | false =>
    have filled := positive hEmpty
    cases push <;> cases pop <;> cases fifo.full <;> simp <;> omega

/-- The part of a clock edge that removes the head. -/
theorem window_readPointerN :
    window fifo.memQ (readPointerN fifo pop) (kept fifo pop) =
      if pop then fifo.contents.tail else fifo.contents := by
  rw [readPointerN, kept]
  cases pop with
  | false => rfl
  | true =>
    cases hEmpty : fifo.empty with
    | true =>
      have nothing := empty_eq_true_iff.mp hEmpty
      simp only [Bool.not_true, Bool.and_false, Bool.false_eq_true, if_false, if_true]
      rw [nothing, List.tail_nil, ← nothing, contents]
    | false =>
      rw [empty, beq_eq_false_iff_ne] at hEmpty
      obtain ⟨count, shown⟩ := Nat.exists_eq_succ_of_ne_zero hEmpty
      simp only [Bool.not_false, Bool.and_true, if_true, contents]
      rw [shown, Nat.succ_eq_add_one, Ring.window_succ_head, List.tail_cons,
        Nat.add_sub_cancel]

theorem Formed.writePointer_eq_kept (formed : fifo.Formed) :
    fifo.writePointerQ = slot (readPointerN fifo pop) (kept fifo pop) := by
  rw [readPointerN, kept, formed.writePointer_eq]
  split
  · rename_i taken
    have filled : fifo.statusCntQ ≠ 0 := by
      simp only [Bool.and_eq_true, Bool.not_eq_true', empty, beq_eq_false_iff_ne] at taken
      exact taken.2
    rw [← Ring.slot_succ, Nat.sub_add_cancel (Nat.pos_of_ne_zero filled)]
  · rfl

theorem Formed.kept_lt (formed : fifo.Formed) (room : fifo.full = false) :
    kept fifo pop < depth := by
  have bound := formed.statusCnt_le
  rw [full, beq_eq_false_iff_ne] at room
  rw [kept]
  split <;> omega

/-- A clock edge removes the head, appends at the end, or does both. -/
theorem contents_step (formed : fifo.Formed) :
    (fifo.step push data pop false).contents =
      (if pop then fifo.contents.tail else fifo.contents) ++
        if push && !fifo.full then [data] else [] := by
  rw [← window_readPointerN, contents]
  simp only [step, Bool.false_eq_true, if_false, statusCntN_eq, memN]
  split
  · rename_i entered
    simp only [Bool.and_eq_true, Bool.not_eq_true'] at entered
    rw [Ring.window_succ_last, formed.writePointer_eq_kept pop, Function.update_self,
      Ring.window_update _ _ le_rfl (formed.kept_lt pop entered.2)]
  · rw [Nat.add_zero, List.append_nil]

theorem Formed.step (formed : fifo.Formed) (flush : Bool) :
    (fifo.step push data pop flush).Formed := by
  cases flush with
  | true => exact formed_flush push data pop
  | false =>
    constructor
    · have bound := formed.statusCnt_le
      have less : kept fifo pop ≤ fifo.statusCntQ := by
        rw [kept]
        split <;> omega
      simp only [FifoV3.step, Bool.false_eq_true, if_false, statusCntN_eq]
      split
      · rename_i entered
        simp only [Bool.and_eq_true, Bool.not_eq_true'] at entered
        exact formed.kept_lt pop entered.2
      · omega
    · simp only [FifoV3.step, Bool.false_eq_true, if_false, statusCntN_eq, writePointerN]
      split
      · rw [formed.writePointer_eq_kept pop, Ring.advance_slot]
      · rw [Nat.add_zero, formed.writePointer_eq_kept pop]

end Step

/-- What is stored shows until it is popped. -/
theorem dataOut_step_of_stays (formed : fifo.Formed) (some : fifo.empty = false) (push : Bool)
    (data : α) :
    (fifo.step push data false false).empty = false ∧
      (fifo.step push data false false).dataOut = fifo.dataOut := by
  cases stored : fifo.contents with
  | nil =>
    rw [empty_eq_true_iff.mpr stored] at some
    contradiction
  | cons x xs =>
    have after := contents_step push data false formed
    rw [if_neg Bool.false_ne_true, stored, List.cons_append] at after
    constructor
    · rw [Bool.eq_false_iff]
      intro none
      rw [empty_eq_true_iff.mp none] at after
      contradiction
    · rw [dataOut_eq after, dataOut_eq stored]

theorem full_step_of_pops (formed : fifo.Formed) (room : fifo.full = false) (data : α)
    (pop : Bool) : (fifo.step false data pop false).full = false := by
  have less : (fifo.step false data pop false).statusCntQ ≤ fifo.statusCntQ := by
    simp only [step, Bool.false_eq_true, if_false, statusCntN_eq, kept, Bool.false_and]
    split <;> omega
  have bound := formed.statusCnt_le
  rw [full, beq_eq_false_iff_ne] at room ⊢
  omega

end FifoV3

end Cva6Hpd.Common

/-!
## The counting FIFO with fall-through

`cva6_fifo_v3` with `FALL_THROUGH`: while the queue is empty, an entry that is pushed shows at
the output, and is popped in the same cycle without a move of the pointers.
-/

namespace Cva6Hpd.Common.FifoV3

universe u

variable {depth : Nat} {α : Type u} (fifo : FifoV3 depth α) (push : Bool) (data : α) (pop : Bool)

/-! ## The code -/

/-- `empty_o`. -/
def emptyThrough : Bool := fifo.empty && !push

/-- `data_o`. -/
def dataOutThrough : α := if fifo.empty && push then data else fifo.dataOut

variable [NeZero depth]

def stepThrough : FifoV3 depth α :=
  if fifo.empty && push && pop then { fifo with memQ := memN fifo push data }
  else fifo.step push data pop false

/-! ## Its contents -/

/-- The entries that can be popped in this cycle, oldest first. -/
def shown : List α := fifo.contents ++ if push && !fifo.full then [data] else []

variable {fifo push data pop}

theorem full_of_empty (empty : fifo.empty = true) : fifo.full = false := by
  rw [FifoV3.empty, beq_iff_eq] at empty
  rw [full, empty, beq_eq_false_iff_ne]
  exact (NeZero.ne depth).symm

theorem shown_of_empty (empty : fifo.empty = true) :
    fifo.shown push data = if push then [data] else [] := by
  rw [shown, empty_eq_true_iff.mp empty, full_of_empty empty]
  simp

theorem emptyThrough_eq_true_iff :
    fifo.emptyThrough push = true ↔ fifo.shown push data = [] := by
  cases empty : fifo.empty with
  | true =>
    rw [shown_of_empty empty, emptyThrough, empty]
    cases push <;> simp
  | false =>
    have some : fifo.contents ≠ [] := by
      intro nothing
      rw [empty_eq_true_iff.mpr nothing] at empty
      contradiction
    simp [emptyThrough, empty, shown, some]

theorem dataOutThrough_eq {x : α} {xs : List α} (head : fifo.shown push data = x :: xs) :
    fifo.dataOutThrough push data = x := by
  cases empty : fifo.empty with
  | true =>
    rw [shown_of_empty empty] at head
    cases push with
    | false => simp at head
    | true =>
      rw [if_pos rfl] at head
      simpa [dataOutThrough, empty] using (List.cons.inj head).1
  | false =>
    rw [dataOutThrough, empty, Bool.false_and, if_neg Bool.false_ne_true]
    cases stored : fifo.contents with
    | nil =>
      rw [empty_eq_true_iff.mpr stored] at empty
      contradiction
    | cons y ys =>
      rw [shown, stored, List.cons_append] at head
      rw [dataOut_eq stored, (List.cons.inj head).1]

/-- A clock edge enters at the end and removes the head, which may be what enters. -/
theorem contents_stepThrough (formed : fifo.Formed) :
    (fifo.stepThrough push data pop).contents =
      if pop then (fifo.shown push data).tail else fifo.shown push data := by
  cases empty : fifo.empty with
  | true =>
    have nothing := empty_eq_true_iff.mp empty
    rw [shown_of_empty empty, stepThrough, empty, Bool.true_and]
    cases push with
    | false =>
      rw [Bool.false_and, if_neg Bool.false_ne_true, contents_step _ _ _ formed, nothing]
      simp
    | true =>
      cases pop with
      | true =>
        have count := empty
        rw [FifoV3.empty, beq_iff_eq] at count
        rw [Bool.and_self, if_pos rfl, contents, count]
        rfl
      | false =>
        rw [Bool.and_false, if_neg Bool.false_ne_true, contents_step _ _ _ formed, nothing,
          full_of_empty empty]
        rfl
  | false =>
    rw [stepThrough, empty, Bool.false_and, Bool.false_and, if_neg Bool.false_ne_true,
      contents_step _ _ _ formed, shown]
    cases stored : fifo.contents with
    | nil =>
      rw [empty_eq_true_iff.mpr stored] at empty
      contradiction
    | cons x xs => cases pop <;> rfl

theorem Formed.stepThrough (formed : fifo.Formed) : (fifo.stepThrough push data pop).Formed := by
  rw [FifoV3.stepThrough]
  split
  · exact ⟨formed.statusCnt_le, formed.writePointer_eq⟩
  · exact formed.step push data pop false

end Cva6Hpd.Common.FifoV3
