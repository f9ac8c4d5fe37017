import Cva6Hpd.Common.FifoReg
import Mathlib.Data.List.Basic

/-!
# Rings of entries

A circular array of entries that is filled behind a head pointer. A buffer made
of such a ring reads it as the list of its entries from the head on; this file
says how that list changes when the head moves, and which entries an update
does not touch.
-/

namespace Cva6Hpd.Common.Ring

open FifoRegs (advance advance_val slot_advance slot_injective)

universe u

variable {depth : Nat} [NeZero depth] {α : Type u}

/-- The entry `k` places behind the head. -/
def slot (head : Fin depth) (k : Nat) : Fin depth :=
  Fin.ofNat depth (head.val + k)

/-- The first `count` entries from the head, in order. -/
def window (mem : Fin depth → α) (head : Fin depth) (count : Nat) : List α :=
  (List.range count).map fun k => mem (slot head k)

@[simp]
theorem slot_zero (head : Fin depth) : slot head 0 = head :=
  Fin.ext (Nat.mod_eq_of_lt head.isLt)

/-- A full turn comes back to the head. -/
theorem slot_depth (head : Fin depth) : slot head depth = head :=
  Fin.ext (by simp [slot, Nat.mod_eq_of_lt head.isLt])

theorem slot_succ (head : Fin depth) (k : Nat) :
    slot head (k + 1) = slot (advance head) k :=
  Fin.ext (slot_advance head k).symm

theorem advance_slot (head : Fin depth) (k : Nat) :
    advance (slot head k) = slot head (k + 1) := by
  have bound := head.isLt
  have step := slot_advance (slot head k) 0
  rw [Nat.add_zero, Nat.mod_eq_of_lt (advance (slot head k)).isLt] at step
  apply Fin.ext
  rw [step]
  simp only [slot, Fin.val_ofNat, Nat.zero_add]
  rw [Nat.mod_add_mod, Nat.add_assoc]

theorem slot_slot (head : Fin depth) (j k : Nat) :
    slot (slot head j) k = slot head (j + k) :=
  Fin.ext (by simp only [slot, Fin.val_ofNat, Nat.mod_add_mod, Nat.add_assoc])

/-- Every entry lies less than a turn behind the head. -/
theorem exists_slot (head entry : Fin depth) : ∃ k, k < depth ∧ slot head k = entry := by
  have headBound := head.isLt
  have bound := entry.isLt
  rcases Nat.lt_or_ge entry.val head.val with before | behind
  · refine ⟨entry.val + depth - head.val, by omega, Fin.ext ?_⟩
    have turn : head.val + (entry.val + depth - head.val) = entry.val + depth := by omega
    rw [slot, Fin.val_ofNat, turn, Nat.add_mod_right, Nat.mod_eq_of_lt bound]
  · refine ⟨entry.val - head.val, by omega, Fin.ext ?_⟩
    rw [slot, Fin.val_ofNat, Nat.add_sub_cancel' behind, Nat.mod_eq_of_lt bound]

theorem slot_ne (head : Fin depth) {j k : Nat} (first : j < depth) (second : k < depth)
    (different : j ≠ k) : slot head j ≠ slot head k := by
  intro equal
  exact different (slot_injective first second (congrArg Fin.val equal))

theorem slot_ne_head (head : Fin depth) {k : Nat} (positive : 0 < k) (bound : k < depth) :
    slot head k ≠ head := by
  have different : slot head k ≠ slot head 0 :=
    slot_ne head bound (by omega) (by omega)
  rwa [slot_zero] at different

@[simp]
theorem window_zero (mem : Fin depth → α) (head : Fin depth) : window mem head 0 = [] :=
  rfl

@[simp]
theorem length_window (mem : Fin depth → α) (head : Fin depth) (count : Nat) :
    (window mem head count).length = count := by
  simp [window]

theorem window_succ_head (mem : Fin depth → α) (head : Fin depth) (count : Nat) :
    window mem head (count + 1) = mem head :: window mem (advance head) count := by
  simp [window, List.range_succ_eq_map, slot_succ]

theorem window_succ_last (mem : Fin depth → α) (head : Fin depth) (count : Nat) :
    window mem head (count + 1) = window mem head count ++ [mem (slot head count)] := by
  simp [window, List.range_succ]

theorem window_congr {first second : Fin depth → α} (head : Fin depth) {count : Nat}
    (same : ∀ k, k < count → first (slot head k) = second (slot head k)) :
    window first head count = window second head count := by
  simp only [window]
  exact List.map_congr_left fun k member => same k (List.mem_range.mp member)

theorem window_update (mem : Fin depth → α) (head : Fin depth) {count k : Nat}
    (behind : count ≤ k) (bound : k < depth) (value : α) :
    window (Function.update mem (slot head k) value) head count = window mem head count := by
  apply window_congr
  intro j inside
  have other : slot head j ≠ slot head k := slot_ne head (by omega) bound (by omega)
  exact Function.update_of_ne other value mem

end Cva6Hpd.Common.Ring

/-!
## Queues in a ring with a counter

A ring of entries with a read pointer, a write pointer and a counter, in which every entry
also carries its own valid bit. Its contents are the list of the entries from the read
pointer on; this file says what appending, removing, emptying, and a change of the oldest
entry do to that list, as long as the two pointers, the counter and the valid bits agree.
-/

namespace Cva6Hpd.Common

open Cva6Hpd.Common.FifoRegs (advance)
open Cva6Hpd.Common.Ring (slot window)

universe u

structure RingQueue (depth : Nat) (α : Type u) where
  mem : Fin depth → α
  rptr : Fin depth
  wptr : Fin depth
  count : Nat

namespace RingQueue

variable {depth : Nat} [NeZero depth] {α : Type u} (valid : α → Bool)

/-- The entries, oldest first. -/
def contents (queue : RingQueue depth α) : List α :=
  window queue.mem queue.rptr queue.count

def oldest (queue : RingQueue depth α) : α := queue.mem queue.rptr

def push (queue : RingQueue depth α) (entry : α) : RingQueue depth α where
  mem := Function.update queue.mem queue.wptr entry
  rptr := queue.rptr
  wptr := advance queue.wptr
  count := queue.count + 1

/-- The oldest entry is changed where it stands. -/
def modifyOldest (queue : RingQueue depth α) (change : α → α) : RingQueue depth α :=
  { queue with mem := Function.update queue.mem queue.rptr (change (queue.mem queue.rptr)) }

/-- The oldest entry is left behind, changed by `drop`. -/
def pop (queue : RingQueue depth α) (drop : α → α) : RingQueue depth α :=
  { queue.modifyOldest drop with
    rptr := advance queue.rptr
    count := queue.count - 1 }

/-- All entries are left behind, changed by `drop`. -/
def clear (queue : RingQueue depth α) (drop : α → α) : RingQueue depth α where
  mem entry := drop (queue.mem entry)
  rptr := queue.rptr
  wptr := queue.rptr
  count := 0

/-- The write pointer stands behind the last entry, and exactly the entries are valid. -/
structure Formed (queue : RingQueue depth α) : Prop where
  count_le : queue.count ≤ depth
  wptr_eq : queue.wptr = slot queue.rptr queue.count
  valid_iff : ∀ k, k < depth →
    (valid (queue.mem (slot queue.rptr k)) = true ↔ k < queue.count)

section Lists

variable {queue : RingQueue depth α}

@[simp]
theorem length_contents : queue.contents.length = queue.count :=
  Ring.length_window ..

theorem contents_of_empty (empty : queue.count = 0) : queue.contents = [] := by
  rw [contents, empty, Ring.window_zero]

/-- The oldest entry comes first. -/
theorem contents_eq_cons (filled : 0 < queue.count) :
    queue.contents =
      queue.oldest :: window queue.mem (advance queue.rptr) (queue.count - 1) := by
  rw [oldest, ← Ring.window_succ_head, Nat.sub_add_cancel filled, contents]

theorem contents_clear (drop : α → α) : (queue.clear drop).contents = [] :=
  rfl

variable {valid}

theorem contents_push (formed : queue.Formed valid) (room : queue.count < depth) (entry : α) :
    (queue.push entry).contents = queue.contents ++ [entry] := by
  simp only [contents, push, Ring.window_succ_last]
  rw [formed.wptr_eq, Function.update_self, Ring.window_update _ _ le_rfl room]

theorem oldest_push (formed : queue.Formed valid) (filled : 0 < queue.count)
    (room : queue.count < depth) (entry : α) : (queue.push entry).oldest = queue.oldest := by
  have apart : queue.rptr ≠ queue.wptr := by
    rw [formed.wptr_eq]
    exact (Ring.slot_ne_head _ filled room).symm
  simp only [oldest, push]
  exact Function.update_of_ne apart entry queue.mem

/-- Entries behind the oldest one do not see a change of it. -/
theorem window_update_head (mem : Fin depth → α) (head : Fin depth) {count : Nat}
    (bound : count < depth) (value : α) :
    window (Function.update mem head value) (advance head) count =
      window mem (advance head) count := by
  apply Ring.window_congr
  intro k inside
  have apart : slot head (k + 1) ≠ head := Ring.slot_ne_head head (by omega) (by omega)
  rw [← Ring.slot_succ]
  exact Function.update_of_ne apart value mem

theorem contents_modifyOldest (formed : queue.Formed valid) (filled : 0 < queue.count)
    (change : α → α) :
    (queue.modifyOldest change).contents = change queue.oldest :: queue.contents.tail := by
  have bound := formed.count_le
  have behind : queue.count - 1 < depth := by omega
  rw [@contents_eq_cons _ _ _ (queue.modifyOldest change) filled, contents_eq_cons filled,
    List.tail_cons]
  simp only [modifyOldest, oldest, Function.update_self]
  rw [window_update_head _ _ behind]

theorem contents_pop (formed : queue.Formed valid) (filled : 0 < queue.count)
    (drop : α → α) : (queue.pop drop).contents = queue.contents.tail := by
  have bound := formed.count_le
  have behind : queue.count - 1 < depth := by omega
  rw [contents_eq_cons filled, List.tail_cons]
  simp only [contents, pop, modifyOldest]
  rw [window_update_head _ _ behind]

end Lists

/-! ## Operations keep the queue formed -/

section Formed

variable {valid} {queue : RingQueue depth α}

theorem Formed.push (formed : queue.Formed valid) (room : queue.count < depth) {entry : α}
    (good : valid entry = true) : (queue.push entry).Formed valid where
  count_le := room
  wptr_eq := by
    simp only [RingQueue.push]
    rw [formed.wptr_eq, Ring.advance_slot]
  valid_iff k bound := by
    simp only [RingQueue.push]
    rcases eq_or_ne k queue.count with rfl | other
    · rw [← formed.wptr_eq, Function.update_self]
      simp [good]
    · have apart : slot queue.rptr k ≠ queue.wptr := by
        rw [formed.wptr_eq]
        exact Ring.slot_ne _ bound room other
      rw [Function.update_of_ne apart, formed.valid_iff k bound]
      omega

theorem Formed.modifyOldest (formed : queue.Formed valid) {change : α → α}
    (same : valid (change queue.oldest) = valid queue.oldest) :
    (queue.modifyOldest change).Formed valid where
  count_le := formed.count_le
  wptr_eq := formed.wptr_eq
  valid_iff k bound := by
    simp only [RingQueue.modifyOldest]
    rw [← formed.valid_iff k bound]
    rcases eq_or_ne (slot queue.rptr k) queue.rptr with head | other
    · rw [head, Function.update_self, ← oldest, same, oldest]
    · rw [Function.update_of_ne other]

/-- What is left behind has to be marked as invalid. -/
theorem Formed.pop (formed : queue.Formed valid) (filled : 0 < queue.count) {drop : α → α}
    (dropped : valid (drop queue.oldest) = false) : (queue.pop drop).Formed valid where
  count_le := (Nat.sub_le _ _).trans formed.count_le
  wptr_eq := by
    simp only [RingQueue.pop, RingQueue.modifyOldest]
    rw [formed.wptr_eq, ← Ring.slot_succ, Nat.sub_add_cancel filled]
  valid_iff k bound := by
    simp only [RingQueue.pop, RingQueue.modifyOldest]
    rw [← Ring.slot_succ]
    rcases eq_or_ne (k + 1) depth with turn | inside
    · rw [turn, Ring.slot_depth, Function.update_self, ← oldest, dropped]
      have limit := formed.count_le
      simp only [Bool.false_eq_true, false_iff]
      omega
    · have later : k + 1 < depth := by omega
      rw [Function.update_of_ne (Ring.slot_ne_head _ (by omega) later),
        formed.valid_iff _ later]
      omega

theorem formed_clear (queue : RingQueue depth α) {drop : α → α}
    (dropped : ∀ entry, valid (drop entry) = false) : (queue.clear drop).Formed valid where
  count_le := Nat.zero_le _
  wptr_eq := (Ring.slot_zero _).symm
  valid_iff k bound := by simp [RingQueue.clear, dropped]

theorem Formed.valid_oldest_iff (formed : queue.Formed valid) :
    valid queue.oldest = true ↔ 0 < queue.count := by
  have first := formed.valid_iff 0 (NeZero.pos depth)
  rwa [Ring.slot_zero] at first

theorem Formed.exists_valid_iff (formed : queue.Formed valid) (condition : α → Prop) :
    (∃ place, condition (queue.mem place) ∧ valid (queue.mem place) = true) ↔
      ∃ entry ∈ queue.contents, condition entry := by
  have limit := formed.count_le
  constructor
  · rintro ⟨place, holds, isValid⟩
    rcases Ring.exists_slot queue.rptr place with ⟨k, bound, rfl⟩
    have inside := (formed.valid_iff k bound).mp isValid
    exact ⟨_, List.mem_map.mpr ⟨k, List.mem_range.mpr inside, rfl⟩, holds⟩
  · rintro ⟨entry, member, holds⟩
    rcases List.mem_map.mp member with ⟨k, inside, rfl⟩
    rw [List.mem_range] at inside
    exact ⟨_, holds, (formed.valid_iff k (by omega)).mpr inside⟩

end Formed

end RingQueue

end Cva6Hpd.Common
