import Cva6Hpd.Common.BoundedQueue
import Cva6Hpd.Common.FifoReg
import Cva6Hpd.Common.SyncBuffer

/-!
# FIFOs of every depth

`hpdcache_fifo_reg` is a wire without entries, a synchronization buffer with one, and a ring of
registers with more. All of them refine the queue of their depth: the wire lets words through as
the other two do with feedthrough.
-/

namespace Cva6Hpd.Common

open Buffer (queue)

universe u

/-- The registers of `hpdcache_fifo_reg`. -/
def HpdcacheFifo (α : Type u) : Nat → Type u
  | 0 => PUnit
  | 1 => SyncBuffer α
  | depth + 2 => FifoReg (depth + 2) α

namespace HpdcacheFifo

variable {α : Type u}

/-! ## The generate branches -/

/-- `gen_bypass`. -/
def genBypass : Buffer PUnit.{u + 1} α where
  reset := PUnit.unit
  rok _ w := w
  wok _ r := r
  rdata _ wdata := wdata
  step _ _ := PUnit.unit

/-- `gen_buffer`. -/
def genBuffer (feedthrough : Bool) (initial : α) : Buffer (SyncBuffer α) α where
  reset := SyncBuffer.reset initial
  rok := SyncBuffer.rok feedthrough
  wok := SyncBuffer.wok feedthrough
  rdata := SyncBuffer.rdata feedthrough
  step buffer cycle := buffer.step feedthrough cycle.w cycle.wdata cycle.r

/-- `gen_fifo`. -/
def genFifo (depth : Nat) [NeZero depth] (feedthrough : Bool) (initial : α) :
    Buffer (FifoReg depth α) α where
  reset := FifoReg.reset initial
  rok fifo := fifo.rok feedthrough
  wok fifo := fifo.wok feedthrough
  rdata fifo := fifo.rdata feedthrough
  step fifo cycle := fifo.step feedthrough cycle.w cycle.wdata cycle.r

/-- `hpdcache_fifo_reg`; `initial` is what the entries hold after reset. -/
def buffer (feedthrough : Bool) (initial : α) : (depth : Nat) → Buffer (HpdcacheFifo α depth) α
  | 0 => genBypass
  | 1 => genBuffer feedthrough initial
  | depth + 2 => genFifo (depth + 2) feedthrough initial

/-! ## Each branch refines the queue -/

theorem genBypass_refines :
    (genBypass : Buffer PUnit α).Refines (queue 0 true) fun _ => [] := by
  apply Buffer.Refines.of_conserves
  · rfl
  · intro _ w
    cases w <;> rfl
  · intro _ r
    cases r <;> rfl
  · intro _ _ _ _
    rfl
  · rintro _ ⟨w, wdata, r⟩
    cases w <;> cases r <;> rfl

section Entries

variable (feedthrough : Bool) (initial : α)

theorem genBuffer_refines :
    (genBuffer feedthrough initial).Refines (queue 1 feedthrough) SyncBuffer.contents := by
  apply Buffer.Refines.of_conserves
  · rfl
  · rintro ⟨validQ, bufQ⟩ w
    cases validQ <;> rfl
  · rintro ⟨validQ, bufQ⟩ r
    cases validQ <;> rfl
  · rintro ⟨validQ, bufQ⟩ w wdata shown
    cases validQ with
    | true => cases feedthrough <;> rfl
    | false =>
        cases feedthrough with
        | true => rfl
        | false => simp [genBuffer, SyncBuffer.rok] at shown
  · intro buffer cycle
    exact buffer.contents_conserved feedthrough cycle.w cycle.wdata cycle.r

theorem genFifo_refines (depth : Nat) [NeZero depth] :
    (genFifo depth feedthrough initial).Refines (queue depth feedthrough)
      FifoReg.contents := by
  apply Buffer.Refines.of_conserves
  · exact FifoReg.contents_reset initial
  · intro fifo w
    change (!fifo.empty || (feedthrough && w)) = (!fifo.contents.isEmpty || (feedthrough && w))
    rw [FifoReg.empty_eq_decide]
    cases fifo.contents <;> rfl
  · intro fifo r
    have limit := fifo.length_contents_le
    change (!fifo.full || (feedthrough && r)) =
      (decide (fifo.contents.length < depth) || (feedthrough && r))
    rw [FifoReg.full_eq_decide, ← decide_not]
    congr 1
    exact decide_eq_decide.mpr ⟨fun notFull => by omega, fun room => by omega⟩
  · intro fifo w wdata shown
    change fifo.rdata feedthrough wdata = fifo.contents.headD wdata
    cases stored : fifo.contents with
    | cons oldest rest => exact FifoReg.rdata_of_cons stored feedthrough wdata
    | nil =>
        have isEmpty : fifo.empty = true := by simp [FifoReg.empty_eq_decide, stored]
        have through : feedthrough = true := by
          simp only [genFifo, FifoRegs.rok, isEmpty, Bool.not_true, Bool.false_or,
            Bool.and_eq_true] at shown
          exact shown.1
        simp [FifoRegs.rdata, isEmpty, through]
  · intro fifo cycle
    exact fifo.contents_conserved feedthrough cycle.w cycle.wdata cycle.r

/-! ## Runs -/

/-- The FIFO of every depth, with and without feedthrough, and the synchronization buffer are
bounded queues over every run. -/
theorem isQueue_run (cycles : List (QueueCycle α)) :
    (∀ depth, ∃ stored, (buffer feedthrough initial depth).IsQueue depth
      (feedthrough || decide (depth = 0)) cycles stored) ∧
    ∃ stored, (genBuffer feedthrough initial).IsQueue 1 feedthrough cycles stored := by
  have single := (genBuffer_refines feedthrough initial).isQueue cycles
  refine ⟨fun depth => ?_, _, single⟩
  match depth with
  | 0 =>
      have wire := (@genBypass_refines α).isQueue cycles
      rw [decide_eq_true rfl, Bool.or_true]
      exact ⟨_, wire⟩
  | 1 =>
      rw [decide_eq_false (Nat.succ_ne_zero 0), Bool.or_false]
      exact ⟨_, single⟩
  | depth + 2 =>
      have ring := (genFifo_refines feedthrough initial (depth + 2)).isQueue cycles
      rw [decide_eq_false (Nat.succ_ne_zero _), Bool.or_false]
      exact ⟨_, ring⟩

end Entries

end HpdcacheFifo

end Cva6Hpd.Common
