import Cva6Hpd.Scoreboard.Window

/-!
# The entries of the window

Between its issue and its departure, the entry of an instruction is changed by write-backs
and by a cancellation only: the first leave alone what was decoded, and the second is made
by the branch in front of it.
-/

namespace Cva6Hpd.Scoreboard

open Cva6Hpd.Hw
open Cva6Hpd.Common

universe u v

variable {cfg : Cfg} {ι : Type u}

/-! ## Fields that no write-back assigns -/

/-- `field` reads nothing that a write-back assigns. -/
structure Unwritten {β : Type v} (field : SbMem cfg ι → β) : Prop where
  setValid : ∀ valid entry, field (SbMem.setValid valid entry) = field entry
  wbData : ∀ s i port entry, field (wbData s i port entry) = field entry

section Unwritten

variable {β : Type v} {field : SbMem cfg ι → β} {s : State cfg ι} {i : Input cfg ι}
  {mem : Mem cfg ι}

theorem modify_field (field : SbMem cfg ι → β) {change : SbMem cfg ι → SbMem cfg ι}
    (same : ∀ old, field (change old) = field old) (target entry : cfg.TransId) :
    field (modify mem target change entry) = field (mem entry) := by
  rw [modify]
  by_cases equal : entry = target
  · rw [equal, Function.update_self, same]
  · rw [Function.update_of_ne equal]

namespace Unwritten

variable (unwritten : Unwritten field)

include unwritten

theorem fuNone (entry : cfg.TransId) : field (fuNone s mem entry) = field (mem entry) := by
  rw [Scoreboard.fuNone]
  split
  · exact unwritten.setValid _ _
  · rfl

theorem wbValid (id entry : cfg.TransId) : field (wbValid s mem id entry) = field (mem entry) := by
  have own (valid : Bool) (mem : Mem cfg ι) (target : cfg.TransId) :
      field (modify mem target (SbMem.setValid valid) entry) = field (mem entry) :=
    modify_field field (unwritten.setValid valid) target entry
  rw [Scoreboard.wbValid]
  split
  · split
    · cases belowIndex id with
      | none => exact own _ _ _
      | some below => exact (own _ _ _).trans (own _ _ _)
    · exact own _ _ _
  · exact own _ _ _

theorem writeBack (port : Fin cfg.nrWbPorts) (entry : cfg.TransId) :
    field (writeBack s i mem port entry) = field (mem entry) := by
  rw [Scoreboard.writeBack]
  split
  · rw [modify_field field (unwritten.wbData s i port), unwritten.wbValid]
  · rfl

theorem writeBacks (entry : cfg.TransId) :
    field (writeBacks s i mem entry) = field (mem entry) := by
  rw [Scoreboard.writeBacks]
  induction List.finRange cfg.nrWbPorts generalizing mem with
  | nil => rfl
  | cons port ports inductionHypothesis =>
      rw [List.foldl_cons, inductionHypothesis, unwritten.writeBack]

end Unwritten

end Unwritten

/-! ## What a cycle does to an entry -/

/-- The instruction and its unit. -/
def SbMem.kept (entry : SbMem cfg ι) : ι × Fu := (entry.sbe.instr, entry.sbe.fu)

theorem unwritten_kept : Unwritten (SbMem.kept : SbMem cfg ι → ι × Fu) where
  setValid _ _ := rfl
  wbData _ _ _ _ := rfl

theorem unwritten_cancelled : Unwritten (SbMem.cancelled : SbMem cfg ι → Bool) where
  setValid _ _ := rfl
  wbData _ _ _ _ := rfl

/-- The cycle cancels the instruction of this entry. -/
def cancels (s : State cfg ι) (i : Input cfg ι) (entry : cfg.TransId) : Bool :=
  cfg.speculativeSb && bmiss i && decide (afterFluWb i ≠ issuePointer s 0)
    && decide (entry = afterFluWb i)

section Cycle

variable {s : State cfg ι} {i : Input cfg ι} {h : History ι}

theorem executed_kept (entry : cfg.TransId) :
    (executed s i entry).kept = (issueMem s i entry).kept := by
  have written :
      (writeBacks s i (fuNone s (issueMem s i)) entry).kept = (issueMem s i entry).kept := by
    rw [unwritten_kept.writeBacks, unwritten_kept.fuNone]
  rw [executed, cancel]
  split
  · exact (modify_field SbMem.kept (by intro; rfl) _ _).trans written
  · exact written

theorem executed_cancelled (entry : cfg.TransId) :
    (executed s i entry).cancelled = ((issueMem s i entry).cancelled || cancels s i entry) := by
  have written :
      (writeBacks s i (fuNone s (issueMem s i)) entry).cancelled =
        (issueMem s i entry).cancelled := by
    rw [unwritten_cancelled.writeBacks, unwritten_cancelled.fuNone]
  rw [executed, cancel, cancels]
  split
  · next miss =>
      rw [miss, Bool.true_and, modify]
      by_cases same : entry = afterFluWb i
      · rw [same, Function.update_self, decide_eq_true rfl, Bool.or_true]
        rfl
      · rw [Function.update_of_ne same, decide_eq_false same, Bool.or_false, written]
  · next hit => rw [Bool.eq_false_iff.mpr hit, Bool.false_and, Bool.or_false, written]

theorem xRdMem_kept (mem : Mem cfg ι) (entry : cfg.TransId) :
    (xRdMem i mem entry).kept = (mem entry).kept := by
  rw [xRdMem]
  exact modify_field SbMem.kept (by intro; rfl) i.xId entry

theorem xRdMem_cancelled (mem : Mem cfg ι) (entry : cfg.TransId) :
    (xRdMem i mem entry).cancelled = (mem entry).cancelled := by
  rw [xRdMem]
  exact modify_field SbMem.cancelled (by intro; rfl) i.xId entry

theorem step_commitPointer (neighbours : Neighbours s i) (counted : Counted i)
    (running : i.flush = false) :
    (Scoreboard.step s i).commitPointerQ 0 = Ring.slot (s.commitPointerQ 0) (numAck i) := by
  change commitPointerD s i 0 = _
  rw [commitPointerD, running, if_neg Bool.false_ne_true,
    numCommit_eq neighbours.commitInOrder counted running]
  exact Ring.slot_zero _

/-- Behind the acknowledged entries, a cycle leaves what the write-backs made of an entry. -/
theorem Windowed.step_slot (windowed : Windowed s h) (neighbours : Neighbours s i)
    (counted : Counted i) (running : i.flush = false) {k : Nat} (stays : numAck i ≤ k)
    (bound : k < cfg.nrSbEntries) :
    memD s i (Ring.slot (s.commitPointerQ 0) k) =
      executed s i (Ring.slot (s.commitPointerQ 0) k) := by
  rw [memD_running running, windowed.commit_slot neighbours counted _ bound,
    if_neg (Nat.not_lt.mpr stays)]

theorem Windowed.step_stays (windowed : Windowed s h) (neighbours : Neighbours s i)
    (counted : Counted i) (running : i.flush = false) {k : Nat} (stays : numAck i ≤ k)
    (inside : k < h.window.length) :
    ((Scoreboard.step s i).memQ (Ring.slot (s.commitPointerQ 0) k)).kept =
        (s.memQ (Ring.slot (s.commitPointerQ 0) k)).kept ∧
      ((Scoreboard.step s i).memQ (Ring.slot (s.commitPointerQ 0) k)).cancelled =
        ((s.memQ (Ring.slot (s.commitPointerQ 0) k)).cancelled ||
          cancels s i (Ring.slot (s.commitPointerQ 0) k)) := by
  have ordered : (issues s i).InOrder := issues_inOrder neighbours.issueInOrder
  have room := windowed.room ordered
  have bound : k < cfg.nrSbEntries := inside.trans_le windowed.bounded
  have old : issueMem s i (Ring.slot (s.commitPointerQ 0) k) =
      s.memQ (Ring.slot (s.commitPointerQ 0) k) := by
    refine issueMem_of_ne ordered fun j new => ?_
    rw [windowed.issuePointer_eq]
    exact Ring.slot_ne _ (by omega) bound (by omega)
  have memory := windowed.step_slot neighbours counted running stays bound
  change (xRdMem i (memD s i) _).kept = _ ∧ (xRdMem i (memD s i) _).cancelled = _
  rw [xRdMem_kept, xRdMem_cancelled, memory, executed_kept, executed_cancelled, old]
  exact ⟨rfl, rfl⟩

theorem Windowed.step_enters (windowed : Windowed s h) (neighbours : Neighbours s i)
    (regular : Regular s i) (running : i.flush = false) {port : Fin cfg.nrIssuePorts}
    (enters : issues s i port = true) :
    let entry :=
      (Scoreboard.step s i).memQ (Ring.slot (s.commitPointerQ 0) (h.window.length + port.val))
    entry.kept = ((i.decodedInstr port).instr, (i.decodedInstr port).fu) ∧
      entry.cancelled =
        cancels s i (Ring.slot (s.commitPointerQ 0) (h.window.length + port.val)) ∧
      (entry.sbe.valid = true → (i.decodedInstr port).valid = true) := by
  have ordered : (issues s i).InOrder := issues_inOrder neighbours.issueInOrder
  have room := windowed.room ordered
  have few := windowed.numAck_le neighbours regular.1
  have paired := regular.2.resolve_left (by rw [running]; exact Bool.false_ne_true)
  have place : port.val < numIssue s i := (ordered.eq_true_iff port).mp enters
  have bound : h.window.length + port.val < cfg.nrSbEntries := by omega
  have new : issueMem s i (Ring.slot (s.commitPointerQ 0) (h.window.length + port.val)) =
      issueEntry i port (s.memQ (issuePointer s port.val)) := by
    rw [← windowed.issuePointer_eq, issueMem_issuePointer enters]
  have memory := windowed.step_slot neighbours regular.1 running (by omega) bound
  change (xRdMem i (memD s i) _).kept = _ ∧ (xRdMem i (memD s i) _).cancelled = _ ∧
    ((xRdMem i (memD s i) _).sbe.valid = true → _)
  rw [xRdMem_kept, xRdMem_cancelled, (xRdMem_fields _ _).2.2, memory, executed_kept,
    executed_cancelled, new]
  refine ⟨rfl, Bool.false_or _, fun set => ?_⟩
  rcases (follows_executed paired).valid _ set with before | inIssue
  · rwa [new] at before
  · rw [windowed.issued_slot bound] at inIssue
    omega

end Cycle

end Cva6Hpd.Scoreboard
