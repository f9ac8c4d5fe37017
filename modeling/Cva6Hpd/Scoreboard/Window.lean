import Cva6Hpd.Scoreboard.Core
import Mathlib.Tactic.IntervalCases

/-!
# The window of the scoreboard

The issued instructions form a queue: the issue ports append to it, the commit ports
take its oldest instructions, and a flush empties it. The array holds this queue from
the commit pointer to the issue pointer. Two things can break it. The commit counter
has branches for two ports and for one, and the write-back of the last half of a move
to two registers sets the valid bit of the entry below whether that is issued or not.
-/

namespace Cva6Hpd.Scoreboard

open Cva6Hpd.Hw
open Cva6Hpd.Common

universe u

variable {cfg : Cfg} {ι : Type u}

/-! ## What a cycle leaves alone -/

section Frame

variable {s : State cfg ι} {i : Input cfg ι} {mem : Mem cfg ι}

/-- The instruction written back on a port is not the last half of a move to two
registers, or the entry below is issued. -/
def PairIssued (s : State cfg ι) (i : Input cfg ι) : Prop :=
  ∀ port below, i.wtValid port = true → (s.memQ (i.transId port)).issued = true →
    (s.memQ (i.transId port)).lastOfPair = true → belowIndex (i.transId port) = some below →
      (s.memQ below).issued = true

instance decidablePairIssued (s : State cfg ι) (i : Input cfg ι) :
    Decidable (PairIssued s i) :=
  inferInstanceAs (Decidable (∀ _ _, _ → _ → _ → _ → _))

/-- `mem` has the instructions that were issued so far, and its instructions are valid
only if they were or are in issue. -/
structure Follows (s : State cfg ι) (i : Input cfg ι) (mem : Mem cfg ι) : Prop where
  issued : ∀ entry, (mem entry).issued = (issueMem s i entry).issued
  instr : ∀ entry, (mem entry).sbe.instr = (issueMem s i entry).sbe.instr
  valid : ∀ entry, (mem entry).sbe.valid = true →
    (issueMem s i entry).sbe.valid = true ∨ (s.memQ entry).issued = true

theorem Follows.modify (follows : Follows s i mem) (entry : cfg.TransId)
    {change : SbMem cfg ι → SbMem cfg ι}
    (issued : ∀ old, (change old).issued = old.issued)
    (instr : ∀ old, (change old).sbe.instr = old.sbe.instr)
    (valid : (s.memQ entry).issued = true ∨
      ∀ old, (change old).sbe.valid = true → old.sbe.valid = true) :
    Follows s i (modify mem entry change) := by
  have cases_ (other : cfg.TransId) :
      (other = entry ∧ Scoreboard.modify mem entry change other = change (mem entry)) ∨
        Scoreboard.modify mem entry change other = mem other := by
    by_cases same : other = entry
    · subst same
      exact .inl ⟨rfl, Function.update_self _ _ _⟩
    · exact .inr (Function.update_of_ne same _ _)
  constructor
  · intro other
    rcases cases_ other with ⟨rfl, eq⟩ | eq
    · rw [eq, issued, follows.issued]
    · rw [eq, follows.issued]
  · intro other
    rcases cases_ other with ⟨rfl, eq⟩ | eq
    · rw [eq, instr, follows.instr]
    · rw [eq, follows.instr]
  · intro other set
    rcases cases_ other with ⟨rfl, eq⟩ | eq
    · rw [eq] at set
      rcases valid with inIssue | unset
      · exact .inr inIssue
      · exact follows.valid other (unset _ set)
    · rw [eq] at set
      exact follows.valid other set

theorem Follows.fuNone (follows : Follows s i mem) : Follows s i (fuNone s mem) := by
  constructor
  · intro entry
    rw [← follows.issued entry, Scoreboard.fuNone]
    split <;> rfl
  · intro entry
    rw [← follows.instr entry, Scoreboard.fuNone]
    split <;> rfl
  · intro entry set
    rw [Scoreboard.fuNone] at set
    split at set
    · next none => exact .inr none.2
    · exact follows.valid entry set

theorem Follows.wbValid (follows : Follows s i mem) (paired : PairIssued s i)
    {port : Fin cfg.nrWbPorts} (set : i.wtValid port = true)
    (inIssue : (s.memQ (i.transId port)).issued = true) :
    Follows s i (wbValid s mem (i.transId port)) := by
  have own (valid : Bool) :
      Follows s i (Scoreboard.modify mem (i.transId port) (SbMem.setValid valid)) :=
    follows.modify _ (fun _ => rfl) (fun _ => rfl) (.inl inIssue)
  rw [Scoreboard.wbValid]
  split
  · next double =>
      split
      · next last =>
          have pair : (s.memQ (i.transId port)).lastOfPair = true := by
            rw [SbMem.lastOfPair, double, last, Bool.and_self]
          cases below : belowIndex (i.transId port) with
          | none => exact own true
          | some entry =>
              exact (own true).modify entry (fun _ => rfl) (fun _ => rfl)
                (.inl (paired port entry set inIssue pair below))
      · exact own false
  · exact own true

theorem Follows.writeBack (follows : Follows s i mem) (paired : PairIssued s i)
    (port : Fin cfg.nrWbPorts) : Follows s i (writeBack s i mem port) := by
  rw [Scoreboard.writeBack]
  split
  · next written =>
      rw [Bool.and_eq_true] at written
      exact (follows.wbValid paired written.1 written.2).modify _ (fun _ => rfl)
        (fun _ => rfl) (.inl written.2)
  · exact follows

theorem Follows.writeBacks (follows : Follows s i mem) (paired : PairIssued s i) :
    Follows s i (writeBacks s i mem) :=
  List.foldlRecOn _ _ follows fun _ follows port _ => follows.writeBack paired port

theorem Follows.cancel (follows : Follows s i mem) : Follows s i (cancel s i mem) := by
  rw [Scoreboard.cancel]
  split
  · exact follows.modify _ (fun _ => rfl) (fun _ => rfl) (.inr fun _ set => set)
  · exact follows

/-- Write-backs and a cancellation do not change what is in issue. -/
theorem follows_executed (paired : PairIssued s i) : Follows s i (executed s i) :=
  have issue : Follows s i (issueMem s i) :=
    ⟨fun _ => rfl, fun _ => rfl, fun _ set => .inl set⟩
  (issue.fuNone.writeBacks paired).cancel

end Frame

/-! ## The neighbours -/

section Ports

variable (s : State cfg ι) (i : Input cfg ι)

/-- The issue stage takes the instructions in order, and the commit stage acknowledges
in order what is valid. -/
structure Neighbours : Prop where
  issueInOrder : Bits.InOrder fun port => i.decodedInstrValid port && i.issueAck port
  commitInOrder : i.commitAck.InOrder
  commitValid : ∀ port, i.commitAck port = true → (commitInstr s port).valid = true

instance decidableNeighbours : Decidable (Neighbours s i) :=
  decidable_of_iff
    (Bits.InOrder (fun port => i.decodedInstrValid port && i.issueAck port) ∧
      i.commitAck.InOrder ∧
      ∀ port, i.commitAck port = true → (commitInstr s port).valid = true)
    ⟨fun all => ⟨all.1, all.2.1, all.2.2⟩, fun all => ⟨all.1, all.2, all.3⟩⟩

/-- The number of acknowledged commit ports. -/
def numAck : Nat := i.commitAck.indices.length

/-- The commit counter counts the acknowledgements. -/
def Counted : Prop :=
  numAck i ≤ 1 ∨ cfg.nrCommitPorts ≤ 2 ∨
    (i.flush = true ∧ cfg.nrCommitPorts ≤ cfg.nrSbEntries)

instance decidableCounted : Decidable (Counted i) :=
  inferInstanceAs (Decidable (_ ∨ _))

/-- A cycle that avoids both defects. -/
def Regular : Prop := Counted i ∧ (i.flush = true ∨ PairIssued s i)

instance decidableRegular : Decidable (Regular s i) :=
  inferInstanceAs (Decidable (_ ∧ _))

end Ports

section Counters

variable {s : State cfg ι} {i : Input cfg ι}

/-- The second port is not full only if the first is not. -/
theorem issues_inOrder (ordered : Bits.InOrder fun port =>
    i.decodedInstrValid port && i.issueAck port) : (issues s i).InOrder := by
  intro low high order set
  simp only [issues, decodedInstrAck, Bool.and_eq_true, Bool.not_eq_true'] at set
  rcases set with ⟨⟨valid, acked, free⟩, running⟩
  have handed := ordered low high order (Bool.and_eq_true_iff.mpr ⟨valid, acked⟩)
  rw [Bool.and_eq_true] at handed
  have lowFree : issueFull s low = false := by
    by_cases first : low.val = 0
    · rw [issueFull, if_pos first]
      rw [issueFull] at free
      split at free
      · exact free
      · rw [(Bool.or_eq_false_iff.mp free).1, Bool.false_and]
    · have bound := high.isLt
      have ports := cfg.issuePorts_le
      have same : low = high := by
        rw [Fin.le_def] at order
        exact Fin.ext (by omega)
      rw [same]
      exact free
  simp [issues, decodedInstrAck, handed.1, handed.2, lowFree, running]

theorem ack_eq (ordered : i.commitAck.InOrder) (port : Nat) :
    ack i port = decide (port < numAck i) := by
  rw [ack]
  split
  · next inside =>
      rw [Bool.eq_iff_iff, ordered.eq_true_iff, decide_eq_true_iff]
      rfl
  · next outside =>
      have bound : numAck i ≤ cfg.nrCommitPorts := Bits.length_indices_le _
      exact (decide_eq_false (by omega)).symm

theorem numCommit_eq (ordered : i.commitAck.InOrder) (counted : Counted i)
    (running : i.flush = false) : numCommit i = numAck i := by
  have bound : numAck i ≤ cfg.nrCommitPorts := Bits.length_indices_le _
  rw [numCommit, ack_eq ordered, ack_eq ordered]
  split
  · next two =>
      rw [two] at bound
      interval_cases numAck i <;> rfl
  · next other =>
      have single : numAck i ≤ 1 := by
        rcases counted with few | ports | flushed
        · exact few
        · omega
        · rw [running] at flushed
          exact absurd flushed.1 Bool.false_ne_true
      interval_cases numAck i <;> rfl

theorem numAck_le_entries (counted : Counted i) : numAck i ≤ cfg.nrSbEntries := by
  have bound : numAck i ≤ cfg.nrCommitPorts := Bits.length_indices_le _
  have entries := cfg.two_le_entries
  rcases counted with few | ports | flushed <;> omega

end Counters

/-! ## The queue of instructions -/

/-- How an instruction leaves the window. -/
inductive Departure where
  | commit
  | flush
deriving DecidableEq, Repr

/-- The instructions issued so far, those that left, and those in between. -/
structure History (ι : Type u) where
  issued : List ι
  left : List (ι × Departure)
  window : List ι
deriving DecidableEq

section Record

variable (s : State cfg ι) (i : Input cfg ι) (h : History ι)

/-- The instructions that the issue ports put in the array. -/
def accepted : List ι := (issues s i).indices.map fun port => (i.decodedInstr port).instr

/-- The instructions that the acknowledged commit ports present. -/
def committed : List ι := i.commitAck.indices.map fun port => (commitInstr s port).instr

/-- What a flush finds in the window. -/
def remaining : List ι := h.window.drop (numAck i) ++ accepted s i

def record : History ι where
  issued := h.issued ++ accepted s i
  left := h.left ++ (committed s i).map (·, .commit) ++
    if i.flush then (remaining s i h).map (·, .flush) else []
  window := if i.flush then [] else remaining s i h

end Record

/-- The scoreboard with the queue of its instructions. -/
def windowMachine (cfg : Cfg) (ι : Type u) [Inhabited ι] :
    Machine (State cfg ι × History ι) (Input cfg ι) :=
  (machine cfg ι).withHistory ⟨[], [], []⟩ record

/-- The array holds the window of the queue from the commit pointer to the issue
pointer. -/
structure Windowed (s : State cfg ι) (h : History ι) : Prop where
  conserved : h.issued = h.left.map Prod.fst ++ h.window
  bounded : h.window.length ≤ cfg.nrSbEntries
  pointer : s.issuePointerQ = Ring.slot (s.commitPointerQ 0) h.window.length
  issued : ∀ entry, (s.memQ entry).issued = true ↔
    ∃ k, k < h.window.length ∧ Ring.slot (s.commitPointerQ 0) k = entry
  held : ∀ k (bound : k < h.window.length),
    (s.memQ (Ring.slot (s.commitPointerQ 0) k)).sbe.instr = h.window[k]
  ports : h.window ≠ [] → ∀ port,
    s.commitPointerQ port = Ring.slot (s.commitPointerQ 0) port.val
  valid : ∀ entry, (s.memQ entry).sbe.valid = true → (s.memQ entry).issued = true

theorem windowed_reset [Inhabited ι] : Windowed (reset cfg ι) ⟨[], [], []⟩ where
  conserved := rfl
  bounded := Nat.zero_le _
  pointer := (Ring.slot_zero _).symm
  issued := by simp [reset, SbMem.zero]
  held := by simp
  ports := fun nonempty => absurd rfl nonempty
  valid := by simp [reset, SbMem.zero]

section Windowed

variable {s : State cfg ι} {i : Input cfg ι} {h : History ι}

theorem Windowed.issued_slot (windowed : Windowed s h) {k : Nat}
    (bound : k < cfg.nrSbEntries) :
    (s.memQ (Ring.slot (s.commitPointerQ 0) k)).issued = true ↔ k < h.window.length := by
  rw [windowed.issued]
  constructor
  · rintro ⟨j, inside, same⟩
    have equal : j = k := by
      by_contra different
      exact Ring.slot_ne _ (inside.trans_le windowed.bounded) bound different same
    rwa [← equal]
  · intro inside
    exact ⟨k, inside, rfl⟩

theorem Windowed.presents (windowed : Windowed s h) (port : Fin cfg.nrCommitPorts)
    (bound : port.val < h.window.length) :
    (commitInstr s port).instr = h.window[port.val] ∧
      (commitInstr s port).transId = Ring.slot (s.commitPointerQ 0) port.val := by
  have nonempty : h.window ≠ [] := List.ne_nil_of_length_pos (by omega)
  have pointer := windowed.ports nonempty port
  refine ⟨?_, pointer⟩
  rw [commitInstr, pointer, ← windowed.held port.val bound]

theorem Windowed.acked (windowed : Windowed s h) (neighbours : Neighbours s i)
    (counted : Counted i) {port : Fin cfg.nrCommitPorts} (acked : i.commitAck port = true) :
    port.val < h.window.length ∧
      s.commitPointerQ port = Ring.slot (s.commitPointerQ 0) port.val := by
  have inIssue := windowed.valid _ (neighbours.commitValid port acked)
  obtain ⟨k, inside, -⟩ := (windowed.issued _).mp inIssue
  have nonempty : h.window ≠ [] := List.ne_nil_of_length_pos (by omega)
  have pointer := windowed.ports nonempty port
  have bound : port.val < cfg.nrSbEntries :=
    ((neighbours.commitInOrder.eq_true_iff port).mp acked).trans_le (numAck_le_entries counted)
  rw [pointer, windowed.issued_slot bound] at inIssue
  exact ⟨inIssue, pointer⟩

theorem Windowed.numAck_le (windowed : Windowed s h) (neighbours : Neighbours s i)
    (counted : Counted i) : numAck i ≤ h.window.length := by
  by_contra more
  have ports : numAck i ≤ cfg.nrCommitPorts := Bits.length_indices_le _
  have last : i.commitAck ⟨numAck i - 1, by omega⟩ = true :=
    (neighbours.commitInOrder.eq_true_iff _).mpr (by change numAck i - 1 < numAck i; omega)
  have inside := (windowed.acked neighbours counted last).1
  change numAck i - 1 < _ at inside
  omega

/-- The acknowledged ports present the oldest instructions. -/
theorem Windowed.committed_eq (windowed : Windowed s h) (neighbours : Neighbours s i)
    (counted : Counted i) : committed s i = h.window.take (numAck i) := by
  have few := windowed.numAck_le neighbours counted
  apply List.ext_getElem
  · rw [committed, List.length_map, List.length_take, Nat.min_eq_left few]
    rfl
  · intro k inside outside
    rw [committed, List.length_map] at inside
    have place := neighbours.commitInOrder.val_getElem_indices inside
    have bound : (i.commitAck.indices[k]).val < h.window.length := by
      rw [place]
      exact inside.trans_le few
    simp only [committed, List.getElem_map, List.getElem_take, (windowed.presents _ bound).1,
      place]

theorem Windowed.free (windowed : Windowed s h) {parity : Nat}
    (free : issuedInstrs s parity = false) :
    ∃ k, h.window.length ≤ k ∧ k < cfg.nrSbEntries ∧
      (Ring.slot (s.commitPointerQ 0) k).val % 2 = parity := by
  rw [issuedInstrs, decide_eq_false_iff_not] at free
  push Not at free
  obtain ⟨entry, side, empty⟩ := free
  obtain ⟨k, bound, rfl⟩ := Ring.exists_slot (s.commitPointerQ 0) entry
  rw [Ne, windowed.issued_slot bound] at empty
  exact ⟨k, Nat.le_of_not_lt empty, bound, side⟩

theorem Windowed.room (windowed : Windowed s h) (ordered : (issues s i).InOrder) :
    h.window.length + numIssue s i ≤ cfg.nrSbEntries := by
  have ports : numIssue s i ≤ cfg.nrIssuePorts := Bits.length_indices_le _
  have two := cfg.issuePorts_le
  rcases Nat.eq_zero_or_pos (numIssue s i) with none | some_
  · rw [none]
    exact windowed.bounded
  have last : issues s i ⟨numIssue s i - 1, by omega⟩ = true :=
    (ordered.eq_true_iff _).mpr (by change numIssue s i - 1 < numIssue s i; omega)
  simp only [issues, decodedInstrAck, Bool.and_eq_true, Bool.not_eq_true'] at last
  have notFull := last.1.2.2
  rw [issueFull] at notFull
  split at notFull
  · next single =>
      change numIssue s i - 1 = 0 at single
      rcases Bool.and_eq_false_iff.mp notFull with even | odd
      · obtain ⟨k, behind, bound, -⟩ := windowed.free even
        omega
      · obtain ⟨k, behind, bound, -⟩ := windowed.free odd
        omega
  · rcases Bool.or_eq_false_iff.mp notFull with ⟨even, odd⟩
    obtain ⟨j, behindEven, boundEven, sideEven⟩ := windowed.free even
    obtain ⟨k, behindOdd, boundOdd, sideOdd⟩ := windowed.free odd
    have different : j ≠ k := by
      rintro rfl
      omega
    omega

end Windowed

/-! ## Issue -/

section Issue

variable {s : State cfg ι} {i : Input cfg ι}

theorem issuePointer_injective {first second : Nat} (firstBound : first < cfg.nrSbEntries)
    (secondBound : second < cfg.nrSbEntries)
    (same : issuePointer s first = issuePointer s second) : first = second := by
  by_contra different
  exact Ring.slot_ne _ firstBound secondBound different same

theorem issueMem_of_ne {entry : cfg.TransId} (ordered : (issues s i).InOrder)
    (other : ∀ k, k < numIssue s i → issuePointer s k ≠ entry) :
    issueMem s i entry = s.memQ entry :=
  writes_of_ne fun port _ set => other port.val ((ordered.eq_true_iff port).mp set)

theorem issueMem_issuePointer {port : Fin cfg.nrIssuePorts} (set : issues s i port = true) :
    issueMem s i (issuePointer s port.val) =
      issueEntry i port (s.memQ (issuePointer s port.val)) := by
  refine writes_of_eq (List.nodup_finRange _) (List.mem_finRange port) set rfl ?_
  intro other _ _ same
  have ports := cfg.issuePorts_le
  have entries := cfg.two_le_entries
  have first := other.isLt
  have second := port.isLt
  exact Fin.ext (issuePointer_injective (by omega) (by omega) same)

theorem length_accepted : (accepted s i).length = numIssue s i :=
  List.length_map _

theorem issueMem_accepted (ordered : (issues s i).InOrder) {k : Nat}
    (bound : k < (accepted s i).length) :
    (issueMem s i (issuePointer s k)).issued = true ∧
      (issueMem s i (issuePointer s k)).sbe.instr = (accepted s i)[k] := by
  have inside : k < (issues s i).indices.length := by
    rwa [length_accepted] at bound
  have place := ordered.val_getElem_indices inside
  have set : issues s i (issues s i).indices[k] = true :=
    Bits.mem_indices.mp (List.getElem_mem inside)
  have entry := issueMem_issuePointer set
  rw [place] at entry
  rw [entry]
  refine ⟨rfl, ?_⟩
  simp only [accepted, List.getElem_map]
  rfl

theorem issueMem_issued (ordered : (issues s i).InOrder) (entry : cfg.TransId) :
    (issueMem s i entry).issued = true ↔
      (s.memQ entry).issued = true ∨ ∃ k, k < numIssue s i ∧ issuePointer s k = entry := by
  by_cases new : ∃ k, k < numIssue s i ∧ issuePointer s k = entry
  · obtain ⟨k, bound, rfl⟩ := new
    rw [← length_accepted] at bound
    have issued := (issueMem_accepted ordered bound).1
    rw [length_accepted] at bound
    exact ⟨fun _ => .inr ⟨k, bound, rfl⟩, fun _ => issued⟩
  · rw [issueMem_of_ne ordered fun k bound same => new ⟨k, bound, same⟩]
    exact ⟨.inl, fun either => either.resolve_right new⟩

theorem issueMem_valid (ordered : (issues s i).InOrder)
    (valid : ∀ entry, (s.memQ entry).sbe.valid = true → (s.memQ entry).issued = true)
    {entry : cfg.TransId} (set : (issueMem s i entry).sbe.valid = true) :
    (issueMem s i entry).issued = true := by
  rw [issueMem_issued ordered]
  by_cases new : ∃ k, k < numIssue s i ∧ issuePointer s k = entry
  · exact .inr new
  · rw [issueMem_of_ne ordered fun k bound same => new ⟨k, bound, same⟩] at set
    exact .inl (valid entry set)

end Issue

/-! ## One cycle -/

section Step

variable {s : State cfg ι} {i : Input cfg ι} {h : History ι}

/-- The destination register of an entry says nothing about what is in issue. -/
theorem xRdMem_fields (mem : Mem cfg ι) (entry : cfg.TransId) :
    (xRdMem i mem entry).issued = (mem entry).issued ∧
      (xRdMem i mem entry).sbe.instr = (mem entry).sbe.instr ∧
      (xRdMem i mem entry).sbe.valid = (mem entry).sbe.valid := by
  rw [xRdMem, modify]
  by_cases same : entry = i.xId
  · rw [same, Function.update_self]
    exact ⟨rfl, rfl, rfl⟩
  · rw [Function.update_of_ne same]
    exact ⟨rfl, rfl, rfl⟩

theorem memD_running (running : i.flush = false) : memD s i = commit s i (executed s i) := by
  rw [memD, flushAll, running, if_neg Bool.false_ne_true]

theorem Windowed.issuePointer_eq (windowed : Windowed s h) (k : Nat) :
    issuePointer s k = Ring.slot (s.commitPointerQ 0) (h.window.length + k) := by
  rw [issuePointer, windowed.pointer, Ring.slot_slot]

theorem Windowed.commit_slot (windowed : Windowed s h) (neighbours : Neighbours s i)
    (counted : Counted i) (mem : Mem cfg ι) {k : Nat} (bound : k < cfg.nrSbEntries) :
    commit s i mem (Ring.slot (s.commitPointerQ 0) k) =
      if k < numAck i then (mem (Ring.slot (s.commitPointerQ 0) k)).retire
      else mem (Ring.slot (s.commitPointerQ 0) k) := by
  have place {port : Fin cfg.nrCommitPorts} (acked : i.commitAck port = true)
      (same : s.commitPointerQ port = Ring.slot (s.commitPointerQ 0) k) : port.val = k := by
    obtain ⟨inside, pointer⟩ := windowed.acked neighbours counted acked
    rw [pointer] at same
    by_contra different
    exact Ring.slot_ne _ (inside.trans_le windowed.bounded) bound different same
  split
  · next retired =>
      have ports : numAck i ≤ cfg.nrCommitPorts := Bits.length_indices_le _
      let port : Fin cfg.nrCommitPorts := ⟨k, by omega⟩
      have acked : i.commitAck port = true :=
        (neighbours.commitInOrder.eq_true_iff port).mpr retired
      refine writes_of_eq (List.nodup_finRange _) (List.mem_finRange port) acked
        (windowed.acked neighbours counted acked).2 ?_
      intro other _ otherAcked same
      exact Fin.ext (place otherAcked same)
  · next stays =>
      refine writes_of_ne fun port _ acked same => stays ?_
      rw [← place acked same]
      exact (neighbours.commitInOrder.eq_true_iff port).mp acked

theorem Windowed.step_issued (windowed : Windowed s h) (neighbours : Neighbours s i)
    (regular : Regular s i) (running : i.flush = false) {k : Nat}
    (bound : k < cfg.nrSbEntries) :
    ((step s i).memQ (Ring.slot (s.commitPointerQ 0) k)).issued = true ↔
      numAck i ≤ k ∧ k < h.window.length + numIssue s i := by
  have ordered : (issues s i).InOrder := issues_inOrder neighbours.issueInOrder
  have paired := regular.2.resolve_left (by rw [running]; exact Bool.false_ne_true)
  have room := windowed.room ordered
  have few := windowed.numAck_le neighbours regular.1
  change (xRdMem i (memD s i) _).issued = true ↔ _
  rw [(xRdMem_fields _ _).1, memD_running running,
    windowed.commit_slot neighbours regular.1 _ bound]
  split
  · next retired =>
      constructor
      · exact fun set => absurd set Bool.false_ne_true
      · intro inside
        omega
  · next stays =>
      rw [(follows_executed paired).issued, issueMem_issued ordered,
        windowed.issued_slot bound]
      constructor
      · rintro (old | ⟨j, new, same⟩)
        · omega
        · rw [windowed.issuePointer_eq] at same
          have equal : h.window.length + j = k := by
            by_contra different
            exact Ring.slot_ne _ (by omega) bound different same
          omega
      · rintro ⟨-, inside⟩
        by_cases old : k < h.window.length
        · exact .inl old
        · refine .inr ⟨k - h.window.length, by omega, ?_⟩
          rw [windowed.issuePointer_eq, Nat.add_sub_cancel' (Nat.le_of_not_lt old)]

theorem Windowed.step_instr (windowed : Windowed s h) (neighbours : Neighbours s i)
    (regular : Regular s i) (running : i.flush = false) {k : Nat}
    (bound : k < (remaining s i h).length) :
    ((step s i).memQ (Ring.slot (s.commitPointerQ 0) (numAck i + k))).sbe.instr =
      (remaining s i h)[k] := by
  have ordered : (issues s i).InOrder := issues_inOrder neighbours.issueInOrder
  have paired := regular.2.resolve_left (by rw [running]; exact Bool.false_ne_true)
  have room := windowed.room ordered
  have few := windowed.numAck_le neighbours regular.1
  have inside := bound
  rw [remaining, List.length_append, List.length_drop, length_accepted] at inside
  have entry : numAck i + k < cfg.nrSbEntries := by omega
  change (xRdMem i (memD s i) _).sbe.instr = _
  rw [(xRdMem_fields _ _).2.1, memD_running running,
    windowed.commit_slot neighbours regular.1 _ entry, if_neg (by omega),
    (follows_executed paired).instr]
  by_cases old : k < (h.window.drop (numAck i)).length
  · have place : numAck i + k < h.window.length := by
      rw [List.length_drop] at old
      omega
    rw [issueMem_of_ne ordered, windowed.held _ place]
    · simp only [remaining, List.getElem_append_left old, List.getElem_drop]
    · intro j new
      rw [windowed.issuePointer_eq]
      exact Ring.slot_ne _ (by omega) entry (by omega)
  · have behind : numAck i + k =
        h.window.length + (k - (h.window.drop (numAck i)).length) := by
      rw [List.length_drop] at old ⊢
      omega
    have new : k - (h.window.drop (numAck i)).length < (accepted s i).length := by
      rw [length_accepted]
      omega
    rw [behind, ← windowed.issuePointer_eq, (issueMem_accepted ordered new).2]
    simp only [remaining]
    rw [List.getElem_append_right (Nat.le_of_not_lt old)]

theorem Windowed.step_valid (windowed : Windowed s h) (neighbours : Neighbours s i)
    (regular : Regular s i) (running : i.flush = false) (entry : cfg.TransId)
    (set : ((step s i).memQ entry).sbe.valid = true) :
    ((step s i).memQ entry).issued = true := by
  have ordered : (issues s i).InOrder := issues_inOrder neighbours.issueInOrder
  have paired := regular.2.resolve_left (by rw [running]; exact Bool.false_ne_true)
  obtain ⟨k, bound, rfl⟩ := Ring.exists_slot (s.commitPointerQ 0) entry
  change (xRdMem i (memD s i) _).sbe.valid = true at set
  change (xRdMem i (memD s i) _).issued = true
  rw [(xRdMem_fields _ _).2.2, memD_running running,
    windowed.commit_slot neighbours regular.1 _ bound] at set
  rw [(xRdMem_fields _ _).1, memD_running running,
    windowed.commit_slot neighbours regular.1 _ bound]
  split at set
  · exact absurd set Bool.false_ne_true
  · next stays =>
      rw [if_neg stays, (follows_executed paired).issued]
      rcases (follows_executed paired).valid _ set with before | inIssue
      · exact issueMem_valid ordered windowed.valid before
      · exact (issueMem_issued ordered _).mpr (.inl inIssue)

theorem Windowed.step_conserved (windowed : Windowed s h) (neighbours : Neighbours s i)
    (counted : Counted i) :
    (record s i h).issued = (record s i h).left.map Prod.fst ++ (record s i h).window := by
  have split_ : h.window ++ accepted s i = committed s i ++ remaining s i h := by
    rw [remaining, windowed.committed_eq neighbours counted, ← List.append_assoc,
      List.take_append_drop]
  have fst (departure : Departure) (instrs : List ι) :
      (instrs.map (·, departure)).map Prod.fst = instrs := by
    rw [List.map_map]
    exact List.map_id instrs
  cases flush : i.flush with
  | false =>
      simp only [record, flush, Bool.false_eq_true, if_false, List.append_nil,
        List.map_append, fst, windowed.conserved, List.append_assoc, split_]
  | true =>
      simp only [record, flush, if_true, List.append_nil, List.map_append, fst,
        windowed.conserved, List.append_assoc, split_]

theorem Windowed.step_running (windowed : Windowed s h) (neighbours : Neighbours s i)
    (regular : Regular s i) (running : i.flush = false) :
    Windowed (step s i) (record s i h) := by
  have room := windowed.room (issues_inOrder neighbours.issueInOrder)
  have few := windowed.numAck_le neighbours regular.1
  have window : (record s i h).window = remaining s i h :=
    if_neg (by rw [running]; exact Bool.false_ne_true)
  have length : (remaining s i h).length =
      h.window.length - numAck i + numIssue s i := by
    rw [remaining, List.length_append, List.length_drop, length_accepted]
  have pointers (port : Fin cfg.nrCommitPorts) : (step s i).commitPointerQ port =
      Ring.slot (Ring.slot (s.commitPointerQ 0) (numAck i)) port.val := by
    change commitPointerD s i port = _
    rw [commitPointerD, running, if_neg Bool.false_ne_true,
      numCommit_eq neighbours.commitInOrder regular.1 running]
  have head : (step s i).commitPointerQ 0 = Ring.slot (s.commitPointerQ 0) (numAck i) := by
    rw [pointers 0]
    exact Ring.slot_zero _
  constructor
  · exact windowed.step_conserved neighbours regular.1
  · rw [window, length]
    omega
  · change issuePointerD s i = _
    rw [issuePointerD, running, if_neg Bool.false_ne_true, windowed.issuePointer_eq, head,
      Ring.slot_slot, window, length]
    congr 1
    omega
  · intro entry
    obtain ⟨k, bound, rfl⟩ := Ring.exists_slot (s.commitPointerQ 0) entry
    rw [windowed.step_issued neighbours regular running bound, head, window, length]
    constructor
    · rintro ⟨stays, inside⟩
      refine ⟨k - numAck i, by omega, ?_⟩
      rw [Ring.slot_slot, Nat.add_sub_cancel' stays]
    · rintro ⟨j, inside, same⟩
      rw [Ring.slot_slot] at same
      have equal : numAck i + j = k := by
        by_contra different
        exact Ring.slot_ne _ (by omega) bound different same
      omega
  · intro k bound
    rw [head, Ring.slot_slot]
    simp only [window] at bound ⊢
    exact windowed.step_instr neighbours regular running bound
  · intro _ port
    rw [pointers, head]
  · exact windowed.step_valid neighbours regular running

/-- A flush empties the array and resets the pointers. -/
theorem Windowed.step_flush (windowed : Windowed s h) (neighbours : Neighbours s i)
    (counted : Counted i) (flush : i.flush = true) :
    Windowed (step s i) (record s i h) := by
  have window : (record s i h).window = [] := if_pos flush
  have memory (entry : cfg.TransId) : memD s i entry = (commit s i (executed s i) entry).clear := by
    rw [memD, flushAll, flush, if_pos rfl]
  have pointer (port : Fin cfg.nrCommitPorts) : (step s i).commitPointerQ port = 0 :=
    if_pos flush
  constructor
  · exact windowed.step_conserved neighbours counted
  · rw [window]
    exact Nat.zero_le _
  · rw [window, pointer, List.length_nil, Ring.slot_zero]
    exact if_pos flush
  · intro entry
    change (xRdMem i (memD s i) entry).issued = true ↔ _
    rw [(xRdMem_fields _ _).1, memory, window]
    simp [SbMem.clear]
  · intro k bound
    simp [window] at bound
  · exact fun nonempty => absurd window nonempty
  · intro entry set
    change (xRdMem i (memD s i) entry).sbe.valid = true at set
    rw [(xRdMem_fields _ _).2.2, memory] at set
    exact absurd set Bool.false_ne_true

theorem Windowed.step (windowed : Windowed s h) (neighbours : Neighbours s i)
    (regular : Regular s i) : Windowed (Scoreboard.step s i) (record s i h) := by
  cases flush : i.flush with
  | false => exact windowed.step_running neighbours regular flush
  | true => exact windowed.step_flush neighbours regular.1 flush

end Step

/-! ## Runs -/

/-- The array is the window of the instructions that were issued and have not left: the
commit ports present its oldest instructions, and what is issued fits behind it, in
entries that are free. -/
structure Ordered (s : State cfg ι) (h : History ι) : Prop where
  windowed : Windowed s h
  presents : ∀ port : Fin cfg.nrCommitPorts, ∀ bound : port.val < h.window.length,
    (commitInstr s port).instr = h.window[port.val] ∧
      (commitInstr s port).transId = Ring.slot (s.commitPointerQ 0) port.val
  room : ∀ i : Input cfg ι,
    (Bits.InOrder fun port => i.decodedInstrValid port && i.issueAck port) →
      h.window.length + (accepted s i).length ≤ cfg.nrSbEntries
  fresh : ∀ i : Input cfg ι,
    (Bits.InOrder fun port => i.decodedInstrValid port && i.issueAck port) →
      ∀ port, issues s i port = true → (s.memQ (issuePointer s port.val)).issued = false

theorem Windowed.ordered {s : State cfg ι} {h : History ι} (windowed : Windowed s h) :
    Ordered s h where
  windowed := windowed
  presents := windowed.presents
  room := fun i handed => by
    rw [length_accepted]
    exact windowed.room (issues_inOrder handed)
  fresh := fun i handed port set => by
    have ordered : (issues s i).InOrder := issues_inOrder handed
    have room := windowed.room ordered
    have place : port.val < numIssue s i := (ordered.eq_true_iff port).mp set
    rw [windowed.issuePointer_eq, ← Bool.not_eq_true, windowed.issued_slot (by omega)]
    omega

/-- The scoreboard is an ordered window in every run of regular cycles. -/
theorem window_run [Inhabited ι] {inputs : List (Input cfg ι)}
    (along : (windowMachine cfg ι).RunAlong (fun s i => Neighbours s.1 i ∧ Regular s.1 i)
      inputs) :
    Ordered ((windowMachine cfg ι).run inputs).1 ((windowMachine cfg ι).run inputs).2 := by
  have windowed : Windowed ((windowMachine cfg ι).run inputs).1
      ((windowMachine cfg ι).run inputs).2 :=
    (windowMachine cfg ι).run_invariant_along (fun s => Windowed s.1 s.2) windowed_reset
      (fun _ _ windowed cycle => windowed.step cycle.1 cycle.2) along
  exact windowed.ordered

/-- `2 ^ (bits + 1)` entries, and `ports + 1` commit ports without superscalar issue. -/
def runCfg (superscalarEn : Bool) (bits ports : Nat) : Cfg where
  transIdBits := bits + 1
  superscalarEn := superscalarEn
  userCommitPorts := ports + 1
  nrWbPorts := 4
  fpPresent := false
  debugEn := false
  transIdBits_pos := Nat.succ_pos bits
  userCommitPorts_pos := Nat.succ_pos ports
  nrWbPorts_pos := Nat.succ_pos 3

/-- A decoded instruction of the arithmetic unit, the last half of a move to two
registers if `last`. -/
def decoded (cfg : Cfg) (instr : Nat) (last : Bool) : ScoreboardEntry cfg Nat where
  instr := instr
  transId := 0
  fu := .alu
  rd := 1
  result := 0
  valid := false
  ex := ⟨0, 0, 0, 0, false, false⟩
  predictAddress := 0
  isMacroInstr := last
  isLastMacroInstr := last
  isDoubleRdMacroInstr := last

def Input.idle (cfg : Cfg) : Input cfg Nat where
  flushUnissuedInstr := false
  flush := false
  xTransactionAccepted := false
  xIssueWriteback := false
  xId := 0
  commitAck := Bits.zero
  decodedInstr := fun port => decoded cfg port.val false
  decodedInstrValid := Bits.zero
  issueAck := Bits.zero
  resolvedBranch := ⟨false, 0, false⟩
  transId := fun _ => 0
  wbdata := fun _ => 0
  ex := fun _ => ⟨0, 0, 0, 0, false, false⟩
  wtValid := Bits.zero
  xWe := false
  xRd := 0

/-- The cycle also issues instructions on the first ports. -/
def Input.issue {cfg : Cfg} (i : Input cfg Nat) (instrs : List Nat) (last : Bool) :
    Input cfg Nat :=
  { i with
    decodedInstr := fun port => decoded cfg (instrs.getD port.val 0) last
    decodedInstrValid := fun port => decide (port.val < instrs.length)
    issueAck := fun port => decide (port.val < instrs.length) }

/-- The cycle also writes back the given identifiers. -/
def Input.writeBack {cfg : Cfg} (i : Input cfg Nat) (ids : List Nat) : Input cfg Nat :=
  { i with
    transId := fun port => Fin.ofNat cfg.nrSbEntries (ids.getD port.val 0)
    wtValid := fun port => decide (port.val < ids.length) }

/-- The cycle also acknowledges the first commit ports. -/
def Input.commit {cfg : Cfg} (i : Input cfg Nat) (ports : Nat) : Input cfg Nat :=
  { i with commitAck := fun port => decide (port.val < ports) }

/-- Two instructions are issued and committed at a time, around the end of the array,
and a flush removes the last two. -/
def dualIssue : List (Input (runCfg true 1 0) Nat) :=
  let idle := Input.idle (runCfg true 1 0)
  [idle.issue [10, 11] false, (idle.issue [12] false).writeBack [0, 1],
    (idle.writeBack [2]).commit 2, (idle.issue [13, 14] false).commit 1,
    { idle.issue [15] false with flush := true }, idle.issue [16] false]

theorem window_dualIssue :
    Ordered ((windowMachine (runCfg true 1 0) Nat).run dualIssue).1
      ((windowMachine (runCfg true 1 0) Nat).run dualIssue).2 :=
  window_run (by decide +kernel : (windowMachine (runCfg true 1 0) Nat).RunAlong
    (fun s i => Neighbours s.1 i ∧ Regular s.1 i) dualIssue)

example : ((windowMachine (runCfg true 1 0) Nat).run dualIssue).2 =
    { issued := [10, 11, 12, 13, 14, 15, 16]
      left := [(10, .commit), (11, .commit), (12, .commit), (13, .flush), (14, .flush),
        (15, .flush)]
      window := [16] } := by decide +kernel

/-- The last half of a move to two registers is issued without the first half, behind an
instruction that is committed before the last half is written back. -/
def lastHalf : List (Input (runCfg false 0 0) Nat) :=
  let idle := Input.idle (runCfg false 0 0)
  [idle.issue [10] false, (idle.issue [11] true).writeBack [0], idle.commit 1,
    idle.writeBack [1], idle.commit 1, idle.commit 1]

/-- Two of three commit ports are acknowledged in one cycle. -/
def threePorts : List (Input (runCfg false 1 2) Nat) :=
  let idle := Input.idle (runCfg false 1 2)
  [idle.issue [10] false, (idle.issue [11] false).writeBack [0], idle.writeBack [1],
    idle.commit 2]

theorem not_windowed {s : State cfg ι} (apart : s.issuePointerQ ≠ s.commitPointerQ 0)
    (empty : (s.memQ (s.commitPointerQ 0)).issued = false) (h : History ι) :
    ¬Windowed s h := by
  intro windowed
  rcases Nat.eq_zero_or_pos h.window.length with none | some_
  · refine apart ?_
    rw [windowed.pointer, none, Ring.slot_zero]
  · have issued := (windowed.issued (s.commitPointerQ 0)).mpr ⟨0, some_, Ring.slot_zero _⟩
    rw [empty] at issued
    exact Bool.false_ne_true issued

/-- The instruction below the lone half is committed twice, and the commit pointer
passes the issue pointer; with three ports the commit pointer stays behind. -/
theorem window_lost :
    ((windowMachine (runCfg false 0 0) Nat).RunAlong (fun s i => Neighbours s.1 i) lastHalf ∧
      ((windowMachine (runCfg false 0 0) Nat).run lastHalf).2.left =
        [(10, .commit), (11, .commit), (10, .commit)] ∧
      ∀ h, ¬Ordered ((windowMachine (runCfg false 0 0) Nat).run lastHalf).1 h) ∧
    (windowMachine (runCfg false 1 2) Nat).RunAlong (fun s i => Neighbours s.1 i) threePorts ∧
      ∀ h, ¬Ordered ((windowMachine (runCfg false 1 2) Nat).run threePorts).1 h :=
  ⟨⟨by decide +kernel, by decide +kernel,
      fun h ordered => not_windowed (by decide +kernel) (by decide +kernel) h ordered.windowed⟩,
    by decide +kernel,
    fun h ordered => not_windowed (by decide +kernel) (by decide +kernel) h ordered.windowed⟩

end Cva6Hpd.Scoreboard
