import Cva6Hpd.Scoreboard.Entries

/-!
# Moves to two registers

The two halves of a move to two registers share one completion: the write-back of the last half
validates its entry and the entry in front of it. The place in front is the identifier less one
in eight bits, which is the predecessor around the array only for some identifiers.
-/

namespace Cva6Hpd.Scoreboard

open Cva6Hpd.Hw
open Cva6Hpd.Common

universe u

variable {cfg : Cfg} {ι : Type u}

/-! ## The entry in front -/

/-- The entry in front of another one, around the array. -/
def predecessor (id : cfg.TransId) : cfg.TransId := Ring.slot id (cfg.nrSbEntries - 1)

theorem predecessor_ne (id : cfg.TransId) : predecessor id ≠ id := by
  have several := cfg.two_le_entries
  exact Ring.slot_ne_head id (by omega) (by omega)

theorem predecessor_of_pos {id : cfg.TransId} (positive : 0 < id.val) :
    (predecessor id).val = id.val - 1 := by
  have bound := id.isLt
  have turn : id.val + (cfg.nrSbEntries - 1) = id.val - 1 + cfg.nrSbEntries := by omega
  rw [predecessor, Ring.slot, Fin.val_ofNat, turn, Nat.add_mod_right, Nat.mod_eq_of_lt (by omega)]

/-- The index of eight bits is the predecessor. -/
def Indexed (id : cfg.TransId) : Prop := 0 < id.val ∧ id.val < 2 ^ 8

instance decidableIndexed (id : cfg.TransId) : Decidable (Indexed id) :=
  inferInstanceAs (Decidable (_ ∧ _))

theorem belowIndex_eq_iff (id : cfg.TransId) :
    belowIndex id = some (predecessor id) ↔ Indexed id := by
  constructor
  · intro below
    rw [belowIndex] at below
    split at below
    · next nonzero =>
        have positive : 0 < id.val := nonzero.trans_le (Nat.mod_le _ _)
        have value := congrArg Fin.val (Option.some.inj below)
        rw [predecessor_of_pos positive] at value
        have small : id.val % 2 ^ 8 = id.val := by
          change id.val % 2 ^ 8 - 1 = id.val - 1 at value
          omega
        exact ⟨positive, small ▸ Nat.mod_lt _ (Nat.two_pow_pos 8)⟩
    · contradiction
  · rintro ⟨positive, small⟩
    have kept : id.val % 2 ^ 8 = id.val := Nat.mod_eq_of_lt small
    rw [belowIndex, if_pos (kept.symm ▸ positive)]
    apply congrArg some
    apply Fin.ext
    rw [predecessor_of_pos positive]
    exact congrArg (· - 1) kept

/-! ## One write-back -/

section WriteBack

variable {s : State cfg ι} {i : Input cfg ι} {mem : Mem cfg ι} {port : Fin cfg.nrWbPorts}

/-- The port writes back an instruction that is in issue. -/
def writesBack (s : State cfg ι) (i : Input cfg ι) (port : Fin cfg.nrWbPorts) : Bool :=
  i.wtValid port && (s.memQ (i.transId port)).issued

theorem modify_valid (target entry : cfg.TransId) (valid : Bool) :
    (modify mem target (SbMem.setValid valid) entry).sbe.valid =
      if entry = target then valid else (mem entry).sbe.valid := by
  rw [modify]
  split
  · next same =>
      rw [same, Function.update_self]
      rfl
  · next other => rw [Function.update_of_ne other]

theorem wbValid_lastOfPair {id : cfg.TransId} (last : (s.memQ id).lastOfPair = true)
    (entry : cfg.TransId) :
    (wbValid s mem id entry).sbe.valid =
      ((mem entry).sbe.valid || decide (entry = id) || decide (belowIndex id = some entry)) := by
  simp only [SbMem.lastOfPair, Bool.and_eq_true] at last
  rcases last with ⟨⟨double, half⟩, final⟩
  rw [wbValid, if_pos (by rw [double, half, Bool.and_self]), if_pos final]
  cases below : belowIndex id with
  | none =>
      simp only [modify_valid, reduceCtorEq, decide_false, Bool.or_false]
      by_cases own : entry = id <;> simp [own]
  | some place =>
      simp only [modify_valid, Option.some.injEq]
      by_cases front : entry = place
      · simp [front]
      · by_cases own : entry = id <;> simp [own, front, Ne.symm front, eq_comm]

/-- A write-back leaves the entries that it does not address. -/
theorem wbValid_of_ne {id entry : cfg.TransId} (own : entry ≠ id)
    (front : (s.memQ id).lastOfPair = true → belowIndex id ≠ some entry) :
    (wbValid s mem id entry).sbe.valid = (mem entry).sbe.valid := by
  by_cases last : (s.memQ id).lastOfPair = true
  · rw [wbValid_lastOfPair last, decide_eq_false own, decide_eq_false (front last),
      Bool.or_false, Bool.or_false]
  · rw [wbValid]
    split
    · next double =>
        split
        · next final =>
            refine absurd ?_ last
            rw [SbMem.lastOfPair, double, final, Bool.and_self]
        · rw [modify_valid, if_neg own]
    · rw [modify_valid, if_neg own]

theorem writeBack_valid (entry : cfg.TransId) :
    (writeBack s i mem port entry).sbe.valid =
      if writesBack s i port then (wbValid s mem (i.transId port) entry).sbe.valid
      else (mem entry).sbe.valid := by
  rw [writeBack, ← writesBack]
  split
  · exact modify_field (fun entry => entry.sbe.valid) (by intro; rfl) _ _
  · rfl

/-- The port's turn validates the instruction that is written back and its predecessor, and
no other entry. -/
def CompletesPair (s : State cfg ι) (i : Input cfg ι) (mem : Mem cfg ι)
    (port : Fin cfg.nrWbPorts) : Prop :=
  ∀ entry, (writeBack s i mem port entry).sbe.valid =
    ((mem entry).sbe.valid || decide (entry = i.transId port)
      || decide (entry = predecessor (i.transId port)))

instance decidableCompletesPair : Decidable (CompletesPair s i mem port) :=
  inferInstanceAs (Decidable (∀ _, _ = _))

theorem completesPair_iff (writes : writesBack s i port = true)
    (last : (s.memQ (i.transId port)).lastOfPair = true)
    (waiting : (mem (predecessor (i.transId port))).sbe.valid = false) :
    CompletesPair s i mem port ↔ Indexed (i.transId port) := by
  rw [← belowIndex_eq_iff]
  constructor
  · intro completes
    have front := completes (predecessor (i.transId port))
    rw [writeBack_valid, if_pos writes, wbValid_lastOfPair last, waiting,
      decide_eq_false (predecessor_ne _), decide_eq_true rfl] at front
    simpa using front
  · intro below entry
    rw [writeBack_valid, if_pos writes, wbValid_lastOfPair last, below]
    simp only [Option.some.injEq, eq_comm]

/-- The port writes back the entry, or validates it as the first half of what it writes back. -/
def Touches (s : State cfg ι) (i : Input cfg ι) (port : Fin cfg.nrWbPorts)
    (entry : cfg.TransId) : Prop :=
  writesBack s i port = true ∧ (i.transId port = entry ∨
    (s.memQ (i.transId port)).lastOfPair = true ∧ belowIndex (i.transId port) = some entry)

instance decidableTouches (entry : cfg.TransId) : Decidable (Touches s i port entry) :=
  inferInstanceAs (Decidable (_ ∧ (_ ∨ _ ∧ _)))

theorem writeBack_untouched {entry : cfg.TransId} (untouched : ¬Touches s i port entry) :
    (writeBack s i mem port entry).sbe.valid = (mem entry).sbe.valid := by
  rw [writeBack_valid]
  split
  · next writes =>
      apply wbValid_of_ne
      · intro own
        exact untouched ⟨writes, .inl own.symm⟩
      · intro last front
        exact untouched ⟨writes, .inr ⟨last, front⟩⟩
  · rfl

theorem foldl_writeBack_untouched {entry : cfg.TransId} (ports : List (Fin cfg.nrWbPorts))
    (untouched : ∀ port ∈ ports, ¬Touches s i port entry) :
    (ports.foldl (writeBack s i) mem entry).sbe.valid = (mem entry).sbe.valid := by
  induction ports generalizing mem with
  | nil => rfl
  | cons port ports inductionHypothesis =>
      rw [List.foldl_cons, inductionHypothesis fun later member =>
        untouched later (List.mem_cons_of_mem _ member),
        writeBack_untouched (untouched port List.mem_cons_self)]

end WriteBack

/-! ## Cycles and runs -/

section Cycle

variable {s : State cfg ι} {i : Input cfg ι} {entry id : cfg.TransId}

/-- The entry waits for a functional unit, and in this cycle it is neither replaced, nor
retired, nor flushed. -/
structure Resident (s : State cfg ι) (i : Input cfg ι) (entry : cfg.TransId) : Prop where
  running : i.flush = false
  computes : (s.memQ entry).sbe.fu ≠ .none
  kept : ∀ port, issues s i port = true → issuePointer s port.val ≠ entry
  stays : ∀ port, i.commitAck port = true → s.commitPointerQ port ≠ entry

/-- Both halves of the pair stay, and no port touches them. -/
structure LeftAlone (id : cfg.TransId) (s : State cfg ι) (i : Input cfg ι) : Prop where
  last : Resident s i id
  first : Resident s i (predecessor id)
  lastUntouched : ∀ port, ¬Touches s i port id
  firstUntouched : ∀ port, ¬Touches s i port (predecessor id)

/-- The port writes back the last half of a pair that stays, and whose first half waits; no
other port touches the pair. -/
structure Completes (s : State cfg ι) (i : Input cfg ι) (port : Fin cfg.nrWbPorts) : Prop where
  last : Resident s i (i.transId port)
  first : Resident s i (predecessor (i.transId port))
  waits : (s.memQ (predecessor (i.transId port))).sbe.valid = false
  lastUntouched : ∀ other, other ≠ port → ¬Touches s i other (i.transId port)
  firstUntouched : ∀ other, other ≠ port → ¬Touches s i other (predecessor (i.transId port))

instance decidableResident : Decidable (Resident s i entry) :=
  decidable_of_iff (i.flush = false ∧ (s.memQ entry).sbe.fu ≠ .none ∧
      (∀ port, issues s i port = true → issuePointer s port.val ≠ entry) ∧
      ∀ port, i.commitAck port = true → s.commitPointerQ port ≠ entry)
    ⟨fun parts => ⟨parts.1, parts.2.1, parts.2.2.1, parts.2.2.2⟩,
      fun resident => ⟨resident.1, resident.2, resident.3, resident.4⟩⟩

instance decidableCompletes {port : Fin cfg.nrWbPorts} : Decidable (Completes s i port) :=
  decidable_of_iff (Resident s i (i.transId port) ∧ Resident s i (predecessor (i.transId port)) ∧
      (s.memQ (predecessor (i.transId port))).sbe.valid = false ∧
      (∀ other, other ≠ port → ¬Touches s i other (i.transId port)) ∧
      ∀ other, other ≠ port → ¬Touches s i other (predecessor (i.transId port)))
    ⟨fun parts => ⟨parts.1, parts.2.1, parts.2.2.1, parts.2.2.2.1, parts.2.2.2.2⟩,
      fun completes => ⟨completes.1, completes.2, completes.3, completes.4, completes.5⟩⟩

/-- The commit ports show both halves as valid. -/
def PairValid (s : State cfg ι) (id : cfg.TransId) : Prop :=
  (s.memQ id).sbe.valid = true ∧ (s.memQ (predecessor id)).sbe.valid = true

instance decidablePairValid : Decidable (PairValid s id) :=
  inferInstanceAs (Decidable (_ ∧ _))

theorem Resident.step_valid (resident : Resident s i entry) :
    ((step s i).memQ entry).sbe.valid =
      (writeBacks s i (fuNone s (issueMem s i)) entry).sbe.valid := by
  change (xRdMem i (memD s i) entry).sbe.valid = _
  have committed : commit s i (executed s i) entry = executed s i entry :=
    writes_of_ne fun port _ => resident.stays port
  rw [(xRdMem_fields _ _).2.2, memD_running resident.running, committed, executed, cancel]
  split
  · exact modify_field (fun entry => entry.sbe.valid) (by intro; rfl) _ _
  · rfl

theorem Resident.fuNone_valid (resident : Resident s i entry) :
    (fuNone s (issueMem s i) entry).sbe.valid = (s.memQ entry).sbe.valid := by
  have old : issueMem s i entry = s.memQ entry :=
    writes_of_ne fun port _ => resident.kept port
  rw [fuNone, if_neg (fun none => resident.computes none.1), old]

theorem Resident.step_untouched (resident : Resident s i entry)
    (untouched : ∀ port, ¬Touches s i port entry) :
    ((step s i).memQ entry).sbe.valid = (s.memQ entry).sbe.valid := by
  rw [resident.step_valid, writeBacks,
    foldl_writeBack_untouched _ fun port _ => untouched port, resident.fuNone_valid]

theorem LeftAlone.step (alone : LeftAlone id s i) :
    PairValid (Scoreboard.step s i) id ↔ PairValid s id := by
  rw [PairValid, PairValid, alone.last.step_untouched alone.lastUntouched,
    alone.first.step_untouched alone.firstUntouched]

theorem Completes.step {port : Fin cfg.nrWbPorts} (completes : Completes s i port)
    (writes : writesBack s i port = true)
    (last : (s.memQ (i.transId port)).lastOfPair = true) :
    PairValid (Scoreboard.step s i) (i.transId port) ↔ Indexed (i.transId port) := by
  obtain ⟨before, behind, ports⟩ := List.append_of_mem (List.mem_finRange port)
  have nodup : (before ++ port :: behind).Nodup := ports ▸ List.nodup_finRange _
  have others (other : Fin cfg.nrWbPorts) (member : other ∈ before ∨ other ∈ behind) :
      other ≠ port := by
    rintro rfl
    rw [List.nodup_middle, List.nodup_cons, List.mem_append] at nodup
    exact nodup.1 member
  have early {entry : cfg.TransId} (untouched : ∀ other, other ≠ port → ¬Touches s i other entry)
      (resident : Resident s i entry) :
      (before.foldl (writeBack s i) (fuNone s (issueMem s i)) entry).sbe.valid =
        (s.memQ entry).sbe.valid := by
    rw [foldl_writeBack_untouched before fun other member =>
      untouched other (others other (.inl member)), resident.fuNone_valid]
  have turn {entry : cfg.TransId} (untouched : ∀ other, other ≠ port → ¬Touches s i other entry)
      (resident : Resident s i entry) :
      ((Scoreboard.step s i).memQ entry).sbe.valid =
        ((s.memQ entry).sbe.valid || decide (entry = i.transId port)
          || decide (belowIndex (i.transId port) = some entry)) := by
    rw [resident.step_valid, writeBacks, ports, List.foldl_append, List.foldl_cons,
      foldl_writeBack_untouched behind fun other member =>
        untouched other (others other (.inr member)), writeBack_valid, if_pos writes,
      wbValid_lastOfPair last, early untouched resident]
  rw [← belowIndex_eq_iff, PairValid, turn completes.lastUntouched completes.last,
    turn completes.firstUntouched completes.first, completes.waits,
    decide_eq_false (predecessor_ne _)]
  simp

end Cycle

/-- The write-back of a last half completes its pair, and the pair stays complete until it
leaves, if and only if the index of eight bits is the predecessor. -/
theorem pair_completed_iff [Inhabited ι] {s : State cfg ι} {i : Input cfg ι}
    {port : Fin cfg.nrWbPorts} (writes : writesBack s i port = true)
    (last : (s.memQ (i.transId port)).lastOfPair = true) :
    (∀ mem : Mem cfg ι, (mem (predecessor (i.transId port))).sbe.valid = false →
      (CompletesPair s i mem port ↔ Indexed (i.transId port))) ∧
    (Completes s i port → ∀ later,
      (machine cfg ι).Along (LeftAlone (i.transId port)) (step s i) later →
        (PairValid ((machine cfg ι).runFrom (step s i) later) (i.transId port) ↔
          Indexed (i.transId port))) := by
  constructor
  · intro mem waiting
    exact completesPair_iff writes last waiting
  · intro completes later alone
    have kept (t : State cfg ι) (later : List (Input cfg ι))
        (alone : (machine cfg ι).Along (LeftAlone (i.transId port)) t later) :
        PairValid ((machine cfg ι).runFrom t later) (i.transId port) ↔
          PairValid t (i.transId port) := by
      induction later generalizing t with
      | nil => rfl
      | cons next later inductionHypothesis =>
          exact (inductionHypothesis _ alone.2).trans alone.1.step
    exact (kept _ later alone).trans (completes.step writes last)

/-! ## Pairs in four entries -/

/-- The cycle also issues a half of a move to two registers. -/
def Input.issueHalf {cfg : Cfg} (i : Input cfg Nat) (instr : Nat) (last : Bool) :
    Input cfg Nat :=
  { i.issue [instr] true with
    decodedInstr := fun _ => { decoded cfg instr true with isLastMacroInstr := last } }

/-- A pair behind `ahead` instructions, which commit in front of it. -/
def pairBehind (ahead : Nat) : List (Input (runCfg false 1 0) Nat) :=
  let idle := Input.idle (runCfg false 1 0)
  (List.range ahead).flatMap
      (fun k => [idle.issue [10 + k] false, idle.writeBack [k], idle.commit 1]) ++
    [idle.issueHalf 20 false, idle.issueHalf 21 true, idle.writeBack [ahead]]

/-- The completion of the pair. -/
def completion (ahead : Nat) : Input (runCfg false 1 0) Nat :=
  (Input.idle (runCfg false 1 0)).writeBack [ahead + 1]

theorem pair_completed_inside :
    PairValid (step ((machine (runCfg false 1 0) Nat).run (pairBehind 0)) (completion 0)) 1 :=
  have writes : writesBack ((machine (runCfg false 1 0) Nat).run (pairBehind 0)) (completion 0)
      (Cfg.fluWb _) = true := by
    decide +kernel
  ((pair_completed_iff writes (by decide +kernel)).2 (by decide +kernel) [] trivial).mpr
    (by decide +kernel)

/-- Behind three instructions, the first half is in the last entry and the last half in entry
zero: its completion leaves the first half without a valid result. -/
theorem pair_not_completed_around :
    let s := (machine (runCfg false 1 0) Nat).run (pairBehind 3)
    writesBack s (completion 3) (Cfg.fluWb _) = true ∧ (s.memQ 0).lastOfPair = true ∧
      Completes s (completion 3) (Cfg.fluWb _) ∧
      ¬CompletesPair s (completion 3) s.memQ (Cfg.fluWb _) ∧
      ((step s (completion 3)).memQ 0).sbe.valid = true ∧
      ((step s (completion 3)).memQ 3).sbe.valid = false ∧
      ¬PairValid (step s (completion 3)) 0 := by
  decide +kernel

end Cva6Hpd.Scoreboard
