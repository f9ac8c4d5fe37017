import Cva6Hpd.Frontend.QueueBlock
import Mathlib.Data.List.Forall2

/-!
# The order of the instruction queue

The instructions that the queue delivers are those that it accepted, in their order and each
once, with the addresses and the targets with which they were pushed. A block is accepted up to
the first instruction that does not fit, and the replay address is that of this instruction.
-/

namespace Cva6Hpd.Frontend.InstrQueue

open Common Common.RoundRobin
open Hw

/-! ## What is delivered -/

section Delivered

variable {cfg : Cfg} {n : Nat} [NeZero n] {s : State cfg n} {i : Input cfg n}
  {waiting : List (Item cfg)}

/-- An entry of a port shows an instruction; its target matters when the instruction is predicted
to be taken. -/
def Shows (port : Fin 2) (entry : FetchEntry cfg) (x : Item cfg) : Prop :=
  entry = fetchEntry port x.addr x.data entry.predictAddress ∧
    (x.isCf = true → entry.predictAddress = x.predict)

instance decidableShows (port : Fin 2) (entry : FetchEntry cfg) (x : Item cfg) :
    Decidable (Shows port entry x) :=
  inferInstanceAs (Decidable (_ ∧ _))

/-- The number of entries that are taken, the second only with the first. -/
def firedCount (s : State cfg n) (i : Input cfg n) : Nat :=
  if fetchEntryFire s i 0 then if fetchEntryFire s i 1 then 2 else 1 else 0

theorem val_idxDs (port : Nat) : (idxDs s port).val = (s.idxDsQ.val + port) % n := by
  rw [idxDs, Fin.val_add, Fin.val_ofNat, Nat.add_mod_mod]

theorem Holds.head?_contents (holds : Holds s waiting) {port : Nat} (bound : port < n) :
    (s.instrData (idxDs s port)).contents.head? = (waiting.map Item.data)[port]? := by
  rw [holds.contents, val_idxDs, head?_share bound]

theorem Holds.empty_iff (holds : Holds s waiting) {port : Nat} (bound : port < n) :
    instrQueueEmpty s (idxDs s port) = true ↔ waiting.length ≤ port := by
  rw [instrQueueEmpty, FifoV3.empty_eq_true_iff, ← List.head?_eq_none_iff,
    holds.head?_contents bound, List.getElem?_eq_none_iff, List.length_map]

theorem Holds.instrDataOut_eq (holds : Holds s waiting) {port : Nat} (bound : port < n)
    {x : Item cfg} (shown : waiting[port]? = some x) : instrDataOut s port = x.data := by
  have head := holds.head?_contents bound
  rw [List.getElem?_map, shown, Option.map_some] at head
  exact FifoV3.dataOut_eq (List.eq_cons_of_mem_head? head)

theorem Holds.isCf_eq (holds : Holds s waiting) {port : Nat} (bound : port < n) {x : Item cfg}
    (shown : waiting[port]? = some x) : fetchEntryIsCf s port = x.isCf := by
  rw [fetchEntryIsCf, holds.instrDataOut_eq bound shown, Item.isCf]

/-- The address queue shows the target of the oldest control flow. -/
theorem Holds.addressOut_eq (holds : Holds s waiting) {x : Item cfg}
    (first : (waiting.filter Item.isCf).head? = some x) : addressOut s = x.predict := by
  apply FifoV3.dataOut_eq
  apply List.eq_cons_of_mem_head?
  rw [holds.addresses, List.head?_map, first]
  rfl

theorem Holds.valid0_iff (holds : Holds s waiting) :
    fetchEntryValidO s 0 = true ↔ waiting ≠ [] := by
  rw [fetchEntryValidO, if_pos rfl, Bool.not_eq_true', Bits.all_eq_false_iff]
  constructor
  · rintro ⟨q, filled⟩ rfl
    rw [instrQueueEmpty, ← Bool.not_eq_true, FifoV3.empty_eq_true_iff, holds.contents] at filled
    exact filled rfl
  · intro some
    refine ⟨idxDs s 0, ?_⟩
    rw [← Bool.not_eq_true, holds.empty_iff (NeZero.pos n), Nat.le_zero,
      List.length_eq_zero_iff]
    exact some

/-- The second port shows the second instruction, unless two control flows would be taken. -/
theorem Holds.valid1_iff (holds : Holds s waiting) (wide : cfg.superscalarEn = true → 2 ≤ n) :
    fetchEntryValidO s 1 = true ↔
      cfg.superscalarEn = true ∧ ∃ x y rest, waiting = x :: y :: rest ∧
        ¬(x.isCf = true ∧ y.isCf = true) := by
  rw [fetchEntryValidO, if_neg (by decide)]
  simp only [Bool.and_eq_true, Bool.not_eq_true']
  rw [and_assoc]
  refine and_congr_right fun superscalar => ?_
  have two := wide superscalar
  rw [← Bool.not_eq_true, holds.empty_iff two, ← Bool.not_eq_true, Bool.and_eq_true]
  constructor
  · rintro ⟨filled, apart⟩
    obtain ⟨x, y, rest, rfl⟩ : ∃ x y rest, waiting = x :: y :: rest := by
      match waiting, filled with
      | [], filled => exact absurd (Nat.zero_le 1) filled
      | [_], filled => exact absurd (Nat.le_refl 1) filled
      | x :: y :: rest, _ => exact ⟨x, y, rest, rfl⟩
    rw [holds.isCf_eq (by omega) rfl, holds.isCf_eq two rfl] at apart
    exact ⟨x, y, rest, rfl, apart⟩
  · rintro ⟨x, y, rest, rfl, apart⟩
    rw [holds.isCf_eq (by omega) rfl, holds.isCf_eq two rfl]
    exact ⟨by simp, apart⟩

/-- The program counter behind the first instruction. -/
theorem Holds.pcJ_one {x : Item cfg} {rest : List (Item cfg)} (holds : Holds s (x :: rest)) :
    pcJ s 1 = x.next := by
  have start : s.pcQ = x.addr := holds.consecutive.1.symm
  rw [pcJ, holds.isCf_eq (NeZero.pos n) rfl, holds.instrDataOut_eq (NeZero.pos n) rfl, Item.next]
  cases isCf : x.isCf with
  | true => exact holds.addressOut_eq (by simp [isCf])
  | false => simp only [pcJ, start, Bool.false_eq_true, if_false]

/-- The program counter behind two instructions, of which one is a control flow at most. -/
theorem Holds.pcJ_two {x y : Item cfg} {rest : List (Item cfg)} (holds : Holds s (x :: y :: rest))
    (two : 2 ≤ n) (apart : ¬(x.isCf = true ∧ y.isCf = true)) : pcJ s 2 = y.next := by
  have start : pcJ s 1 = y.addr := holds.pcJ_one.trans holds.consecutive.2.1.symm
  rw [pcJ, holds.isCf_eq two rfl, holds.instrDataOut_eq two rfl, Item.next, start]
  cases isCf : y.isCf with
  | true =>
    have other : x.isCf = false := by
      rw [← Bool.not_eq_true]
      exact fun hit => apart ⟨hit, isCf⟩
    exact holds.addressOut_eq (by simp [isCf, other])
  | false => rfl

theorem Holds.shows_first {x : Item cfg} {rest : List (Item cfg)} (holds : Holds s (x :: rest)) :
    Shows 0 (fetchEntryO s 0) x := by
  have start : s.pcQ = x.addr := holds.consecutive.1.symm
  have data := @Holds.instrDataOut_eq _ _ _ _ _ holds 0 (NeZero.pos n) _ rfl
  have entry : fetchEntryO s 0 = fetchEntry0 x.addr x.data (addressOut s) := by
    rw [← start, ← data]
    rfl
  rw [entry]
  exact ⟨rfl, fun isCf => holds.addressOut_eq (by simp [isCf])⟩

theorem Holds.shows_second {x y : Item cfg} {rest : List (Item cfg)}
    (holds : Holds s (x :: y :: rest)) (two : 2 ≤ n)
    (apart : ¬(x.isCf = true ∧ y.isCf = true)) : Shows 1 (fetchEntryO s 1) y := by
  have start : pcJ s 1 = y.addr := holds.pcJ_one.trans holds.consecutive.2.1.symm
  have data := holds.instrDataOut_eq two rfl
  have entry : fetchEntryO s 1 = fetchEntry1 y.addr y.data (addressOut s) := by
    rw [← start, ← data]
    rfl
  rw [entry]
  refine ⟨rfl, fun isCf => holds.addressOut_eq ?_⟩
  have other : x.isCf = false := by
    rw [← Bool.not_eq_true]
    exact fun hit => apart ⟨hit, isCf⟩
  simp [isCf, other]

/-- What is taken: nothing, the first instruction, or the first two. -/
inductive Fires (s : State cfg n) (i : Input cfg n) (waiting : List (Item cfg)) : Prop where
  | none (first : fetchEntryFire s i 0 = false) (second : fetchEntryFire s i 1 = false)
  | one (x : Item cfg) (rest : List (Item cfg)) (shown : waiting = x :: rest)
      (first : fetchEntryFire s i 0 = true) (second : fetchEntryFire s i 1 = false)
  | two (x y : Item cfg) (rest : List (Item cfg)) (shown : waiting = x :: y :: rest)
      (superscalar : cfg.superscalarEn = true) (apart : ¬(x.isCf = true ∧ y.isCf = true))
      (first : fetchEntryFire s i 0 = true) (second : fetchEntryFire s i 1 = true)

theorem Holds.fires (holds : Holds s waiting) (wide : cfg.superscalarEn = true → 2 ≤ n)
    (ready : i.fetchEntryReady 1 = true → i.fetchEntryReady 0 = true) : Fires s i waiting := by
  cases first : fetchEntryFire s i 0 with
  | false =>
    refine .none first ?_
    rw [← Bool.not_eq_true]
    intro second
    rw [fetchEntryFire, Bool.and_eq_true, holds.valid1_iff wide] at second
    obtain ⟨⟨-, x, y, rest, rfl, -⟩, taken⟩ := second
    rw [fetchEntryFire, holds.valid0_iff.mpr (List.cons_ne_nil x _), ready taken] at first
    contradiction
  | true =>
    cases second : fetchEntryFire s i 1 with
    | false =>
      have some := first
      rw [fetchEntryFire, Bool.and_eq_true, holds.valid0_iff] at some
      obtain ⟨x, rest, shown⟩ := List.exists_cons_of_ne_nil some.1
      exact .one x rest shown first second
    | true =>
      have both := second
      rw [fetchEntryFire, Bool.and_eq_true, holds.valid1_iff wide] at both
      obtain ⟨⟨superscalar, x, y, rest, shown, apart⟩, -⟩ := both
      exact .two x y rest shown superscalar apart first second

theorem Fires.firedCount_le (fires : Fires s i waiting) : firedCount s i ≤ waiting.length := by
  rw [firedCount]
  cases fires with
  | none first second => simp [first]
  | one x rest shown first second => simp [first, second, shown]
  | two x y rest shown superscalar apart first second => simp [first, second, shown]

theorem Fires.firedCount_le_turn (fires : Fires s i waiting)
    (wide : cfg.superscalarEn = true → 2 ≤ n) : firedCount s i ≤ n := by
  rw [firedCount]
  cases fires with
  | none first second => simp [first]
  | one x rest shown first second =>
    simp only [first, second, if_true, Bool.false_eq_true, if_false]
    exact NeZero.pos n
  | two x y rest shown superscalar apart first second =>
    simpa [first, second] using wide superscalar

theorem idxDsD_eq : idxDsD s i = idxDs s (firedCount s i) := by
  rw [idxDsD, firedCount]
  cases fetchEntryFire s i 0 with
  | false => simp [idxDs]
  | true => cases fetchEntryFire s i 1 <;> rfl

theorem Fires.popInstr_iff (fires : Fires s i waiting) (wide : cfg.superscalarEn = true → 2 ≤ n)
    (q : Fin n) :
    popInstr s i q = true ↔ ∃ j < firedCount s i, (s.idxDsQ.val + j) % n = q.val := by
  have place (j : Nat) : (s.idxDsQ.val + j) % n = q.val ↔ q = idxDs s j := by
    rw [← val_idxDs, Fin.ext_iff, eq_comm]
  have apart : cfg.superscalarEn = true → idxDs s 0 ≠ idxDs s 1 := by
    intro superscalar same
    have two := wide superscalar
    have equal := congrArg Fin.val same
    rw [val_idxDs, val_idxDs] at equal
    exact lane_ne (NeZero.pos n) two Nat.zero_ne_one equal
  simp only [place, popInstr, firedCount]
  cases fires with
  | none first second => simp [first, second]
  | one x rest shown first second =>
    simp only [first, second, Bool.and_true, if_true, Bool.false_eq_true, if_false, Nat.lt_one_iff,
      exists_eq_left]
    split
    · rename_i other
      simp only [Bool.and_eq_true, decide_eq_true_eq] at other
      rw [other.2]
      simpa using (apart other.1).symm
    · simp
  | two x y rest shown superscalar distinct first second =>
    have range (j : Nat) : j < 2 ↔ j = 0 ∨ j = 1 := by omega
    simp only [first, second, superscalar, Bool.true_and, Bool.and_true, if_true, range,
      or_and_right, exists_or, exists_eq_left, decide_eq_true_eq]
    by_cases other : q = idxDs s 1
    · simp [other]
    · simp [other]

/-- Where the program counter goes when the address is not reset. -/
theorem Holds.pcNext_eq (holds : Holds s waiting) (wide : cfg.superscalarEn = true → 2 ≤ n)
    (fires : Fires s i waiting) :
    pcNext s i = after s.pcQ (waiting.take (firedCount s i)) := by
  rw [pcNext, firedCount]
  cases fires with
  | none first second => simp [first]
  | one x rest shown first second =>
    subst shown
    simp only [first, second, if_true, Bool.false_eq_true, if_false]
    exact holds.pcJ_one
  | two x y rest shown superscalar apart first second =>
    subst shown
    simp only [first, second, if_true]
    exact holds.pcJ_two (wide superscalar) apart

theorem Holds.popAddress_eq (holds : Holds s waiting) (wide : cfg.superscalarEn = true → 2 ≤ n)
    (fires : Fires s i waiting) :
    (if popAddress s i then s.address.contents.tail else s.address.contents) =
      ((waiting.drop (firedCount s i)).filter Item.isCf).map Item.predict := by
  rw [holds.addresses, popAddress, firedCount]
  cases fires with
  | none first second => simp [first, second]
  | one x rest shown first second =>
    subst shown
    have flow := @Holds.isCf_eq _ _ _ _ _ holds 0 (NeZero.pos n) _ rfl
    cases isCf : x.isCf <;> simp [first, second, flow, isCf]
  | two x y rest shown superscalar apart first second =>
    subst shown
    have flow := @Holds.isCf_eq _ _ _ _ _ holds 0 (NeZero.pos n) _ rfl
    have flow' := @Holds.isCf_eq _ _ _ _ _ holds 1 (wide superscalar) _ rfl
    cases isCf : x.isCf with
    | true =>
      have other : y.isCf = false := by
        rw [← Bool.not_eq_true]
        exact fun hit => apart ⟨isCf, hit⟩
      simp [first, second, flow, flow', isCf, other]
    | false => cases isCf' : y.isCf <;> simp [first, second, flow, flow', isCf, isCf']

/-! ## One clock edge -/

/-- The instructions that wait behind a clock edge, the new ones counted from a start. -/
def nextWaiting (s : State cfg n) (i : Input cfg n) (waiting : List (Item cfg))
    (start : BitVec cfg.vlen) : List (Item cfg) :=
  waiting.drop (firedCount s i) ++ stamp start (consumedItems s i)

/-- A flush leaves nothing behind. -/
theorem Holds.step_flush (holds : Holds s waiting) (flush : i.flush = true) :
    Holds (step s i) [] where
  formed q := (holds.formed q).step _ _ _ _
  addressFormed := holds.addressFormed.step _ _ _ _
  contents q := by
    simp only [step, flush, FifoV3.contents_flush]
    rfl
  idxIs := by simp [step, flush]
  addresses := by
    simp only [step, flush, FifoV3.contents_flush]
    rfl
  consecutive := trivial

/-- Without a flush the queues lose what is taken and get what is accepted. -/
theorem Holds.step (holds : Holds s waiting) (wide : cfg.superscalarEn = true → 2 ≤ n)
    (fires : Fires s i waiting) (flush : i.flush = false) (ordered : i.valid.InOrder)
    {start : BitVec cfg.vlen}
    (consecutive : Consecutive (pcD s i) (nextWaiting s i waiting start)) :
    Holds (step s i) (nextWaiting s i waiting start) where
  formed q := (holds.formed q).step _ _ _ _
  addressFormed := holds.addressFormed.step _ _ _ _
  contents q := by
    have taken := @share_drop _ n q.val s.idxDsQ.val _
      (fires.firedCount_le_turn wide) (waiting.map Item.data)
    have first : (s.idxDsQ.val + firedCount s i) % n ≡ s.idxDsQ.val + firedCount s i [MOD n] :=
      Nat.mod_modEq _ n
    have place : (s.idxDsQ.val + firedCount s i) % n + (waiting.drop (firedCount s i)).length ≡
        s.idxIsQ.val [MOD n] := by
      rw [holds.idxIs, List.length_drop]
      refine (first.add_right _).trans ?_
      rw [Nat.add_assoc, Nat.add_sub_of_le fires.firedCount_le]
      exact (Nat.mod_modEq _ n).symm
    simp only [InstrQueue.step, flush, FifoV3.contents_step _ _ _ (holds.formed q),
      Bool.false_eq_true, if_false, idxDsD_eq, val_idxDs, nextWaiting, List.map_append,
      share_append, List.length_map, map_data_stamp]
    rw [holds.pushed_eq ordered, share_congr place, share_congr first, List.map_drop, taken,
      holds.contents]
    simp only [fires.popInstr_iff wide]
  idxIs := by
    have bound : acceptedCount s i waiting ≤ n := acceptedCount_le.trans length_block_le
    have accepted : (consumedItems s i).length = acceptedCount s i waiting := by
      rw [holds.consumedItems_eq ordered, List.length_take, Nat.min_eq_left acceptedCount_le]
    simp only [InstrQueue.step, flush, Bool.false_eq_true, if_false, idxDsD_eq, val_idxDs, idxIsD,
      Fin.val_add, shamt, Fin.val_ofNat, holds.popcount_eq ordered, holds.idxIs, nextWaiting,
      List.length_append, List.length_drop, length_stamp, accepted]
    rw [← Nat.add_mod, Nat.mod_add_mod]
    congr 1
    have less := fires.firedCount_le
    omega
  addresses := by
    simp only [InstrQueue.step, flush, FifoV3.contents_step _ _ _ holds.addressFormed]
    rw [holds.popAddress_eq wide fires, nextWaiting, List.filter_append, List.map_append,
      predicts_stamp, ← holds.pushedAddress_eq ordered, fullAddress, Bool.and_assoc, Bool.and_self]
  consecutive := consecutive

end Delivered

/-! ## The ledger -/

/-- What was accepted, less what a flush discarded, at the addresses of the frontend and at those
that the queue counts; what was delivered, with its port; the address that is counted for the next
block, and that at which the frontend is expected to fetch it, unless it may be anywhere. -/
structure Ledger (cfg : Cfg) where
  accepted : List (Item cfg)
  counted : List (Item cfg)
  delivered : List (Fin 2 × FetchEntry cfg)
  counter : Option (BitVec cfg.vlen)
  expected : Option (BitVec cfg.vlen)

/-- Nothing was accepted. -/
def Ledger.empty (cfg : Cfg) : Ledger cfg := ⟨[], [], [], none, none⟩

section Ledger

variable {cfg : Cfg} {n : Nat} [NeZero n]

/-- The accepted instructions that were not delivered. -/
def Ledger.waiting (ledger : Ledger cfg) : List (Item cfg) :=
  ledger.accepted.drop ledger.delivered.length

/-- The same instructions where they are counted. -/
def Ledger.countedWaiting (ledger : Ledger cfg) : List (Item cfg) :=
  ledger.counted.drop ledger.delivered.length

/-- The entries that are taken in a cycle. -/
def firedEntries (s : State cfg n) (i : Input cfg n) : List (Fin 2 × FetchEntry cfg) :=
  (Bits.indices (fetchEntryFire s i)).map fun port => (port, fetchEntryO s port)

/-- The address from which the instructions of a block are counted. -/
def countStart (i : Input cfg n) (ledger : Ledger cfg) : BitVec cfg.vlen :=
  ledger.counter.getD (i.addr 0)

/-- The entries of a cycle are delivered and the consumed instructions accepted. The next block
is expected at the replay address, or else where the block leads. -/
def record (s : State cfg n) (i : Input cfg n) (ledger : Ledger cfg) : Ledger cfg where
  accepted :=
    if i.flush then
      ledger.accepted.take (ledger.delivered ++ firedEntries s i).length
    else ledger.accepted ++ consumedItems s i
  counted :=
    if i.flush then
      ledger.counted.take (ledger.delivered ++ firedEntries s i).length
    else ledger.counted ++ stamp (countStart i ledger) (consumedItems s i)
  delivered := ledger.delivered ++ firedEntries s i
  counter :=
    if i.flush then none
    else if i.valid 0 then
      some (after (countStart i ledger) (stamp (countStart i ledger) (consumedItems s i)))
    else ledger.counter
  expected :=
    if i.flush then none
    else if replayO s i then some (replayAddrO s i)
    else if i.valid 0 then some (after (i.addr 0) (block i))
    else ledger.expected

/-- `instr_queue` with its ledger. -/
def recorded (cfg : Cfg) (n : Nat) [NeZero n] : Machine (State cfg n × Ledger cfg) (Input cfg n) :=
  (machine cfg n).withHistory (Ledger.empty cfg) record

/-- Entries with their ports show instructions in order, each once. -/
def ShowInOrder (entries : List (Fin 2 × FetchEntry cfg)) (xs : List (Item cfg)) : Prop :=
  List.Forall₂ (fun entry x => Shows entry.1 entry.2 x) entries xs

/-- The entries that were delivered show the accepted instructions. -/
def DeliveredInOrder (ledger : Ledger cfg) : Prop :=
  ShowInOrder ledger.delivered (ledger.accepted.take ledger.delivered.length)

/-- What a cycle presents to the queue: unless it is flushed the valid ports are the lowest ones,
and the second entry is taken only with the first. -/
structure Presented (i : Input cfg n) : Prop where
  ready : i.fetchEntryReady 1 = true → i.fetchEntryReady 0 = true
  ordered : i.flush = false → i.valid.InOrder

/-- The block also continues where the last one led. -/
structure Orderly (s : State cfg n × Ledger cfg) (i : Input cfg n) : Prop extends Presented i where
  continues : i.flush = false → Consecutive (s.2.expected.getD (i.addr 0)) (block i)

instance decidableDeliveredInOrder (ledger : Ledger cfg) : Decidable (DeliveredInOrder ledger) :=
  inferInstanceAs (Decidable (List.Forall₂ _ _ _))

instance decidableOrderly (s : State cfg n × Ledger cfg) (i : Input cfg n) :
    Decidable (Orderly s i) :=
  decidable_of_iff
    ((i.fetchEntryReady 1 = true → i.fetchEntryReady 0 = true) ∧
      (i.flush = false → i.valid.InOrder) ∧
      (i.flush = false → Consecutive (s.2.expected.getD (i.addr 0)) (block i)))
    ⟨fun ⟨ready, ordered, continues⟩ => ⟨⟨ready, ordered⟩, continues⟩,
      fun orderly => ⟨orderly.ready, orderly.ordered, orderly.continues⟩⟩

/-- What the ports show in a cycle: instructions that wait are presented, and a block is accepted
up to the first instruction that is refused, from which a replay is asked for. -/
structure Sound (s : State cfg n × Ledger cfg) (i : Input cfg n) : Prop where
  valid0 : fetchEntryValidO s.1 0 = true ↔ s.2.waiting ≠ []
  valid1 : fetchEntryValidO s.1 1 = true ↔
    cfg.superscalarEn = true ∧ ∃ x y rest, s.2.waiting = x :: y :: rest ∧
      ¬(x.isCf = true ∧ y.isCf = true)
  accepts : i.flush = false → ∃ refused, block i = consumedItems s.1 i ++ refused ∧
    (replayO s.1 i = true ↔ refused ≠ []) ∧ ∀ x ∈ refused.head?, replayAddrO s.1 i = x.addr

/-- The registers and the ledger agree. -/
structure Keeps (s : State cfg n) (ledger : Ledger cfg) : Prop where
  delivered : ShowInOrder ledger.delivered (ledger.counted.take ledger.delivered.length)
  holds : Holds s ledger.countedWaiting
  fresh : s.resetAddressQ = true → ledger.countedWaiting = []
  counter : ledger.counter =
    if s.resetAddressQ then none else some (after s.pcQ ledger.countedWaiting)

variable {s : State cfg n} {i : Input cfg n} {waiting : List (Item cfg)}

theorem Holds.sound {ledger : Ledger cfg} (holds : Holds s ledger.waiting)
    (wide : cfg.superscalarEn = true → 2 ≤ n) (ordered : i.flush = false → i.valid.InOrder) :
    Sound (s, ledger) i where
  valid0 := holds.valid0_iff
  valid1 := holds.valid1_iff wide
  accepts flush := by
    have lowest := ordered flush
    refine ⟨(block i).drop (acceptedCount s i ledger.waiting), ?_, ?_, ?_⟩
    · rw [holds.consumedItems_eq lowest, List.take_append_drop]
    · rw [holds.replayO_iff lowest, ne_eq, List.drop_eq_nil_iff, Nat.not_le]
    · intro x first
      rw [List.head?_drop] at first
      exact holds.replayAddrO_eq lowest first

theorem Holds.firedEntries_show (holds : Holds s waiting)
    (wide : cfg.superscalarEn = true → 2 ≤ n) (fires : Fires s i waiting) :
    ShowInOrder (firedEntries s i) (waiting.take (firedCount s i)) := by
  have range : List.finRange 2 = [0, 1] := rfl
  rw [ShowInOrder, firedEntries, Bits.indices, range, firedCount]
  cases fires with
  | none first second => simp [first, second]
  | one x rest shown first second =>
    subst shown
    simpa [first, second] using holds.shows_first
  | two x y rest shown superscalar apart first second =>
    subst shown
    simpa [first, second] using
      And.intro holds.shows_first (holds.shows_second (wide superscalar) apart)

/-! ## Runs -/

/-- A block without gaps offers something when its first port is valid. -/
theorem valid_zero_iff (ordered : i.valid.InOrder) : i.valid 0 = true ↔ block i ≠ [] := by
  have mask : branchMask i 0 = true :=
    (branchMask_eq_true_iff 0).mpr fun q before => absurd before (Fin.not_lt_zero q)
  have offers := valid_eq_true_iff ordered 0
  rw [valid, mask, Bool.and_true, Fin.val_zero, List.length_pos_iff] at offers
  exact offers

theorem consumedItems_of_nil (holds : Holds s waiting) (ordered : i.valid.InOrder)
    (none : block i = []) : consumedItems s i = [] := by
  rw [holds.consumedItems_eq ordered, none, List.take_nil]

section Step

variable {ledger : Ledger cfg}

/-- The program counter behind what is taken, and where it leads. -/
theorem Keeps.base (keeps : Keeps s ledger) (wide : cfg.superscalarEn = true → 2 ≤ n)
    (fires : Fires s i ledger.countedWaiting) (ordered : i.valid.InOrder) :
    Consecutive (pcD s i) (ledger.countedWaiting.drop (firedCount s i)) ∧
      (block i ≠ [] →
        after (pcD s i) (ledger.countedWaiting.drop (firedCount s i)) = countStart i ledger) := by
  have counter := keeps.counter
  rw [countStart]
  cases reset : s.resetAddressQ with
  | true =>
    have empty := keeps.fresh reset
    rw [reset, if_pos rfl] at counter
    rw [empty, List.drop_nil, counter]
    refine ⟨trivial, fun some => ?_⟩
    have first := (valid_zero_iff ordered).mpr some
    rw [after_nil, pcD, resetsAddress, first, reset]
    rfl
  | false =>
    rw [reset, if_neg Bool.false_ne_true] at counter
    have whole := keeps.holds.consecutive
    rw [← List.take_append_drop (firedCount s i) ledger.countedWaiting, consecutive_append] at whole
    rw [pcD, resetsAddress, reset, Bool.and_false, if_neg Bool.false_ne_true,
      keeps.holds.pcNext_eq wide fires, counter, Option.getD_some, ← after_append,
      List.take_append_drop]
    exact ⟨whole.2, fun _ => rfl⟩

theorem Keeps.consecutive_next (keeps : Keeps s ledger)
    (wide : cfg.superscalarEn = true → 2 ≤ n) (fires : Fires s i ledger.countedWaiting)
    (ordered : i.valid.InOrder) :
    Consecutive (pcD s i) (nextWaiting s i ledger.countedWaiting (countStart i ledger)) := by
  obtain ⟨rest, start⟩ := keeps.base wide fires ordered
  rw [nextWaiting, consecutive_append]
  refine ⟨rest, ?_⟩
  by_cases none : block i = []
  · rw [consumedItems_of_nil keeps.holds ordered none]
    trivial
  · rw [start none]
    exact consecutive_stamp _ _

theorem Keeps.counter_next (keeps : Keeps s ledger)
    (wide : cfg.superscalarEn = true → 2 ≤ n) (fires : Fires s i ledger.countedWaiting)
    (flush : i.flush = false) (ordered : i.valid.InOrder) :
    (record s i ledger).counter =
      if (step s i).resetAddressQ then none
      else some (after (step s i).pcQ
        (nextWaiting s i ledger.countedWaiting (countStart i ledger))) := by
  obtain ⟨-, start⟩ := keeps.base wide fires ordered
  simp only [record, step, flush, Bool.false_eq_true, if_false, Bool.false_or, resetAddressD,
    nextWaiting, after_append]
  by_cases none : block i = []
  · have silent : i.valid 0 = false := by
      rw [← Bool.not_eq_true, valid_zero_iff ordered]
      exact not_not_intro none
    rw [silent, consumedItems_of_nil keeps.holds ordered none, stamp, keeps.counter]
    simp only [after_nil, resetsAddress, silent, Bool.false_and, Bool.false_eq_true, if_false, pcD]
    cases reset : s.resetAddressQ with
    | true => rfl
    | false =>
      rw [if_neg Bool.false_ne_true, if_neg Bool.false_ne_true,
        keeps.holds.pcNext_eq wide fires, ← after_append, List.take_append_drop]
  · have first := (valid_zero_iff ordered).mpr none
    have resumed : (if resetsAddress s i = true then false else s.resetAddressQ) = false := by
      rw [resetsAddress, first, Bool.true_and]
      cases s.resetAddressQ <;> rfl
    rw [resumed, if_neg Bool.false_ne_true, start none, first, if_pos rfl]

theorem Keeps.step (keeps : Keeps s ledger) (wide : cfg.superscalarEn = true → 2 ≤ n)
    (presented : Presented i) : Keeps (step s i) (record s i ledger) := by
  have fires := keeps.holds.fires wide presented.ready
  have shows := keeps.holds.firedEntries_show wide fires
  have bound := fires.firedCount_le
  have count : (firedEntries s i).length = firedCount s i := by
    rw [List.Forall₂.length_eq shows, List.length_take, Nat.min_eq_left bound]
  rw [Ledger.countedWaiting, List.length_drop] at bound
  have within : ledger.delivered.length ≤ ledger.counted.length := by
    have same := List.Forall₂.length_eq keeps.delivered
    rw [List.length_take] at same
    omega
  have inside : (ledger.delivered ++ firedEntries s i).length ≤ ledger.counted.length := by
    rw [List.length_append, count]
    omega
  have delivered : ShowInOrder (ledger.delivered ++ firedEntries s i)
      (ledger.counted.take (ledger.delivered ++ firedEntries s i).length) := by
    rw [List.length_append, count, List.take_add]
    exact List.rel_append keeps.delivered shows
  cases flush : i.flush with
  | true =>
    have empty : (record s i ledger).countedWaiting = [] := by
      simp only [Ledger.countedWaiting, record, flush, if_true]
      rw [List.drop_eq_nil_iff, List.length_take]
      exact Nat.min_le_left _ _
    constructor
    · simpa only [record, flush, if_true, List.take_take, Nat.min_self]
    · rw [empty]
      exact keeps.holds.step_flush flush
    · exact fun _ => empty
    · simp [record, flush, InstrQueue.step]
  | false =>
    have ordered := presented.ordered flush
    have waits : (record s i ledger).countedWaiting =
        nextWaiting s i ledger.countedWaiting (countStart i ledger) := by
      simp only [Ledger.countedWaiting, record, flush, Bool.false_eq_true, if_false, nextWaiting]
      rw [List.drop_append_of_le_length inside, List.length_append, count, List.drop_drop]
    constructor
    · simp only [record, flush, Bool.false_eq_true, if_false]
      rwa [List.take_append_of_le_length inside]
    · rw [waits]
      exact keeps.holds.step wide fires flush ordered
        (keeps.consecutive_next wide fires ordered)
    · intro reset
      simp only [InstrQueue.step, flush, Bool.false_or, resetAddressD] at reset
      split at reset
      · contradiction
      · rename_i kept
        have none : block i = [] := by
          by_contra some
          rw [resetsAddress, (valid_zero_iff ordered).mpr some, reset] at kept
          exact kept rfl
        rw [waits, nextWaiting, keeps.fresh reset, List.drop_nil,
          consumedItems_of_nil keeps.holds ordered none]
        rfl
    · rw [waits]
      exact keeps.counter_next wide fires flush ordered

/-- The frontend fetches where the queue counts. -/
structure Agrees (ledger : Ledger cfg) : Prop where
  accepted : ledger.accepted = ledger.counted
  expected : ledger.expected = ledger.counter

theorem Agrees.step (agrees : Agrees ledger) (holds : Holds s ledger.countedWaiting)
    (orderly : Orderly (s, ledger) i) : Agrees (record s i ledger) := by
  cases flush : i.flush with
  | true => exact ⟨by simp [record, flush, agrees.accepted], by simp [record, flush]⟩
  | false =>
    have ordered := orderly.ordered flush
    have continues := orderly.continues flush
    have accepted := holds.consumedItems_eq ordered
    have replays := holds.replayO_iff ordered
    simp only [agrees.expected] at continues
    rw [← countStart] at continues
    have split := List.take_append_drop (acceptedCount s i ledger.countedWaiting) (block i)
    have stamped : stamp (countStart i ledger) (consumedItems s i) = consumedItems s i := by
      rw [accepted]
      rw [← split, consecutive_append] at continues
      exact stamp_eq_self continues.1
    constructor
    · simp only [record, flush, Bool.false_eq_true, if_false]
      rw [stamped, agrees.accepted]
    · simp only [record, flush, Bool.false_eq_true, if_false]
      by_cases none : block i = []
      · have silent : i.valid 0 = false := by
          rw [← Bool.not_eq_true, valid_zero_iff ordered]
          exact not_not_intro none
        have still : replayO s i = false := by
          rw [← Bool.not_eq_true, replays, none]
          exact Nat.not_lt_zero _
        rw [silent, still]
        exact agrees.expected
      · rw [(valid_zero_iff ordered).mpr none, stamped, accepted, if_pos rfl, if_pos rfl]
        cases replay : replayO s i with
        | true =>
          obtain ⟨x, rest, shown⟩ : ∃ x rest,
              (block i).drop (acceptedCount s i ledger.countedWaiting) = x :: rest := by
            apply List.exists_cons_of_ne_nil
            rw [ne_eq, List.drop_eq_nil_iff, Nat.not_le]
            exact replays.mp replay
          have refused : (block i)[acceptedCount s i ledger.countedWaiting]? = some x := by
            rw [← List.head?_drop, shown, List.head?_cons]
          rw [← split, consecutive_append, shown] at continues
          rw [if_pos rfl, holds.replayAddrO_eq ordered refused, continues.2.1]
        | false =>
          have all : acceptedCount s i ledger.countedWaiting = (block i).length := by
            refine Nat.le_antisymm acceptedCount_le (Nat.not_lt.mp ?_)
            rw [← replays, replay]
            exact Bool.false_ne_true
          obtain ⟨x, rest, shown⟩ := List.exists_cons_of_ne_nil none
          rw [if_neg Bool.false_ne_true, all, List.take_length, shown]
          rfl

theorem Agrees.countedWaiting_eq (agrees : Agrees ledger) :
    ledger.countedWaiting = ledger.waiting := by
  rw [Ledger.waiting, agrees.accepted, Ledger.countedWaiting]

end Step

theorem keeps_init : Keeps (init cfg n) (Ledger.empty cfg) where
  delivered := .nil
  holds :=
    { formed := fun _ => FifoV3.formed_init _
      addressFormed := FifoV3.formed_init _
      contents := fun _ => rfl
      idxIs := by simp [init, Ledger.countedWaiting, Ledger.empty]
      addresses := rfl
      consecutive := trivial }
  fresh _ := rfl
  counter := rfl

/-- What is delivered along an orderly run is what was accepted, and every cycle presents what
waits, accepts the start of its block and asks for a replay of the rest. -/
theorem delivers_of_orderly (cfg : Cfg) (compressed : cfg.superscalarEn = true → cfg.rvc = true)
    (inputs : List (Input cfg cfg.instrPerFetch))
    (orderly : (recorded cfg cfg.instrPerFetch).RunAlong Orderly inputs) :
    DeliveredInOrder ((recorded cfg cfg.instrPerFetch).run inputs).2 ∧
      (recorded cfg cfg.instrPerFetch).RunAlong Sound inputs := by
  have wide : cfg.superscalarEn = true → 2 ≤ cfg.instrPerFetch := by
    intro superscalar
    rw [Cfg.instrPerFetch, superscalar, compressed superscalar]
    decide
  let invariant (s : State cfg cfg.instrPerFetch × Ledger cfg) : Prop :=
    Keeps s.1 s.2 ∧ Agrees s.2
  have preserved (s) (i : Input cfg cfg.instrPerFetch) (held : invariant s)
      (orderly : Orderly s i) : invariant ((recorded cfg cfg.instrPerFetch).step s i) :=
    ⟨held.1.step wide orderly.toPresented, held.2.step held.1.holds orderly⟩
  have initially : invariant (recorded cfg cfg.instrPerFetch).reset := ⟨keeps_init, rfl, rfl⟩
  constructor
  · obtain ⟨keeps, agrees⟩ := Machine.run_invariant_along _ invariant initially preserved orderly
    have delivered := keeps.delivered
    rwa [← agrees.accepted] at delivered
  · refine Machine.Along.of_invariant invariant preserved ?_ initially orderly
    rintro s i ⟨keeps, agrees⟩ orderly
    have holds := keeps.holds
    rw [agrees.countedWaiting_eq] at holds
    exact holds.sound wide orderly.ordered

end Ledger

/-! ## A run, and a block with a gap -/

section Examples

/-- A small core with compressed instructions. -/
def small : Cfg := ⟨false, true, false, false, 8, 8, 8⟩

/-- A block at `start` of two compressed instructions, of which the decoder takes none. -/
def twoAt (start : BitVec 8) : Input small small.instrPerFetch where
  flush := false
  instr p := BitVec.ofNat 32 (4 * p.val + 4)
  addr p := start + BitVec.ofNat 8 (2 * p.val)
  valid _ := true
  exception := .none
  exceptionAddr := 0
  exceptionGpaddr := 0
  exceptionTinst := 0
  exceptionGva := false
  predictAddress := 0x40
  cfType _ := .noCF
  fetchEntryReady _ := false

/-- A block whose second port alone is valid. -/
def gap : Input small small.instrPerFetch :=
  { twoAt 0x10 with valid := fun p => decide (p.val = 1), addr := fun _ => 0x12 }

/-- The decoder takes an instruction, and no block comes. -/
def takes : Input small small.instrPerFetch :=
  { twoAt 0x10 with valid := fun _ => false, fetchEntryReady := fun _ => true }

/-- A full queue refuses a block, and later accepts the start of it. -/
theorem refusedBlock_delivers :
    let inputs := [twoAt 0x10, twoAt 0x14, twoAt 0x18, twoAt 0x1c, twoAt 0x20, takes, twoAt 0x20]
    DeliveredInOrder ((recorded small small.instrPerFetch).run inputs).2 ∧
      (recorded small small.instrPerFetch).RunAlong Sound inputs :=
  delivers_of_orderly small (by decide) _ (by decide +kernel)

/-- The instruction of a port behind a port that is not valid is not the one that is delivered. -/
theorem gap_not_delivered :
    (recorded small small.instrPerFetch).RunAlong
        (fun s i => (i.fetchEntryReady 1 = true → i.fetchEntryReady 0 = true) ∧
          Consecutive (s.2.expected.getD (i.addr 0)) (block i)) [gap, takes] ∧
      ¬DeliveredInOrder ((recorded small small.instrPerFetch).run [gap, takes]).2 := by
  decide +kernel

end Examples

end Cva6Hpd.Frontend.InstrQueue
