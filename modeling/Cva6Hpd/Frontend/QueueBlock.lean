import Cva6Hpd.Common.RoundRobin
import Cva6Hpd.Frontend.InstrQueue

/-!
# What the instruction queue accepts of a block

The instructions that a block offers are those of its valid ports up to the first that is
predicted to be taken. The queue accepts the first ones of them, as many as fit, and asks for a
replay from the first that it refuses.
-/

namespace Cva6Hpd.Frontend.InstrQueue

open Common Common.RoundRobin
open Hw

/-! ## Instructions of a block -/

/-- An instruction as the frontend pushes it. -/
structure Item (cfg : Cfg) where
  data : InstrData cfg
  addr : BitVec cfg.vlen
  predict : BitVec cfg.vlen
deriving DecidableEq

section Items

variable {cfg : Cfg}

/-- The instruction is predicted to be a taken control flow. -/
def Item.isCf (x : Item cfg) : Bool := decide (x.data.cf ≠ .noCF)

/-- Where the fetch continues behind an instruction. -/
def Item.next (x : Item cfg) : BitVec cfg.vlen :=
  if x.isCf then x.predict else stepPc x.addr x.data.instr

/-- The instructions up to the first that is predicted to be taken. -/
def cut : List (Item cfg) → List (Item cfg)
  | [] => []
  | x :: xs => if x.isCf then [x] else x :: cut xs

theorem isPrefix_cut (xs : List (Item cfg)) : cut xs <+: xs := by
  induction xs with
  | nil => exact List.prefix_rfl
  | cons x xs inductionHypothesis =>
    rw [cut]
    split
    · exact ⟨xs, rfl⟩
    · exact (List.prefix_cons_inj x).mpr inductionHypothesis

/-- An instruction remains when none before it is predicted to be taken. -/
theorem lt_length_cut_iff (xs : List (Item cfg)) (k : Nat) :
    k < (cut xs).length ↔ k < xs.length ∧ ∀ j < k, ∀ x ∈ xs[j]?, x.isCf = false := by
  induction xs generalizing k with
  | nil => simp [cut]
  | cons x xs inductionHypothesis =>
    cases k with
    | zero =>
      have filled : 0 < (cut (x :: xs)).length := by
        rw [cut]
        split <;> simp
      simp [filled]
    | succ k =>
      have head : (∀ j < k + 1, ∀ y ∈ (x :: xs)[j]?, y.isCf = false) ↔
          x.isCf = false ∧ ∀ j < k, ∀ y ∈ xs[j]?, y.isCf = false := by
        constructor
        · intro all
          exact ⟨all 0 k.succ_pos x rfl, fun j before => all (j + 1) (Nat.succ_lt_succ before)⟩
        · rintro ⟨first, rest⟩ j before
          cases j with
          | zero =>
            intro y shown
            rw [← Option.some.inj shown]
            exact first
          | succ j => exact rest j (Nat.lt_of_succ_lt_succ before)
      rw [head, cut, List.length_cons, Nat.succ_lt_succ_iff]
      cases taken : x.isCf with
      | true => simp
      | false =>
        simp only [Bool.false_eq_true, if_false, List.length_cons, Nat.succ_lt_succ_iff, true_and]
        exact inductionHypothesis k

/-- What remains has one predicted control flow at most. -/
theorem length_filter_cut_le (xs : List (Item cfg)) : ((cut xs).filter Item.isCf).length ≤ 1 := by
  induction xs with
  | nil => exact Nat.zero_le 1
  | cons x xs inductionHypothesis =>
    rw [cut]
    cases taken : x.isCf with
    | true => simp [taken]
    | false =>
      rw [if_neg Bool.false_ne_true, List.filter_cons_of_neg (by simp [taken])]
      exact inductionHypothesis

/-- Each instruction stands where the one before it leads. -/
def Consecutive : BitVec cfg.vlen → List (Item cfg) → Prop
  | _, [] => True
  | start, x :: xs => x.addr = start ∧ Consecutive x.next xs

instance decidableConsecutive :
    ∀ (start : BitVec cfg.vlen) (xs : List (Item cfg)), Decidable (Consecutive start xs)
  | _, [] => isTrue trivial
  | _, x :: xs => @instDecidableAnd _ _ _ (decidableConsecutive x.next xs)

/-- Where a list of instructions leads. -/
def after : BitVec cfg.vlen → List (Item cfg) → BitVec cfg.vlen
  | start, [] => start
  | _, x :: xs => after x.next xs

@[simp]
theorem after_nil (start : BitVec cfg.vlen) : after start [] = start :=
  rfl

theorem consecutive_append (start : BitVec cfg.vlen) (xs ys : List (Item cfg)) :
    Consecutive start (xs ++ ys) ↔ Consecutive start xs ∧ Consecutive (after start xs) ys := by
  induction xs generalizing start with
  | nil => simp [Consecutive]
  | cons x xs inductionHypothesis =>
    rw [List.cons_append, Consecutive, Consecutive, inductionHypothesis, after, and_assoc]

theorem after_append (start : BitVec cfg.vlen) (xs ys : List (Item cfg)) :
    after start (xs ++ ys) = after (after start xs) ys := by
  induction xs generalizing start with
  | nil => rfl
  | cons x xs inductionHypothesis => rw [List.cons_append, after, after, inductionHypothesis]

/-- The same instructions at the addresses that are counted from a start. -/
def stamp : BitVec cfg.vlen → List (Item cfg) → List (Item cfg)
  | _, [] => []
  | start, x :: xs =>
      { x with addr := start } :: stamp ({ x with addr := start } : Item cfg).next xs

theorem consecutive_stamp (start : BitVec cfg.vlen) (xs : List (Item cfg)) :
    Consecutive start (stamp start xs) := by
  induction xs generalizing start with
  | nil => trivial
  | cons x xs inductionHypothesis => exact ⟨rfl, inductionHypothesis _⟩

/-- Consecutive instructions stand where they are counted. -/
theorem stamp_eq_self {start : BitVec cfg.vlen} {xs : List (Item cfg)}
    (consecutive : Consecutive start xs) : stamp start xs = xs := by
  induction xs generalizing start with
  | nil => rfl
  | cons x xs inductionHypothesis =>
    obtain ⟨rfl, rest⟩ := consecutive
    rw [stamp, inductionHypothesis rest]

@[simp]
theorem length_stamp (start : BitVec cfg.vlen) (xs : List (Item cfg)) :
    (stamp start xs).length = xs.length := by
  induction xs generalizing start with
  | nil => rfl
  | cons x xs inductionHypothesis => rw [stamp, List.length_cons, inductionHypothesis,
      List.length_cons]

theorem map_data_stamp (start : BitVec cfg.vlen) (xs : List (Item cfg)) :
    (stamp start xs).map Item.data = xs.map Item.data := by
  induction xs generalizing start with
  | nil => rfl
  | cons x xs inductionHypothesis => rw [stamp, List.map_cons, inductionHypothesis, List.map_cons]

theorem predicts_stamp (start : BitVec cfg.vlen) (xs : List (Item cfg)) :
    ((stamp start xs).filter Item.isCf).map Item.predict =
      (xs.filter Item.isCf).map Item.predict := by
  induction xs generalizing start with
  | nil => rfl
  | cons x xs inductionHypothesis =>
    have same : ({ x with addr := start } : Item cfg).isCf = x.isCf := rfl
    rw [stamp, List.filter_cons, List.filter_cons, same]
    cases x.isCf with
    | true => rw [if_pos rfl, if_pos rfl, List.map_cons, inductionHypothesis, List.map_cons]
    | false =>
      rw [if_neg Bool.false_ne_true, if_neg Bool.false_ne_true]
      exact inductionHypothesis _

end Items

/-! ## What a block offers -/

section Offered

variable {cfg : Cfg} {n : Nat} (i : Input cfg n)

/-- The instruction at a port. -/
def itemAt (p : Fin n) : Item cfg := ⟨instrDataOf i p, i.addr p, i.predictAddress⟩

/-- The instructions that a block offers. -/
def block : List (Item cfg) := cut (i.valid.indices.map (itemAt i))

variable {i}

theorem length_block_le : (block i).length ≤ n := by
  calc
    (block i).length ≤ (i.valid.indices.map (itemAt i)).length := (isPrefix_cut _).length_le
    _ = i.valid.indices.length := List.length_map ..
    _ ≤ n := Bits.length_indices_le _

/-- The input of the zero counter. -/
theorem getLsbD_taken (k : Nat) :
    (BitVec.ofBoolListLE ((List.finRange n).map (taken i))).getLsbD k = true ↔
      ∃ q : Fin n, q.val = k ∧ taken i q = true := by
  rw [BitVec.getLsbD_ofBoolListLE, List.getD_eq_getElem?_getD, List.getElem?_map]
  rcases Nat.lt_or_ge k n with inside | outside
  · rw [List.getElem?_eq_getElem (by rwa [List.length_finRange])]
    simp only [List.getElem_finRange, Option.map_some, Option.getD_some]
    constructor
    · intro hit
      exact ⟨_, rfl, hit⟩
    · rintro ⟨q, rfl, hit⟩
      exact hit
  · rw [List.getElem?_eq_none (by rwa [List.length_finRange])]
    simp only [Option.map_none, Option.getD_none, Bool.false_eq_true, false_iff]
    rintro ⟨q, rfl, -⟩
    exact absurd q.isLt (Nat.not_lt.mpr outside)

variable [NeZero n]

theorem branchMask_eq_true_iff_le (p : Fin n) (bound : branchIndex i < n) :
    branchMask i p = true ↔ p.val ≤ branchIndex i := by
  have positive := NeZero.pos n
  simp only [branchMask, branchMaskExtended, Bool.and_eq_true, decide_eq_true_eq]
  omega

theorem branchMask_eq_true_iff (p : Fin n) :
    branchMask i p = true ↔ ∀ q < p, taken i q = false := by
  by_cases some : ∃ q, taken i q = true
  · obtain ⟨q, hit⟩ := some
    obtain ⟨lowest, below⟩ := Lzc.exists_lowest ((getLsbD_taken q.val).mpr ⟨q, rfl, hit⟩)
    obtain ⟨first, place, takenFirst⟩ := (getLsbD_taken _).mp lowest
    rw [← branchIndex] at place below
    rw [branchMask_eq_true_iff_le p (place ▸ first.isLt), ← place]
    constructor
    · intro kept q before
      have miss := below q.val (by rw [← place]; exact Nat.lt_of_lt_of_le before kept)
      rw [← Bool.not_eq_true] at miss ⊢
      exact fun hit => miss ((getLsbD_taken q.val).mpr ⟨q, rfl, hit⟩)
    · intro none
      by_contra behind
      have miss := none first (Nat.lt_of_not_le behind)
      rw [takenFirst] at miss
      contradiction
  · have none (q : Fin n) : taken i q = false := by
      rw [← Bool.not_eq_true]
      exact fun hit => some ⟨q, hit⟩
    have positive := NeZero.pos n
    have last : branchIndex i = n - 1 := by
      rw [branchIndex, Lzc.trailing_of_none, List.length_map, List.length_finRange]
      intro k
      rw [← Bool.not_eq_true, getLsbD_taken]
      rintro ⟨q, -, hit⟩
      exact some ⟨q, hit⟩
    have bound := p.isLt
    rw [branchMask_eq_true_iff_le p (by omega), last]
    constructor
    · exact fun _ q _ => none q
    · exact fun _ => by omega

omit [NeZero n] in
/-- The place of an instruction in what a block without gaps offers. -/
theorem getElem?_offered (ordered : i.valid.InOrder) (p : Fin n) :
    (i.valid.indices.map (itemAt i))[p.val]? = if i.valid p then some (itemAt i p) else none := by
  rw [List.getElem?_map]
  cases valid : i.valid p with
  | true =>
    have inside := (ordered.eq_true_iff p).mp valid
    have place : i.valid.indices[p.val] = p := Fin.ext (ordered.val_getElem_indices inside)
    rw [List.getElem?_eq_getElem inside, place, if_pos rfl]
    rfl
  | false =>
    have outside : ¬p.val < i.valid.indices.length := by
      rw [← ordered.eq_true_iff, valid]
      exact Bool.false_ne_true
    rw [List.getElem?_eq_none (Nat.not_lt.mp outside)]
    rfl

/-- The ports to be pushed are those of the instructions that the block offers. -/
theorem valid_eq_true_iff (ordered : i.valid.InOrder) (p : Fin n) :
    valid i p = true ↔ p.val < (block i).length := by
  rw [block, lt_length_cut_iff, List.length_map, ← ordered.eq_true_iff, valid, Bool.and_eq_true,
    branchMask_eq_true_iff]
  refine and_congr_right fun isValid => ?_
  constructor
  · intro none j before x shown
    rw [getElem?_offered ordered ⟨j, before.trans p.isLt⟩] at shown
    split at shown
    · rw [← Option.some.inj shown]
      exact none ⟨j, before.trans p.isLt⟩ before
    · exact absurd shown (Option.not_mem_none x)
  · intro none q before
    have earlier := ordered q p before.le isValid
    have shown := getElem?_offered ordered q
    rw [if_pos earlier] at shown
    exact none q.val before (itemAt i q) shown

theorem getElem?_block (ordered : i.valid.InOrder) {p : Fin n} (inside : p.val < (block i).length) :
    (block i)[p.val]? = some (itemAt i p) := by
  have isValid := (valid_eq_true_iff ordered p).mpr inside
  rw [valid, Bool.and_eq_true] at isValid
  have whole := getElem?_offered ordered p
  rw [if_pos isValid.1] at whole
  obtain ⟨rest, split⟩ := isPrefix_cut (i.valid.indices.map (itemAt i))
  rwa [← split, ← block, List.getElem?_append_left inside] at whole

end Offered

/-! ## What the queue holds -/

/-- The registers hold the instructions that wait to be taken. -/
structure Holds {cfg : Cfg} {n : Nat} [NeZero n] (s : State cfg n) (waiting : List (Item cfg)) :
    Prop where
  formed : ∀ q, (s.instrData q).Formed
  addressFormed : s.address.Formed
  contents : ∀ q, (s.instrData q).contents = share n q.val s.idxDsQ.val (waiting.map Item.data)
  idxIs : s.idxIsQ.val = (s.idxDsQ.val + waiting.length) % n
  addresses : s.address.contents = (waiting.filter Item.isCf).map Item.predict
  consecutive : Consecutive s.pcQ waiting

/-! ## What is accepted -/

section Accepted

variable {cfg : Cfg} {n : Nat} [NeZero n] {s : State cfg n} {i : Input cfg n}
  {waiting : List (Item cfg)}

/-- The number of instructions for which the queues have room. -/
def room (n : Nat) (waiting : List (Item cfg)) : Nat := fetchFifoDepth * n - waiting.length

/-- The instructions of the ports that are consumed. -/
def consumedItems (s : State cfg n) (i : Input cfg n) : List (Item cfg) :=
  (consumedO s i).indices.map (itemAt i)

/-- The number of instructions of a block that are accepted. -/
def acceptedCount (s : State cfg n) (i : Input cfg n) (waiting : List (Item cfg)) : Nat :=
  if addressOverflow s i then 0 else min (block i).length (room n waiting)

@[simp]
theorem placeOf_add (p : Fin n) : placeOf s (p + s.idxIsQ) = p :=
  add_sub_cancel_right p s.idxIsQ

theorem placeOf_add_cancel (q : Fin n) : placeOf s q + s.idxIsQ = q :=
  sub_add_cancel q s.idxIsQ

/-- The queue of a place lies that far behind the last one that was filled. -/
theorem Holds.val_add_idxIs (holds : Holds s waiting) (p : Fin n) :
    (p + s.idxIsQ).val = (s.idxDsQ.val + waiting.length + p.val) % n := by
  rw [Fin.val_add, holds.idxIs, Nat.add_mod_mod, Nat.add_comm]

theorem Holds.full_iff (holds : Holds s waiting) (p : Fin n) :
    instrQueueFull s (p + s.idxIsQ) = true ↔ room n waiting ≤ p.val := by
  have count := @length_share _ n s.idxDsQ.val _ p.isLt (waiting.map Item.data)
  rw [List.length_map, ← holds.val_add_idxIs, ← holds.contents] at count
  have bound := (holds.formed (p + s.idxIsQ)).statusCnt_le
  rw [← FifoV3.length_contents, count] at bound
  rw [instrQueueFull, FifoV3.full_eq_true_iff, count, room]
  have exact : (waiting.length + p.val) / n = fetchFifoDepth ↔
      fetchFifoDepth ≤ (waiting.length + p.val) / n :=
    ⟨fun equal => equal.ge, fun enough => Nat.le_antisymm bound enough⟩
  rw [exact, Nat.le_div_iff_mul_le (NeZero.pos n)]
  omega

theorem Holds.pushInstr_iff (holds : Holds s waiting) (ordered : i.valid.InOrder) (p : Fin n) :
    pushInstr s i (p + s.idxIsQ) = true ↔ p.val < min (block i).length (room n waiting) := by
  have noRoom := holds.full_iff p
  rw [pushInstr, fifoPos, placeOf_add, Bool.and_eq_true, valid_eq_true_iff ordered,
    Bool.not_eq_true', ← Bool.not_eq_true, noRoom, Nat.not_le, Nat.lt_min]

theorem Holds.consumedO_iff (holds : Holds s waiting) (ordered : i.valid.InOrder) (p : Fin n) :
    consumedO s i p = true ↔ p.val < acceptedCount s i waiting := by
  rw [consumedO, pushInstrFifo, Bool.and_eq_true, holds.pushInstr_iff ordered, acceptedCount]
  cases addressOverflow s i with
  | true => simp
  | false => simp

omit [NeZero n] in
theorem acceptedCount_le : acceptedCount s i waiting ≤ (block i).length := by
  rw [acceptedCount]
  split
  · exact Nat.zero_le _
  · exact Nat.min_le_left _ _

omit [NeZero n] in
theorem indices_eq_take {bits : Bits n} {k : Nat} (bound : k ≤ n)
    (below : ∀ p, bits p = true ↔ p.val < k) : bits.indices = (List.finRange n).take k := by
  have ordered : bits.InOrder := by
    intro p q less hit
    exact (below p).mpr (Nat.lt_of_le_of_lt less ((below q).mp hit))
  have same : bits.indices.length = k := by
    have limit := bits.length_indices_le
    have both (p : Fin n) : p.val < bits.indices.length ↔ p.val < k := by
      rw [← ordered.eq_true_iff, below]
    rcases Nat.lt_trichotomy bits.indices.length k with less | equal | more
    · have wrong := (both ⟨bits.indices.length, by omega⟩).mpr less
      exact absurd wrong (Nat.lt_irrefl _)
    · exact equal
    · have wrong := (both ⟨k, by omega⟩).mp more
      exact absurd wrong (Nat.lt_irrefl _)
  rw [ordered.indices_eq, same]

theorem Holds.consumedItems_eq (holds : Holds s waiting) (ordered : i.valid.InOrder) :
    consumedItems s i = (block i).take (acceptedCount s i waiting) := by
  have limit := @acceptedCount_le _ _ s i waiting
  have bound : acceptedCount s i waiting ≤ n := limit.trans length_block_le
  rw [consumedItems, indices_eq_take bound (holds.consumedO_iff ordered)]
  apply List.ext_getElem?
  intro k
  rw [List.getElem?_map, List.getElem?_take, List.getElem?_take]
  split
  · rename_i inside
    have place : k < n := by omega
    rw [getElem?_block ordered (p := ⟨k, place⟩) (Nat.lt_of_lt_of_le inside limit),
      List.getElem?_eq_getElem (by rwa [List.length_finRange]), List.getElem_finRange]
    rfl
  · rfl

/-- The count over the queues is the count over the places. -/
theorem Holds.popcount_eq (holds : Holds s waiting) (ordered : i.valid.InOrder) :
    popcount s i = acceptedCount s i waiting := by
  have bound : acceptedCount s i waiting ≤ n := acceptedCount_le.trans length_block_le
  have turned := (Equiv.addRight s.idxIsQ).map_finRange_perm
  calc
    popcount s i = ((List.finRange n).map (Equiv.addRight s.idxIsQ)).countP (pushInstrFifo s i) :=
      (turned.countP_eq _).symm
    _ = (consumedO s i).indices.length := by
      rw [List.countP_map, List.countP_eq_length_filter]
      rfl
    _ = acceptedCount s i waiting := by
      rw [indices_eq_take bound (holds.consumedO_iff ordered), List.length_take,
        List.length_finRange, Nat.min_eq_left bound]

/-- The accepted instructions as the queue of a place sees them. -/
theorem Holds.pushed_eq (holds : Holds s waiting) (ordered : i.valid.InOrder) (q : Fin n) :
    (if pushInstrFifo s i q && !(s.instrData q).full then [instrDataIn s i q] else []) =
      share n q.val s.idxIsQ.val ((consumedItems s i).map Item.data) := by
  have limit := @acceptedCount_le _ _ s i waiting
  have bound : ((consumedItems s i).map Item.data).length ≤ n := by
    rw [consumedItems, List.length_map, List.length_map]
    exact Bits.length_indices_le _
  have lane : (s.idxIsQ.val + (placeOf s q).val) % n = q.val := by
    rw [Nat.add_comm, ← Fin.val_add, placeOf_add_cancel]
  have shared := @share_turn _ n s.idxIsQ.val _ (placeOf s q).isLt _ bound
  have accepts := holds.consumedO_iff ordered (placeOf s q)
  rw [consumedO, placeOf_add_cancel] at accepts
  rw [lane] at shared
  rw [shared, List.getElem?_map, holds.consumedItems_eq ordered]
  cases pushed : pushInstrFifo s i q with
  | true =>
    have inside := accepts.mp pushed
    have open' : (s.instrData q).full = false := by
      simp only [pushInstrFifo, pushInstr, Bool.and_eq_true, Bool.not_eq_true'] at pushed
      exact pushed.1.2
    rw [List.getElem?_take, if_pos inside,
      getElem?_block ordered (Nat.lt_of_lt_of_le inside limit), open']
    rfl
  | false =>
    have outside : ¬(placeOf s q).val < acceptedCount s i waiting := by
      rw [← accepts, pushed]
      exact Bool.false_ne_true
    rw [List.getElem?_take, if_neg outside]
    rfl

/-- A control flow is pushed when one of the instructions that fit is one. -/
theorem Holds.pushAddress_iff (holds : Holds s waiting) (ordered : i.valid.InOrder) :
    pushAddress s i = true ↔
      ∃ x ∈ (block i).take (min (block i).length (room n waiting)), x.isCf = true := by
  rw [pushAddress, Bits.any_eq_true_iff]
  constructor
  · rintro ⟨q, hit⟩
    rw [Bool.and_eq_true] at hit
    have pushed := hit.1
    rw [← placeOf_add_cancel (s := s) q, holds.pushInstr_iff ordered] at pushed
    have inside : (placeOf s q).val < (block i).length :=
      Nat.lt_of_lt_of_le pushed (Nat.min_le_left _ _)
    have shown := getElem?_block ordered inside
    refine ⟨itemAt i (placeOf s q), List.mem_of_getElem? (i := (placeOf s q).val) ?_, hit.2⟩
    rw [List.getElem?_take, if_pos pushed, shown]
  · rintro ⟨x, member, isCf⟩
    obtain ⟨k, shown⟩ := List.mem_iff_getElem?.mp member
    rw [List.getElem?_take] at shown
    split at shown
    · rename_i fits
      have inside : k < (block i).length := Nat.lt_of_lt_of_le fits (Nat.min_le_left _ _)
      have place : k < n := Nat.lt_of_lt_of_le inside length_block_le
      rw [getElem?_block ordered (p := ⟨k, place⟩) inside] at shown
      refine ⟨⟨k, place⟩ + s.idxIsQ, ?_⟩
      rw [Bool.and_eq_true, holds.pushInstr_iff ordered, instrDataIn, placeOf_add]
      exact ⟨fits, by rw [← Option.some.inj shown] at isCf; exact isCf⟩
    · contradiction

omit [NeZero n] in
theorem predict_of_mem_block {x : Item cfg} (member : x ∈ block i) :
    x.predict = i.predictAddress := by
  obtain ⟨p, -, rfl⟩ := List.mem_map.mp ((isPrefix_cut _).subset member)
  rfl

/-- The target that is pushed is that of the control flow that is accepted. -/
theorem Holds.pushedAddress_eq (holds : Holds s waiting) (ordered : i.valid.InOrder) :
    (if pushAddress s i && !fullAddress s then [i.predictAddress] else []) =
      ((consumedItems s i).filter Item.isCf).map Item.predict := by
  have flows := holds.pushAddress_iff ordered
  rw [holds.consumedItems_eq ordered, acceptedCount, addressOverflow]
  cases pushed : pushAddress s i with
  | false =>
    have none : ((block i).take (min (block i).length (room n waiting))).filter Item.isCf = [] := by
      rw [List.filter_eq_nil_iff]
      intro x member isCf
      rw [flows.mpr ⟨x, member, isCf⟩] at pushed
      contradiction
    rw [Bool.and_false, if_neg Bool.false_ne_true, none]
    rfl
  | true =>
    cases fullAddress s with
    | true => rfl
    | false =>
      obtain ⟨x, member, isCf⟩ := flows.mp pushed
      rw [Bool.false_and, if_neg Bool.false_ne_true]
      generalize shown :
        ((block i).take (min (block i).length (room n waiting))).filter Item.isCf = found
      have inside : x ∈ found := by
        rw [← shown]
        exact List.mem_filter.mpr ⟨member, isCf⟩
      have once : found.length ≤ 1 := by
        rw [← shown]
        exact (((List.take_sublist _ _).filter _).length_le).trans (length_filter_cut_le _)
      obtain ⟨y, rfl⟩ : ∃ y, found = [y] :=
        List.length_eq_one_iff.mp (Nat.le_antisymm once (List.length_pos_of_mem inside))
      rw [List.mem_singleton] at inside
      subst inside
      rw [List.map_singleton, predict_of_mem_block (List.mem_of_mem_take member)]
      rfl

/-! ## Replays -/

theorem Holds.replayO_iff (holds : Holds s waiting) (ordered : i.valid.InOrder) :
    replayO s i = true ↔ acceptedCount s i waiting < (block i).length := by
  have overflows : instrOverflow s i = true ↔ room n waiting < (block i).length := by
    rw [instrOverflow, Bits.any_eq_true_iff]
    constructor
    · rintro ⟨q, hit⟩
      rw [Bool.and_eq_true, fifoPos, valid_eq_true_iff ordered] at hit
      rw [← placeOf_add_cancel (s := s) q, holds.full_iff] at hit
      rw [placeOf_add] at hit
      exact Nat.lt_of_le_of_lt hit.1 hit.2
    · intro less
      have place : room n waiting < n := Nat.lt_of_lt_of_le less length_block_le
      refine ⟨⟨room n waiting, place⟩ + s.idxIsQ, ?_⟩
      rw [Bool.and_eq_true, holds.full_iff, fifoPos, placeOf_add, valid_eq_true_iff ordered]
      exact ⟨Nat.le_refl _, less⟩
  rw [replayO, Bool.or_eq_true, overflows, acceptedCount]
  cases overflow : addressOverflow s i with
  | false =>
    rw [if_neg Bool.false_ne_true, min_lt_iff]
    simp
  | true =>
    rw [addressOverflow, Bool.and_eq_true] at overflow
    obtain ⟨x, member, -⟩ := (holds.pushAddress_iff ordered).mp overflow.2
    have filled := List.length_pos_of_mem (List.mem_of_mem_take member)
    simp [filled]

theorem Holds.replayAddrO_eq (holds : Holds s waiting) (ordered : i.valid.InOrder)
    {x : Item cfg} (refused : (block i)[acceptedCount s i waiting]? = some x) :
    replayAddrO s i = x.addr := by
  have inside : acceptedCount s i waiting < (block i).length :=
    (List.getElem?_eq_some_iff.mp refused).1
  have place : acceptedCount s i waiting < n := Nat.lt_of_lt_of_le inside length_block_le
  have port : (if addressOverflow s i then 0 else shamt s i) =
      (⟨acceptedCount s i waiting, place⟩ : Fin n) := by
    apply Fin.ext
    cases overflow : addressOverflow s i with
    | true => simp [acceptedCount, overflow]
    | false =>
      rw [if_neg Bool.false_ne_true, shamt, holds.popcount_eq ordered, Fin.val_ofNat,
        Nat.mod_eq_of_lt place]
  rw [getElem?_block ordered (p := ⟨_, place⟩) inside] at refused
  rw [← Option.some.inj refused, ← port, replayAddrO]
  cases addressOverflow s i <;> rfl

end Accepted

end Cva6Hpd.Frontend.InstrQueue
