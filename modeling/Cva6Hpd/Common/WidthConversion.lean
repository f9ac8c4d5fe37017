import Cva6Hpd.Common.BoundedQueue
import Cva6Hpd.Common.DataDownsize
import Cva6Hpd.Common.DataUpsize
import Cva6Hpd.Hw.Bits
import Cva6Hpd.Hw.Machine
import Mathlib.Data.Fintype.Pi
import Mathlib.Data.List.Forall2

/-!
# Width conversion

What `hpdcache_data_upsize` and `hpdcache_data_downsize` do to whole sequences of words. The
upsizer cuts the words it is given into groups, after each last word or when an entry is full, and
hands out one entry for each group: its low parts are the words of the group, and the parts above
a cut are what the entry held before. The downsizer hands out all parts of each entry, from low to
high, and marks the last of them. Its write port has no last flag.
-/

namespace Cva6Hpd.Common

open FifoRegs (advance)
open Hw

universe u

/-- The narrow words of a wide one, from low to high. -/
def parts {α : Type u} {total : Nat} [NeZero total] (count width : Nat) (word : Fin total → α) :
    List (Fin width → α) :=
  (List.range count).map fun j i => word (Fin.ofNat total (j * width + i.val))

section Cut

variable {β : Type u} (size : Nat)

/-- One word more: the group that it closes, if any, and the words of the open group. -/
def cutOne (opened : List β) (word : β) (last : Bool) : List (List β) × List β :=
  if last || decide (opened.length + 1 = size) then ([opened ++ [word]], [])
  else ([], opened ++ [word])

/-- The closed groups of a sequence of words with last flags. -/
def cut : List β → List (β × Bool) → List (List β)
  | _, [] => []
  | opened, (word, last) :: rest =>
      (cutOne size opened word last).1 ++ cut (cutOne size opened word last).2 rest

end Cut

/-! ## The upsizer -/

namespace DataUpsizeRegs

variable {depth wr : Nat} {α : Type u} [NeZero depth]

/-- The first words of an entry. -/
def wordsOf (regs : DataUpsizeRegs depth wr α) (count : Nat) (entry : Fin depth) :
    List (Fin wr → α) :=
  (List.range count).map (regs.bufQ entry)

/-- The words of the entry being filled. -/
def openWords (regs : DataUpsizeRegs depth wr α) : List (Fin wr → α) :=
  if regs.usedQ < depth then regs.wordsOf (regs.wordsQ regs.wrptrQ) regs.wrptrQ else []

/-- The closed entries hold these groups of words. The registers do not say how many words a
closed entry has been given. -/
def Closed (size : Nat) (regs : DataUpsizeRegs depth wr α) (groups : List (List (Fin wr → α))) :
    Prop :=
  ∃ counts : Fin depth → Nat, (∀ entry, counts entry ≤ size) ∧
    groups = Ring.window (fun entry => regs.wordsOf (counts entry) entry) regs.rdptrQ regs.usedQ

omit [NeZero depth] in
@[simp]
theorem length_wordsOf (regs : DataUpsizeRegs depth wr α) (count : Nat) (entry : Fin depth) :
    (regs.wordsOf count entry).length = count := by
  simp [wordsOf]

section Groups

variable {size : Nat} {regs : DataUpsizeRegs depth wr α} {groups : List (List (Fin wr → α))}

/-- The read half of an edge takes the oldest group. -/
theorem Closed.pop (closed : regs.Closed size groups) (filled : 0 < regs.usedQ) :
    ∃ count, count ≤ size ∧ groups = regs.wordsOf count regs.rdptrQ :: groups.tail ∧
      regs.pop.Closed size groups.tail := by
  rcases closed with ⟨counts, bound, rfl⟩
  have oldest := Ring.window_succ_head (fun entry => regs.wordsOf (counts entry) entry)
    regs.rdptrQ (regs.usedQ - 1)
  rw [Nat.sub_add_cancel filled] at oldest
  refine ⟨counts regs.rdptrQ, bound _, ?_, counts, bound, ?_⟩
  · rw [oldest, List.tail_cons]
  · rw [oldest, List.tail_cons]
    rfl

/-- The write half of an edge adds the word to its entry. -/
theorem wordsOf_push_wrptrQ (wdata : Fin wr → α) (wlast : Bool) :
    (regs.push size wdata wlast).wordsOf (regs.wordsQ regs.wrptrQ + 1) regs.wrptrQ =
      regs.wordsOf (regs.wordsQ regs.wrptrQ) regs.wrptrQ ++ [wdata] := by
  simp only [wordsOf, List.range_succ, List.map_append, List.map_singleton]
  congr 1
  · apply List.map_congr_left
    intro j inside
    have other : j ≠ regs.wordsQ regs.wrptrQ := Nat.ne_of_lt (List.mem_range.mp inside)
    simp only [push, Function.update_self, Function.update_of_ne other]
  · simp only [push, Function.update_self]

theorem wordsOf_push_of_ne {entry : Fin depth} (other : entry ≠ regs.wrptrQ) (count : Nat)
    (wdata : Fin wr → α) (wlast : Bool) :
    (regs.push size wdata wlast).wordsOf count entry = regs.wordsOf count entry := by
  simp only [wordsOf, push, Function.update_of_ne other]

/-- The closed entries are not the one being filled. -/
theorem slot_ne_wrptrQ (ordered : regs.Ordered size) (room : regs.usedQ < depth) {k : Nat}
    (inside : k < depth) (other : k ≠ regs.usedQ) : Ring.slot regs.rdptrQ k ≠ regs.wrptrQ := by
  rw [ordered.behind]
  exact Ring.slot_ne regs.rdptrQ inside room other

omit [NeZero depth] in
theorem openWords_eq (room : regs.usedQ < depth) :
    regs.openWords = regs.wordsOf (regs.wordsQ regs.wrptrQ) regs.wrptrQ := by
  rw [openWords, if_pos room]

theorem Closed.push_of_closes (closed : regs.Closed size groups) (ordered : regs.Ordered size)
    (room : regs.usedQ < depth) (positive : 0 < size) (wdata : Fin wr → α) {wlast : Bool}
    (closing : regs.closes size wlast = true) :
    (regs.push size wdata wlast).Closed size (groups ++ [regs.openWords ++ [wdata]]) ∧
      (regs.push size wdata wlast).openWords = [] := by
  have bound := ordered.opened room
  have entries : (regs.push size wdata wlast).usedQ = regs.usedQ + 1 := by
    simp only [DataUpsizeRegs.push, closing, if_true]
  constructor
  · rcases closed with ⟨counts, limit, rfl⟩
    refine ⟨Function.update counts regs.wrptrQ (regs.wordsQ regs.wrptrQ + 1), ?_, ?_⟩
    · intro entry
      rcases eq_or_ne entry regs.wrptrQ with rfl | other
      · rw [Function.update_self]
        omega
      · rw [Function.update_of_ne other]
        exact limit entry
    · rw [entries]
      change _ = Ring.window _ regs.rdptrQ _
      rw [Ring.window_succ_last, ← ordered.behind, Function.update_self, wordsOf_push_wrptrQ,
        openWords_eq room]
      congr 1
      apply Ring.window_congr
      intro k inside
      have apart := slot_ne_wrptrQ ordered room (inside.trans room) (Nat.ne_of_lt inside)
      rw [Function.update_of_ne apart, wordsOf_push_of_ne apart]
  · rw [openWords, entries]
    split_ifs with still
    · have apart := slot_ne_wrptrQ ordered room still (Nat.succ_ne_self regs.usedQ)
      have moved : (regs.push size wdata wlast).wrptrQ =
          Ring.slot regs.rdptrQ (regs.usedQ + 1) := by
        simp only [DataUpsizeRegs.push, closing, if_true]
        rw [ordered.behind, Ring.advance_slot]
      have next : (regs.push size wdata wlast).wordsQ (Ring.slot regs.rdptrQ (regs.usedQ + 1)) =
          0 := by
        have empty := ordered.clean (regs.usedQ + 1) (Nat.lt_succ_self _) still
        simp only [DataUpsizeRegs.push]
        split_ifs
        · rw [Function.update_of_ne apart, empty]
        · exact empty
      rw [moved, next]
      rfl
    · rfl

/-- Any other word stays in the entry being filled. -/
theorem Closed.push_of_open (closed : regs.Closed size groups) (ordered : regs.Ordered size)
    (room : regs.usedQ < depth) (wdata : Fin wr → α) {wlast : Bool}
    (stays : regs.closes size wlast = false) :
    (regs.push size wdata wlast).Closed size groups ∧
      (regs.push size wdata wlast).openWords = regs.openWords ++ [wdata] := by
  have bound := ordered.opened room
  have more : regs.wordsQ regs.wrptrQ < size - 1 := by
    simp only [DataUpsizeRegs.closes, Bool.or_eq_false_iff, decide_eq_false_iff_not] at stays
    omega
  have entries : (regs.push size wdata wlast).usedQ = regs.usedQ := by
    simp only [DataUpsizeRegs.push, stays, Bool.false_eq_true, if_false]
  have pointer : (regs.push size wdata wlast).wrptrQ = regs.wrptrQ := by
    simp only [DataUpsizeRegs.push, stays, Bool.false_eq_true, if_false]
  have words : (regs.push size wdata wlast).wordsQ regs.wrptrQ =
      regs.wordsQ regs.wrptrQ + 1 := by
    simp only [DataUpsizeRegs.push, more, if_true, Function.update_self]
  constructor
  · rcases closed with ⟨counts, limit, rfl⟩
    refine ⟨counts, limit, ?_⟩
    rw [entries]
    apply Ring.window_congr
    intro k inside
    have apart := slot_ne_wrptrQ ordered room (inside.trans room) (Nat.ne_of_lt inside)
    exact (wordsOf_push_of_ne apart (counts (Ring.slot regs.rdptrQ k)) wdata wlast).symm
  · rw [openWords, entries, if_pos room, pointer, words, wordsOf_push_wrptrQ, openWords_eq room]

/-- The write half of an edge cuts as the sequence is cut. -/
theorem Closed.push (closed : regs.Closed size groups) (ordered : regs.Ordered size)
    (room : regs.usedQ < depth) (positive : 0 < size) (wdata : Fin wr → α) (wlast : Bool) :
    (regs.push size wdata wlast).Closed size
        (groups ++ (cutOne size regs.openWords wdata wlast).1) ∧
      (regs.push size wdata wlast).openWords = (cutOne size regs.openWords wdata wlast).2 := by
  have filled : regs.openWords.length + 1 = size ↔ regs.wordsQ regs.wrptrQ = size - 1 := by
    rw [openWords_eq room, length_wordsOf]
    omega
  have closes : (wlast || decide (regs.openWords.length + 1 = size)) =
      regs.closes size wlast := by
    rw [DataUpsizeRegs.closes, Bool.or_comm, decide_eq_decide.mpr filled]
  rw [cutOne, closes]
  cases closing : regs.closes size wlast with
  | true => exact closed.push_of_closes ordered room positive wdata closing
  | false =>
      rw [if_neg Bool.false_ne_true, List.append_nil]
      exact closed.push_of_open ordered room wdata closing

end Groups

end DataUpsizeRegs

/-- What the writer and the reader of an upsizer do in a cycle. -/
structure UpsizeCycle (wr : Nat) (α : Type u) where
  w : Bool
  wdata : Fin wr → α
  wlast : Bool
  r : Bool

namespace DataUpsize

variable {depth wr rd : Nat} {α : Type u} [NeZero depth]

def machine (depth wr rd : Nat) [NeZero depth] (initial : α) :
    Machine (DataUpsize depth wr rd α) (UpsizeCycle wr α) where
  reset := reset initial
  step fifo cycle := fifo.step cycle.w cycle.wdata cycle.wlast cycle.r

/-- The word written in a cycle, with its last flag. -/
def written (fifo : DataUpsize depth wr rd α) (cycle : UpsizeCycle wr α) :
    List ((Fin wr → α) × Bool) :=
  if cycle.w && fifo.wok then [(cycle.wdata, cycle.wlast)] else []

variable [NeZero wr]

/-- The word read in a cycle. -/
def read (fifo : DataUpsize depth wr rd α) (cycle : UpsizeCycle wr α) : List (Fin rd → α) :=
  if cycle.r && fifo.rok then [fifo.rdata rd] else []

variable [NeZero rd]

/-- A word that is read carries a group in its low parts. -/
def Carries (group : List (Fin wr → α)) (word : Fin rd → α) : Prop :=
  group <+: parts (rd / wr) wr word

end DataUpsize

/-! ## The downsizer -/

/-- The words that the downsizer makes of one: all its parts, the last one marked. -/
def markedParts {α : Type u} {total : Nat} [NeZero total] (count width : Nat)
    (word : Fin total → α) : List ((Fin width → α) × Bool) :=
  (List.range count).map fun j =>
    ((fun i => word (Fin.ofNat total (j * width + i.val))), decide (j + 1 = count))

namespace DataDownsizeRegs

variable {depth wr : Nat} {α : Type u} [NeZero wr]

/-- The parts that an entry still holds. -/
def remainingParts (size rd : Nat) (regs : DataDownsizeRegs depth wr α) (entry : Fin depth) :
    List ((Fin rd → α) × Bool) :=
  (markedParts size rd (regs.bufQ entry)).drop (size - regs.wordsQ entry - 1)

variable [NeZero depth]

/-- The parts that are still to be read, oldest first. -/
def pending (size rd : Nat) (regs : DataDownsizeRegs depth wr α) : List ((Fin rd → α) × Bool) :=
  (Ring.window (regs.remainingParts size rd) regs.rdptrQ regs.usedQ).flatten

section Parts

variable {rd size : Nat} {regs : DataDownsizeRegs depth wr α}

omit [NeZero depth] in
theorem remainingParts_eq_cons {entry : Fin depth} (positive : 0 < size)
    (bound : regs.wordsQ entry ≤ size - 1) :
    regs.remainingParts size rd entry =
      ((fun i => regs.bufQ entry
          (Fin.ofNat wr ((size - regs.wordsQ entry - 1) * rd + i.val))),
        decide (regs.wordsQ entry = 0)) ::
        (markedParts size rd (regs.bufQ entry)).drop (size - regs.wordsQ entry - 1 + 1) := by
  have inside : size - regs.wordsQ entry - 1 < (markedParts size rd (regs.bufQ entry)).length := by
    simp only [markedParts, List.length_map, List.length_range]
    omega
  have last : size - regs.wordsQ entry - 1 + 1 = size ↔ regs.wordsQ entry = 0 := by omega
  rw [remainingParts, List.drop_eq_getElem_cons inside]
  simp only [markedParts, List.getElem_map, List.getElem_range, last]

/-- Reading takes the current part of the oldest entry. -/
theorem pending_pop (ordered : regs.Ordered size) (positive : 0 < size) (filled : 0 < regs.usedQ)
    (total : wr / rd = size) :
    regs.pending size rd = (regs.rdata rd, regs.lastWord) :: regs.pop.pending size rd := by
  have bound := ordered.oldest filled
  have limit := ordered.used_le
  have oldest := Ring.window_succ_head (regs.remainingParts size rd) regs.rdptrQ (regs.usedQ - 1)
  rw [Nat.sub_add_cancel filled] at oldest
  rw [pending, oldest, List.flatten_cons, remainingParts_eq_cons positive bound, List.cons_append]
  congr 1
  · subst total
    rfl
  · cases last : regs.lastWord with
    | true =>
        have none : regs.wordsQ regs.rdptrQ = 0 := of_decide_eq_true last
        have all : size - regs.wordsQ regs.rdptrQ - 1 + 1 = size := by omega
        have beyond : (markedParts size rd (regs.bufQ regs.rdptrQ)).drop size = [] := by
          apply List.drop_eq_nil_of_le
          simp [markedParts]
        rw [all, beyond, List.nil_append, pending]
        simp only [pop, last, if_true, none, Nat.lt_irrefl, if_false]
        rfl
    | false =>
        have more : 0 < regs.wordsQ regs.rdptrQ := Nat.pos_of_ne_zero (of_decide_eq_false last)
        have next : size - (regs.wordsQ regs.rdptrQ - 1) - 1 =
            size - regs.wordsQ regs.rdptrQ - 1 + 1 := by omega
        have again := Ring.window_succ_head (regs.pop.remainingParts size rd) regs.rdptrQ
          (regs.usedQ - 1)
        rw [Nat.sub_add_cancel filled] at again
        have here : regs.pop.remainingParts size rd regs.rdptrQ =
            (markedParts size rd (regs.bufQ regs.rdptrQ)).drop
              (size - regs.wordsQ regs.rdptrQ - 1 + 1) := by
          simp only [remainingParts, pop, more, if_true, Function.update_self, next]
        have others : Ring.window (regs.pop.remainingParts size rd) (advance regs.rdptrQ)
              (regs.usedQ - 1) =
            Ring.window (regs.remainingParts size rd) (advance regs.rdptrQ) (regs.usedQ - 1) := by
          apply Ring.window_congr
          intro k inside
          have apart : Ring.slot (advance regs.rdptrQ) k ≠ regs.rdptrQ := by
            rw [← Ring.slot_succ]
            exact Ring.slot_ne_head _ (Nat.succ_pos k) (by omega)
          simp only [remainingParts, pop, more, if_true, Function.update_of_ne apart]
        rw [← here, ← others, ← List.flatten_cons, ← again, pending]
        simp only [pop, last, Bool.false_eq_true, if_false]

/-- Writing adds all parts of the word. -/
theorem pending_push (ordered : regs.Ordered size) (positive : 0 < size)
    (room : regs.usedQ < depth) (wdata : Fin wr → α) :
    (regs.push size wdata).pending size rd = regs.pending size rd ++ markedParts size rd wdata := by
  have others : Ring.window ((regs.push size wdata).remainingParts size rd) regs.rdptrQ
        regs.usedQ = Ring.window (regs.remainingParts size rd) regs.rdptrQ regs.usedQ := by
    apply Ring.window_congr
    intro k inside
    have other : Ring.slot regs.rdptrQ k ≠ regs.wrptrQ := by
      rw [ordered.behind]
      exact Ring.slot_ne regs.rdptrQ (inside.trans room) room (Nat.ne_of_lt inside)
    simp only [remainingParts, push, Function.update_of_ne other]
  have newest : (regs.push size wdata).remainingParts size rd regs.wrptrQ =
      markedParts size rd wdata := by
    have none : size - (size - 1) - 1 = 0 := by omega
    simp only [remainingParts, push, Function.update_self, none, List.drop_zero]
  change (Ring.window _ regs.rdptrQ (regs.usedQ + 1)).flatten = _
  rw [Ring.window_succ_last, others, ← ordered.behind, newest, List.flatten_append,
    List.flatten_singleton, pending]

end Parts

end DataDownsizeRegs

namespace DataDownsize

variable {depth wr rd : Nat} {α : Type u} [NeZero depth]

def machine (depth wr rd : Nat) [NeZero depth] (initial : α) :
    Machine (DataDownsize depth wr rd α) (QueueCycle (Fin wr → α)) where
  reset := reset initial
  step fifo cycle := fifo.step cycle.w cycle.wdata cycle.r

/-- The word written in a cycle. -/
def written (fifo : DataDownsize depth wr rd α) (cycle : QueueCycle (Fin wr → α)) :
    List (Fin wr → α) :=
  if cycle.w && fifo.wok then [cycle.wdata] else []

variable [NeZero wr]

/-- The word read in a cycle, with `rlast_o`. -/
def read (fifo : DataDownsize depth wr rd α) (cycle : QueueCycle (Fin wr → α)) :
    List ((Fin rd → α) × Bool) :=
  if cycle.r && fifo.rok then [(fifo.rdata rd, fifo.rok && fifo.lastWord)] else []

/-- The parts that are still to be read, oldest first. -/
def pending (fifo : DataDownsize depth wr rd α) : List ((Fin rd → α) × Bool) :=
  fifo.toDataDownsizeRegs.pending (wr / rd) rd

theorem pending_step (positive : 0 < wr / rd) (initial : α) (fifo : DataDownsize depth wr rd α)
    (cycle : QueueCycle (Fin wr → α)) :
    fifo.pending ++ (fifo.written cycle).flatMap (markedParts (wr / rd) rd) =
      fifo.read cycle ++ ((machine depth wr rd initial).step fifo cycle).pending := by
  have stepped := DataDownsizeRegs.step_eq_push_pop fifo.ordered cycle.w cycle.wdata cycle.r
  simp only [machine, step, pending, stepped, written, read]
  have reading : fifo.toDataDownsizeRegs.pending (wr / rd) rd =
      (if cycle.r && fifo.rok then [(fifo.rdata rd, fifo.rok && fifo.lastWord)] else []) ++
        (if cycle.r && fifo.rok then fifo.pop else fifo.toDataDownsizeRegs).pending
          (wr / rd) rd := by
    split
    · rename_i reads
      have shown := (Bool.and_eq_true_iff.mp reads).2
      rw [shown, Bool.true_and]
      exact DataDownsizeRegs.pending_pop fifo.ordered positive
        (DataDownsizeRegs.pos_of_rok shown) rfl
    · rfl
  have ordered : (if cycle.r && fifo.rok then fifo.pop else fifo.toDataDownsizeRegs).Ordered
      (wr / rd) := by
    split
    · rename_i reads
      exact DataDownsizeRegs.ordered_pop fifo.ordered
        (DataDownsizeRegs.pos_of_rok (Bool.and_eq_true_iff.mp reads).2)
    · exact fifo.ordered
  rw [reading, List.append_assoc]
  congr 1
  cases writes : cycle.w && fifo.wok with
  | false => simp
  | true =>
      have free := DataDownsizeRegs.lt_of_wok fifo.ordered (Bool.and_eq_true_iff.mp writes).2
      have room : (if cycle.r && fifo.rok then fifo.pop else fifo.toDataDownsizeRegs).usedQ <
          depth := by
        split
        · refine Nat.lt_of_le_of_lt ?_ free
          simp only [DataDownsizeRegs.pop]
          split_ifs <;> omega
        · exact free
      simp only [if_true, List.flatMap_singleton]
      exact (DataDownsizeRegs.pending_push ordered positive room cycle.wdata).symm

end DataDownsize

/-! ## Both converters -/

namespace WidthConversion

section Sequences

variable {narrow wide : Nat} {α : Type u} [NeZero narrow] [NeZero wide]

end Sequences

end WidthConversion

end Cva6Hpd.Common
