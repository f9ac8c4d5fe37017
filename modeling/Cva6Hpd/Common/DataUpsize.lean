import Cva6Hpd.Common.Ring
import Mathlib.Data.List.OfFn

/-!
# The upsizer

`hpdcache_data_upsize`: a ring of wide entries written one narrow word at a
time. An entry is closed by its last word, or early by the last word of a
burst, and is then read at once. The elements it holds are read as a list,
oldest first: the closed entries, then the words of the open one.
-/

namespace Cva6Hpd.Common

open FifoRegs (advance)

universe u

/-- The registers of `hpdcache_data_upsize`; a written word is `wr` elements
wide. -/
structure DataUpsizeRegs (depth wr : Nat) (α : Type u) where
  bufQ : Fin depth → Nat → Fin wr → α
  wrptrQ : Fin depth
  rdptrQ : Fin depth
  usedQ : Nat
  wordsQ : Fin depth → Nat

namespace DataUpsizeRegs

variable {depth wr : Nat} {α : Type u}

def full (regs : DataUpsizeRegs depth wr α) : Bool := decide (regs.usedQ = depth)

def empty (regs : DataUpsizeRegs depth wr α) : Bool := decide (regs.usedQ = 0)

def wok (regs : DataUpsizeRegs depth wr α) : Bool := !regs.full

def rok (regs : DataUpsizeRegs depth wr α) : Bool := !regs.empty

/-- A write closes its entry: it is the last of the entry or of the burst. -/
def closes (wrWords : Nat) (regs : DataUpsizeRegs depth wr α) (wlast : Bool) : Bool :=
  decide (regs.wordsQ regs.wrptrQ = wrWords - 1) || wlast

/-- `rdata_o`: the words of the oldest entry, side by side. -/
def rdata [NeZero wr] (rd : Nat) (regs : DataUpsizeRegs depth wr α) : Fin rd → α :=
  fun i => regs.bufQ regs.rdptrQ (i.val / wr) (Fin.ofNat wr i.val)

def step [NeZero depth] (wrWords : Nat) (regs : DataUpsizeRegs depth wr α) (w : Bool)
    (wdata : Fin wr → α) (wlast r : Bool) : DataUpsizeRegs depth wr α where
  bufQ :=
    if w && regs.wok then
      Function.update regs.bufQ regs.wrptrQ
        (Function.update (regs.bufQ regs.wrptrQ) (regs.wordsQ regs.wrptrQ) wdata)
    else regs.bufQ
  wrptrQ :=
    if w && regs.wok && regs.closes wrWords wlast then advance regs.wrptrQ
    else regs.wrptrQ
  rdptrQ := if r && regs.rok then advance regs.rdptrQ else regs.rdptrQ
  usedQ :=
    match w && regs.wok && regs.closes wrWords wlast, r && regs.rok with
    | true, false => regs.usedQ + 1
    | false, true => regs.usedQ - 1
    | _, _ => regs.usedQ
  wordsQ :=
    let counted :=
      if w && regs.wok && decide (regs.wordsQ regs.wrptrQ < wrWords - 1) then
        Function.update regs.wordsQ regs.wrptrQ (regs.wordsQ regs.wrptrQ + 1)
      else regs.wordsQ
    if r && regs.rok then Function.update counted regs.rdptrQ 0 else counted

/-- The states the registers can be in: the write pointer is behind the closed
entries, and the entries after it have no words. -/
structure Ordered [NeZero depth] (wrWords : Nat) (regs : DataUpsizeRegs depth wr α) :
    Prop where
  used_le : regs.usedQ ≤ depth
  behind : regs.wrptrQ = Ring.slot regs.rdptrQ regs.usedQ
  opened : regs.usedQ < depth → regs.wordsQ regs.wrptrQ ≤ wrWords - 1
  clean : ∀ k, regs.usedQ < k → k < depth → regs.wordsQ (Ring.slot regs.rdptrQ k) = 0

/-- The first `count` words of an entry, one after the other. -/
def packed (regs : DataUpsizeRegs depth wr α) (count : Nat) (entry : Fin depth) : List α :=
  (List.range count).flatMap fun j => List.ofFn (regs.bufQ entry j)

/-- The words of the entry being filled. -/
def openPart (regs : DataUpsizeRegs depth wr α) : List α :=
  if regs.usedQ < depth then regs.packed (regs.wordsQ regs.wrptrQ) regs.wrptrQ else []

section Refinement

variable [NeZero depth]

/-- The elements of the buffer, oldest first. -/
def contents (wrWords : Nat) (regs : DataUpsizeRegs depth wr α) : List α :=
  (Ring.window (regs.packed wrWords) regs.rdptrQ regs.usedQ).flatten ++ regs.openPart

omit [NeZero depth] in
@[simp]
theorem length_packed (regs : DataUpsizeRegs depth wr α) (count : Nat) (entry : Fin depth) :
    (regs.packed count entry).length = count * wr := by
  simp [packed, List.length_flatMap, List.map_const']

theorem length_closed (regs : DataUpsizeRegs depth wr α) (wrWords : Nat) (head : Fin depth)
    (count : Nat) :
    (Ring.window (regs.packed wrWords) head count).flatten.length =
      count * (wrWords * wr) := by
  simp [Ring.window, List.length_flatten, Function.comp_def, List.map_const']

theorem length_contents (wrWords : Nat) (regs : DataUpsizeRegs depth wr α) :
    (regs.contents wrWords).length =
      regs.usedQ * (wrWords * wr) + regs.openPart.length := by
  rw [contents, List.length_append, length_closed]

theorem length_openPart_lt {wrWords : Nat} {regs : DataUpsizeRegs depth wr α}
    (ordered : regs.Ordered wrWords) (positive : 0 < wrWords) :
    regs.openPart.length + wr ≤ wrWords * wr := by
  rw [openPart]
  split_ifs with room
  · have bound := ordered.opened room
    rw [length_packed]
    calc regs.wordsQ regs.wrptrQ * wr + wr
        = (regs.wordsQ regs.wrptrQ + 1) * wr := (Nat.succ_mul _ _).symm
      _ ≤ wrWords * wr := Nat.mul_le_mul_right wr (by omega)
  · rw [List.length_nil, Nat.zero_add]
    exact Nat.le_mul_of_pos_left wr positive

omit [NeZero depth] in
theorem ofFn_words [NeZero wr] (words : Nat → Fin wr → α) {count width : Nat}
    (widths : width = count * wr) :
    List.ofFn (fun i : Fin width => words (i.val / wr) (Fin.ofNat wr i.val)) =
      (List.range count).flatMap fun j => List.ofFn (words j) := by
  subst widths
  have listed : (List.range count).map (fun j => List.ofFn (words j)) =
      List.ofFn fun j : Fin count => List.ofFn (words j.val) := by
    apply List.ext_getElem <;> simp
  rw [List.ofFn_mul, List.flatMap_def, listed]
  congr 1
  apply congrArg List.ofFn
  funext j
  apply congrArg List.ofFn
  funext k
  have quotient : (j.val * wr + k.val) / wr = j.val := by
    rw [Nat.mul_comm, Nat.mul_add_div (Nat.pos_of_neZero wr), Nat.div_eq_of_lt k.isLt,
      Nat.add_zero]
  have remainder : Fin.ofNat wr (j.val * wr + k.val) = k := by
    apply Fin.ext
    rw [Fin.val_ofNat, Nat.mul_add_mod_self_right, Nat.mod_eq_of_lt k.isLt]
  simp only [quotient, remainder]

/-! ### The two halves of a clock edge -/

/-- The read half of a clock edge. -/
def pop (regs : DataUpsizeRegs depth wr α) : DataUpsizeRegs depth wr α :=
  { regs with
    rdptrQ := advance regs.rdptrQ
    usedQ := regs.usedQ - 1
    wordsQ := Function.update regs.wordsQ regs.rdptrQ 0 }

/-- The write half of a clock edge. -/
def push (wrWords : Nat) (regs : DataUpsizeRegs depth wr α) (wdata : Fin wr → α)
    (wlast : Bool) : DataUpsizeRegs depth wr α where
  bufQ :=
    Function.update regs.bufQ regs.wrptrQ
      (Function.update (regs.bufQ regs.wrptrQ) (regs.wordsQ regs.wrptrQ) wdata)
  wrptrQ := if regs.closes wrWords wlast then advance regs.wrptrQ else regs.wrptrQ
  rdptrQ := regs.rdptrQ
  usedQ := if regs.closes wrWords wlast then regs.usedQ + 1 else regs.usedQ
  wordsQ :=
    if regs.wordsQ regs.wrptrQ < wrWords - 1 then
      Function.update regs.wordsQ regs.wrptrQ (regs.wordsQ regs.wrptrQ + 1)
    else regs.wordsQ

/-- While entries are free, the write pointer is not the read pointer of a
filled buffer. -/
theorem wrptrQ_ne_rdptrQ {wrWords : Nat} {regs : DataUpsizeRegs depth wr α}
    (ordered : regs.Ordered wrWords) (filled : 0 < regs.usedQ) (room : regs.usedQ < depth) :
    regs.wrptrQ ≠ regs.rdptrQ := by
  rw [ordered.behind]
  exact Ring.slot_ne_head regs.rdptrQ filled room

theorem step_eq_push_pop {wrWords : Nat} {regs : DataUpsizeRegs depth wr α}
    (ordered : regs.Ordered wrWords) (w : Bool) (wdata : Fin wr → α) (wlast r : Bool) :
    regs.step wrWords w wdata wlast r =
      let popped := if r && regs.rok then regs.pop else regs
      if w && regs.wok then popped.push wrWords wdata wlast else popped := by
  cases reads : r && regs.rok with
  | false =>
      cases writes : w && regs.wok with
      | false => simp [step, reads, writes]
      | true =>
          cases closing : regs.closes wrWords wlast <;>
            simp [step, push, reads, writes, closing]
  | true =>
      have filled : 0 < regs.usedQ := by
        simp only [rok, empty, Bool.and_eq_true, Bool.not_eq_true',
          decide_eq_false_iff_not] at reads
        omega
      cases writes : w && regs.wok with
      | false => simp [step, pop, reads, writes]
      | true =>
          have room : regs.usedQ < depth := by
            have limit := ordered.used_le
            simp only [wok, full, Bool.and_eq_true, Bool.not_eq_true',
              decide_eq_false_iff_not] at writes
            omega
          have other := wrptrQ_ne_rdptrQ ordered filled room
          have kept : Function.update regs.wordsQ regs.rdptrQ 0 regs.wrptrQ =
              regs.wordsQ regs.wrptrQ :=
            Function.update_of_ne other _ _
          have same : regs.pop.closes wrWords wlast = regs.closes wrWords wlast := by
            rw [closes, closes]
            exact congrArg (fun n => decide (n = wrWords - 1) || wlast) kept
          have restored : regs.usedQ - 1 + 1 = regs.usedQ := by omega
          have commute (n : Nat) :
              Function.update (Function.update regs.wordsQ regs.wrptrQ n) regs.rdptrQ 0 =
                Function.update (Function.update regs.wordsQ regs.rdptrQ 0)
                  regs.wrptrQ n :=
            Function.update_comm other n 0 regs.wordsQ
          simp only [if_true, push, same]
          cases closing : regs.closes wrWords wlast <;>
            by_cases more : regs.wordsQ regs.wrptrQ < wrWords - 1 <;>
            simp [step, pop, reads, writes, closing, more, restored, commute, kept]

theorem ordered_pop {wrWords : Nat} {regs : DataUpsizeRegs depth wr α}
    (ordered : regs.Ordered wrWords) (filled : 0 < regs.usedQ) :
    regs.pop.Ordered wrWords := by
  have limit := ordered.used_le
  have moved (k : Nat) : Ring.slot (advance regs.rdptrQ) k = Ring.slot regs.rdptrQ (k + 1) :=
    (Ring.slot_succ regs.rdptrQ k).symm
  have behind : regs.wrptrQ = Ring.slot (advance regs.rdptrQ) (regs.usedQ - 1) := by
    rw [moved, Nat.sub_add_cancel filled, ordered.behind]
  constructor
  · simp only [pop]
    omega
  · exact behind
  · intro _
    simp only [pop]
    by_cases same : regs.wrptrQ = regs.rdptrQ
    · simp [same]
    · rw [Function.update_of_ne same]
      have room : regs.usedQ < depth := by
        rcases Nat.lt_or_ge regs.usedQ depth with room | full
        · exact room
        · have wraps : regs.usedQ = depth := by omega
          refine absurd ?_ same
          rw [ordered.behind, wraps, Ring.slot_depth]
      exact ordered.opened room
  · intro k beyond bound
    simp only [pop] at beyond ⊢
    rw [moved]
    by_cases last : k + 1 = depth
    · rw [last, Ring.slot_depth, Function.update_self]
    · rw [Function.update_of_ne (Ring.slot_ne_head _ (by omega) (by omega))]
      exact ordered.clean (k + 1) (by omega) (by omega)

theorem ordered_push {wrWords : Nat} {regs : DataUpsizeRegs depth wr α}
    (ordered : regs.Ordered wrWords) (room : regs.usedQ < depth) (wdata : Fin wr → α)
    (wlast : Bool) : (regs.push wrWords wdata wlast).Ordered wrWords := by
  have bound := ordered.opened room
  have untouched (k : Nat) (beyond : regs.usedQ < k) (inside : k < depth) :
      (regs.push wrWords wdata wlast).wordsQ (Ring.slot regs.rdptrQ k) = 0 := by
    have other : Ring.slot regs.rdptrQ k ≠ regs.wrptrQ := by
      rw [ordered.behind]
      exact Ring.slot_ne regs.rdptrQ inside room (by omega)
    simp only [push]
    split_ifs
    · rw [Function.update_of_ne other]
      exact ordered.clean k beyond inside
    · exact ordered.clean k beyond inside
  cases closing : regs.closes wrWords wlast with
  | true =>
      have next : (regs.push wrWords wdata wlast).wrptrQ =
          Ring.slot regs.rdptrQ (regs.usedQ + 1) := by
        simp only [push, closing, if_true]
        rw [ordered.behind, Ring.advance_slot]
      constructor
      · simp only [push, closing, if_true]
        omega
      · rw [next]
        simp only [push, closing, if_true]
      · intro still
        simp only [push, closing, if_true] at still
        rw [next, untouched _ (by omega) still]
        exact Nat.zero_le _
      · intro k beyond inside
        simp only [push, closing, if_true] at beyond
        exact untouched k (by omega) inside
  | false =>
      have more : regs.wordsQ regs.wrptrQ < wrWords - 1 := by
        simp only [closes, Bool.or_eq_false_iff, decide_eq_false_iff_not] at closing
        omega
      constructor
      · simp only [push, closing, Bool.false_eq_true, if_false]
        omega
      · simp only [push, closing, Bool.false_eq_true, if_false]
        exact ordered.behind
      · intro _
        simp only [push, closing, Bool.false_eq_true, if_false, more, if_true,
          Function.update_self]
        omega
      · intro k beyond inside
        simp only [push, closing, Bool.false_eq_true, if_false] at beyond
        exact untouched k beyond inside

/-! ### The elements after a read or a write -/

theorem contents_pop {wrWords : Nat} {regs : DataUpsizeRegs depth wr α}
    (ordered : regs.Ordered wrWords) (filled : 0 < regs.usedQ) :
    regs.pop.contents wrWords = (regs.contents wrWords).drop (wrWords * wr) := by
  have limit := ordered.used_le
  have oldest : (Ring.window (regs.packed wrWords) regs.rdptrQ regs.usedQ) =
      regs.packed wrWords regs.rdptrQ ::
        Ring.window (regs.packed wrWords) (advance regs.rdptrQ) (regs.usedQ - 1) := by
    rw [← Ring.window_succ_head, Nat.sub_add_cancel filled]
  have sameOpen : regs.pop.openPart = regs.openPart := by
    have left : regs.usedQ - 1 < depth := by omega
    simp only [openPart, pop, left, if_true]
    split_ifs with room
    · rw [Function.update_of_ne (wrptrQ_ne_rdptrQ ordered filled room)]
      rfl
    · have wraps : regs.usedQ = depth := by omega
      have head : regs.wrptrQ = regs.rdptrQ := by
        rw [ordered.behind, wraps, Ring.slot_depth]
      rw [head, Function.update_self]
      rfl
  rw [contents, contents, sameOpen, oldest, List.flatten_cons, List.append_assoc,
    List.drop_left' (length_packed regs wrWords _)]
  rfl

theorem packed_push_wrptrQ (wrWords : Nat) (regs : DataUpsizeRegs depth wr α)
    (wdata : Fin wr → α) (wlast : Bool) :
    (regs.push wrWords wdata wlast).packed (regs.wordsQ regs.wrptrQ + 1) regs.wrptrQ =
      regs.packed (regs.wordsQ regs.wrptrQ) regs.wrptrQ ++ List.ofFn wdata := by
  have earlier (j : Nat) (inside : j ∈ List.range (regs.wordsQ regs.wrptrQ)) :
      List.ofFn ((regs.push wrWords wdata wlast).bufQ regs.wrptrQ j) =
        List.ofFn (regs.bufQ regs.wrptrQ j) := by
    have other : j ≠ regs.wordsQ regs.wrptrQ := Nat.ne_of_lt (List.mem_range.mp inside)
    simp only [push, Function.update_self, Function.update_of_ne other]
  simp only [packed, List.range_succ, List.flatMap_append, List.flatMap_singleton]
  congr 1
  · exact List.flatMap_congr earlier
  · simp only [push, Function.update_self]

/-- A write does not touch the closed entries. -/
theorem closed_push {wrWords : Nat} {regs : DataUpsizeRegs depth wr α}
    (ordered : regs.Ordered wrWords) (room : regs.usedQ < depth) (wdata : Fin wr → α)
    (wlast : Bool) :
    Ring.window ((regs.push wrWords wdata wlast).packed wrWords) regs.rdptrQ regs.usedQ =
      Ring.window (regs.packed wrWords) regs.rdptrQ regs.usedQ := by
  apply Ring.window_congr
  intro k inside
  have other : Ring.slot regs.rdptrQ k ≠ regs.wrptrQ := by
    rw [ordered.behind]
    exact Ring.slot_ne regs.rdptrQ (by omega) room (by omega)
  simp only [packed, push, Function.update_of_ne other]

theorem contents_push {wrWords : Nat} {regs : DataUpsizeRegs depth wr α}
    (ordered : regs.Ordered wrWords) (positive : 0 < wrWords) (room : regs.usedQ < depth)
    (wdata : Fin wr → α) {wlast : Bool}
    (aligned : wlast = true → regs.wordsQ regs.wrptrQ = wrWords - 1) :
    (regs.push wrWords wdata wlast).contents wrWords =
      regs.contents wrWords ++ List.ofFn wdata := by
  have bound := ordered.opened room
  have written := packed_push_wrptrQ wrWords regs wdata wlast
  have before : regs.openPart = regs.packed (regs.wordsQ regs.wrptrQ) regs.wrptrQ := by
    simp only [openPart, room, if_true]
  by_cases last : regs.wordsQ regs.wrptrQ = wrWords - 1
  · have closing : regs.closes wrWords wlast = true := by simp [closes, last]
    have full : regs.wordsQ regs.wrptrQ + 1 = wrWords := by omega
    have after : (regs.push wrWords wdata wlast).openPart = [] := by
      simp only [openPart]
      split_ifs with still
      · have moved := ordered_push ordered room wdata wlast
        have next : (regs.push wrWords wdata wlast).wordsQ
            (regs.push wrWords wdata wlast).wrptrQ = 0 := by
          simp only [push, closing, if_true, last, Nat.lt_irrefl, if_false] at still ⊢
          rw [ordered.behind, Ring.advance_slot]
          exact ordered.clean _ (by omega) still
        rw [next]
        rfl
      · rfl
    have entries : (regs.push wrWords wdata wlast).usedQ = regs.usedQ + 1 := by
      simp only [push, closing, if_true]
    rw [full] at written
    rw [contents, contents, after, before, entries, List.append_nil]
    change (Ring.window _ regs.rdptrQ _).flatten = _
    rw [Ring.window_succ_last, closed_push ordered room, ← ordered.behind, written,
      List.flatten_append, List.flatten_singleton, List.append_assoc]
  · have notLast : wlast = false := by
      cases wlast with
      | false => rfl
      | true => exact absurd (aligned rfl) last
    have closing : regs.closes wrWords wlast = false := by simp [closes, last, notLast]
    have more : regs.wordsQ regs.wrptrQ < wrWords - 1 := by omega
    have after : (regs.push wrWords wdata wlast).openPart =
        (regs.push wrWords wdata wlast).packed (regs.wordsQ regs.wrptrQ + 1)
          regs.wrptrQ := by
      simp only [openPart, push, closing, Bool.false_eq_true, if_false, room, if_true, more,
        Function.update_self]
    have entries : (regs.push wrWords wdata wlast).usedQ = regs.usedQ := by
      simp only [push, closing, Bool.false_eq_true, if_false]
    rw [contents, contents, after, before, entries, written, ← List.append_assoc]
    change (Ring.window _ regs.rdptrQ _).flatten ++ _ ++ _ = _
    rw [closed_push ordered room]

/-! ### One clock edge -/

omit [NeZero depth] in
theorem pos_of_rok {regs : DataUpsizeRegs depth wr α} (filled : regs.rok = true) :
    0 < regs.usedQ := by
  simp only [rok, empty, Bool.not_eq_true', decide_eq_false_iff_not] at filled
  omega

theorem lt_of_wok {wrWords : Nat} {regs : DataUpsizeRegs depth wr α}
    (ordered : regs.Ordered wrWords) (room : regs.wok = true) : regs.usedQ < depth := by
  have limit := ordered.used_le
  simp only [wok, full, Bool.not_eq_true', decide_eq_false_iff_not] at room
  omega

theorem ordered_step {wrWords : Nat} {regs : DataUpsizeRegs depth wr α}
    (ordered : regs.Ordered wrWords) (w : Bool) (wdata : Fin wr → α) (wlast r : Bool) :
    (regs.step wrWords w wdata wlast r).Ordered wrWords := by
  rw [step_eq_push_pop ordered]
  have popped : (if r && regs.rok then regs.pop else regs).Ordered wrWords := by
    split_ifs with reads
    · exact ordered_pop ordered (pos_of_rok (Bool.and_eq_true_iff.mp reads).2)
    · exact ordered
  cases writes : w && regs.wok with
  | false => exact popped
  | true =>
      have room := lt_of_wok ordered (Bool.and_eq_true_iff.mp writes).2
      refine ordered_push popped ?_ wdata wlast
      split_ifs with reads
      · exact Nat.lt_of_le_of_lt (Nat.sub_le _ _) room
      · exact room

/-- One clock edge removes an entry when it reads and appends the written word
when it writes. The last word of a burst has to be the last of its entry. -/
theorem contents_step {wrWords : Nat} {regs : DataUpsizeRegs depth wr α}
    (ordered : regs.Ordered wrWords) (positive : 0 < wrWords) (w : Bool)
    (wdata : Fin wr → α) (wlast r : Bool)
    (aligned : w = true → regs.wok = true → wlast = true →
      regs.wordsQ regs.wrptrQ = wrWords - 1) :
    (regs.step wrWords w wdata wlast r).contents wrWords =
      (if r && regs.rok then (regs.contents wrWords).drop (wrWords * wr)
        else regs.contents wrWords) ++
        (if w && regs.wok then List.ofFn wdata else []) := by
  rw [step_eq_push_pop ordered]
  cases reads : r && regs.rok with
  | false =>
      cases writes : w && regs.wok with
      | false => simp
      | true =>
          have writing := Bool.and_eq_true_iff.mp writes
          have room := lt_of_wok ordered writing.2
          simp only [Bool.false_eq_true, if_false, if_true]
          exact contents_push ordered positive room wdata (aligned writing.1 writing.2)
  | true =>
      have filled := pos_of_rok (Bool.and_eq_true_iff.mp reads).2
      have popped := contents_pop ordered filled
      cases writes : w && regs.wok with
      | false => simpa using popped
      | true =>
          have writing := Bool.and_eq_true_iff.mp writes
          have room := lt_of_wok ordered writing.2
          have left : regs.pop.usedQ < depth := Nat.lt_of_le_of_lt (Nat.sub_le _ _) room
          have kept : regs.pop.wordsQ regs.pop.wrptrQ = regs.wordsQ regs.wrptrQ :=
            Function.update_of_ne (wrptrQ_ne_rdptrQ ordered filled room) _ _
          simp only [if_true]
          rw [← popped]
          refine contents_push (ordered_pop ordered filled) positive left wdata ?_
          intro last
          rw [kept]
          exact aligned writing.1 writing.2 last

end Refinement

end DataUpsizeRegs

/-- An upsizer in a state its registers can be in; a read word is `rd` elements
wide. -/
structure DataUpsize (depth wr rd : Nat) [NeZero depth] (α : Type u) extends
    DataUpsizeRegs depth wr α where
  ordered : toDataUpsizeRegs.Ordered (rd / wr)

namespace DataUpsize

variable {depth wr rd : Nat} [NeZero depth] {α : Type u}

def reset (initial : α) : DataUpsize depth wr rd α where
  bufQ := fun _ _ _ => initial
  wrptrQ := 0
  rdptrQ := 0
  usedQ := 0
  wordsQ := fun _ => 0
  ordered := by constructor <;> simp

def step (fifo : DataUpsize depth wr rd α) (w : Bool) (wdata : Fin wr → α)
    (wlast r : Bool) : DataUpsize depth wr rd α where
  toDataUpsizeRegs := fifo.toDataUpsizeRegs.step (rd / wr) w wdata wlast r
  ordered := DataUpsizeRegs.ordered_step fifo.ordered w wdata wlast r

/-- The elements of the buffer, oldest first. -/
def contents (fifo : DataUpsize depth wr rd α) : List α :=
  fifo.toDataUpsizeRegs.contents (rd / wr)

@[simp]
theorem contents_reset (initial : α) :
    (reset initial : DataUpsize depth wr rd α).contents = [] := by
  simp [contents, DataUpsizeRegs.contents, DataUpsizeRegs.openPart, DataUpsizeRegs.packed, reset]

section Widths

variable (narrow : wr < rd) (divides : wr ∣ rd)

include narrow divides

omit narrow in
theorem wrWords_mul : rd / wr * wr = rd := Nat.div_mul_cancel divides

theorem wrWords_pos : 0 < rd / wr := by
  have positive : 0 < wr := Nat.pos_of_dvd_of_pos divides (by omega)
  exact Nat.div_pos (by omega) positive

theorem length_contents (fifo : DataUpsize depth wr rd α) :
    fifo.contents.length = fifo.usedQ * rd + fifo.openPart.length ∧
      fifo.openPart.length + wr ≤ rd := by
  have short := DataUpsizeRegs.length_openPart_lt fifo.ordered (wrWords_pos narrow divides)
  have total := DataUpsizeRegs.length_contents (rd / wr) fifo.toDataUpsizeRegs
  rw [wrWords_mul divides] at short total
  exact ⟨total, short⟩

/-- The buffer is full when all its entries are closed. -/
theorem wok_eq_decide (fifo : DataUpsize depth wr rd α) :
    fifo.wok = decide ((fifo.contents.length + (wr - 1)) / rd < depth) := by
  rcases length_contents narrow divides fifo with ⟨total, short⟩
  have limit := fifo.ordered.used_le
  have positive : 0 < wr := Nat.pos_of_dvd_of_pos divides (by omega)
  have entries : (fifo.contents.length + (wr - 1)) / rd = fifo.usedQ := by
    rw [total, Nat.add_assoc, Nat.mul_comm, Nat.mul_add_div (by omega),
      Nat.div_eq_of_lt (by omega), Nat.add_zero]
  rw [entries, Bool.eq_iff_iff, decide_eq_true_eq]
  simp only [DataUpsizeRegs.wok, DataUpsizeRegs.full, Bool.not_eq_true',
    decide_eq_false_iff_not]
  omega

/-- An entry can be read when a whole read word is stored. -/
theorem rok_eq_decide (fifo : DataUpsize depth wr rd α) :
    fifo.rok = decide (rd ≤ fifo.contents.length) := by
  rcases length_contents narrow divides fifo with ⟨total, short⟩
  have positive : 0 < wr := Nat.pos_of_dvd_of_pos divides (by omega)
  rw [Bool.eq_iff_iff, decide_eq_true_eq, total]
  simp only [DataUpsizeRegs.rok, DataUpsizeRegs.empty, Bool.not_eq_true',
    decide_eq_false_iff_not]
  constructor
  · intro filled
    exact Nat.le_trans (Nat.le_mul_of_pos_left rd (by omega)) (Nat.le_add_right _ _)
  · intro enough none
    rw [none] at enough
    omega

omit narrow in
/-- The oldest elements are on the read port. -/
theorem ofFn_rdata [NeZero wr] {fifo : DataUpsize depth wr rd α} (filled : fifo.rok = true) :
    List.ofFn (fifo.rdata rd) = fifo.contents.take rd := by
  have count := DataUpsizeRegs.pos_of_rok filled
  have oldest : Ring.window (fifo.packed (rd / wr)) fifo.rdptrQ fifo.usedQ =
      fifo.packed (rd / wr) fifo.rdptrQ ::
        Ring.window (fifo.packed (rd / wr)) (FifoRegs.advance fifo.rdptrQ)
          (fifo.usedQ - 1) := by
    rw [← Ring.window_succ_head, Nat.sub_add_cancel count]
  have long : (fifo.packed (rd / wr) fifo.rdptrQ).length = rd := by
    rw [DataUpsizeRegs.length_packed, wrWords_mul divides]
  rw [contents, DataUpsizeRegs.contents, oldest, List.flatten_cons, List.append_assoc,
    List.take_left' long]
  exact DataUpsizeRegs.ofFn_words (fifo.bufQ fifo.rdptrQ) (wrWords_mul divides).symm

/-- One clock edge removes a read word when it reads and appends the written
word when it writes. The last word of a burst has to complete a read word. -/
theorem contents_step (fifo : DataUpsize depth wr rd α) (w : Bool) (wdata : Fin wr → α)
    (wlast r : Bool)
    (aligned : w = true → wlast = true → rd ∣ fifo.contents.length + wr) :
    (fifo.step w wdata wlast r).contents =
      (if r && fifo.rok then fifo.contents.drop rd else fifo.contents) ++
        (if w && fifo.wok then List.ofFn wdata else []) := by
  have stepped := DataUpsizeRegs.contents_step fifo.ordered (wrWords_pos narrow divides) w
    wdata wlast r
  rw [wrWords_mul divides] at stepped
  apply stepped
  intro writes room last
  have free := DataUpsizeRegs.lt_of_wok fifo.ordered room
  have bound := fifo.ordered.opened free
  have positive : 0 < wr := Nat.pos_of_dvd_of_pos divides (by omega)
  have rest : rd ∣ (fifo.wordsQ fifo.wrptrQ + 1) * wr := by
    have whole := aligned writes last
    rw [(length_contents narrow divides fifo).1, DataUpsizeRegs.openPart, if_pos free,
      DataUpsizeRegs.length_packed, Nat.add_assoc, ← Nat.succ_mul] at whole
    exact (Nat.dvd_add_right (Dvd.intro_left _ rfl)).mp whole
  have words : rd / wr ∣ fifo.wordsQ fifo.wrptrQ + 1 :=
    Nat.dvd_of_mul_dvd_mul_right positive (by rwa [wrWords_mul divides])
  have reached := Nat.le_of_dvd (Nat.succ_pos _) words
  omega

end Widths

end DataUpsize

end Cva6Hpd.Common
