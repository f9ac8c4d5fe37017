import Cva6Hpd.Common.Ring
import Mathlib.Data.List.OfFn

/-!
# The downsizer

`hpdcache_data_downsize`: a ring of wide entries read one narrow word at a
time. An entry counts the words it still holds after the current one, and is
freed with its last word. The elements it holds are read as a list, oldest
first: what is left of the oldest entry, then the other entries.
-/

namespace Cva6Hpd.Common

open FifoRegs (advance)

universe u

/-- The registers of `hpdcache_data_downsize`; a written word is `wr` elements
wide. -/
structure DataDownsizeRegs (depth wr : Nat) (α : Type u) where
  bufQ : Fin depth → Fin wr → α
  wrptrQ : Fin depth
  rdptrQ : Fin depth
  usedQ : Nat
  wordsQ : Fin depth → Nat

namespace DataDownsizeRegs

variable {depth wr : Nat} {α : Type u}

def full (regs : DataDownsizeRegs depth wr α) : Bool := decide (regs.usedQ = depth)

def empty (regs : DataDownsizeRegs depth wr α) : Bool := decide (regs.usedQ = 0)

def wok (regs : DataDownsizeRegs depth wr α) : Bool := !regs.full

def rok (regs : DataDownsizeRegs depth wr α) : Bool := !regs.empty

/-- The current word of the oldest entry is its last. -/
def lastWord (regs : DataDownsizeRegs depth wr α) : Bool :=
  decide (regs.wordsQ regs.rdptrQ = 0)

/-- `rdata_o`: the current word of the oldest entry. -/
def rdata [NeZero wr] (rd : Nat) (regs : DataDownsizeRegs depth wr α) : Fin rd → α :=
  fun i =>
    regs.bufQ regs.rdptrQ
      (Fin.ofNat wr ((wr / rd - regs.wordsQ regs.rdptrQ - 1) * rd + i.val))

def step [NeZero depth] (rdWords : Nat) (regs : DataDownsizeRegs depth wr α) (w : Bool)
    (wdata : Fin wr → α) (r : Bool) : DataDownsizeRegs depth wr α where
  bufQ :=
    if w && regs.wok then Function.update regs.bufQ regs.wrptrQ wdata else regs.bufQ
  wrptrQ := if w && regs.wok then advance regs.wrptrQ else regs.wrptrQ
  rdptrQ := if r && regs.rok && regs.lastWord then advance regs.rdptrQ else regs.rdptrQ
  usedQ :=
    match w && regs.wok, r && regs.rok && regs.lastWord with
    | true, false => regs.usedQ + 1
    | false, true => regs.usedQ - 1
    | _, _ => regs.usedQ
  wordsQ :=
    let filled :=
      if w && regs.wok then Function.update regs.wordsQ regs.wrptrQ (rdWords - 1)
      else regs.wordsQ
    if r && regs.rok && decide (0 < regs.wordsQ regs.rdptrQ) then
      Function.update filled regs.rdptrQ (regs.wordsQ regs.rdptrQ - 1)
    else filled

/-- The states the registers can be in: the write pointer is behind the used
entries, of which only the oldest has been read from. -/
structure Ordered [NeZero depth] (rdWords : Nat) (regs : DataDownsizeRegs depth wr α) :
    Prop where
  used_le : regs.usedQ ≤ depth
  behind : regs.wrptrQ = Ring.slot regs.rdptrQ regs.usedQ
  oldest : 0 < regs.usedQ → regs.wordsQ regs.rdptrQ ≤ rdWords - 1
  whole : ∀ k, 0 < k → k < regs.usedQ →
    regs.wordsQ (Ring.slot regs.rdptrQ k) = rdWords - 1

/-- What is left of an entry; a read word is `rd` elements wide. -/
def remaining (rdWords rd : Nat) (regs : DataDownsizeRegs depth wr α) (entry : Fin depth) :
    List α :=
  (List.ofFn (regs.bufQ entry)).drop ((rdWords - regs.wordsQ entry - 1) * rd)

section Refinement

variable [NeZero depth]

/-- The elements of the buffer, oldest first. -/
def contents (rdWords rd : Nat) (regs : DataDownsizeRegs depth wr α) : List α :=
  (Ring.window (regs.remaining rdWords rd) regs.rdptrQ regs.usedQ).flatten

omit [NeZero depth] in
theorem length_remaining {rdWords rd : Nat} (widths : rdWords * rd = wr)
    (positive : 0 < rdWords) {regs : DataDownsizeRegs depth wr α} {entry : Fin depth}
    (bound : regs.wordsQ entry ≤ rdWords - 1) :
    (regs.remaining rdWords rd entry).length = (regs.wordsQ entry + 1) * rd := by
  have parts : (rdWords - regs.wordsQ entry - 1) + (regs.wordsQ entry + 1) = rdWords := by
    omega
  have total : (rdWords - regs.wordsQ entry - 1) * rd + (regs.wordsQ entry + 1) * rd = wr := by
    rw [← Nat.add_mul, parts, widths]
  rw [remaining, List.length_drop, List.length_ofFn]
  omega

/-! ### The two halves of a clock edge -/

/-- The read half of a clock edge. -/
def pop (regs : DataDownsizeRegs depth wr α) : DataDownsizeRegs depth wr α :=
  { regs with
    rdptrQ := if regs.lastWord then advance regs.rdptrQ else regs.rdptrQ
    usedQ := if regs.lastWord then regs.usedQ - 1 else regs.usedQ
    wordsQ :=
      if 0 < regs.wordsQ regs.rdptrQ then
        Function.update regs.wordsQ regs.rdptrQ (regs.wordsQ regs.rdptrQ - 1)
      else regs.wordsQ }

/-- The write half of a clock edge. -/
def push (rdWords : Nat) (regs : DataDownsizeRegs depth wr α) (wdata : Fin wr → α) :
    DataDownsizeRegs depth wr α where
  bufQ := Function.update regs.bufQ regs.wrptrQ wdata
  wrptrQ := advance regs.wrptrQ
  rdptrQ := regs.rdptrQ
  usedQ := regs.usedQ + 1
  wordsQ := Function.update regs.wordsQ regs.wrptrQ (rdWords - 1)

omit [NeZero depth] in
theorem pos_of_rok {regs : DataDownsizeRegs depth wr α} (filled : regs.rok = true) :
    0 < regs.usedQ := by
  simp only [rok, empty, Bool.not_eq_true', decide_eq_false_iff_not] at filled
  omega

theorem lt_of_wok {rdWords : Nat} {regs : DataDownsizeRegs depth wr α}
    (ordered : regs.Ordered rdWords) (room : regs.wok = true) : regs.usedQ < depth := by
  have limit := ordered.used_le
  simp only [wok, full, Bool.not_eq_true', decide_eq_false_iff_not] at room
  omega

theorem step_eq_push_pop {rdWords : Nat} {regs : DataDownsizeRegs depth wr α}
    (ordered : regs.Ordered rdWords) (w : Bool) (wdata : Fin wr → α) (r : Bool) :
    regs.step rdWords w wdata r =
      let popped := if r && regs.rok then regs.pop else regs
      if w && regs.wok then popped.push rdWords wdata else popped := by
  cases reads : r && regs.rok with
  | false =>
      cases writes : w && regs.wok <;> simp [step, push, reads, writes]
  | true =>
      have filled := pos_of_rok (Bool.and_eq_true_iff.mp reads).2
      cases writes : w && regs.wok with
      | false =>
          cases last : regs.lastWord <;>
            by_cases more : 0 < regs.wordsQ regs.rdptrQ <;>
            simp [step, pop, reads, writes, last, more]
      | true =>
          have room := lt_of_wok ordered (Bool.and_eq_true_iff.mp writes).2
          have other : regs.wrptrQ ≠ regs.rdptrQ := by
            rw [ordered.behind]
            exact Ring.slot_ne_head regs.rdptrQ filled room
          have restored : regs.usedQ - 1 + 1 = regs.usedQ := by omega
          have commute (m n : Nat) :
              Function.update (Function.update regs.wordsQ regs.wrptrQ m) regs.rdptrQ n =
                Function.update (Function.update regs.wordsQ regs.rdptrQ n)
                  regs.wrptrQ m :=
            Function.update_comm other m n regs.wordsQ
          cases last : regs.lastWord <;>
            by_cases more : 0 < regs.wordsQ regs.rdptrQ <;>
            simp [step, pop, push, reads, writes, last, more, restored, commute]

theorem ordered_pop {rdWords : Nat} {regs : DataDownsizeRegs depth wr α}
    (ordered : regs.Ordered rdWords) (filled : 0 < regs.usedQ) :
    regs.pop.Ordered rdWords := by
  have limit := ordered.used_le
  cases last : regs.lastWord with
  | true =>
      have none : regs.wordsQ regs.rdptrQ = 0 := of_decide_eq_true last
      constructor
      · simp only [pop, last, if_true]
        omega
      · simp only [pop, last, if_true]
        rw [← Ring.slot_succ, Nat.sub_add_cancel filled, ordered.behind]
      · simp only [pop, last, if_true, none, Nat.lt_irrefl, if_false]
        intro more
        have second := ordered.whole 1 Nat.one_pos (by omega)
        rw [Ring.slot_succ, Ring.slot_zero] at second
        exact Nat.le_of_eq second
      · simp only [pop, last, if_true, none, Nat.lt_irrefl, if_false]
        intro k positive inside
        rw [← Ring.slot_succ]
        exact ordered.whole (k + 1) (Nat.succ_pos k) (by omega)
  | false =>
      have more : 0 < regs.wordsQ regs.rdptrQ :=
        Nat.pos_of_ne_zero (of_decide_eq_false last)
      constructor
      · simp only [pop, last, Bool.false_eq_true, if_false]
        exact limit
      · simp only [pop, last, Bool.false_eq_true, if_false]
        exact ordered.behind
      · simp only [pop, last, Bool.false_eq_true, if_false, more, if_true,
          Function.update_self]
        intro _
        have bound := ordered.oldest filled
        omega
      · simp only [pop, last, Bool.false_eq_true, if_false, more, if_true]
        intro k positive inside
        rw [Function.update_of_ne (Ring.slot_ne_head _ positive (by omega))]
        exact ordered.whole k positive inside

theorem ordered_push {rdWords : Nat} {regs : DataDownsizeRegs depth wr α}
    (ordered : regs.Ordered rdWords) (room : regs.usedQ < depth) (wdata : Fin wr → α) :
    (regs.push rdWords wdata).Ordered rdWords := by
  constructor
  · exact room
  · simp only [push]
    rw [ordered.behind, Ring.advance_slot]
  · intro _
    simp only [push]
    by_cases same : regs.rdptrQ = regs.wrptrQ
    · rw [same, Function.update_self]
    · rw [Function.update_of_ne same]
      refine ordered.oldest (Nat.pos_of_ne_zero fun none => same ?_)
      rw [ordered.behind, none, Ring.slot_zero]
  · intro k positive inside
    simp only [push] at inside ⊢
    rcases Nat.lt_succ_iff_lt_or_eq.mp inside with earlier | newest
    · have other : Ring.slot regs.rdptrQ k ≠ regs.wrptrQ := by
        rw [ordered.behind]
        exact Ring.slot_ne regs.rdptrQ (by omega) room (by omega)
      rw [Function.update_of_ne other]
      exact ordered.whole k positive earlier
    · rw [newest, ← ordered.behind, Function.update_self]

/-! ### The elements after a read or a write -/

/-- The oldest entry and the entries behind it. -/
theorem contents_eq_oldest {rdWords rd : Nat} {regs : DataDownsizeRegs depth wr α}
    (filled : 0 < regs.usedQ) :
    regs.contents rdWords rd = regs.remaining rdWords rd regs.rdptrQ ++
      (Ring.window (regs.remaining rdWords rd) (advance regs.rdptrQ)
        (regs.usedQ - 1)).flatten := by
  have oldest := Ring.window_succ_head (regs.remaining rdWords rd) regs.rdptrQ
    (regs.usedQ - 1)
  rw [Nat.sub_add_cancel filled] at oldest
  rw [contents, oldest, List.flatten_cons]

theorem contents_pop {rdWords rd : Nat} (widths : rdWords * rd = wr)
    (positive : 0 < rdWords) {regs : DataDownsizeRegs depth wr α}
    (ordered : regs.Ordered rdWords) (filled : 0 < regs.usedQ) :
    regs.pop.contents rdWords rd = (regs.contents rdWords rd).drop rd := by
  have limit := ordered.used_le
  have bound := ordered.oldest filled
  have long := length_remaining widths positive bound
  rw [contents_eq_oldest filled]
  cases last : regs.lastWord with
  | true =>
      have none : regs.wordsQ regs.rdptrQ = 0 := of_decide_eq_true last
      rw [none, Nat.zero_add, Nat.one_mul] at long
      rw [List.drop_left' long]
      simp only [contents, pop, last, if_true, none, Nat.lt_irrefl, if_false]
      rfl
  | false =>
      have more : 0 < regs.wordsQ regs.rdptrQ :=
        Nat.pos_of_ne_zero (of_decide_eq_false last)
      have shorter : regs.pop.remaining rdWords rd regs.rdptrQ =
          (regs.remaining rdWords rd regs.rdptrQ).drop rd := by
        have next : rdWords - (regs.wordsQ regs.rdptrQ - 1) - 1 =
            rdWords - regs.wordsQ regs.rdptrQ - 1 + 1 := by omega
        simp only [remaining, pop, more, if_true, Function.update_self, next,
          List.drop_drop, Nat.succ_mul]
      have others : Ring.window (regs.pop.remaining rdWords rd) (advance regs.rdptrQ)
            (regs.usedQ - 1) =
          Ring.window (regs.remaining rdWords rd) (advance regs.rdptrQ)
            (regs.usedQ - 1) := by
        apply Ring.window_congr
        intro k inside
        rw [← Ring.slot_succ]
        have other : Ring.slot regs.rdptrQ (k + 1) ≠ regs.rdptrQ :=
          Ring.slot_ne_head _ (Nat.succ_pos k) (by omega)
        simp only [remaining, pop, more, if_true, Function.update_of_ne other]
      have kept : regs.pop.usedQ = regs.usedQ := by
        simp only [pop, last, Bool.false_eq_true, if_false]
      have head : regs.pop.rdptrQ = regs.rdptrQ := by
        simp only [pop, last, Bool.false_eq_true, if_false]
      have enough : rd ≤ (regs.remaining rdWords rd regs.rdptrQ).length := by
        rw [long]
        exact Nat.le_mul_of_pos_left rd (Nat.succ_pos _)
      rw [contents_eq_oldest (by rw [kept]; exact filled), kept, head, shorter, others,
        List.drop_append_of_le_length enough]

theorem contents_push {rdWords rd : Nat} {regs : DataDownsizeRegs depth wr α}
    (positive : 0 < rdWords) (ordered : regs.Ordered rdWords) (room : regs.usedQ < depth)
    (wdata : Fin wr → α) :
    (regs.push rdWords wdata).contents rdWords rd =
      regs.contents rdWords rd ++ List.ofFn wdata := by
  have others : Ring.window ((regs.push rdWords wdata).remaining rdWords rd) regs.rdptrQ
        regs.usedQ =
      Ring.window (regs.remaining rdWords rd) regs.rdptrQ regs.usedQ := by
    apply Ring.window_congr
    intro k inside
    have other : Ring.slot regs.rdptrQ k ≠ regs.wrptrQ := by
      rw [ordered.behind]
      exact Ring.slot_ne regs.rdptrQ (by omega) room (by omega)
    simp only [remaining, push, Function.update_of_ne other]
  have newest : (regs.push rdWords wdata).remaining rdWords rd regs.wrptrQ =
      List.ofFn wdata := by
    have none : rdWords - (rdWords - 1) - 1 = 0 := by omega
    simp only [remaining, push, Function.update_self, none, Nat.zero_mul, List.drop_zero]
  change (Ring.window _ regs.rdptrQ (regs.usedQ + 1)).flatten = _
  rw [Ring.window_succ_last, others, ← ordered.behind, newest, List.flatten_append,
    List.flatten_singleton, contents]

/-! ### One clock edge -/

theorem ordered_step {rdWords : Nat} {regs : DataDownsizeRegs depth wr α}
    (ordered : regs.Ordered rdWords) (w : Bool) (wdata : Fin wr → α) (r : Bool) :
    (regs.step rdWords w wdata r).Ordered rdWords := by
  rw [step_eq_push_pop ordered]
  have popped : (if r && regs.rok then regs.pop else regs).Ordered rdWords := by
    split_ifs with reads
    · exact ordered_pop ordered (pos_of_rok (Bool.and_eq_true_iff.mp reads).2)
    · exact ordered
  cases writes : w && regs.wok with
  | false => exact popped
  | true =>
      have room := lt_of_wok ordered (Bool.and_eq_true_iff.mp writes).2
      refine ordered_push popped ?_ wdata
      split_ifs with reads
      · refine Nat.lt_of_le_of_lt ?_ room
        simp only [pop]
        split_ifs <;> omega
      · exact room

/-- One clock edge removes a word when it reads and appends the written word
when it writes. -/
theorem contents_step {rdWords rd : Nat} (widths : rdWords * rd = wr)
    (positive : 0 < rdWords) {regs : DataDownsizeRegs depth wr α}
    (ordered : regs.Ordered rdWords) (w : Bool) (wdata : Fin wr → α) (r : Bool) :
    (regs.step rdWords w wdata r).contents rdWords rd =
      (if r && regs.rok then (regs.contents rdWords rd).drop rd
        else regs.contents rdWords rd) ++
        (if w && regs.wok then List.ofFn wdata else []) := by
  rw [step_eq_push_pop ordered]
  cases reads : r && regs.rok with
  | false =>
      cases writes : w && regs.wok with
      | false => simp
      | true =>
          have room := lt_of_wok ordered (Bool.and_eq_true_iff.mp writes).2
          simp only [Bool.false_eq_true, if_false, if_true]
          exact contents_push positive ordered room wdata
  | true =>
      have filled := pos_of_rok (Bool.and_eq_true_iff.mp reads).2
      have popped := contents_pop widths positive ordered filled
      cases writes : w && regs.wok with
      | false => simpa using popped
      | true =>
          have room := lt_of_wok ordered (Bool.and_eq_true_iff.mp writes).2
          have left : regs.pop.usedQ < depth := by
            refine Nat.lt_of_le_of_lt ?_ room
            simp only [pop]
            split_ifs <;> omega
          simp only [if_true]
          rw [← popped]
          exact contents_push positive (ordered_pop ordered filled) left wdata

end Refinement

end DataDownsizeRegs

/-- A downsizer in a state its registers can be in; a read word is `rd` elements
wide. -/
structure DataDownsize (depth wr rd : Nat) [NeZero depth] (α : Type u) extends
    DataDownsizeRegs depth wr α where
  ordered : toDataDownsizeRegs.Ordered (wr / rd)

namespace DataDownsize

variable {depth wr rd : Nat} [NeZero depth] {α : Type u}

def reset (initial : α) : DataDownsize depth wr rd α where
  bufQ := fun _ _ => initial
  wrptrQ := 0
  rdptrQ := 0
  usedQ := 0
  wordsQ := fun _ => 0
  ordered := by constructor <;> simp

def step (fifo : DataDownsize depth wr rd α) (w : Bool) (wdata : Fin wr → α) (r : Bool) :
    DataDownsize depth wr rd α where
  toDataDownsizeRegs := fifo.toDataDownsizeRegs.step (wr / rd) w wdata r
  ordered := DataDownsizeRegs.ordered_step fifo.ordered w wdata r

/-- The elements of the buffer, oldest first. -/
def contents (fifo : DataDownsize depth wr rd α) : List α :=
  fifo.toDataDownsizeRegs.contents (wr / rd) rd

@[simp]
theorem contents_reset (initial : α) :
    (reset initial : DataDownsize depth wr rd α).contents = [] := by
  simp [contents, DataDownsizeRegs.contents, reset]

theorem contents_of_empty {fifo : DataDownsize depth wr rd α} (none : fifo.usedQ = 0) :
    fifo.contents = [] := by
  rw [contents, DataDownsizeRegs.contents, none, Ring.window_zero, List.flatten_nil]

section Widths

variable (narrow : rd < wr) (divides : rd ∣ wr)

include narrow divides

omit narrow in
theorem rdWords_mul : wr / rd * rd = wr := Nat.div_mul_cancel divides

theorem rdWords_pos : 0 < wr / rd := by
  have positive : 0 < rd := Nat.pos_of_dvd_of_pos divides (by omega)
  exact Nat.div_pos (by omega) positive

/-- One clock edge removes a read word when it reads and appends the written
word when it writes. -/
theorem contents_step (fifo : DataDownsize depth wr rd α) (w : Bool) (wdata : Fin wr → α)
    (r : Bool) :
    (fifo.step w wdata r).contents =
      (if r && fifo.rok then fifo.contents.drop rd else fifo.contents) ++
        (if w && fifo.wok then List.ofFn wdata else []) :=
  DataDownsizeRegs.contents_step (rdWords_mul divides) (rdWords_pos narrow divides)
    fifo.ordered w wdata r

/-- The oldest entry holds at least one read word, the others are whole. -/
theorem length_contents {fifo : DataDownsize depth wr rd α} (filled : 0 < fifo.usedQ) :
    fifo.contents.length =
      (fifo.remaining (wr / rd) rd fifo.rdptrQ).length + (fifo.usedQ - 1) * wr ∧
      rd ≤ (fifo.remaining (wr / rd) rd fifo.rdptrQ).length ∧
      (fifo.remaining (wr / rd) rd fifo.rdptrQ).length ≤ wr := by
  have positive := rdWords_pos narrow divides
  have widths := rdWords_mul divides
  have long := DataDownsizeRegs.length_remaining widths positive (fifo.ordered.oldest filled)
  have others : (Ring.window (fifo.remaining (wr / rd) rd) (FifoRegs.advance fifo.rdptrQ)
      (fifo.usedQ - 1)).flatten.length = (fifo.usedQ - 1) * wr := by
    have whole (k : Nat) (inside : k ∈ List.range (fifo.usedQ - 1)) :
        (fifo.remaining (wr / rd) rd (Ring.slot (FifoRegs.advance fifo.rdptrQ) k)).length =
          wr := by
      have bound := List.mem_range.mp inside
      have words := fifo.ordered.whole (k + 1) (Nat.succ_pos k) (by omega)
      rw [Ring.slot_succ] at words
      rw [DataDownsizeRegs.length_remaining widths positive (Nat.le_of_eq words), words,
        Nat.sub_add_cancel positive, widths]
    rw [Ring.window, List.length_flatten, List.map_map]
    simp only [Function.comp_def]
    rw [List.map_congr_left whole, List.map_const', List.sum_replicate_nat, List.length_range]
  refine ⟨?_, ?_, ?_⟩
  · rw [contents, DataDownsizeRegs.contents_eq_oldest filled, List.length_append, others]
  · rw [long]
    exact Nat.le_mul_of_pos_left rd (Nat.succ_pos _)
  · rw [DataDownsizeRegs.remaining, List.length_drop, List.length_ofFn]
    exact Nat.sub_le _ _

/-- The buffer is full when all its entries are used. -/
theorem wok_eq_decide (fifo : DataDownsize depth wr rd α) :
    fifo.wok = decide ((fifo.contents.length + (wr - 1)) / wr < depth) := by
  have limit := fifo.ordered.used_le
  have positive : 0 < rd := Nat.pos_of_dvd_of_pos divides (by omega)
  have entries : (fifo.contents.length + (wr - 1)) / wr = fifo.usedQ := by
    rcases Nat.eq_zero_or_pos fifo.usedQ with none | filled
    · rw [contents_of_empty none, none, List.length_nil]
      exact Nat.div_eq_of_lt (by omega)
    · rcases length_contents narrow divides filled with ⟨total, least, most⟩
      have split : fifo.usedQ * wr = wr + (fifo.usedQ - 1) * wr := by
        conv_lhs => rw [← Nat.sub_add_cancel filled, Nat.succ_mul, Nat.add_comm]
      apply Nat.div_eq_of_lt_le
      · omega
      · rw [Nat.succ_mul]
        omega
  rw [entries, Bool.eq_iff_iff, decide_eq_true_eq]
  simp only [DataDownsizeRegs.wok, DataDownsizeRegs.full, Bool.not_eq_true',
    decide_eq_false_iff_not]
  omega

/-- A word can be read when one is stored. -/
theorem rok_eq_decide (fifo : DataDownsize depth wr rd α) :
    fifo.rok = decide (rd ≤ fifo.contents.length) := by
  have positive : 0 < rd := Nat.pos_of_dvd_of_pos divides (by omega)
  rw [Bool.eq_iff_iff, decide_eq_true_eq]
  simp only [DataDownsizeRegs.rok, DataDownsizeRegs.empty, Bool.not_eq_true',
    decide_eq_false_iff_not]
  constructor
  · intro filled
    rcases length_contents narrow divides (Nat.pos_of_ne_zero filled) with ⟨total, least, _⟩
    omega
  · intro enough none
    rw [contents_of_empty none, List.length_nil] at enough
    omega

/-- The oldest elements are on the read port. -/
theorem ofFn_rdata [NeZero wr] {fifo : DataDownsize depth wr rd α}
    (filled : fifo.rok = true) : List.ofFn (fifo.rdata rd) = fifo.contents.take rd := by
  have count := DataDownsizeRegs.pos_of_rok filled
  rcases length_contents narrow divides count with ⟨_, least, _⟩
  rw [contents, DataDownsizeRegs.contents_eq_oldest count,
    List.take_append_of_le_length least]
  have enough := least
  rw [DataDownsizeRegs.remaining, List.length_drop, List.length_ofFn] at enough
  apply List.ext_getElem
  · rw [List.length_ofFn, List.length_take, Nat.min_eq_left least]
  · intro i inside _
    rw [List.length_ofFn] at inside
    rw [List.getElem_ofFn, List.getElem_take]
    simp only [DataDownsizeRegs.remaining, List.getElem_drop, List.getElem_ofFn,
      DataDownsizeRegs.rdata]
    congr 1
    exact Fin.ext (Nat.mod_eq_of_lt (by omega))

end Widths

end DataDownsize

end Cva6Hpd.Common
