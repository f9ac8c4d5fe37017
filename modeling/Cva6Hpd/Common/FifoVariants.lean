import Cva6Hpd.Common.FifoV3
import Cva6Hpd.Hw.Machine
import Mathlib.Data.Nat.Log

/-!
# Variants of the counting FIFO

`cva6_fifo_v3` keeps its entries in registers or in the memory of an FPGA. One kind of memory is
read in the cycle itself. The other kind, for Altera, is read at the clock edge before, at the next
read pointer; a word that is pushed into the empty queue is kept in a register beside it. The
variants are measured against a bounded queue with a flush. Those that read in the cycle are that
queue. The one for Altera is as well, except after a cycle in which the only entry is popped from
the memory while a word is pushed: the memory is then read where it is written, and the output shows
the word that was there before.
-/

namespace Cva6Hpd.Common

open Cva6Hpd.Hw
open Cva6Hpd.Common.FifoRegs (advance)

universe u

/-- The inputs of a FIFO with a flush in a cycle. -/
structure FifoCycle (α : Type u) where
  flush : Bool
  push : Bool
  data : α
  pop : Bool

/-! ## The bounded queue -/

namespace FlushedQueue

variable {α : Type u} (depth : Nat) (fallThrough : Bool) (stored : List α)

/-- Without entries the queue is a wire: a word goes in while it goes out. -/
def full (pop : Bool) : Bool := if depth = 0 then !pop else decide (depth ≤ stored.length)

/-- A word that is pushed into the empty queue falls through it, or goes through the wire. -/
def empty (push : Bool) : Bool :=
  stored.isEmpty && !((fallThrough || decide (depth = 0)) && push)

/-- The words that can be popped in the cycle, oldest first. -/
def offered (push : Bool) (data : α) : List α := stored ++ if push then [data] else []

def step (cycle : FifoCycle α) : List α :=
  if cycle.flush then []
  else if cycle.pop then (offered stored cycle.push cycle.data).tail
  else offered stored cycle.push cycle.data

def machine (α : Type u) : Machine (List α) (FifoCycle α) where
  reset := []
  step := step

/-- Nothing is pushed when the queue is full or popped when it is empty. -/
structure Legal (cycle : FifoCycle α) : Prop where
  push : cycle.push = true → full depth stored cycle.pop = false
  pop : cycle.pop = true → empty depth fallThrough stored cycle.push = false

instance (cycle : FifoCycle α) : Decidable (Legal depth fallThrough stored cycle) :=
  decidable_of_iff
    ((cycle.push = true → full depth stored cycle.pop = false) ∧
      (cycle.pop = true → empty depth fallThrough stored cycle.push = false))
    ⟨fun legal => ⟨legal.1, legal.2⟩, fun legal => ⟨legal.push, legal.pop⟩⟩

variable {depth fallThrough stored}

theorem Legal.wire {cycle : FifoCycle α} (legal : Legal 0 fallThrough [] cycle) :
    cycle.push = cycle.pop := by
  have push := legal.push
  have pop := legal.pop
  rcases cycle with ⟨flush, _ | _, data, _ | _⟩
  · rfl
  · simp [empty] at pop
  · simp [full] at push
  · rfl

theorem Legal.push_of_pop {cycle : FifoCycle α} (legal : Legal depth fallThrough [] cycle)
    (pop : cycle.pop = true) : cycle.push = true := by
  have some := legal.pop pop
  rw [empty, List.isEmpty_nil, Bool.true_and, Bool.not_eq_false', Bool.and_eq_true] at some
  exact some.2

end FlushedQueue

/-! ## The code -/

namespace Cva6FifoV3

/-- The parameters. -/
structure Params where
  fallThrough : Bool
  fpgaAltera : Bool
  depth : Nat
  fpgaEn : Bool

/-- `FifoDepth`. -/
def fifoDepth (depth : Nat) : Nat := if depth > 0 then depth else 1

theorem fifoDepth_pos (depth : Nat) : 0 < fifoDepth depth := by
  rw [fifoDepth]
  split
  · assumption
  · exact Nat.one_pos

instance (depth : Nat) : NeZero (fifoDepth depth) := ⟨Nat.ne_of_gt (fifoDepth_pos depth)⟩

/-- `ADDR_DEPTH`. -/
def addrDepth (depth : Nat) : Nat := if depth > 1 then Nat.clog 2 depth else 1

/-- The registers and the memory; `ramRdata` is the registered output of the synchronous memory.
Only the variant for Altera has the registers of the first word. -/
structure State (depth : Nat) (α : Type u) where
  fifo : FifoV3 (fifoDepth depth) α
  dataFtQ : α
  firstWordQ : Bool
  ramRdata : α

variable {α : Type u}

/-- The state after reset; the reset clears the registers and not the memories. -/
def init (p : Params) (cleared : α) (ram : Fin (fifoDepth p.depth) → α) (ramRdata : α) :
    State p.depth α where
  fifo := { FifoV3.init cleared with memQ := if p.fpgaEn then ram else fun _ => cleared }
  dataFtQ := cleared
  firstWordQ := false
  ramRdata := ramRdata

/-- `FPGA_EN && FPGA_ALTERA`. -/
def Params.altera (p : Params) : Bool := p.fpgaEn && p.fpgaAltera

section Code

variable (p : Params) (s : State p.depth α) (push : Bool) (data : α) (pop : Bool)

/-- `full_o`. -/
def fullO : Bool := if p.depth = 0 then !pop else s.fifo.full

/-- `empty_o`. -/
def emptyO : Bool := if p.depth = 0 then !push else s.fifo.empty && !(p.fallThrough && push)

/-- `usage_o`: the counter without its top bit. -/
def usageO : Nat := s.fifo.statusCntQ % 2 ^ addrDepth p.depth

/-- `fifo_ram_rdata`: the asynchronous memory is read at the read pointer. -/
def fifoRamRdata : α := if p.fpgaAltera then s.ramRdata else s.fifo.dataOut

/-- `data_o`. -/
def dataO : α :=
  if p.fallThrough && s.fifo.empty && push then data
  else if p.depth = 0 then data
  else if p.fpgaEn then
    if p.fpgaAltera && s.firstWordQ then s.dataFtQ else fifoRamRdata p s
  else s.fifo.dataOut

/-- A word enters. -/
def pushes : Bool := push && !fullO p s pop

/-- A word leaves. -/
def pops : Bool := pop && !emptyO p s push

/-- A word comes to the empty queue and is not only stored. -/
def passes : Bool := (p.fallThrough || p.altera) && (s.fifo.empty && push)

/-- `mem_n`, or the write to the memory. -/
def memN : Fin (fifoDepth p.depth) → α :=
  if pushes p s push pop then Function.update s.fifo.memQ s.fifo.writePointerQ data
  else s.fifo.memQ

/-- `write_pointer_n`. -/
def writePointerN : Fin (fifoDepth p.depth) :=
  if passes p s push && pop then s.fifo.writePointerQ
  else if pushes p s push pop then advance s.fifo.writePointerQ
  else s.fifo.writePointerQ

/-- `read_pointer_n`. -/
def readPointerN : Fin (fifoDepth p.depth) :=
  if passes p s push && pop then s.fifo.readPointerQ
  else if pops p s push pop then advance s.fifo.readPointerQ
  else s.fifo.readPointerQ

/-- `status_cnt_n`. -/
def statusCntN : Nat :=
  if passes p s push && pop then s.fifo.statusCntQ
  else if push && pop && !fullO p s pop && !emptyO p s push then s.fifo.statusCntQ
  else if pops p s push pop then s.fifo.statusCntQ - 1
  else if pushes p s push pop then s.fifo.statusCntQ + 1
  else s.fifo.statusCntQ

/-- `data_ft_n`. -/
def dataFtN : α := if passes p s push || pops p s push pop then data else s.dataFtQ

/-- `first_word_n`: the word beside the memory is the head of the queue. -/
def firstWordN : Bool :=
  if passes p s push then !pop
  else if pops p s push pop then s.firstWordQ && push
  else if pushes p s push pop then s.firstWordQ && pop
  else s.firstWordQ

end Code

/-- One clock edge. The synchronous memory is read at `fifo_ram_read_address`, which a flush does
not change, and gives what it held before the edge. -/
def step (p : Params) (cleared : α) (s : State p.depth α) (cycle : FifoCycle α) :
    State p.depth α where
  fifo := {
    memQ := memN p s cycle.push cycle.data cycle.pop
    readPointerQ := if cycle.flush then 0 else readPointerN p s cycle.push cycle.pop
    writePointerQ := if cycle.flush then 0 else writePointerN p s cycle.push cycle.pop
    statusCntQ := if cycle.flush then 0 else statusCntN p s cycle.push cycle.pop }
  dataFtQ := if cycle.flush then cleared else dataFtN p s cycle.push cycle.data cycle.pop
  firstWordQ := if cycle.flush then false else firstWordN p s cycle.push cycle.pop
  ramRdata := s.fifo.memQ (readPointerN p s cycle.push cycle.pop)

def machine (p : Params) (cleared : α) (ram : Fin (fifoDepth p.depth) → α) (ramRdata : α) :
    Machine (State p.depth α) (FifoCycle α) where
  reset := init p cleared ram ramRdata
  step := step p cleared

/-! ## What is compared -/

/-- The outputs of a cycle are those of the bounded queue, whatever the inputs of the cycle are.
The usage has the width of its port, and a word shows when the queue is not empty. -/
structure Agrees (p : Params) (s : State p.depth α) (stored : List α) : Prop where
  bound : stored.length ≤ p.depth
  full : ∀ pop, fullO p s pop = FlushedQueue.full p.depth stored pop
  empty : ∀ push, emptyO p s push = FlushedQueue.empty p.depth p.fallThrough stored push
  usage : usageO p s = stored.length % 2 ^ addrDepth p.depth
  data : ∀ push data, emptyO p s push = false →
    (FlushedQueue.offered stored push data).head? = some (dataO p s push data)

/-- A variant agrees with the queue before each cycle of a run and after the last one. -/
def AgreesAlong (p : Params) (cleared : α) (ram : Fin (fifoDepth p.depth) → α) (ramRdata : α)
    (cycles : List (FifoCycle α)) : Prop :=
  ∀ earlier, earlier <+: cycles → Agrees p ((machine p cleared ram ramRdata).run earlier)
    ((FlushedQueue.machine α).run earlier)

/-- The only entry is not popped from the memory while another word is pushed, unless the memory
holds that word where it is written. -/
def Current (p : Params) (s : State p.depth α) (cycle : FifoCycle α) : Prop :=
  cycle.flush = false → cycle.push = true → cycle.pop = true → s.firstWordQ = false →
    s.fifo.statusCntQ = 1 → s.fifo.memQ s.fifo.writePointerQ = cycle.data

instance (p : Params) [DecidableEq α] (s : State p.depth α) (cycle : FifoCycle α) :
    Decidable (Current p s cycle) :=
  inferInstanceAs (Decidable (_ → _))

/-! ## The entries -/

section Entries

variable {p : Params} {s : State p.depth α} {stored : List α}

/-- The entries are the words of the queue. -/
structure Tracks (p : Params) (s : State p.depth α) (stored : List α) : Prop where
  formed : s.fifo.Formed
  contents : s.fifo.contents = stored
  wire : p.depth = 0 → stored = []

theorem fifoDepth_of_pos {depth : Nat} (entries : depth ≠ 0) : fifoDepth depth = depth := by
  rw [fifoDepth, if_pos (Nat.pos_of_ne_zero entries)]

theorem Tracks.length (tracks : Tracks p s stored) : s.fifo.statusCntQ = stored.length := by
  rw [← tracks.contents, FifoV3.length_contents]

theorem Tracks.bound (tracks : Tracks p s stored) : stored.length ≤ p.depth := by
  by_cases none : p.depth = 0
  · rw [tracks.wire none]
    exact Nat.zero_le _
  · have limit := tracks.formed.statusCnt_le
    rw [tracks.length, fifoDepth_of_pos none] at limit
    exact limit

theorem Tracks.fullO (tracks : Tracks p s stored) (pop : Bool) :
    fullO p s pop = FlushedQueue.full p.depth stored pop := by
  rw [Cva6FifoV3.fullO, FlushedQueue.full]
  by_cases none : p.depth = 0
  · rw [if_pos none, if_pos none]
  · have limit := tracks.bound
    rw [if_neg none, if_neg none, FifoV3.full, tracks.length, fifoDepth_of_pos none,
      beq_eq_decide, decide_eq_decide]
    omega

theorem Tracks.empty (tracks : Tracks p s stored) : s.fifo.empty = stored.isEmpty := by
  rw [FifoV3.empty, tracks.length]
  cases stored <;> rfl

theorem Tracks.emptyO (tracks : Tracks p s stored) (push : Bool) :
    emptyO p s push = FlushedQueue.empty p.depth p.fallThrough stored push := by
  rw [Cva6FifoV3.emptyO, FlushedQueue.empty]
  by_cases none : p.depth = 0
  · rw [if_pos none, tracks.wire none, decide_eq_true none, Bool.or_true, List.isEmpty_nil,
      Bool.true_and, Bool.true_and]
  · rw [if_neg none, tracks.empty, decide_eq_false none, Bool.or_false]

theorem Tracks.pushes (tracks : Tracks p s stored) {cycle : FifoCycle α}
    (legal : FlushedQueue.Legal p.depth p.fallThrough stored cycle) :
    pushes p s cycle.push cycle.pop = cycle.push := by
  rw [Cva6FifoV3.pushes, tracks.fullO]
  cases push : cycle.push with
  | false => rfl
  | true => rw [legal.push push, Bool.not_false, Bool.and_true]

theorem Tracks.pops (tracks : Tracks p s stored) {cycle : FifoCycle α}
    (legal : FlushedQueue.Legal p.depth p.fallThrough stored cycle) :
    pops p s cycle.push cycle.pop = cycle.pop := by
  rw [Cva6FifoV3.pops, tracks.emptyO]
  cases pop : cycle.pop with
  | false => rfl
  | true => rw [legal.pop pop, Bool.not_false, Bool.and_true]

/-- A word that is pushed finds an entry. -/
theorem Tracks.room (tracks : Tracks p s stored) {cycle : FifoCycle α}
    (legal : FlushedQueue.Legal p.depth p.fallThrough stored cycle) (push : cycle.push = true) :
    s.fifo.full = false := by
  by_cases none : p.depth = 0
  · apply FifoV3.full_of_empty
    rw [tracks.empty, tracks.wire none, List.isEmpty_nil]
  · have room := legal.push push
    rwa [← tracks.fullO, Cva6FifoV3.fullO, if_neg none] at room

theorem Tracks.some (tracks : Tracks p s stored) {cycle : FifoCycle α}
    (legal : FlushedQueue.Legal p.depth p.fallThrough stored cycle) (pop : cycle.pop = true)
    (noPush : cycle.push = false) : s.fifo.empty = false := by
  rw [tracks.empty]
  cases words : stored with
  | cons x xs => rfl
  | nil =>
      rw [words] at legal
      rw [legal.push_of_pop pop] at noPush
      contradiction

end Entries

/-! ## A clock edge -/

section Edge

variable {p : Params} {cleared : α} {s : State p.depth α} {stored : List α} {cycle : FifoCycle α}

/-- The one entry that is there for the wire stays where it is. -/
theorem advance_of_wire (wire : p.depth = 0) (ptr : Fin (fifoDepth p.depth)) :
    advance ptr = ptr := by
  have one : fifoDepth p.depth = 1 := by
    rw [wire]
    rfl
  have first := ptr.isLt
  have second := (advance ptr).isLt
  apply Fin.ext
  omega

variable (tracks : Tracks p s stored)
  (legal : FlushedQueue.Legal p.depth p.fallThrough stored cycle)

include tracks legal

theorem memN_eq :
    memN p s cycle.push cycle.data cycle.pop = FifoV3.memN s.fifo cycle.push cycle.data := by
  rw [memN, FifoV3.memN, tracks.pushes legal]
  cases push : cycle.push with
  | false => rfl
  | true => rw [tracks.room legal push, Bool.not_false, Bool.and_true]

/-- A word that is popped from the empty queue passes, or goes through the wire: no pointer moves
in either case. -/
theorem pointer_eq (moves : Bool) (ptr : Fin (fifoDepth p.depth)) :
    (if passes p s cycle.push && cycle.pop then ptr else if moves then advance ptr else ptr) =
      if s.fifo.empty && cycle.push && cycle.pop then ptr
      else if moves then advance ptr else ptr := by
  rw [passes]
  cases through : s.fifo.empty && cycle.push with
  | false => rw [Bool.and_false]
  | true =>
      rw [Bool.and_true]
      cases pop : cycle.pop with
      | false => rw [Bool.and_false, Bool.and_false]
      | true =>
          by_cases wire : p.depth = 0
          · rw [advance_of_wire wire, ite_self, ite_self, ite_self]
          · have shown := legal.pop pop
            rw [Bool.and_eq_true] at through
            rw [← tracks.emptyO, Cva6FifoV3.emptyO, if_neg wire, through.1, through.2,
              Bool.true_and, Bool.and_true, Bool.not_eq_false'] at shown
            rw [shown, Bool.true_or, Bool.true_and]

theorem statusCntN_eq :
    statusCntN p s cycle.push cycle.pop =
      if s.fifo.empty && cycle.push && cycle.pop then s.fifo.statusCntQ
      else FifoV3.statusCntN s.fifo cycle.push cycle.pop := by
  have entered := tracks.pushes legal
  have left := tracks.pops legal
  have both : (cycle.push && cycle.pop && !fullO p s cycle.pop && !emptyO p s cycle.push) =
      (pushes p s cycle.push cycle.pop && pops p s cycle.push cycle.pop) := by
    rw [Cva6FifoV3.pushes, Cva6FifoV3.pops]
    cases cycle.push <;> cases cycle.pop <;> simp
  rw [statusCntN, both, entered, left, FifoV3.statusCntN]
  cases push : cycle.push with
  | true =>
      have room := tracks.room legal push
      cases cycle.pop <;> cases s.fifo.empty <;> simp [room]
  | false =>
      cases pop : cycle.pop with
      | true => simp [passes, tracks.some legal pop push]
      | false => simp

theorem fifo_step (noFlush : cycle.flush = false) :
    (step p cleared s cycle).fifo = s.fifo.stepThrough cycle.push cycle.data cycle.pop := by
  simp only [step, noFlush, Bool.false_eq_true, if_false, memN_eq tracks legal, writePointerN,
    readPointerN, pointer_eq tracks legal, statusCntN_eq tracks legal, tracks.pushes legal,
    tracks.pops legal]
  rw [FifoV3.stepThrough]
  split
  · rfl
  · rename_i stays
    have pushed : (cycle.push && !s.fifo.full) = cycle.push := by
      cases push : cycle.push with
      | false => rfl
      | true => rw [tracks.room legal push, Bool.not_false, Bool.and_true]
    have popped : (cycle.pop && !s.fifo.empty) = cycle.pop := by
      cases pop : cycle.pop with
      | false => rfl
      | true =>
          cases push : cycle.push with
          | false => rw [tracks.some legal pop push, Bool.not_false, Bool.and_true]
          | true => simpa [push, pop] using stays
    simp only [FifoV3.step, FifoV3.writePointerN, FifoV3.readPointerN, pushed, popped,
      Bool.false_eq_true, if_false]

/-- The entries follow the queue. -/
theorem Tracks.step : Tracks p (step p cleared s cycle) (FlushedQueue.step stored cycle) := by
  cases flush : cycle.flush with
  | true =>
      have cleaned : FlushedQueue.step stored cycle = [] := by
        rw [FlushedQueue.step, if_pos flush]
      rw [cleaned]
      have noEntry : (Cva6FifoV3.step p cleared s cycle).fifo.statusCntQ = 0 := by
        simp [Cva6FifoV3.step, flush]
      refine ⟨⟨?_, ?_⟩, ?_, fun _ => rfl⟩
      · rw [noEntry]
        exact Nat.zero_le _
      · rw [noEntry, Ring.slot_zero]
        simp [Cva6FifoV3.step, flush]
      · rw [← List.length_eq_zero_iff, FifoV3.length_contents, noEntry]
  | false =>
      have moved := @fifo_step _ p cleared s stored cycle tracks legal flush
      have offered : s.fifo.shown cycle.push cycle.data =
          FlushedQueue.offered stored cycle.push cycle.data := by
        rw [FifoV3.shown, FlushedQueue.offered, tracks.contents]
        cases push : cycle.push with
        | false => rfl
        | true => rw [tracks.room legal push, Bool.not_false, Bool.and_true]
      constructor
      · rw [moved]
        exact tracks.formed.stepThrough
      · rw [moved, FifoV3.contents_stepThrough tracks.formed, offered, FlushedQueue.step, flush,
          if_neg Bool.false_ne_true]
      · intro wire
        have words := tracks.wire wire
        rw [words, wire] at legal
        rw [words, FlushedQueue.step, FlushedQueue.offered, legal.wire]
        cases cycle.pop <;> simp

end Edge

/-! ## The word at the output -/

section Output

variable {p : Params} {cleared : α} {s : State p.depth α} {stored : List α} {cycle : FifoCycle α}

/-- The word beside the memory, or the word that was read from it. -/
def prefetched (s : State p.depth α) : α := if s.firstWordQ then s.dataFtQ else s.ramRdata

/-- The head of the queue is prefetched; it is beside the memory only while it is alone. -/
structure Prefetches (s : State p.depth α) (stored : List α) : Prop where
  head : ∀ x xs, stored = x :: xs → prefetched s = x
  alone : s.firstWordQ = true → stored.length = 1

theorem Tracks.agrees (tracks : Tracks p s stored)
    (head : p.altera = true → ∀ x xs, stored = x :: xs → prefetched s = x) :
    Agrees p s stored where
  bound := tracks.bound
  full := tracks.fullO
  empty := tracks.emptyO
  usage := by rw [usageO, tracks.length]
  data := by
    intro push data shown
    rw [dataO, tracks.empty]
    cases words : stored with
    | nil =>
        rw [tracks.emptyO, words, FlushedQueue.empty, List.isEmpty_nil, Bool.true_and,
          Bool.not_eq_false', Bool.and_eq_true, Bool.or_eq_true, decide_eq_true_eq] at shown
        rw [List.isEmpty_nil, Bool.and_true, shown.2, FlushedQueue.offered, Bool.and_true]
        rcases shown.1 with through | wire
        · rw [if_pos through]
          rfl
        · rw [if_pos wire, ite_self]
          rfl
    | cons x xs =>
        have entries : p.depth ≠ 0 := by
          intro wire
          rw [tracks.wire wire] at words
          contradiction
        have inMemory : s.fifo.dataOut = x := FifoV3.dataOut_eq (tracks.contents.trans words)
        rw [List.isEmpty_cons, Bool.and_false, Bool.false_and, if_neg Bool.false_ne_true,
          if_neg entries, inMemory, fifoRamRdata, inMemory]
        cases en : p.fpgaEn with
        | false => rfl
        | true =>
            cases kind : p.fpgaAltera with
            | false => rfl
            | true =>
                have altera : p.altera = true := by rw [Params.altera, en, kind, Bool.and_self]
                have shownWord := head altera x xs words
                rw [prefetched] at shownWord
                simp [FlushedQueue.offered, shownWord]

theorem ramRdata_step (tracks : Tracks p s stored)
    (legal : FlushedQueue.Legal p.depth p.fallThrough stored cycle) {x : α} {xs : List α}
    (words : stored = x :: xs) :
    (step p cleared s cycle).ramRdata =
      s.fifo.memQ (if cycle.pop then advance s.fifo.readPointerQ else s.fifo.readPointerQ) := by
  have filled : s.fifo.empty = false := by rw [tracks.empty, words, List.isEmpty_cons]
  rw [step, readPointerN, pointer_eq tracks legal, tracks.pops legal, filled, Bool.false_and,
    Bool.false_and, if_neg Bool.false_ne_true]

theorem firstWordQ_step (tracks : Tracks p s stored)
    (legal : FlushedQueue.Legal p.depth p.fallThrough stored cycle) {x : α} {xs : List α}
    (words : stored = x :: xs) (noFlush : cycle.flush = false) :
    (step p cleared s cycle).firstWordQ = (s.firstWordQ && (cycle.push == cycle.pop)) := by
  have filled : s.fifo.empty = false := by rw [tracks.empty, words, List.isEmpty_cons]
  rw [step, noFlush, if_neg Bool.false_ne_true, firstWordN, passes, filled, Bool.false_and,
    Bool.and_false, if_neg Bool.false_ne_true, tracks.pops legal, tracks.pushes legal]
  cases cycle.push <;> cases cycle.pop <;> simp

theorem dataFtQ_step (tracks : Tracks p s stored)
    (legal : FlushedQueue.Legal p.depth p.fallThrough stored cycle) {x : α} {xs : List α}
    (words : stored = x :: xs) (noFlush : cycle.flush = false) :
    (step p cleared s cycle).dataFtQ = if cycle.pop then cycle.data else s.dataFtQ := by
  have filled : s.fifo.empty = false := by rw [tracks.empty, words, List.isEmpty_cons]
  simp only [step, noFlush, Bool.false_eq_true, if_false, dataFtN, passes, filled, Bool.false_and,
    Bool.and_false, Bool.false_or, tracks.pops legal]

theorem firstWordQ_step_of_empty (altera : p.altera = true) (tracks : Tracks p s [])
    (legal : FlushedQueue.Legal p.depth p.fallThrough [] cycle) (unused : s.firstWordQ = false)
    (noFlush : cycle.flush = false) :
    (step p cleared s cycle).firstWordQ = (cycle.push && !cycle.pop) := by
  have nothing : s.fifo.empty = true := by rw [tracks.empty, List.isEmpty_nil]
  rw [step, noFlush, if_neg Bool.false_ne_true, firstWordN, passes, altera, nothing, unused,
    Bool.or_true, Bool.true_and, Bool.true_and, tracks.pops legal]
  cases push : cycle.push with
  | true => rfl
  | false =>
      cases pop : cycle.pop with
      | false => simp
      | true =>
          rw [legal.push_of_pop pop] at push
          contradiction

/-- The entry behind the head. -/
theorem memQ_advance {x y : α} {xs : List α} (tracks : Tracks p s (x :: y :: xs)) :
    s.fifo.memQ (advance s.fifo.readPointerQ) = y := by
  have words := tracks.contents
  rw [FifoV3.contents, tracks.length, List.length_cons, List.length_cons, Ring.window_succ_head,
    Ring.window_succ_head] at words
  exact (List.cons.inj (List.cons.inj words).2).1

/-- Behind a single entry the next word is written. -/
theorem writePointer_of_single {x : α} (tracks : Tracks p s [x]) :
    s.fifo.writePointerQ = advance s.fifo.readPointerQ := by
  rw [tracks.formed.writePointer_eq, tracks.length, List.length_singleton, Ring.slot_succ,
    Ring.slot_zero]

theorem prefetches_nil (unused : s.firstWordQ = false) : Prefetches s [] := by
  constructor
  · intro x xs words
    contradiction
  · intro used
    rw [unused] at used
    contradiction

/-- A word that is pushed into the empty queue is kept beside the memory. -/
theorem Prefetches.step_nil (altera : p.altera = true) (tracks : Tracks p s [])
    (legal : FlushedQueue.Legal p.depth p.fallThrough [] cycle) (prefetches : Prefetches s [])
    (noFlush : cycle.flush = false) :
    Prefetches (step p cleared s cycle) (FlushedQueue.step [] cycle) := by
  have unused : s.firstWordQ = false := by
    rw [Bool.eq_false_iff]
    intro used
    exact absurd (prefetches.alone used) Nat.zero_ne_one
  have used := @firstWordQ_step_of_empty _ p cleared s cycle altera tracks legal unused noFlush
  rw [FlushedQueue.step, noFlush, if_neg Bool.false_ne_true, FlushedQueue.offered, List.nil_append]
  cases push : cycle.push with
  | false =>
      rw [push, Bool.false_and] at used
      rw [if_neg Bool.false_ne_true, List.tail_nil, ite_self]
      exact prefetches_nil used
  | true =>
      rw [push, Bool.true_and] at used
      cases pop : cycle.pop with
      | true =>
          rw [pop] at used
          exact prefetches_nil used
      | false =>
          have nothing : s.fifo.empty = true := by rw [tracks.empty, List.isEmpty_nil]
          have kept : (Cva6FifoV3.step p cleared s cycle).dataFtQ = cycle.data := by
            simp [Cva6FifoV3.step, noFlush, dataFtN, passes, altera, nothing, push]
          rw [pop] at used
          constructor
          · intro x xs words
            rw [prefetched, used, Bool.not_false, if_pos rfl, kept]
            exact (List.cons.inj words).1
          · intro _
            rfl

theorem Prefetches.step_stay {x : α} {xs : List α} (tracks : Tracks p s (x :: xs))
    (legal : FlushedQueue.Legal p.depth p.fallThrough (x :: xs) cycle)
    (prefetches : Prefetches s (x :: xs)) (noFlush : cycle.flush = false)
    (stays : cycle.pop = false) :
    Prefetches (step p cleared s cycle) (FlushedQueue.step (x :: xs) cycle) := by
  have used := @firstWordQ_step _ p cleared s _ cycle tracks legal x xs rfl noFlush
  have kept := @dataFtQ_step _ p cleared s _ cycle tracks legal x xs rfl noFlush
  have read := @ramRdata_step _ p cleared s _ cycle tracks legal x xs rfl
  have inMemory : s.fifo.dataOut = x := FifoV3.dataOut_eq tracks.contents
  rw [stays, if_neg Bool.false_ne_true] at kept read
  rw [FlushedQueue.step, noFlush, stays, if_neg Bool.false_ne_true, if_neg Bool.false_ne_true,
    FlushedQueue.offered, List.cons_append]
  constructor
  · rintro y ys words
    rw [← (List.cons.inj words).1, prefetched]
    split
    · rename_i beside
      rw [used, Bool.and_eq_true] at beside
      have before := prefetches.head x xs rfl
      rwa [prefetched, if_pos beside.1, ← kept] at before
    · rw [read]
      exact inMemory
  · intro beside
    rw [used, stays, Bool.and_eq_true, beq_iff_eq] at beside
    rw [beside.2, if_neg Bool.false_ne_true, List.append_nil]
    exact prefetches.alone beside.1

/-- When a word is popped, the next one comes from the memory, or is kept beside it. -/
theorem Prefetches.step_move {x : α} {xs : List α} (tracks : Tracks p s (x :: xs))
    (legal : FlushedQueue.Legal p.depth p.fallThrough (x :: xs) cycle)
    (prefetches : Prefetches s (x :: xs)) (current : Current p s cycle)
    (noFlush : cycle.flush = false) (moves : cycle.pop = true) :
    Prefetches (step p cleared s cycle) (FlushedQueue.step (x :: xs) cycle) := by
  have used := @firstWordQ_step _ p cleared s _ cycle tracks legal x xs rfl noFlush
  have kept := @dataFtQ_step _ p cleared s _ cycle tracks legal x xs rfl noFlush
  have read := @ramRdata_step _ p cleared s _ cycle tracks legal x xs rfl
  have single : s.firstWordQ = true → xs = [] := by
    intro beside
    have one := prefetches.alone beside
    rw [List.length_cons] at one
    exact List.length_eq_zero_iff.mp (Nat.succ.inj one)
  rw [moves, if_pos rfl] at kept read
  rw [moves] at used
  rw [FlushedQueue.step, noFlush, moves, if_neg Bool.false_ne_true, if_pos rfl,
    FlushedQueue.offered, List.cons_append, List.tail_cons]
  constructor
  · intro y ys words
    rw [prefetched]
    split
    · rename_i beside
      rw [used, Bool.and_eq_true, beq_iff_eq] at beside
      rw [single beside.1, beside.2, if_pos rfl, List.nil_append] at words
      rw [kept, (List.cons.inj words).1]
    · rename_i notBeside
      rw [read]
      cases behind : xs with
      | cons z zs =>
          rw [behind] at tracks words
          rw [memQ_advance tracks]
          exact (List.cons.inj words).1
      | nil =>
          rw [behind, List.nil_append] at words
          cases push : cycle.push with
          | false =>
              rw [push, if_neg Bool.false_ne_true] at words
              contradiction
          | true =>
              rw [push, if_pos rfl] at words
              rw [used, push, beq_self_eq_true, Bool.and_true] at notBeside
              rw [behind] at tracks
              have written := current noFlush push moves (Bool.eq_false_iff.mpr notBeside)
                tracks.length
              rw [← writePointer_of_single tracks, written]
              exact (List.cons.inj words).1
  · intro beside
    rw [used, Bool.and_eq_true, beq_iff_eq] at beside
    rw [single beside.1, beside.2]
    rfl

theorem Prefetches.step (altera : p.altera = true) (tracks : Tracks p s stored)
    (legal : FlushedQueue.Legal p.depth p.fallThrough stored cycle)
    (prefetches : Prefetches s stored) (current : Current p s cycle) :
    Prefetches (step p cleared s cycle) (FlushedQueue.step stored cycle) := by
  cases flush : cycle.flush with
  | true =>
      rw [FlushedQueue.step, if_pos flush]
      apply prefetches_nil
      simp [Cva6FifoV3.step, flush]
  | false =>
      cases stored with
      | nil => exact prefetches.step_nil altera tracks legal flush
      | cons x xs =>
          cases pop : cycle.pop with
          | false => exact prefetches.step_stay tracks legal flush pop
          | true => exact prefetches.step_move tracks legal current flush pop

/-- If the head shows after the only entry was popped from the memory, it is what the memory held
where the word was written. -/
theorem current_of_agrees (altera : p.altera = true) (tracks : Tracks p s stored)
    (legal : FlushedQueue.Legal p.depth p.fallThrough stored cycle)
    (agrees : Agrees p (step p cleared s cycle) (FlushedQueue.step stored cycle)) :
    Current p s cycle := by
  intro noFlush push pop unused count
  have single : stored.length = 1 := tracks.length.symm.trans count
  obtain ⟨x, words⟩ := List.length_eq_one_iff.mp single
  have used := @firstWordQ_step _ p cleared s _ cycle tracks legal x [] words noFlush
  have read := @ramRdata_step _ p cleared s _ cycle tracks legal x [] words
  have next : FlushedQueue.step stored cycle = [cycle.data] := by
    rw [FlushedQueue.step, noFlush, pop, if_neg Bool.false_ne_true, if_pos rfl, words, push]
    rfl
  rw [next] at agrees
  have entries : p.depth ≠ 0 := by
    intro wire
    rw [tracks.wire wire] at words
    contradiction
  have shown := agrees.data false cycle.data (agrees.empty false)
  rw [words] at tracks
  rw [unused, Bool.false_and] at used
  rw [pop, if_pos rfl, ← writePointer_of_single tracks] at read
  rw [Params.altera, Bool.and_eq_true] at altera
  rw [dataO, Bool.and_false, if_neg Bool.false_ne_true, if_neg entries, altera.1, if_pos rfl, used,
    Bool.and_false, if_neg Bool.false_ne_true, fifoRamRdata, altera.2, if_pos rfl, read] at shown
  exact (Option.some.inj shown).symm

end Output

/-! ## Runs -/

section Runs

variable {p : Params} {cleared : α} {ram : Fin (fifoDepth p.depth) → α} {ramRdata : α}
  {cycles : List (FifoCycle α)}

theorem tracks_run
    (legal : (FlushedQueue.machine α).RunAlong (FlushedQueue.Legal p.depth p.fallThrough) cycles) :
    Tracks p ((machine p cleared ram ramRdata).run cycles)
      ((FlushedQueue.machine α).run cycles) := by
  induction cycles using List.reverseRecOn with
  | nil =>
      refine ⟨⟨Nat.zero_le _, ?_⟩, rfl, fun _ => rfl⟩
      exact (Ring.slot_zero _).symm
  | append_singleton cycles cycle inductionHypothesis =>
      rw [Machine.runAlong_concat] at legal
      rw [Machine.run_concat, Machine.run_concat]
      exact Tracks.step (inductionHypothesis legal.1) legal.2

theorem prefetches_run (altera : p.altera = true)
    (legal : (FlushedQueue.machine α).RunAlong (FlushedQueue.Legal p.depth p.fallThrough) cycles)
    (current : (machine p cleared ram ramRdata).RunAlong (Current p) cycles) :
    Prefetches ((machine p cleared ram ramRdata).run cycles)
      ((FlushedQueue.machine α).run cycles) := by
  induction cycles using List.reverseRecOn with
  | nil => exact prefetches_nil rfl
  | append_singleton cycles cycle inductionHypothesis =>
      rw [Machine.runAlong_concat] at legal current
      rw [Machine.run_concat, Machine.run_concat]
      exact (inductionHypothesis legal.1 current.1).step altera (tracks_run legal.1) legal.2
        current.2

theorem agrees_run_iff
    (legal : (FlushedQueue.machine α).RunAlong (FlushedQueue.Legal p.depth p.fallThrough) cycles) :
    AgreesAlong p cleared ram ramRdata cycles ↔
      (p.altera = true → (machine p cleared ram ramRdata).RunAlong (Current p) cycles) := by
  constructor
  · intro agrees altera
    induction cycles using List.reverseRecOn with
    | nil => trivial
    | append_singleton cycles cycle inductionHypothesis =>
        rw [Machine.runAlong_concat] at legal ⊢
        constructor
        · apply inductionHypothesis legal.1
          intro earlier before
          exact agrees earlier (before.trans (List.prefix_append cycles [cycle]))
        · have last := agrees _ List.prefix_rfl
          rw [Machine.run_concat, Machine.run_concat] at last
          exact current_of_agrees altera (tracks_run legal.1) legal.2 last
  · rintro current earlier ⟨later, rfl⟩
    have legalBefore := ((FlushedQueue.machine α).along_append _ _ _ _).mp legal
    apply (tracks_run legalBefore.1).agrees
    intro altera
    have currentBefore := (Machine.along_append _ _ _ _ _).mp (current altera)
    exact (prefetches_run altera legalBefore.1 currentBefore.1).head

end Runs

/-- For every depth, with and without fall-through, over every run in which nothing is pushed when
the queue is full or popped when it is empty: the variants with registers and with the memory that
is read in the cycle agree with the bounded queue, and all of them do if and only if every cycle is
current for the variant for Altera. The usage is the number of words as long as that fits the
port. -/
theorem variants_run (depth : Nat) (fallThrough : Bool) (cleared : α)
    (ram : Fin (fifoDepth depth) → α) (ramRdata : α) {cycles : List (FifoCycle α)}
    (legal : (FlushedQueue.machine α).RunAlong (FlushedQueue.Legal depth fallThrough) cycles) :
    (∀ fpgaAltera fpgaEn, (fpgaEn && fpgaAltera) = false →
      AgreesAlong ⟨fallThrough, fpgaAltera, depth, fpgaEn⟩ cleared ram ramRdata cycles) ∧
    ((∀ fpgaAltera fpgaEn,
      AgreesAlong ⟨fallThrough, fpgaAltera, depth, fpgaEn⟩ cleared ram ramRdata cycles) ↔
      (machine ⟨fallThrough, true, depth, true⟩ cleared ram ramRdata).RunAlong
        (Current ⟨fallThrough, true, depth, true⟩) cycles) ∧
    ∀ fpgaAltera fpgaEn,
      usageO ⟨fallThrough, fpgaAltera, depth, fpgaEn⟩
          ((machine ⟨fallThrough, fpgaAltera, depth, fpgaEn⟩ cleared ram ramRdata).run cycles) =
        ((FlushedQueue.machine α).run cycles).length ↔
      ((FlushedQueue.machine α).run cycles).length < 2 ^ addrDepth depth := by
  refine ⟨?_, ⟨?_, ?_⟩, ?_⟩
  · intro fpgaAltera fpgaEn other
    apply (agrees_run_iff legal).mpr
    intro altera
    exact absurd (other.symm.trans altera) Bool.false_ne_true
  · intro agrees
    exact (agrees_run_iff legal).mp (agrees true true) rfl
  · intro current fpgaAltera fpgaEn
    apply (agrees_run_iff legal).mpr
    intro altera
    obtain ⟨rfl, rfl⟩ := Bool.and_eq_true_iff.mp altera
    exact current
  · intro fpgaAltera fpgaEn
    have tracks := @tracks_run _ ⟨fallThrough, fpgaAltera, depth, fpgaEn⟩ cleared ram ramRdata _
      legal
    rw [usageO, tracks.length]
    exact Nat.mod_eq_iff_lt (Nat.two_pow_pos _).ne'

/-- Two words are pushed, the first one is popped, and a third one is pushed while the second one is
popped. -/
def staleCycles : List (FifoCycle Nat) :=
  [⟨false, true, 1, false⟩, ⟨false, true, 2, false⟩, ⟨false, false, 0, true⟩,
    ⟨false, true, 3, true⟩]

theorem variants_run_two :
    (FlushedQueue.machine Nat).RunAlong (FlushedQueue.Legal 2 false) (staleCycles.take 3) ∧
      (machine ⟨false, true, 2, true⟩ 0 (fun _ => 0) 0).RunAlong
        (Current ⟨false, true, 2, true⟩) (staleCycles.take 3) ∧
      ∀ fpgaAltera fpgaEn,
        AgreesAlong ⟨false, fpgaAltera, 2, fpgaEn⟩ 0 (fun _ => 0) 0 (staleCycles.take 3) := by
  have legal : (FlushedQueue.machine Nat).RunAlong (FlushedQueue.Legal 2 false)
      (staleCycles.take 3) := by decide
  have current : (machine ⟨false, true, 2, true⟩ 0 (fun _ => 0) 0).RunAlong
      (Current ⟨false, true, 2, true⟩) (staleCycles.take 3) := by decide
  exact ⟨legal, current, (variants_run 2 false 0 (fun _ => 0) 0 legal).2.1.mpr current⟩

/-- The variant for Altera shows the first word again then, where the queue holds the third one. -/
theorem stale_word :
    (FlushedQueue.machine Nat).RunAlong (FlushedQueue.Legal 2 false) staleCycles ∧
      (FlushedQueue.machine Nat).run staleCycles = [3] ∧
      dataO ⟨false, true, 2, true⟩
        ((machine ⟨false, true, 2, true⟩ 0 (fun _ => 0) 0).run staleCycles) false 0 = 1 ∧
      ¬AgreesAlong ⟨false, true, 2, true⟩ 0 (fun _ => 0) 0 staleCycles := by
  have shown : dataO ⟨false, true, 2, true⟩
      ((machine ⟨false, true, 2, true⟩ 0 (fun _ => 0) 0).run staleCycles) false 0 = 1 := by
    decide
  refine ⟨by decide, by decide, shown, ?_⟩
  intro agrees
  have last := agrees staleCycles List.prefix_rfl
  have head := last.data false 0 (last.empty false)
  rw [shown] at head
  contradiction

end Cva6FifoV3

end Cva6Hpd.Common
