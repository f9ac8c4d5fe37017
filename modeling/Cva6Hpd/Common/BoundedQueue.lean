import Cva6Hpd.Hw.Machine

/-!
# Bounded queues

A buffer stands between a writer and a reader, with a handshake on either side. The queue is the
buffer whose state is the list of the words it stores, at most as many as its capacity. What is
written to it is what is read from it, followed by what it stores, over every run; a buffer that
refines the queue through an abstraction of its registers inherits that.
-/

namespace Cva6Hpd.Common

open Cva6Hpd.Hw

universe u v w

/-- What the writer and the reader do in a cycle. -/
structure QueueCycle (α : Type u) where
  w : Bool
  wdata : α
  r : Bool

/-- A buffer: whether the reader finds a word, given the request of the writer, and the writer
room, given the request of the reader; the word that the reader sees; the clock edge. -/
structure Buffer (σ : Type v) (α : Type u) where
  reset : σ
  rok : σ → Bool → Bool
  wok : σ → Bool → Bool
  rdata : σ → α → α
  step : σ → QueueCycle α → σ

namespace Buffer

variable {σ : Type v} {τ : Type w} {α : Type u}

/-! ## Handshakes -/

section Handshakes

variable (buffer : Buffer σ α)

/-- The word that is written in a cycle, if any. -/
def written (state : σ) (cycle : QueueCycle α) : List α :=
  if cycle.w && buffer.wok state cycle.r then [cycle.wdata] else []

/-- The word that is read in a cycle, if any. -/
def read (state : σ) (cycle : QueueCycle α) : List α :=
  if cycle.r && buffer.rok state cycle.w then [buffer.rdata state cycle.wdata] else []

def machine : Machine σ (QueueCycle α) where
  reset := buffer.reset
  step := buffer.step

/-- The words written in some cycles. -/
def writtenAll : σ → List (QueueCycle α) → List α := buffer.machine.collect buffer.written

/-- The words read in some cycles. -/
def readAll : σ → List (QueueCycle α) → List α := buffer.machine.collect buffer.read

end Handshakes

/-! ## The queue -/

section Queue

/-- The queue. With `through`, a word can be read while it is written into the empty queue, and
written into the full one while a word is read. -/
def queue (capacity : Nat) (through : Bool) : Buffer (List α) α where
  reset := []
  rok stored w := !stored.isEmpty || (through && w)
  wok stored r := decide (stored.length < capacity) || (through && r)
  rdata stored wdata := stored.headD wdata
  step stored cycle :=
    let offered := stored ++
      if cycle.w && (decide (stored.length < capacity) || (through && cycle.r)) then [cycle.wdata]
      else []
    if cycle.r && (!stored.isEmpty || (through && cycle.w)) then offered.tail else offered

variable {capacity : Nat} {through : Bool}

/-- Nothing is lost, doubled or overtaken in a cycle. -/
theorem queue_conserves (stored : List α) (cycle : QueueCycle α) :
    stored ++ (queue capacity through).written stored cycle =
      (queue capacity through).read stored cycle ++ (queue capacity through).step stored cycle := by
  rcases cycle with ⟨w, wdata, r⟩
  cases stored with
  | nil => cases through <;> cases w <;> cases r <;> simp [written, read, queue]
  | cons oldest rest => cases r <;> simp [written, read, queue]

theorem room_of_written {stored : List α} {cycle : QueueCycle α}
    (some : (queue capacity through).written stored cycle ≠ []) :
    stored.length < capacity ∨ ((queue capacity through).read stored cycle).length = 1 := by
  rcases cycle with ⟨w, wdata, r⟩
  by_cases room : stored.length < capacity
  · exact Or.inl room
  · right
    cases w with
    | false => simp [written] at some
    | true =>
        cases through <;> cases r <;> simp [written, read, queue, room] at some ⊢

/-- No more words are stored than there is room for. -/
theorem length_step_queue_le {stored : List α} (bound : stored.length ≤ capacity)
    (cycle : QueueCycle α) : ((queue capacity through).step stored cycle).length ≤ capacity := by
  have conserved := congrArg List.length (@queue_conserves _ capacity through stored cycle)
  rw [List.length_append, List.length_append] at conserved
  by_cases nothing : (queue capacity through).written stored cycle = []
  · rw [nothing, List.length_nil] at conserved
    omega
  · have single : ((queue capacity through).written stored cycle).length ≤ 1 := by
      rw [written]
      split <;> simp
    rcases room_of_written nothing with room | reads <;> omega

theorem length_run_queue_le (cycles : List (QueueCycle α)) :
    ((queue capacity through).machine.run cycles).length ≤ capacity :=
  (queue capacity through).machine.run_invariant (fun stored => stored.length ≤ capacity)
    (Nat.zero_le capacity) (fun _ cycle bound => length_step_queue_le bound cycle) cycles

theorem writtenAll_queue (stored : List α) (cycles : List (QueueCycle α)) :
    stored ++ (queue capacity through).writtenAll stored cycles =
      (queue capacity through).readAll stored cycles ++
        (queue capacity through).machine.runFrom stored cycles := by
  induction cycles generalizing stored with
  | nil => simp [writtenAll, readAll]
  | cons cycle cycles inductionHypothesis =>
      rw [writtenAll, readAll, Machine.runFrom_cons, Machine.collect_cons, Machine.collect_cons,
        ← List.append_assoc, queue_conserves, List.append_assoc, List.append_assoc]
      congr 1
      exact inductionHypothesis _

end Queue

/-! ## Refinement -/

/-- Through the abstraction, the buffer cannot be told from the other one. -/
structure Refines (buffer : Buffer σ α) (spec : Buffer τ α) (abstraction : σ → τ) : Prop where
  reset : abstraction buffer.reset = spec.reset
  rok : ∀ state w, buffer.rok state w = spec.rok (abstraction state) w
  wok : ∀ state r, buffer.wok state r = spec.wok (abstraction state) r
  rdata : ∀ state w wdata, buffer.rok state w = true →
    buffer.rdata state wdata = spec.rdata (abstraction state) wdata
  step : ∀ state cycle, abstraction (buffer.step state cycle) = spec.step (abstraction state) cycle

namespace Refines

variable {buffer : Buffer σ α} {spec : Buffer τ α} {abstraction : σ → τ}

theorem written (refines : buffer.Refines spec abstraction) (state : σ) (cycle : QueueCycle α) :
    buffer.written state cycle = spec.written (abstraction state) cycle := by
  rw [Buffer.written, Buffer.written, refines.wok]

theorem read (refines : buffer.Refines spec abstraction) (state : σ) (cycle : QueueCycle α) :
    buffer.read state cycle = spec.read (abstraction state) cycle := by
  rw [Buffer.read, Buffer.read, ← refines.rok]
  split
  · rename_i reads
    rw [refines.rdata state cycle.w cycle.wdata (Bool.and_eq_true_iff.mp reads).2]
  · rfl

theorem step_machine (refines : buffer.Refines spec abstraction) (state : σ)
    (cycle : QueueCycle α) :
    abstraction (buffer.machine.step state cycle) = spec.machine.step (abstraction state) cycle :=
  refines.step state cycle

theorem runFrom (refines : buffer.Refines spec abstraction) (state : σ)
    (cycles : List (QueueCycle α)) :
    abstraction (buffer.machine.runFrom state cycles) =
      spec.machine.runFrom (abstraction state) cycles := by
  induction cycles generalizing state with
  | nil => rfl
  | cons cycle cycles inductionHypothesis =>
      rw [Machine.runFrom_cons, Machine.runFrom_cons, inductionHypothesis,
        refines.step_machine]

theorem run (refines : buffer.Refines spec abstraction) (cycles : List (QueueCycle α)) :
    abstraction (buffer.machine.run cycles) = spec.machine.run cycles := by
  rw [Machine.run, refines.runFrom, Machine.run]
  congr 1
  exact refines.reset

theorem writtenAll (refines : buffer.Refines spec abstraction) (state : σ)
    (cycles : List (QueueCycle α)) :
    buffer.writtenAll state cycles = spec.writtenAll (abstraction state) cycles := by
  induction cycles generalizing state with
  | nil => rfl
  | cons cycle cycles inductionHypothesis =>
      rw [Buffer.writtenAll, Buffer.writtenAll, Machine.collect_cons, Machine.collect_cons,
        refines.written]
      congr 1
      rw [← refines.step_machine]
      exact inductionHypothesis _

theorem readAll (refines : buffer.Refines spec abstraction) (state : σ)
    (cycles : List (QueueCycle α)) :
    buffer.readAll state cycles = spec.readAll (abstraction state) cycles := by
  induction cycles generalizing state with
  | nil => rfl
  | cons cycle cycles inductionHypothesis =>
      rw [Buffer.readAll, Buffer.readAll, Machine.collect_cons, Machine.collect_cons,
        refines.read]
      congr 1
      rw [← refines.step_machine]
      exact inductionHypothesis _

end Refines

/-! ## Bounded buffers -/

/-- After any cycles the buffer stores what was written and not read yet, in order and no more
than there is room for; both handshakes and the word shown are those of the queue. -/
structure IsQueue (buffer : Buffer σ α) (capacity : Nat) (through : Bool)
    (cycles : List (QueueCycle α)) (stored : List α) : Prop where
  written : buffer.writtenAll buffer.reset cycles = buffer.readAll buffer.reset cycles ++ stored
  bound : stored.length ≤ capacity
  room : stored.length < capacity → ∀ r, buffer.wok (buffer.machine.run cycles) r = true
  wok : ∀ r, buffer.wok (buffer.machine.run cycles) r =
    (decide (stored.length < capacity) || (through && r))
  rok : ∀ w, buffer.rok (buffer.machine.run cycles) w = (!stored.isEmpty || (through && w))
  rdata : ∀ w wdata, buffer.rok (buffer.machine.run cycles) w = true →
    buffer.rdata (buffer.machine.run cycles) wdata = stored.headD wdata

/-- A buffer with the handshakes and the data of the queue refines it as soon as it keeps what it
is given: the queue leaves no choice for the rest. -/
theorem Refines.of_conserves {buffer : Buffer σ α} {contents : σ → List α} {capacity : Nat}
    {through : Bool} (reset : contents buffer.reset = [])
    (rok : ∀ state w, buffer.rok state w = (!(contents state).isEmpty || (through && w)))
    (wok : ∀ state r,
      buffer.wok state r = (decide ((contents state).length < capacity) || (through && r)))
    (rdata : ∀ state w wdata, buffer.rok state w = true →
      buffer.rdata state wdata = (contents state).headD wdata)
    (conserves : ∀ state cycle, contents state ++ buffer.written state cycle =
      buffer.read state cycle ++ contents (buffer.step state cycle)) :
    buffer.Refines (queue capacity through) contents where
  reset := reset
  rok := rok
  wok := wok
  rdata := rdata
  step state cycle := by
    have sameWritten : buffer.written state cycle =
        (queue capacity through).written (contents state) cycle := by
      rw [Buffer.written, Buffer.written, wok]
      rfl
    have sameRead : buffer.read state cycle =
        (queue capacity through).read (contents state) cycle := by
      rw [Buffer.read, Buffer.read]
      cases shown : buffer.rok state cycle.w with
      | true =>
          rw [rdata state cycle.w cycle.wdata shown]
          rw [rok] at shown
          simp only [queue, shown]
      | false =>
          rw [rok] at shown
          simp only [queue, shown]
          simp
    have kept := conserves state cycle
    rw [sameWritten, sameRead, queue_conserves] at kept
    exact (List.append_cancel_left kept).symm

theorem Refines.isQueue {buffer : Buffer σ α} {abstraction : σ → List α} {capacity : Nat}
    {through : Bool} (refines : buffer.Refines (queue capacity through) abstraction)
    (cycles : List (QueueCycle α)) :
    buffer.IsQueue capacity through cycles ((queue capacity through).machine.run cycles) where
  written := by
    rw [refines.writtenAll, refines.readAll, refines.reset]
    exact writtenAll_queue [] cycles
  bound := length_run_queue_le cycles
  room less r := by
    rw [refines.wok, refines.run]
    exact Bool.or_eq_true_iff.mpr (Or.inl (decide_eq_true less))
  wok r := by
    rw [refines.wok, refines.run]
    rfl
  rok w := by
    rw [refines.rok, refines.run]
    rfl
  rdata w wdata shown := by
    rw [refines.rdata _ w wdata shown, refines.run]
    rfl

end Buffer

end Cva6Hpd.Common
