import Mathlib.Data.List.Induction

/-!
# Synchronous machines

A clocked circuit is a reset state and the state that one clock edge latches
from the current state and the inputs of the cycle. Runs are finite sequences
of inputs; a property of a reachable state is a property of `Machine.run` on an
arbitrary input list. `Machine.Along` restricts every cycle of a run, which is
how an assumption on the environment, or a condition on the inputs, is stated.
-/

namespace Cva6Hpd.Hw

universe u v w

/-- A synchronous circuit with state `σ` and per-cycle inputs `ι`. -/
structure Machine (σ : Type u) (ι : Type v) where
  reset : σ
  step : σ → ι → σ

namespace Machine

variable {σ : Type u} {ι : Type v} (machine : Machine σ ι)

/-! ## Runs -/

/-- The state reached from `state` by one clock edge for each input. -/
def runFrom (state : σ) (inputs : List ι) : σ :=
  inputs.foldl machine.step state

/-- The state reached from reset. -/
def run (inputs : List ι) : σ :=
  machine.runFrom machine.reset inputs

@[simp]
theorem runFrom_nil (state : σ) : machine.runFrom state [] = state :=
  rfl

@[simp]
theorem runFrom_cons (state : σ) (input : ι) (inputs : List ι) :
    machine.runFrom state (input :: inputs) =
      machine.runFrom (machine.step state input) inputs :=
  rfl

theorem runFrom_append (state : σ) (first second : List ι) :
    machine.runFrom state (first ++ second) =
      machine.runFrom (machine.runFrom state first) second :=
  List.foldl_append

@[simp]
theorem run_nil : machine.run [] = machine.reset :=
  rfl

theorem run_append (first second : List ι) :
    machine.run (first ++ second) = machine.runFrom (machine.run first) second :=
  machine.runFrom_append machine.reset first second

theorem run_concat (inputs : List ι) (input : ι) :
    machine.run (inputs ++ [input]) = machine.step (machine.run inputs) input :=
  machine.run_append inputs [input]

/-! ## Conditions on the cycles of a run -/

/-- Every cycle of the run from `state` satisfies `condition`. -/
def Along (condition : σ → ι → Prop) : σ → List ι → Prop
  | _, [] => True
  | state, input :: inputs =>
      condition state input ∧ Along condition (machine.step state input) inputs

/-- Every cycle of the run from reset satisfies `condition`. -/
def RunAlong (condition : σ → ι → Prop) (inputs : List ι) : Prop :=
  machine.Along condition machine.reset inputs

instance decidableAlong (condition : σ → ι → Prop)
    [∀ state input, Decidable (condition state input)] :
    ∀ state inputs, Decidable (machine.Along condition state inputs)
  | _, [] => isTrue trivial
  | state, input :: inputs =>
      @instDecidableAnd _ _ _
        (decidableAlong condition (machine.step state input) inputs)

instance decidableRunAlong (condition : σ → ι → Prop)
    [∀ state input, Decidable (condition state input)] (inputs : List ι) :
    Decidable (machine.RunAlong condition inputs) :=
  machine.decidableAlong condition machine.reset inputs

theorem along_append (condition : σ → ι → Prop) (state : σ)
    (first second : List ι) :
    machine.Along condition state (first ++ second) ↔
      machine.Along condition state first ∧
        machine.Along condition (machine.runFrom state first) second := by
  induction first generalizing state with
  | nil => simp [Along]
  | cons input inputs inductionHypothesis =>
      simp only [List.cons_append, Along, runFrom_cons, inductionHypothesis,
        and_assoc]

theorem runAlong_concat (condition : σ → ι → Prop) (inputs : List ι) (input : ι) :
    machine.RunAlong condition (inputs ++ [input]) ↔
      machine.RunAlong condition inputs ∧ condition (machine.run inputs) input := by
  simp [RunAlong, along_append, Along, run]

/-! ## Invariants -/

/-- A property that every cycle satisfying `condition` preserves is preserved
by every run all of whose cycles satisfy it. -/
theorem runFrom_invariant (invariant : σ → Prop) {condition : σ → ι → Prop}
    (preserved : ∀ state input, invariant state → condition state input →
      invariant (machine.step state input))
    {state : σ} {inputs : List ι} (initially : invariant state)
    (along : machine.Along condition state inputs) :
    invariant (machine.runFrom state inputs) := by
  induction inputs generalizing state with
  | nil => exact initially
  | cons input inputs inductionHypothesis =>
      exact inductionHypothesis (preserved state input initially along.1) along.2

theorem run_invariant_along (invariant : σ → Prop) {condition : σ → ι → Prop}
    (initially : invariant machine.reset)
    (preserved : ∀ state input, invariant state → condition state input →
      invariant (machine.step state input))
    {inputs : List ι} (along : machine.RunAlong condition inputs) :
    invariant (machine.run inputs) :=
  machine.runFrom_invariant invariant preserved initially along

theorem run_invariant (invariant : σ → Prop) (initially : invariant machine.reset)
    (preserved : ∀ state input, invariant state →
      invariant (machine.step state input)) (inputs : List ι) :
    invariant (machine.run inputs) := by
  induction inputs using List.reverseRecOn with
  | nil => exact initially
  | append_singleton inputs input inductionHypothesis =>
      rw [run_concat]
      exact preserved _ input inductionHypothesis

theorem Along.of_invariant {machine : Machine σ ι} (invariant : σ → Prop)
    {condition goal : σ → ι → Prop}
    (preserved : ∀ state input, invariant state → condition state input →
      invariant (machine.step state input))
    (follows : ∀ state input, invariant state → condition state input → goal state input)
    {state : σ} {inputs : List ι} (initially : invariant state)
    (along : machine.Along condition state inputs) : machine.Along goal state inputs := by
  induction inputs generalizing state with
  | nil => trivial
  | cons input inputs inductionHypothesis =>
      exact ⟨follows state input initially along.1,
        inductionHypothesis (preserved state input initially along.1) along.2⟩

/-! ## Recorded histories -/

/-- The machine that also records a history of its own cycles. The history is
write-only: it never influences the state. -/
def withHistory {γ : Type w} (initial : γ) (record : σ → ι → γ → γ) :
    Machine (σ × γ) ι where
  reset := (machine.reset, initial)
  step state input :=
    (machine.step state.1 input, record state.1 input state.2)

theorem withHistory_runFrom_fst {γ : Type w} (initial : γ)
    (record : σ → ι → γ → γ) (state : σ × γ) (inputs : List ι) :
    ((machine.withHistory initial record).runFrom state inputs).1 =
      machine.runFrom state.1 inputs := by
  induction inputs generalizing state with
  | nil => rfl
  | cons input inputs inductionHypothesis =>
      exact inductionHypothesis _

@[simp]
theorem withHistory_run_fst {γ : Type w} (initial : γ)
    (record : σ → ι → γ → γ) (inputs : List ι) :
    ((machine.withHistory initial record).run inputs).1 = machine.run inputs :=
  machine.withHistory_runFrom_fst initial record _ inputs

/-- What the cycles of a run show, one after the other. -/
def collect {γ : Type w} (shown : σ → ι → List γ) : σ → List ι → List γ
  | _, [] => []
  | state, input :: inputs =>
      shown state input ++ collect shown (machine.step state input) inputs

@[simp]
theorem collect_nil {γ : Type w} (shown : σ → ι → List γ) (state : σ) :
    machine.collect shown state [] = [] :=
  rfl

theorem collect_cons {γ : Type w} (shown : σ → ι → List γ) (state : σ) (input : ι)
    (inputs : List ι) :
    machine.collect shown state (input :: inputs) =
      shown state input ++ machine.collect shown (machine.step state input) inputs :=
  rfl

/-! ## Inputs with a context -/

/-- The machine in an environment: each cycle carries its inputs and more. -/
def onInputs {κ : Type w} (inputsOf : κ → ι) : Machine σ κ where
  reset := machine.reset
  step state cycle := machine.step state (inputsOf cycle)

/-! ## Endless runs -/

/-- The state before cycle `n` of an endless sequence of inputs. -/
def after (inputs : Nat → ι) : Nat → σ
  | 0 => machine.reset
  | n + 1 => machine.step (after inputs n) (inputs n)

theorem after_invariant (invariant : σ → Prop) {condition : σ → ι → Prop}
    (initially : invariant machine.reset)
    (preserved : ∀ state input, invariant state → condition state input →
      invariant (machine.step state input))
    {inputs : Nat → ι} (along : ∀ n, condition (machine.after inputs n) (inputs n)) (n : Nat) :
    invariant (machine.after inputs n) := by
  induction n with
  | zero => exact initially
  | succ n inductionHypothesis => exact preserved _ _ inductionHypothesis (along n)

end Machine

theorem eventually_of_persists (persists : Nat → Prop) {goal : Nat → Prop} {start : Nat}
    (initially : persists start)
    (next : ∀ n, start ≤ n → persists n → goal n ∨ persists (n + 1))
    (fair : ∃ n, start ≤ n ∧ (persists n → goal n)) : ∃ n, start ≤ n ∧ goal n := by
  rcases fair with ⟨last, later, forced⟩
  by_contra never
  have stays (steps : Nat) : persists (start + steps) := by
    induction steps with
    | zero => exact initially
    | succ steps inductionHypothesis =>
        rcases next (start + steps) (by omega) inductionHypothesis with reached | stays
        · exact absurd ⟨_, by omega, reached⟩ never
        · exact stays
  refine never ⟨last, later, forced ?_⟩
  have here := stays (last - start)
  rwa [Nat.add_sub_cancel' later] at here

theorem eventually_of_decreases (persists : Nat → Prop) (measure : Nat → Nat) {goal : Nat → Prop}
    (progress : ∀ n, persists n →
      ∃ m, n ≤ m ∧ (goal m ∨ persists m ∧ measure m < measure n))
    {start : Nat} (initially : persists start) : ∃ n, start ≤ n ∧ goal n := by
  induction bound : measure start using Nat.strongRecOn generalizing start with
  | ind size inductionHypothesis =>
      rcases progress start initially with ⟨m, later, reached | ⟨again, less⟩⟩
      · exact ⟨m, later, reached⟩
      · obtain ⟨n, after, reached⟩ := inductionHypothesis _ (bound ▸ less) again rfl
        exact ⟨n, Nat.le_trans later after, reached⟩

end Cva6Hpd.Hw
