import Mathlib.Data.List.Basic

/-!
# Units that hold one request

A unit accepts a request, holds it until it returns a result or is flushed, and then accepts
the next one. The ledger of a run says what became of each accepted request, in order, beside
everything that the unit returned.
-/

namespace Cva6Hpd.Hw

universe u v

/-- The requests of a run. -/
structure Ledger (ρ : Type u) (β : Type v) where
  accepted : List ρ
  /-- The request that the unit holds, and the cycles since it was accepted. -/
  inFlight : Option (Nat × ρ)
  /-- The requests that have left the unit, with their results; a flushed one has none. -/
  closed : List (ρ × Option β)
  returned : List β

namespace Ledger

variable {ρ : Type u} {β : Type v}

def initial : Ledger ρ β where
  accepted := []
  inFlight := none
  closed := []
  returned := []

section Record

variable (ledger : Ledger ρ β) (accept : Option ρ) (result : Option β) (flush : Bool)

/-- The request leaves the unit in this cycle. -/
def closes : Bool := result.isSome || flush

/-- The request that stays. -/
def stays : Option (Nat × ρ) :=
  if closes result flush then none else ledger.inFlight.map fun entry => (entry.1 + 1, entry.2)

/-- One cycle. A result that comes together with a flush has been returned. -/
def record : Ledger ρ β where
  accepted := ledger.accepted ++ accept.toList
  inFlight := (accept.map fun request => (1, request)).or (ledger.stays result flush)
  closed := ledger.closed ++
    if closes result flush then (ledger.inFlight.map fun entry => (entry.2, result)).toList else []
  returned := ledger.returned ++ result.toList

end Record

/-- Each request that was accepted has left the unit or is still there, in order; the results
are those of the requests that have left it, and each is the answer to its own one. -/
structure Sound (answer : ρ → β) (ledger : Ledger ρ β) : Prop where
  accepted : ledger.accepted = ledger.closed.map Prod.fst ++ (ledger.inFlight.map Prod.snd).toList
  returned : ledger.returned = ledger.closed.filterMap Prod.snd
  answered : ∀ entry ∈ ledger.closed, ∀ result ∈ entry.2, result = answer entry.1

variable {answer : ρ → β}

theorem sound_initial : Sound answer (initial : Ledger ρ β) where
  accepted := rfl
  returned := rfl
  answered := by simp [initial]

/-- The rule of one cycle: only a request that is held is answered, and only an empty unit
accepts one. -/
theorem Sound.record {ledger : Ledger ρ β} (sound : Sound answer ledger) {accept : Option ρ}
    {result : Option β} {flush : Bool}
    (owned : ∀ value ∈ result, ∃ entry ∈ ledger.inFlight, value = answer entry.2)
    (alone : accept.isSome = true → ledger.inFlight = none) :
    Sound answer (ledger.record accept result flush) where
  accepted := by
    simp only [Ledger.record, sound.accepted, stays]
    cases accept with
    | some request => simp [alone rfl]
    | none =>
        cases closes result flush with
        | true => cases ledger.inFlight <;> simp
        | false => cases ledger.inFlight <;> simp
  returned := by
    simp only [Ledger.record, sound.returned, List.filterMap_append]
    cases result with
    | none =>
        split
        · cases ledger.inFlight <;> simp
        · simp
    | some value =>
        obtain ⟨entry, held, _⟩ := owned value rfl
        rw [Option.mem_def] at held
        simp [closes, held]
  answered := by
    intro entry member value isValue
    rcases List.mem_append.mp member with old | new
    · exact sound.answered entry old value isValue
    · split at new
      case isTrue =>
        obtain ⟨held, same, rfl⟩ : ∃ held, ledger.inFlight = some held ∧
            (held.2, result) = entry := by
          simpa using new
        obtain ⟨other, isOther, right⟩ := owned value isValue
        rw [Option.mem_def, same] at isOther
        rw [right, ← Option.some.inj isOther]
      case isFalse => cases new

end Ledger

end Cva6Hpd.Hw
