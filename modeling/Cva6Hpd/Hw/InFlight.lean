import Mathlib.Data.List.Perm.Basic
import Mathlib.Data.List.Nodup

/-!
# Identifiers in flight

A unit takes a fresh identifier for each request, queues the request, hands it
over, and gets the identifier back with the answer. As long as the identifiers in
flight are in use and a new one is not, no two requests in flight share one.
-/

namespace Cva6Hpd.Hw

universe u

variable {ι : Type u} [DecidableEq ι]

/-- The requests that remain after an answer to one of them. -/
def answer (answered : Option ι) (requests : List ι) : List ι :=
  match answered with
  | none => requests
  | some id => requests.erase id

/-- The requests handed over and those still queued have identifiers of their own,
which are in use. -/
structure InFlight (used : ι → Prop) (outstanding queue : List ι) : Prop where
  nodup : (outstanding ++ queue).Nodup
  used : ∀ id ∈ outstanding ++ queue, used id

omit [DecidableEq ι] in
theorem inFlight_nil (used : ι → Prop) : InFlight used [] [] where
  nodup := List.nodup_nil
  used := by simp

theorem answer_subset (answered : Option ι) (requests : List ι) :
    answer answered requests ⊆ requests := by
  cases answered with
  | none => exact List.Subset.refl _
  | some id => exact List.erase_subset

theorem answer_nodup {requests : List ι} (nodup : requests.Nodup) (answered : Option ι) :
    (answer answered requests).Nodup := by
  cases answered with
  | none => exact nodup
  | some id => exact nodup.erase id

theorem ne_of_mem_answer {requests : List ι} (nodup : requests.Nodup) {answered : Option ι}
    {id : ι} (member : id ∈ answer answered requests) : answered ≠ some id := by
  rintro rfl
  exact nodup.not_mem_erase member

/-- One cycle of a unit: it queues new requests, hands some over, and one of those
handed over is answered. -/
theorem InFlight.step {used used' : ι → Prop} {outstanding queue new accepted queue' : List ι}
    {answered : Option ι} (flight : InFlight used outstanding queue)
    (conserved : (queue ++ new).Perm (accepted ++ queue')) (newNodup : new.Nodup)
    (fresh : ∀ id ∈ new, ¬used id)
    (known : ∀ id, answered = some id → id ∈ outstanding ++ accepted)
    (kept : ∀ id, answered ≠ some id → used id ∨ id ∈ new → used' id) :
    InFlight used' (answer answered (outstanding ++ accepted)) queue' := by
  have whole : (outstanding ++ queue ++ new).Perm (outstanding ++ accepted ++ queue') := by
    rw [List.append_assoc, List.append_assoc]
    exact conserved.append_left outstanding
  have nodup : (outstanding ++ accepted ++ queue').Nodup := by
    refine whole.nodup ?_
    rw [List.nodup_append']
    exact ⟨flight.nodup, newNodup, fun id old added => fresh id added (flight.used id old)⟩
  have inUse (id : ι) (member : id ∈ outstanding ++ accepted ++ queue') :
      used id ∨ id ∈ new := by
    rcases List.mem_append.mp (whole.mem_iff.mpr member) with old | added
    · exact .inl (flight.used id old)
    · exact .inr added
  rw [List.nodup_append'] at nodup
  rcases nodup with ⟨handed, queued, disjoint⟩
  constructor
  · rw [List.nodup_append']
    exact ⟨answer_nodup handed answered, queued,
      fun id member => disjoint (answer_subset answered _ member)⟩
  · intro id member
    rcases List.mem_append.mp member with remains | waits
    · exact kept id (ne_of_mem_answer handed remains)
        (inUse id (List.mem_append_left _ (answer_subset answered _ remains)))
    · refine kept id (fun same => disjoint (known id same) waits)
        (inUse id (List.mem_append_right _ waits))

end Cva6Hpd.Hw
