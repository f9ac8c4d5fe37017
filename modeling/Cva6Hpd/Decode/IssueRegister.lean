import Mathlib.Init

/-!
# The register between decode and issue

The pipeline register of `id_stage` for one instruction per cycle. The register takes over what
decode offers when it is empty or the issue stage acknowledges its instruction; a flush
invalidates it.
-/

namespace Cva6Hpd.Decode

universe u

/-- `issue_q[0]`. -/
structure IssueRegister (α : Type u) where
  valid : Bool
  entry : α

/-- What the frontend, the decoders and the issue stage drive in one cycle. -/
structure Offer (α : Type u) where
  flush : Bool
  issueAck : Bool
  fetchValid : Bool
  stall : Bool
  decodedValid : Bool
  decoded : α

namespace IssueRegister

variable {α : Type u} (r : IssueRegister α) (o : Offer α)

/-- `!issue_n[0].valid` once the acknowledgement has cleared the valid flag. -/
def room : Bool := !(r.valid && !o.issueAck)

/-- `fetch_entry_ready_o[0]`. -/
def ready : Bool := room r o && o.fetchValid && !o.stall

/-- A valid instruction enters the register. -/
def enters : Bool := room r o && o.fetchValid && o.decodedValid && !o.flush

/-- The register at the next edge. -/
def step : IssueRegister α :=
  if room r o && o.fetchValid then ⟨o.decodedValid && !o.flush, o.decoded⟩
  else ⟨r.valid && !o.issueAck && !o.flush, r.entry⟩

theorem room_step {later : Offer α} (empty : room r o = true) (stays : enters r o = false) :
    room (step r o) later = true := by
  cases fetch : o.fetchValid with
  | false => simp_all [room, step]
  | true =>
    have invalid : (o.decodedValid && !o.flush) = false := by
      simpa [enters, empty, fetch] using stays
    rw [room, step, if_pos (by rw [empty, fetch]; rfl), invalid]
    rfl

/-- What the issue stage does not take over stays, unless it is flushed. -/
theorem step_of_not_room (full : room r o = false) (stays : o.flush = false) : step r o = r := by
  have occupied : r.valid = true ∧ o.issueAck = false := by simpa [room] using full
  rw [step, full, if_neg (by rw [Bool.false_and]; exact Bool.false_ne_true), occupied.2, stays,
    Bool.not_false, Bool.and_true, Bool.and_true]

theorem valid_step_of_enters (goes : enters r o = true) : (step r o).valid = true := by
  simp only [enters, Bool.and_eq_true, Bool.not_eq_true'] at goes
  obtain ⟨⟨⟨empty, fetch⟩, decoded⟩, stays⟩ := goes
  rw [step, empty, fetch, if_pos (Bool.and_self true)]
  simp [decoded, stays]

end IssueRegister

end Cva6Hpd.Decode
