import Cva6Hpd.SerialDivider.Division
import Cva6Hpd.Hw.Ledger

/-!
# Runs of the divider

The divider returns the result of each division that it has accepted and that is not flushed
first, with its identifier, however long the receiver keeps it waiting. The result is valid
after one cycle for each bit of an operand and one more at most.
-/

namespace Cva6Hpd.SerialDivider

open Cva6Hpd.Hw

variable {cfg : Cfg}

/-! ## Histories -/

/-- The identifier and the result of a division. -/
abbrev Answer (cfg : Cfg) : Type := BitVec cfg.transIdBits × BitVec cfg.width

abbrev History (cfg : Cfg) : Type := Ledger (Request cfg) (Answer cfg)

/-- What a division is to return. -/
def Request.answer (r : Request cfg) : Answer cfg :=
  (r.id, division r.isSigned r.rem r.opA r.opB)

section Record

variable (s : State cfg) (i : Input cfg)

def accepted : Option (Request cfg) := if loadEn s i then some i.request else none

/-- The result that the receiver takes. -/
def returned : Option (Answer cfg) :=
  if outVld s && i.outRdy then some (s.regs.idQ, resO s.regs) else none

end Record

/-- The divider with the history of its divisions. -/
def recorded (cfg : Cfg) : Machine (State cfg × History cfg) (Input cfg) :=
  (machine cfg).withHistory Ledger.initial fun s i h =>
    h.record (accepted s i) (returned s i) i.flush

/-- Each division is answered once or flushed, its result is valid in time, and an empty
divider accepts the next one. -/
structure DividesOnce (s : State cfg) (h : History cfg) : Prop where
  sound : Ledger.Sound Request.answer h
  bounded : ∀ entry ∈ h.inFlight, entry.1 ≤ cfg.width ∨ outVld s = true
  ready : h.inFlight = none → ∀ i, inRdy s i = (!i.inVld || cfg.stableHandshake) ∧
    accepted s i = if i.inVld && !i.flush then some i.request else none
  silent : h.inFlight = none → outVld s = false

/-! ## A division under way -/

/-- The divider has worked on the division for so many cycles. -/
structure Dividing (s : State cfg) (age : Nat) (r : Request cfg) : Prop where
  under_way : s.stateQ ≠ .idle
  id : s.regs.idQ = r.id
  divide : s.stateQ = .divide → divided s.regs = divided (load r) ∧
    (known s.regs = false → age + s.regs.cntQ.toNat ≤ cfg.width)
  finish : s.stateQ = .finish → resO s.regs = resO (divided (load r))

/-- The divider holds the division of its history. -/
def Follows (s : State cfg) (h : History cfg) : Prop :=
  match h.inFlight with
  | none => s.stateQ = .idle
  | some (age, r) => Dividing s age r

section Count

variable {regs : Regs cfg}

theorem toNat_cntQ_divide (running : regs.cntQ ≠ 0) :
    (divide regs).cntQ.toNat + 1 = regs.cntQ.toNat := by
  have positive : 0 < regs.cntQ.toNat := by
    rw [Nat.pos_iff_ne_zero]
    intro zero
    exact running (BitVec.eq_of_toNat_eq (by simpa using zero))
  have bits : 1 < 2 ^ cfg.cntBits := Nat.lt_of_le_of_lt positive regs.cntQ.isLt
  have one : (1 : BitVec cfg.cntBits).toNat = 1 := by
    simpa using Nat.mod_eq_of_lt bits
  change (if regs.cntQ = 0 then regs.cntQ else regs.cntQ - 1).toNat + 1 = _
  rw [if_neg running, BitVec.toNat_sub_of_le (by rw [BitVec.le_def, one]; exact positive), one]
  omega

theorem divided_of_known (isKnown : known regs = true) : divided regs = regs :=
  if_pos isKnown

theorem divided_divide (unknown : known regs = false) (running : regs.cntQ ≠ 0) :
    divided (divide regs) = divided regs := by
  have still : known (divide regs) = false := unknown
  rw [divided, divided, still, unknown, if_neg Bool.false_ne_true, if_neg Bool.false_ne_true,
    toNat_cntQ_divide running]
  rfl

theorem divided_of_zero (unknown : known regs = false) (finished : regs.cntQ = 0) :
    divided regs = divide regs := by
  rw [divided, unknown, if_neg Bool.false_ne_true, finished]
  rfl

/-- The counter starts below the width. -/
theorem toNat_cntQ_load_lt {r : Request cfg} (unknown : known (load r) = false) :
    (load r).cntQ.toNat < cfg.width := by
  have some : lzcBInput r ≠ 0 := by
    intro none
    change ((divShift r).msb || opBZero r || opBNegOne r) = false at unknown
    cases sign : r.opB.msb <;> simp [opBZero, opBNegOne, none, sign] at unknown
  rcases divisor_bounds r some with ⟨less, _⟩
  rw [known_load r some, decide_eq_false_iff_not, Nat.not_lt] at unknown
  rw [toNat_cntQ_load r some unknown]
  omega

end Count

/-! ## One cycle -/

section Step

variable {s : State cfg} {i : Input cfg}

theorem accepted_of_idle (idle : s.stateQ = .idle) :
    accepted s i = if i.inVld && !i.flush then some i.request else none := by
  simp [accepted, loadEn, idle]

theorem dividing_of_load (idle : s.stateQ = .idle) (offered : i.inVld = true)
    (kept : i.flush = false) : Dividing (step s i) 1 i.request := by
  have next : (step s i).stateQ = .divide := by simp [step, advances, idle, offered, kept]
  have regs : (step s i).regs = load i.request := by simp [step, loadEn, idle, offered, kept]
  constructor
  · simp [next]
  · rw [regs]
    rfl
  · intro _
    rw [regs]
    refine ⟨rfl, ?_⟩
    intro unknown
    have less := toNat_cntQ_load_lt unknown
    omega
  · intro finish
    rw [next] at finish
    cases finish

theorem Dividing.step {age : Nat} {r : Request cfg} (dividing : Dividing s age r)
    (waits : returned s i = none) (kept : i.flush = false) :
    Dividing (step s i) (age + 1) r := by
  cases state : s.stateQ with
  | idle => exact absurd state dividing.under_way
  | finish =>
      have notReady : i.outRdy = false := by
        simpa [returned, outVld, state] using waits
      have next : (SerialDivider.step s i).stateQ = .finish := by
        simp [SerialDivider.step, advances, state, notReady, kept]
      have regs : (SerialDivider.step s i).regs = count s.regs := by
        simp [SerialDivider.step, state]
      constructor
      · simp [next]
      · rw [regs]
        exact dividing.id
      · intro divide
        rw [next] at divide
        cases divide
      · intro _
        rw [regs]
        exact dividing.finish state
  | divide =>
      rcases dividing.divide state with ⟨same, bound⟩
      cases isKnown : known s.regs with
      | true =>
          have notReady : i.outRdy = false := by
            simpa [returned, outVld, state, isKnown] using waits
          have next : (SerialDivider.step s i).stateQ = .finish := by
            simp [SerialDivider.step, advances, state, isKnown, notReady, kept]
          have regs : (SerialDivider.step s i).regs = count s.regs := by
            simp [SerialDivider.step, state, isKnown]
          constructor
          · simp [next]
          · rw [regs]
            exact dividing.id
          · intro divide
            rw [next] at divide
            cases divide
          · intro _
            rw [regs, ← same, divided_of_known isKnown]
            rfl
      | false =>
          have regs : (SerialDivider.step s i).regs = SerialDivider.divide s.regs := by
            simp [SerialDivider.step, state, isKnown, kept]
          by_cases last : s.regs.cntQ = 0
          · have next : (SerialDivider.step s i).stateQ = .finish := by
              simp [SerialDivider.step, advances, state, isKnown, kept, last]
            constructor
            · simp [next]
            · rw [regs]
              exact dividing.id
            · intro divide
              rw [next] at divide
              cases divide
            · intro _
              rw [regs, ← same, divided_of_zero isKnown last]
          · have next : (SerialDivider.step s i).stateQ = .divide := by
              simpa [SerialDivider.step, advances, state, isKnown, kept] using last
            constructor
            · simp [next]
            · rw [regs]
              exact dividing.id
            · intro _
              rw [regs, divided_divide isKnown last]
              refine ⟨same, ?_⟩
              intro _
              have counted := toNat_cntQ_divide last
              have before := bound isKnown
              omega
            · intro finish
              rw [next] at finish
              cases finish

theorem Dividing.answer {age : Nat} {r : Request cfg} (dividing : Dividing s age r)
    {value : Answer cfg} (isValue : value ∈ returned s i) : value = r.answer := by
  unfold returned at isValue
  split at isValue
  case isFalse => cases isValue
  case isTrue taken =>
    rw [Bool.and_eq_true] at taken
    have same : (s.regs.idQ, resO s.regs) = value := Option.some.inj isValue
    have result : resO s.regs = resO (divided (load r)) := by
      cases state : s.stateQ with
      | idle => exact absurd state dividing.under_way
      | finish => exact dividing.finish state
      | divide =>
          have isKnown : known s.regs = true := by simpa [outVld, state] using taken.1
          rw [← (dividing.divide state).1, divided_of_known isKnown]
    rw [← same, Request.answer, dividing.id, result, resO_divided]

/-- A result that is taken, like a flush, leaves the divider idle. -/
theorem idle_of_closes (closes : Ledger.closes (returned s i) i.flush = true) :
    (step s i).stateQ = .idle := by
  rw [Ledger.closes, Bool.or_eq_true] at closes
  rcases closes with taken | flushed
  · have both : outVld s = true ∧ i.outRdy = true := by
      unfold returned at taken
      split at taken
      case isTrue both => rwa [Bool.and_eq_true] at both
      case isFalse => cases taken
    cases state : s.stateQ with
    | idle => simp [outVld, state] at both
    | finish => simp [step, advances, state, both]
    | divide =>
        have isKnown : known s.regs = true := by simpa [outVld, state] using both.1
        simp [step, advances, state, isKnown, both]
  · simp [step, flushed]

theorem Follows.step {h : History cfg} (follows : Follows s h) :
    Follows (step s i) (h.record (accepted s i) (returned s i) i.flush) := by
  unfold Follows at follows
  split at follows
  case h_1 empty =>
    have isAccepted := accepted_of_idle (i := i) follows
    have stays : h.stays (returned s i) i.flush = none := by
      simp [Ledger.stays, empty]
    simp only [Follows, Ledger.record, isAccepted, stays]
    cases accepts : i.inVld && !i.flush with
    | true =>
        rw [Bool.and_eq_true, Bool.not_eq_true'] at accepts
        exact dividing_of_load follows accepts.1 accepts.2
    | false =>
        have next : (SerialDivider.step s i).stateQ = .idle := by
          cases offered : i.inVld <;> cases flush : i.flush <;>
            simp_all [SerialDivider.step, advances]
        exact next
  case h_2 age r held =>
    have nothing : accepted s i = none := by simp [accepted, loadEn, follows.under_way]
    cases closes : Ledger.closes (returned s i) i.flush with
    | true =>
        simpa [Follows, Ledger.record, nothing, Ledger.stays, closes] using idle_of_closes closes
    | false =>
        rcases Bool.or_eq_false_iff.mp closes with ⟨waits, kept⟩
        have next := follows.step (Option.isNone_iff_eq_none.mp (by simpa using waits)) kept
        simpa [Follows, Ledger.record, nothing, Ledger.stays, closes, held] using next

theorem sound_step {h : History cfg} (follows : Follows s h)
    (sound : Ledger.Sound Request.answer h) :
    Ledger.Sound Request.answer (h.record (accepted s i) (returned s i) i.flush) := by
  unfold Follows at follows
  split at follows
  case h_1 empty =>
    refine sound.record ?_ fun _ => empty
    intro value isValue
    simp [returned, outVld, follows] at isValue
  case h_2 age r held =>
    apply sound.record
    · intro value isValue
      exact ⟨(age, r), held, follows.answer isValue⟩
    · intro accepts
      simp [accepted, loadEn, follows.under_way] at accepts

end Step

/-! ## All runs -/

theorem Follows.dividesOnce {s : State cfg} {h : History cfg} (follows : Follows s h)
    (sound : Ledger.Sound Request.answer h) : DividesOnce s h := by
  unfold Follows at follows
  split at follows
  case h_1 empty =>
    constructor
    · exact sound
    · simp [empty]
    · intro _ i
      exact ⟨by simp [inRdy, follows], accepted_of_idle follows⟩
    · intro _
      simp [outVld, follows]
  case h_2 age r held =>
    constructor
    · exact sound
    · intro entry member
      rw [Option.mem_def, held] at member
      obtain rfl := Option.some.inj member
      cases state : s.stateQ with
      | idle => exact absurd state follows.under_way
      | finish => exact Or.inr (by simp [outVld, state])
      | divide =>
          cases isKnown : known s.regs with
          | true => exact Or.inr (by simp [outVld, state, isKnown])
          | false =>
              have bound := (follows.divide state).2 isKnown
              exact Or.inl (by omega)
    · simp [held]
    · simp [held]

/-- In every run, with flushes and waiting receivers at any time. -/
theorem dividesOnce_of_run (inputs : List (Input cfg)) :
    DividesOnce ((recorded cfg).run inputs).1 ((recorded cfg).run inputs).2 := by
  obtain ⟨follows, sound⟩ := (recorded cfg).run_invariant
    (fun state => Follows state.1 state.2 ∧ Ledger.Sound Request.answer state.2)
    ⟨rfl, Ledger.sound_initial⟩
    (fun _ _ both => ⟨both.1.step, sound_step both.1 both.2⟩) inputs
  exact follows.dividesOnce sound

end Cva6Hpd.SerialDivider
