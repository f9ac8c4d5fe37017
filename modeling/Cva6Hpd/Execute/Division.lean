import Cva6Hpd.Execute.SerdivWidth
import Cva6Hpd.Execute.WriteBack

/-!
# Divisions of the fixed latency port

`mult` extends the operands of a division of words and sign extends its result again. The
issue ports start nothing in the unit while the divider is busy, so the flag of the words
stays that of the division under way.
-/

namespace Cva6Hpd.Execute

open Cva6Hpd.Ariane
open Cva6Hpd.Hw
open Cva6Hpd.Issue (Cfg)
open Cva6Hpd.SerialDivider (division extend)
open Serdiv (dividerState dividerRequest dividerInput dividerCfg)

variable {cfg : Cfg}

/-! ## Instructions -/

/-- The result of a division instruction; of words, it is sign extended. -/
def divAnswer (data : FuData cfg) : BitVec cfg.xlen :=
  let full (isSigned rem : Bool) := division isSigned rem data.operandA data.operandB
  let word (isSigned rem : Bool) : BitVec cfg.xlen :=
    (division isSigned rem (data.operandA.setWidth 32) (data.operandB.setWidth 32)).signExtend _
  match data.operation with
  | .div => full true false
  | .divu => full false false
  | .rem => full true true
  | .remu => full false true
  | .divw => word true false
  | .divuw => word false false
  | .remw => word true true
  | .remuw => word false true
  | _ => 0

theorem word_eq_full {w : Nat} (width : w = 32) (isSigned rem : Bool) (a b : BitVec w) :
    (division isSigned rem (a.setWidth 32) (b.setWidth 32)).signExtend w =
      division isSigned rem a b := by
  subst width
  simp

theorem sext32_division (isSigned rem : Bool) (a b : BitVec cfg.xlen) :
    sext32 (division isSigned rem (extend cfg.xlen isSigned (a.setWidth 32))
        (extend cfg.xlen isSigned (b.setWidth 32))) =
      (division isSigned rem (a.setWidth 32) (b.setWidth 32)).signExtend cfg.xlen := by
  have le : 32 ≤ cfg.xlen := by
    rw [Cfg.xlen]
    split <;> decide
  rw [sext32, SerialDivider.setWidth_division (by decide) le]

/-- The unit returns the result of the instruction. -/
theorem divResult_eq {data : FuData cfg} (isDivision : data.operation ∈ divOperations)
    {regs : Serdiv.Regs cfg}
    (divided : Serdiv.resO regs =
      division (divRequest data).isSigned (divRequest data).rem (divRequest data).opA
        (divRequest data).opB) :
    divResult (isWordOp data) regs = divAnswer data := by
  rw [divResult, divided]
  simp only [divOperations, List.mem_cons, List.not_mem_nil, or_false] at isDivision
  cases wide : cfg.isXlen64 with
  | false =>
      have width : cfg.xlen = 32 := by simp [Cfg.xlen, wide]
      rcases isDivision with op | op | op | op | op | op | op | op <;>
        simp [divRequest, isWordOp, divAnswer, op, wide, word_eq_full width]
  | true =>
      have signedWord (operand : BitVec cfg.xlen) :
          extend cfg.xlen true (operand.setWidth 32) = sext32 operand := rfl
      have unsignedWord (operand : BitVec cfg.xlen) :
          extend cfg.xlen false (operand.setWidth 32) = (operand.setWidth 32).setWidth _ := rfl
      rcases isDivision with op | op | op | op | op | op | op | op <;>
        simp [divRequest, isWordOp, divAnswer, op, wide, ← sext32_division, signedWord,
          unsignedWord]

/-! ## Histories -/

/-- The divisions of the unit, with the identifiers and the results that it returns. -/
abbrev DivHistory (cfg : Cfg) : Type := Ledger (FuData cfg) (cfg.TransId × BitVec cfg.xlen)

def FuData.divides (data : FuData cfg) : cfg.TransId × BitVec cfg.xlen :=
  (data.transId, divAnswer data)

section Record

variable (s : State cfg) (i : Input cfg)

/-- The division that is given to the unit. -/
def acceptedDiv : Option (FuData cfg) := if divValidOp s i then some (multData s) else none

/-- The output of the unit, unless it belongs to the multiplier. -/
def returnedDiv : Option (cfg.TransId × BitVec cfg.xlen) :=
  if divValid s && !s.mulValidQ then some (multTransId s, multResult s) else none

end Record

/-- The port with the history of its divisions. -/
def recordedDiv (cfg : Cfg) : Machine (State cfg × DivHistory cfg) (Input cfg) :=
  (machine cfg).withHistory Ledger.initial fun s i h =>
    h.record (acceptedDiv s i) (returnedDiv s) i.flush

/-- Each division that is given to the unit is answered once, in time, or flushed, and then
the unit is ready again. -/
structure MultDividesOnce (s : State cfg) (h : DivHistory cfg) : Prop where
  sound : Ledger.Sound FuData.divides h
  bounded : ∀ entry ∈ h.inFlight, entry.1 ≤ cfg.xlen + 1
  ready : h.inFlight = none → ∀ i, Serdiv.inRdy s.serdiv (serdivInput s i) = !divValidOp s i
  silent : h.inFlight = none → divValid s = false

/-! ## The unit -/

/-- The unit has worked on the division for so many cycles, and nothing else is given to
it. -/
structure MultDividing (s : State cfg) (age : Nat) (data : FuData cfg) : Prop where
  dividing : SerialDivider.Dividing (dividerState s.serdiv) age (dividerRequest (divRequest data))
  isDivision : data.operation ∈ divOperations
  word : (cfg.isXlen64 && s.wordOpQ) = isWordOp data
  alone : any s.multValidQ = false
  noMul : s.mulValidQ = false
  age_le : age ≤ cfg.xlen + 1

def HoldsDivision (s : State cfg) (h : DivHistory cfg) : Prop :=
  match h.inFlight with
  | none => s.serdiv.stateQ = .idle
  | some (age, data) => MultDividing s age data

section Step

variable {s : State cfg} {i : Input cfg}

theorem dividerFsm_eq_idle {stateQ : Serdiv.FsmState} :
    Serdiv.dividerFsm stateQ = .idle ↔ stateQ = .idle := by
  cases stateQ <;> simp [Serdiv.dividerFsm]

theorem dividerState_stepDiv :
    dividerState (step s i).serdiv =
      SerialDivider.step (dividerState s.serdiv) (dividerInput (serdivInput s i)) :=
  Serdiv.dividerState_step _ _

/-- Nothing is given to the unit behind a division. -/
theorem alone_step (busy : Serdiv.inRdy s.serdiv (serdivInput s i) = false) :
    any (step s i).multValidQ = false := by
  have blocked : fluReady s i = false := by rw [fluReady, busy, Bool.and_false]
  have nothing (port : Fin 2) : startsIn s i .mult port = false :=
    startsIn_of_not_ready (by decide) blocked
  simp [any, step, nothing]

theorem mulValidOp_of_div (isDivision : (multData s).operation ∈ divOperations) :
    mulValidOp s i = false := by
  have other : ∀ op ∈ divOperations, op ∉ Multiplier.operations := by decide
  simp [mulValidOp, other _ isDivision]

theorem multDividing_of_accept (idle : s.serdiv.stateQ = .idle)
    (accepts : divValidOp s i = true) : MultDividing (step s i) 1 (multData s) := by
  obtain ⟨⟨kept, given⟩, isDivision⟩ : (i.flush = false ∧ any s.multValidQ = true) ∧
      (multData s).operation ∈ divOperations := by
    simpa [divValidOp] using accepts
  have noMul := mulValidOp_of_div (i := i) isDivision
  constructor
  · rw [dividerState_stepDiv]
    exact SerialDivider.dividing_of_load (dividerFsm_eq_idle.mpr idle) accepts kept
  · exact isDivision
  · simp [step, given, isDivision, isWordOp]
  · exact alone_step (by simp [Serdiv.inRdy, serdivInput, accepts])
  · exact noMul
  · exact Nat.le_add_left 1 _

theorem MultDividing.next {age : Nat} {data : FuData cfg} (held : MultDividing s age data)
    (waits : returnedDiv s = none) (kept : i.flush = false) :
    MultDividing (step s i) (age + 1) data := by
  have invalid : divValid s = false := by
    simpa [returnedDiv, held.noMul] using waits
  have under : s.serdiv.stateQ ≠ .idle := fun idle =>
    held.dividing.under_way (dividerFsm_eq_idle.mpr idle)
  have noResult : SerialDivider.returned (dividerState s.serdiv)
      (dividerInput (serdivInput s i)) = none := by
    rw [SerialDivider.returned, Serdiv.outVld_eq]
    rw [divValid] at invalid
    rw [invalid, Bool.false_and, if_neg Bool.false_ne_true]
  constructor
  · rw [dividerState_stepDiv]
    exact held.dividing.step noResult kept
  · exact held.isDivision
  · simpa [step, held.alone] using held.word
  · exact alone_step (by simp [Serdiv.inRdy, under])
  · simp [step, mulValidOp, held.alone]
  · -- Without a valid result the counter still runs.
    have isDivide : s.serdiv.stateQ = .divide := by
      cases state : s.serdiv.stateQ with
      | idle => exact absurd state under
      | divide => rfl
      | finish => simp [divValid, Serdiv.outVld, state] at invalid
    have unknown : Serdiv.known s.serdiv.regs = false := by
      simpa [divValid, Serdiv.outVld, isDivide] using invalid
    have bound := (held.dividing.divide (by simp [dividerState, isDivide, Serdiv.dividerFsm])).2
      unknown
    change age + _ ≤ cfg.xlen at bound
    omega

theorem isSome_returned :
    (SerialDivider.returned (dividerState s.serdiv) (dividerInput (serdivInput s i))).isSome =
      (returnedDiv s).isSome := by
  rw [SerialDivider.returned, returnedDiv, Serdiv.outVld_eq]
  change (if divValid s && !s.mulValidQ then _ else none).isSome = _
  split <;> rfl

theorem MultDividing.answer {age : Nat} {data : FuData cfg} (held : MultDividing s age data)
    (i : Input cfg) {value : cfg.TransId × BitVec cfg.xlen} (isValue : value ∈ returnedDiv s) :
    value = data.divides := by
  unfold returnedDiv at isValue
  split at isValue
  case isFalse => cases isValue
  case isTrue taken =>
    rw [Bool.and_eq_true] at taken
    have given : (BitVec.ofFin s.serdiv.regs.idQ, Serdiv.resO s.serdiv.regs) ∈
        SerialDivider.returned (dividerState s.serdiv) (dividerInput (serdivInput s i)) := by
      have valid : Serdiv.outVld s.serdiv = true := taken.1
      rw [SerialDivider.returned, Serdiv.outVld_eq, valid]
      simp only [dividerInput, serdivInput, held.noMul, Bool.not_false, Bool.and_self, if_true]
      rfl
    obtain ⟨sameId, sameResult⟩ := Prod.mk.inj (held.dividing.answer given)
    have id : s.serdiv.regs.idQ = data.transId := congrArg BitVec.toFin sameId
    have same : (multTransId s, multResult s) = value := Option.some.inj isValue
    rw [← same, multTransId, multResult, held.noMul, if_neg Bool.false_ne_true,
      if_neg Bool.false_ne_true, held.word, id, divResult_eq held.isDivision sameResult,
      FuData.divides]

theorem HoldsDivision.step {h : DivHistory cfg} (holds : HoldsDivision s h) :
    HoldsDivision (step s i) (h.record (acceptedDiv s i) (returnedDiv s) i.flush) := by
  unfold HoldsDivision at holds
  split at holds
  case h_1 empty =>
    have stays : h.stays (returnedDiv s) i.flush = none := by
      simp [Ledger.stays, empty]
    simp only [HoldsDivision, Ledger.record, acceptedDiv, stays]
    cases accepts : divValidOp s i with
    | true => exact multDividing_of_accept holds accepts
    | false =>
        change (Serdiv.step s.serdiv (serdivInput s i)).stateQ = .idle
        simp [Serdiv.step, Serdiv.advances, holds, serdivInput, accepts]
  case h_2 age data held =>
    have nothing : acceptedDiv s i = none := by simp [acceptedDiv, divValidOp, holds.alone]
    cases closes : Ledger.closes (returnedDiv s) i.flush with
    | true =>
        have idle : (Execute.step s i).serdiv.stateQ = .idle := by
          rw [← dividerFsm_eq_idle]
          change (dividerState (Execute.step s i).serdiv).stateQ = .idle
          rw [dividerState_stepDiv]
          apply SerialDivider.idle_of_closes
          rwa [Ledger.closes, isSome_returned]
        simpa [HoldsDivision, Ledger.record, nothing, Ledger.stays, closes] using idle
    | false =>
        rcases Bool.or_eq_false_iff.mp closes with ⟨waits, kept⟩
        have next := holds.next (Option.isNone_iff_eq_none.mp (by simpa using waits)) kept
        simpa [HoldsDivision, Ledger.record, nothing, Ledger.stays, closes, held] using next

theorem soundDiv_step {h : DivHistory cfg} (holds : HoldsDivision s h)
    (sound : Ledger.Sound FuData.divides h) :
    Ledger.Sound FuData.divides (h.record (acceptedDiv s i) (returnedDiv s) i.flush) := by
  unfold HoldsDivision at holds
  split at holds
  case h_1 empty =>
    refine sound.record ?_ fun _ => empty
    intro value isValue
    simp [returnedDiv, divValid, Serdiv.outVld, holds] at isValue
  case h_2 age data held =>
    apply sound.record
    · intro value isValue
      exact ⟨(age, data), held, holds.answer i isValue⟩
    · intro accepts
      simp [acceptedDiv, divValidOp, holds.alone] at accepts

end Step

/-! ## All runs -/

theorem HoldsDivision.multDividesOnce {s : State cfg} {h : DivHistory cfg}
    (holds : HoldsDivision s h) (sound : Ledger.Sound FuData.divides h) :
    MultDividesOnce s h := by
  unfold HoldsDivision at holds
  split at holds
  case h_1 empty =>
    constructor
    · exact sound
    · simp [empty]
    · intro _ i
      simp [Serdiv.inRdy, holds, serdivInput]
    · intro _
      simp [divValid, Serdiv.outVld, holds]
  case h_2 age data held =>
    constructor
    · exact sound
    · intro entry member
      rw [Option.mem_def, held] at member
      obtain rfl := Option.some.inj member
      exact holds.age_le
    · simp [held]
    · simp [held]

theorem multDividesOnce_of_run (inputs : List (Input cfg)) :
    MultDividesOnce ((recordedDiv cfg).run inputs).1 ((recordedDiv cfg).run inputs).2 := by
  obtain ⟨holds, sound⟩ := (recordedDiv cfg).run_invariant
    (fun state => HoldsDivision state.1 state.2 ∧ Ledger.Sound FuData.divides state.2)
    ⟨rfl, Ledger.sound_initial⟩
    (fun _ _ both => ⟨both.1.step, soundDiv_step both.1 both.2⟩) inputs
  exact holds.multDividesOnce sound

/-- The divider of any width, and the divisions of the multiplier unit. -/
theorem divisions_answered_once :
    (∀ (divider : SerialDivider.Cfg) (inputs : List (SerialDivider.Input divider)),
      let state := (SerialDivider.recorded divider).run inputs
      SerialDivider.DividesOnce state.1 state.2) ∧
    ∀ (cfg : Cfg) (inputs : List (Input cfg)),
      let state := (recordedDiv cfg).run inputs
      MultDividesOnce state.1 state.2 :=
  ⟨fun _ => SerialDivider.dividesOnce_of_run, fun _ => multDividesOnce_of_run⟩

end Cva6Hpd.Execute
