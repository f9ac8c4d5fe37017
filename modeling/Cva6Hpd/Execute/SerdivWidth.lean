import Cva6Hpd.Execute.Serdiv
import Cva6Hpd.SerialDivider.Runs
import Mathlib.Tactic.NormNum.NatLog

/-!
# The divider of the width of a register

The divider of the fixed latency port is the serial divider of the width of a register: one
step of the port's divider is one step of the other.
-/

namespace Cva6Hpd.Execute.Serdiv

open Cva6Hpd
open Cva6Hpd.Issue (Cfg)

variable {cfg : Cfg}

/-- The parameters of the instance in `mult`. -/
def dividerCfg (cfg : Cfg) : SerialDivider.Cfg where
  width := cfg.xlen
  transIdBits := cfg.transIdBits
  stableHandshake := false
  width_ge := by
    rw [Cfg.xlen]
    split <;> decide

/-! ## Widths -/

theorem cntBits_eq (cfg : Cfg) : cntBits cfg = (dividerCfg cfg).cntBits := by
  change cntBits cfg = Nat.clog 2 cfg.xlen
  rw [cntBits, Cfg.xlen]
  split <;> norm_num

theorem shiftBits_eq (cfg : Cfg) : cntBits cfg + 2 = (dividerCfg cfg).shiftBits := by
  change cntBits cfg + 2 = Nat.clog 2 (cfg.xlen + 1) + 1
  rw [cntBits, Cfg.xlen]
  split <;> norm_num

theorem lzcEmpty_eq (cfg : Cfg) : SerialDivider.lzcEmpty cfg.xlen = cfg.xlen - 1 := by
  rw [SerialDivider.lzcEmpty, Cfg.xlen]
  split <;> norm_num

/-- Arithmetic on the same number of bits. -/
theorem sub_of_width {n m : Nat} (same : n = m) (x y : Nat) :
    (BitVec.ofNat n x - BitVec.ofNat n y).toNat = (BitVec.ofNat m x - BitVec.ofNat m y).toNat ∧
      (BitVec.ofNat n x - BitVec.ofNat n y).msb = (BitVec.ofNat m x - BitVec.ofNat m y).msb := by
  subst same
  exact ⟨rfl, rfl⟩

theorem setWidth_count {n m : Nat} (same : n = m) (cnt : BitVec n) :
    (if cnt = 0 then cnt else cnt - 1).setWidth m =
      (if cnt.setWidth m = 0 then cnt.setWidth m else cnt.setWidth m - 1) := by
  subst same
  simp

theorem setWidth_eq_zero {n m : Nat} (same : n = m) (cnt : BitVec n) :
    cnt.setWidth m = 0 ↔ cnt = 0 := by
  subst same
  simp

/-! ## States -/

def dividerRegs (regs : Regs cfg) : SerialDivider.Regs (dividerCfg cfg) where
  opAQ := regs.opAQ
  opBQ := regs.opBQ
  resQ := regs.resQ
  cntQ := regs.cntQ.setWidth _
  idQ := BitVec.ofFin regs.idQ
  remSelQ := regs.remSelQ
  compInvQ := regs.compInvQ
  resInvQ := regs.resInvQ
  opBZeroQ := regs.opBZeroQ
  opBNegOneQ := regs.opBNegOneQ
  divResZeroQ := regs.divResZeroQ

def dividerFsm : FsmState → SerialDivider.FsmState
  | .idle => .idle
  | .divide => .divide
  | .finish => .finish

def dividerState (s : State cfg) : SerialDivider.State (dividerCfg cfg) where
  stateQ := dividerFsm s.stateQ
  regs := dividerRegs s.regs

def dividerRequest (request : Request cfg) : SerialDivider.Request (dividerCfg cfg) where
  id := BitVec.ofFin request.id
  opA := request.opA
  opB := request.opB
  rem := request.rem
  isSigned := request.isSigned

def dividerInput (i : Input cfg) : SerialDivider.Input (dividerCfg cfg) where
  inVld := i.inVld
  request := dividerRequest i.request
  flush := i.flush
  outRdy := i.outRdy

/-! ## Steps -/

theorem lzc_eq (input : BitVec cfg.xlen) :
    @SerialDivider.lzc (dividerCfg cfg) input = lzc input := by
  change (if input = 0 then SerialDivider.lzcEmpty cfg.xlen else input.clz.toNat) =
    if input = 0 then cfg.xlen - 1 else input.clz.toNat
  rw [lzcEmpty_eq]

theorem divShift_eq (request : Request cfg) :
    (SerialDivider.divShift (dividerRequest request)).toNat = (divShift request).toNat ∧
      (SerialDivider.divShift (dividerRequest request)).msb = (divShift request).msb := by
  have shiftA : SerialDivider.shiftA (dividerRequest request) =
      if lzcAInput request = 0 then cfg.xlen else lzc (lzcAInput request) := by
    rw [SerialDivider.shiftA]
    exact if_congr Iff.rfl rfl (lzc_eq _)
  have zeros : SerialDivider.lzc (SerialDivider.lzcBInput (dividerRequest request)) =
      lzc (lzcBInput request) := lzc_eq _
  rw [SerialDivider.divShift, shiftA, zeros]
  exact sub_of_width (shiftBits_eq cfg).symm _ _

theorem load_eq (request : Request cfg) :
    dividerRegs (load request) = SerialDivider.load (dividerRequest request) := by
  rcases divShift_eq request with ⟨shift, sign⟩
  have counter : ((divShift request).setWidth (cntBits cfg)).setWidth (dividerCfg cfg).cntBits =
      (SerialDivider.divShift (dividerRequest request)).setWidth _ := by
    apply BitVec.eq_of_toNat_eq
    have same : 2 ^ cntBits cfg = 2 ^ (dividerCfg cfg).cntBits := congrArg _ (cntBits_eq cfg)
    rw [BitVec.toNat_setWidth, BitVec.toNat_setWidth, BitVec.toNat_setWidth, shift, same,
      Nat.mod_mod]
  have aligned : request.opB <<< (divShift request).toNat =
      request.opB <<< (SerialDivider.divShift (dividerRequest request)).toNat := by rw [shift]
  simp only [SerialDivider.load, sign]
  simp only [dividerRegs, load, counter, aligned]
  rfl

theorem count_eq (regs : Regs cfg) :
    dividerRegs (count regs) = SerialDivider.count (dividerRegs regs) := by
  have counter := setWidth_count (cntBits_eq cfg) regs.cntQ
  simp only [SerialDivider.count]
  simp only [dividerRegs, count, counter]
  rfl

theorem divide_eq (regs : Regs cfg) :
    dividerRegs (divide regs) = SerialDivider.divide (dividerRegs regs) := by
  have counter := setWidth_count (cntBits_eq cfg) regs.cntQ
  simp only [SerialDivider.divide, SerialDivider.count]
  simp only [dividerRegs, divide, count, counter]
  rfl

theorem known_eq (regs : Regs cfg) : SerialDivider.known (dividerRegs regs) = known regs := rfl

theorem outVld_eq (s : State cfg) : SerialDivider.outVld (dividerState s) = outVld s := by
  rcases s with ⟨stateQ, regs⟩
  cases stateQ <;> rfl

theorem advances_eq (s : State cfg) (i : Input cfg) :
    dividerFsm (advances s i) = SerialDivider.advances (dividerState s) (dividerInput i) := by
  rcases s with ⟨stateQ, regs⟩
  cases stateQ with
  | idle =>
      change dividerFsm (if i.inVld then .divide else .idle) =
        if i.inVld then .divide else .idle
      split <;> rfl
  | divide =>
      have finished : (dividerRegs regs).cntQ = 0 ↔ regs.cntQ = 0 :=
        setWidth_eq_zero (cntBits_eq cfg) _
      change dividerFsm (if known regs then if i.outRdy then .idle else .finish
          else if regs.cntQ = 0 then .finish else .divide) =
        if known regs then if i.outRdy then .idle else .finish
          else if (dividerRegs regs).cntQ = 0 then .finish else .divide
      simp only [finished, apply_ite dividerFsm]
      rfl
  | finish =>
      change dividerFsm (if i.outRdy then .idle else .finish) =
        if i.outRdy then .idle else .finish
      split <;> rfl

theorem dividerState_step (s : State cfg) (i : Input cfg) :
    dividerState (step s i) = SerialDivider.step (dividerState s) (dividerInput i) := by
  have fsm : dividerFsm (step s i).stateQ =
      (SerialDivider.step (dividerState s) (dividerInput i)).stateQ := by
    change dividerFsm (if i.flush then .idle else advances s i) =
      if i.flush then .idle else SerialDivider.advances (dividerState s) (dividerInput i)
    rw [← advances_eq, apply_ite dividerFsm]
    rfl
  have regs : dividerRegs (step s i).regs =
      (SerialDivider.step (dividerState s) (dividerInput i)).regs := by
    rcases s with ⟨stateQ, regs⟩
    cases stateQ with
    | idle =>
        cases offered : i.inVld <;> cases flush : i.flush <;>
          simp [dividerState, step, SerialDivider.step, SerialDivider.loadEn, dividerFsm,
            dividerInput, offered, flush, load_eq, count_eq]
    | divide =>
        have isKnown := known_eq regs
        cases value : known regs <;> rw [value] at isKnown <;> cases flush : i.flush <;>
          simp only [dividerState, step, SerialDivider.step, dividerFsm, dividerInput, flush, value,
            isKnown, if_true, Bool.false_eq_true, if_false, ← count_eq, divide_eq]
        rfl
    | finish => exact count_eq regs
  exact congrArg₂ SerialDivider.State.mk fsm regs

/-! ## Results -/

end Cva6Hpd.Execute.Serdiv
