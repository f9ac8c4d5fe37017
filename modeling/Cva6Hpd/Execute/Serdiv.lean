import Cva6Hpd.Execute.Multiplier

/-!
# Serial divider

`serdiv` loads the aligned operands, subtracts and shifts once in each cycle until its
counter is zero, and holds the result until it is taken. A division whose result is known
ends at once.
-/

namespace Cva6Hpd.Execute.Serdiv

open Cva6Hpd.Ariane
open Cva6Hpd.Issue (Cfg)

/-- `$clog2(WIDTH)`. -/
def cntBits (cfg : Cfg) : Nat := if cfg.isXlen64 then 6 else 5

inductive FsmState where
  | idle
  | divide
  | finish
deriving DecidableEq

/-- The registers of the data path and the counter. -/
structure Regs (cfg : Cfg) where
  opAQ : BitVec cfg.xlen
  opBQ : BitVec cfg.xlen
  resQ : BitVec cfg.xlen
  cntQ : BitVec (cntBits cfg)
  idQ : cfg.TransId
  remSelQ : Bool
  compInvQ : Bool
  resInvQ : Bool
  opBZeroQ : Bool
  opBNegOneQ : Bool
  divResZeroQ : Bool
deriving DecidableEq

structure State (cfg : Cfg) where
  stateQ : FsmState
  regs : Regs cfg

/-- The operands; `rem` and `isSigned` are the bits of `opcode_i`. -/
structure Request (cfg : Cfg) where
  id : cfg.TransId
  opA : BitVec cfg.xlen
  opB : BitVec cfg.xlen
  rem : Bool
  isSigned : Bool

structure Input (cfg : Cfg) where
  inVld : Bool
  request : Request cfg
  flush : Bool
  outRdy : Bool

variable {cfg : Cfg}

def Regs.reset : Regs cfg where
  opAQ := 0
  opBQ := 0
  resQ := 0
  cntQ := 0
  idQ := 0
  remSelQ := false
  compInvQ := false
  resInvQ := false
  opBZeroQ := false
  opBNegOneQ := false
  divResZeroQ := false

def reset : State cfg where
  stateQ := .idle
  regs := .reset

/-! ## Data path -/

/-- `lzc` of the width of a register: of zero it counts all bits but one. -/
def lzc (input : BitVec cfg.xlen) : Nat :=
  if input = 0 then cfg.xlen - 1 else input.clz.toNat

section Load

variable (request : Request cfg)

def lzcAInput : BitVec cfg.xlen :=
  if request.isSigned && request.opA.msb then (~~~request.opA) <<< 1 ||| 1 else request.opA

def lzcBInput : BitVec cfg.xlen :=
  if request.isSigned && request.opB.msb then ~~~request.opB else request.opB

/-- `div_shift`, whose highest bit is the sign. -/
def divShift : BitVec (cntBits cfg + 2) :=
  let shiftA := if lzcAInput request = 0 then cfg.xlen else lzc (lzcAInput request)
  BitVec.ofNat _ (lzc (lzcBInput request)) - BitVec.ofNat _ shiftA

/-- The registers after `load_en`. -/
def load : Regs cfg :=
  let signA := request.opA.msb
  let signB := request.opB.msb
  let noOneB : Bool := lzcBInput request = 0
  let zero := noOneB && !signB
  let negOne := noOneB && signB
  { opAQ := if request.isSigned && (signA ^^ signB) then -request.opA else request.opA
    opBQ := request.opB <<< (divShift request).toNat
    resQ := 0
    cntQ := (divShift request).setWidth _
    idQ := request.id
    remSelQ := request.rem
    compInvQ := request.isSigned && signB
    resInvQ := (!zero || request.rem) && request.isSigned && (signA ^^ signB ^^ negOne)
    opBZeroQ := zero
    opBNegOneQ := negOne
    divResZeroQ := (divShift request).msb }

end Load

section Divide

variable (regs : Regs cfg)

/-- The result is known without a subtraction. -/
def known : Bool := regs.divResZeroQ || regs.opBZeroQ || regs.opBNegOneQ

def abComp : Bool :=
  (decide (regs.opAQ = regs.opBQ) || (decide (regs.opBQ < regs.opAQ) ^^ regs.compInvQ)) &&
    (decide (regs.opAQ ≠ 0) || regs.opBZeroQ)

/-- The counter runs in every state. -/
def count : Regs cfg :=
  { regs with cntQ := if regs.cntQ = 0 then regs.cntQ else regs.cntQ - 1 }

/-- The shift of the next bit into the quotient. -/
def shiftRes : BitVec cfg.xlen := regs.resQ <<< 1 ||| if abComp regs then 1 else 0

/-- One subtraction and shift. -/
def divide : Regs cfg :=
  { count regs with
    opAQ := if abComp regs then regs.opAQ - regs.opBQ else regs.opAQ
    opBQ :=
      if regs.compInvQ then regs.opBQ >>> 1 ||| BitVec.twoPow _ (cfg.xlen - 1)
      else regs.opBQ >>> 1
    resQ := shiftRes regs }

/-- `res_o`. -/
def resO : BitVec cfg.xlen :=
  let outMux :=
    if regs.remSelQ then if regs.opBNegOneQ then 0 else regs.opAQ
    else if regs.opBZeroQ then BitVec.allOnes _
    else if regs.opBNegOneQ then regs.opAQ
    else regs.resQ
  if regs.resInvQ then -outMux else outMux

end Divide

/-! ## Control -/

section Control

variable (s : State cfg) (i : Input cfg)

/-- `in_rdy_o`. -/
def inRdy : Bool := s.stateQ = .idle && !i.inVld

/-- `out_vld_o`. -/
def outVld : Bool :=
  match s.stateQ with
  | .idle => false
  | .divide => known s.regs
  | .finish => true

/-- `state_d` before the flush. -/
def advances : FsmState :=
  match s.stateQ with
  | .idle => if i.inVld then .divide else .idle
  | .divide =>
    if known s.regs then if i.outRdy then .idle else .finish
    else if s.regs.cntQ = 0 then .finish
    else .divide
  | .finish => if i.outRdy then .idle else .finish

/-- A flush does not stop the shift of the quotient. -/
def step : State cfg where
  stateQ := if i.flush then .idle else advances s i
  regs :=
    match s.stateQ with
    | .idle => if i.inVld && !i.flush then load i.request else count s.regs
    | .divide =>
      if known s.regs then count s.regs
      else if i.flush then { count s.regs with resQ := shiftRes s.regs }
      else divide s.regs
    | .finish => count s.regs

end Control

/-! ## Results -/

/-- So many subtractions. -/
def divides : Nat → Regs cfg → Regs cfg
  | 0, regs => regs
  | n + 1, regs => divides n (divide regs)

/-- The registers from which the result of a division is read. -/
def divided (regs : Regs cfg) : Regs cfg :=
  if known regs then regs else divides (regs.cntQ.toNat + 1) regs

theorem known_divide (regs : Regs cfg) : known (divide regs) = known regs := rfl

theorem idQ_divide (regs : Regs cfg) : (divide regs).idQ = regs.idQ := rfl

theorem toNat_cntQ_divide {regs : Regs cfg} (running : regs.cntQ ≠ 0) :
    (divide regs).cntQ.toNat + 1 = regs.cntQ.toNat := by
  simp only [divide, count, if_neg running]
  have positive : 0 < regs.cntQ.toNat := by
    rw [Nat.pos_iff_ne_zero]
    intro zero
    exact running (BitVec.eq_of_toNat_eq (by simpa using zero))
  have bits : 1 < 2 ^ cntBits cfg := by
    rw [cntBits]
    split <;> decide
  have one : (1 : BitVec (cntBits cfg)).toNat = 1 := by
    simpa using Nat.mod_eq_of_lt bits
  rw [BitVec.toNat_sub_of_le (by rw [BitVec.le_def, one]; exact positive), one]
  omega

theorem divided_divide_of_pos {regs : Regs cfg} (unknown : known regs = false)
    (running : regs.cntQ ≠ 0) : divided (divide regs) = divided regs := by
  rw [divided, divided, known_divide, if_neg (by simp [unknown]), if_neg (by simp [unknown]),
    toNat_cntQ_divide running]
  rfl

theorem divided_of_zero {regs : Regs cfg} (unknown : known regs = false)
    (finished : regs.cntQ = 0) : divided regs = divide regs := by
  simp [divided, unknown, finished, divides]

end Cva6Hpd.Execute.Serdiv
