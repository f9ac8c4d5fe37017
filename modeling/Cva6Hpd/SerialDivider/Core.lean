import Cva6Hpd.Hw.Machine
import Mathlib.Algebra.GroupWithZero.Nat
import Mathlib.Data.Nat.Log

/-!
# Serial divider of any width

`serdiv` counts the leading zeros of both operands, aligns the divisor with the dividend and
then subtracts and shifts once in each cycle. A negative divisor stays negative: the dividend
takes its sign, the comparison is turned round, and the result is inverted in the end.
-/

namespace Cva6Hpd.SerialDivider

open Cva6Hpd.Hw

/-- The parameters. The part selects of the registers leave out one bit of an operand. -/
structure Cfg where
  width : Nat
  transIdBits : Nat
  stableHandshake : Bool
  width_ge : 2 ≤ width

namespace Cfg

variable (cfg : Cfg)

/-- The bits of `cnt_q` and of the results of both `lzc`. -/
def cntBits : Nat := Nat.clog 2 cfg.width

/-- The bits of `div_shift`. -/
def shiftBits : Nat := Nat.clog 2 (cfg.width + 1) + 1

end Cfg

inductive FsmState where
  | idle
  | divide
  | finish
deriving DecidableEq

/-- The registers of the data path and the counter. -/
structure Regs (cfg : Cfg) where
  opAQ : BitVec cfg.width
  opBQ : BitVec cfg.width
  resQ : BitVec cfg.width
  cntQ : BitVec cfg.cntBits
  idQ : BitVec cfg.transIdBits
  remSelQ : Bool
  compInvQ : Bool
  resInvQ : Bool
  opBZeroQ : Bool
  opBNegOneQ : Bool
  divResZeroQ : Bool
deriving DecidableEq

structure State (cfg : Cfg) where
  stateQ : FsmState
  regs : Regs cfg

/-- The operands; `rem` and `isSigned` are the bits of `opcode_i`. -/
structure Request (cfg : Cfg) where
  id : BitVec cfg.transIdBits
  opA : BitVec cfg.width
  opB : BitVec cfg.width
  rem : Bool
  isSigned : Bool
deriving DecidableEq

structure Input (cfg : Cfg) where
  inVld : Bool
  request : Request cfg
  flush : Bool
  outRdy : Bool

variable {cfg : Cfg}

def Regs.reset : Regs cfg where
  opAQ := 0
  opBQ := 0
  resQ := 0
  cntQ := 0
  idQ := 0
  remSelQ := false
  compInvQ := false
  resInvQ := false
  opBZeroQ := false
  opBNegOneQ := false
  divResZeroQ := false

def reset : State cfg where
  stateQ := .idle
  regs := .reset

/-! ## Operands -/

/-- `cnt_o` of `lzc` without a one: the tree selects its last leaf, which is out of range
unless the width is a power of two or one less. -/
def lzcEmpty (width : Nat) : Nat := if width + 1 < 2 ^ Nat.clog 2 width then 0 else width - 1

/-- `cnt_o` of `lzc`. -/
def lzc (input : BitVec cfg.width) : Nat :=
  if input = 0 then lzcEmpty cfg.width else input.clz.toNat

section Load

variable (request : Request cfg)

def lzcAInput : BitVec cfg.width :=
  if request.isSigned && request.opA.msb then (~~~request.opA) <<< 1 ||| 1 else request.opA

def lzcBInput : BitVec cfg.width :=
  if request.isSigned && request.opB.msb then ~~~request.opB else request.opB

def shiftA : Nat :=
  if lzcAInput request = 0 then cfg.width else lzc (lzcAInput request)

/-- `div_shift`, whose highest bit is the sign. -/
def divShift : BitVec cfg.shiftBits :=
  BitVec.ofNat _ (lzc (lzcBInput request)) - BitVec.ofNat _ (shiftA request)

/-- `op_b_zero`. -/
def opBZero : Bool := lzcBInput request = 0 && !request.opB.msb

/-- `op_b_neg_one`. -/
def opBNegOne : Bool := lzcBInput request = 0 && request.opB.msb

/-- The registers after `load_en`. -/
def load : Regs cfg :=
  let signA := request.opA.msb
  let signB := request.opB.msb
  { opAQ := if request.isSigned && (signA ^^ signB) then -request.opA else request.opA
    opBQ := request.opB <<< (divShift request).toNat
    resQ := 0
    cntQ := (divShift request).setWidth _
    idQ := request.id
    remSelQ := request.rem
    compInvQ := request.isSigned && signB
    resInvQ :=
      (!opBZero request || request.rem) && request.isSigned &&
        (signA ^^ signB ^^ opBNegOne request)
    opBZeroQ := opBZero request
    opBNegOneQ := opBNegOne request
    divResZeroQ := (divShift request).msb }

end Load

/-! ## Data path -/

section Divide

variable (regs : Regs cfg)

/-- The result is known without a subtraction. -/
def known : Bool := regs.divResZeroQ || regs.opBZeroQ || regs.opBNegOneQ

def abComp : Bool :=
  (decide (regs.opAQ = regs.opBQ) || (decide (regs.opBQ < regs.opAQ) ^^ regs.compInvQ)) &&
    (decide (regs.opAQ ≠ 0) || regs.opBZeroQ)

/-- The counter runs in every state. -/
def count : Regs cfg :=
  { regs with cntQ := if regs.cntQ = 0 then regs.cntQ else regs.cntQ - 1 }

/-- The shift of the next bit into the quotient. -/
def shiftRes : BitVec cfg.width := regs.resQ <<< 1 ||| if abComp regs then 1 else 0

/-- `b_mux` without `load_en`. -/
def shiftB : BitVec cfg.width :=
  if regs.compInvQ then regs.opBQ >>> 1 ||| BitVec.twoPow _ (cfg.width - 1) else regs.opBQ >>> 1

/-- One subtraction and shift. -/
def divide : Regs cfg :=
  { count regs with
    opAQ := if abComp regs then regs.opAQ - regs.opBQ else regs.opAQ
    opBQ := shiftB regs
    resQ := shiftRes regs }

def outMux : BitVec cfg.width :=
  if regs.remSelQ then if regs.opBNegOneQ then 0 else regs.opAQ
  else if regs.opBZeroQ then BitVec.allOnes _
  else if regs.opBNegOneQ then regs.opAQ
  else regs.resQ

/-- `res_o`. -/
def resO : BitVec cfg.width := if regs.resInvQ then -outMux regs else outMux regs

end Divide

/-! ## Control -/

section Control

variable (s : State cfg) (i : Input cfg)

/-- `in_rdy_o`. -/
def inRdy : Bool := s.stateQ = .idle && (!i.inVld || cfg.stableHandshake)

/-- `load_en`. -/
def loadEn : Bool := s.stateQ = .idle && i.inVld && !i.flush

/-- `out_vld_o`. -/
def outVld : Bool :=
  match s.stateQ with
  | .idle => false
  | .divide => known s.regs
  | .finish => true

/-- `state_d` before the flush. -/
def advances : FsmState :=
  match s.stateQ with
  | .idle => if i.inVld then .divide else .idle
  | .divide =>
    if known s.regs then if i.outRdy then .idle else .finish
    else if s.regs.cntQ = 0 then .finish
    else .divide
  | .finish => if i.outRdy then .idle else .finish

/-- A flush does not stop the shift of the quotient. -/
def step : State cfg where
  stateQ := if i.flush then .idle else advances s i
  regs :=
    match s.stateQ with
    | .idle => if loadEn s i then load i.request else count s.regs
    | .divide =>
      if known s.regs then count s.regs
      else if i.flush then { count s.regs with resQ := shiftRes s.regs }
      else divide s.regs
    | .finish => count s.regs

end Control

def machine (cfg : Cfg) : Machine (State cfg) (Input cfg) where
  reset := reset
  step := step

end Cva6Hpd.SerialDivider
