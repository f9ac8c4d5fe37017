import Cva6Hpd.Issue.Hazards

/-!
# Multiplier

`multiplier` computes a product in one cycle and selects the result from its registers in
the next one.
-/

namespace Cva6Hpd.Execute

open Cva6Hpd.Ariane
open Cva6Hpd.Issue (Cfg)

/-- The fields of `fu_data_t` that the units of the fixed latency port read. -/
structure FuData (cfg : Cfg) where
  transId : cfg.TransId
  operation : FuOp
  operandA : BitVec cfg.xlen
  operandB : BitVec cfg.xlen
  imm : BitVec cfg.xlen
deriving DecidableEq

variable {cfg : Cfg}

/-- `'0`. -/
def FuData.zero : FuData cfg where
  transId := 0
  operation := .add
  operandA := 0
  operandB := 0
  imm := 0

/-- `sext32to64`, of the width of a register. -/
def sext32 (word : BitVec cfg.xlen) : BitVec cfg.xlen :=
  (word.setWidth 32).signExtend cfg.xlen

namespace Multiplier

/-- The operations of the multiplier. -/
def operations : List FuOp := [.mul, .mulh, .mulhu, .mulhsu, .mulw, .clmul, .clmulh, .clmulr]

/-- The pipeline register without its valid bit. -/
structure Regs (cfg : Cfg) where
  transIdQ : cfg.TransId
  operatorQ : FuOp
  multResultQ : BitVec (cfg.xlen * 2)
  clmulQ : BitVec cfg.xlen
  clmulrQ : BitVec cfg.xlen
deriving DecidableEq

def Regs.reset : Regs cfg where
  transIdQ := 0
  operatorQ := .mul
  multResultQ := 0
  clmulQ := 0
  clmulrQ := 0

/-- An operand with its sign bit under `sign`. -/
def extended (sign : Bool) (operand : BitVec cfg.xlen) : Int :=
  if sign then operand.toInt else operand.toNat

/-- `mult_result_d`. -/
def multResultD (data : FuData cfg) : BitVec (cfg.xlen * 2) :=
  let signA := data.operation = .mulh || data.operation = .mulhsu
  let signB := data.operation = .mulh
  BitVec.ofInt _ (extended signA data.operandA * extended signB data.operandB)

/-- `clmul_d`. -/
def clmulD (data : FuData cfg) : BitVec cfg.xlen :=
  let reversed := data.operation = .clmulr || data.operation = .clmulh
  let a := if reversed then data.operandA.reverse else data.operandA
  let b := if reversed then data.operandB.reverse else data.operandB
  (List.range (cfg.xlen + 1)).foldl
    (fun clmul i => if (b >>> i).getLsbD 0 then clmul ^^^ (a <<< i) else clmul) 0

/-- What the registers latch. -/
def latch (data : FuData cfg) : Regs cfg where
  transIdQ := data.transId
  operatorQ := data.operation
  multResultQ := multResultD data
  clmulQ := if cfg.rvb then clmulD data else 0
  clmulrQ := if cfg.rvb then (clmulD data).reverse else 0

/-- `result_o`. -/
def result (regs : Regs cfg) : BitVec cfg.xlen :=
  match regs.operatorQ with
  | .mulh | .mulhu | .mulhsu => regs.multResultQ.extractLsb' cfg.xlen cfg.xlen
  | .clmul => regs.clmulQ
  | .clmulh => regs.clmulrQ >>> 1
  | .clmulr => regs.clmulrQ
  | .mulw =>
    if cfg.isXlen64 then sext32 (regs.multResultQ.setWidth cfg.xlen)
    else regs.multResultQ.setWidth cfg.xlen
  | _ => regs.multResultQ.setWidth cfg.xlen

end Multiplier

end Cva6Hpd.Execute
