import Cva6Hpd.Frontend.Fetch

/-!
# The branch unit

`branch_unit` with the comparison of the ALU. A control-flow instruction is resolved to the place
where the instruction set continues, and a misprediction is reported when the prediction that
stands with the instruction is not the one for this place. XLEN is VLEN.
-/

namespace Cva6Hpd.Execute.BranchUnit

open Cva6Hpd.Ariane (FuOp)
open Cva6Hpd.Frontend.InstrQueue (Cf)

/-! ## The code -/

/-- `fu_data_t`, as far as it is read here. -/
structure FuData (vlen : Nat) where
  operation : FuOp
  operandA : BitVec vlen
  operandB : BitVec vlen
  imm : BitVec vlen

/-- `branchpredict_sbe_t`. -/
structure BranchPredict (vlen : Nat) where
  cf : Cf
  predictAddress : BitVec vlen

/-- `bp_resolve_t`. -/
structure BpResolve (vlen : Nat) where
  valid : Bool
  pc : BitVec vlen
  targetAddress : BitVec vlen
  isMispredict : Bool
  isTaken : Bool
  cfType : Cf
deriving DecidableEq

/-- The inputs; `rvzcmt` is the parameter. -/
structure Input (vlen : Nat) where
  rvzcmt : Bool
  fuData : FuData vlen
  pc : BitVec vlen
  isZcmt : Bool
  isCompressedInstr : Bool
  branchValid : Bool
  branchCompRes : Bool
  branchPredict : BranchPredict vlen

/-- `op_is_branch`. -/
def opIsBranch : FuOp → Bool
  | .eq | .ne | .lts | .ges | .ltu | .geu => true
  | _ => false

section Alu

variable {vlen : Nat} (d : FuData vlen)

/-- `adder_z_flag`; the second operand of a comparison is negated. -/
def adderZFlag : Bool := decide (d.operandA + ~~~d.operandB + 1 = 0)

/-- `less`. -/
def less : Bool :=
  if d.operation ∈ [FuOp.slts, .lts, .ges, .max, .min] then d.operandA.slt d.operandB
  else d.operandA.ult d.operandB

/-- `alu_branch_res_o`. -/
def aluBranchRes : Bool :=
  match d.operation with
  | .eq => adderZFlag d
  | .ne => !adderZFlag d
  | .lts | .ltu => less d
  | .ges | .geu => !less d
  | _ => true

end Alu

section MispredictHandler

variable {vlen : Nat} (i : Input vlen)

def jumpBase : BitVec vlen :=
  if i.fuData.operation = .jalr then i.fuData.operandA else i.pc

def nextPc : BitVec vlen := i.pc + if i.isCompressedInstr then 2 else 4

/-- `target_address`; its lowest bit is cleared for a register jump. -/
def targetAddress : BitVec vlen :=
  let target := jumpBase i + i.fuData.imm
  if i.fuData.operation = .jalr then target &&& ~~~1 else target

/-- A register jump that was not predicted, or to another address. -/
def jumpMispredicted : Bool :=
  decide (i.fuData.operation = .jalr) &&
    (decide (i.branchPredict.cf = .noCF) ||
      decide (targetAddress i ≠ i.branchPredict.predictAddress))

/-- `resolved_branch_o`; the last assignment takes precedence. -/
def resolvedBranch : BpResolve vlen where
  valid := i.branchValid
  pc := i.pc
  targetAddress :=
    if i.branchValid then if i.branchCompRes then targetAddress i else nextPc i else 0
  isMispredict :=
    i.branchValid &&
      if jumpMispredicted i then true
      else if opIsBranch i.fuData.operation then
        i.branchCompRes != decide (i.branchPredict.cf = .branch)
      else i.rvzcmt && i.isZcmt
  isTaken := i.branchValid && i.branchCompRes
  cfType :=
    if i.branchValid && jumpMispredicted i && decide (i.branchPredict.cf ≠ .ret) then .jumpR
    else if i.branchValid && opIsBranch i.fuData.operation then .branch
    else if i.branchValid && i.rvzcmt && i.isZcmt then .jumpR
    else i.branchPredict.cf

end MispredictHandler

/-! ## Where the instruction set continues -/

section Architecture

variable {vlen : Nat}

/-- The condition of a branch; jumps have none. -/
def Condition (d : FuData vlen) : Prop :=
  match d.operation with
  | .eq => d.operandA = d.operandB
  | .ne => d.operandA ≠ d.operandB
  | .lts => d.operandA.toInt < d.operandB.toInt
  | .ges => d.operandB.toInt ≤ d.operandA.toInt
  | .ltu => d.operandA.toNat < d.operandB.toNat
  | .geu => d.operandB.toNat ≤ d.operandA.toNat
  | _ => True

instance decidableCondition (d : FuData vlen) : Decidable (Condition d) := by
  unfold Condition
  split <;> infer_instance

/-- The address of the instruction that follows a control-flow instruction of the given length. -/
def continues (pc : BitVec vlen) (compressed : Bool) (d : FuData vlen) : BitVec vlen :=
  if Condition d then
    if d.operation = .jalr then (d.operandA + d.imm) &&& ~~~1 else pc + d.imm
  else pc + if compressed then 2 else 4

theorem adderZFlag_iff (d : FuData vlen) : adderZFlag d = true ↔ d.operandA = d.operandB := by
  have negated : ~~~d.operandB + 1 = -d.operandB := (BitVec.neg_eq_not_add _).symm
  rw [adderZFlag, decide_eq_true_eq, BitVec.add_assoc, negated, ← BitVec.sub_eq_add_neg]
  exact sub_eq_zero

theorem less_signed {d : FuData vlen} (signed : d.operation = .lts ∨ d.operation = .ges) :
    less d = true ↔ d.operandA.toInt < d.operandB.toInt := by
  have member : d.operation ∈ [FuOp.slts, .lts, .ges, .max, .min] := by
    rcases signed with op | op <;> simp [op]
  rw [less, if_pos member, BitVec.slt_iff_toInt_lt]

theorem less_unsigned {d : FuData vlen} (unsigned : d.operation = .ltu ∨ d.operation = .geu) :
    less d = true ↔ d.operandA.toNat < d.operandB.toNat := by
  have other : d.operation ∉ [FuOp.slts, .lts, .ges, .max, .min] := by
    rcases unsigned with op | op <;> simp [op]
  rw [less, if_neg other, BitVec.ult, decide_eq_true_eq]

theorem aluBranchRes_iff (d : FuData vlen) : aluBranchRes d = true ↔ Condition d := by
  unfold aluBranchRes Condition
  cases op : d.operation
  case eq => exact adderZFlag_iff d
  case ne => rw [Bool.not_eq_true', ← Bool.not_eq_true, adderZFlag_iff]
  case lts => exact less_signed (.inl op)
  case ltu => exact less_unsigned (.inl op)
  case ges => rw [Bool.not_eq_true', ← Bool.not_eq_true, less_signed (.inr op), Int.not_lt]
  case geu => rw [Bool.not_eq_true', ← Bool.not_eq_true, less_unsigned (.inr op), Nat.not_lt]
  all_goals exact iff_of_true rfl trivial

variable {i : Input vlen}

theorem targetAddress_resolvedBranch (valid : i.branchValid = true)
    (compared : i.branchCompRes = aluBranchRes i.fuData) :
    (resolvedBranch i).targetAddress = continues i.pc i.isCompressedInstr i.fuData := by
  have condition := aluBranchRes_iff i.fuData
  rw [← compared] at condition
  simp only [resolvedBranch, valid, if_true, continues, condition, targetAddress, jumpBase, nextPc]
  split
  · split <;> rfl
  · rfl

end Architecture

/-! ## Speculation -/

section Speculation

open Cva6Hpd.Frontend

variable {cfg : Fetch.Cfg} {s : Fetch.State cfg} {f : Fetch.Input cfg} {p : Fin cfg.ports}

/-- The ports in front of the first control flow leave the predicted address alone. -/
theorem portPredict_of_noCF (none : Fetch.cfType s f p = .noCF) (behind : BitVec cfg.vlen) :
    Fetch.portPredict s f p behind = behind := by
  rw [Fetch.cfType] at none
  rw [Fetch.portPredict, Fetch.takenRviCf, Fetch.takenRvcCf]
  cases branch : Fetch.isBranch s p <;> cases ret : Fetch.isReturn s p <;>
    cases jump : Fetch.isJump s p <;> cases jalr : Fetch.isJalr s p <;>
    simp_all [Fetch.takenRviCf, Fetch.takenRvcCf]

theorem predictAddress_of_first (first : ∀ q < p, Fetch.cfType s f q = .noCF) :
    ∃ behind, Fetch.predictAddress s f = Fetch.portPredict s f p behind := by
  obtain ⟨before, after, split⟩ := List.append_of_mem (List.mem_finRange p)
  have ordered := split ▸ List.pairwise_lt_finRange cfg.ports
  refine ⟨after.foldr (Fetch.portPredict s f) 0, ?_⟩
  rw [Fetch.predictAddress, split, List.foldr_append, List.foldr_cons]
  generalize Fetch.portPredict s f p (after.foldr (Fetch.portPredict s f) 0) = here
  have front : ∀ q ∈ before, Fetch.cfType s f q = .noCF := fun q member =>
    first q ((List.pairwise_append.mp ordered).2.2 q member p List.mem_cons_self)
  clear ordered split
  induction before with
  | nil => rfl
  | cons q before inductionHypothesis =>
      rw [List.foldr_cons, inductionHypothesis fun r member =>
        front r (List.mem_cons_of_mem _ member)]
      exact portPredict_of_noCF (front q List.mem_cons_self) here

/-- The branch unit resolves the first control flow of a fetch block, with what the
decoder makes of it and with the prediction that the frontend recorded. -/
structure Resolves (s : Fetch.State cfg) (f : Fetch.Input cfg) (p : Fin cfg.ports)
    (i : Input cfg.vlen) : Prop where
  fetched : Fetch.instructionValid s p = true
  first : ∀ q < p, Fetch.cfType s f q = .noCF
  decoded : InstrScan.decode cfg.xlen32 cfg.vlen (Fetch.instr s p) =
    some ⟨i.fuData.operation, i.fuData.imm⟩
  pc : i.pc = Fetch.addr s p
  predicted : i.branchPredict = ⟨Fetch.cfType s f p, Fetch.predictAddress s f⟩
  valid : i.branchValid = true
  compared : i.branchCompRes = aluBranchRes i.fuData
  noTable : i.isZcmt = false

variable {i : Input cfg.vlen}

theorem Resolves.predictAddress_of_taken (resolves : Resolves s f p i)
    (taken : (Fetch.takenRvcCf s f p || Fetch.takenRviCf s f p) = true)
    (imm : i.fuData.imm = if Fetch.takenRvcCf s f p then (Fetch.scanned s p).rvcImm
      else (Fetch.scanned s p).rviImm) :
    Fetch.predictAddress s f = i.pc + i.fuData.imm := by
  obtain ⟨behind, predicted⟩ := predictAddress_of_first resolves.first
  rw [predicted, Fetch.portPredict, if_pos taken, resolves.pc, imm]

theorem jumpMispredicted_of_not_jalr (other : i.fuData.operation ≠ .jalr) :
    jumpMispredicted i = false := by
  rw [jumpMispredicted, decide_eq_false other, Bool.false_and]

theorem Resolves.classes (resolves : Resolves s f p i) :
    Fetch.isBranch s p = (Fetch.scanned s p).isBranch ∧
      Fetch.isReturn s p = (Fetch.scanned s p).isReturn ∧
      Fetch.isJump s p = (Fetch.scanned s p).isJump ∧
      Fetch.isJalr s p = (Fetch.scanned s p).isJalr := by
  have isReturn : Fetch.isReturn s p = (Fetch.scanned s p).isReturn := by
    rw [Fetch.isReturn, resolves.fetched, Bool.true_and]
  rw [Fetch.isJalr, isReturn, Fetch.isBranch, Fetch.isJump, resolves.fetched]
  exact ⟨rfl, rfl, rfl, rfl⟩

section Kinds

variable (resolves : Resolves s f p i)

include resolves

theorem Resolves.continues_of_jump (op : i.fuData.operation = .add)
    (imm : i.fuData.imm = (Fetch.scanned s p).imm) (jumps : (Fetch.scanned s p).isJump = true)
    (branches : (Fetch.scanned s p).isBranch = false)
    (returns : (Fetch.scanned s p).isReturn = false)
    (jalrs : (Fetch.scanned s p).isJalr = false) :
    continues i.pc i.isCompressedInstr i.fuData =
      if Fetch.cfType s f p = .noCF then nextPc i else Fetch.predictAddress s f := by
  obtain ⟨isBranch, isReturn, isJump, isJalr⟩ := resolves.classes
  have holds : Condition i.fuData := by unfold Condition; rw [op]; trivial
  have kind : Fetch.cfType s f p = .jump := by
    rw [Fetch.cfType, isBranch, branches, isReturn, returns, isJump, jumps, isJalr, jalrs]
  have rvi : Fetch.takenRviCf s f p = (Fetch.scanned s p).rviJump := by
    rw [Fetch.takenRviCf, isBranch, branches, isReturn, returns, isJump, jumps, isJalr, jalrs]
  have rvc : Fetch.takenRvcCf s f p = (Fetch.scanned s p).rvcJump := by
    rw [Fetch.takenRvcCf, isBranch, branches, isReturn, returns, isJump, jumps, isJalr, jalrs]
  rw [kind, if_neg (by decide), resolves.predictAddress_of_taken, continues, if_pos holds,
    if_neg (by rw [op]; decide)]
  · rw [rvi, rvc, Bool.or_comm]
    exact jumps
  · rw [rvc]
    rw [InstrScan.Scan.isBranch, Bool.or_eq_false_iff] at branches
    simpa [InstrScan.Scan.imm, branches.2] using imm

theorem Resolves.continues_of_branch
    (op : i.fuData.operation ∈ [FuOp.eq, .ne, .lts, .ges, .ltu, .geu])
    (imm : i.fuData.imm = (Fetch.scanned s p).imm) (jumps : (Fetch.scanned s p).isJump = false)
    (branches : (Fetch.scanned s p).isBranch = true)
    (returns : (Fetch.scanned s p).isReturn = false)
    (jalrs : (Fetch.scanned s p).isJalr = false)
    (unflagged : (resolvedBranch i).isMispredict = false) :
    continues i.pc i.isCompressedInstr i.fuData =
      if Fetch.cfType s f p = .noCF then nextPc i else Fetch.predictAddress s f := by
  obtain ⟨isBranch, isReturn, isJump, isJalr⟩ := resolves.classes
  have condition := aluBranchRes_iff i.fuData
  have isOp : opIsBranch i.fuData.operation = true ∧ i.fuData.operation ≠ .jalr := by
    simp only [List.mem_cons, List.not_mem_nil, or_false] at op
    rcases op with op | op | op | op | op | op <;> simp [op, opIsBranch]
  simp only [resolvedBranch, resolves.valid, Bool.true_and, resolves.predicted] at unflagged
  rw [jumpMispredicted_of_not_jalr isOp.2, if_neg Bool.false_ne_true, if_pos isOp.1,
    bne_eq_false_iff_eq, resolves.compared] at unflagged
  have kind : Fetch.cfType s f p =
      if Fetch.takenRviCf s f p || Fetch.takenRvcCf s f p then .branch else .noCF := by
    rw [Fetch.cfType, isBranch, branches, isReturn, returns, isJump, jumps, isJalr, jalrs]
  have rvi : Fetch.takenRviCf s f p = ((Fetch.scanned s p).rviBranch &&
      Fetch.branchTaken f p (Fetch.scanned s p).rviImm) := by
    rw [Fetch.takenRviCf, isBranch, branches, isReturn, returns, isJump, jumps, isJalr, jalrs]
  have rvc : Fetch.takenRvcCf s f p = ((Fetch.scanned s p).rvcBranch &&
      Fetch.branchTaken f p (Fetch.scanned s p).rvcImm) := by
    rw [Fetch.takenRvcCf, isBranch, branches, isReturn, returns, isJump, jumps, isJalr, jalrs]
  rw [unflagged] at condition
  cases hit : Fetch.takenRviCf s f p || Fetch.takenRvcCf s f p with
  | false =>
      rw [hit, if_neg Bool.false_ne_true] at kind
      rw [kind] at condition ⊢
      rw [if_pos rfl, continues, if_neg fun holds => absurd (condition.mpr holds) (by decide)]
      rfl
  | true =>
      rw [hit, if_pos rfl] at kind
      rw [kind] at condition ⊢
      rw [if_neg (by decide), resolves.predictAddress_of_taken, continues,
        if_pos (condition.mp (by decide)), if_neg isOp.2]
      · rw [Bool.or_comm]
        exact hit
      · rw [InstrScan.Scan.isJump, Bool.or_eq_false_iff] at jumps
        rw [InstrScan.Scan.imm, jumps.2, Bool.or_false] at imm
        cases short : (Fetch.scanned s p).rvcBranch with
        | false => simpa [rvc, short] using imm
        | true =>
            have long : (Fetch.scanned s p).rviBranch = false :=
              InstrScan.rviBranch_of_rvcBranch short
            rw [rvi, long, Bool.false_and, Bool.false_or] at hit
            simpa [hit, short] using imm

theorem Resolves.continues_of_jalr (op : i.fuData.operation = .jalr)
    (unflagged : (resolvedBranch i).isMispredict = false) :
    continues i.pc i.isCompressedInstr i.fuData =
      if Fetch.cfType s f p = .noCF then nextPc i else Fetch.predictAddress s f := by
  have holds : Condition i.fuData := by unfold Condition; rw [op]; trivial
  have right : jumpMispredicted i = false := by
    cases jump : jumpMispredicted i with
    | false => rfl
    | true => simp [resolvedBranch, resolves.valid, jump] at unflagged
  simp only [jumpMispredicted, op, resolves.predicted, decide_true, Bool.true_and,
    Bool.or_eq_false_iff, decide_eq_false_iff_not, not_not] at right
  rw [if_neg right.1, ← right.2, continues, if_pos holds, if_pos op, targetAddress, if_pos op,
    jumpBase, if_pos op]

theorem Resolves.continues_of_unflagged
    (unflagged : (resolvedBranch i).isMispredict = false) :
    continues i.pc i.isCompressedInstr i.fuData =
      if Fetch.cfType s f p = .noCF then nextPc i else Fetch.predictAddress s f := by
  have wide : 20 ≤ cfg.vlen := by rw [Fetch.Cfg.vlen]; split <;> decide
  have agrees := InstrScan.agrees_of_decode wide resolves.decoded
  change InstrScan.Agrees (Fetch.scanned s p) _ at agrees
  cases agrees with
  | jump op imm jumps branches returns jalrs =>
      exact resolves.continues_of_jump op imm jumps branches returns jalrs
  | branch op imm jumps branches returns jalrs =>
      exact resolves.continues_of_branch op imm jumps branches returns jalrs unflagged
  | jalr op => exact resolves.continues_of_jalr op unflagged

end Kinds

/-- A return that the empty stack cannot predict is excepted. -/
theorem fetchAddress_of_unflagged (resolves : Resolves s f p i)
    (unflagged : (resolvedBranch i).isMispredict = false)
    (filled : Fetch.cfType s f p = .ret → (Fetch.rasPredict s).valid = true) :
    continues i.pc i.isCompressedInstr i.fuData =
      if Fetch.cfType s f p = .noCF then nextPc i else Fetch.fetchAddress s f := by
  rw [resolves.continues_of_unflagged unflagged]
  by_cases none : Fetch.cfType s f p = .noCF
  · rw [if_pos none, if_pos none]
  · have predicts : Fetch.bpValid s f = true := by
      rw [Fetch.bpValid, Hw.Bits.any_eq_true_iff]
      refine ⟨p, ?_⟩
      by_cases ret : Fetch.cfType s f p = .ret
      · simp [ret, filled ret]
      · simp [ret, none]
    rw [if_neg none, if_neg none, Fetch.fetchAddress, predicts, if_pos rfl]

/-- The frontend is given the resolution, and nothing that goes before it. -/
structure Redirects (f : Fetch.Input cfg) (i : Input cfg.vlen) : Prop where
  resolution : f.resolvedBranch = ⟨(resolvedBranch i).valid, (resolvedBranch i).isMispredict,
    (resolvedBranch i).targetAddress⟩
  setDebugPc : f.setDebugPc = false
  setPcCommit : f.setPcCommit = false
  exValid : f.exValid = false
  eret : f.eret = false

/-- When no misprediction is reported, the frontend fetched where the instruction set
continues: behind the instruction, or at the address that it went to with the block. When one
is reported, the next fetch is there. -/
theorem speculation_resolved (resolves : Resolves s f p i)
    (filled : Fetch.cfType s f p = .ret → (Fetch.rasPredict s).valid = true) :
    ((resolvedBranch i).isMispredict = false →
        continues i.pc i.isCompressedInstr i.fuData =
          if Fetch.cfType s f p = .noCF then nextPc i else Fetch.fetchAddress s f) ∧
      ((resolvedBranch i).isMispredict = true →
        ∀ (s' : Fetch.State cfg) (f' : Fetch.Input cfg), Redirects f' i →
          (Fetch.step s' f').npcQ = continues i.pc i.isCompressedInstr i.fuData) := by
  constructor
  · exact fun unflagged => fetchAddress_of_unflagged resolves unflagged filled
  · intro flagged s' f' redirects
    have reported : Fetch.isMispredict f' = true := by
      rw [Fetch.isMispredict, redirects.resolution, flagged, Bool.and_true]
      exact resolves.valid
    rw [← targetAddress_resolvedBranch resolves.valid resolves.compared]
    change Fetch.npcD s' f' = _
    simp only [Fetch.npcD, redirects.setDebugPc, redirects.setPcCommit, redirects.exValid,
      redirects.eret, reported, Bool.and_false, Bool.false_eq_true, if_false, if_true]
    rw [redirects.resolution]

end Speculation

/-! ## A predicted jump -/

section Jump

open Cva6Hpd.Frontend

def jumpCfg : Fetch.Cfg where
  width := .w32
  xlen32 := true
  rvh := false
  tvalEn := false
  mmuPresent := false
  debugEn := false
  btbEntries := 0
  rasDepth := 2
  gplen := 32
  debugAddress := 0

/-- The block holds a jump by 8. -/
def jumpState : Fetch.State jumpCfg :=
  { Fetch.init jumpCfg with
    icacheValidQ := true
    icacheVaddrQ := 0x1000
    icacheDataQ := fun k => if k = 0 then 0x006f else 0x0080 }

def jumpFetch : Fetch.Input jumpCfg where
  bootAddr := 0
  flush := false
  halt := false
  haltFrontend := false
  setPcCommit := false
  pcCommit := 0
  exValid := false
  resolvedBranch := ⟨false, false, 0⟩
  eret := false
  epc := 0
  trapVectorBase := 0
  setDebugPc := false
  icache := ⟨true, false, 0, fun _ => 0, 0, 0, 0, false⟩
  btbPredictionShifted _ := ⟨false, 0⟩
  bhtPredictionShifted _ := ⟨false, false⟩
  fetchEntryReady _ := true

def jumpInput : Input jumpCfg.vlen where
  rvzcmt := false
  fuData := ⟨.add, 0, 0, 8⟩
  pc := 0x1000
  isZcmt := false
  isCompressedInstr := false
  branchValid := true
  branchCompRes := true
  branchPredict := ⟨.jump, 0x1008⟩

theorem speculation_resolved_jump :
    ((resolvedBranch jumpInput).isMispredict = false →
        continues jumpInput.pc false jumpInput.fuData =
          if Fetch.cfType jumpState jumpFetch 0 = .noCF then nextPc jumpInput
          else Fetch.fetchAddress jumpState jumpFetch) ∧
      ((resolvedBranch jumpInput).isMispredict = true →
        ∀ (s' : Fetch.State jumpCfg) (f' : Fetch.Input jumpCfg), Redirects f' jumpInput →
          (Fetch.step s' f').npcQ = continues jumpInput.pc false jumpInput.fuData) :=
  speculation_resolved
    { fetched := rfl
      first := fun q before => absurd before (Nat.not_lt_zero q.val)
      decoded := rfl
      pc := rfl
      predicted := by
        have kind : Fetch.cfType jumpState jumpFetch 0 = .jump := rfl
        have target : Fetch.predictAddress jumpState jumpFetch = 0x1008 := rfl
        rw [kind, target]
        rfl
      valid := rfl
      compared := rfl
      noTable := rfl }
    (by decide)

end Jump

end Cva6Hpd.Execute.BranchUnit
