import Cva6Hpd.Execute.WriteBack

/-!
# The result of the branch unit

A control-flow instruction is resolved one cycle after it was issued, and the fixed latency
port has its identifier in this cycle: what is issued beside it is not for the port, but for
the scalar cryptography.
-/

namespace Cva6Hpd.Execute

open Cva6Hpd.Scoreboard (Fu)

variable {cfg : Issue.Cfg} {s : State cfg} {i : Input cfg} {port : Fin 2} {fu : Fu}

/-- Neither the first ALU nor the CSR buffer takes an instruction beside a branch. -/
theorem alone_of_branch (started : startsIn s i .ctrlFlow port = true)
    (unit : fu = .alu ∨ fu = .csr) (other : Fin 2) : startsIn s i fu other = false := by
  have member : fu ∈ fluFus := by rcases unit with rfl | rfl <;> decide
  rw [Bool.eq_false_iff]
  intro both
  match port, other with
  | 0, 0 | 1, 1 =>
      have same := (fu_of_startsIn started).symm.trans (fu_of_startsIn both)
      rcases unit with rfl | rfl <;> cases same
  | 0, 1 =>
      have pair := startsIn_pair (by decide) member started both
      rcases unit with rfl | rfl <;> simp at pair
  | 1, 0 =>
      have pair := startsIn_pair member (by decide) both started
      rcases unit with rfl | rfl <;> simp at pair

theorem multValid_step_of_branch (started : startsIn s i .ctrlFlow port = true) :
    multValid (step s i) = false := by
  have noMult : any s.multValidQ = false := by
    rw [Bool.eq_false_iff]
    intro busy
    rw [startsIn_of_multValid (by decide) (by decide) busy] at started
    cases started
  have ready : fluReady s i = true := by
    by_contra busy
    rw [startsIn_of_not_ready (by decide) (Bool.eq_false_iff.mpr busy)] at started
    cases started
  have idle : (step s i).serdiv.stateQ = .idle := by
    simp only [fluReady, Serdiv.inRdy, Bool.and_eq_true, decide_eq_true_eq, Bool.not_eq_true']
      at ready
    simp [step, Serdiv.step, Serdiv.advances, ready]
  have noDiv : divValid (step s i) = false := by simp [divValid, Serdiv.outVld, idle]
  have noMul : (step s i).mulValidQ = false := by simp [step, mulValidOp, noMult]
  rw [multValid, noDiv, noMul, Bool.or_self]

theorem fluTransId_step_of_branch (started : startsIn s i .ctrlFlow port = true)
    (apart : port = 0 → startsIn s i .aes 1 = false) :
    fluTransId (step s i) = (i.ports.instr port).transId := by
  have noAlu : any (step s i).aluValidQ = false := by
    change (startsIn s i .alu 0 || startsIn s i .alu 1) = false
    rw [alone_of_branch started (.inl rfl), alone_of_branch started (.inl rfl), Bool.or_self]
  have noCsr : any (step s i).csrValidQ = false := by
    change (startsIn s i .csr 0 || startsIn s i .csr 1) = false
    rw [alone_of_branch started (.inr rfl), alone_of_branch started (.inr rfl), Bool.or_self]
  have selected : oneCycleSelect (step s i) port = true := by
    have branch : (step s i).branchValidQ port = true := started
    simp [oneCycleSelect, branch]
  have data : oneCycleData (step s i) = fuDataN i port := by
    obtain rfl | rfl : port = 1 ∨ port = 0 := by omega
    · have superscalar := superscalar_of_startsIn started
      simp only [oneCycleData, selectData, selected, superscalar, Bool.and_self, if_true]
      rfl
    · have branch : startsIn s i .ctrlFlow 1 = false := by
        rw [Bool.eq_false_iff]
        intro both
        have pair := startsIn_pair (by decide) (by decide) started both
        simp at pair
      have other : oneCycleSelect (step s i) 1 = false := by
        change (startsIn s i .alu 1 || startsIn s i .ctrlFlow 1 || startsIn s i .csr 1
          || startsIn s i .aes 1) = false
        rw [alone_of_branch started (.inl rfl), branch, alone_of_branch started (.inr rfl),
          apart rfl]
        rfl
      simp only [oneCycleData, selectData, other, Bool.and_false, Bool.false_eq_true, if_false,
        selected, if_true]
      rfl
  rw [fluTransId, noAlu, noCsr, multValid_step_of_branch started, data]
  rfl

end Cva6Hpd.Execute
