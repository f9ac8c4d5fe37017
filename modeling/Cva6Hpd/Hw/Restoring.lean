import Mathlib.Algebra.Order.Ring.Nat
import Mathlib.Tactic.Ring

/-!
# Restoring division

A divisor that is shifted to the left is subtracted where it is not too large, and shifted
back by one position in each step. Each step finds one bit of the quotient.
-/

namespace Cva6Hpd.Hw

/-- The remainder and the quotient that remain after the divisor shifted by `n - 1` down to
`0` positions. -/
def restoring (divisor : Nat) : Nat → Nat → Nat → Nat × Nat
  | 0, rest, quotient => (rest, quotient)
  | n + 1, rest, quotient =>
    if divisor * 2 ^ n ≤ rest then
      restoring divisor n (rest - divisor * 2 ^ n) (2 * quotient + 1)
    else restoring divisor n rest (2 * quotient)

/-- A dividend that is smaller than the divisor shifted once more is divided. -/
theorem restoring_eq {divisor n rest : Nat} (quotient : Nat) (less : rest < divisor * 2 ^ n) :
    restoring divisor n rest quotient = (rest % divisor, quotient * 2 ^ n + rest / divisor) := by
  induction n generalizing rest quotient with
  | zero =>
      rw [Nat.pow_zero, Nat.mul_one] at less
      simp [restoring, Nat.mod_eq_of_lt less, Nat.div_eq_of_lt less]
  | succ n inductionHypothesis =>
      have double : divisor * 2 ^ (n + 1) = divisor * 2 ^ n + divisor * 2 ^ n := by ring
      rw [restoring]
      split
      case isTrue fits =>
        have positive : 0 < divisor := by
          rcases Nat.eq_zero_or_pos divisor with rfl | positive
          · simp at less
          · exact positive
        have whole : rest = rest - divisor * 2 ^ n + divisor * 2 ^ n :=
          (Nat.sub_add_cancel fits).symm
        have remainder : rest % divisor = (rest - divisor * 2 ^ n) % divisor := by
          conv_lhs => rw [whole]
          exact Nat.add_mul_mod_self_left _ _ _
        have bit : rest / divisor = (rest - divisor * 2 ^ n) / divisor + 2 ^ n := by
          conv_lhs => rw [whole]
          exact Nat.add_mul_div_left _ _ positive
        rw [inductionHypothesis _ (by omega), remainder, bit]
        congr 1
        ring
      case isFalse large =>
        rw [inductionHypothesis _ (Nat.lt_of_not_le large)]
        congr 1
        ring

end Cva6Hpd.Hw
