import Mathlib.Algebra.GroupWithZero.Nat
import Mathlib.Data.List.Range
import Mathlib.Data.List.Nodup
import Mathlib.Data.List.Perm.Lattice

/-!
# Toggle trees

A complete binary tree with one bit at each inner node. The bits name one leaf,
the victim: a set bit sends the walk from the root to the upper half. An access
to a leaf makes every bit on its path point to the other half. Accesses to the
victim itself alternate between the halves of every node, so that as many steps
as there are leaves visit each leaf once.
-/

namespace Cva6Hpd.Hw

/-- A tree with `2 ^ depth` leaves. -/
inductive ToggleTree : Nat → Type
  | leaf : ToggleTree 0
  | node {depth : Nat} (bit : Bool) (lower upper : ToggleTree depth) : ToggleTree (depth + 1)

namespace ToggleTree

/-- The leaf that the bits name. -/
def victim : {depth : Nat} → ToggleTree depth → Nat
  | 0, leaf => 0
  | depth + 1, node bit lower upper =>
      if bit then 2 ^ depth + victim upper else victim lower

/-- Point every bit on the path to a leaf away from it. -/
def access : {depth : Nat} → ToggleTree depth → Nat → ToggleTree depth
  | 0, leaf, _ => leaf
  | depth + 1, node _ lower upper, i =>
      if i < 2 ^ depth then node true (access lower i) upper
      else node false lower (access upper (i - 2 ^ depth))

/-- The tree after `steps` accesses to the victim. -/
def after {depth : Nat} (tree : ToggleTree depth) : Nat → ToggleTree depth
  | 0 => tree
  | steps + 1 => after (access tree (victim tree)) steps

/-- The leaves visited by `steps` accesses to the victim. -/
def visits {depth : Nat} (tree : ToggleTree depth) : Nat → List Nat
  | 0 => []
  | steps + 1 => victim tree :: visits (access tree (victim tree)) steps

theorem victim_lt {depth : Nat} (tree : ToggleTree depth) : victim tree < 2 ^ depth := by
  induction tree with
  | leaf => simp [victim]
  | node bit lower upper lowerHypothesis upperHypothesis =>
      rw [victim, Nat.pow_succ]
      split <;> omega

theorem victim_access_ne {depth : Nat} (tree : ToggleTree (depth + 1)) (i : Nat) :
    victim (access tree i) ≠ i := by
  cases tree with
  | node bit lower upper =>
      rw [access]
      split
      · rw [victim, if_pos rfl]
        omega
      · rw [victim, if_neg Bool.false_ne_true]
        have bound := victim_lt lower
        omega

/-! ## Two steps at a node -/

section TwoSteps

variable {depth : Nat} (bit : Bool) (lower upper : ToggleTree depth)

theorem access_victim_node :
    access (node bit lower upper) (victim (node bit lower upper)) =
      if bit then node false lower (access upper (victim upper))
      else node true (access lower (victim lower)) upper := by
  cases bit with
  | true => simp [victim, access]
  | false => simp [victim, access, victim_lt lower]

theorem visits_two (steps : Nat) :
    (visits (node bit lower upper) (steps + 2)).Perm
      (victim lower :: (2 ^ depth + victim upper) ::
        visits (node bit (access lower (victim lower)) (access upper (victim upper))) steps) := by
  rw [visits, visits, access_victim_node]
  cases bit with
  | true =>
      simp only [if_true, access_victim_node, Bool.false_eq_true, if_false]
      simp only [victim, if_true, Bool.false_eq_true, if_false]
      exact List.Perm.swap _ _ _
  | false =>
      simp only [Bool.false_eq_true, if_false, access_victim_node, if_true]
      simp only [victim, if_true, Bool.false_eq_true, if_false]
      exact List.Perm.refl _

theorem visits_node (steps : Nat) :
    (visits (node bit lower upper) (2 * steps)).Perm
      (visits lower steps ++ (visits upper steps).map (2 ^ depth + ·)) := by
  induction steps generalizing lower upper with
  | zero => exact List.Perm.refl _
  | succ steps inductionHypothesis =>
      refine (visits_two bit lower upper (2 * steps)).trans ?_
      rw [visits, visits, List.map_cons, List.cons_append]
      refine List.Perm.cons _ (List.Perm.trans ?_ List.perm_middle.symm)
      exact List.Perm.cons _ (inductionHypothesis _ _)

end TwoSteps

/-- As many accesses to the victim as there are leaves visit each leaf once. -/
theorem visits_perm {depth : Nat} (tree : ToggleTree depth) :
    (visits tree (2 ^ depth)).Perm (List.range (2 ^ depth)) := by
  induction tree with
  | leaf => exact List.Perm.refl _
  | @node depth bit lower upper lowerHypothesis upperHypothesis =>
      rw [Nat.pow_succ, Nat.mul_comm]
      refine (visits_node bit lower upper (2 ^ depth)).trans ?_
      rw [Nat.two_mul, List.range_add]
      exact List.Perm.append lowerHypothesis (upperHypothesis.map _)

/-- The last of the accesses apart. -/
theorem after_succ {depth : Nat} (tree : ToggleTree depth) (steps : Nat) :
    after tree (steps + 1) = access (after tree steps) (victim (after tree steps)) := by
  induction steps generalizing tree with
  | zero => rfl
  | succ steps inductionHypothesis => rw [after, inductionHypothesis, after]

theorem exists_after_of_mem_visits {depth : Nat} {tree : ToggleTree depth} {steps i : Nat}
    (visited : i ∈ visits tree steps) : ∃ before, victim (after tree before) = i := by
  induction steps generalizing tree with
  | zero => exact absurd visited List.not_mem_nil
  | succ steps inductionHypothesis =>
      rcases List.mem_cons.mp visited with first | later
      · exact ⟨0, first.symm⟩
      · obtain ⟨before, reached⟩ := inductionHypothesis later
        exact ⟨before + 1, reached⟩

/-! ## Trees in an array -/

/-- The subtree at position `pos` of level `lvl`, when the nodes of a tree are
stored level by level. -/
def ofArray (bits : Nat → Bool) : (depth lvl pos : Nat) → ToggleTree depth
  | 0, _, _ => leaf
  | depth + 1, lvl, pos =>
      node (bits (2 ^ lvl - 1 + pos)) (ofArray bits depth (lvl + 1) (2 * pos))
        (ofArray bits depth (lvl + 1) (2 * pos + 1))

end ToggleTree

end Cva6Hpd.Hw
