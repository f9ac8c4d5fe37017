import Cva6Hpd.Hw.Bits
import Cva6Hpd.Hw.Machine
import Cva6Hpd.Hw.ToggleTree
import Mathlib.Data.Nat.Bitwise

/-!
# The replacement policy of the instruction cache

`plru_tree` keeps one bit for each inner node of a complete binary tree over
the entries, level by level in one register; `plru` wraps it with binary way
indices and a flush that resets the tree. The walk of the victim and the walk
of an access go through the same nodes: the register represents a toggle tree,
and the outputs are its victim.
-/

namespace Cva6Hpd.Icache.Plru

open Cva6Hpd.Hw

/-- `plru_tree_q`; the register has more bits than the tree has nodes. -/
abbrev Tree := Nat → Bool

section Tree

variable (logEntries : Nat)

/-- `idx_base + (i >> shift)`: the node of entry `i` at level `lvl`. -/
def nodeIdx (lvl i : Nat) : Nat := (2 ^ lvl - 1) + (i >>> (logEntries - lvl))

/-- `(i >> (shift - 1)) & 1`: the half of the node in which entry `i` is. -/
def half (lvl i : Nat) : Bool := (i >>> (logEntries - lvl - 1)) % 2 == 1

/-- Entry `i` was used: the nodes of its path point to the other half. -/
def setPath (tree : Tree) (i : Nat) : Tree :=
  (List.range logEntries).foldl
    (fun tree lvl => Function.update tree (nodeIdx logEntries lvl i) (!half logEntries lvl i)) tree

/-- `plru_tree_d`. -/
def treeD (tree : Tree) (used : Bits (2 ^ logEntries)) : Tree :=
  (List.finRange (2 ^ logEntries)).foldl
    (fun tree i => if used i then setPath logEntries tree i.val else tree) tree

/-- `plru_o`: every node of the path points to the entry. -/
def plruO (tree : Tree) : Bits (2 ^ logEntries) := fun i =>
  (List.range logEntries).all fun lvl =>
    if half logEntries lvl i.val then tree (nodeIdx logEntries lvl i.val)
    else !tree (nodeIdx logEntries lvl i.val)

end Tree

/-! ## The wrapper -/

/-- The inputs of `plru` in one cycle. -/
structure Input (logEntries : Nat) where
  update : Bool
  accessWay : Fin (2 ^ logEntries)
  flush : Bool

section Wrapper

variable {logEntries : Nat}

/-- The register under the combined reset, which is asynchronous: a flush
clears it in the same cycle. -/
def treeNow (tree : Tree) (flush : Bool) : Tree := if flush then fun _ => false else tree

/-- `used_onehot`. -/
def usedOnehot (input : Input logEntries) : Bits (2 ^ logEntries) := fun i =>
  input.update && decide (i = input.accessWay)

/-- `plru_onehot`. -/
def plruOnehot (logEntries : Nat) (tree : Tree) (flush : Bool) : Bits (2 ^ logEntries) :=
  plruO logEntries (treeNow tree flush)

instance neZeroEntries : NeZero (2 ^ logEntries) := ⟨Nat.ne_of_gt (Nat.two_pow_pos logEntries)⟩

/-- `replace_way_o`. -/
def replaceWay (logEntries : Nat) (tree : Tree) (flush : Bool) : Fin (2 ^ logEntries) :=
  (plruOnehot logEntries tree flush).lastIndex

def step (tree : Tree) (input : Input logEntries) : Tree :=
  if input.flush then fun _ => false else treeD logEntries tree (usedOnehot input)

end Wrapper

/-! ## The represented tree -/

section Represented

variable {logEntries : Nat}

theorem nodeIdx_eq_iff {lvl lvl' i pos : Nat} (level : lvl < logEntries)
    (inRange : i < 2 ^ logEntries) (position : pos < 2 ^ lvl') :
    2 ^ lvl' - 1 + pos = nodeIdx logEntries lvl i ↔
      lvl = lvl' ∧ i >>> (logEntries - lvl) = pos := by
  have bound : i >>> (logEntries - lvl) < 2 ^ lvl := by
    rw [Nat.shiftRight_eq_div_pow, Nat.div_lt_iff_lt_mul (Nat.two_pow_pos _), ← Nat.pow_add]
    rwa [Nat.add_sub_cancel' (Nat.le_of_lt level)]
  have first : 0 < 2 ^ lvl := Nat.two_pow_pos lvl
  have second : 0 < 2 ^ lvl' := Nat.two_pow_pos lvl'
  rw [nodeIdx]
  generalize i >>> (logEntries - lvl) = quotient at *
  constructor
  · intro same
    rcases Nat.lt_trichotomy lvl lvl' with less | equal | greater
    · have next : 2 ^ lvl * 2 ≤ 2 ^ lvl' := by
        rw [← Nat.pow_succ]
        exact Nat.pow_le_pow_right (by decide) less
      generalize 2 ^ lvl = size, 2 ^ lvl' = size' at *
      omega
    · subst equal
      exact ⟨rfl, by omega⟩
    · have next : 2 ^ lvl' * 2 ≤ 2 ^ lvl := by
        rw [← Nat.pow_succ]
        exact Nat.pow_le_pow_right (by decide) greater
      generalize 2 ^ lvl = size, 2 ^ lvl' = size' at *
      omega
  · rintro ⟨rfl, rfl⟩
    rfl

/-- The bits that an access changes. -/
theorem setPath_node (tree : Tree) {lvl i pos : Nat} (inRange : i < 2 ^ logEntries)
    (level : lvl < logEntries) (position : pos < 2 ^ lvl) :
    setPath logEntries tree i (2 ^ lvl - 1 + pos) =
      if i >>> (logEntries - lvl) = pos then !half logEntries lvl i
      else tree (2 ^ lvl - 1 + pos) := by
  have upTo (levels : Nat) (bound : levels ≤ logEntries) :
      (List.range levels).foldl
        (fun tree lvl => Function.update tree (nodeIdx logEntries lvl i) (!half logEntries lvl i))
        tree (2 ^ lvl - 1 + pos) =
      if lvl < levels ∧ i >>> (logEntries - lvl) = pos then !half logEntries lvl i
      else tree (2 ^ lvl - 1 + pos) := by
    induction levels with
    | zero => simp
    | succ levels inductionHypothesis =>
        rw [List.range_succ, List.foldl_append, List.foldl_cons, List.foldl_nil,
          Function.update_apply, inductionHypothesis (by omega)]
        by_cases same : 2 ^ lvl - 1 + pos = nodeIdx logEntries levels i
        · rcases (nodeIdx_eq_iff (by omega) inRange position).mp same with ⟨rfl, onPath⟩
          simp [same, onPath]
        · have notHere := mt (nodeIdx_eq_iff (by omega) inRange position).mpr same
          rw [if_neg same]
          by_cases onPath : i >>> (logEntries - lvl) = pos
          · have differ : levels ≠ lvl := fun equal => notHere ⟨equal, equal ▸ onPath⟩
            have still : lvl < levels + 1 ↔ lvl < levels := by omega
            simp [onPath, still]
          · simp [onPath]
  rw [setPath, upTo logEntries (Nat.le_refl _)]
  simp [level]

/-- The toggle tree that the register represents. -/
def toggleTree (logEntries : Nat) (tree : Tree) : ToggleTree logEntries :=
  ToggleTree.ofArray tree logEntries 0 0

/-- The half of a node in which entry `i` is, by the depth of the subtree. -/
theorem half_of_depth {depth lvl : Nat} (level : lvl + (depth + 1) = logEntries) (i : Nat) :
    half logEntries lvl i = ((i >>> depth) % 2 == 1) := by
  rw [half, show logEntries - lvl - 1 = depth by omega]

theorem ofArray_setPath (tree : Tree) {i : Nat} (inRange : i < 2 ^ logEntries) (depth : Nat) :
    ∀ lvl pos, lvl + depth = logEntries → pos < 2 ^ lvl →
      ToggleTree.ofArray (setPath logEntries tree i) depth lvl pos =
        if i >>> depth = pos then
          (ToggleTree.ofArray tree depth lvl pos).access (i % 2 ^ depth)
        else ToggleTree.ofArray tree depth lvl pos := by
  induction depth with
  | zero =>
      intro lvl pos _ _
      simp [ToggleTree.ofArray, ToggleTree.access]
  | succ depth inductionHypothesis =>
      intro lvl pos level position
      have below : 2 * pos + 1 < 2 ^ (lvl + 1) := by
        rw [Nat.pow_succ]
        omega
      have lowerTree := inductionHypothesis (lvl + 1) (2 * pos) (by omega) (by omega)
      have upperTree := inductionHypothesis (lvl + 1) (2 * pos + 1) (by omega) below
      have bit := setPath_node tree inRange (show lvl < logEntries by omega) position
      rw [half_of_depth level, show logEntries - lvl = depth + 1 by omega] at bit
      have parent : i >>> (depth + 1) = (i >>> depth) / 2 := Nat.shiftRight_succ i depth
      have offset : i % 2 ^ (depth + 1) = i % 2 ^ depth + 2 ^ depth * ((i >>> depth) % 2) := by
        rw [Nat.mod_pow_succ, Nat.shiftRight_eq_div_pow]
      have small : i % 2 ^ depth < 2 ^ depth := Nat.mod_lt _ (Nat.two_pow_pos depth)
      simp only [ToggleTree.ofArray, lowerTree, upperTree, bit]
      by_cases onPath : i >>> (depth + 1) = pos
      · rcases Nat.mod_two_eq_zero_or_one (i >>> depth) with lower | upper
        · have here : i >>> depth = 2 * pos := by omega
          rw [lower, Nat.mul_zero, Nat.add_zero] at offset
          simp [onPath, here, offset, ToggleTree.access, small]
        · have here : i >>> depth = 2 * pos + 1 := by omega
          rw [upper, Nat.mul_one] at offset
          simp [onPath, here, offset, ToggleTree.access]
      · have notLower : i >>> depth ≠ 2 * pos := by omega
        have notUpper : i >>> depth ≠ 2 * pos + 1 := by omega
        simp [onPath, notLower, notUpper]

theorem toggleTree_setPath (tree : Tree) (i : Fin (2 ^ logEntries)) :
    toggleTree logEntries (setPath logEntries tree i.val) =
      (toggleTree logEntries tree).access i.val := by
  rw [toggleTree, ofArray_setPath tree i.isLt logEntries 0 0 (by omega) (by simp)]
  have root : i.val >>> logEntries = 0 := by
    rw [Nat.shiftRight_eq_div_pow, Nat.div_eq_of_lt i.isLt]
  rw [if_pos root, Nat.mod_eq_of_lt i.isLt, toggleTree]

/-- The nodes from a level downwards point to an entry of the subtree exactly
when it is the victim of the subtree. -/
theorem victim_ofArray (tree : Tree) (i depth : Nat) :
    ∀ lvl pos, lvl + depth = logEntries → i >>> depth = pos →
      ((∀ lvl', lvl ≤ lvl' → lvl' < logEntries →
          tree (nodeIdx logEntries lvl' i) = half logEntries lvl' i) ↔
        i % 2 ^ depth = (ToggleTree.ofArray tree depth lvl pos).victim) := by
  induction depth with
  | zero =>
      intro lvl pos level _
      simp only [ToggleTree.ofArray, ToggleTree.victim, Nat.pow_zero, Nat.mod_one, iff_true]
      intro lvl' _ _
      omega
  | succ depth inductionHypothesis =>
      intro lvl pos level onPath
      have parent : i >>> (depth + 1) = (i >>> depth) / 2 := Nat.shiftRight_succ i depth
      have offset : i % 2 ^ (depth + 1) = i % 2 ^ depth + 2 ^ depth * ((i >>> depth) % 2) := by
        rw [Nat.mod_pow_succ, Nat.shiftRight_eq_div_pow]
      have small : i % 2 ^ depth < 2 ^ depth := Nat.mod_lt _ (Nat.two_pow_pos depth)
      have below := inductionHypothesis (lvl + 1) (i >>> depth) (by omega) rfl
      have bound := (ToggleTree.ofArray tree depth (lvl + 1) (2 * pos)).victim_lt
      have node : nodeIdx logEntries lvl i = 2 ^ lvl - 1 + pos := by
        rw [nodeIdx, show logEntries - lvl = depth + 1 by omega, onPath]
      have levels : (∀ lvl', lvl ≤ lvl' → lvl' < logEntries →
            tree (nodeIdx logEntries lvl' i) = half logEntries lvl' i) ↔
          tree (2 ^ lvl - 1 + pos) = ((i >>> depth) % 2 == 1) ∧
            i % 2 ^ depth =
              (ToggleTree.ofArray tree depth (lvl + 1) (i >>> depth)).victim := by
        rw [← below, ← node, ← half_of_depth level]
        constructor
        · intro all
          exact ⟨all lvl (Nat.le_refl _) (by omega), fun lvl' above => all lvl' (by omega)⟩
        · rintro ⟨here, rest⟩ lvl' above inRange
          rcases Nat.eq_or_lt_of_le above with equal | less
          · exact equal ▸ here
          · exact rest lvl' less inRange
      rw [levels, ToggleTree.ofArray, ToggleTree.victim]
      rcases Nat.mod_two_eq_zero_or_one (i >>> depth) with lower | upper
      · have here : i >>> depth = 2 * pos := by omega
        rw [lower, Nat.mul_zero, Nat.add_zero] at offset
        rw [here, offset, show 2 * pos % 2 = 0 by omega]
        cases bit : tree (2 ^ lvl - 1 + pos) with
        | true =>
            simp only [if_true]
            constructor
            · intro match'
              simp at match'
            · intro match'
              omega
        | false => simp
      · have here : i >>> depth = 2 * pos + 1 := by omega
        rw [upper, Nat.mul_one] at offset
        rw [here, offset, show (2 * pos + 1) % 2 = 1 by omega]
        cases bit : tree (2 ^ lvl - 1 + pos) with
        | true =>
            simp only [if_true]
            constructor
            · intro match'
              omega
            · intro match'
              exact ⟨rfl, by omega⟩
        | false =>
            simp only [Bool.false_eq_true, if_false]
            constructor
            · intro match'
              simp at match'
            · intro match'
              omega

theorem plruO_eq_single (tree : Tree) :
    plruO logEntries tree =
      Bits.single ⟨(toggleTree logEntries tree).victim, ToggleTree.victim_lt _⟩ := by
  funext i
  have root : i.val >>> logEntries = 0 := by
    rw [Nat.shiftRight_eq_div_pow, Nat.div_eq_of_lt i.isLt]
  have walk := @victim_ofArray logEntries tree i.val logEntries 0 0 (by omega) root
  rw [Nat.mod_eq_of_lt i.isLt] at walk
  rw [Bool.eq_iff_iff, Bits.single_eq_true_iff, Fin.ext_iff, toggleTree, ← walk, plruO,
    List.all_eq_true]
  constructor
  · intro points lvl _ level
    have here := points lvl (List.mem_range.mpr level)
    cases side : half logEntries lvl i.val <;> simpa [side] using here
  · intro points lvl level
    have here := points lvl (Nat.zero_le _) (List.mem_range.mp level)
    simp [here]

theorem treeD_usedOnehot (tree : Tree) (input : Input logEntries) :
    treeD logEntries tree (usedOnehot input) =
      if input.update then setPath logEntries tree input.accessWay.val else tree := by
  have upTo (entries : List (Fin (2 ^ logEntries))) (distinct : entries.Nodup) :
      entries.foldl (fun tree i =>
          if usedOnehot input i then setPath logEntries tree i.val else tree) tree =
        if input.update ∧ input.accessWay ∈ entries then
          setPath logEntries tree input.accessWay.val
        else tree := by
    induction entries using List.reverseRecOn with
    | nil => simp
    | append_singleton entries entry inductionHypothesis =>
        have notBefore := (List.nodup_concat entries entry).mp (by simpa using distinct)
        rw [List.foldl_append, List.foldl_cons, List.foldl_nil,
          inductionHypothesis notBefore.2]
        by_cases here : entry = input.accessWay
        · rw [← here]
          cases update : input.update <;> simp [usedOnehot, update, here, here ▸ notBefore.1]
        · have elsewhere : ¬input.accessWay = entry := Ne.symm here
          simp [usedOnehot, here, elsewhere]
  rw [treeD, upTo _ (List.nodup_finRange _)]
  simp [List.mem_finRange]

end Represented

/-! ## Runs -/

/-- The policy from any contents of its register. -/
def machine (logEntries : Nat) (initial : Tree) : Machine Tree (Input logEntries) where
  reset := initial
  step := step

/-- The way accessed most recently since the last flush. -/
def lastAccess {logEntries : Nat} (_ : Tree) (input : Input logEntries)
    (last : Option (Fin (2 ^ logEntries))) : Option (Fin (2 ^ logEntries)) :=
  if input.flush then none else if input.update then some input.accessWay else last

/-- The policy with the way accessed most recently. -/
def accessMachine (logEntries : Nat) (initial : Tree) :
    Machine (Tree × Option (Fin (2 ^ logEntries))) (Input logEntries) :=
  (machine logEntries initial).withHistory none lastAccess

section Runs

variable {logEntries : Nat}

/-- An access to the reported victim. -/
def victimAccess (logEntries : Nat) (tree : Tree) : Input logEntries where
  update := true
  accessWay := replaceWay logEntries tree false
  flush := false

/-- The ways visited by `steps` accesses to the reported victim. -/
def victimAccesses (logEntries : Nat) (tree : Tree) : Nat → List (Fin (2 ^ logEntries))
  | 0 => []
  | steps + 1 =>
      replaceWay logEntries tree false ::
        victimAccesses logEntries (step tree (victimAccess logEntries tree)) steps

/-- The victim is the exact decoding of a one-hot vector. -/
theorem plruOnehot_eq_single (tree : Tree) (flush : Bool) :
    plruOnehot logEntries tree flush = Bits.single (replaceWay logEntries tree flush) := by
  rw [replaceWay, plruOnehot, plruO_eq_single, Bits.lastIndex_single]

theorem replaceWay_val (tree : Tree) :
    (replaceWay logEntries tree false).val =
      (toggleTree logEntries tree).victim := by
  rw [replaceWay, plruOnehot, treeNow, if_neg Bool.false_ne_true, plruO_eq_single,
    Bits.lastIndex_single]

theorem step_update (tree : Tree) (input : Input logEntries) (noFlush : input.flush = false)
    (update : input.update = true) :
    toggleTree logEntries (step tree input) =
      (toggleTree logEntries tree).access input.accessWay.val := by
  rw [step, noFlush, if_neg Bool.false_ne_true, treeD_usedOnehot, update, if_pos rfl,
    toggleTree_setPath]

theorem step_idle (tree : Tree) (input : Input logEntries) (noFlush : input.flush = false)
    (idle : input.update = false) : step tree input = tree := by
  rw [step, noFlush, if_neg Bool.false_ne_true, treeD_usedOnehot, idle,
    if_neg Bool.false_ne_true]

/-- The last accessed way is not the victim. -/
def LastSpared (state : Tree × Option (Fin (2 ^ logEntries))) : Prop :=
  state.2 ≠ some (replaceWay logEntries state.1 false)

theorem lastSpared_step {levels : Nat}
    {state : Tree × Option (Fin (2 ^ (levels + 1)))} (input : Input (levels + 1))
    (spared : LastSpared state) (initial : Tree) :
    LastSpared ((accessMachine (levels + 1) initial).step state input) := by
  intro last
  simp only [accessMachine, Machine.withHistory, machine, lastAccess] at last
  cases flush : input.flush with
  | true => simp [flush] at last
  | false =>
      cases update : input.update with
      | true =>
          simp only [flush, update, Bool.false_eq_true, if_false, if_true,
            Option.some.injEq] at last
          have victim := congrArg Fin.val last
          rw [replaceWay_val, step_update state.1 input flush update] at victim
          exact ToggleTree.victim_access_ne _ _ victim.symm
      | false =>
          simp only [flush, update, Bool.false_eq_true, if_false] at last
          rw [step_idle state.1 input flush update] at last
          exact spared last

theorem lastSpared_run {levels : Nat} (initial : Tree) (inputs : List (Input (levels + 1))) :
    LastSpared ((accessMachine (levels + 1) initial).run inputs) :=
  (accessMachine (levels + 1) initial).run_invariant LastSpared
    (by simp [LastSpared, accessMachine, Machine.withHistory])
    (fun _ input spared => lastSpared_step input spared initial) inputs

theorem victimAccesses_map_val (tree : Tree) (steps : Nat) :
    (victimAccesses logEntries tree steps).map Fin.val =
      (toggleTree logEntries tree).visits steps := by
  induction steps generalizing tree with
  | zero => rfl
  | succ steps inductionHypothesis =>
      rw [victimAccesses, List.map_cons, inductionHypothesis, ToggleTree.visits,
        replaceWay_val, step_update tree (victimAccess logEntries tree) rfl rfl, victimAccess,
        replaceWay_val]

/-- As many accesses to the reported victim as there are ways visit each way
once. -/
theorem victimAccesses_perm (tree : Tree) :
    (victimAccesses logEntries tree (2 ^ logEntries)).Perm (List.finRange (2 ^ logEntries)) := by
  rw [← List.map_perm_map_iff Fin.val_injective, victimAccesses_map_val,
    List.map_coe_finRange_eq_range]
  exact ToggleTree.visits_perm _

/-- The replacement policy for every number of ways that is a power of two and
at least two, from every contents of the register: the victim is a well-defined
way, it is never the way accessed most recently since the last flush, and
accesses to the victim go round all the ways. -/
theorem replacementPolicy_run (levels : Nat) (initial : Tree) :
    (∀ (inputs : List (Input (levels + 1))) (flush : Bool),
        plruOnehot (levels + 1) ((machine (levels + 1) initial).run inputs) flush =
          Bits.single (replaceWay (levels + 1) ((machine (levels + 1) initial).run inputs) flush)) ∧
      (∀ inputs : List (Input (levels + 1)),
        ((accessMachine (levels + 1) initial).run inputs).2 ≠
          some (replaceWay (levels + 1) ((machine (levels + 1) initial).run inputs) false)) ∧
      (victimAccesses (levels + 1) initial (2 ^ (levels + 1))).Perm
        (List.finRange (2 ^ (levels + 1))) := by
  refine ⟨fun inputs flush => plruOnehot_eq_single _ flush, fun inputs => ?_,
    victimAccesses_perm initial⟩
  have spared := lastSpared_run initial inputs
  rwa [LastSpared, accessMachine, Machine.withHistory_run_fst] at spared

end Runs

end Cva6Hpd.Icache.Plru
