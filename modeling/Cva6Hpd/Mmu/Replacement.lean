import Cva6Hpd.Icache.Plru
import Cva6Hpd.Mmu.Tlb

/-!
# Replacement in a first-level buffer

The replacement tree of `cva6_tlb` is that of the next power of two: it has a leaf for each number
below, and the entries are the first of them. The tree points to one leaf at any time, and not to
the leaf hit most recently. Where the number of entries is a power of two every leaf is an entry.
Where it is another even number, which the assertion of the module accepts as well, hits lead the
tree to a leaf without an entry; then no entry is selected and the next update is lost.
-/

namespace Cva6Hpd.Mmu.Tlb

open Cva6Hpd.Hw
open Cva6Hpd.Icache.Plru (setPath nodeIdx half plruO plruO_eq_single toggleTree toggleTree_setPath)

/-- The assertion on `TLB_ENTRIES`. -/
def Accepted (n : Nat) : Prop := n % 2 = 0 ∧ 1 < n

/-- The buffer from its reset. -/
def machine (cfg : Cfg) (n : Nat) : Machine (State n) Input where
  reset := reset n
  step := step cfg

/-- The entry hit most recently. -/
def lastHit (cfg : Cfg) {n : Nat} (s : State n) (i : Input) (last : Option (Fin n)) :
    Option (Fin n) :=
  if i.luAccess && luHit cfg s i then hitting cfg s i else last

/-- The buffer with the entry hit most recently. -/
def hitMachine (cfg : Cfg) (n : Nat) : Machine (State n × Option (Fin n)) Input :=
  (machine cfg n).withHistory none (lastHit cfg)

section Statements

variable {n : Nat}

/-- Exactly one entry is selected for replacement. -/
def Selects (s : State n) : Prop := ∃! k, replaceEn s k = true

/-- The entry hit most recently is not selected. -/
def LastSpared (state : State n × Option (Fin n)) : Prop :=
  ∀ k, state.2 = some k → replaceEn state.1 k = false

/-- The assertion on `lu_hit`: one entry hits at most. -/
def OneHit (cfg : Cfg) (s : State n) (i : Input) : Prop :=
  ∀ j k, hits cfg i (s.entries j) = true → hits cfg i (s.entries k) = true → j = k

end Statements

/-! ## The tree of the buffer -/

section Tree

variable {cfg : Cfg} {n : Nat} {s : State n} {i : Input}

theorem leaf_lt (k : Fin n) : k.val < 2 ^ Nat.clog 2 n :=
  k.isLt.trans_le (Nat.le_pow_clog (by decide) n)

/-- The tree that the register represents. -/
def tree (s : State n) : ToggleTree (Nat.clog 2 n) := toggleTree (Nat.clog 2 n) s.plruTreeQ

theorem half_eq_testBit (levels lvl k : Nat) :
    half levels lvl k = (k / 2 ^ (levels - lvl - 1)).testBit 0 := by
  rw [half, Nat.shiftRight_eq_div_pow, Nat.testBit_zero, beq_eq_decide]

/-- An entry is selected where the tree points to its leaf. -/
theorem replaceEn_iff (k : Fin n) : replaceEn s k = true ↔ (tree s).victim = k.val := by
  have walk : replaceEn s k = plruO (Nat.clog 2 n) s.plruTreeQ ⟨k.val, leaf_lt k⟩ := by
    rw [replaceEn, plruO]
    congr 1
    funext lvl
    dsimp only
    rw [half_eq_testBit, nodeIdx, Nat.shiftRight_eq_div_pow]
    generalize (k.val / 2 ^ (Nat.clog 2 n - lvl - 1)).testBit 0 = side
    cases side <;> simp
  rw [walk, plruO_eq_single, Bits.single_eq_true_iff, Fin.ext_iff, tree]
  exact eq_comm

theorem replaceEn_unique {j k : Fin n} (first : replaceEn s j = true)
    (second : replaceEn s k = true) : j = k := by
  rw [replaceEn_iff] at first second
  exact Fin.ext (first.symm.trans second)

variable (cfg s i)

/-- The entries that hit. -/
def hitEntries : List (Fin n) := (List.finRange n).filter fun k => hits cfg i (s.entries k)

variable {cfg s i}

theorem hitting_eq_getLast : hitting cfg s i = (hitEntries cfg s i).getLast? := by
  rw [hitting, hitEntries, ← List.head?_filter, List.filter_reverse, List.head?_reverse]

theorem plruTree_eq_foldl :
    plruTree cfg s i =
      if i.luAccess then
        (hitEntries cfg s i).foldl (fun tree k => setPath (Nat.clog 2 n) tree k.val) s.plruTreeQ
      else s.plruTreeQ := by
  cases access : i.luAccess with
  | false => simp [plruTree, access]
  | true =>
      rw [plruTree, hitEntries, List.foldl_filter, if_pos rfl]
      simp only [access, Bool.and_true, setPath, nodeIdx, half_eq_testBit,
        Nat.shiftRight_eq_div_pow]

theorem plruTree_of_idle (idle : i.luAccess = false ∨ hitting cfg s i = none) :
    plruTree cfg s i = s.plruTreeQ := by
  rw [plruTree_eq_foldl]
  rcases idle with noAccess | noHit
  · rw [noAccess, if_neg Bool.false_ne_true]
  · rw [hitting_eq_getLast, List.getLast?_eq_none_iff] at noHit
    rw [noHit, List.foldl_nil, ite_self]

/-- The last entry that hits has the last word. -/
theorem plruTree_of_hitting {k : Fin n} (access : i.luAccess = true)
    (found : hitting cfg s i = some k) :
    ∃ before, plruTree cfg s i = setPath (Nat.clog 2 n) before k.val := by
  rw [hitting_eq_getLast, List.getLast?_eq_some_iff] at found
  obtain ⟨others, entries⟩ := found
  rw [plruTree_eq_foldl, if_pos access, entries, List.foldl_append, List.foldl_cons,
    List.foldl_nil]
  exact ⟨_, rfl⟩

theorem plruTree_of_single {k : Fin n} (access : i.luAccess = true)
    (single : ∀ j, hits cfg i (s.entries j) = decide (j = k)) :
    plruTree cfg s i = setPath (Nat.clog 2 n) s.plruTreeQ k.val := by
  have entries : hitEntries cfg s i = [k] := by
    simp only [hitEntries, single, ← beq_eq_decide]
    rw [List.filter_beq, List.count_eq_one_of_mem (List.nodup_finRange n) (List.mem_finRange k)]
    rfl
  rw [plruTree_eq_foldl, if_pos access, entries, List.foldl_cons, List.foldl_nil]

theorem toggleTree_setPath_leaf (bits : Nat → Bool) (k : Fin n) :
    toggleTree (Nat.clog 2 n) (setPath (Nat.clog 2 n) bits k.val) =
      (toggleTree (Nat.clog 2 n) bits).access k.val :=
  toggleTree_setPath bits ⟨k.val, leaf_lt k⟩

theorem victim_access_ne {depth : Nat} (leaves : 0 < depth) (before : ToggleTree depth) (k : Nat) :
    (before.access k).victim ≠ k := by
  obtain ⟨levels, rfl⟩ := Nat.exists_eq_add_one.mpr leaves
  exact ToggleTree.victim_access_ne before k

end Tree

/-! ## Every number of entries -/

section Spared

variable {cfg : Cfg} {n : Nat}

theorem lastSpared_step {state : State n × Option (Fin n)} (several : 1 < n) (i : Input)
    (spared : LastSpared state) : LastSpared ((hitMachine cfg n).step state i) := by
  intro k last
  simp only [hitMachine, Machine.withHistory, machine, lastHit, luHit] at last ⊢
  rcases Bool.eq_false_or_eq_true i.luAccess with access | noAccess
  · cases found : hitting cfg state.1 i with
    | none =>
        simp only [found, Option.isSome_none, Bool.and_false, Bool.false_eq_true, if_false] at last
        have kept := plruTree_of_idle (Or.inr found)
        have before := spared k last
        rwa [replaceEn, step, kept, ← replaceEn]
    | some j =>
        simp only [access, found, Option.isSome_some, Bool.and_self, if_true,
          Option.some.injEq] at last
        obtain ⟨before, after⟩ := plruTree_of_hitting access found
        rw [Bool.eq_false_iff, Ne, replaceEn_iff, tree, step, after, last,
          toggleTree_setPath_leaf]
        exact victim_access_ne (Nat.clog_pos (by decide) several) _ _
  · simp only [noAccess, Bool.false_and, Bool.false_eq_true, if_false] at last
    have kept := @plruTree_of_idle cfg n state.1 i (Or.inl noAccess)
    have before := spared k last
    rwa [replaceEn, step, kept, ← replaceEn]

/-- The entry hit most recently is never selected, for every number of entries. -/
theorem lastSpared_run (several : 1 < n) (inputs : List Input) :
    LastSpared ((hitMachine cfg n).run inputs) := by
  apply (hitMachine cfg n).run_invariant LastSpared
  · intro k last
    cases last
  · intro state i spared
    exact lastSpared_step several i spared

/-- Where each leaf is an entry, exactly one entry is selected. -/
theorem selects_of_pow {levels : Nat} (leaves : n = 2 ^ levels) (s : State n) : Selects s := by
  have full : 2 ^ Nat.clog 2 n = n := by
    rw [leaves, Nat.clog_pow 2 levels (by decide)]
  have bound : (tree s).victim < n := (ToggleTree.victim_lt (tree s)).trans_eq full
  refine ⟨⟨_, bound⟩, (replaceEn_iff _).mpr rfl, ?_⟩
  intro k selected
  exact replaceEn_unique selected ((replaceEn_iff _).mpr rfl)

end Spared

/-! ## Visits

An update writes the selected entry, a lookup hits it and a flush clears the buffer again: one
access to the victim of the tree. -/

/-- A cycle without an access, an update or a flush. -/
def quiet : Input where
  flush := false
  flushVvma := false
  flushGvma := false
  stages := ⟨false, false, true⟩
  update := ⟨false, false, fun _ _ => false, 0, 0, 0, ⟨false, false, true⟩, Pte.zero, Pte.zero⟩
  luAccess := false
  luAsid := 0
  luVmid := 0
  luVaddr := 0
  asidToBeFlushed := 0
  vmidToBeFlushed := 0
  vaddrToBeFlushed := 0
  gpaddrToBeFlushed := 0

/-- An update with a small page, beside a lookup of it. -/
def fill (page : Nat) : Input where
  __ := quiet
  update := { quiet.update with valid := true, vpn := page }
  luVaddr := page * 2 ^ 12

/-- A lookup of a small page. -/
def touch (page : Nat) : Input := { quiet with luAccess := true, luVaddr := page * 2 ^ 12 }

/-- A flush of all pages. -/
def clear : Input := { quiet with flush := true }

def visit : List Input := [fill 0, touch 0, clear]

section Visits

variable {cfg : Cfg} {n : Nat} {s : State n}

/-- No entry is valid. -/
def Vacant (s : State n) : Prop := ∀ k, (s.entries k).valid = false

/-- The update of a visit is the only entry. -/
def Holds (cfg : Cfg) (s : State n) (k : Fin n) : Prop :=
  s.entries k = ofUpdate cfg (fill 0).update ∧ ∀ j, j ≠ k → (s.entries j).valid = false

theorem hits_of_invalid {i : Input} {e : Entry} (invalid : e.valid = false) :
    hits cfg i e = false := by
  simp [hits, invalid]

theorem hitting_of_vacant (vacant : Vacant s) (i : Input) : hitting cfg s i = none := by
  rw [hitting, List.find?_eq_none]
  intro k _
  rw [hits_of_invalid (vacant k)]
  exact Bool.false_ne_true

theorem slice_zero (low width : Nat) : slice 0 low width = 0 := by
  rw [slice, Nat.zero_div, Nat.zero_mod]

/-- The lookup of a visit hits its entry. -/
theorem hits_touch : hits cfg (touch 0) (ofUpdate cfg (fill 0).update) = true := by
  have indices (x : Nat) : vpnMatch cfg (touch 0) (ofUpdate cfg (fill 0).update) x = true := by
    simp [vpnMatch, touch, ofUpdate, fill, quiet, vpnSlice, slice_zero]
  have levels : 0 < cfg.ptLevels := by
    rw [Cfg.ptLevels]
    split <;> decide
  have level : anyLevel cfg (entryLevelMatch cfg (touch 0) (ofUpdate cfg (fill 0).update)) =
      true := by
    rw [anyLevel, List.any_eq_true]
    refine ⟨0, List.mem_range.mpr levels, ?_⟩
    simp [entryLevelMatch, levelMatch, upperMatch, indices, pageMatch]
  rw [hits, level, Bool.true_or, Bool.and_true]
  simp [matchAsid, matchVmid, matchStage, ofUpdate, touch, fill, quiet]

theorem holds_of_fill (vacant : Vacant s) {k : Fin n} (selected : replaceEn s k = true) :
    Holds cfg (step cfg s (fill 0)) k := by
  have miss : luHit cfg s (fill 0) = false := by
    rw [luHit, hitting_of_vacant vacant, Option.isSome_none]
  have written (j : Fin n) : writes cfg s (fill 0) j = replaceEn s j := by
    rw [writes, miss]
    simp [flushes, fill, quiet]
  constructor
  · rw [entries_step, written, selected, if_pos rfl]
  · intro j other
    have spared : replaceEn s j = false := by
      rw [Bool.eq_false_iff]
      intro also
      exact other (replaceEn_unique also selected)
    have calm : invalidates cfg (fill 0) (s.entries j) = false := rfl
    rw [entries_step, written, spared, calm]
    exact vacant j

theorem Holds.single {k : Fin n} (holds : Holds cfg s k) (j : Fin n) :
    hits cfg (touch 0) (s.entries j) = decide (j = k) := by
  by_cases same : j = k
  · rw [same, holds.1, hits_touch, decide_eq_true rfl]
  · rw [hits_of_invalid (holds.2 j same), decide_eq_false same]

theorem Holds.oneHit {k : Fin n} (holds : Holds cfg s k) (i : Input) : OneHit cfg s i := by
  have only {j : Fin n} (hit : hits cfg i (s.entries j) = true) : j = k := by
    by_contra other
    rw [hits_of_invalid (holds.2 j other)] at hit
    exact Bool.false_ne_true hit
  intro j l first second
  exact (only first).trans (only second).symm

theorem Holds.touch {k : Fin n} (holds : Holds cfg s k) :
    Holds cfg (step cfg s (touch 0)) k := by
  have kept (j : Fin n) : (step cfg s (Tlb.touch 0)).entries j = s.entries j := by
    rw [entries_step]
    rfl
  constructor
  · rw [kept, holds.1]
  · intro j other
    rw [kept, holds.2 j other]

theorem Holds.clear {k : Fin n} (holds : Holds cfg s k) : Vacant (step cfg s clear) := by
  intro j
  have unwritten : writes cfg s Tlb.clear j = false := rfl
  rw [entries_step, unwritten, if_neg Bool.false_ne_true]
  by_cases same : j = k
  · have matched : invalidates cfg Tlb.clear (ofUpdate cfg (fill 0).update) = true := by
      simp [invalidates, flushMatches, fenceMatches, Tlb.clear, quiet, ofUpdate, fill]
    rw [same, holds.1, matched, if_pos rfl]
    rfl
  · split
    · rfl
    · exact holds.2 j same

theorem run_visit (vacant : Vacant s) {k : Fin n} (selected : replaceEn s k = true) :
    Vacant ((machine cfg n).runFrom s visit) ∧
      tree ((machine cfg n).runFrom s visit) = (tree s).access (tree s).victim ∧
      (machine cfg n).Along (OneHit cfg) s visit := by
  have written : Holds cfg (step cfg s (fill 0)) k := holds_of_fill vacant selected
  have touched := written.touch
  have noHit : OneHit cfg s (fill 0) := by
    intro j l first _
    rw [hits_of_invalid (vacant j)] at first
    exact absurd first Bool.false_ne_true
  have filled : (step cfg s (fill 0)).plruTreeQ = s.plruTreeQ := plruTree_of_idle (Or.inl rfl)
  have accessed : (step cfg (step cfg s (fill 0)) (Tlb.touch 0)).plruTreeQ =
      setPath (Nat.clog 2 n) s.plruTreeQ k.val := by
    rw [← filled]
    exact plruTree_of_single rfl written.single
  refine ⟨touched.clear, ?_, noHit, written.oneHit _, touched.oneHit _, trivial⟩
  have cleared : ((machine cfg n).runFrom s visit).plruTreeQ =
      (step cfg (step cfg s (fill 0)) (Tlb.touch 0)).plruTreeQ := plruTree_of_idle (Or.inl rfl)
  rw [tree, cleared, accessed, toggleTree_setPath_leaf, (replaceEn_iff k).mp selected, tree]

theorem exists_visits
    (selects : ∀ inputs, (machine cfg n).RunAlong (OneHit cfg) inputs →
      ∃ k, replaceEn ((machine cfg n).run inputs) k = true) (steps : Nat) :
    ∃ inputs, (machine cfg n).RunAlong (OneHit cfg) inputs ∧
      Vacant ((machine cfg n).run inputs) ∧
      tree ((machine cfg n).run inputs) = (tree (reset n)).after steps := by
  induction steps with
  | zero => exact ⟨[], trivial, fun _ => rfl, rfl⟩
  | succ steps inductionHypothesis =>
      obtain ⟨inputs, oneHit, vacant, visited⟩ := inductionHypothesis
      obtain ⟨k, selected⟩ := selects inputs oneHit
      obtain ⟨cleared, accessed, visiting⟩ := @run_visit cfg n _ vacant k selected
      refine ⟨inputs ++ visit, ?_, ?_, ?_⟩
      · exact ((machine cfg n).along_append _ _ _ _).mpr ⟨oneHit, visiting⟩
      · rwa [Machine.run_append]
      · rw [Machine.run_append, accessed, visited, ToggleTree.after_succ]

/-- Where a leaf is no entry, the visits come to it. -/
theorem exists_unselected (noPow : ¬∃ levels, n = 2 ^ levels) :
    ∃ inputs, (machine cfg n).RunAlong (OneHit cfg) inputs ∧
      ∀ k, replaceEn ((machine cfg n).run inputs) k = false := by
  by_contra never
  have selects : ∀ inputs, (machine cfg n).RunAlong (OneHit cfg) inputs →
      ∃ k, replaceEn ((machine cfg n).run inputs) k = true := by
    intro inputs oneHit
    by_contra unselected
    apply never
    refine ⟨inputs, oneHit, fun k => ?_⟩
    rw [Bool.eq_false_iff]
    exact fun selected => unselected ⟨k, selected⟩
  have more : n < 2 ^ Nat.clog 2 n := by
    apply lt_of_le_of_ne (Nat.le_pow_clog (by decide) n)
    exact fun full => noPow ⟨_, full⟩
  have leaf : n ∈ (tree (reset n)).visits (2 ^ Nat.clog 2 n) := by
    rw [(ToggleTree.visits_perm _).mem_iff]
    exact List.mem_range.mpr more
  obtain ⟨steps, victim⟩ := ToggleTree.exists_after_of_mem_visits leaf
  obtain ⟨inputs, oneHit, _, visited⟩ := exists_visits selects steps
  obtain ⟨k, selected⟩ := selects inputs oneHit
  rw [replaceEn_iff, visited, victim] at selected
  exact absurd selected (Nat.ne_of_gt k.isLt)

end Visits

/-! ## Powers of two -/

/-- For an accepted number of entries, exactly one entry is selected in every reachable state, and
not the one hit most recently, if and only if the number is a power of two. Otherwise a run in
which no cycle has two hits comes to a state in which no entry is selected. -/
theorem replacement_run (cfg : Cfg) {n : Nat} (accepted : Accepted n) :
    ((∀ inputs, Selects ((machine cfg n).run inputs) ∧
        LastSpared ((hitMachine cfg n).run inputs)) ↔ ∃ levels, n = 2 ^ levels) ∧
      ((¬∃ levels, n = 2 ^ levels) →
        ∃ inputs, (machine cfg n).RunAlong (OneHit cfg) inputs ∧
          ∀ k, replaceEn ((machine cfg n).run inputs) k = false) := by
  refine ⟨⟨?_, ?_⟩, exists_unselected⟩
  · intro always
    by_contra noPow
    obtain ⟨inputs, _, unselected⟩ := @exists_unselected cfg n noPow
    obtain ⟨k, selected, _⟩ := (always inputs).1
    exact absurd ((unselected k).symm.trans selected) Bool.false_ne_true
  · rintro ⟨levels, leaves⟩ inputs
    exact ⟨selects_of_pow leaves _, lastSpared_run accepted.2 inputs⟩

theorem replacement_run_sixteen :
    Accepted 16 ∧
      ((∀ inputs, Selects ((machine Cfg.sv39 16).run inputs) ∧
          LastSpared ((hitMachine Cfg.sv39 16).run inputs)) ↔ ∃ levels, 16 = 2 ^ levels) ∧
      ((¬∃ levels, 16 = 2 ^ levels) →
        ∃ inputs, (machine Cfg.sv39 16).RunAlong (OneHit Cfg.sv39) inputs ∧
          ∀ k, replaceEn ((machine Cfg.sv39 16).run inputs) k = false) := by
  have accepted : Accepted 16 := ⟨rfl, by decide⟩
  exact ⟨accepted, replacement_run Cfg.sv39 accepted⟩

/-- Three entries are written and hit, in the order of the tree: 0, 4 and 2. -/
def threeHits : List Input := [fill 0, touch 0, fill 1, touch 1, fill 2, touch 2]

/-- Of six entries none is selected then: the tree points to the seventh leaf. -/
theorem none_of_six :
    Accepted 6 ∧ (machine Cfg.sv39 6).RunAlong (OneHit Cfg.sv39) threeHits ∧
      (List.finRange 6).map (fun k => (((machine Cfg.sv39 6).run threeHits).entries k).valid) =
        [true, false, true, false, true, false] ∧
      ¬Selects ((machine Cfg.sv39 6).run threeHits) := by
  have none : ∀ k, replaceEn ((machine Cfg.sv39 6).run threeHits) k = false := by decide +kernel
  refine ⟨⟨rfl, by decide⟩, ?_, by decide +kernel, ?_⟩
  · unfold Machine.RunAlong threeHits Machine.Along OneHit
    decide +kernel
  · rintro ⟨k, selected, _⟩
    exact absurd ((none k).symm.trans selected) Bool.false_ne_true

end Cva6Hpd.Mmu.Tlb
