import Cva6Hpd.Hpdcache.Memctrl
import Cva6Hpd.Hw.Machine

/-!
# Victim selection

`hpdcache_victim_plru` and `hpdcache_victim_random`: which way of a set a miss replaces. Both
take an unused way first, then the way that their policy names, then a clean and at last a dirty
one; a way that is being fetched is never taken. They differ in the policy only, so that what
makes a vector a victim is said once, for the ranking that both share.
-/

namespace Cva6Hpd.Hpdcache.VictimSel

open Cva6Hpd.Hw
open Cva6Hpd.Common

/-- The flags of a set in the directory. -/
structure DirFlags (ways : Nat) where
  valid : Bits ways
  /-- Neither policy reads it. -/
  wback : Bits ways
  dirty : Bits ways
  fetch : Bits ways

/-- The inputs of one cycle, the same for both policies. -/
structure Input (sets ways : Nat) where
  updt : Bool
  updtSet : Fin sets
  updtWay : Bits ways
  selVictim : Bool
  selDir : DirFlags ways
  selVictimSet : Fin sets

/-! ## The ranking -/

section Ranking

variable {ways : Nat} (dir : DirFlags ways)

def unusedWays : Bits ways := fun w => !dir.fetch w && !dir.valid w

def cleanWays : Bits ways := fun w => !dir.fetch w && dir.valid w && !dir.dirty w

def dirtyWays : Bits ways := fun w => !dir.fetch w && dir.valid w && dir.dirty w

/-- `victim_way_selection_comb`, with the ways that the policy offers and the one it takes of
them. -/
def victimWaySelection (offered taken : Bits ways) : Bits ways :=
  if (unusedWays dir).any then prio1hotEncoder (unusedWays dir)
  else if offered.any then taken
  else if (cleanWays dir).any then prio1hotEncoder (cleanWays dir)
  else if (dirtyWays dir).any then prio1hotEncoder (dirtyWays dir)
  else Bits.zero

end Ranking

/-! ## The pseudo-LRU policy -/

namespace Plru

variable {sets ways : Nat} (plruQ : Fin sets → Bits ways)

def plruWays (dir : DirFlags ways) (set : Fin sets) : Bits ways := fun w =>
  !dir.fetch w && dir.valid w && !plruQ set w

/-- `sel_victim_way_o`. -/
def selVictimWay (dir : DirFlags ways) (set : Fin sets) : Bits ways :=
  victimWaySelection dir (plruWays plruQ dir set) (prio1hotEncoder (plruWays plruQ dir set))

/-- `updt_plru`. -/
def updtPlru (input : Input sets ways) : Bits ways := fun w =>
  plruQ input.updtSet w || input.updtWay w

/-- `plru_update_comb`. -/
def plruD (input : Input sets ways) : Fin sets → Bits ways :=
  if input.updt then
    Function.update plruQ input.updtSet
      (if (updtPlru plruQ input).all then input.updtWay else updtPlru plruQ input)
  else plruQ

/-- The reference bits of all sets, cleared by the reset. -/
def machine (sets ways : Nat) : Machine (Fin sets → Bits ways) (Input sets ways) where
  reset := fun _ => Bits.zero
  step := plruD

end Plru

/-! ## The random policy -/

namespace Random

variable {ways : Nat} (lfsrQ : BitVec 8)

/-- The decoder of the low bits of the shift register. The register has eight bits; the index of
more ways reads zeros above them. -/
def randVictimWay : Bits ways := fun w =>
  decide (w.val = lfsrQ.toNat % 2 ^ Nat.clog 2 ways)

def randWays (dir : DirFlags ways) : Bits ways := fun w =>
  !dir.fetch w && dir.valid w && randVictimWay lfsrQ w

/-- `sel_victim_way_o`. -/
def selVictimWay (dir : DirFlags ways) : Bits ways :=
  victimWaySelection dir (randWays lfsrQ dir) (randVictimWay lfsrQ)

/-- `shift_i` of the shift register. -/
def shift (selVictim : Bool) (dir : DirFlags ways) : Bool :=
  selVictim && !(unusedWays dir).any && (randWays lfsrQ dir).any

/-- The shift register, all ones after the reset. -/
def machine (sets ways : Nat) : Machine (BitVec 8) (Input sets ways) where
  reset := BitVec.allOnes 8
  step lfsrQ input :=
    if shift lfsrQ input.selVictim input.selDir then Memctrl.lfsrD lfsrQ else lfsrQ

end Random

/-! ## What a victim is -/

section Victim

variable {ways : Nat}

/-- A victim is one way that is not being fetched, and an unused one if there is any; there is
none while all ways are being fetched. -/
structure IsVictim (dir : DirFlags ways) (victim : Bits ways) : Prop where
  oneHot : (∃ w, dir.fetch w = false) → ∃ w, victim = Bits.single w ∧ dir.fetch w = false
  empty : (∀ w, dir.fetch w = true) → victim = Bits.zero
  unused : (∃ w, dir.fetch w = false ∧ dir.valid w = false) →
    ∃ w, victim = Bits.single w ∧ dir.fetch w = false ∧ dir.valid w = false

variable {dir : DirFlags ways}

theorem unusedWays_iff {w : Fin ways} :
    unusedWays dir w = true ↔ dir.fetch w = false ∧ dir.valid w = false := by
  simp [unusedWays]

theorem mem_classes {w : Fin ways} (free : dir.fetch w = false) :
    unusedWays dir w = true ∨ cleanWays dir w = true ∨ dirtyWays dir w = true := by
  simp only [unusedWays, cleanWays, dirtyWays, free]
  cases dir.valid w <;> cases dir.dirty w <;> simp

theorem fetch_of_mem_classes {w : Fin ways}
    (member : unusedWays dir w = true ∨ cleanWays dir w = true ∨ dirtyWays dir w = true) :
    dir.fetch w = false := by
  rcases member with unused | clean | dirty
  · exact (unusedWays_iff.mp unused).1
  · simp only [cleanWays, Bool.and_eq_true, Bool.not_eq_true'] at clean
    exact clean.1.1
  · simp only [dirtyWays, Bool.and_eq_true, Bool.not_eq_true'] at dirty
    exact dirty.1.1

theorem isVictim_victimWaySelection {offered taken : Bits ways}
    (free : ∀ w, offered w = true → dir.fetch w = false)
    (takes : offered.any = true → ∃ w, taken = Bits.single w ∧ offered w = true) :
    IsVictim dir (victimWaySelection dir offered taken) := by
  have first (class' : Bits ways) (some : class'.any = true)
      (freeClass : ∀ w, class' w = true → dir.fetch w = false) :
      ∃ w, prio1hotEncoder class' = Bits.single w ∧ dir.fetch w = false := by
    rcases Rrarb.prio1hotEncoder_oneHot some with ⟨w, granted, member⟩
    exact ⟨w, granted, freeClass w member⟩
  constructor
  · rintro ⟨w, notFetched⟩
    rw [victimWaySelection]
    split_ifs with unused policy clean dirty
    · exact first _ unused fun w member => fetch_of_mem_classes (Or.inl member)
    · rcases takes policy with ⟨w, chosen, member⟩
      exact ⟨w, chosen, free w member⟩
    · exact first _ clean fun w member => fetch_of_mem_classes (Or.inr (Or.inl member))
    · exact first _ dirty fun w member => fetch_of_mem_classes (Or.inr (Or.inr member))
    · rw [Bits.any_eq_true_iff] at unused clean dirty
      rcases mem_classes notFetched with member | member | member
      · exact absurd ⟨w, member⟩ unused
      · exact absurd ⟨w, member⟩ clean
      · exact absurd ⟨w, member⟩ dirty
  · intro allFetched
    have none (class' : Bits ways) (freeClass : ∀ w, class' w = true → dir.fetch w = false) :
        ¬class'.any = true := by
      rw [Bits.any_eq_true_iff]
      rintro ⟨w, member⟩
      have fetched := allFetched w
      rw [freeClass w member] at fetched
      contradiction
    rw [victimWaySelection,
      if_neg (none _ fun w member => fetch_of_mem_classes (Or.inl member)),
      if_neg (none _ free),
      if_neg (none _ fun w member => fetch_of_mem_classes (Or.inr (Or.inl member))),
      if_neg (none _ fun w member => fetch_of_mem_classes (Or.inr (Or.inr member)))]
  · rintro ⟨w, unused⟩
    have some : (unusedWays dir).any = true :=
      (Bits.any_eq_true_iff _).mpr ⟨w, unusedWays_iff.mpr unused⟩
    rw [victimWaySelection, if_pos some]
    rcases Rrarb.prio1hotEncoder_oneHot some with ⟨v, granted, member⟩
    exact ⟨v, granted, unusedWays_iff.mp member⟩

end Victim

theorem Plru.isVictim_selVictimWay {sets ways : Nat} (plruQ : Fin sets → Bits ways)
    (dir : DirFlags ways) (set : Fin sets) : IsVictim dir (Plru.selVictimWay plruQ dir set) := by
  apply isVictim_victimWaySelection
  · intro w offered
    simp only [Plru.plruWays, Bool.and_eq_true, Bool.not_eq_true'] at offered
    exact offered.1.1
  · exact Rrarb.prio1hotEncoder_oneHot

theorem Random.isVictim_selVictimWay {ways : Nat} (lfsrQ : BitVec 8) (dir : DirFlags ways) :
    IsVictim dir (Random.selVictimWay lfsrQ dir) := by
  apply isVictim_victimWaySelection
  · intro w offered
    simp only [Random.randWays, Bool.and_eq_true, Bool.not_eq_true'] at offered
    exact offered.1.1
  · intro some
    rcases (Bits.any_eq_true_iff _).mp some with ⟨w, offered⟩
    have named : Random.randVictimWay lfsrQ w = true := (Bool.and_eq_true_iff.mp offered).2
    have unique : (Random.randVictimWay lfsrQ : Bits ways).AtMostOne := by
      intro i j first second
      simp only [Random.randVictimWay, decide_eq_true_eq] at first second
      exact Fin.ext (first.trans second.symm)
    exact ⟨w, Bits.oneHot_of_atMostOne unique named, offered⟩

/-! ## The victim of the directory -/

/-- The flags that the directory has read. -/
def dirFlags {cfg : Cfg} (state : Memctrl.State cfg) : DirFlags cfg.ways where
  valid := Memctrl.dirValid state
  wback := Memctrl.dirWback state
  dirty := Memctrl.dirDirty state
  fetch := Memctrl.dirFetch state

/-- What the directory hands to its victim selection in a cycle. -/
def victimInput {cfg : Cfg} (state : Memctrl.State cfg) (input : Memctrl.Input cfg) :
    Input cfg.sets cfg.ways where
  updt := Memctrl.updtSelVictim input
  updtSet := Memctrl.updtSelVictimSet state input
  updtWay := Memctrl.updtSelVictimWay state input
  selVictim := input.dirVictimSel
  selDir := dirFlags state
  selVictimSet := input.dirVictimSet

section Directory

variable {cfg : Cfg} {state : Memctrl.State cfg}

/-- The last class needs no test of its own: it gives no way when it is empty. -/
theorem lowest_eq_ite {ways : Nat} (class' : Bits ways) :
    prio1hotEncoder class' = if class'.any then prio1hotEncoder class' else Bits.zero := by
  split_ifs with some
  · rfl
  · rw [Bool.not_eq_true, Bits.any_eq_false_iff] at some
    funext w
    simp [Bits.lowest, some]

theorem selVictimWay_memctrl (several : cfg.ways ≠ 1) (set : cfg.Set) :
    Memctrl.selVictimWay state set =
      match cfg.victimSel with
      | .random => Random.selVictimWay state.lfsrQ (dirFlags state)
      | .plru => Plru.selVictimWay state.plruQ (dirFlags state) set := by
  rw [Memctrl.selVictimWay, if_neg several]
  cases cfg.victimSel with
  | random =>
      simp only
      rw [lowest_eq_ite (Memctrl.dirtyWays state)]
      rfl
  | plru =>
      simp only
      rw [lowest_eq_ite (Memctrl.dirtyWays state)]
      rfl

theorem plruQ_step (input : Memctrl.Input cfg) :
    (Memctrl.step state input).plruQ =
      (Plru.machine cfg.sets cfg.ways).step state.plruQ (victimInput state input) := by
  funext set
  change Memctrl.plruD state input set = Plru.plruD state.plruQ (victimInput state input) set
  rw [Memctrl.plruD, Plru.plruD]
  cases used : Memctrl.updtSelVictim input with
  | false => simp [victimInput, used]
  | true =>
      rcases eq_or_ne set (Memctrl.updtSelVictimSet state input) with rfl | other
      · simp only [victimInput, used, if_true, Function.update_self, decide_true, Bool.and_self]
        rfl
      · simp [victimInput, used, other]

theorem isVictim_of_single {ways : Nat} (single : ways = 1) (dir : DirFlags ways) :
    IsVictim dir fun w => !dir.fetch w := by
  subst single
  have chosen (w : Fin 1) (free : dir.fetch w = false) :
      (fun v => !dir.fetch v) = Bits.single w := by
    funext v
    rw [Subsingleton.elim v w, free, Bits.single_self]
    rfl
  constructor
  · rintro ⟨w, free⟩
    exact ⟨w, chosen w free, free⟩
  · intro fetched
    funext w
    simp [fetched w]
  · rintro ⟨w, free, invalid⟩
    exact ⟨w, chosen w free, free, invalid⟩

theorem isVictim_memctrl (set : cfg.Set) :
    IsVictim (dirFlags state) (Memctrl.selVictimWay state set) := by
  by_cases single : cfg.ways = 1
  · rw [Memctrl.selVictimWay, if_pos single]
    exact isVictim_of_single single (dirFlags state)
  · rw [selVictimWay_memctrl single]
    cases cfg.victimSel with
    | random => exact Random.isVictim_selVictimWay _ _
    | plru => exact Plru.isVictim_selVictimWay _ _ _

end Directory

/-! ## Runs -/

section Runs

variable {sets ways : Nat}

/-- An update names one way. -/
def OneWay (input : Input sets ways) : Prop := input.updt = true → input.updtWay.OneHot

/-- The way used most recently in each set. -/
def record (_ : Fin sets → Bits ways) (input : Input sets ways)
    (last : Fin sets → Option (Bits ways)) : Fin sets → Option (Bits ways) :=
  if input.updt then Function.update last input.updtSet (some input.updtWay) else last

/-- The reference bits with the way used most recently in each set. -/
def Plru.usedMachine (sets ways : Nat) :
    Machine ((Fin sets → Bits ways) × (Fin sets → Option (Bits ways))) (Input sets ways) :=
  (Plru.machine sets ways).withHistory (fun _ => none) record

/-- The reference bits of a set are not all ones, and the way used last is marked. -/
structure Marked (state : (Fin sets → Bits ways) × (Fin sets → Option (Bits ways))) : Prop where
  notAll : ∀ set, (state.1 set).all = false
  recent : ∀ set way, state.2 set = some way → ∀ w, way w = true → state.1 set w = true

theorem all_single (several : 2 ≤ ways) (w : Fin ways) : (Bits.single w).all = false := by
  have other : ∃ v : Fin ways, v ≠ w := by
    by_cases first : w.val = 0
    · exact ⟨⟨1, by omega⟩, fun equal => by simp [← equal] at first⟩
    · exact ⟨⟨0, by omega⟩, fun equal => first (by simp [← equal])⟩
  rcases other with ⟨v, different⟩
  exact (Bits.all_eq_false_iff _).mpr ⟨v, by simp [Bits.single, different]⟩

theorem marked_step (several : 2 ≤ ways)
    {state : (Fin sets → Bits ways) × (Fin sets → Option (Bits ways))} (marked : Marked state)
    {input : Input sets ways} (oneWay : OneWay input) :
    Marked ((Plru.usedMachine sets ways).step state input) := by
  rcases state with ⟨plruQ, last⟩
  simp only [Plru.usedMachine, Machine.withHistory, Plru.machine, Plru.plruD, record]
  cases used : input.updt with
  | false => simpa using marked
  | true =>
      rcases oneWay used with ⟨w, one⟩
      simp only [if_true]
      constructor
      · intro set
        rcases eq_or_ne set input.updtSet with rfl | other
        · simp only [Function.update_self]
          split_ifs with full
          · rw [one]
            exact all_single several w
          · exact Bool.eq_false_iff.mpr full
        · simp only [Function.update_of_ne other]
          exact marked.notAll set
      · intro set way recent v member
        rcases eq_or_ne set input.updtSet with rfl | other
        · simp only [Function.update_self, Option.some.injEq] at recent ⊢
          subst recent
          split_ifs
          · exact member
          · simp [Plru.updtPlru, member]
        · simp only [Function.update_of_ne other] at recent ⊢
          exact marked.recent set way recent v member

theorem marked_run (several : 2 ≤ ways) {inputs : List (Input sets ways)}
    (oneWay : ∀ input ∈ inputs, OneWay input) :
    Marked ((Plru.usedMachine sets ways).run inputs) := by
  induction inputs using List.reverseRecOn with
  | nil =>
      constructor
      · intro set
        exact (Bits.all_eq_false_iff _).mpr ⟨⟨0, by omega⟩, rfl⟩
      · intro set way recent
        contradiction
  | append_singleton inputs input inductionHypothesis =>
      rw [Machine.run_concat]
      apply marked_step several
      · exact inductionHypothesis fun earlier member =>
          oneWay earlier (List.mem_append_left _ member)
      · exact oneWay input (by simp)

/-- Victim selection for every number of ways that is a power of two and at least two: after any
accesses of one way at a time, and for all flags of the set, both policies choose one way that is
not being fetched, an unused one if there is any, and no way when all are being fetched; the
reference bits of a set are never all ones, and those of the way used most recently are set. -/
theorem victimSel_run (levels : Nat) {inputs : List (Input sets (2 ^ (levels + 1)))}
    (oneWay : ∀ input ∈ inputs, OneWay input) :
    (∀ (dir : DirFlags (2 ^ (levels + 1))) (set : Fin sets),
      IsVictim dir (Plru.selVictimWay ((Plru.machine sets _).run inputs) dir set)) ∧
    (∀ dir : DirFlags (2 ^ (levels + 1)),
      IsVictim dir (Random.selVictimWay ((Random.machine sets _).run inputs) dir)) ∧
    (∀ set, ((Plru.machine sets _).run inputs set).all = false) ∧
    ∀ set way, ((Plru.usedMachine sets _).run inputs).2 set = some way →
      ∀ w, way w = true → (Plru.machine sets _).run inputs set w = true := by
  have several : 2 ≤ 2 ^ (levels + 1) := by
    rw [Nat.pow_succ]
    have positive := Nat.two_pow_pos levels
    omega
  have marked := marked_run several oneWay
  have same : ((Plru.usedMachine sets (2 ^ (levels + 1))).run inputs).1 =
      (Plru.machine sets _).run inputs :=
    Machine.withHistory_run_fst _ _ _ inputs
  refine ⟨fun dir set => Plru.isVictim_selVictimWay _ dir set,
    fun dir => Random.isVictim_selVictimWay _ dir, ?_, ?_⟩
  · intro set
    rw [← same]
    exact marked.notAll set
  · intro set way recent w member
    rw [← same]
    exact marked.recent set way recent w member

/-- An access of one of two ways. -/
def access (w : Fin 2) : Input 1 2 where
  updt := true
  updtSet := 0
  updtWay := Bits.single w
  selVictim := false
  selDir := ⟨Bits.zero, Bits.zero, Bits.zero, Bits.zero⟩
  selVictimSet := 0

/-- Way 1 is used last of two ways: it alone stays marked, and way 0 is replaced. -/
theorem victimSel_run_twoWays :
    (∀ input ∈ [access 0, access 1], OneWay input) ∧
      IsVictim ⟨fun _ => true, Bits.zero, Bits.zero, Bits.zero⟩ (Bits.single (0 : Fin 2)) ∧
      ((Plru.machine 1 2).run [access 0, access 1] 0).all = false ∧
      (Plru.machine 1 2).run [access 0, access 1] 0 1 = true := by
  have oneWay : ∀ input ∈ [access 0, access 1], OneWay input := by
    intro input member _
    rcases List.mem_pair.mp member with rfl | rfl
    · exact ⟨0, rfl⟩
    · exact ⟨1, rfl⟩
  rcases @victimSel_run 1 0 [access 0, access 1] oneWay with ⟨plru, _, notAll, recent⟩
  have victim : Plru.selVictimWay ((Plru.machine 1 2).run [access 0, access 1])
      ⟨fun _ => true, Bits.zero, Bits.zero, Bits.zero⟩ 0 = Bits.single (0 : Fin 2) := by
    decide +kernel
  refine ⟨oneWay, ?_, notAll 0, recent 0 (Bits.single 1) ?_ 1 rfl⟩
  · rw [← victim]
    exact plru _ 0
  · rfl

end Runs

end Cva6Hpd.Hpdcache.VictimSel
