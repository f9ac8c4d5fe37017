import Cva6Hpd.Pmp.Entry

/-!
# The decision of the physical memory protection

`pmp`: the loop over the entries, and the rule that it is to implement. In machine mode the
loop passes over an entry that matches and is not locked, and a locked entry behind it decides;
by the rule the lowest entry that matches decides in every mode.
-/

namespace Cva6Hpd.Pmp

open Cva6Hpd.Csr (PmpAddrMode PmpCfg PrivLvl)

/-- `pmp_access_t`. -/
inductive Access where
  | none | read | write | exec
deriving DecidableEq, Repr

def Access.bits : Access → BitVec 3
  | none => 0
  | read => 1
  | write => 2
  | exec => 4

/-- The field `access_type` of an entry. -/
def accessType (conf : PmpCfg) : BitVec 3 :=
  BitVec.ofBool conf.x ++ BitVec.ofBool conf.w ++ BitVec.ofBool conf.r

/-- The inputs of the unit. -/
structure Input (plen : Nat) where
  addr : BitVec plen
  accessType : Access
  privLvl : PrivLvl
  confAddr : Nat → BitVec (plen - 2)
  conf : Nat → PmpCfg

variable {plen : Nat}

/-! ## The code -/

section Code

variable (nrPmpEntries : Nat) (i : Input plen)

/-- `conf_addr_prev`. -/
def confAddrPrev (k : Nat) : BitVec (plen - 2) := if k = 0 then 0 else i.confAddr (k - 1)

/-- `match`. -/
def hit (k : Nat) : Bool :=
  matchO i.addr (i.confAddr k) (confAddrPrev i k) (i.conf k).addrMode

/-- The loop ends at this entry. -/
def ends (k : Nat) : Bool := (i.privLvl ≠ .m || (i.conf k).locked) && hit i k

/-- The access is of the types that the entry gives. -/
def granted (k : Nat) : Bool :=
  (i.accessType.bits &&& accessType (i.conf k)) = i.accessType.bits

/-- `allow_o`. -/
def allowO : Bool :=
  if 0 < nrPmpEntries then
    match (List.range nrPmpEntries).find? (ends i) with
    | some k => granted i k
    | none => i.privLvl = .m
  else true

end Code

/-! ## The rule -/

section Rule

variable (nrPmpEntries : Nat) (i : Input plen)

/-- The entry matches the address. -/
def Covers (k : Nat) : Prop :=
  i.addr.toNat ∈ region (confAddrPrev i k).toNat (i.confAddr k).toNat (i.conf k).addrMode

/-- The lowest entry that matches the address. -/
def Decides (k : Nat) : Prop := k < nrPmpEntries ∧ Covers i k ∧ ∀ j < k, ¬Covers i j

/-- The permission bits of the entry allow the access. -/
def Permits (k : Nat) : Prop :=
  match i.accessType with
  | .none => True
  | .read => (i.conf k).r = true
  | .write => (i.conf k).w = true
  | .exec => (i.conf k).x = true

/-- The lowest entry that matches decides, in machine mode by its permission bits only when it
is locked. Where none matches, machine mode alone has access; without any entry there is no
protection. -/
def Allowed : Prop :=
  (∃ k, Decides nrPmpEntries i k ∧
      (i.privLvl = .m ∧ (i.conf k).locked = false ∨ Permits i k)) ∨
    (∀ k < nrPmpEntries, ¬Covers i k) ∧ (i.privLvl = .m ∨ nrPmpEntries = 0)

/-- The lowest locked entry that matches the address. -/
def FirstLocked (k : Nat) : Prop :=
  k < nrPmpEntries ∧ Covers i k ∧ (i.conf k).locked = true ∧
    ∀ j < k, Covers i j → (i.conf j).locked = false

/-- An access in machine mode for which the entry that decides is not locked, and the first
locked entry that also matches does not permit it. -/
def Overridden : Prop :=
  i.privLvl = .m ∧ (∃ k, Decides nrPmpEntries i k ∧ (i.conf k).locked = false) ∧
    ∃ k, FirstLocked nrPmpEntries i k ∧ ¬Permits i k

end Rule

/-! ## The decision -/

section Decision

variable {nrPmpEntries : Nat} {i : Input plen} {k : Nat}

theorem hit_iff : hit i k = true ↔ Covers i k := matchO_iff

theorem granted_iff : granted i k = true ↔ Permits i k := by
  rw [granted, Permits, decide_eq_true_eq, accessType]
  generalize (i.conf k).x = x
  generalize (i.conf k).w = w
  generalize (i.conf k).r = r
  cases i.accessType <;> revert x w r <;> decide

/-- The entry that ends the loop. -/
theorem find_iff :
    (List.range nrPmpEntries).find? (ends i) = some k ↔
      k < nrPmpEntries ∧ ends i k = true ∧ ∀ j < k, ends i j = false := by
  simp only [List.find?_range_eq_some, List.mem_range, Bool.not_eq_true']
  tauto

theorem allowO_of_find (found : (List.range nrPmpEntries).find? (ends i) = some k) :
    allowO nrPmpEntries i = true ↔ Permits i k := by
  have some : 0 < nrPmpEntries := Nat.zero_lt_of_lt (find_iff.mp found).1
  rw [allowO, if_pos some, found, granted_iff]

/-- Where no entry ends the loop, machine mode alone has access. -/
theorem allowO_of_none (some : 0 < nrPmpEntries)
    (missed : ∀ k < nrPmpEntries, ends i k = false) :
    allowO nrPmpEntries i = true ↔ i.privLvl = .m := by
  have none : (List.range nrPmpEntries).find? (ends i) = none := by
    simpa [List.find?_eq_none] using missed
  rw [allowO, if_pos some, none, decide_eq_true_eq]

/-- Where an entry matches, one decides. -/
theorem exists_decides (inside : k < nrPmpEntries) (covers : Covers i k) :
    ∃ j, Decides nrPmpEntries i j := by
  classical
  have some : ∃ k, Covers i k := ⟨k, covers⟩
  refine ⟨Nat.find some, ?_, Nat.find_spec some, fun j before => Nat.find_min some before⟩
  exact Nat.lt_of_le_of_lt (Nat.find_min' some covers) inside

theorem exists_firstLocked (inside : k < nrPmpEntries) (covers : Covers i k)
    (locked : (i.conf k).locked = true) : ∃ j, FirstLocked nrPmpEntries i j := by
  classical
  have some : ∃ k, Covers i k ∧ (i.conf k).locked = true := ⟨k, covers, locked⟩
  have least := Nat.find_spec some
  refine ⟨Nat.find some, ?_, least.1, least.2, ?_⟩
  · exact Nat.lt_of_le_of_lt (Nat.find_min' some ⟨covers, locked⟩) inside
  · intro j before covers
    exact Bool.eq_false_iff.mpr fun locked => Nat.find_min some before ⟨covers, locked⟩

theorem Decides.unique {j : Nat} (first : Decides nrPmpEntries i k)
    (second : Decides nrPmpEntries i j) : k = j := by
  rcases Nat.lt_trichotomy k j with before | same | after
  · exact absurd first.2.1 (second.2.2 k before)
  · exact same
  · exact absurd second.2.1 (first.2.2 j after)

theorem FirstLocked.unique {j : Nat} (first : FirstLocked nrPmpEntries i k)
    (second : FirstLocked nrPmpEntries i j) : k = j := by
  rcases Nat.lt_trichotomy k j with before | same | after
  · have unlocked := second.2.2.2 k before first.2.1
    rw [first.2.2.1] at unlocked
    cases unlocked
  · exact same
  · have unlocked := first.2.2.2 j after second.2.1
    rw [second.2.2.1] at unlocked
    cases unlocked

theorem allowed_of_decides (decides : Decides nrPmpEntries i k) :
    Allowed nrPmpEntries i ↔ i.privLvl = .m ∧ (i.conf k).locked = false ∨ Permits i k := by
  constructor
  · rintro (⟨j, other, allows⟩ | ⟨missed, -⟩)
    · rwa [decides.unique other]
    · exact absurd decides.2.1 (missed k decides.1)
  · exact fun allows => Or.inl ⟨k, decides, allows⟩

theorem allowed_of_none (some : 0 < nrPmpEntries) (missed : ∀ k < nrPmpEntries, ¬Covers i k) :
    Allowed nrPmpEntries i ↔ i.privLvl = .m := by
  constructor
  · rintro (⟨k, decides, -⟩ | ⟨-, machine | none⟩)
    · exact absurd decides.2.1 (missed k decides.1)
    · exact machine
    · omega
  · exact fun machine => Or.inr ⟨missed, Or.inl machine⟩

/-- Outside of machine mode the loop ends at the entry that decides. -/
theorem allowO_iff_of_lower (some : 0 < nrPmpEntries) (lower : i.privLvl ≠ .m) :
    allowO nrPmpEntries i = true ↔ Allowed nrPmpEntries i := by
  have ends_iff (k : Nat) : ends i k = true ↔ Covers i k := by
    simp [ends, lower, hit_iff]
  by_cases covered : ∃ k < nrPmpEntries, Covers i k
  · rcases covered with ⟨k, inside, covers⟩
    rcases exists_decides inside covers with ⟨j, decides⟩
    have found : (List.range nrPmpEntries).find? (ends i) = Option.some j := by
      rw [find_iff, ends_iff]
      refine ⟨decides.1, decides.2.1, fun j before => ?_⟩
      rw [Bool.eq_false_iff, ne_eq, ends_iff]
      exact decides.2.2 j before
    rw [allowO_of_find found, allowed_of_decides decides]
    simp [lower]
  · have missed (k : Nat) (inside : k < nrPmpEntries) : ¬Covers i k := fun covers =>
      covered ⟨k, inside, covers⟩
    rw [allowed_of_none some missed, allowO_of_none some]
    intro k inside
    rw [Bool.eq_false_iff, ne_eq, ends_iff]
    exact missed k inside

theorem allowO_iff_of_machine (machine : i.privLvl = .m) :
    allowO nrPmpEntries i = true ↔ ∀ k, FirstLocked nrPmpEntries i k → Permits i k := by
  have ends_iff (k : Nat) : ends i k = true ↔ (i.conf k).locked = true ∧ Covers i k := by
    simp [ends, machine, hit_iff]
  by_cases anyLocked : ∃ k, FirstLocked nrPmpEntries i k
  · rcases anyLocked with ⟨k, first⟩
    have found : (List.range nrPmpEntries).find? (ends i) = some k := by
      rw [find_iff, ends_iff]
      refine ⟨first.1, ⟨first.2.2.1, first.2.1⟩, fun j before => ?_⟩
      rw [Bool.eq_false_iff, ne_eq, ends_iff]
      rintro ⟨locked, covers⟩
      rw [first.2.2.2 j before covers] at locked
      cases locked
    rw [allowO_of_find found]
    exact ⟨fun permits other firstToo => first.unique firstToo ▸ permits,
      fun permits => permits k first⟩
  · have allows : allowO nrPmpEntries i = true := by
      rcases Nat.eq_zero_or_pos nrPmpEntries with rfl | some
      · rfl
      · rw [allowO_of_none some]
        · exact machine
        · intro k inside
          rw [Bool.eq_false_iff, ne_eq, ends_iff]
          exact fun ends => anyLocked (exists_firstLocked inside ends.2 ends.1)
    exact iff_of_true allows fun k first => absurd ⟨k, first⟩ anyLocked

theorem allowed_iff_of_machine (machine : i.privLvl = .m) :
    Allowed nrPmpEntries i ↔
      ∀ k, Decides nrPmpEntries i k → (i.conf k).locked = true → Permits i k := by
  by_cases covered : ∃ k < nrPmpEntries, Covers i k
  · rcases covered with ⟨k, inside, covers⟩
    rcases exists_decides inside covers with ⟨j, decides⟩
    rw [allowed_of_decides decides]
    constructor
    · rintro (⟨-, unlocked⟩ | permits) other decidesToo locked
      · rw [← decides.unique decidesToo, unlocked] at locked
        cases locked
      · exact decides.unique decidesToo ▸ permits
    · intro permits
      cases locked : (i.conf j).locked with
      | true => exact Or.inr (permits j decides locked)
      | false => exact Or.inl ⟨machine, rfl⟩
  · apply iff_of_true
    · exact Or.inr ⟨fun k inside covers => covered ⟨k, inside, covers⟩, Or.inl machine⟩
    · exact fun k decides => absurd ⟨k, decides.1, decides.2.1⟩ covered

theorem Decides.firstLocked (decides : Decides nrPmpEntries i k)
    (locked : (i.conf k).locked = true) : FirstLocked nrPmpEntries i k :=
  ⟨decides.1, decides.2.1, locked, fun j before covers => absurd covers (decides.2.2 j before)⟩

/-- The unit decides by the rule exactly when no locked entry overrides, in machine mode, the
entry that decides. -/
theorem allow_iff_rule :
    (allowO nrPmpEntries i = true ↔ Allowed nrPmpEntries i) ↔ ¬Overridden nrPmpEntries i := by
  by_cases machine : i.privLvl = .m
  · rw [allowO_iff_of_machine machine, allowed_iff_of_machine machine]
    constructor
    · rintro same ⟨-, ⟨j, decides, unlocked⟩, k, first, denies⟩
      refine denies (same.mpr ?_ k first)
      intro other decidesToo locked
      rw [← decides.unique decidesToo, unlocked] at locked
      cases locked
    · intro alone
      constructor
      · exact fun permits k decides locked => permits k (decides.firstLocked locked)
      · intro permits k first
        rcases exists_decides first.1 first.2.1 with ⟨j, decides⟩
        cases locked : (i.conf j).locked with
        | true => exact (decides.firstLocked locked).unique first ▸ permits j decides locked
        | false =>
          by_contra denies
          exact alone ⟨machine, ⟨j, decides, locked⟩, k, first, denies⟩
  · have alone : ¬Overridden nrPmpEntries i := fun overridden => machine overridden.1
    rcases Nat.eq_zero_or_pos nrPmpEntries with rfl | some
    · have allowed : Allowed 0 i :=
        Or.inr ⟨fun k inside => absurd inside (Nat.not_lt_zero k), Or.inr rfl⟩
      simp [allowO, allowed, alone]
    · simp [allowO_iff_of_lower some machine, alone]

/-! ## A locked entry behind the entry that decides -/

/-- A store in machine mode to the region of two entries. The first is open, the second is
locked and closed. -/
def overriddenStore : Input 8 where
  addr := 0
  accessType := .write
  privLvl := .m
  confAddr _ := 1
  conf k := PmpCfg.ofByte (if k = 0 then 0x1F#8 else 0x98#8)

/-- The rule allows the store, the unit does not. -/
theorem store_refused : ¬(allowO 2 overriddenStore = true ↔ Allowed 2 overriddenStore) := by
  have refused : allowO 2 overriddenStore = false := by decide
  have covers : Covers overriddenStore 0 := hit_iff.mp (by decide)
  have allowed : Allowed 2 overriddenStore :=
    Or.inl ⟨0, ⟨by decide, covers, fun j before => absurd before (Nat.not_lt_zero j)⟩,
      Or.inl ⟨rfl, rfl⟩⟩
  simp [refused, allowed]

end Decision

end Cva6Hpd.Pmp
