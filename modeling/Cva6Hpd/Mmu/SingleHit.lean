import Cva6Hpd.Mmu.Replacement
import Cva6Hpd.Mmu.Unit

/-!
# One hit of a lookup

A lookup of a first-level buffer should hit one entry at most. Two entries can answer one lookup
when their pages overlap and an address space is common to both. The sizes of pages are ordered,
the 64 KiB of a NAPOT page among them, and a page of a larger size that meets a smaller one contains
it: two pages overlap when one of them contains the page number that the other is stored with.

An update is written to the entry that the replacement tree points to, if the lookup of that cycle
misses; but that lookup need not be the one that the update is for, and the update of a walk goes to
the side that waits, which need not be the side that walked. So an update can be written beside an
entry that it overlaps.
-/

namespace Cva6Hpd.Mmu.Tlb

/-! ## Sizes -/

/-- A size of pages: that of a level of the page tables, or 64 KiB. -/
inductive Size where
  | level (x : Nat)
  | napot64k

section Sizes

variable (cfg : Cfg) (stages : StEnbl)

/-- Two page numbers have one index `x`; with the second stage alone the top one is longer. -/
def SameIndex (x page other : Nat) : Prop :=
  vpnSlice cfg page x = vpnSlice cfg other x ∧
    (cfg.rvh = true → x = cfg.lastLevel → stages.s = false →
      slice page (cfg.vpnWidth * (x + 1)) (cfg.gppnw % cfg.vpnWidth) =
        slice other (cfg.vpnWidth * (x + 1)) (cfg.gppnw % cfg.vpnWidth))

/-- Two page numbers are in one page of the size. -/
def Size.Same : Size → Nat → Nat → Prop
  | .level x, page, other => ∀ y, x ≤ y → y < cfg.ptLevels → SameIndex cfg stages y page other
  | .napot64k, page, other =>
      SameIndex cfg stages 2 page other ∧ SameIndex cfg stages 1 page other ∧
        slice page 4 (cfg.vpnWidth - 4) = slice other 4 (cfg.vpnWidth - 4)

/-- The size is that of a page with the flags. -/
def Size.Of (e : Entry) : Size → Prop
  | .level x => x < cfg.ptLevels ∧
      pageMatch cfg (if cfg.rvh then stages else ⟨true, true, true⟩) e.isPage x = true
  | .napot64k => cfg.svnapotEn = true ∧ e.isNapot64k = true

variable {cfg stages}

theorem SameIndex.refl (x page : Nat) : SameIndex cfg stages x page page :=
  ⟨rfl, fun _ _ _ => rfl⟩

theorem SameIndex.symm {x page other : Nat} (same : SameIndex cfg stages x page other) :
    SameIndex cfg stages x other page :=
  ⟨same.1.symm, fun rvh last second => (same.2 rvh last second).symm⟩

theorem SameIndex.trans {x page other third : Nat} (first : SameIndex cfg stages x page other)
    (second : SameIndex cfg stages x other third) : SameIndex cfg stages x page third :=
  ⟨first.1.trans second.1,
    fun rvh last alone => (first.2 rvh last alone).trans (second.2 rvh last alone)⟩

namespace Size

theorem Same.symm {size : Size} {page other : Nat} (same : size.Same cfg stages page other) :
    size.Same cfg stages other page := by
  cases size with
  | level x => exact fun y above inside => (same y above inside).symm
  | napot64k => exact ⟨same.1.symm, same.2.1.symm, same.2.2.symm⟩

theorem Same.trans {size : Size} {page other third : Nat}
    (first : size.Same cfg stages page other) (second : size.Same cfg stages other third) :
    size.Same cfg stages page third := by
  cases size with
  | level x => exact fun y above inside => (first y above inside).trans (second y above inside)
  | napot64k =>
      exact ⟨first.1.trans second.1, first.2.1.trans second.2.1, first.2.2.trans second.2.2⟩

/-- The indices of a page number and its bits from the fifth on. -/
theorem slice_four_of_index {page other : Nat}
    (same : vpnSlice cfg page 0 = vpnSlice cfg other 0) :
    slice page 4 (cfg.vpnWidth - 4) = slice other 4 (cfg.vpnWidth - 4) := by
  rcases Nat.lt_or_ge cfg.vpnWidth 4 with narrow | wide
  · have none : cfg.vpnWidth - 4 = 0 := by omega
    rw [none, slice, slice, Nat.pow_zero, Nat.mod_one, Nat.mod_one]
  · have inside : 4 + (cfg.vpnWidth - 4) ≤ cfg.vpnWidth := by omega
    have index (number : Nat) : vpnSlice cfg number 0 = slice number 0 cfg.vpnWidth := by
      rw [vpnSlice, Nat.mul_zero]
    rw [index, index] at same
    rw [← slice_slice_zero inside, same, slice_slice_zero inside]

/-- Of two sizes one is the larger one: a NAPOT page is larger than a page of the last level, and
smaller than the others. -/
theorem same_or_same (sv39 : cfg.svnapotEn = true → cfg.ptLevels = 3) {e f : Entry}
    {first second : Size} (ofFirst : first.Of cfg stages e) (ofSecond : second.Of cfg stages f) :
    (∀ page other, first.Same cfg stages page other → second.Same cfg stages page other) ∨
      ∀ page other, second.Same cfg stages page other → first.Same cfg stages page other := by
  have last {page other : Nat} (napot : cfg.svnapotEn = true)
      (same : (level 0).Same cfg stages page other) : napot64k.Same cfg stages page other := by
    have levels := sv39 napot
    exact ⟨same 2 (Nat.zero_le _) (by omega), same 1 (Nat.zero_le _) (by omega),
      slice_four_of_index (same 0 le_rfl (by omega)).1⟩
  have upper {x page other : Nat} (napot : cfg.svnapotEn = true) (positive : 0 < x)
      (same : napot64k.Same cfg stages page other) : (level x).Same cfg stages page other := by
    have levels := sv39 napot
    intro y above inside
    have index : y = 1 ∨ y = 2 := by omega
    rcases index with rfl | rfl
    · exact same.2.1
    · exact same.1
  cases first with
  | level x =>
      cases second with
      | level y =>
          rcases Nat.le_total x y with below | above
          · exact Or.inl fun _ _ same z larger inside => same z (below.trans larger) inside
          · exact Or.inr fun _ _ same z larger inside => same z (above.trans larger) inside
      | napot64k =>
          rcases Nat.eq_zero_or_pos x with rfl | positive
          · exact Or.inl fun _ _ same => last ofSecond.1 same
          · exact Or.inr fun _ _ same => upper ofSecond.1 positive same
  | napot64k =>
      cases second with
      | level y =>
          rcases Nat.eq_zero_or_pos y with rfl | positive
          · exact Or.inr fun _ _ same => last ofFirst.1 same
          · exact Or.inl fun _ _ same => upper ofFirst.1 positive same
      | napot64k => exact Or.inl fun _ _ same => same

end Size

end Sizes

/-! ## The page of an entry -/

variable (cfg : Cfg)

/-- The part of `lu_hit[i]` that compares page numbers. -/
def pageHits (i : Input) (e : Entry) : Bool :=
  anyLevel cfg (entryLevelMatch cfg i e)
    || napotMatch cfg e.isNapot64k (vpnMatch cfg i e) (i.luVaddr / 2 ^ 12) e.vpn

/-- The lookup of the first address of a page. -/
def Input.atPage (i : Input) (page : Nat) : Input := { i with luVaddr := page * 2 ^ 12 }

variable {cfg}

theorem vpnMatch_iff {i : Input} {e : Entry} {x : Nat} :
    vpnMatch cfg i e x = true ↔ SameIndex cfg i.stages x (i.luVaddr / 2 ^ 12) e.vpn := by
  have index (low width : Nat) :
      slice i.luVaddr (12 + low) width = slice (i.luVaddr / 2 ^ 12) low width := by
    rw [slice_of_div (Nat.le_add_right 12 low), Nat.add_sub_cancel_left]
  rw [vpnMatch, index, index, SameIndex, Bool.and_eq_true, decide_eq_true_eq]
  refine and_congr Iff.rfl ?_
  cases cfg.rvh
  · simp
  · cases i.stages.s
    · by_cases last : x = cfg.lastLevel <;> simp [last]
    · simp

theorem upperMatch_iff {i : Input} {e : Entry} {x : Nat} :
    upperMatch cfg (vpnMatch cfg i e) x = true ↔
      (Size.level x).Same cfg i.stages (i.luVaddr / 2 ^ 12) e.vpn := by
  rw [upperMatch, List.all_eq_true]
  constructor
  · intro all y above inside
    have compares := all y (List.mem_range.mpr inside)
    rw [Bool.or_eq_true, decide_eq_true_eq] at compares
    exact vpnMatch_iff.mp (compares.resolve_left (Nat.not_lt.mpr above))
  · intro same y inside
    rw [Bool.or_eq_true, decide_eq_true_eq]
    rcases Nat.lt_or_ge y x with below | above
    · exact Or.inl below
    · exact Or.inr (vpnMatch_iff.mpr (same y above (List.mem_range.mp inside)))

theorem pageHits_iff {i : Input} {e : Entry} :
    pageHits cfg i e = true ↔
      ∃ size : Size, size.Of cfg i.stages e ∧
        size.Same cfg i.stages (i.luVaddr / 2 ^ 12) e.vpn := by
  rw [pageHits, Bool.or_eq_true, anyLevel, List.any_eq_true]
  constructor
  · rintro (⟨x, inside, matching⟩ | napot)
    · rw [entryLevelMatch, levelMatch, Bool.and_eq_true] at matching
      exact ⟨.level x, ⟨List.mem_range.mp inside, matching.2⟩, upperMatch_iff.mp matching.1⟩
    · simp only [napotMatch, Bool.and_eq_true, decide_eq_true_eq] at napot
      exact ⟨.napot64k, napot.1.1.1, vpnMatch_iff.mp napot.1.1.2, vpnMatch_iff.mp napot.1.2,
        napot.2⟩
  · rintro ⟨size, ofSize, same⟩
    cases size with
    | level x =>
        refine Or.inl ⟨x, List.mem_range.mpr ofSize.1, ?_⟩
        rw [entryLevelMatch, levelMatch, Bool.and_eq_true]
        exact ⟨upperMatch_iff.mpr same, ofSize.2⟩
    | napot64k =>
        apply Or.inr
        simp only [napotMatch, Bool.and_eq_true, decide_eq_true_eq]
        exact ⟨⟨⟨ofSize, vpnMatch_iff.mpr same.1⟩, vpnMatch_iff.mpr same.2.1⟩, same.2.2⟩

@[simp]
theorem page_atPage (i : Input) (page : Nat) : (i.atPage page).luVaddr / 2 ^ 12 = page :=
  Nat.mul_div_cancel page (Nat.two_pow_pos 12)

theorem pageHits_self (i : Input) (e : Entry) : pageHits cfg (i.atPage e.vpn) e = true := by
  refine pageHits_iff.mpr ⟨.level 0, ⟨?_, ?_⟩, ?_⟩
  · rw [Cfg.ptLevels]
    split <;> decide
  · rw [pageMatch, if_pos rfl]
  · intro y _ _
    rw [page_atPage]
    exact SameIndex.refl y e.vpn

theorem nested (sv39 : cfg.svnapotEn = true → cfg.ptLevels = 3) {i : Input} {e f : Entry}
    (first : pageHits cfg i e = true) (second : pageHits cfg i f = true) :
    pageHits cfg (i.atPage e.vpn) f = true ∨ pageHits cfg (i.atPage f.vpn) e = true := by
  obtain ⟨small, ofSmall, sameSmall⟩ := pageHits_iff.mp first
  obtain ⟨large, ofLarge, sameLarge⟩ := pageHits_iff.mp second
  rcases Size.same_or_same sv39 ofSmall ofLarge with larger | smaller
  · refine Or.inl (pageHits_iff.mpr ⟨large, ofLarge, ?_⟩)
    rw [page_atPage]
    exact (larger _ _ sameSmall).symm.trans sameLarge
  · refine Or.inr (pageHits_iff.mpr ⟨small, ofSmall, ?_⟩)
    rw [page_atPage]
    exact (smaller _ _ sameLarge).symm.trans sameSmall

theorem pageHits_congr {i j : Input} (e : Entry) (stages : cfg.rvh = true → i.stages = j.stages)
    (vaddr : i.luVaddr = j.luVaddr) : pageHits cfg i e = pageHits cfg j e := by
  have levels : vStEnbl cfg i = vStEnbl cfg j := by
    rw [vStEnbl, vStEnbl]
    split
    · next rvh => exact stages rvh
    · rfl
  have indices : vpnMatch cfg i e = vpnMatch cfg j e := by
    funext x
    rw [vpnMatch, vpnMatch, vaddr]
    cases rvh : cfg.rvh
    · rfl
    · rw [stages rvh]
  have matching : entryLevelMatch cfg i e = entryLevelMatch cfg j e := by
    funext x
    rw [entryLevelMatch, entryLevelMatch, levels, indices]
  rw [pageHits, pageHits, matching, indices, vaddr]

/-! ## Spaces -/

/-- The lookups that count: all of them, or those of an access that is translated. -/
inductive Scope where
  | every | translated
deriving DecidableEq

variable (cfg) in
/-- One of the stages is enabled; without a hypervisor there is only the first. -/
def translates (stages : StEnbl) : Bool := stages.s || (cfg.rvh && stages.g)

variable (cfg) in
def Scope.Includes (scope : Scope) (i : Input) : Prop :=
  scope = .translated → translates cfg i.stages = true

/-- The two entries answer in one address space. -/
def SharesAsid (e f : Entry) : Prop := e.asid = f.asid ∨ e.pte.g = true ∨ f.pte.g = true

variable (cfg) in
/-- The stages of a lookup that the entry answers; without a hypervisor the entry answers lookups
that are not translated too, and these do not ask for the address space. -/
def stagesOf (scope : Scope) (e : Entry) : StEnbl :=
  if cfg.rvh then e.vStEnbl else ⟨false, false, decide (scope = .translated)⟩

instance decidableSharesAsid (e f : Entry) : Decidable (SharesAsid e f) :=
  inferInstanceAs (Decidable (_ ∨ _))

variable (cfg) in
/-- There are a virtual machine and an address space in which both entries answer. -/
structure SharesSpace (scope : Scope) (e f : Entry) : Prop where
  stages : cfg.rvh = true → e.vStEnbl = f.vStEnbl
  stage : cfg.rvh = false → e.vStEnbl.s = true ∧ f.vStEnbl.s = true
  asid : (stagesOf cfg scope e).s = true → SharesAsid e f
  vmid : cfg.rvh = true → e.vStEnbl.g = true → e.vmid = f.vmid
  scope : scope = .translated → translates cfg (stagesOf cfg scope e) = true

/-- The lookup of a page. -/
def lookupOf (stages : StEnbl) (asid vmid page : Nat) : Input where
  flush := false
  flushVvma := false
  flushGvma := false
  stages := stages
  update := SharedTlb.noUpdate
  luAccess := true
  luAsid := asid
  luVmid := vmid
  luVaddr := page * 2 ^ 12
  asidToBeFlushed := 0
  vmidToBeFlushed := 0
  vaddrToBeFlushed := 0
  gpaddrToBeFlushed := 0

variable (cfg) in
/-- The entries share a space, and the page of one contains the page number of the other. -/
structure Overlaps (scope : Scope) (e f : Entry) : Prop where
  validLeft : e.valid = true
  validRight : f.valid = true
  space : SharesSpace cfg scope e f
  page : pageHits cfg (lookupOf (stagesOf cfg scope e) 0 0 e.vpn) f = true ∨
    pageHits cfg (lookupOf (stagesOf cfg scope e) 0 0 f.vpn) e = true

instance decidableSharesSpace (scope : Scope) (e f : Entry) :
    Decidable (SharesSpace cfg scope e f) :=
  decidable_of_iff (_ ∧ _ ∧ _ ∧ _ ∧ _)
    ⟨fun shares =>
        ⟨shares.1, shares.2.1, shares.2.2.1, shares.2.2.2.1, shares.2.2.2.2⟩,
      fun shares => ⟨shares.stages, shares.stage, shares.asid, shares.vmid, shares.scope⟩⟩

instance decidableOverlaps (scope : Scope) (e f : Entry) : Decidable (Overlaps cfg scope e f) :=
  decidable_of_iff (_ ∧ _ ∧ _ ∧ _)
    ⟨fun overlaps => ⟨overlaps.1, overlaps.2.1, overlaps.2.2.1, overlaps.2.2.2⟩,
      fun overlaps => ⟨overlaps.validLeft, overlaps.validRight, overlaps.space, overlaps.page⟩⟩

theorem hits_iff {i : Input} {e : Entry} :
    hits cfg i e = true ↔
      e.valid = true ∧ matchAsid i e = true ∧ matchVmid cfg i e = true ∧
        matchStage cfg i e = true ∧ pageHits cfg i e = true := by
  rw [hits, ← pageHits]
  simp only [Bool.and_eq_true, and_assoc]

/-- The stages of a lookup are those of the entries it hits, where there is a hypervisor. -/
theorem stages_of_matchStage {i : Input} {e : Entry} (scope : Scope)
    (stage : matchStage cfg i e = true) (rvh : cfg.rvh = true) :
    i.stages = stagesOf cfg scope e := by
  rw [matchStage, if_pos rvh, decide_eq_true_eq] at stage
  rw [stagesOf, if_pos rvh, stage]

theorem matchAsid_iff {i : Input} {e : Entry} :
    matchAsid i e = true ↔ (i.stages.s = true → i.luAsid = e.asid ∨ e.pte.g = true) := by
  cases stage : i.stages.s <;> simp [matchAsid, stage]

theorem matchVmid_iff {i : Input} {e : Entry} :
    matchVmid cfg i e = true ↔
      (cfg.rvh = true → i.stages.g = true → i.luVmid = e.vmid) := by
  cases rvh : cfg.rvh <;> cases stage : i.stages.g <;> simp [matchVmid, rvh, stage]

/-- Entries that answer one lookup overlap. -/
theorem overlaps_of_hits (sv39 : cfg.svnapotEn = true → cfg.ptLevels = 3) {scope : Scope}
    {i : Input} {e f : Entry} (inside : scope.Includes cfg i) (first : hits cfg i e = true)
    (second : hits cfg i f = true) : Overlaps cfg scope e f := by
  obtain ⟨validE, asidE, vmidE, stageE, pageE⟩ := hits_iff.mp first
  obtain ⟨validF, asidF, vmidF, stageF, pageF⟩ := hits_iff.mp second
  have sameStages (rvh : cfg.rvh = true) := stages_of_matchStage scope stageE rvh
  have move (page : Nat) (entry : Entry) :
      pageHits cfg (i.atPage page) entry =
        pageHits cfg (lookupOf (stagesOf cfg scope e) 0 0 page) entry :=
    pageHits_congr entry sameStages rfl
  refine ⟨validE, validF, ⟨?_, ?_, ?_, ?_, ?_⟩, ?_⟩
  · intro rvh
    rw [matchStage, if_pos rvh, decide_eq_true_eq] at stageE stageF
    exact stageE.trans stageF.symm
  · intro plain
    rw [matchStage, plain, if_neg Bool.false_ne_true] at stageE stageF
    exact ⟨stageE, stageF⟩
  · intro asks
    have stage : i.stages.s = true := by
      cases rvh : cfg.rvh
      · rw [stagesOf, rvh, if_neg Bool.false_ne_true, decide_eq_true_eq] at asks
        have enabled := inside asks
        rwa [translates, rvh, Bool.false_and, Bool.or_false] at enabled
      · rw [sameStages rvh]
        exact asks
    rcases matchAsid_iff.mp asidE stage with sameE | globalE
    · rcases matchAsid_iff.mp asidF stage with sameF | globalF
      · exact Or.inl (sameE.symm.trans sameF)
      · exact Or.inr (Or.inr globalF)
    · exact Or.inr (Or.inl globalE)
  · intro rvh guest
    have stage : i.stages.g = true := by
      rw [sameStages rvh, stagesOf, if_pos rvh]
      exact guest
    exact (matchVmid_iff.mp vmidE rvh stage).symm.trans (matchVmid_iff.mp vmidF rvh stage)
  · intro translated
    cases rvh : cfg.rvh
    · rw [stagesOf, rvh, if_neg Bool.false_ne_true, translates, Bool.or_eq_true]
      exact Or.inl (decide_eq_true translated)
    · rw [← sameStages rvh]
      exact inside translated
  · rw [← move, ← move]
    exact nested sv39 pageE pageF

variable (cfg) in
/-- The lookup of a page in a space that both entries share. -/
def sharedLookup (scope : Scope) (e f : Entry) (page : Nat) : Input :=
  lookupOf (stagesOf cfg scope e) (if e.pte.g then f.asid else e.asid) e.vmid page

theorem pageHits_sharedLookup (scope : Scope) (e f entry : Entry) (page : Nat) :
    pageHits cfg (sharedLookup cfg scope e f page) entry =
      pageHits cfg (lookupOf (stagesOf cfg scope e) 0 0 page) entry :=
  pageHits_congr entry (fun _ => rfl) rfl

theorem matchStage_sharedLookup {scope : Scope} {e f entry : Entry} {page : Nat}
    (stages : cfg.rvh = true → e.vStEnbl = entry.vStEnbl)
    (stage : cfg.rvh = false → entry.vStEnbl.s = true) :
    matchStage cfg (sharedLookup cfg scope e f page) entry = true := by
  cases rvh : cfg.rvh
  · rw [matchStage, rvh, if_neg Bool.false_ne_true]
    exact stage rvh
  · rw [matchStage, if_pos rvh, decide_eq_true_eq, ← stages rvh]
    exact (if_pos rvh : stagesOf cfg scope e = _).symm

theorem SharesSpace.hits_left {scope : Scope} {e f : Entry} {page : Nat}
    (space : SharesSpace cfg scope e f) (valid : e.valid = true)
    (inside : pageHits cfg (lookupOf (stagesOf cfg scope e) 0 0 page) e = true) :
    hits cfg (sharedLookup cfg scope e f page) e = true := by
  refine hits_iff.mpr ⟨valid, ?_, ?_, ?_, ?_⟩
  · refine matchAsid_iff.mpr fun _ => ?_
    cases wide : e.pte.g
    · exact Or.inl (if_neg (by simp [wide]))
    · exact Or.inr rfl
  · exact matchVmid_iff.mpr fun _ _ => rfl
  · exact matchStage_sharedLookup (fun _ => rfl) fun plain => (space.stage plain).1
  · rwa [pageHits_sharedLookup]

theorem SharesSpace.hits_right {scope : Scope} {e f : Entry} {page : Nat}
    (space : SharesSpace cfg scope e f) (valid : f.valid = true)
    (inside : pageHits cfg (lookupOf (stagesOf cfg scope e) 0 0 page) f = true) :
    hits cfg (sharedLookup cfg scope e f page) f = true := by
  refine hits_iff.mpr ⟨valid, ?_, ?_, ?_, ?_⟩
  · refine matchAsid_iff.mpr fun asks => ?_
    change (if e.pte.g then f.asid else e.asid) = f.asid ∨ f.pte.g = true
    cases wide : e.pte.g
    · rw [if_neg Bool.false_ne_true]
      rcases space.asid asks with same | wideLeft | wideRight
      · exact Or.inl same
      · rw [wide] at wideLeft
        contradiction
      · exact Or.inr wideRight
    · exact Or.inl (if_pos rfl)
  · refine matchVmid_iff.mpr fun rvh guest => ?_
    have stage : (stagesOf cfg scope e).g = true := guest
    rw [stagesOf, if_pos rvh] at stage
    exact space.vmid rvh stage
  · exact matchStage_sharedLookup space.stages fun plain => (space.stage plain).2
  · rwa [pageHits_sharedLookup]

/-- Entries that overlap answer one lookup. -/
theorem Overlaps.hits {scope : Scope} {e f : Entry} (overlaps : Overlaps cfg scope e f) :
    ∃ i, scope.Includes cfg i ∧ hits cfg i e = true ∧ hits cfg i f = true := by
  obtain ⟨validE, validF, space, page⟩ := overlaps
  have asks (number : Nat)
      (left : pageHits cfg (lookupOf (stagesOf cfg scope e) 0 0 number) e = true)
      (right : pageHits cfg (lookupOf (stagesOf cfg scope e) 0 0 number) f = true) :
      ∃ i, scope.Includes cfg i ∧ Tlb.hits cfg i e = true ∧ Tlb.hits cfg i f = true :=
    ⟨sharedLookup cfg scope e f number, space.scope, space.hits_left validE left,
      space.hits_right validF right⟩
  rcases page with ofLeft | ofRight
  · exact asks e.vpn (pageHits_self (lookupOf (stagesOf cfg scope e) 0 0 0) e) ofLeft
  · exact asks f.vpn ofRight (pageHits_self (lookupOf (stagesOf cfg scope e) 0 0 0) f)

theorem Overlaps.symm (sv39 : cfg.svnapotEn = true → cfg.ptLevels = 3) {scope : Scope}
    {e f : Entry} (overlaps : Overlaps cfg scope e f) : Overlaps cfg scope f e := by
  obtain ⟨lookup, inside, left, right⟩ := overlaps.hits
  exact overlaps_of_hits sv39 inside right left

/-! ## One hit -/

variable {n : Nat}

/-- A lookup hits one entry at most. -/
def Single (cfg : Cfg) (scope : Scope) (s : State n) : Prop :=
  ∀ i, scope.Includes cfg i → ∀ j k, hits cfg i (s.entries j) = true →
    hits cfg i (s.entries k) = true → j = k

/-- The update that is written overlaps no other entry. -/
def Fresh (cfg : Cfg) (scope : Scope) (s : State n) (i : Input) : Prop :=
  ∀ k, writes cfg s i k = true → ∀ j, j ≠ k →
    ¬Overlaps cfg scope (s.entries j) (ofUpdate cfg i.update)

instance decidableFresh (cfg : Cfg) (scope : Scope) (s : State n) (i : Input) :
    Decidable (Fresh cfg scope s i) :=
  inferInstanceAs (Decidable (∀ _, _))

/-! ## One cycle -/

variable {scope : Scope} {s : State n} {i : Input}

theorem writes_cases {k : Fin n} (written : writes cfg s i k = true) :
    flushes cfg i = false ∧ replaceEn s k = true ∧ luHit cfg s i = false := by
  simp only [writes, Bool.and_eq_true, Bool.not_eq_true'] at written
  exact ⟨written.1.1.1, written.1.2, written.2⟩

/-- One lookup hits one entry when no two entries overlap. -/
theorem single_iff (sv39 : cfg.svnapotEn = true → cfg.ptLevels = 3) :
    Single cfg scope s ↔ ∀ j k, j ≠ k → ¬Overlaps cfg scope (s.entries j) (s.entries k) := by
  constructor
  · intro single j k different overlaps
    obtain ⟨lookup, inside, left, right⟩ := overlaps.hits
    exact different (single lookup inside j k left right)
  · intro apart lookup inside j k left right
    by_contra different
    exact apart j k different (overlaps_of_hits sv39 inside left right)

theorem overlaps_of_step {j : Fin n} {e : Entry} (kept : writes cfg s i j = false)
    (overlaps : Overlaps cfg scope ((step cfg s i).entries j) e) :
    Overlaps cfg scope (s.entries j) e := by
  rw [entries_step, kept, if_neg Bool.false_ne_true] at overlaps
  split at overlaps
  · exact absurd overlaps.validLeft Bool.false_ne_true
  · exact overlaps

theorem single_step_iff (sv39 : cfg.svnapotEn = true → cfg.ptLevels = 3)
    (single : Single cfg scope s) : Single cfg scope (step cfg s i) ↔ Fresh cfg scope s i := by
  have apart := (single_iff sv39).mp single
  have written {k : Fin n} (writing : writes cfg s i k = true) :
      (step cfg s i).entries k = ofUpdate cfg i.update := by
    rw [entries_step, if_pos writing]
  have unwritten {j k : Fin n} (writing : writes cfg s i k = true) (other : j ≠ k) :
      writes cfg s i j = false := by
    refine Bool.eq_false_iff.mpr fun also => other ?_
    exact replaceEn_unique (writes_cases also).2.1 (writes_cases writing).2.1
  rw [single_iff sv39]
  constructor
  · intro apartNext k writing j other overlaps
    refine apartNext j k other ?_
    have calm := invalidates_of_calm (e := s.entries j) (writes_cases writing).1
    rw [written writing, entries_step, unwritten writing other, if_neg Bool.false_ne_true, calm,
      if_neg Bool.false_ne_true]
    exact overlaps
  · intro fresh j k different overlaps
    cases left : writes cfg s i j
    · have kept := overlaps_of_step left overlaps
      cases right : writes cfg s i k
      · exact apart j k different ((overlaps_of_step right (kept.symm sv39)).symm sv39)
      · rw [written right] at kept
        exact fresh k right j different kept
    · have other := unwritten left (Ne.symm different)
      have kept := overlaps_of_step other (overlaps.symm sv39)
      rw [written left] at kept
      exact fresh j left k (Ne.symm different) kept

end Cva6Hpd.Mmu.Tlb

namespace Cva6Hpd.Mmu.Unit

open Common (TcSram)
open Tlb (Scope)

variable {cfg : UnitCfg}

/-! ## Runs -/

/-- A lookup of either buffer hits one entry at most. -/
structure SingleHit (scope : Scope) (s : State cfg) : Prop where
  itlb : Tlb.Single cfg.toCfg scope s.itlb
  dtlb : Tlb.Single cfg.toCfg scope s.dtlb

/-- What the cycle writes to either buffer overlaps nothing else in it. -/
structure FreshUpdates (scope : Scope) (s : State cfg) (i : Input) : Prop where
  itlb : Tlb.Fresh cfg.toCfg scope s.itlb (itlbInput cfg i (updateItlb cfg s i))
  dtlb : Tlb.Fresh cfg.toCfg scope s.dtlb (dtlbInput cfg i (updateDtlb cfg s i))

instance decidableFreshUpdates (scope : Scope) (s : State cfg) (i : Input) :
    Decidable (FreshUpdates scope s i) :=
  decidable_of_iff (_ ∧ _) ⟨fun fresh => ⟨fresh.1, fresh.2⟩, fun fresh => ⟨fresh.itlb, fresh.dtlb⟩⟩

theorem singleHit_reset (scope : Scope)
    (powerUp : Fin 2 → TcSram (2 ^ cfg.sharedTlbBits) SharedTlb.Row) :
    SingleHit scope (reset cfg powerUp) := by
  have empty {n : Nat} : Tlb.Single cfg.toCfg scope (Tlb.reset n) := by
    intro lookup _ j _ hit
    exact absurd (Tlb.valid_of_hits _ hit) Bool.false_ne_true
  exact ⟨empty, empty⟩

theorem ptLevels_of_xlen (sv39 : cfg.svnapotEn = true → cfg.isXlen64 = true)
    (napot : cfg.svnapotEn = true) : cfg.ptLevels = 3 :=
  if_pos (sv39 napot)

theorem singleHit_step_iff (sv39 : cfg.svnapotEn = true → cfg.isXlen64 = true) {scope : Scope}
    {s : State cfg} (single : SingleHit scope s) (i : Input) :
    SingleHit scope (step cfg s i) ↔ FreshUpdates scope s i := by
  have levels := ptLevels_of_xlen sv39
  constructor
  · intro next
    exact ⟨(Tlb.single_step_iff levels single.itlb).mp next.itlb,
      (Tlb.single_step_iff levels single.dtlb).mp next.dtlb⟩
  · intro fresh
    exact ⟨(Tlb.single_step_iff levels single.itlb).mpr fresh.itlb,
      (Tlb.single_step_iff levels single.dtlb).mpr fresh.dtlb⟩

/-- In every state of a run a lookup hits one entry at most exactly when every update that the run
writes overlaps no other entry: of all lookups, and of those of translated accesses. NAPOT pages
are those of Sv39. -/
theorem single_hit_iff (sv39 : cfg.svnapotEn = true → cfg.isXlen64 = true) (scope : Scope)
    (powerUp : Fin 2 → TcSram (2 ^ cfg.sharedTlbBits) SharedTlb.Row) (inputs : List Input) :
    (∀ first, first <+: inputs → SingleHit scope ((machine cfg powerUp).run first)) ↔
      (machine cfg powerUp).RunAlong (FreshUpdates scope) inputs := by
  induction inputs using List.reverseRecOn with
  | nil =>
      constructor
      · intro _
        trivial
      · intro _ first inside
        rw [List.prefix_nil.mp inside]
        exact singleHit_reset scope powerUp
  | append_singleton inputs i inductionHypothesis =>
      rw [Hw.Machine.runAlong_concat, ← inductionHypothesis]
      constructor
      · intro single
        have before (first : List Input) (inside : first <+: inputs) :=
          single first (inside.trans (List.prefix_append inputs [i]))
        refine ⟨before, ?_⟩
        have here := before inputs List.prefix_rfl
        have next := single (inputs ++ [i]) List.prefix_rfl
        rw [Hw.Machine.run_concat] at next
        exact (singleHit_step_iff sv39 here i).mp next
      · rintro ⟨before, fresh⟩ first inside
        rcases List.prefix_concat_iff.mp inside with rfl | shorter
        · rw [Hw.Machine.run_concat]
          exact (singleHit_step_iff sv39 (before inputs List.prefix_rfl) i).mpr fresh
        · exact before first shorter

/-- A load walks to a large page, which is written to the data buffer once. -/
theorem single_hit_load :
    SingleHit .translated
      ((machine sv32 blank).run (readablePage ++ List.replicate 4 Input.load)) := by
  have fresh : (machine sv32 blank).RunAlong (FreshUpdates .translated)
      (readablePage ++ List.replicate 4 Input.load) := by
    decide +kernel
  exact (single_hit_iff (by decide) .translated blank _).mpr fresh _ List.prefix_rfl

/-- Sv39 without the shared buffer. -/
def sv39 : UnitCfg := ⟨Cfg.sv39, 16, 16, false, 6, 56, true⟩

/-- A load walks to a page, then a fetch walks to it; the walk ends behind a load that waits for
another page. -/
def fetchBehindLoad : List Input :=
  let load := { Input.load with lsuVaddr := 0x40000000 }
  let fetch := { Input.fetch with fetchVaddr := 0x40000000, lsuVaddr := 0 }
  let other := { fetch with lsuReq := true, lsuVaddr := 0x80000000 }
  let leaf := 0x1000004b
  [load, load, { load with dataGnt := true }, { load with dataRvalid := true, dataRdata := leaf },
    load, load, load, fetch, fetch, { fetch with dataGnt := true },
    { other with dataRvalid := true, dataRdata := leaf }, other]

/-- The page is in the data buffer twice. -/
theorem doubled_by_fetch :
    ∃ inputs, ¬SingleHit .translated ((machine sv39 blank).run inputs) := by
  refine ⟨fetchBehindLoad, fun single => ?_⟩
  have both :
      let s : Tlb.State 16 := ((machine sv39 blank).run fetchBehindLoad).dtlb
      let lookup := Tlb.lookupOf ⟨false, false, true⟩ 0 0 0x40000
      Tlb.hits Cfg.sv39 lookup (s.entries 0) = true ∧
        Tlb.hits Cfg.sv39 lookup (s.entries 8) = true := by
    decide +kernel
  have same : (0 : Fin 16) = 8 :=
    single.dtlb _ (fun _ => rfl) (0 : Fin 16) (8 : Fin 16) both.1 both.2
  contradiction

end Cva6Hpd.Mmu.Unit
