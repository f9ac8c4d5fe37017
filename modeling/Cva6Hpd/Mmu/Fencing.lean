import Cva6Hpd.Mmu.Unit
import Cva6Hpd.Mmu.Pairing
import Cva6Hpd.Mmu.Tlb

/-!
# Fences are complete

After a fence nothing that it requires to be invalidated is left in the buffers, and nothing
comes back from what was read before: each translation is labelled with the walk that has read
it, by the requests that the walk consumed, and with the cycle of its lookup in the shared
buffer. A fence is recorded with the walks that were started before it and with its cycle.
-/

/-!
## What a fence requires

A fence names an address, an address space or a virtual machine, or leaves them open with a
zero. It requires the entries to be invalidated whose leaf maps the address, at the size of the
page that the leaf has in its stage, and which belong to the space. `invalidates_of_required`
compares this with the flush of a buffer.
-/

namespace Cva6Hpd.Mmu.Tlb

/-- The fences: of the first stage outside of a virtual machine, of the first stage inside of
the current one, and of the second stage. -/
inductive FenceKind where
  | vma | vvma | gvma
deriving DecidableEq

structure Fence where
  kind : FenceKind
  asid : Nat
  vmid : Nat
  vaddr : Nat
  gpaddr : Nat
  /-- The current virtual machine. -/
  luVmid : Nat
deriving DecidableEq

variable (cfg : Cfg)

/-- The fence that a flush executes. -/
def fenceOf (i : Input) : Option Fence :=
  let fence (kind : FenceKind) : Fence :=
    ⟨kind, i.asidToBeFlushed, i.vmidToBeFlushed, i.vaddrToBeFlushed, i.gpaddrToBeFlushed,
      i.luVmid⟩
  if i.flush then some (fence .vma)
  else if i.flushVvma && cfg.rvh then some (fence .vvma)
  else if i.flushGvma && cfg.rvh then some (fence .gvma)
  else none

variable (f : Fence) (e : Entry)

/-- The page that a leaf has in its stage contains the page number. -/
def OfLeaf (stage : Fin 2) (page other : Nat) : Prop :=
  ∃ x < cfg.ptLevels, (x = 0 ∨ pageAt e.isPage (cfg.lastLevel - x) stage = true) ∧
    Contains (cfg.vpnWidth * x) page other

/-- The leaf of the first stage maps the address. -/
def MapsVirtual (vaddr : Nat) : Prop :=
  OfLeaf cfg e 0 (slice e.vpn 0 (indexBits cfg)) (slice vaddr 12 (indexBits cfg)) ∨
    ((e.isNapot64k && cfg.svnapotEn) = true ∧
      Contains 4 (slice e.vpn 0 (indexBits cfg)) (slice vaddr 12 (indexBits cfg)))

/-- The leaf of the second stage maps the guest physical address. -/
def MapsGuest (gpaddr : Nat) : Prop := OfLeaf cfg e 1 (gppn cfg e) (gpaddr / 2 ^ 12)

/-- A fence of the first stage names the entry; a global page is in no address space. -/
def Named : Prop :=
  (f.vaddr ≠ 0 → MapsVirtual cfg e f.vaddr) ∧
    (f.asid ≠ 0 → f.asid = e.asid ∧ e.pte.g = false)

/-- The fence requires the entry to be invalidated. -/
def Required : Prop :=
  match f.kind with
  | .vma => (cfg.rvh = true → e.vStEnbl.v = false) ∧ Named cfg f e
  | .vvma =>
      e.vStEnbl.v = true ∧ e.vStEnbl.s = true ∧ (e.vStEnbl.g = true → f.luVmid = e.vmid) ∧
        Named cfg f e
  | .gvma =>
      e.vStEnbl.g = true ∧ (f.gpaddr ≠ 0 → MapsGuest cfg e f.gpaddr) ∧
        (f.vmid ≠ 0 → f.vmid = e.vmid)

variable {cfg f e} {i : Input}

theorem flushLevels_of_ofLeaf {stage : Fin 2} {page other : Nat} {vpnMatch : Nat → Bool}
    (compares : ∀ y < cfg.ptLevels, vpnSlice cfg page y = vpnSlice cfg other y → vpnMatch y = true)
    (leaf : OfLeaf cfg e stage page other) : flushLevels cfg e stage vpnMatch = true := by
  rcases leaf with ⟨x, level, size, contains⟩
  rw [flushLevels, anyLevel, List.any_eq_true]
  refine ⟨x, List.mem_range.mpr level, ?_⟩
  rw [upperMatch_of_contains compares contains, Bool.true_and, Bool.or_eq_true,
    decide_eq_true_eq]
  exact size

/-- A NAPOT page exists only in the page tables of Sv39, and the hypervisor extension has none. -/
def PlainNapot (cfg : Cfg) : Prop :=
  cfg.svnapotEn = true → cfg.isXlen64 = true ∧ cfg.rvh = false

theorem flushAddrMatches_of_mapsVirtual (plain : PlainNapot cfg)
    (maps : MapsVirtual cfg e i.vaddrToBeFlushed) : flushAddrMatches cfg i e = true := by
  have page : slice i.vaddrToBeFlushed 12 (indexBits cfg) =
      slice (i.vaddrToBeFlushed / 2 ^ 12) 0 (indexBits cfg) := slice_of_div le_rfl
  rw [flushAddrMatches, Bool.or_eq_true]
  rcases maps with leaf | ⟨napot, contains⟩
  · refine Or.inl (flushLevels_of_ofLeaf ?_ leaf)
    intro y level same
    rw [page, vpnSlice_slice level, vpnSlice_slice level] at same
    rw [vaddrVpnMatch, decide_eq_true_eq, slice_of_div (Nat.le_add_right 12 _),
      Nat.add_sub_cancel_left]
    exact same.symm
  · refine Or.inr ?_
    rcases plain ((Bool.and_eq_true _ _).mp napot).2 with ⟨wide, first⟩
    have length : cfg.vpnLen = indexBits cfg := by
      simp [indexBits, Cfg.vpnLen, Cfg.vpnWidth, Cfg.ptLevels, wide, first]
    have indices : 3 * cfg.vpnWidth = indexBits cfg := by
      simp [indexBits, Cfg.vpnLen, Cfg.vpnWidth, Cfg.ptLevels, wide, first]
    rw [flushAddrNapotMatch, napot, Bool.true_and, decide_eq_true_eq, length, indices, clearLow,
      clearLow, contains]

theorem fenceMatches_of_named (plain : PlainNapot cfg) {same : Bool} (here : same = true)
    (asid : f.asid = i.asidToBeFlushed) (vaddr : f.vaddr = i.vaddrToBeFlushed)
    (named : Named cfg f e) : fenceMatches cfg i e same = true := by
  rcases named with ⟨maps, space⟩
  rw [asid] at space
  rw [vaddr] at maps
  simp only [fenceMatches, here]
  by_cases anyAsid : i.asidToBeFlushed = 0
  · by_cases anyVaddr : i.vaddrToBeFlushed = 0
    · simp [anyAsid, anyVaddr]
    · simp [anyAsid, anyVaddr, flushAddrMatches_of_mapsVirtual plain (maps anyVaddr)]
  · rcases space anyAsid with ⟨own, nonglobal⟩
    by_cases anyVaddr : i.vaddrToBeFlushed = 0
    · simp [anyVaddr, own, nonglobal]
    · simp [anyVaddr, own, nonglobal, flushAddrMatches_of_mapsVirtual plain (maps anyVaddr)]

theorem flushGvmaMatches_of_required (stage : e.vStEnbl.g = true)
    (maps : i.gpaddrToBeFlushed ≠ 0 → MapsGuest cfg e i.gpaddrToBeFlushed)
    (space : i.vmidToBeFlushed ≠ 0 → i.vmidToBeFlushed = e.vmid) :
    flushGvmaMatches cfg i e = true := by
  have found (named : i.gpaddrToBeFlushed ≠ 0) :
      flushLevels cfg e 1 (gpaddrVpnMatch cfg i e) = true := by
    refine flushLevels_of_ofLeaf ?_ (maps named)
    intro y _ same
    rw [gpaddrVpnMatch, decide_eq_true_eq, slice_of_div (Nat.le_add_right 12 _),
      Nat.add_sub_cancel_left]
    exact same.symm
  simp only [flushGvmaMatches, stage, Bool.true_and]
  by_cases anyVmid : i.vmidToBeFlushed = 0
  · by_cases anyGpaddr : i.gpaddrToBeFlushed = 0
    · simp [anyVmid, anyGpaddr]
    · simp [anyVmid, anyGpaddr, found anyGpaddr]
  · by_cases anyGpaddr : i.gpaddrToBeFlushed = 0
    · simp [anyGpaddr, space anyVmid]
    · simp [anyGpaddr, space anyVmid, found anyGpaddr]

theorem invalidates_of_required (plain : PlainNapot cfg) (fence : fenceOf cfg i = some f)
    (required : Required cfg f e) : invalidates cfg i e = true := by
  simp only [fenceOf] at fence
  rw [invalidates]
  split at fence
  · rename_i flush
    rw [if_pos flush]
    have same := Option.some.inj fence
    subst same
    rcases required with ⟨mode, named⟩
    have outside : (!e.vStEnbl.v || !cfg.rvh) = true := by
      cases virtual : cfg.rvh with
      | true => simp [mode virtual]
      | false => simp
    rw [flushMatches, outside, Bool.true_and]
    exact fenceMatches_of_named plain rfl rfl rfl named
  · rename_i other
    rw [if_neg other]
    split at fence
    · rename_i vvma
      rw [if_pos vvma]
      have same := Option.some.inj fence
      subst same
      rcases required with ⟨virtual, first, machine, named⟩
      rw [flushVvmaMatches, virtual, first, Bool.true_and, Bool.true_and]
      refine fenceMatches_of_named plain ?_ rfl rfl named
      cases second : e.vStEnbl.g with
      | true => simpa using machine second
      | false => simp
    · rename_i other
      rw [if_neg other]
      split at fence
      · rename_i gvma
        have same := Option.some.inj fence
        subst same
        rcases required with ⟨stage, maps, space⟩
        rw [gvma, Bool.true_and]
        exact flushGvmaMatches_of_required stage maps space
      · contradiction

theorem flushes_eq : flushes cfg i = (fenceOf cfg i).isSome := by
  simp only [flushes, fenceOf]
  split
  · rename_i flush
    simp [flush]
  · rename_i calm
    split
    · rename_i vvma
      simp [vvma]
    · rename_i other
      split
      · rename_i gvma
        simp [gvma]
      · rename_i none
        simp [calm, other, none]

end Cva6Hpd.Mmu.Tlb

namespace Cva6Hpd.Mmu.Unit

open Hw (Machine)
open Common (TcSram)

/-! ## The history of the fences -/

/-- Where a translation comes from. -/
structure Origin where
  /-- The oldest walk whose request was read. -/
  walk : Nat
  /-- The cycle of the last lookup. -/
  lookup : Nat
deriving DecidableEq

/-- A fence in the history. -/
structure PastFence where
  fence : Tlb.Fence
  /-- The walks that were started before. -/
  walks : Nat
  /-- The cycle of the fence. -/
  time : Nat
deriving DecidableEq

structure FenceHistory (cfg : UnitCfg) where
  walk : Ptw.History
  /-- The oldest walk whose request the current walk has read. -/
  oldest : Nat
  time : Nat
  fences : List PastFence
  labels : Labels cfg Origin

variable {cfg : UnitCfg} (s : State cfg) (i : Input) (h : FenceHistory cfg)

/-- The fence that the buffers execute. -/
def fence (cfg : UnitCfg) : Option Tlb.Fence :=
  Tlb.fenceOf cfg.toCfg (itlbInput cfg i SharedTlb.noUpdate)

/-- The walk whose request the word in the input register of the walker answers. -/
def answered : Nat :=
  match h.walk.source with
  | some request => request.walk
  | none => 0

/-- The origin of what the walker installs. -/
def walkedOrigin : Origin := ⟨min h.oldest (answered h), h.time⟩

/-- The origin of what a hit in the shared buffer gives: it was looked up in the cycle before. -/
def lookedOrigin (origin : Origin) : Origin := ⟨origin.walk, h.time - 1⟩

def recordFences : FenceHistory cfg where
  walk := Ptw.record cfg.toCfg s.ptw (walkInput cfg s i) h.walk
  oldest :=
    if Ptw.starts cfg.toCfg s.ptw (walkInput cfg s i) then h.walk.walks + 1
    else if Ptw.looks s.ptw then min h.oldest (answered h)
    else h.oldest
  time := h.time + 1
  fences :=
    match fence i cfg with
    | some fence => ⟨fence, h.walk.walks, h.time⟩ :: h.fences
    | none => h.fences
  labels := h.labels.step s i (walkedOrigin h) (lookedOrigin h)

/-- The unit with the history of its fences. -/
def fencing (cfg : UnitCfg) (powerUp : Fin 2 → TcSram (2 ^ cfg.sharedTlbBits) SharedTlb.Row) :
    Machine (State cfg × FenceHistory cfg) Input :=
  (machine cfg powerUp).withHistory
    ⟨Ptw.History.initial, 0, 0, [], Labels.initial powerUp ⟨0, 0⟩⟩ recordFences

/-! ## Completeness -/

/-- The origin is later than the fence. -/
def After (past : PastFence) (origin : Origin) : Prop :=
  past.walks < origin.walk ∧ past.time < origin.lookup

instance (past : PastFence) (origin : Origin) : Decidable (After past origin) :=
  inferInstanceAs (Decidable (_ ∧ _))

/-- What can hit was read after every fence that requires it to be invalidated. -/
structure Complete (c : State cfg × FenceHistory cfg) (i : Input) : Prop where
  itlb : ∀ k, (c.1.itlb.entries k).valid = true → ∀ past ∈ c.2.fences,
    Tlb.Required cfg.toCfg past.fence (c.1.itlb.entries k) → After past (c.2.labels.itlb k)
  dtlb : ∀ k, (c.1.dtlb.entries k).valid = true → ∀ past ∈ c.2.fences,
    Tlb.Required cfg.toCfg past.fence (c.1.dtlb.entries k) → After past (c.2.labels.dtlb k)
  shared : cfg.useSharedTlb = true → (c.1.shared.itlbReqQ || c.1.shared.dtlbReqQ) = true →
    ∀ way, SharedTlb.wayHits c.1.shared (sharedInput cfg c.1 i) way = true →
      ∀ past ∈ c.2.fences, After past (lookedOrigin c.2 (c.2.labels.ways way).rdataQ)

/-- A lookup of a row with a valid way comes in no cycle of a fence, and the memory of the way
presents the row, whatever is written in the cycle. -/
def Undisturbed (s : State cfg) (i : Input) : Prop :=
  cfg.useSharedTlb = true → SharedTlb.lookup (sharedInput cfg s i) cfg = true →
    ∀ way, s.shared.sharedTagValidQ (SharedTlb.tagRdAddr (sharedInput cfg s i) cfg) way = true →
      fence i cfg = none ∧
        ((step cfg s i).shared.ways way).rAddrQ = SharedTlb.tagRdAddr (sharedInput cfg s i) cfg

instance (s : State cfg) (i : Input) : Decidable (Undisturbed s i) :=
  inferInstanceAs (Decidable (_ → _ → _))

/-- The cycles of a run: the cache answers what it has granted, a request that was abandoned in
a flush before the next one is granted, and lookups are undisturbed. -/
structure Orderly (c : State cfg × FenceHistory cfg) (i : Input) : Prop where
  walk : Ptw.Regular (c.1.ptw, c.2.walk) (walkInput cfg c.1 i)
  lookup : Undisturbed c.1 i

instance (c : State cfg × FenceHistory cfg) (i : Input) : Decidable (Orderly c i) :=
  decidable_of_iff (_ ∧ _) ⟨fun ⟨walk, lookup⟩ => ⟨walk, lookup⟩, fun ⟨walk, lookup⟩ =>
    ⟨walk, lookup⟩⟩

/-! ## The invariant -/

section Ordered

variable {s i h}

/-- What the fences of the past say of the buffers and of the walker. -/
structure Ordered (s : State cfg) (h : FenceHistory cfg) : Prop where
  walking : Ptw.Walking cfg.toCfg s.ptw h.walk
  oldest : h.oldest = h.walk.walks
  past : ∀ past ∈ h.fences, past.time < h.time ∧
    (past.walks < h.walk.walks ∨ past.walks = h.walk.walks ∧ h.walk.aborted = true)
  itlb : ∀ k, (s.itlb.entries k).valid = true → ∀ past ∈ h.fences,
    Tlb.Required cfg.toCfg past.fence (s.itlb.entries k) → After past (h.labels.itlb k)
  dtlb : ∀ k, (s.dtlb.entries k).valid = true → ∀ past ∈ h.fences,
    Tlb.Required cfg.toCfg past.fence (s.dtlb.entries k) → After past (h.labels.dtlb k)
  rows : ∀ way row, s.shared.sharedTagValidQ row way = true → ∀ past ∈ h.fences,
    past.walks < ((h.labels.ways way).sram row).walk
  ports : ∀ way, (h.labels.ways way).rAddrQ = (s.shared.ways way).rAddrQ
  pending : cfg.useSharedTlb = true → (s.shared.itlbReqQ || s.shared.dtlbReqQ) = true →
    ∀ way, s.shared.sharedTagValid way = true → ∀ past ∈ h.fences,
      After past (lookedOrigin h (h.labels.ways way).rdataQ)

theorem ordered_reset (powerUp : Fin 2 → TcSram (2 ^ cfg.sharedTlbBits) SharedTlb.Row) :
    Ordered (fencing cfg powerUp).reset.1 (fencing cfg powerUp).reset.2 where
  walking := Ptw.walking_reset cfg.toCfg
  oldest := rfl
  past _ member := absurd member List.not_mem_nil
  itlb _ _ _ member := absurd member List.not_mem_nil
  dtlb _ _ _ member := absurd member List.not_mem_nil
  rows _ _ _ _ member := absurd member List.not_mem_nil
  ports _ := rfl
  pending _ _ _ _ _ member := absurd member List.not_mem_nil

/-! ### Fences -/

/-- Both first-level buffers execute the fence. -/
theorem fence_eq_itlb (update : TlbUpdate) :
    fence i cfg = Tlb.fenceOf cfg.toCfg (itlbInput cfg i update) :=
  rfl

theorem fence_eq_dtlb (update : TlbUpdate) :
    fence i cfg = Tlb.fenceOf cfg.toCfg (dtlbInput cfg i update) :=
  rfl

theorem flushes_shared : SharedTlb.flushes (sharedInput cfg s i) = (fence i cfg).isSome := by
  rw [fence, ← Tlb.flushes_eq]
  simp only [SharedTlb.flushes, sharedInput, Tlb.flushes, itlbInput, flushTlbVvma, flushTlbGvma]
  cases cfg.rvh <;> simp

theorem flush_of_fence (fenced : (fence i cfg).isSome = true) :
    (walkInput cfg s i).flush = true := by
  rw [← flushes_shared (s := s)] at fenced
  simp only [SharedTlb.flushes, sharedInput, Bool.or_eq_true] at fenced
  simp only [walkInput, ptwInput, flush, Bool.or_eq_true]
  rcases fenced with (tlb | vvma) | gvma
  · exact Or.inl (Or.inl (Or.inr tlb))
  · exact Or.inl (Or.inr vvma)
  · exact Or.inr gvma

theorem mem_fences {past : PastFence} (member : past ∈ (recordFences s i h).fences) :
    past ∈ h.fences ∨
      fence i cfg = some past.fence ∧ past.walks = h.walk.walks ∧ past.time = h.time := by
  simp only [recordFences] at member
  split at member
  · rename_i given fenced
    rcases List.mem_cons.mp member with new | old
    · subst new
      exact Or.inr ⟨fenced, rfl, rfl⟩
    · exact Or.inl old
  · exact Or.inl member

theorem mem_fences_of_none {past : PastFence} (calm : fence i cfg = none)
    (member : past ∈ (recordFences s i h).fences) : past ∈ h.fences := by
  rcases mem_fences member with old | ⟨fenced, _⟩
  · exact old
  · rw [calm] at fenced
    contradiction

/-! ### The walker -/

theorem starts_of_flush {cfg : Cfg} {s : Ptw.State} {i : Ptw.Input} (flush : i.flush = true) :
    Ptw.starts cfg s i = false := by
  rw [Ptw.starts]
  by_cases state : s.stateQ = .idle
  · simp [state, Ptw.step_of_idle cfg i state, flush]
  · simp [state]

theorem Ordered.past_step (ordered : Ordered s h) (past : PastFence)
    (member : past ∈ (recordFences s i h).fences) :
    past.time < (recordFences s i h).time ∧
      (past.walks < (recordFences s i h).walk.walks ∨
        past.walks = (recordFences s i h).walk.walks ∧
          (recordFences s i h).walk.aborted = true) := by
  simp only [recordFences, Ptw.record]
  rcases mem_fences member with old | ⟨fenced, walks, time⟩
  · rcases ordered.past past old with ⟨earlier, before⟩
    refine ⟨Nat.lt_succ_of_lt earlier, ?_⟩
    cases starts : Ptw.starts cfg.toCfg s.ptw (walkInput cfg s i) with
    | true =>
        simp only [if_true]
        rcases before with less | ⟨same, _⟩ <;> exact Or.inl (by omega)
    | false =>
        simp only [Bool.false_eq_true, if_false]
        rcases before with less | ⟨same, aborted⟩
        · exact Or.inl less
        · exact Or.inr ⟨same, by simp [aborted]⟩
  · have flush : (walkInput cfg s i).flush = true := flush_of_fence (by simp [fenced])
    refine ⟨by omega, Or.inr ?_⟩
    simp only [starts_of_flush flush, Bool.false_eq_true, if_false, flush, Bool.or_true, and_true]
    exact walks

theorem Ordered.answered (ordered : Ordered s h) (looks : Ptw.looks s.ptw = true) :
    Unit.answered h = h.walk.walks := by
  simp only [Ptw.looks, Bool.and_eq_true, decide_eq_true_eq] at looks
  rw [Unit.answered, ordered.walking.paired.taken looks.1 looks.2]
  rfl

theorem Ordered.oldest_step (ordered : Ordered s h) :
    (recordFences s i h).oldest = (recordFences s i h).walk.walks := by
  simp only [recordFences, Ptw.record]
  split
  · rfl
  · split
    · rename_i looks
      rw [ordered.answered looks, ordered.oldest, Nat.min_self]
    · exact ordered.oldest

theorem Ordered.walked (ordered : Ordered s h) (valid : (walkUpdate cfg s i).valid = true)
    (past : PastFence) (member : past ∈ h.fences) : After past (walkedOrigin h) := by
  have looks := (Ptw.of_update valid).1
  rcases ordered.past past member with ⟨earlier, before⟩
  refine ⟨?_, earlier⟩
  rw [walkedOrigin, ordered.answered looks, ordered.oldest, Nat.min_self]
  rcases before with less | ⟨_, aborted⟩
  · exact less
  · simp only [Ptw.looks, Bool.and_eq_true, decide_eq_true_eq] at looks
    exact absurd looks.1 (ordered.walking.paired.aborted aborted).1

/-! ### The shared buffer -/

theorem Ordered.rows_step (ordered : Ordered s h) (way : Fin 2) (row : SharedTlb.Index cfg)
    (valid : (step cfg s i).shared.sharedTagValidQ row way = true) (past : PastFence)
    (member : past ∈ (recordFences s i h).fences) :
    past.walks < (((recordFences s i h).labels.ways way).sram row).walk := by
  rcases SharedTlb.sharedTagValidQ_step valid with ⟨calm, source⟩
  rw [flushes_shared, Option.isSome_eq_false_iff, Option.isNone_iff_eq_none] at calm
  have old := mem_fences_of_none calm member
  simp only [recordFences, Labels.step]
  rw [TcSram.step_sram]
  split
  · rename_i written
    simp only [SharedTlb.port, SharedTlb.writes, Bool.and_eq_true] at written
    exact (ordered.walked written.2.1.1.2 past old).1
  · rename_i kept
    rcases source with ⟨updates, place, turn⟩ | before
    · refine absurd ?_ kept
      have writes : SharedTlb.writes (sharedInput cfg s i) = true := by
        rw [SharedTlb.writes, flushes_shared, calm, updates]
        rfl
      simp [SharedTlb.port, writes, ← turn, place]
    · exact ordered.rows way row before past old

theorem Ordered.ports_step (ordered : Ordered s h) (way : Fin 2) :
    ((recordFences s i h).labels.ways way).rAddrQ = ((step cfg s i).shared.ways way).rAddrQ := by
  simp only [recordFences, Labels.step, Unit.step, SharedTlb.step]
  rw [TcSram.step_rAddrQ, TcSram.step_rAddrQ, ordered.ports way]
  rfl

theorem Ordered.pending_step (ordered : Ordered s h) (undisturbed : Undisturbed s i)
    (shared : cfg.useSharedTlb = true)
    (pending : ((step cfg s i).shared.itlbReqQ || (step cfg s i).shared.dtlbReqQ) = true)
    (way : Fin 2) (valid : (step cfg s i).shared.sharedTagValid way = true) (past : PastFence)
    (member : past ∈ (recordFences s i h).fences) :
    After past
      (lookedOrigin (recordFences s i h) ((recordFences s i h).labels.ways way).rdataQ) := by
  rcases undisturbed shared pending way valid with ⟨calm, presents⟩
  have old := mem_fences_of_none calm member
  refine ⟨?_, (ordered.past past old).1⟩
  have port := ordered.ports_step (i := i) way
  rw [presents] at port
  simp only [lookedOrigin]
  have row := ordered.rows way _ valid past old
  rw [← port] at row
  simp only [recordFences, Labels.step] at row ⊢
  rw [TcSram.step_rdataQ]
  exact row

/-! ### The first level -/

theorem Ordered.update (ordered : Ordered s h)
    (request : (s.shared.itlbReqQ || s.shared.dtlbReqQ) = true)
    (valid : (SharedTlb.firstLevelUpdate s.shared (sharedInput cfg s i)).valid = true)
    (past : PastFence) (member : past ∈ h.fences) :
    After past (h.labels.update s i (walkedOrigin h) (lookedOrigin h)) := by
  rcases firstLevelUpdate_cases (walkedOrigin h) (lookedOrigin h) h.labels valid with
    ⟨way, shared, hit, _, label⟩ | ⟨walks, _, label⟩
  · rw [label]
    have hits := SharedTlb.valid_of_wayHits (SharedTlb.wayHits_of_hitWay hit)
    exact ordered.pending shared request way hits past member
  · rw [label]
    exact ordered.walked walks past member

/-- An entry of a first-level buffer after the cycle. -/
theorem after_of_step {n : Nat} {buffer : Tlb.State n} {j : Tlb.Input} {k : Fin n}
    {label updated : Origin} (plain : Tlb.PlainNapot cfg.toCfg)
    (fenced : fence i cfg = Tlb.fenceOf cfg.toCfg j)
    (kept : (buffer.entries k).valid = true → ∀ past ∈ h.fences,
      Tlb.Required cfg.toCfg past.fence (buffer.entries k) → After past label)
    (written : Tlb.writes cfg.toCfg buffer j k = true → ∀ past ∈ h.fences, After past updated)
    (valid : ((Tlb.step cfg.toCfg buffer j).entries k).valid = true) (past : PastFence)
    (member : past ∈ (recordFences s i h).fences)
    (required : Tlb.Required cfg.toCfg past.fence ((Tlb.step cfg.toCfg buffer j).entries k)) :
    After past (if Tlb.writes cfg.toCfg buffer j k then updated else label) := by
  rw [Tlb.entries_step] at valid required
  by_cases writes : Tlb.writes cfg.toCfg buffer j k = true
  · rw [if_pos writes]
    have calm : fence i cfg = none := by
      have given := writes
      simp only [Tlb.writes, Tlb.flushes_eq, Bool.and_eq_true, Bool.not_eq_true'] at given
      rw [fenced]
      exact Option.isNone_iff_eq_none.mp (Option.isSome_eq_false_iff.mp given.1.1.1)
    exact written writes past (mem_fences_of_none calm member)
  · rw [if_neg writes]
    rw [if_neg writes] at valid required
    split at valid
    · contradiction
    · rename_i survives
      rw [if_neg survives] at required
      rcases mem_fences member with old | ⟨now, _⟩
      · exact kept valid past old required
      · rw [fenced] at now
        exact absurd (Tlb.invalidates_of_required plain now required) survives

theorem Ordered.itlb_step (ordered : Ordered s h) (plain : Tlb.PlainNapot cfg.toCfg)
    (k : Fin cfg.instrTlbEntries) (valid : ((step cfg s i).itlb.entries k).valid = true)
    (past : PastFence) (member : past ∈ (recordFences s i h).fences)
    (required : Tlb.Required cfg.toCfg past.fence ((step cfg s i).itlb.entries k)) :
    After past ((recordFences s i h).labels.itlb k) := by
  refine after_of_step plain (fence_eq_itlb _) (ordered.itlb k) ?_ valid past member required
  intro writes
  simp only [Tlb.writes, Bool.and_eq_true] at writes
  rcases SharedTlb.itlbUpdate_valid writes.1.1.2 with ⟨request, same⟩
  have updates := writes.1.1.2
  simp only [itlbInput, updateItlb, same] at updates
  exact ordered.update (by simp [request]) updates

theorem Ordered.dtlb_step (ordered : Ordered s h) (plain : Tlb.PlainNapot cfg.toCfg)
    (k : Fin cfg.dataTlbEntries) (valid : ((step cfg s i).dtlb.entries k).valid = true)
    (past : PastFence) (member : past ∈ (recordFences s i h).fences)
    (required : Tlb.Required cfg.toCfg past.fence ((step cfg s i).dtlb.entries k)) :
    After past ((recordFences s i h).labels.dtlb k) := by
  refine after_of_step plain (fence_eq_dtlb _) (ordered.dtlb k) ?_ valid past member required
  intro writes
  simp only [Tlb.writes, Bool.and_eq_true] at writes
  rcases SharedTlb.dtlbUpdate_valid writes.1.1.2 with ⟨request, same⟩
  have updates := writes.1.1.2
  simp only [dtlbInput, updateDtlb, same] at updates
  exact ordered.update (by simp [request]) updates

theorem Ordered.step (ordered : Ordered s h) (plain : Tlb.PlainNapot cfg.toCfg)
    (orderly : Orderly (s, h) i) : Ordered (step cfg s i) (recordFences s i h) where
  walking := Ptw.walking_step ordered.walking orderly.walk
  oldest := ordered.oldest_step
  past := ordered.past_step
  itlb := ordered.itlb_step plain
  dtlb := ordered.dtlb_step plain
  rows := ordered.rows_step
  ports := ordered.ports_step
  pending := ordered.pending_step orderly.lookup

theorem Ordered.complete (ordered : Ordered s h) (i : Input) : Complete (s, h) i where
  itlb := ordered.itlb
  dtlb := ordered.dtlb
  shared shared pending way hit :=
    ordered.pending shared pending way (SharedTlb.valid_of_wayHits hit)

end Ordered

/-! ## Runs -/

/-- When no lookup of a valid row comes in the cycle of a fence or is disturbed by a write, and the
response to an abandoned request comes in time, fences are complete, whatever is in flight. -/
theorem complete_of_orderly (cfg : UnitCfg) (plain : Tlb.PlainNapot cfg.toCfg)
    (powerUp : Fin 2 → TcSram (2 ^ cfg.sharedTlbBits) SharedTlb.Row) (inputs : List Input)
    (orderly : (fencing cfg powerUp).RunAlong Orderly inputs) :
    (fencing cfg powerUp).RunAlong Complete inputs :=
  Machine.Along.of_invariant (fun c : State cfg × FenceHistory cfg => Ordered c.1 c.2)
    (fun _ _ ordered orderly => ordered.step plain orderly)
    (fun _ input ordered _ => ordered.complete input) (ordered_reset powerUp) orderly

section Runs

/-- A load has walked to a page; a fetch of it misses in the cycle of a fence of everything. -/
def fencedLookup : List Input :=
  readablePage ++ [Input.quiet, { Input.fetch with fence := some .sfenceVma }, Input.fetch]

/-- The lookup of the cycle of the fence still hits, and its entry is in the instruction buffer
afterwards. -/
theorem not_complete_lookup :
    (fencing sv32 blank).RunAlong
        (fun c i => Ptw.Regular (c.1.ptw, c.2.walk) (walkInput sv32 c.1 i))
        (fencedLookup ++ [Input.quiet]) ∧
      ¬(fencing sv32 blank).RunAlong Complete (fencedLookup ++ [Input.quiet]) := by
  constructor
  · decide +kernel
  · intro complete
    have last := ((fencing sv32 blank).runAlong_concat _ fencedLookup Input.quiet).mp complete
    have later := last.2.itlb ⟨0, by decide⟩ (by decide +kernel) ⟨⟨.vma, 0, 0, 0, 0, 0⟩, 1, 6⟩
      (by decide +kernel)
      ⟨fun virtual => absurd virtual (by decide), fun some => absurd rfl some,
        fun some => absurd rfl some⟩
    revert later
    decide +kernel

/-- A load walks to a page, the fence comes, and the load walks again. -/
def fencedLoad : List Input :=
  readablePage ++ [Input.load, Input.load, { Input.quiet with fence := some .sfenceVma }] ++
    readablePage ++ [Input.load, Input.load]

theorem complete_of_orderly_load :
    ((fencing sv32 blank).run fencedLoad).2.fences ≠ [] ∧
      (((fencing sv32 blank).run fencedLoad).1.dtlb.entries ⟨0, by decide⟩).valid = true ∧
        (fencing sv32 blank).RunAlong Complete fencedLoad :=
  ⟨by decide +kernel, by decide +kernel,
    complete_of_orderly sv32 (fun napot => absurd napot (by decide)) blank fencedLoad
      (by decide +kernel)⟩

end Runs

end Cva6Hpd.Mmu.Unit
