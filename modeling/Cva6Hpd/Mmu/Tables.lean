import Cva6Hpd.Mmu.Types

/-!
# What the walker makes of the tables

The events of a walk, as the walker produces them from the entries that it reads, compared with
the translation algorithm. The walker follows the algorithm but for two cases: a leaf with a
reserved N bit that permits the access is installed along with the error, and the A, D and U
bits of a pointer are not looked at.
-/

/-!
## The translation algorithm of the architecture

A virtual address is translated by reading one entry of each table from the root on. The first
leaf ends the walk; it must be legal, aligned to the size of its page, and permit the access.
Levels count down, the last table having level 0.
-/

namespace Cva6Hpd.Mmu

/-- `PTESIZE`. -/
def Cfg.pteSize (cfg : Cfg) : Nat := if cfg.isXlen64 then 8 else 4

/-- An access to be translated, and the tables that it finds. -/
structure Walk where
  vaddr : Nat
  /-- The page number of the root table. -/
  root : Nat
  isFetch : Bool
  isStore : Bool
  mxr : Bool
  /-- The physical memory protection allows the reads of the walk. -/
  allowAccess : Nat → Bool
  /-- The entry at a physical address. -/
  entryAt : Nat → Pte

namespace Walk

variable (cfg : Cfg) (w : Walk)

/-- `va.vpn[i]`. -/
def vpn (level : Nat) : Nat := slice w.vaddr (12 + cfg.vpnWidth * level) cfg.vpnWidth

/-- The address of the entry in the table at page `ppn`. -/
def entryAddress (ppn level : Nat) : Nat := ppn * 4096 + w.vpn cfg level * cfg.pteSize

/-- A leaf whose N bit stands for a page of 64 KiB. -/
def isNapot (level : Nat) (pte : Pte) : Bool :=
  cfg.svnapotEn && pte.n && decide (pte.ppn % 16 = 8) && decide (level = 0)

/-- Bits or encodings that are reserved are set: the reserved bits, a N bit that stands for no
page, the A, D and U bits of a pointer. -/
def isReserved (level : Nat) (pte : Pte) : Bool :=
  (cfg.isXlen64 && decide (pte.reserved ≠ 0))
    || (pte.n && !(pte.isLeaf && isNapot cfg level pte))
    || (!pte.isLeaf && (pte.a || pte.d || pte.u))

def isLegal (level : Nat) (pte : Pte) : Bool :=
  pte.v && !(!pte.r && pte.w) && !isReserved cfg level pte

/-- The leaf permits the access; the U bit is left to the hit. -/
def permits (pte : Pte) : Bool :=
  pte.a &&
    if w.isFetch then pte.x
    else (pte.r || (pte.x && w.mxr)) && (!w.isStore || (pte.w && pte.d))

/-- The page number of a superpage ends in zeros. -/
def isAligned (level : Nat) (pte : Pte) : Bool :=
  decide (pte.ppn % 2 ^ (cfg.vpnWidth * level) = 0)

/-- What the algorithm ends with; a page has the level of its leaf, the leaf, and whether some
entry on the way has its G bit set. -/
inductive Outcome where
  | page (level : Nat) (pte : Pte) (global : Bool)
  | pageFault
  | accessFault
deriving DecidableEq

/-- One entry; `further` is how the walk goes on behind a pointer. -/
def examine (level ppn : Nat) (global : Bool) (further : Pte → Outcome) : Outcome :=
  let address := w.entryAddress cfg ppn level
  if !w.allowAccess address then .accessFault
  else
    let pte := w.entryAt address
    if !isLegal cfg level pte then .pageFault
    else if pte.isLeaf then
      if w.permits pte && isAligned cfg level pte then .page level pte (global || pte.g)
      else .pageFault
    else further pte

/-- The walk from the table of a level at page `ppn`. -/
def translate : (level : Nat) → (ppn : Nat) → (global : Bool) → Outcome
  | 0, ppn, global => w.examine cfg 0 ppn global fun _ => .pageFault
  | level + 1, ppn, global =>
      w.examine cfg (level + 1) ppn global fun pte =>
        translate level pte.ppn (global || pte.g)

/-- The translation of the access. -/
def outcome : Outcome := w.translate cfg cfg.lastLevel w.root false

end Walk

end Cva6Hpd.Mmu

namespace Cva6Hpd.Mmu

/-- What a walk does towards the translation look-aside buffers and the pipeline. -/
inductive Event where
  | install (update : TlbUpdate)
  | pageFault
  | accessFault
deriving DecidableEq

/-! ## The walk of the tables -/

namespace Walk

variable (cfg : Cfg) (w : Walk) (asid : Nat)

/-- The entry that a leaf gives. -/
def installed (level : Nat) (pte : Pte) (global : Bool) : TlbUpdate where
  valid := true
  isNapot64k := isNapot cfg level pte
  isPage := fun x stage =>
    decide (x.val < cfg.lastLevel) && decide (stage = 0) && decide (cfg.lastLevel - level = x.val)
  vpn := slice w.vaddr 12 cfg.vpnLen
  asid := asid
  vmid := 0
  vStEnbl := ⟨false, false, false⟩
  content := pte.orGlobal global
  gContent := Pte.zero

/-- What the algorithm asks for: a page is installed, a fault is reported once. -/
def Outcome.events : Outcome → List Event
  | .page level pte global => [.install (w.installed cfg asid level pte global)]
  | .pageFault => [.pageFault]
  | .accessFault => [.accessFault]

/-- The walker rejects the entry before it looks for a leaf. -/
def isInvalid (pte : Pte) : Bool :=
  !pte.v || (!pte.r && pte.w) || (decide (pte.reserved ≠ 0) && cfg.isXlen64)
    || (!cfg.svnapotEn && pte.n) || (cfg.svnapotEn && !pte.isLeaf && pte.n)

/-- The N bit of a leaf stands for no page. -/
def badNapot (level : Nat) (pte : Pte) : Bool :=
  cfg.svnapotEn && pte.n && !isNapot cfg level pte

/-- What the walker does with one entry; `further` is what it does behind a pointer. -/
def look (level ppn : Nat) (global : Bool) (further : Pte → List Event) : List Event :=
  let address := w.entryAddress cfg ppn level
  if !w.allowAccess address then [.accessFault]
  else
    let pte := w.entryAt address
    if isInvalid cfg pte then [.pageFault]
    else if pte.isLeaf then
      if w.permits pte && isAligned cfg level pte then
        .install (w.installed cfg asid level pte (global || pte.g))
          :: if badNapot cfg level pte then [.pageFault] else []
      else [.pageFault]
    else further pte

/-- What the walker does from the table of a level on. -/
def behaves : (level : Nat) → (ppn : Nat) → (global : Bool) → List Event
  | 0, ppn, global => w.look cfg asid 0 ppn global fun _ => [.pageFault]
  | level + 1, ppn, global =>
      w.look cfg asid (level + 1) ppn global fun pte =>
        behaves level pte.ppn (global || pte.g)

/-- The tables from a level on give a page fault, whatever the A, D and U bits of pointers. -/
def Faults : (level : Nat) → (ppn : Nat) → Prop
  | level, ppn =>
      let address := w.entryAddress cfg ppn level
      let pte := w.entryAt address
      w.allowAccess address = true ∧
        (isInvalid cfg pte = true ∨
          pte.isLeaf = true ∧ (w.permits pte && isAligned cfg level pte) = false ∨
          isInvalid cfg pte = false ∧ pte.isLeaf = false ∧
            match level with
            | 0 => True
            | level + 1 => Faults level pte.ppn)

/-- No leaf with a bad N bit permits the access; where a pointer has its A, D or U bit set, the
tables behind it give a page fault anyway. -/
def Conforms : (level : Nat) → (ppn : Nat) → Prop
  | level, ppn =>
      let address := w.entryAddress cfg ppn level
      let pte := w.entryAt address
      w.allowAccess address = true → isInvalid cfg pte = false →
        if pte.isLeaf then
          (w.permits pte && isAligned cfg level pte && badNapot cfg level pte) = false
        else
          match level with
          | 0 => True
          | level + 1 =>
              if pte.a || pte.d || pte.u then w.Faults cfg level pte.ppn
              else Conforms level pte.ppn

/-! ### Where the walker agrees with the algorithm -/

section Agreement

variable {cfg w asid} {level ppn : Nat} {global : Bool} {pte : Pte}

/-- The algorithm rejects two kinds of entries that the walker does not. -/
theorem isLegal_eq :
    isLegal cfg level pte =
      (!isInvalid cfg pte && !(pte.isLeaf && badNapot cfg level pte)
        && !(!pte.isLeaf && (pte.a || pte.d || pte.u))) := by
  simp only [isLegal, isReserved, isInvalid, badNapot, isNapot]
  cases pte.v <;> cases pte.isLeaf <;> cases pte.n <;> cases cfg.svnapotEn <;>
    cases cfg.isXlen64 <;> simp [Bool.and_comm, Bool.and_assoc, Bool.and_left_comm]

theorem look_faults_iff {further : Pte → List Event} :
    w.look cfg asid level ppn global further = [.pageFault] ↔
      w.allowAccess (w.entryAddress cfg ppn level) = true ∧
        (isInvalid cfg (w.entryAt (w.entryAddress cfg ppn level)) = true ∨
          (w.entryAt (w.entryAddress cfg ppn level)).isLeaf = true ∧
            (w.permits (w.entryAt (w.entryAddress cfg ppn level)) &&
              isAligned cfg level (w.entryAt (w.entryAddress cfg ppn level))) = false ∨
          isInvalid cfg (w.entryAt (w.entryAddress cfg ppn level)) = false ∧
            (w.entryAt (w.entryAddress cfg ppn level)).isLeaf = false ∧
              further (w.entryAt (w.entryAddress cfg ppn level)) = [.pageFault]) := by
  simp only [look]
  generalize w.entryAt (w.entryAddress cfg ppn level) = pte
  cases allowed : w.allowAccess (w.entryAddress cfg ppn level) with
  | false => simp
  | true =>
      cases invalid : isInvalid cfg pte with
      | true => simp
      | false =>
          cases leaf : pte.isLeaf with
          | false => simp
          | true => cases granted : (w.permits pte && isAligned cfg level pte) <;> simp

theorem behaves_faults_iff :
    w.behaves cfg asid level ppn global = [.pageFault] ↔ w.Faults cfg level ppn := by
  induction level generalizing ppn global with
  | zero =>
      rw [behaves, look_faults_iff, Faults]
      simp
  | succ level inductionHypothesis =>
      rw [behaves, look_faults_iff, Faults]
      simp only [inductionHypothesis]

/-- One entry on which the walker and the algorithm agree. -/
theorem look_eq_iff {further : Pte → List Event} {asked : Pte → Outcome} :
    w.look cfg asid level ppn global further =
        (w.examine cfg level ppn global asked).events cfg w asid ↔
      (w.allowAccess (w.entryAddress cfg ppn level) = true →
        isInvalid cfg (w.entryAt (w.entryAddress cfg ppn level)) = false →
          if (w.entryAt (w.entryAddress cfg ppn level)).isLeaf then
            (w.permits (w.entryAt (w.entryAddress cfg ppn level)) &&
              isAligned cfg level (w.entryAt (w.entryAddress cfg ppn level)) &&
                badNapot cfg level (w.entryAt (w.entryAddress cfg ppn level))) = false
          else if (w.entryAt (w.entryAddress cfg ppn level)).a ||
              (w.entryAt (w.entryAddress cfg ppn level)).d ||
                (w.entryAt (w.entryAddress cfg ppn level)).u then
            further (w.entryAt (w.entryAddress cfg ppn level)) = [.pageFault]
          else
            further (w.entryAt (w.entryAddress cfg ppn level)) =
              (asked (w.entryAt (w.entryAddress cfg ppn level))).events cfg w asid) := by
  simp only [look, examine]
  generalize w.entryAt (w.entryAddress cfg ppn level) = pte
  cases allowed : w.allowAccess (w.entryAddress cfg ppn level) with
  | false => simp [Outcome.events]
  | true =>
      cases invalid : isInvalid cfg pte with
      | true => simp [isLegal_eq, invalid, Outcome.events]
      | false =>
          cases leaf : pte.isLeaf with
          | false =>
              cases marked : (pte.a || pte.d || pte.u) with
              | false => simp [isLegal_eq, invalid, leaf, marked]
              | true => simp [isLegal_eq, invalid, leaf, marked, Outcome.events]
          | true =>
              cases granted : (w.permits pte && isAligned cfg level pte) <;>
                cases bad : badNapot cfg level pte <;>
                  simp [isLegal_eq, invalid, leaf, bad, Outcome.events]

/-- The walker does what the algorithm asks for exactly in the tables that conform. -/
theorem behaves_eq_iff :
    w.behaves cfg asid level ppn global =
        (w.translate cfg level ppn global).events cfg w asid ↔ w.Conforms cfg level ppn := by
  induction level generalizing ppn global with
  | zero =>
      rw [behaves, translate, look_eq_iff, Conforms]
      simp [Outcome.events]
  | succ level inductionHypothesis =>
      rw [behaves, translate, look_eq_iff, Conforms]
      simp only [inductionHypothesis, behaves_faults_iff]

end Agreement

end Walk

end Cva6Hpd.Mmu
