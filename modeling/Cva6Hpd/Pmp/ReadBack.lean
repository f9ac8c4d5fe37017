import Cva6Hpd.Csr.Read
import Cva6Hpd.Csr.Regfile
import Cva6Hpd.Pmp.Decision

/-!
# The protection that software reads back

The address registers are read with a granularity of eight bytes: the last bit follows the mode of
the entry. The unit compares with the registers themselves. It decides by the rule on the values
that are read, unless an entry that it examines has a bound inside of eight bytes that the access
touches.
-/

namespace Cva6Hpd.Pmp

open Cva6Hpd.Csr (PmpAddrMode PmpCfg PrivLvl Cfg)

/-! ## The rule on the values that are read -/

/-- The bytes that an entry covers at a granularity of eight bytes. The last bit of an address
register does not take part in a range. -/
def granularRegion (previous address : Nat) : PmpAddrMode → Set Nat
  | .tor => Set.Ico (8 * (previous / 2)) (8 * (address / 2))
  | .napot => napotRegion address
  | .off => ∅
  | .na4 => ∅

/-- The configuration and address registers as they are read. -/
structure ReadBack where
  address : Nat → Nat
  conf : Nat → PmpCfg

namespace ReadBack

variable (r : ReadBack) (nrPmpEntries : Nat) (byte : Nat) (privLvl : PrivLvl)
  (accessType : Access)

/-- The entry covers the byte. -/
def Covers (k : Nat) : Prop :=
  byte ∈ granularRegion (if k = 0 then 0 else r.address (k - 1)) (r.address k) (r.conf k).addrMode

/-- The lowest entry that covers the byte. -/
def Decides (k : Nat) : Prop :=
  k < nrPmpEntries ∧ r.Covers byte k ∧ ∀ j < k, ¬r.Covers byte j

/-- The permission bits of the entry allow the access. -/
def Permits (k : Nat) : Prop :=
  match accessType with
  | .none => True
  | .read => (r.conf k).r = true
  | .write => (r.conf k).w = true
  | .exec => (r.conf k).x = true

/-- The rule for an access to the byte. -/
def Allowed : Prop :=
  (∃ k, r.Decides nrPmpEntries byte k ∧
      (privLvl = .m ∧ (r.conf k).locked = false ∨ r.Permits accessType k)) ∨
    (∀ k < nrPmpEntries, ¬r.Covers byte k) ∧ (privLvl = .m ∨ nrPmpEntries = 0)

/-- An access in machine mode for which the entry that decides is not locked, and the first locked
entry that also covers the byte does not permit it. -/
def Overridden : Prop :=
  privLvl = .m ∧ (∃ k, r.Decides nrPmpEntries byte k ∧ (r.conf k).locked = false) ∧
    ∃ k, (k < nrPmpEntries ∧ r.Covers byte k ∧ (r.conf k).locked = true ∧
      ∀ j < k, r.Covers byte j → (r.conf j).locked = false) ∧ ¬r.Permits accessType k

end ReadBack

/-! ## Entries that differ from what is read -/

/-- The address register as it is read in the mode. -/
def readAddress (address : Nat) (mode : PmpAddrMode) : Nat :=
  2 * (address / 2) + (mode.bits.getLsbD 1).toNat

/-- The entry matches an access to the address otherwise than its registers read. In a range, the
address is in the lower half of the eight bytes that an odd bound cuts in two; a naturally aligned
region of eight bytes reads as a larger one. -/
def Blurs (previous address : Nat) (mode : PmpAddrMode) (a : Nat) : Prop :=
  match mode with
  | .tor =>
      address % 2 = 1 ∧ a / 4 + 1 = address ∧ previous ≤ a / 4 ∨
        previous % 2 = 1 ∧ a / 4 + 1 = previous ∧ a / 8 < address / 2
  | .napot => address % 2 = 0 ∧ a ∈ napotRegion (address + 1) ∧ a / 8 ≠ address / 2
  | .off => False
  | .na4 => False

section Regions

variable {address : Nat}

theorem exists_encoding (address : Nat) : ∃ y g, address = 2 ^ (g + 1) * y + (2 ^ g - 1) := by
  induction address using Nat.strongRecOn with
  | ind address inductionHypothesis =>
      rcases Nat.even_or_odd' address with ⟨half, rfl | rfl⟩
      · exact ⟨half, 0, by omega⟩
      · obtain ⟨y, g, encoding⟩ := inductionHypothesis half (by omega)
        have upper : 2 ^ (g + 1 + 1) * y = 2 * (2 ^ (g + 1) * y) := by
          rw [Nat.pow_succ 2 (g + 1), Nat.mul_comm _ 2, Nat.mul_assoc]
        have lower : 2 ^ (g + 1) = 2 * 2 ^ g := by rw [Nat.pow_succ, Nat.mul_comm]
        have positive := Nat.two_pow_pos g
        exact ⟨y, g + 1, by omega⟩

/-- An aligned region is made of whole blocks of eight bytes. -/
theorem mem_napotRegion_iff {a : Nat} :
    a ∈ napotRegion address ↔
      ∃ y g, address = 2 ^ (g + 1) * y + (2 ^ g - 1) ∧ a / 8 / 2 ^ g = y := by
  rw [napotRegion, Set.mem_ofPred_eq]
  apply exists_congr
  intro y
  apply exists_congr
  intro g
  apply and_congr_right
  intro _
  have positive := Nat.two_pow_pos (g + 3)
  rw [Nat.div_div_eq_div_mul, show 8 * 2 ^ g = 2 ^ (g + 3) by rw [Nat.pow_add, Nat.mul_comm]]
  constructor
  · rintro ⟨lower, upper⟩
    exact Nat.div_eq_of_lt_le (by rwa [Nat.mul_comm]) (by rwa [Nat.mul_comm])
  · rintro rfl
    exact ⟨Nat.mul_div_le a _, Nat.lt_mul_div_succ a positive⟩

theorem mem_napotRegion_congr {a byte : Nat} (same : byte / 8 = a / 8) :
    byte ∈ napotRegion address ↔ a ∈ napotRegion address := by
  rw [mem_napotRegion_iff, mem_napotRegion_iff, same]

theorem mem_napotRegion_of_even {a : Nat} (even : address % 2 = 0) :
    a ∈ napotRegion address ↔ a / 8 = address / 2 := by
  rw [mem_napotRegion_iff]
  constructor
  · rintro ⟨y, g, encoding, rfl⟩
    cases g with
    | zero =>
        rw [Nat.pow_zero, Nat.div_one] at *
        omega
    | succ g =>
        have upper : 2 ^ (g + 1 + 1) * (a / 8 / 2 ^ (g + 1)) =
            2 * (2 ^ (g + 1) * (a / 8 / 2 ^ (g + 1))) := by
          rw [Nat.pow_succ 2 (g + 1), Nat.mul_comm _ 2, Nat.mul_assoc]
        have lower : 2 ^ (g + 1) = 2 * 2 ^ g := by rw [Nat.pow_succ, Nat.mul_comm]
        have positive := Nat.two_pow_pos g
        omega
  · intro same
    exact ⟨address / 2, 0, by omega, by rw [Nat.pow_zero, Nat.div_one, same]⟩

theorem mem_napotRegion_succ {a : Nat} (even : address % 2 = 0) (same : a / 8 = address / 2) :
    a ∈ napotRegion (address + 1) := by
  obtain ⟨y, g, encoding⟩ := exists_encoding (address + 1)
  refine mem_napotRegion_iff.mpr ⟨y, g, encoding, ?_⟩
  cases g with
  | zero => omega
  | succ g =>
      have upper : 2 ^ (g + 1 + 1) * y = 2 * (2 ^ (g + 1) * y) := by
        rw [Nat.pow_succ 2 (g + 1), Nat.mul_comm _ 2, Nat.mul_assoc]
      have lower : 2 ^ (g + 1) = 2 * 2 ^ g := by rw [Nat.pow_succ, Nat.mul_comm]
      have positive := Nat.two_pow_pos g
      have block : a / 8 = 2 ^ (g + 1) * y + (2 ^ g - 1) := by omega
      rw [block, Nat.mul_add_div (Nat.two_pow_pos _), Nat.div_eq_of_lt (by omega), Nat.add_zero]

/-- An entry matches as its registers read, unless it blurs the access. -/
theorem mem_region_iff_granular {previous a byte : Nat} (previousMode mode : PmpAddrMode)
    (same : byte / 8 = a / 8) :
    (a ∈ region previous address mode ↔
        byte ∈ granularRegion (readAddress previous previousMode) (readAddress address mode) mode) ↔
      ¬Blurs previous address mode a := by
  have halves (number : Nat) (mode : PmpAddrMode) : readAddress number mode / 2 = number / 2 := by
    rw [readAddress]
    have bit := (mode.bits.getLsbD 1).toNat_lt
    omega
  cases mode with
  | off => simp [region, granularRegion, Blurs]
  | na4 => simp [region, granularRegion, Blurs]
  | tor =>
      simp only [region, granularRegion, Blurs, Set.mem_Ico, halves]
      omega
  | napot =>
      have read : readAddress address .napot = 2 * (address / 2) + 1 := rfl
      simp only [region, granularRegion, Blurs, mem_napotRegion_congr same]
      rcases Nat.mod_two_eq_zero_or_one address with even | odd
      · have larger : readAddress address .napot = address + 1 := by omega
        rw [larger, mem_napotRegion_of_even even]
        constructor
        · rintro matched ⟨-, inside, outside⟩
          exact outside (matched.mpr inside)
        · intro sharp
          constructor
          · exact mem_napotRegion_succ even
          · intro inside
            by_contra outside
            exact sharp ⟨even, inside, outside⟩
      · have kept : readAddress address .napot = address := by omega
        rw [kept]
        apply iff_of_true Iff.rfl
        rintro ⟨even, -⟩
        omega

end Regions

/-! ## Reading the registers -/

/-- The register of `pmpcfg` that holds the entry. -/
def pmpcfgIndex (cfg : Cfg) (k : Nat) : Nat := if cfg.isXlen64 then k / 8 * 2 else k / 4

/-- What reading the registers of the entries returns. -/
def readBack {cfg : Cfg} (s : Csr.State cfg) (i : Csr.Input cfg) : ReadBack where
  address k := (Csr.readReg s i (.pmpaddr k)).data.toNat
  conf k := PmpCfg.ofByte ((Csr.readReg s i (.pmpcfg (pmpcfgIndex cfg k))).data.extractLsb'
    (8 * (k % (cfg.xlen / 8))) 8)

section Read

variable {cfg : Cfg} (s : Csr.State cfg) (i : Csr.Input cfg)

theorem ofByte_toByte (entry : PmpCfg) : PmpCfg.ofByte entry.toByte = entry := by
  obtain ⟨locked, reserved, addrMode, x, w, r⟩ := entry
  cases addrMode <;> revert locked reserved x w r <;> decide

theorem getLsbD_bytes {width : Nat} (byte : Nat → BitVec 8) (count : Nat) {position : Nat}
    (inside : position < width) :
    ((List.range count).foldl
      (fun word k => word ||| ((byte k).setWidth width <<< (8 * k))) 0).getLsbD position =
        (decide (position < 8 * count) && (byte (position / 8)).getLsbD (position % 8)) := by
  induction count with
  | zero => simp
  | succ count inductionHypothesis =>
      rw [List.range_succ, List.foldl_append, List.foldl_cons, List.foldl_nil, BitVec.getLsbD_or,
        inductionHypothesis, BitVec.getLsbD_shiftLeft, BitVec.getLsbD_setWidth,
        decide_eq_true inside, Bool.true_and,
        decide_eq_true (Nat.lt_of_le_of_lt (Nat.sub_le _ _) inside), Bool.true_and]
      rcases Nat.lt_trichotomy (position / 8) count with below | rfl | above
      · have small : position < 8 * count := by omega
        rw [decide_eq_true small, decide_eq_true (by omega : position < 8 * (count + 1)),
          Bool.not_true, Bool.false_and, Bool.or_false]
      · have rest : position - 8 * (position / 8) = position % 8 := by omega
        rw [decide_eq_false (by omega : ¬position < 8 * (position / 8)),
          decide_eq_true (by omega : position < 8 * (position / 8 + 1)), rest]
        rfl
      · rw [decide_eq_false (by omega : ¬position < 8 * count),
          decide_eq_false (by omega : ¬position < 8 * (count + 1)),
          BitVec.getLsbD_of_ge _ _ (by omega : 8 ≤ position - 8 * count)]
        rfl

/-- A byte of a configuration register is that of its entry. -/
theorem extractLsb'_word (pmp : Csr.Pmp cfg) (base : Nat) {k : Nat} (inside : k < cfg.xlen / 8) :
    (pmp.word base).extractLsb' (8 * k) 8 = (pmp.pmpcfg (base + k)).toByte := by
  ext bit small
  rw [BitVec.getElem_extractLsb', Csr.Pmp.word,
    getLsbD_bytes (fun k => (pmp.pmpcfg (base + k)).toByte) _ (by omega),
    decide_eq_true (by omega : 8 * k + bit < 8 * (cfg.xlen / 8)), Bool.true_and,
    show (8 * k + bit) / 8 = k by omega, show (8 * k + bit) % 8 = bit by omega,
    BitVec.getLsbD_eq_getElem]

theorem readBack_conf (k : Nat) : (readBack s i).conf k = s.pmp.pmpcfg k := by
  have read : (Csr.readReg s i (.pmpcfg (pmpcfgIndex cfg k))).data =
      s.pmp.word (pmpcfgIndex cfg k * 4) := by
    rw [Csr.readReg, Csr.ReadResult.within, if_pos]
    · rfl
    · rw [pmpcfgIndex]
      cases cfg.isXlen64 <;> simp
  have place : pmpcfgIndex cfg k * 4 + k % (cfg.xlen / 8) = k ∧
      k % (cfg.xlen / 8) < cfg.xlen / 8 := by
    rw [pmpcfgIndex, Cfg.xlen]
    cases cfg.isXlen64 with
    | true =>
        rw [if_pos rfl, if_pos rfl]
        omega
    | false =>
        rw [if_neg Bool.false_ne_true, if_neg Bool.false_ne_true]
        omega
  change PmpCfg.ofByte ((Csr.readReg s i (.pmpcfg (pmpcfgIndex cfg k))).data.extractLsb' _ _) = _
  rw [read, extractLsb'_word _ _ place.2, place.1, ofByte_toByte]

theorem readBack_address (k : Nat) :
    (readBack s i).address k =
      readAddress (s.pmp.pmpaddr k).toNat (s.pmp.pmpcfg k).addrMode := by
  have wide : 1 ≤ cfg.plen - 2 ∧ cfg.plen - 2 ≤ cfg.xlen := by
    rw [Cfg.plen, Cfg.xlen]
    split <;> decide
  have one : 2 ≤ 2 ^ (cfg.plen - 2) := Nat.pow_le_pow_right Nat.two_pos wide.1
  have bound := (s.pmp.pmpaddr k).isLt
  have bit := ((s.pmp.pmpcfg k).addrMode.bits.getLsbD 1).toNat_lt
  have flag : ((BitVec.ofBool ((s.pmp.pmpcfg k).addrMode.bits.getLsbD 1)).setWidth
      (cfg.plen - 2)).toNat = ((s.pmp.pmpcfg k).addrMode.bits.getLsbD 1).toNat := by
    rw [BitVec.toNat_setWidth, BitVec.toNat_ofBool]
    exact Nat.mod_eq_of_lt (by omega)
  have upper : ((s.pmp.pmpaddr k >>> 1) <<< 1).toNat = ((s.pmp.pmpaddr k).toNat / 2) <<< 1 := by
    rw [BitVec.toNat_shiftLeft, BitVec.toNat_ushiftRight, Nat.shiftRight_eq_div_pow, Nat.pow_one]
    apply Nat.mod_eq_of_lt
    rw [Nat.shiftLeft_eq]
    omega
  change (s.pmp.addressWord k).toNat = _
  rw [Csr.Pmp.addressWord, BitVec.toNat_setWidth_of_le wide.2, BitVec.toNat_or, flag, upper,
    ← Nat.shiftLeft_add_eq_or_of_lt (by omega), readAddress, Nat.shiftLeft_eq, Nat.pow_one,
    Nat.mul_comm]

end Read

/-! ## The decision -/

section Decision

variable {plen nrPmpEntries : Nat} {i : Input plen}

/-- The unit examines the entry. -/
def Examines (i : Input plen) (k : Nat) : Prop :=
  (i.privLvl ≠ .m ∨ (i.conf k).locked = true) ∧ ∀ j < k, ends i j = false

/-- No entry that the unit examines blurs the access. -/
def Sharp (nrPmpEntries : Nat) (i : Input plen) : Prop :=
  ∀ k < nrPmpEntries, Examines i k →
    ¬Blurs (confAddrPrev i k).toNat (i.confAddr k).toNat (i.conf k).addrMode i.addr.toNat

/-- The access with entries that cover everything or nothing. -/
def covering (covers : Nat → Prop) [DecidablePred covers] (i : Input plen) : Input plen :=
  { i with
    confAddr := fun _ => BitVec.allOnes _
    conf := fun k => { i.conf k with addrMode := if covers k then .napot else .off } }

theorem covers_covering {covers : Nat → Prop} [DecidablePred covers] {k : Nat} :
    Covers (covering covers i) k ↔ covers k := by
  by_cases covered : covers k
  · apply iff_of_true _ covered
    have full : (BitVec.allOnes (plen - 2)).toNat =
        2 ^ (plen - 2 + 1) * 0 + (2 ^ (plen - 2) - 1) := by
      rw [BitVec.toNat_allOnes, Nat.mul_zero, Nat.zero_add]
    simp only [Covers, covering, if_pos covered, region, napotRegion, Set.mem_ofPred_eq]
    refine ⟨0, plen - 2, full, Nat.zero_le _, ?_⟩
    rw [Nat.zero_add, Nat.mul_one]
    exact i.addr.isLt.trans_le (Nat.pow_le_pow_right Nat.two_pos (by omega))
  · apply iff_of_false _ covered
    simp only [Covers, covering, if_neg covered, region]
    exact Set.notMem_empty _

theorem find_congr {p q : Nat → Bool} (count : Nat)
    (agree : ∀ k < count, (∀ j < k, p j = false) → p k = q k) :
    (List.range count).find? p = (List.range count).find? q := by
  induction count with
  | zero => rfl
  | succ count inductionHypothesis =>
      have before := inductionHypothesis fun k inside => agree k (Nat.lt_succ_of_lt inside)
      rw [List.range_succ, List.find?_append, List.find?_append, ← before]
      cases found : (List.range count).find? p with
      | some k => rfl
      | none =>
          rw [List.find?_eq_none] at found
          have last := agree count (Nat.lt_succ_self count) fun j inside =>
            Bool.eq_false_iff.mpr (found j (List.mem_range.mpr inside))
          rw [List.find?_singleton, List.find?_singleton, last]

theorem allowO_covering {covers : Nat → Prop} [DecidablePred covers]
    (agree : ∀ k < nrPmpEntries, Examines i k → (Covers i k ↔ covers k)) :
    allowO nrPmpEntries (covering covers i) = allowO nrPmpEntries i := by
  have found : (List.range nrPmpEntries).find? (ends i) =
      (List.range nrPmpEntries).find? (ends (covering covers i)) := by
    apply find_congr
    intro k inside before
    by_cases examined : i.privLvl ≠ .m ∨ (i.conf k).locked = true
    · have same : hit i k = hit (covering covers i) k := by
        rw [Bool.eq_iff_iff, hit_iff, hit_iff, covers_covering, agree k inside ⟨examined, before⟩]
      rw [ends, ends, ← same]
      rfl
    · have passed : (decide (i.privLvl ≠ .m) || (i.conf k).locked) = false := by
        rw [Bool.eq_false_iff, ne_eq, Bool.or_eq_true, decide_eq_true_eq]
        exact examined
      rw [ends, passed, Bool.false_and]
      change false = ((decide (i.privLvl ≠ .m) || (i.conf k).locked) && _)
      rw [passed, Bool.false_and]
  rw [allowO, allowO, ← found]
  rfl

section Rule

variable {r : ReadBack} {byte k : Nat} [DecidablePred (r.Covers byte)]

theorem decides_covering :
    Decides nrPmpEntries (covering (r.Covers byte) i) k ↔ r.Decides nrPmpEntries byte k := by
  simp only [Decides, ReadBack.Decides, covers_covering]

theorem permits_covering (conf : ∀ k, r.conf k = i.conf k) :
    Permits (covering (r.Covers byte) i) k ↔ r.Permits i.accessType k := by
  simp only [Permits, ReadBack.Permits, conf]
  rfl

theorem allowed_covering (conf : ∀ k, r.conf k = i.conf k) :
    Allowed nrPmpEntries (covering (r.Covers byte) i) ↔
      r.Allowed nrPmpEntries byte i.privLvl i.accessType := by
  simp only [Allowed, ReadBack.Allowed, decides_covering, permits_covering conf, covers_covering,
    conf]
  rfl

theorem overridden_covering (conf : ∀ k, r.conf k = i.conf k) :
    Overridden nrPmpEntries (covering (r.Covers byte) i) ↔
      r.Overridden nrPmpEntries byte i.privLvl i.accessType := by
  simp only [Overridden, ReadBack.Overridden, FirstLocked, decides_covering,
    permits_covering conf, covers_covering, conf]
  rfl

end Rule

end Decision

/-! ## The registers of a run -/

/-- The unit with the registers of the core. -/
def unitInput {cfg : Cfg} (s : Csr.State cfg) (addr : BitVec cfg.plen) (accessType : Access)
    (privLvl : PrivLvl) : Input cfg.plen where
  addr := addr
  accessType := accessType
  privLvl := privLvl
  confAddr := s.pmp.pmpaddr
  conf := s.pmp.pmpcfg

theorem covers_iff_read {cfg : Cfg} (s : Csr.State cfg) (i : Csr.Input cfg)
    {addr : BitVec cfg.plen} {accessType : Access} {privLvl : PrivLvl} {byte k : Nat}
    (same : byte / 8 = addr.toNat / 8) :
    (Covers (unitInput s addr accessType privLvl) k ↔ (readBack s i).Covers byte k) ↔
      ¬Blurs (confAddrPrev (unitInput s addr accessType privLvl) k).toNat
        (s.pmp.pmpaddr k).toNat (s.pmp.pmpcfg k).addrMode addr.toNat := by
  have previous : (if k = 0 then 0 else (readBack s i).address (k - 1)) =
      readAddress (confAddrPrev (unitInput s addr accessType privLvl) k).toNat
        (if k = 0 then .off else (s.pmp.pmpcfg (k - 1)).addrMode) := by
    rw [confAddrPrev]
    by_cases first : k = 0
    · rw [if_pos first, if_pos first, if_pos first]
      simp [readAddress, PmpAddrMode.bits]
    · rw [if_neg first, if_neg first, if_neg first, readBack_address]
      rfl
  rw [ReadBack.Covers, previous, readBack_address, readBack_conf]
  exact mem_region_iff_granular _ _ same

/-- In every state that a run reaches, the unit decides about each byte of an aligned access by
the rule on the values that are read, if no entry that it examines blurs the access; a locked
entry that overrides the one that decides is the exception. -/
theorem decision_iff_read (cfg : Cfg) (pmpcfg : Nat → PmpCfg)
    (pmpaddr : Nat → BitVec (cfg.plen - 2)) (inputs : List (Csr.Input cfg)) (i : Csr.Input cfg)
    (addr : BitVec cfg.plen) (accessType : Access) (privLvl : PrivLvl) {size byte : Nat}
    (upTo : size ≤ 3) (aligned : addr.toNat % 2 ^ size = 0)
    (inside : addr.toNat ≤ byte ∧ byte < addr.toNat + 2 ^ size)
    (sharp : Sharp cfg.nrPmpEntries
      (unitInput ((Csr.machine cfg pmpcfg pmpaddr).run inputs) addr accessType privLvl)) :
    (allowO cfg.nrPmpEntries
          (unitInput ((Csr.machine cfg pmpcfg pmpaddr).run inputs) addr accessType privLvl) =
        true ↔
      (readBack ((Csr.machine cfg pmpcfg pmpaddr).run inputs) i).Allowed cfg.nrPmpEntries byte
        privLvl accessType) ↔
      ¬(readBack ((Csr.machine cfg pmpcfg pmpaddr).run inputs) i).Overridden cfg.nrPmpEntries byte
        privLvl accessType := by
  classical
  have same : byte / 8 = addr.toNat / 8 := by
    rcases Nat.le_iff_lt_or_eq.mp upTo with less | rfl
    · have four : size = 0 ∨ size = 1 ∨ size = 2 := by omega
      rcases four with rfl | rfl | rfl <;> omega
    · omega
  have conf : ∀ k, (readBack ((Csr.machine cfg pmpcfg pmpaddr).run inputs) i).conf k =
      (unitInput ((Csr.machine cfg pmpcfg pmpaddr).run inputs) addr accessType privLvl).conf k :=
    readBack_conf _ i
  have decision := allowO_covering fun k small examined =>
    (covers_iff_read _ i same).mpr (sharp k small examined)
  have rule := @allow_iff_rule _ cfg.nrPmpEntries
    (covering ((readBack ((Csr.machine cfg pmpcfg pmpaddr).run inputs) i).Covers byte)
      (unitInput ((Csr.machine cfg pmpcfg pmpaddr).run inputs) addr accessType privLvl))
  rwa [decision, allowed_covering conf, overridden_covering conf] at rule

/-! ## A range that ends at an odd bound -/

/-- A read of byte 8 in user mode, in a core that comes out of reset with ranges that end at even
bounds. -/
def resetUnit : Input Cfg.sv39.plen :=
  unitInput ((Csr.machine Cfg.sv39 (fun _ => PmpCfg.ofByte 0x0F#8) fun _ => 4).run []) 8 .read .u

theorem decision_iff_read_at_reset :
    (allowO 8 resetUnit = true ↔
      (readBack ((Csr.machine Cfg.sv39 (fun _ => PmpCfg.ofByte 0x0F#8) fun _ => 4).run [])
        (Csr.Input.quiet Cfg.sv39)).Allowed 8 15 .u .read) ↔
      ¬(readBack ((Csr.machine Cfg.sv39 (fun _ => PmpCfg.ofByte 0x0F#8) fun _ => 4).run [])
        (Csr.Input.quiet Cfg.sv39)).Overridden 8 15 .u .read := by
  apply @decision_iff_read Cfg.sv39 (fun _ => PmpCfg.ofByte 0x0F#8) (fun _ => 4) [] _ 8 .read .u
    3 15 (by decide) (by decide) (by decide)
  have even : ∀ k < 8, (confAddrPrev resetUnit k).toNat % 2 = 0 ∧
      (resetUnit.confAddr k).toNat % 2 = 0 ∧ (resetUnit.conf k).addrMode = .tor := by
    decide +kernel
  intro k inside _
  obtain ⟨lower, upper, mode⟩ := even k inside
  change ¬Blurs (confAddrPrev resetUnit k).toNat (resetUnit.confAddr k).toNat
    (resetUnit.conf k).addrMode resetUnit.addr.toNat
  rw [mode]
  rintro (⟨odd, -⟩ | ⟨odd, -⟩)
  · exact absurd (upper.symm.trans odd) (by decide)
  · exact absurd (lower.symm.trans odd) (by decide)

/-- The registers of a range that ends at byte 12, and reads as if it ended at byte 8. -/
def oddBound : List (Csr.Input Cfg.sv39) :=
  [Csr.Input.write Cfg.sv39 0x3b0 3, Csr.Input.write Cfg.sv39 0x3a0 0x0f]

/-- The unit allows user mode to read byte 8, which no range covers by what is read. -/
theorem decision_ne_read :
    allowO 8 (unitInput ((Csr.machine Cfg.sv39 (fun _ => PmpCfg.ofByte 0) 0).run oddBound) 8
        .read .u) = true ∧
      ¬(readBack ((Csr.machine Cfg.sv39 (fun _ => PmpCfg.ofByte 0) 0).run oddBound)
        (Csr.Input.quiet Cfg.sv39)).Allowed 8 8 .u .read := by
  constructor
  · decide +kernel
  · have first : (((Csr.machine Cfg.sv39 (fun _ => PmpCfg.ofByte 0) 0).run
        oddBound).pmp.pmpcfg 0).addrMode = .tor ∧
        ((Csr.machine Cfg.sv39 (fun _ => PmpCfg.ofByte 0) 0).run oddBound).pmp.pmpaddr 0 = 3 := by
      decide +kernel
    have others : ∀ k < 8, k ≠ 0 → (((Csr.machine Cfg.sv39 (fun _ => PmpCfg.ofByte 0) 0).run
        oddBound).pmp.pmpcfg k).addrMode = .off := by
      decide +kernel
    have uncovered (k : Nat) (inside : k < 8) :
        ¬(readBack ((Csr.machine Cfg.sv39 (fun _ => PmpCfg.ofByte 0) 0).run oddBound)
          (Csr.Input.quiet Cfg.sv39)).Covers 8 k := by
      rw [ReadBack.Covers, readBack_conf, readBack_address]
      by_cases zero : k = 0
      · rw [zero, first.1, first.2]
        rintro ⟨-, upper⟩
        exact absurd upper (by decide)
      · rw [others k inside zero]
        exact Set.notMem_empty 8
    rintro (⟨k, ⟨inside, covers, -⟩, -⟩ | ⟨-, machine | none⟩)
    · exact uncovered k inside covers
    · cases machine
    · cases none

end Cva6Hpd.Pmp
