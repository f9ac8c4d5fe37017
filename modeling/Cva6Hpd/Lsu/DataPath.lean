import Cva6Hpd.Hw.Bytes
import Cva6Hpd.Lsu.LoadBuffer
import Cva6Hpd.Lsu.StoreUnit

/-!
# The data path of the loads and stores

A store rotates its data to the byte offset of its address and enables the bytes of its size; a
load shifts the word that it read, reverses the bytes of its size where the memory is big-endian,
and extends them. A load behind a store of the same size at the same address returns what was
stored.
-/

namespace Cva6Hpd.Lsu

open Cva6Hpd.Ariane
open Cva6Hpd.Hw

variable {cfg : Cfg}

/-! ## Accesses -/

/-- The operations that store a register. -/
def isStore (operation : FuOp) : Bool :=
  operation ∈ [.sb, .sh, .sw, .sd, .hsvB, .hsvH, .hsvW, .hsvD, .fsb, .fsh, .fsw, .fsd]

/-- The operations that load a register. -/
def isLoad (operation : FuOp) : Bool :=
  operation ∈ [.lb, .lbu, .lh, .lhu, .lw, .lwu, .ld, .hlvB, .hlvBu, .hlvH, .hlvHu, .hlvxHu, .hlvW,
    .hlvWu, .hlvxWu, .hlvD, .flb, .flh, .flw, .fld]

/-- The number of bytes that an operation accesses. -/
def accessBytes (operation : FuOp) : Nat := 2 ^ operation.extractTransferSize.toNat

/-- The byte enables that the load and store unit hands to a request. -/
def byteEnable (cfg : Cfg) (vaddr : BitVec cfg.vlen) (operation : FuOp) : BitVec (cfg.xlen / 8) :=
  if cfg.isXlen64 then (beGen (vaddr.setWidth 3) operation.extractTransferSize).setWidth _
  else (beGen32 (vaddr.setWidth 2) operation.extractTransferSize).setWidth _

/-- How a load fills the register above its bytes: a floating-point value is boxed in ones. -/
inductive Extension where
  | zero
  | sign
  | box
deriving DecidableEq

def extension : FuOp → Extension
  | .lb | .lh | .lw | .hlvB | .hlvH | .hlvW => .sign
  | .flb | .flh | .flw => .box
  | _ => .zero

/-- The first bytes of a value, extended to the register. -/
def extended {width : Nat} (ext : Extension) (count : Nat) (data : BitVec width) : BitVec width :=
  match ext with
  | .zero => (data.setWidth (8 * count)).setWidth width
  | .sign => (data.setWidth (8 * count)).signExtend width
  | .box => (data.setWidth (8 * count)).setWidth width ||| BitVec.allOnes width <<< (8 * count)

/-! ## Words of the core -/

namespace Cfg

theorem xlen_eq (cfg : Cfg) : cfg.xlen = 8 * (cfg.xlen / 8) := by
  rw [xlen]
  split <;> rfl

theorem bytes_eq (cfg : Cfg) : cfg.xlen / 8 = if cfg.isXlen64 then 8 else 4 := by
  rw [xlen]
  split <;> rfl

theorem bytes_eq_pow (cfg : Cfg) : cfg.xlen / 8 = 2 ^ cfg.xlenAlignBytes := by
  rw [bytes_eq, xlenAlignBytes]
  split <;> rfl

theorem bytes_pos (cfg : Cfg) : 0 < cfg.xlen / 8 := by
  rw [bytes_eq_pow]
  exact Nat.two_pow_pos _

theorem bytes_dvd (cfg : Cfg) : cfg.xlen / 8 ∣ 2 ^ 3 := by
  rw [bytes_eq]
  split <;> decide

end Cfg

theorem accessBytes_pos (operation : FuOp) : 0 < accessBytes operation := Nat.two_pow_pos _

theorem accessBytes_dvd {operation : FuOp} (fits : accessBytes operation ≤ cfg.xlen / 8) :
    accessBytes operation ∣ cfg.xlen / 8 := by
  rw [cfg.bytes_eq_pow] at fits ⊢
  exact Nat.pow_dvd_pow 2 ((Nat.pow_le_pow_iff_right (by decide)).mp fits)

theorem byteAt_setWidth {width : Nat} (data : BitVec width) {w k : Nat} (inside : 8 * k + 8 ≤ w) :
    byteAt (data.setWidth w) k = byteAt data k := by
  apply BitVec.eq_of_getLsbD_eq
  intro bit less
  rw [getLsbD_byteAt _ _ less, getLsbD_byteAt _ _ less, BitVec.getLsbD_setWidth,
    decide_eq_true (by omega), Bool.true_and]

theorem getLsbD_of_bytes {width : Nat} {first second : BitVec width} {count bit : Nat}
    (same : ∀ k < count, byteAt first k = byteAt second k) (inside : bit < 8 * count) :
    first.getLsbD bit = second.getLsbD bit := by
  have byte := congrArg (fun byte => byte.getLsbD (bit % 8)) (same (bit / 8) (by omega))
  have low : bit % 8 < 8 := Nat.mod_lt _ (by decide)
  rwa [getLsbD_byteAt _ _ low, getLsbD_byteAt _ _ low, Nat.div_add_mod] at byte

theorem byteAt_swapBytes {count k : Nat} (data : BitVec cfg.xlen) (fits : count ≤ cfg.xlen / 8)
    (inside : k < count) : byteAt (swapBytes count data) k = byteAt data (count - 1 - k) := by
  have width := cfg.xlen_eq
  rw [swapBytes, byteAt_setWidth _ (by omega), byteAt_ofBytes _ (by omega), if_pos inside]

theorem swapBytes_one (data : BitVec cfg.xlen) : swapBytes 1 data = data := by
  have width := cfg.xlen_eq
  have same : ∀ k < cfg.xlen / 8, byteAt (swapBytes 1 data) k = byteAt data k := by
    intro k inside
    rw [swapBytes, byteAt_setWidth _ (by omega), byteAt_ofBytes _ inside]
    split
    · next first =>
        have zero : k = 0 := Nat.lt_one_iff.mp first
        rw [zero]
    · rfl
  apply BitVec.eq_of_getLsbD_eq
  intro bit less
  exact getLsbD_of_bytes same (by omega)

/-! ## Stores -/

/-- The bytes of a value in the order of the memory. -/
def ordered {width : Nat} (mbe : Bool) (count : Nat) (data : BitVec width) (k : Nat) : BitVec 8 :=
  byteAt data (if mbe then count - 1 - k else k)

section Store

variable {operation : FuOp} {mbe : Bool}

/-- A store of eight bytes is one of the whole register. -/
theorem bytes_of_size {size : Nat} (fits : size ≤ cfg.xlen / 8) (dword : size = 8) :
    cfg.xlen / 8 = size := by
  rw [cfg.bytes_eq] at fits ⊢
  split at fits
  · next wide => rw [if_pos wide, dword]
  · omega

theorem endianData_store (stores : isStore operation = true)
    (fits : accessBytes operation ≤ cfg.xlen / 8) (data : BitVec cfg.xlen) :
    StoreUnit.endianData mbe operation data =
      if mbe then swapBytes (accessBytes operation) data else data := by
  cases mbe with
  | false => rfl
  | true =>
      simp only [isStore, List.mem_cons, List.not_mem_nil, or_false, decide_eq_true_eq] at stores
      rcases stores with rfl | rfl | rfl | rfl | rfl | rfl | rfl | rfl | rfl | rfl | rfl | rfl
      all_goals first
        | rfl
        | exact (swapBytes_one data).symm
        | exact congrArg (swapBytes · data) (bytes_of_size fits rfl)

theorem byteAt_endianData_store (stores : isStore operation = true)
    (fits : accessBytes operation ≤ cfg.xlen / 8) (data : BitVec cfg.xlen) {k : Nat}
    (inside : k < accessBytes operation) :
    byteAt (StoreUnit.endianData mbe operation data) k =
      ordered mbe (accessBytes operation) data k := by
  rw [endianData_store stores fits, ordered]
  cases mbe with
  | false => rfl
  | true => exact byteAt_swapBytes data fits inside

theorem byteAt_dataAlign (addr : BitVec 3) (data : BitVec cfg.xlen) {k : Nat}
    (inside : addr.toNat % (cfg.xlen / 8) + k < cfg.xlen / 8) :
    byteAt (StoreUnit.dataAlign addr data) (addr.toNat % (cfg.xlen / 8) + k) = byteAt data k := by
  have width := cfg.xlen_eq
  rw [StoreUnit.dataAlign, ← cfg.bytes_eq]
  apply BitVec.eq_of_getLsbD_eq
  intro bit less
  have less_width : 8 * (addr.toNat % (cfg.xlen / 8)) < cfg.xlen := by omega
  have above : ¬8 * (addr.toNat % (cfg.xlen / 8) + k) + bit <
      8 * (addr.toNat % (cfg.xlen / 8)) := by omega
  have below : 8 * (addr.toNat % (cfg.xlen / 8) + k) + bit < cfg.xlen := by omega
  have place : 8 * (addr.toNat % (cfg.xlen / 8) + k) + bit - 8 * (addr.toNat % (cfg.xlen / 8)) =
      8 * k + bit := by omega
  rw [getLsbD_byteAt _ _ less, getLsbD_byteAt _ _ less, BitVec.getLsbD_rotateLeft,
    Nat.mod_eq_of_lt less_width, decide_eq_false above, decide_eq_true below, place]
  exact Bool.true_and _

theorem not_isAmo_of_isStore (stores : isStore operation = true) : operation.isAmo = false := by
  simp only [isStore, List.mem_cons, List.not_mem_nil, or_false, decide_eq_true_eq] at stores
  rcases stores with rfl | rfl | rfl | rfl | rfl | rfl | rfl | rfl | rfl | rfl | rfl | rfl <;> rfl

/-- The enables of an aligned access. -/
theorem covers_beGen : ∀ (addr : BitVec 3) (size : BitVec 2), 2 ^ size.toNat ∣ addr.toNat →
    ∀ k < 8, (beGen addr size).getLsbD k = true ↔
      addr.toNat ≤ k ∧ k < addr.toNat + 2 ^ size.toNat := by
  decide

theorem covers_beGen32 : ∀ (addr size : BitVec 2), 2 ^ size.toNat ≤ 4 →
    2 ^ size.toNat ∣ addr.toNat →
      ∀ k < 4, (beGen32 addr size).getLsbD k = true ↔
        addr.toNat ≤ k ∧ k < addr.toNat + 2 ^ size.toNat := by
  decide

theorem covers_byteEnable (operation : FuOp) (fits : accessBytes operation ≤ cfg.xlen / 8)
    {vaddr : BitVec cfg.vlen} (aligned : accessBytes operation ∣ vaddr.toNat) :
    Covers (cfg.xlen / 8) (accessBytes operation) vaddr.toNat
      (byteEnable cfg vaddr operation).getLsbD := by
  have dvd := accessBytes_dvd fits
  intro k inside
  rw [byteEnable]
  rw [cfg.bytes_eq] at dvd fits inside ⊢
  split at fits
  · next wide =>
      rw [if_pos wide] at dvd inside ⊢
      have low : (vaddr.setWidth 3).toNat = vaddr.toNat % 8 := BitVec.toNat_setWidth ..
      have enabled := covers_beGen (vaddr.setWidth 3) operation.extractTransferSize
        (by rw [low]; exact (Nat.dvd_mod_iff dvd).mpr aligned) k inside
      rw [low] at enabled
      rw [if_pos wide, BitVec.getLsbD_setWidth, decide_eq_true inside, Bool.true_and]
      exact enabled
  · next narrow =>
      rw [if_neg narrow] at dvd inside ⊢
      have low : (vaddr.setWidth 2).toNat = vaddr.toNat % 4 := BitVec.toNat_setWidth ..
      have enabled := covers_beGen32 (vaddr.setWidth 2) operation.extractTransferSize fits
        (by rw [low]; exact (Nat.dvd_mod_iff dvd).mpr aligned) k inside
      rw [low] at enabled
      rw [if_neg narrow, BitVec.getLsbD_setWidth, decide_eq_true inside, Bool.true_and]
      exact enabled

/-- The memory behind a write of the store unit's registers. -/
def stored (memory : Nat → BitVec 8) (paddr : Nat) (s : StoreUnit.State cfg) : Nat → BitVec 8 :=
  writeWord (cfg.xlen / 8) memory paddr s.stBeQ.getLsbD (byteAt s.stDataQ)

/-- A request for an aligned store, with the enables that the load and store unit computes. -/
structure StoreRequest (ctrl : LsuCtrl cfg) : Prop where
  stores : isStore ctrl.operation = true
  fits : accessBytes ctrl.operation ≤ cfg.xlen / 8
  aligned : accessBytes ctrl.operation ∣ ctrl.vaddr.toNat
  be : ctrl.be = byteEnable cfg ctrl.vaddr ctrl.operation

/-- The physical address is in the page offset of the virtual one. -/
def SameOffset {width : Nat} (vaddr : BitVec width) (paddr : Nat) : Prop :=
  paddr % 2 ^ 12 = vaddr.toNat % 2 ^ 12

theorem SameOffset.mod_eq {width : Nat} {vaddr : BitVec width} {paddr : Nat}
    (same : SameOffset vaddr paddr) {size : Nat} (dvd : size ∣ 2 ^ 12) :
    paddr % size = vaddr.toNat % size := by
  rw [← Nat.mod_mod_of_dvd paddr dvd, same, Nat.mod_mod_of_dvd _ dvd]

theorem stored_eq {s : StoreUnit.State cfg} {i : StoreUnit.Input cfg}
    (request : StoreRequest i.lsuCtrl) {paddr : Nat} (offset : SameOffset i.lsuCtrl.vaddr paddr)
    (memory : Nat → BitVec 8) :
    stored memory paddr (StoreUnit.step s i) =
      storeBytes (accessBytes i.lsuCtrl.operation) memory paddr
        (ordered i.mbe (accessBytes i.lsuCtrl.operation) i.lsuCtrl.data) := by
  have positive := cfg.bytes_pos
  have dvd := accessBytes_dvd request.fits
  have wordDvd : cfg.xlen / 8 ∣ 2 ^ 12 := cfg.bytes_dvd.trans (by decide)
  have word := offset.mod_eq wordDvd
  have aligned : accessBytes i.lsuCtrl.operation ∣ paddr := by
    rw [Nat.dvd_iff_mod_eq_zero, offset.mod_eq (dvd.trans wordDvd)]
    exact Nat.mod_eq_zero_of_dvd request.aligned
  have covers : Covers (cfg.xlen / 8) (accessBytes i.lsuCtrl.operation) paddr
      (StoreUnit.step s i).stBeQ.getLsbD := by
    have virtual := covers_byteEnable i.lsuCtrl.operation request.fits request.aligned
    intro k inside
    change i.lsuCtrl.be.getLsbD k = true ↔ _
    rw [request.be, virtual k inside, word]
  rw [stored, writeWord_eq_storeBytes positive dvd aligned covers]
  funext place
  simp only [storeBytes]
  split
  · next inside =>
      have less : place - paddr < accessBytes i.lsuCtrl.operation := by omega
      have low : (i.lsuCtrl.vaddr.setWidth 3).toNat % (cfg.xlen / 8) = paddr % (cfg.xlen / 8) := by
        rw [BitVec.toNat_setWidth, Nat.mod_mod_of_dvd _ cfg.bytes_dvd, word]
      have within := mod_add_lt_of_aligned positive dvd aligned less
      change byteAt (StoreUnit.stData i.mbe i.lsuCtrl) _ = _
      rw [StoreUnit.stData, not_isAmo_of_isStore request.stores, Bool.and_false,
        if_neg Bool.false_ne_true, ← low, byteAt_dataAlign _ _ (by rwa [low]),
        byteAt_endianData_store request.stores request.fits _ less]
  · rfl

end Store

/-! ## Loads -/

section Load

variable {s : LoadUnit.State cfg} {i : LoadUnit.Input cfg} {operation : FuOp} {mbe : Bool}

theorem endianData_load (loads : isLoad operation = true)
    (fits : accessBytes operation ≤ cfg.xlen / 8) (data : BitVec cfg.xlen) :
    LoadUnit.endianData mbe operation data =
      if mbe then swapBytes (accessBytes operation) data else data := by
  cases mbe with
  | false => rfl
  | true =>
      simp only [isLoad, List.mem_cons, List.not_mem_nil, or_false, decide_eq_true_eq] at loads
      rcases loads with rfl | rfl | rfl | rfl | rfl | rfl | rfl | rfl | rfl | rfl | rfl | rfl |
        rfl | rfl | rfl | rfl | rfl | rfl | rfl | rfl
      all_goals first
        | rfl
        | exact (swapBytes_one data).symm
        | exact congrArg (swapBytes · data) (bytes_of_size fits rfl)

theorem getLsbD_extend {count bit : Nat} (sign : Bool) (data : BitVec cfg.xlen)
    (inside : bit < cfg.xlen) :
    (LoadUnit.extend count sign data).getLsbD bit =
      if bit < count then data.getLsbD bit else sign := by
  rw [LoadUnit.extend, BitVec.getLsbD_or, BitVec.getLsbD_setWidth, BitVec.getLsbD_setWidth]
  by_cases low : bit < count
  · cases sign <;> simp [low, inside]
  · cases sign <;> simp [low, inside]

theorem extend_full {count : Nat} (full : cfg.xlen = count) (sign : Bool) (data : BitVec cfg.xlen) :
    LoadUnit.extend count sign data = data := by
  apply BitVec.eq_of_getLsbD_eq
  intro bit inside
  rw [getLsbD_extend _ _ inside, if_pos (full ▸ inside)]

/-- What stands above the bytes of a value. -/
def fill {width : Nat} (ext : Extension) (count : Nat) (data : BitVec width) : Bool :=
  match ext with
  | .zero => false
  | .sign => data.getLsbD (8 * count - 1)
  | .box => true

theorem getLsbD_extended {width count bit : Nat} (ext : Extension) (positive : 0 < count)
    (data : BitVec width) (inside : bit < width) :
    (extended ext count data).getLsbD bit =
      if bit < 8 * count then data.getLsbD bit else fill ext count data := by
  cases ext with
  | zero =>
      rw [extended, BitVec.getLsbD_setWidth, BitVec.getLsbD_setWidth]
      split
      · next low => simp [low, inside]
      · next high => simp [high, fill]
  | sign =>
      rw [extended, BitVec.getLsbD_signExtend, BitVec.getLsbD_setWidth,
        BitVec.msb_eq_getLsbD_last, BitVec.getLsbD_setWidth, decide_eq_true inside,
        decide_eq_true (by omega : 8 * count - 1 < 8 * count)]
      split
      · next low => simp [low]
      · next high => simp [fill]
  | box =>
      rw [extended, BitVec.getLsbD_or, BitVec.getLsbD_setWidth, BitVec.getLsbD_setWidth]
      split
      · next low => simp [low, inside]
      · next high => simp [high, inside, fill]

theorem result_eq_extend (loads : isLoad (LoadUnit.ldbufRdata s i).operation = true)
    (fits : accessBytes (LoadUnit.ldbufRdata s i).operation ≤ cfg.xlen / 8)
    (boxed : extension (LoadUnit.ldbufRdata s i).operation = .box → cfg.fpPresent = true) :
    LoadUnit.result s i =
      LoadUnit.extend (8 * accessBytes (LoadUnit.ldbufRdata s i).operation)
        (LoadUnit.rdataSignBit s i)
        (LoadUnit.endianData i.mbe (LoadUnit.ldbufRdata s i).operation
          (LoadUnit.shiftedData s i)) := by
  have width := cfg.xlen_eq
  rw [LoadUnit.result]
  generalize (LoadUnit.ldbufRdata s i).operation = operation at *
  simp only [isLoad, List.mem_cons, List.not_mem_nil, or_false, decide_eq_true_eq] at loads
  rcases loads with rfl | rfl | rfl | rfl | rfl | rfl | rfl | rfl | rfl | rfl | rfl | rfl | rfl |
    rfl | rfl | rfl | rfl | rfl | rfl | rfl
  all_goals first
    | rfl
    | exact if_pos (boxed rfl)
    | exact (extend_full (width.trans (congrArg (8 * ·) (bytes_of_size fits rfl))) _ _).symm

theorem toNat_rdataOffset {offset : BitVec cfg.xlenAlignBytes} {count : Nat}
    (size : accessBytes operation = count) (signed : extension operation = .sign)
    (extends_ : count < cfg.xlen / 8) (inside : offset.toNat + (count - 1) < cfg.xlen / 8) :
    (LoadUnit.rdataOffset cfg mbe operation offset).toNat =
      offset.toNat + if mbe then 0 else count - 1 := by
  rw [cfg.bytes_eq_pow] at inside
  have moved (low : BitVec cfg.xlenAlignBytes) (value : low.toNat = count - 1) :
      (offset + low).toNat = offset.toNat + (count - 1) := by
    rw [BitVec.toNat_add, value, Nat.mod_eq_of_lt inside]
  have small (value : Nat) (bound : value < 4) : (BitVec.ofNat cfg.xlenAlignBytes value).toNat =
      value := by
    rw [BitVec.toNat_ofNat, Nat.mod_eq_of_lt]
    rw [Cfg.xlenAlignBytes]
    split <;> omega
  have wide : count = 4 → cfg.isXlen64 = true := by
    intro four
    rw [cfg.bytes_eq, four] at extends_
    split at extends_
    · assumption
    · omega
  subst size
  cases operation <;> first | exact absurd signed (by decide) | skip
  case lb | hlvB => cases mbe <;> rfl
  case lh | hlvH =>
    cases mbe with
    | false => exact moved 1 (small 1 (by decide))
    | true => rfl
  case lw | hlvW =>
    cases mbe with
    | false =>
        simp only [LoadUnit.rdataOffset, wide rfl, Bool.not_false, Bool.and_true, if_true]
        exact moved 3 (small 3 (by decide))
    | true =>
        simp only [LoadUnit.rdataOffset, Bool.not_true, Bool.and_false, Bool.false_eq_true,
          if_false]
        rfl

/-- A request for an aligned load; a floating-point load needs the floating-point unit. -/
structure LoadRequest (ctrl : LsuCtrl cfg) : Prop where
  loads : isLoad ctrl.operation = true
  fits : accessBytes ctrl.operation ≤ cfg.xlen / 8
  aligned : accessBytes ctrl.operation ∣ ctrl.vaddr.toNat
  boxed : extension ctrl.operation = .box → cfg.fpPresent = true

/-- The data cache answers the load with the word around its address. -/
structure Answered (memory : Nat → BitVec 8) (paddr : Nat) (ctrl : LsuCtrl cfg)
    (s : LoadUnit.State cfg) (i : LoadUnit.Input cfg) : Prop where
  entry : LoadUnit.ldbufRdata s i = LoadUnit.entryOf ctrl
  word : i.reqPort.dataRdata = (readWord (cfg.xlen / 8) memory paddr).setWidth cfg.xlen

section Answer

variable {memory : Nat → BitVec 8} {paddr : Nat} {ctrl : LsuCtrl cfg}

theorem Answered.byteAt_rdata (answered : Answered memory paddr ctrl s i)
    (request : LoadRequest ctrl) (offset : SameOffset ctrl.vaddr paddr) {k : Nat}
    (inside : k < accessBytes ctrl.operation) :
    byteAt i.reqPort.dataRdata (ctrl.vaddr.toNat % (cfg.xlen / 8) + k) = memory (paddr + k) := by
  have positive := cfg.bytes_pos
  have dvd := accessBytes_dvd request.fits
  have wordDvd : cfg.xlen / 8 ∣ 2 ^ 12 := cfg.bytes_dvd.trans (by decide)
  have aligned : accessBytes ctrl.operation ∣ paddr := by
    rw [Nat.dvd_iff_mod_eq_zero, offset.mod_eq (dvd.trans wordDvd)]
    exact Nat.mod_eq_zero_of_dvd request.aligned
  have within := mod_add_lt_of_aligned positive dvd request.aligned inside
  have width := cfg.xlen_eq
  rw [answered.word, byteAt_setWidth _ (by omega), ← offset.mod_eq wordDvd]
  exact byteAt_readWord positive dvd aligned inside

theorem Answered.toNat_addressOffset (answered : Answered memory paddr ctrl s i) :
    (LoadUnit.ldbufRdata s i).addressOffset.toNat = ctrl.vaddr.toNat % (cfg.xlen / 8) := by
  rw [answered.entry, cfg.bytes_eq_pow]
  exact BitVec.toNat_setWidth ..

theorem Answered.byteAt_shiftedData (answered : Answered memory paddr ctrl s i)
    (request : LoadRequest ctrl) (offset : SameOffset ctrl.vaddr paddr) {k : Nat}
    (inside : k < accessBytes ctrl.operation) :
    byteAt (LoadUnit.shiftedData s i) k = memory (paddr + k) := by
  rw [← answered.byteAt_rdata request offset inside]
  apply BitVec.eq_of_getLsbD_eq
  intro bit less
  rw [getLsbD_byteAt _ _ less, getLsbD_byteAt _ _ less, LoadUnit.shiftedData,
    answered.toNat_addressOffset, BitVec.getLsbD_ushiftRight, Nat.mul_add, Nat.add_assoc]

theorem Answered.byteAt_endianData (answered : Answered memory paddr ctrl s i)
    (request : LoadRequest ctrl) (offset : SameOffset ctrl.vaddr paddr) {data : BitVec cfg.xlen}
    (holds : ∀ k < accessBytes ctrl.operation,
      memory (paddr + k) = ordered i.mbe (accessBytes ctrl.operation) data k) {k : Nat}
    (inside : k < accessBytes ctrl.operation) :
    byteAt (LoadUnit.endianData i.mbe ctrl.operation (LoadUnit.shiftedData s i)) k =
      byteAt data k := by
  rw [endianData_load request.loads request.fits]
  cases order : i.mbe with
  | false =>
      rw [if_neg Bool.false_ne_true, answered.byteAt_shiftedData request offset inside,
        holds k inside, order]
      rfl
  | true =>
      have mirrored : accessBytes ctrl.operation - 1 - k < accessBytes ctrl.operation := by omega
      have back : accessBytes ctrl.operation - 1 - (accessBytes ctrl.operation - 1 - k) = k := by
        omega
      rw [if_pos rfl, byteAt_swapBytes _ request.fits inside,
        answered.byteAt_shiftedData request offset mirrored, holds _ mirrored, order, ordered,
        if_pos rfl, back]

theorem Answered.rdataSignBit_eq (answered : Answered memory paddr ctrl s i)
    (request : LoadRequest ctrl) (offset : SameOffset ctrl.vaddr paddr) {data : BitVec cfg.xlen}
    (holds : ∀ k < accessBytes ctrl.operation,
      memory (paddr + k) = ordered i.mbe (accessBytes ctrl.operation) data k)
    (extends_ : accessBytes ctrl.operation < cfg.xlen / 8) :
    LoadUnit.rdataSignBit s i =
      fill (extension ctrl.operation) (accessBytes ctrl.operation) data := by
  have positive := accessBytes_pos ctrl.operation
  have operation : (LoadUnit.ldbufRdata s i).operation = ctrl.operation := by
    rw [answered.entry]
    rfl
  rw [LoadUnit.rdataSignBit, operation]
  cases ext : extension ctrl.operation with
  | sign =>
      have signed : LoadUnit.rdataIsSigned ctrl.operation = true ∧
          LoadUnit.rdataIsFpSigned ctrl.operation = false := by
        cases op : ctrl.operation <;> rw [op] at ext <;>
          first | exact ⟨rfl, rfl⟩ | exact absurd ext (by decide)
      have last : accessBytes ctrl.operation - 1 < accessBytes ctrl.operation := by omega
      have within := mod_add_lt_of_aligned cfg.bytes_pos (accessBytes_dvd request.fits)
        request.aligned last
      have first : (if i.mbe then 0 else accessBytes ctrl.operation - 1) <
          accessBytes ctrl.operation := by
        split <;> omega
      have place := @toNat_rdataOffset cfg ctrl.operation i.mbe
        (LoadUnit.ldbufRdata s i).addressOffset _ rfl ext extends_
        (by rwa [answered.toNat_addressOffset])
      have byte := answered.byteAt_rdata request offset first
      have bit := congrArg (fun byte => byte.getLsbD 7) (byte.trans (holds _ first))
      have top : ordered i.mbe (accessBytes ctrl.operation) data
          (if i.mbe then 0 else accessBytes ctrl.operation - 1) =
            byteAt data (accessBytes ctrl.operation - 1) := by
        rw [ordered]
        cases i.mbe <;> rfl
      rw [top, getLsbD_byteAt _ _ (by decide), getLsbD_byteAt _ _ (by decide)] at bit
      have index : 8 * (accessBytes ctrl.operation - 1) + 7 =
          8 * accessBytes ctrl.operation - 1 := by omega
      rw [signed.1, signed.2, Bool.true_and, Bool.and_false, Bool.or_false, place,
        answered.toNat_addressOffset, bit, index]
      rfl
  | zero =>
      have unsigned : LoadUnit.rdataIsSigned ctrl.operation = false ∧
          LoadUnit.rdataIsFpSigned ctrl.operation = false := by
        cases op : ctrl.operation <;> rw [op] at ext <;>
          first | exact ⟨rfl, rfl⟩ | exact absurd ext (by decide)
      rw [unsigned.1, unsigned.2, Bool.false_and, Bool.and_false, Bool.or_false]
      rfl
  | box =>
      have boxed : LoadUnit.rdataIsFpSigned ctrl.operation = true := by
        cases op : ctrl.operation <;> rw [op] at ext <;>
          first | rfl | exact absurd ext (by decide)
      rw [boxed, request.boxed ext, Bool.and_self, Bool.or_true]
      rfl

/-- A load returns the value that the memory holds at its address. -/
theorem Answered.result_eq (answered : Answered memory paddr ctrl s i)
    (request : LoadRequest ctrl) (offset : SameOffset ctrl.vaddr paddr) {data : BitVec cfg.xlen}
    (holds : ∀ k < accessBytes ctrl.operation,
      memory (paddr + k) = ordered i.mbe (accessBytes ctrl.operation) data k) :
    LoadUnit.result s i =
      extended (extension ctrl.operation) (accessBytes ctrl.operation) data := by
  have operation : (LoadUnit.ldbufRdata s i).operation = ctrl.operation := by
    rw [answered.entry]
    rfl
  have width := cfg.xlen_eq
  rw [result_eq_extend (operation ▸ request.loads) (operation ▸ request.fits)
    (operation ▸ request.boxed), operation]
  apply BitVec.eq_of_getLsbD_eq
  intro bit inside
  rw [getLsbD_extend _ _ inside, getLsbD_extended _ (accessBytes_pos _) _ inside]
  split
  · next low =>
      exact getLsbD_of_bytes (fun k => answered.byteAt_endianData request offset holds) low
  · next high => exact answered.rdataSignBit_eq request offset holds (by omega)

end Answer

end Load

/-- A store and a load of the same size at the same address: the load returns the stored value,
extended as the load asks, and the store changes no byte outside its size. -/
theorem store_load_round_trip {store : StoreUnit.State cfg} {stores : StoreUnit.Input cfg}
    (storeRequest : StoreRequest stores.lsuCtrl) {ctrl : LsuCtrl cfg}
    (loadRequest : LoadRequest ctrl) (sameAddress : ctrl.vaddr = stores.lsuCtrl.vaddr)
    (sameSize : accessBytes ctrl.operation = accessBytes stores.lsuCtrl.operation)
    {paddr : Nat} (offset : SameOffset ctrl.vaddr paddr) (memory : Nat → BitVec 8)
    {load : LoadUnit.State cfg} {loads : LoadUnit.Input cfg} (sameEndian : loads.mbe = stores.mbe)
    (answered : Answered (stored memory paddr (StoreUnit.step store stores)) paddr ctrl load
      loads) :
    LoadUnit.result load loads =
        extended (extension ctrl.operation) (accessBytes ctrl.operation) stores.lsuCtrl.data ∧
      ∀ place, place < paddr ∨ paddr + accessBytes ctrl.operation ≤ place →
        stored memory paddr (StoreUnit.step store stores) place = memory place := by
  have bytes := @stored_eq cfg store stores storeRequest paddr (sameAddress ▸ offset) memory
  constructor
  · apply answered.result_eq loadRequest offset
    intro k inside
    rw [sameSize] at inside ⊢
    rw [bytes, storeBytes_inside inside, sameEndian]
  · intro place outside
    rw [bytes, storeBytes_outside (sameSize ▸ outside)]

/-! ## A half word in a big-endian memory -/

/-- A half word at an offset of six bytes. -/
def halfWord (fu : Fu) (operation : FuOp) (data : BitVec 64) : LsuCtrl Cfg.sample where
  valid := true
  vaddr := 0x1006
  data := data
  be := byteEnable Cfg.sample 0x1006 operation
  fu := fu
  operation := operation
  transId := 0
  isSpeculativeLoad := false
  isSpeculativeLoadMiss := false

def storesHalf (data : BitVec 64) : StoreUnit.Input Cfg.sample where
  flush := false
  stallStPending := false
  valid := true
  lsuCtrl := halfWord .store .sh data
  commit := false
  amoValidCommit := false
  mbe := true
  paddr := 0
  ex := ⟨0, 0, 0, 0, false, false⟩
  dtlbHit := true
  amoResp := ⟨false, 0⟩
  reqPort := ⟨false, false, 0, 0⟩

/-- The answer to a load of a half word. -/
def answersHalf (rdata : BitVec 64) : LoadUnit.Input Cfg.sample where
  flush := false
  valid := false
  lsuCtrl := halfWord .load .lh 0
  mbe := true
  paddr := 0
  ex := ⟨0, 0, 0, 0, false, false⟩
  dtlbHit := true
  paddrNi := false
  pageOffsetMatches := false
  storeBufferEmpty := true
  commitTranId := 0
  reqPort := ⟨false, true, 0, rdata⟩
  dcacheWbufferNotNi := true

/-- The memory of the half word `0x80fe`, stored over zeros. -/
def halfStored : Nat → BitVec 8 :=
  stored (fun _ => 0) 0x5006 (StoreUnit.step StoreUnit.reset (storesHalf 0x80fe))

/-- The load unit waits for the answer to a load of the half word. -/
def loadingHalf : LoadUnit.State Cfg.sample :=
  { LoadUnit.reset with ldbufQ := fun _ => LoadUnit.entryOf (halfWord .load .lh 0) }

theorem half_returns :
    LoadUnit.result loadingHalf (answersHalf (readWord 8 halfStored 0x5006)) =
      extended .sign 2 (0x80fe : BitVec 64) :=
  have stores : StoreRequest (storesHalf 0x80fe).lsuCtrl :=
    ⟨rfl, by decide, by decide, rfl⟩
  have loads : LoadRequest (halfWord .load .lh 0) :=
    ⟨rfl, by decide, by decide, fun boxed => absurd boxed (by decide)⟩
  have offset : SameOffset (halfWord .load .lh 0).vaddr 0x5006 := rfl
  have answered : Answered halfStored 0x5006 (halfWord .load .lh 0) loadingHalf
      (answersHalf (readWord 8 halfStored 0x5006)) := ⟨rfl, rfl⟩
  (store_load_round_trip stores loads rfl rfl offset _ rfl answered).1

example : extended .sign 2 (0x80fe : BitVec 64) = 0xffffffffffff80fe := by decide

end Cva6Hpd.Lsu
