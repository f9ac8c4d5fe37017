import Mathlib.Data.BitVec
import Cva6Hpd.Hw.Machine

/-!
# The Domino prefetcher

`domino_prefetcher_top` with its trigger, history buffers, hash and the two
miss-history tables, over the two widths of `domino_pkg`. A detected miss
trains both tables with the old history and looks both up with the new one in
the same cycle; the request register follows one cycle later. The data arrays
are not reset: their contents after reset are a parameter.
-/

namespace Cva6Hpd.Prefetcher

open Cva6Hpd.Hw

variable {addrWidth indexWidth : Nat}

/-! ## Hash -/

/-- `domino_xor_hash`: the exclusive or of both addresses, folded into an index. -/
def xorHash (indexWidth : Nat) (addrIn1 addrIn2 : BitVec addrWidth) : BitVec indexWidth :=
  let foldedAddr := addrIn1 ^^^ addrIn2
  foldedAddr.extractLsb' 0 indexWidth ^^^
    foldedAddr.extractLsb' indexWidth indexWidth ^^^
    foldedAddr.extractLsb' (2 * indexWidth) indexWidth

theorem extractLsb_of_lt {word : BitVec addrWidth} {start : Nat}
    (small : word.toNat < 2 ^ indexWidth) (beyond : indexWidth ≤ start) :
    word.extractLsb' start indexWidth = BitVec.ofNat indexWidth 0 := by
  have less : word.toNat < 2 ^ start :=
    lt_of_lt_of_le small (Nat.pow_le_pow_right (by decide) beyond)
  apply BitVec.eq_of_toNat_eq
  rw [BitVec.extractLsb'_toNat, Nat.shiftRight_eq_div_pow, Nat.div_eq_of_lt less]
  simp

theorem extractLsb_zero (word : BitVec addrWidth) :
    word.extractLsb' 0 indexWidth = word.setWidth indexWidth := by
  apply BitVec.eq_of_toNat_eq
  rw [BitVec.extractLsb'_toNat, BitVec.toNat_setWidth, Nat.shiftRight_zero]

theorem xorHash_of_lt {addrIn1 addrIn2 : BitVec addrWidth}
    (small1 : addrIn1.toNat < 2 ^ indexWidth) (small2 : addrIn2.toNat < 2 ^ indexWidth) :
    xorHash indexWidth addrIn1 addrIn2 = (addrIn1 ^^^ addrIn2).setWidth indexWidth := by
  have small : (addrIn1 ^^^ addrIn2).toNat < 2 ^ indexWidth := by
    rw [BitVec.toNat_xor]
    exact Nat.xor_lt_two_pow small1 small2
  have twice : indexWidth ≤ 2 * indexWidth := Nat.le_mul_of_pos_left _ (by decide)
  rw [xorHash, extractLsb_of_lt small (Nat.le_refl _), extractLsb_of_lt small twice,
    extractLsb_zero]
  simp only [BitVec.xor_zero]

theorem xor_eq_of_xorHash_eq {a b c d : BitVec addrWidth} (smallA : a.toNat < 2 ^ indexWidth)
    (smallB : b.toNat < 2 ^ indexWidth) (smallC : c.toNat < 2 ^ indexWidth)
    (smallD : d.toNat < 2 ^ indexWidth)
    (equal : xorHash indexWidth a b = xorHash indexWidth c d) : a ^^^ b = c ^^^ d := by
  rw [xorHash_of_lt smallA smallB, xorHash_of_lt smallC smallD] at equal
  have narrow := congrArg BitVec.toNat equal
  simp only [BitVec.toNat_setWidth, BitVec.toNat_xor] at narrow
  apply BitVec.eq_of_toNat_eq
  rwa [BitVec.toNat_xor, BitVec.toNat_xor,
    ← Nat.mod_eq_of_lt (Nat.xor_lt_two_pow smallA smallB),
    ← Nat.mod_eq_of_lt (Nat.xor_lt_two_pow smallC smallD)]

/-! ## Trigger and history -/

/-- The inputs of `domino_prefetcher_top`. -/
structure Input (addrWidth : Nat) where
  evtCacheReadMiss : Bool
  missAddr : BitVec addrWidth

/-- `domino_trigger_detector`: the first cycle of a miss event. -/
structure TriggerDetector where
  missQ : Bool

def TriggerDetector.missDetected (trigger : TriggerDetector) (input : Input addrWidth) : Bool :=
  input.evtCacheReadMiss && !trigger.missQ

/-- `domino_history_buffers`. -/
structure HistoryBuffers (addrWidth : Nat) where
  preMiss : BitVec addrWidth
  pre2Miss : BitVec addrWidth

def HistoryBuffers.step (history : HistoryBuffers addrWidth) (updateEn : Bool)
    (currMiss : BitVec addrWidth) : HistoryBuffers addrWidth :=
  if updateEn then
    { pre2Miss := history.preMiss, preMiss := currMiss }
  else
    history

/-! ## Tables -/

/-- `domino_mht_ram`: the table and its registered read port. -/
structure MhtRam (addrWidth indexWidth : Nat) where
  validArray : BitVec indexWidth → Bool
  dataArray : BitVec indexWidth → BitVec addrWidth
  readValid : Bool
  readData : BitVec addrWidth

namespace MhtRam

def reset (dataArray : BitVec indexWidth → BitVec addrWidth) : MhtRam addrWidth indexWidth where
  validArray := fun _ => false
  dataArray := dataArray
  readValid := false
  readData := 0

/-- One cycle; the read and the write are always enabled together, but each
has its own enable. -/
def step (ram : MhtRam addrWidth indexWidth) (readEn : Bool) (readIdx : BitVec indexWidth)
    (writeEn : Bool) (writeIdx : BitVec indexWidth) (writeData : BitVec addrWidth) :
    MhtRam addrWidth indexWidth where
  validArray := fun i => if writeEn && i == writeIdx then true else ram.validArray i
  dataArray := fun i => if writeEn && i == writeIdx then writeData else ram.dataArray i
  readValid :=
    if readEn then
      if writeEn && writeIdx == readIdx then true else ram.validArray readIdx
    else
      false
  readData :=
    if readEn then
      if writeEn && writeIdx == readIdx then writeData else ram.dataArray readIdx
    else
      ram.readData

/-- The prediction that the table stores under an index. -/
def entry (ram : MhtRam addrWidth indexWidth) (i : BitVec indexWidth) :
    Option (BitVec addrWidth) :=
  if ram.validArray i then some (ram.dataArray i) else none

/-- The prediction on the read port. -/
def read (ram : MhtRam addrWidth indexWidth) : Option (BitVec addrWidth) :=
  if ram.readValid then some ram.readData else none

variable (ram : MhtRam addrWidth indexWidth) (readIdx writeIdx : BitVec indexWidth)
variable (writeData : BitVec addrWidth)

@[simp]
theorem entry_reset (dataArray : BitVec indexWidth → BitVec addrWidth)
    (i : BitVec indexWidth) : (reset dataArray).entry i = none :=
  rfl

@[simp]
theorem read_reset (dataArray : BitVec indexWidth → BitVec addrWidth) :
    (reset dataArray).read = none :=
  rfl

theorem read_of_valid {ram : MhtRam addrWidth indexWidth} (valid : ram.readValid = true) :
    ram.read = some ram.readData := by
  simp [read, valid]

theorem read_of_invalid {ram : MhtRam addrWidth indexWidth} (invalid : ram.readValid = false) :
    ram.read = none := by
  simp [read, invalid]

theorem entry_step_of_idle (readEn : Bool) (i : BitVec indexWidth) :
    (ram.step readEn readIdx false writeIdx writeData).entry i = ram.entry i := by
  simp [step, entry]

theorem entry_step_of_write (readEn : Bool) (i : BitVec indexWidth) :
    (ram.step readEn readIdx true writeIdx writeData).entry i =
      if writeIdx = i then some writeData else ram.entry i := by
  by_cases same : writeIdx = i
  · simp [step, entry, same]
  · simp [step, entry, same, Ne.symm same]

theorem read_step_of_idle (writeEn : Bool) :
    (ram.step false readIdx writeEn writeIdx writeData).read = none :=
  rfl

/-- The bypass: a lookup sees the training of its own cycle. -/
theorem read_step_of_write (readEn : Bool) (enabled : readEn = true) :
    (ram.step readEn readIdx true writeIdx writeData).read =
      (ram.step readEn readIdx true writeIdx writeData).entry readIdx := by
  subst enabled
  rw [entry_step_of_write]
  by_cases same : writeIdx = readIdx
  · simp [step, read, same]
  · simp [step, read, entry, same]

end MhtRam

/-! ## The prefetcher -/

/-- `domino_pref_req_t`. -/
structure PrefReq (addrWidth : Nat) where
  valid : Bool
  prefAddr : BitVec addrWidth

/-- The address of a valid request. -/
def PrefReq.request (prefReq : PrefReq addrWidth) : Option (BitVec addrWidth) :=
  if prefReq.valid then some prefReq.prefAddr else none

/-- The registers of `domino_prefetcher_top`. -/
structure State (addrWidth indexWidth : Nat) where
  trigger : TriggerDetector
  history : HistoryBuffers addrWidth
  mht1 : MhtRam addrWidth indexWidth
  mht2 : MhtRam addrWidth indexWidth
  prefReq : PrefReq addrWidth

/-- The uninitialised data arrays of both tables. -/
structure PowerUp (addrWidth indexWidth : Nat) where
  mht1 : BitVec indexWidth → BitVec addrWidth
  mht2 : BitVec indexWidth → BitVec addrWidth

namespace State

def reset (powerUp : PowerUp addrWidth indexWidth) : State addrWidth indexWidth where
  trigger := { missQ := false }
  history := { preMiss := 0, pre2Miss := 0 }
  mht1 := MhtRam.reset powerUp.mht1
  mht2 := MhtRam.reset powerUp.mht2
  prefReq := { valid := false, prefAddr := 0 }

/-- The priority multiplexer: the second table before the first. -/
def prefReqD (s : State addrWidth indexWidth) : PrefReq addrWidth :=
  if s.mht2.readValid then
    { valid := true, prefAddr := s.mht2.readData }
  else if s.mht1.readValid then
    { valid := true, prefAddr := s.mht1.readData }
  else
    { s.prefReq with valid := false }

def step (s : State addrWidth indexWidth) (input : Input addrWidth) :
    State addrWidth indexWidth :=
  let missDetected := s.trigger.missDetected input
  let currMissAddr := input.missAddr
  let preMiss := s.history.preMiss
  let pre2Miss := s.history.pre2Miss
  { trigger := { missQ := input.evtCacheReadMiss }
    history := s.history.step missDetected currMissAddr
    mht1 := s.mht1.step missDetected (xorHash indexWidth currMissAddr 0)
      missDetected (xorHash indexWidth preMiss 0) currMissAddr
    mht2 := s.mht2.step missDetected (xorHash indexWidth currMissAddr preMiss)
      missDetected (xorHash indexWidth preMiss pre2Miss) currMissAddr
    prefReq := s.prefReqD }

/-- The request register takes the first prediction in table order. -/
theorem request_step (s : State addrWidth indexWidth) (input : Input addrWidth) :
    (s.step input).prefReq.request = s.mht2.read.or s.mht1.read := by
  simp only [step, prefReqD, PrefReq.request, MhtRam.read]
  cases s.mht2.readValid with
  | true => rfl
  | false => cases s.mht1.readValid <;> rfl

end State

/-- The prefetcher as a synchronous machine. -/
def machine (powerUp : PowerUp addrWidth indexWidth) :
    Machine (State addrWidth indexWidth) (Input addrWidth) where
  reset := State.reset powerUp
  step := State.step

end Cva6Hpd.Prefetcher
