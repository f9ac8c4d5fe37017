import Mathlib.Data.BitVec

/-!
# Words as bytes

A word of `n` bytes is read from and written to memory as a little-endian
sequence. This file has the two conversions, the byte of a word and the word of
a byte sequence, and how they compose with extension and truncation.
-/

namespace Cva6Hpd.Hw

/-- Byte `i` of a word, zero beyond its width. -/
def byteAt {w : Nat} (word : BitVec w) (i : Nat) : BitVec 8 :=
  word.extractLsb' (8 * i) 8

/-- The little-endian word of the first `n` bytes of a sequence. -/
def ofBytes (bytes : Nat → BitVec 8) : (n : Nat) → BitVec (8 * n)
  | 0 => 0
  | n + 1 => (bytes n ++ ofBytes bytes n).cast (by omega)

theorem getLsbD_byteAt {w : Nat} (word : BitVec w) (i : Nat) {bit : Nat} (inside : bit < 8) :
    (byteAt word i).getLsbD bit = word.getLsbD (8 * i + bit) := by
  simp [byteAt, inside]

theorem getLsbD_ofBytes (bytes : Nat → BitVec 8) (n bit : Nat) (inside : bit < 8 * n) :
    (ofBytes bytes n).getLsbD bit = (bytes (bit / 8)).getLsbD (bit % 8) := by
  induction n with
  | zero => omega
  | succ n inductionHypothesis =>
      rw [ofBytes, BitVec.getLsbD_cast, BitVec.getLsbD_append]
      split_ifs with low
      · exact inductionHypothesis low
      · have byte : bit / 8 = n := by omega
        have position : bit - 8 * n = bit % 8 := by omega
        rw [byte, position]

@[simp]
theorem byteAt_ofBytes (bytes : Nat → BitVec 8) {n i : Nat} (inside : i < n) :
    byteAt (ofBytes bytes n) i = bytes i := by
  apply BitVec.eq_of_getLsbD_eq
  intro bit less
  rw [getLsbD_byteAt _ _ less, getLsbD_ofBytes _ _ _ (by omega),
    show (8 * i + bit) / 8 = i by omega, show (8 * i + bit) % 8 = bit by omega]

theorem ofBytes_congr {first second : Nat → BitVec 8} {n : Nat}
    (equal : ∀ i < n, first i = second i) : ofBytes first n = ofBytes second n := by
  apply BitVec.eq_of_getLsbD_eq
  intro bit less
  rw [getLsbD_ofBytes _ _ _ less, getLsbD_ofBytes _ _ _ less, equal _ (by omega)]

theorem mod_add_lt_of_aligned {size block addr k : Nat} (positive : 0 < block)
    (dvd : size ∣ block) (aligned : size ∣ addr) (inside : k < size) :
    addr % block + k < block := by
  rcases dvd with ⟨count, rfl⟩
  have less : addr % (size * count) < size * count := Nat.mod_lt _ positive
  rcases (Nat.dvd_mod_iff (Nat.dvd_mul_right size count)).mpr aligned with ⟨index, first⟩
  rw [first] at less ⊢
  have bound : index < count := Nat.lt_of_mul_lt_mul_left less
  calc
    size * index + k < size * index + size := by omega
    _ = size * (index + 1) := by rw [Nat.mul_succ]
    _ ≤ size * count := Nat.mul_le_mul_left _ bound

theorem div_mod_of_aligned {size block addr k : Nat} (positive : 0 < block)
    (dvd : size ∣ block) (aligned : size ∣ addr) (inside : k < size) :
    (addr + k) / block = addr / block ∧ (addr + k) % block = addr % block + k := by
  have less := mod_add_lt_of_aligned positive dvd aligned inside
  have split := Nat.div_add_mod addr block
  have regroup : addr + k = (addr % block + k) + block * (addr / block) := by omega
  constructor
  · rw [regroup, Nat.add_mul_div_left _ _ positive, Nat.div_eq_of_lt less, Nat.zero_add]
  · rw [regroup, Nat.add_mul_mod_self_left, Nat.mod_eq_of_lt less]

end Cva6Hpd.Hw

/-!
## Memories of bytes

A memory gives the byte at each address. It is accessed by aligned words of `n` bytes, a write
with one enable for each byte of the word. A write whose enables cover an aligned access stores
the bytes of this access and leaves the others.
-/

namespace Cva6Hpd.Hw

variable {n count address : Nat} {memory : Nat → BitVec 8}

/-- The word around an address. -/
def readWord (n : Nat) (memory : Nat → BitVec 8) (address : Nat) : BitVec (8 * n) :=
  ofBytes (fun k => memory (address / n * n + k)) n

/-- The enabled bytes of the word around an address are written. -/
def writeWord (n : Nat) (memory : Nat → BitVec 8) (address : Nat) (be : Nat → Bool)
    (data : Nat → BitVec 8) (place : Nat) : BitVec 8 :=
  if place / n = address / n ∧ be (place % n) = true then data (place % n) else memory place

/-- The bytes from an address on become those given. -/
def storeBytes (count : Nat) (memory : Nat → BitVec 8) (address : Nat) (bytes : Nat → BitVec 8)
    (place : Nat) : BitVec 8 :=
  if address ≤ place ∧ place < address + count then bytes (place - address) else memory place

/-- Enables of exactly the bytes of an access. -/
def Covers (n count address : Nat) (be : Nat → Bool) : Prop :=
  ∀ k < n, be k = true ↔ address % n ≤ k ∧ k < address % n + count

theorem storeBytes_inside {bytes : Nat → BitVec 8} {k : Nat} (inside : k < count) :
    storeBytes count memory address bytes (address + k) = bytes k := by
  rw [storeBytes, if_pos ⟨Nat.le_add_right _ _, Nat.add_lt_add_left inside _⟩,
    Nat.add_sub_cancel_left]

theorem storeBytes_outside {bytes : Nat → BitVec 8} {place : Nat}
    (outside : place < address ∨ address + count ≤ place) :
    storeBytes count memory address bytes place = memory place := by
  rw [storeBytes, if_neg]
  rintro ⟨lower, upper⟩
  rcases outside with below | above
  · exact absurd lower (Nat.not_le.mpr below)
  · exact absurd upper (Nat.not_lt.mpr above)

theorem byteAt_readWord (positive : 0 < n) (dvd : count ∣ n) (aligned : count ∣ address) {k : Nat}
    (inside : k < count) :
    byteAt (readWord n memory address) (address % n + k) = memory (address + k) := by
  have less := mod_add_lt_of_aligned positive dvd aligned inside
  have place : address / n * n + (address % n + k) = address + k := by
    rw [← Nat.add_assoc, Nat.mul_comm, Nat.div_add_mod]
  rw [readWord, byteAt_ofBytes _ less, place]

theorem writeWord_eq_storeBytes (positive : 0 < n) (dvd : count ∣ n) (aligned : count ∣ address)
    {be : Nat → Bool} (covers : Covers n count address be) (data : Nat → BitVec 8) :
    writeWord n memory address be data =
      storeBytes count memory address fun k => data (address % n + k) := by
  funext place
  by_cases inside : address ≤ place ∧ place < address + count
  · obtain ⟨k, rfl⟩ := Nat.exists_eq_add_of_le inside.1
    have less : k < count := Nat.lt_of_add_lt_add_left inside.2
    rcases div_mod_of_aligned positive dvd aligned less with ⟨quotient, remainder⟩
    have enabled : be ((address + k) % n) = true := by
      rw [covers _ (Nat.mod_lt _ positive), remainder]
      exact ⟨Nat.le_add_right _ _, Nat.add_lt_add_left less _⟩
    rw [storeBytes_inside less, writeWord, if_pos ⟨quotient, enabled⟩, remainder]
  · have kept : ¬(place / n = address / n ∧ be (place % n) = true) := by
      rintro ⟨quotient, enabled⟩
      rw [covers _ (Nat.mod_lt _ positive)] at enabled
      have first := Nat.div_add_mod place n
      have second := Nat.div_add_mod address n
      rw [quotient] at first
      exact inside ⟨by omega, by omega⟩
    rw [writeWord, if_neg kept, storeBytes, if_neg inside]

end Cva6Hpd.Hw
