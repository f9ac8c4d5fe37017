import Cva6Hpd.Hpdcache.Wbuf.Core
import Mathlib.Tactic.Ring

/-!
# The bytes of a write, of a buffer and of a memory request

Each of the three is read as a partial function from byte addresses to bytes:
the bytes it writes. Merging a sequence of writes takes the last one that
writes an address. `wbuf_data_write` adds one write to a buffer, and the data
channel presents the bytes of a buffer at the address of its entry.
-/

namespace Cva6Hpd.Hpdcache.Wbuf

open Cva6Hpd.Hw

variable {cfg : Cfg}

/-- A write request of the controller. -/
structure Write (cfg : Cfg) where
  addr : Nat
  data : cfg.Data
  be : cfg.Be

/-- The write presented in a cycle. -/
def writeOf (input : Input cfg) : Write cfg where
  addr := input.writeAddr
  data := input.writeData
  be := input.writeBe

/-- The byte of a request word that covers an address. -/
def byteIndex (cfg : Cfg) (address : Nat) : Fin cfg.reqBytes :=
  ⟨address % cfg.reqBytes, Nat.mod_lt _ cfg.reqBytes_pos⟩

/-- The word of an entry that covers an address. -/
def wordIndex (cfg : Cfg) (address : Nat) : Fin cfg.wbufWords :=
  ⟨cfg.wordOf address, Nat.mod_lt _ cfg.words_pos⟩

/-- The entry of a memory word that covers an address. -/
def entryIndex (cfg : Cfg) (address : Nat) : Fin cfg.memDataRatio :=
  ⟨cfg.tagOf address % cfg.memDataRatio, Nat.mod_lt _ cfg.memDataRatio_pos⟩

/-- The byte that a write stores at an address. -/
def Write.byteAt (write : Write cfg) (address : Nat) : Option (BitVec 8) :=
  if address / cfg.reqBytes = write.addr / cfg.reqBytes ∧
      write.be (byteIndex cfg address) = true then
    some (write.data (byteIndex cfg address))
  else
    none

/-- The bytes of a sequence of writes performed in order. -/
def mergeByte (writes : List (Write cfg)) (address : Nat) : Option (BitVec 8) :=
  (writes.filterMap fun write => write.byteAt address).getLast?

/-- The byte that a data buffer holds for an address of the entry `tag`. -/
def entryByte (entry : DataEntry cfg) (tag address : Nat) : Option (BitVec 8) :=
  if cfg.tagOf address = tag ∧
      entry.be (wordIndex cfg address) (byteIndex cfg address) = true then
    some (entry.data (wordIndex cfg address) (byteIndex cfg address))
  else
    none

/-- The byte that a memory write request stores at an address: the byte lane of
the address, if it is enabled, in the memory word that contains `memReqAddr`. -/
def requestByte (memReqAddr : Nat) (memReqW : MemReqW cfg) (address : Nat) :
    Option (BitVec 8) :=
  let memBytes := cfg.reqBytes * cfg.wbufWords * cfg.memDataRatio
  let position := entryIndex cfg address
  if address / memBytes = memReqAddr / memBytes ∧
      memReqW.memReqWBe position (wordIndex cfg address) (byteIndex cfg address) =
        true then
    some (memReqW.memReqWData position (wordIndex cfg address) (byteIndex cfg address))
  else
    none

theorem mergeByte_nil (address : Nat) : mergeByte ([] : List (Write cfg)) address = none :=
  rfl

/-- A further write overrides the earlier ones where it writes. -/
theorem mergeByte_concat (writes : List (Write cfg)) (write : Write cfg)
    (address : Nat) :
    mergeByte (writes ++ [write]) address =
      (write.byteAt address).or (mergeByte writes address) := by
  unfold mergeByte
  rw [List.filterMap_append]
  cases covered : write.byteAt address with
  | none => simp [covered]
  | some byte => simp [covered]

/-! ## Addresses -/

theorem tagOf_eq_div_div (address : Nat) :
    cfg.tagOf address = address / cfg.reqBytes / cfg.wbufWords := by
  rw [Cfg.tagOf, Nat.div_div_eq_div_mul]

theorem sameWord_iff (first second : Nat) :
    first / cfg.reqBytes = second / cfg.reqBytes ↔
      cfg.tagOf first = cfg.tagOf second ∧ cfg.wordOf first = cfg.wordOf second := by
  rw [tagOf_eq_div_div, tagOf_eq_div_div]
  constructor
  · intro equal
    rw [Cfg.wordOf, Cfg.wordOf, equal]
    exact ⟨rfl, rfl⟩
  · rintro ⟨tags, words⟩
    calc
      first / cfg.reqBytes =
          cfg.wbufWords * (first / cfg.reqBytes / cfg.wbufWords) +
            first / cfg.reqBytes % cfg.wbufWords := (Nat.div_add_mod _ _).symm
      _ = cfg.wbufWords * (second / cfg.reqBytes / cfg.wbufWords) +
            second / cfg.reqBytes % cfg.wbufWords := by
          rw [tags]
          exact congrArg _ words
      _ = second / cfg.reqBytes := Nat.div_add_mod _ _

/-! ## One write into a buffer -/

/-- `wbuf_data_write` adds the bytes of the write to those of the buffer. -/
theorem entryByte_wbufDataWrite (input : Input cfg) (oldData : cfg.DataBuf)
    (oldBe : cfg.BeBuf) (address : Nat) :
    entryByte (wbufDataWrite oldData oldBe (writeDataBuf input) (writeBeBuf input))
        (writeTag input) address =
      ((writeOf input).byteAt address).or
        (entryByte { data := oldData, be := oldBe } (writeTag input) address) := by
  by_cases inEntry : cfg.tagOf address = writeTag input
  · by_cases inWord : cfg.wordOf address = cfg.wordOf input.writeAddr
    · have word : address / cfg.reqBytes = input.writeAddr / cfg.reqBytes :=
        (sameWord_iff address input.writeAddr).mpr ⟨inEntry, inWord⟩
      cases enabled : input.writeBe (byteIndex cfg address) <;>
        simp [entryByte, wbufDataWrite, writeBeBuf, writeDataBuf, wordIndex,
          Write.byteAt, writeOf, inEntry, inWord, word, enabled]
    · have word : ¬address / cfg.reqBytes = input.writeAddr / cfg.reqBytes := by
        intro equal
        exact inWord ((sameWord_iff address input.writeAddr).mp equal).2
      simp [entryByte, wbufDataWrite, writeBeBuf, wordIndex, Write.byteAt, writeOf,
        inEntry, inWord, word]
  · have word : ¬address / cfg.reqBytes = input.writeAddr / cfg.reqBytes := by
      intro equal
      exact inEntry ((sameWord_iff address input.writeAddr).mp equal).1
    simp [entryByte, Write.byteAt, writeOf, inEntry, word]

theorem entryByte_of_disabled (data : cfg.DataBuf) (tag address : Nat) :
    entryByte { data := data, be := fun _ _ => false } tag address = none := by
  simp [entryByte]

/-! ## One buffer on the memory interface -/

theorem memWord_eq_iff (address tag : Nat) :
    address / (cfg.reqBytes * cfg.wbufWords * cfg.memDataRatio) =
        tag * (cfg.reqBytes * cfg.wbufWords) /
          (cfg.reqBytes * cfg.wbufWords * cfg.memDataRatio) ↔
      cfg.tagOf address / cfg.memDataRatio = tag / cfg.memDataRatio := by
  have positive : 0 < cfg.reqBytes * cfg.wbufWords :=
    Nat.mul_pos cfg.reqBytes_pos cfg.words_pos
  rw [Nat.mul_comm tag, Nat.mul_div_mul_left _ _ positive,
    ← Nat.div_div_eq_div_mul address (cfg.reqBytes * cfg.wbufWords), Cfg.tagOf]

/-- An entry is determined by its memory word and its position there. -/
theorem tag_eq_iff (cfg : Cfg) (first second : Nat) :
    first = second ↔
      first / cfg.memDataRatio = second / cfg.memDataRatio ∧
        first % cfg.memDataRatio = second % cfg.memDataRatio := by
  constructor
  · rintro rfl
    exact ⟨rfl, rfl⟩
  · rintro ⟨words, positions⟩
    rw [← Nat.div_add_mod first cfg.memDataRatio, words, positions,
      Nat.div_add_mod second cfg.memDataRatio]

theorem requestByte_memReqWriteData (state : State cfg) (address : Nat) :
    requestByte ((sendDataQ state).dataTag * (cfg.reqBytes * cfg.wbufWords))
        (memReqWriteData state) address =
      entryByte (state.wbufDataQ (sendDataQ state).dataPtr) (sendDataQ state).dataTag
        address := by
  have entry := tag_eq_iff cfg (cfg.tagOf address) (sendDataQ state).dataTag
  unfold requestByte entryByte
  simp only [memWord_eq_iff, memReqWriteData, entryIndex, entry]
  by_cases word : cfg.tagOf address / cfg.memDataRatio =
      (sendDataQ state).dataTag / cfg.memDataRatio
  · by_cases position : cfg.tagOf address % cfg.memDataRatio =
        (sendDataQ state).dataTag % cfg.memDataRatio
    · simp [word, position]
    · simp [position]
  · simp [word]

end Cva6Hpd.Hpdcache.Wbuf
