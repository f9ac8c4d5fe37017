import Cva6Hpd.Hpdcache.Memctrl
import Mathlib.Data.Nat.Prime.Basic

/-!
# The data arrays

The data part of `hpdcache_memctrl`. The lines are kept in a grid of single-port
RAMs: a column holds one word of every access, and a row of RAMs a group of ways
whose words share one RAM word. The requesters are multiplexed in a fixed order,
reads and writes apart, and nothing is arbitrated. Check bits are left out.
-/

namespace Cva6Hpd.Hpdcache

open Cva6Hpd.Hw
open Cva6Hpd.Common

/-- The dimensions of the grid. The number of words of a line is a power of two,
and so are its divisors. -/
structure Grid (cfg : Cfg) where
  reqWords : Nat
  dataReqRatio : Nat
  entrPerSet : Nat
  dataWaysPerRamWord : Nat
  yCuts : Nat
  accessWords_eq : cfg.accessWords = dataReqRatio * reqWords
  clWords_eq : cfg.clWords = entrPerSet * cfg.accessWords
  ways_eq : cfg.ways = yCuts * dataWaysPerRamWord
  clWords_pow : 2 ^ Nat.clog 2 cfg.clWords = cfg.clWords
  wordWidth : cfg.wordBytes = 4 ∨ cfg.wordBytes = 8

namespace Grid

variable {cfg : Cfg} (grid : Grid cfg)

theorem clWords_pos : 0 < cfg.clWords :=
  Nat.lt_of_lt_of_le cfg.accessWords_pos cfg.accessWords_le

theorem reqWords_pos : 0 < grid.reqWords := by
  have positive := cfg.accessWords_pos
  rw [grid.accessWords_eq] at positive
  exact Nat.pos_of_mul_pos_left positive

theorem entrPerSet_pos : 0 < grid.entrPerSet := by
  have positive := @clWords_pos cfg
  rw [grid.clWords_eq] at positive
  exact Nat.pos_of_mul_pos_right positive

theorem dataWaysPerRamWord_pos : 0 < grid.dataWaysPerRamWord := by
  have positive := cfg.ways_pos
  rw [grid.ways_eq] at positive
  exact Nat.pos_of_mul_pos_left positive

theorem yCuts_pos : 0 < grid.yCuts := by
  have positive := cfg.ways_pos
  rw [grid.ways_eq] at positive
  exact Nat.pos_of_mul_pos_right positive

/-- `HPDCACHE_DATA_RAM_DEPTH`. -/
def depth : Nat := cfg.sets * grid.entrPerSet

theorem depth_pos : 0 < grid.depth :=
  Nat.mul_pos cfg.sets_pos grid.entrPerSet_pos

instance neZeroDepth : NeZero grid.depth := ⟨Nat.ne_of_gt grid.depth_pos⟩

instance neZeroYCuts : NeZero grid.yCuts := ⟨Nat.ne_of_gt grid.yCuts_pos⟩

instance neZeroDataWaysPerRamWord : NeZero grid.dataWaysPerRamWord :=
  ⟨Nat.ne_of_gt grid.dataWaysPerRamWord_pos⟩

/-! ## Powers of two -/

theorem pow_clog_of_dvd (grid : Grid cfg) {n : Nat} (divides : n ∣ cfg.clWords) :
    2 ^ Nat.clog 2 n = n := by
  rw [← grid.clWords_pow, Nat.dvd_prime_pow Nat.prime_two] at divides
  rcases divides with ⟨exponent, _, rfl⟩
  rw [Nat.clog_pow 2 exponent Nat.one_lt_two]

theorem accessWords_dvd (grid : Grid cfg) : cfg.accessWords ∣ cfg.clWords :=
  ⟨grid.entrPerSet, by rw [grid.clWords_eq, Nat.mul_comm]⟩

theorem accessWords_pow (grid : Grid cfg) : 2 ^ Nat.clog 2 cfg.accessWords = cfg.accessWords :=
  grid.pow_clog_of_dvd grid.accessWords_dvd

theorem reqWords_pow : 2 ^ Nat.clog 2 grid.reqWords = grid.reqWords := by
  apply grid.pow_clog_of_dvd
  apply Nat.dvd_trans _ grid.accessWords_dvd
  rw [grid.accessWords_eq]
  exact Nat.dvd_mul_left _ _

theorem dataReqRatio_pow : 2 ^ Nat.clog 2 grid.dataReqRatio = grid.dataReqRatio := by
  apply grid.pow_clog_of_dvd
  apply Nat.dvd_trans _ grid.accessWords_dvd
  rw [grid.accessWords_eq]
  exact Nat.dvd_mul_right _ _

/-! ## Ways, words and columns -/

/-- The row of RAMs and the place in a RAM word of a way. -/
def wayRow (way : cfg.Way) : Fin grid.yCuts :=
  ⟨way.val / grid.dataWaysPerRamWord, by
    apply Nat.div_lt_of_lt_mul
    rw [Nat.mul_comm, ← grid.ways_eq]
    exact way.isLt⟩

def wayWord (way : cfg.Way) : Fin grid.dataWaysPerRamWord :=
  ⟨way.val % grid.dataWaysPerRamWord, Nat.mod_lt _ grid.dataWaysPerRamWord_pos⟩

/-- The way at a place of the RAM words of a row. -/
def wayAt (row : Fin grid.yCuts) (place : Fin grid.dataWaysPerRamWord) : cfg.Way :=
  ⟨row.val * grid.dataWaysPerRamWord + place.val, by
    rw [grid.ways_eq]
    calc
      row.val * grid.dataWaysPerRamWord + place.val
          < row.val * grid.dataWaysPerRamWord + grid.dataWaysPerRamWord :=
        Nat.add_lt_add_left place.isLt _
      _ = (row.val + 1) * grid.dataWaysPerRamWord := (Nat.succ_mul _ _).symm
      _ ≤ grid.yCuts * grid.dataWaysPerRamWord := Nat.mul_le_mul_right _ row.isLt⟩

/-- The word of the request interface that a column belongs to. -/
def reqLane (x : Fin cfg.accessWords) : Fin grid.reqWords :=
  ⟨x.val % grid.reqWords, Nat.mod_lt _ grid.reqWords_pos⟩

/-- The column of a word of a line. -/
def column (word : Fin cfg.clWords) : Fin cfg.accessWords :=
  ⟨word.val % cfg.accessWords, Nat.mod_lt _ cfg.accessWords_pos⟩

end Grid

/-- `hpdcache_data_word_t` and `hpdcache_data_be_t`. -/
abbrev Cfg.DataWord (cfg : Cfg) := Fin cfg.wordBytes → BitVec 8

abbrev Cfg.DataBe (cfg : Cfg) := Bits cfg.wordBytes

/-- `hpdcache_word_t`: a word of a line. -/
abbrev Cfg.Word (cfg : Cfg) := Fin cfg.clWords

namespace Grid

variable {cfg : Cfg} (grid : Grid cfg)

/-- `hpdcache_req_data_t` and `hpdcache_req_be_t`. -/
abbrev ReqData := Fin grid.reqWords → cfg.DataWord

abbrev ReqBe := Fin grid.reqWords → cfg.DataBe

end Grid

/-- `hpdcache_access_data_t` and `hpdcache_access_be_t`. -/
abbrev Cfg.AccessData (cfg : Cfg) := Fin cfg.accessWords → cfg.DataWord

abbrev Cfg.AccessBe (cfg : Cfg) := Fin cfg.accessWords → cfg.DataBe

namespace Memctrl.Data

/-- The RAMs and the registers of their read ports. -/
structure State {cfg : Cfg} (grid : Grid cfg) where
  dataSram : Fin grid.yCuts → Fin cfg.accessWords →
    SramWbyteenable grid.depth grid.dataWaysPerRamWord cfg.wordBytes
  dataReadReqWordIndexQ : Nat
  dataFlushRowIndexQ : Bits grid.yCuts
  dataFlushReadQ : Bool

/-- The inputs of one cycle. -/
structure Input {cfg : Cfg} (grid : Grid cfg) where
  dataReqRead : Bool
  dataReqReadSet : cfg.Set
  dataReqReadSize : Nat
  dataReqReadWord : cfg.Word
  dataReqReadWay : cfg.WayVector
  dataReqWrite : Bool
  dataReqWriteEnable : Bool
  dataReqWriteMerge : Bool
  dataReqWriteSet : cfg.Set
  dataReqWriteWay : cfg.WayVector
  dataReqWriteSize : Nat
  dataReqWriteWord : cfg.Word
  dataReqWriteData : grid.ReqData
  dataReqWriteBe : grid.ReqBe
  dataAmoWrite : Bool
  dataAmoWriteEnable : Bool
  dataAmoWriteSet : cfg.Set
  dataAmoWriteSize : Nat
  dataAmoWriteWord : cfg.Word
  dataAmoWriteWay : cfg.WayVector
  dataAmoWriteData : grid.ReqData
  dataAmoWriteBe : grid.ReqBe
  dataFlushRead : Bool
  dataFlushReadSet : cfg.Set
  dataFlushReadWord : cfg.Word
  dataFlushReadWay : cfg.WayVector
  dataRefill : Bool
  dataRefillSet : cfg.Set
  dataRefillWay : cfg.WayVector
  dataRefillWord : cfg.Word
  dataRefillData : cfg.AccessData
  dataErrSet : cfg.Set
  dataErrWay : cfg.WayVector
  dataErrWord : cfg.Word
  dataErrRead : Bool
  dataErrWrite : Bool
  dataErrWdata : cfg.AccessData

/-! ## Mapping functions -/

section Functions

variable {cfg : Cfg} (grid : Grid cfg)

/-- The words that `hpdcache_compute_data_ram_cs` selects for a size. -/
def csWords (cfg : Cfg) : Nat → Nat
  | 0 | 1 | 2 | 3 => 64 / (8 * cfg.wordBytes)
  | 4 => 128 / (8 * cfg.wordBytes)
  | 5 => 256 / (8 * cfg.wordBytes)
  | _ => 512 / (8 * cfg.wordBytes)

/-- The offset by which the selection is shifted. -/
def csOffset (word : cfg.Word) : Nat :=
  if 1 < cfg.accessWords then word.val % 2 ^ Nat.clog 2 cfg.accessWords else 0

/-- `hpdcache_compute_data_ram_cs`: a run of ones, shifted and truncated. -/
def computeDataRamCs (size : Nat) (word : cfg.Word) : Bits cfg.accessWords := fun x =>
  decide (csOffset word ≤ x.val) && decide (x.val < csOffset word + csWords cfg size)

/-- `hpdcache_way_to_data_ram_row`. -/
def wayToDataRamRow (way : cfg.WayVector) : Bits grid.yCuts := fun row =>
  Bits.any fun place => way (grid.wayAt row place)

/-- `hpdcache_way_to_data_ram_word`: the place of the first way. -/
def wayToDataRamWord (way : cfg.WayVector) : Fin grid.dataWaysPerRamWord :=
  if way.any then grid.wayWord way.firstIndex else 0

/-- `hpdcache_set_to_data_ram_addr`. -/
def setToDataRamAddr (set : cfg.Set) (word : cfg.Word) : Fin grid.depth :=
  Fin.ofNat grid.depth (set.val * grid.entrPerSet + word.val / cfg.accessWords)

/-- The size of a whole access, at the width of `hpdcache_req_size_t`. -/
def accessSize (cfg : Cfg) : Nat :=
  Nat.clog 2 (cfg.accessWords * (8 * cfg.wordBytes) / 8) % 2 ^ 3

/-- The request word of an access that a word belongs to. -/
def reqWordIndex (word : cfg.Word) : Nat :=
  word.val / 2 ^ Nat.clog 2 grid.reqWords % 2 ^ Nat.clog 2 grid.dataReqRatio

end Functions

section Outputs

variable {cfg : Cfg} {grid : Grid cfg} (state : State grid)

/-- `data_rentry`. -/
def dataRentry (y : Fin grid.yCuts) (x : Fin cfg.accessWords)
    (place : Fin grid.dataWaysPerRamWord) : cfg.DataWord :=
  (state.dataSram y x).rdata place

/-- `data_read_req_word`: the addressed request word of every way. -/
def dataReadReqWord (way : cfg.Way) : grid.ReqData := fun k =>
  dataRentry state (grid.wayRow way)
    ⟨(state.dataReadReqWordIndexQ * grid.reqWords + k.val) % cfg.accessWords,
      Nat.mod_lt _ cfg.accessWords_pos⟩
    (grid.wayWord way)

/-- `data_req_read_data_o`. -/
def dataReqReadData (way : cfg.WayVector) : grid.ReqData :=
  muxOneHot (fun _ _ => 0) way (dataReadReqWord state)

/-- `data_flush_row_data`. -/
def dataFlushRowData : Fin cfg.accessWords → Fin grid.dataWaysPerRamWord → cfg.DataWord :=
  muxOneHot (fun _ _ _ => 0) state.dataFlushRowIndexQ (dataRentry state)

/-- `data_flush_read_way`: the place of the way of the flush controller, or of
the error handler when that is the one that has read. -/
def dataFlushReadWaySel (flushWay errWay : cfg.WayVector) : Bits grid.dataWaysPerRamWord :=
  fun place => Bits.any fun row =>
    if !cfg.eccEn || state.dataFlushReadQ then flushWay (grid.wayAt row place)
    else errWay (grid.wayAt row place)

/-- `data_flush_read_data_o`, and `data_err_rdata_o` when errors are corrected. -/
def dataFlushReadData (flushWay errWay : cfg.WayVector) : cfg.AccessData :=
  muxOneHot (fun _ _ => 0) (dataFlushReadWaySel state flushWay errWay)
    fun place x => dataFlushRowData state x place

def dataErrRdata (flushWay errWay : cfg.WayVector) : cfg.AccessData :=
  if cfg.eccEn then dataFlushReadData state flushWay errWay else fun _ _ => 0

end Outputs

/-! ## Request multiplexers -/

/-- The signals of `data_write_comb`. -/
structure DataWrite (cfg : Cfg) where
  write : Bool
  enable : Bool
  set : cfg.Set
  size : Nat
  word : cfg.Word
  data : cfg.AccessData
  be : cfg.AccessBe

/-- The signals of `data_read_comb`. -/
structure DataRead (cfg : Cfg) where
  read : Bool
  set : cfg.Set
  size : Nat
  word : cfg.Word

section Step

variable {cfg : Cfg} {grid : Grid cfg} (state : State grid) (input : Input grid)

/-- `data_req_write_data_merged`: with error correction the bytes that the
request leaves out are those on the read port. -/
def dataReqWriteDataMerged : grid.ReqData :=
  if cfg.eccEn then fun k b =>
    if input.dataReqWriteBe k b then input.dataReqWriteData k b
    else dataReqReadData state input.dataReqReadWay k b
  else input.dataReqWriteData

/-- `data_req_write_be_merged`. -/
def dataReqWriteBeMerged : grid.ReqBe :=
  if cfg.eccEn then fun k b => input.dataReqWriteBe k b || input.dataReqWriteMerge
  else input.dataReqWriteBe

/-- The data of a request word on every request word of an access. -/
def upsizeData (data : grid.ReqData) : cfg.AccessData := fun x => data (grid.reqLane x)

/-- The byte enables on the addressed request word of an access. -/
def demuxBe (word : cfg.Word) (be : grid.ReqBe) : cfg.AccessBe := fun x b =>
  decide (x.val / grid.reqWords = reqWordIndex grid word) && be (grid.reqLane x) b

/-- The write of each requester, as `data_write_comb` presents it. -/
def refillWrite : DataWrite cfg where
  write := true
  enable := true
  set := input.dataRefillSet
  size := accessSize cfg
  word := input.dataRefillWord
  data := input.dataRefillData
  be := fun _ _ => true

def reqWrite : DataWrite cfg where
  write := true
  enable := input.dataReqWriteEnable
  set := input.dataReqWriteSet
  size := input.dataReqWriteSize
  word := input.dataReqWriteWord
  data := upsizeData (dataReqWriteDataMerged state input)
  be := demuxBe input.dataReqWriteWord (dataReqWriteBeMerged input)

def amoWrite : DataWrite cfg where
  write := true
  enable := input.dataAmoWriteEnable
  set := input.dataAmoWriteSet
  size := input.dataAmoWriteSize
  word := input.dataAmoWriteWord
  data := upsizeData input.dataAmoWriteData
  be := demuxBe input.dataAmoWriteWord input.dataAmoWriteBe

def errWrite : DataWrite cfg where
  write := true
  enable := true
  set := input.dataErrSet
  size := accessSize cfg
  word := input.dataErrWord
  data := input.dataErrWdata
  be := fun _ _ => true

def noWrite : DataWrite cfg where
  write := false
  enable := false
  set := 0
  size := 0
  word := ⟨0, Grid.clWords_pos⟩
  data := fun _ _ => 0
  be := fun _ _ => false

/-- `data_write_comb`. -/
def dataWriteComb : DataWrite cfg :=
  if input.dataRefill then refillWrite input
  else if input.dataReqWrite then reqWrite state input
  else if input.dataAmoWrite then amoWrite input
  else if input.dataErrWrite then errWrite input
  else noWrite

/-- The read of each requester, as `data_read_comb` presents it. -/
def reqRead : DataRead cfg where
  read := true
  set := input.dataReqReadSet
  size := input.dataReqReadSize
  word := input.dataReqReadWord

def flushRead : DataRead cfg where
  read := true
  set := input.dataFlushReadSet
  size := accessSize cfg
  word := input.dataFlushReadWord

def errRead : DataRead cfg where
  read := true
  set := input.dataErrSet
  size := accessSize cfg
  word := input.dataErrWord

def noRead : DataRead cfg where
  read := false
  set := 0
  size := 0
  word := ⟨0, Grid.clWords_pos⟩

/-- `data_read_comb`. -/
def dataReadComb : DataRead cfg :=
  if input.dataReqRead then reqRead input
  else if input.dataFlushRead then flushRead input
  else if input.dataErrRead then errRead input
  else noRead

/-- `data_way`. -/
def dataWay : cfg.WayVector :=
  if input.dataRefill then input.dataRefillWay
  else if input.dataFlushRead then input.dataFlushReadWay
  else if input.dataAmoWrite then input.dataAmoWriteWay
  else if input.dataReqWrite then input.dataReqWriteWay
  else if input.dataErrRead then input.dataErrWay
  else if input.dataErrWrite then input.dataErrWay
  else Bits.zero

/-- `rd_wr_conflict_o`. -/
def rdWrConflict : Bool := Bits.any fun x =>
  computeDataRamCs input.dataReqReadSize input.dataReqReadWord x &&
    computeDataRamCs input.dataReqWriteSize input.dataReqWriteWord x

/-! ## One clock cycle -/

/-- `word_sel_wr` of a column that is written. -/
def writesColumn (x : Fin cfg.accessWords) : Bool :=
  (dataWriteComb state input).write &&
    computeDataRamCs (dataWriteComb state input).size (dataWriteComb state input).word x

/-- `data_ctrl_comb` and `data_write_ctrl_comb`: the port of one RAM. -/
def dataCtrlComb (y : Fin grid.yCuts) (x : Fin cfg.accessWords) :
    ByteAccess grid.depth grid.dataWaysPerRamWord cfg.wordBytes :=
  let write := dataWriteComb state input
  let read := dataReadComb input
  let wordSelRd := read.read && computeDataRamCs read.size read.word x
  let wordSelWr := wayToDataRamRow grid (dataWay input) y && writesColumn state input x
  { cs := wordSelRd || wordSelWr
    we := write.enable && wordSelWr
    addr := if writesColumn state input x then setToDataRamAddr grid write.set write.word
      else setToDataRamAddr grid read.set read.word
    wdata := fun _ => write.data x
    wbyteenable := fun place b =>
      decide (place = wayToDataRamWord grid (dataWay input)) && write.be x b }

def step : State grid where
  dataSram := fun y x => (state.dataSram y x).step (dataCtrlComb state input y x)
  dataReadReqWordIndexQ := reqWordIndex grid input.dataReqReadWord
  dataFlushRowIndexQ :=
    if input.dataFlushRead || (cfg.eccEn && input.dataErrRead) then
      wayToDataRamRow grid (dataWay input)
    else state.dataFlushRowIndexQ
  dataFlushReadQ := if cfg.eccEn then input.dataFlushRead else state.dataFlushReadQ

end Step

end Memctrl.Data

end Cva6Hpd.Hpdcache
