import Cva6Hpd.Common.Arbiter
import Cva6Hpd.Hpdcache.Flush
import Cva6Hpd.Hpdcache.Refill.Core

/-!
# The write-back path

The flush controller together with the data of the lines it writes back: the
read port of the data array, the resizer that turns accesses into beats of the
memory, and the counter that marks the last beat of a line. The rest of the
data array is an input: its contents, and what other units read from it.
-/

namespace Cva6Hpd.Hpdcache

open Cva6Hpd.Hw
open Cva6Hpd.Common

/-- The widths of the write-back path. A word of the data RAM holds an access of
`dataWaysPerRamWord` ways, and its rows hold the groups of ways. -/
structure FlushWidths (cfg : Cfg) extends Widths cfg where
  flushFifoDepth : Nat
  dataWaysPerRamWord : Nat
  flushFifoDepth_pos : 0 < flushFifoDepth
  dataWaysPerRamWord_pos : 0 < dataWaysPerRamWord
  dataWaysPerRamWord_dvd : dataWaysPerRamWord ∣ cfg.ways

namespace FlushWidths

variable {cfg : Cfg} (widths : FlushWidths cfg)

/-- `HPDCACHE_DATA_RAM_Y_CUTS`. -/
def ramRows : Nat := cfg.ways / widths.dataWaysPerRamWord

theorem ramRows_mul : widths.ramRows * widths.dataWaysPerRamWord = cfg.ways :=
  Nat.div_mul_cancel widths.dataWaysPerRamWord_dvd

theorem ramRows_pos : 0 < widths.ramRows := by
  have positive := cfg.ways_pos
  rw [← widths.ramRows_mul] at positive
  exact Nat.pos_of_mul_pos_right positive

instance neZeroFlushFifoDepth : NeZero widths.flushFifoDepth :=
  ⟨Nat.ne_of_gt widths.flushFifoDepth_pos⟩

instance neZeroDataWaysPerRamWord : NeZero widths.dataWaysPerRamWord :=
  ⟨Nat.ne_of_gt widths.dataWaysPerRamWord_pos⟩

instance neZeroRamRows : NeZero widths.ramRows := ⟨Nat.ne_of_gt widths.ramRows_pos⟩

/-- The write-back data buffer. -/
abbrev FlushFifo :=
  DataResize widths.flushFifoDepth widths.accessReqs widths.memReqs cfg.wbuf.Data

/-- The outputs of the data RAM, by way. -/
abbrev RamData := cfg.Way → widths.AccessData

theorem flushFits : DataResize.Fits widths.accessReqs widths.memReqs :=
  ⟨widths.accessReqs_pos, widths.memReqs_pos, widths.resize.symm⟩

end FlushWidths

namespace FlushPath

/-- The flush controller, the read port of the data array, the resizer and the
counter of beats. -/
structure State {cfg : Cfg} (widths : FlushWidths cfg) where
  flush : Flush.State cfg
  dataRentry : widths.RamData
  dataFlushRowIndexQ : Bits widths.ramRows
  dataFlushReadQ : Bool
  resizer : widths.FlushFifo
  writeFlitsCntQ : Nat

/-- The inputs of one cycle: those of the flush controller, the contents of the
data array by set, way and word, and the accesses of the other units to it. -/
structure Input {cfg : Cfg} (widths : FlushWidths cfg) where
  flushAlloc : Bool
  flushAllocNline : Nat
  flushAllocWay : cfg.WayVector
  memReqWriteReady : Bool
  memReqWriteDataReady : Bool
  memRespWriteValid : Bool
  memRespWId : Nat
  array : cfg.Set → cfg.Way → Nat → widths.AccessData
  otherRentry : Option widths.RamData
  dataErrRead : Bool
  dataErrWay : cfg.WayVector

/-- The registers that the source does not reset keep their power-up values. -/
def reset {cfg : Cfg} (widths : FlushWidths cfg) (dataRentry : widths.RamData)
    (dataFlushReadQ : Bool) : State widths where
  flush := Flush.reset cfg
  dataRentry := dataRentry
  dataFlushRowIndexQ := Bits.zero
  dataFlushReadQ := dataFlushReadQ
  resizer := DataResize.reset fun _ => 0
  writeFlitsCntQ := 0

section Signals

variable {cfg : Cfg} {widths : FlushWidths cfg} (state : State widths) (input : Input widths)

/-- The inputs of the flush controller. -/
def flushIn : Flush.Input cfg where
  flushAlloc := input.flushAlloc
  flushAllocNline := input.flushAllocNline
  flushAllocWay := input.flushAllocWay
  mem := {
    flushResizerWok := state.resizer.wok
    memReqWriteReady := input.memReqWriteReady
    memRespWriteValid := input.memRespWriteValid
    memRespWId := input.memRespWId }

/-- `flush_alloc`. -/
def alloc : Bool := Flush.alloc state.flush (flushIn state input)

/-! ## Reading the data array -/

/-- `flush_data_read_o`. -/
def flushDataRead : Bool :=
  match state.flush.flushFsmQ with
  | .flushIdle => alloc state input
  | .flushSend => state.resizer.wok && !Flush.eol state.flush

/-- `flush_data_read_set_o`. -/
def flushDataReadSet : cfg.Set :=
  match state.flush.flushFsmQ with
  | .flushIdle =>
      if alloc state input then cfg.setOf input.flushAllocNline else state.flush.flushSetQ
  | .flushSend => state.flush.flushSetQ

/-- `flush_data_read_way_o`. -/
def flushDataReadWay : cfg.WayVector :=
  match state.flush.flushFsmQ with
  | .flushIdle => if alloc state input then input.flushAllocWay else state.flush.flushWayQ
  | .flushSend => state.flush.flushWayQ

/-- `flush_data_read_word_o`. -/
def flushDataReadWord : Nat :=
  match state.flush.flushFsmQ with
  | .flushIdle => if alloc state input then 0 else state.flush.flushWordQ
  | .flushSend => state.flush.flushWordQ

/-- `hpdcache_way_to_data_ram_row`. -/
def dataRamRow (widths : FlushWidths cfg) (way : cfg.WayVector) : Bits widths.ramRows := fun row =>
  Bits.any fun w => way w && decide (w.val / widths.dataWaysPerRamWord = row.val)

/-- The ways of a RAM word that a way vector selects, as `decode_flush_read_way_comb`
computes them. -/
def dataRamWord (widths : FlushWidths cfg) (way : cfg.WayVector) :
    Bits widths.dataWaysPerRamWord := fun i =>
  Bits.any fun w => way w && decide (w.val % widths.dataWaysPerRamWord = i.val)

/-- `data_flush_read_way`: the way of the error handler unless the RAM was read
for the flush controller in the last cycle. -/
def dataFlushReadWay : Bits widths.dataWaysPerRamWord :=
  if !cfg.eccEn || state.dataFlushReadQ then
    dataRamWord widths (flushDataReadWay state input)
  else dataRamWord widths input.dataErrWay

/-- `data_flush_read_data_o`. -/
def dataFlushReadData : widths.AccessData :=
  muxOneHot (fun _ _ => 0) (dataFlushReadWay state input) fun i =>
    muxOneHot (fun _ _ => 0) state.dataFlushRowIndexQ fun row =>
      state.dataRentry (Fin.ofNat cfg.ways (row.val * widths.dataWaysPerRamWord + i.val))

/-! ## Sending the line -/

/-- `flush_resizer_w`. -/
def flushResizerW : Bool := Flush.resizerW state.flush

/-- `flush_resizer_wlast`. -/
def flushResizerWlast : Bool := flushResizerW state && Flush.eol state.flush

/-- `MemReqFlits`. -/
def memReqFlits (widths : FlushWidths cfg) : Nat :=
  if widths.memReqs < widths.lineReqs then widths.lineReqs / widths.memReqs - 1 else 0

/-- `flush_mem_req_rlast`. -/
def flushMemReqRlast : Bool := decide (state.writeFlitsCntQ = memReqFlits widths)

/-- `mem_req_write_data_valid_o`. -/
def memReqWriteDataValid : Bool := state.resizer.rok

/-- `mem_req_write_valid_o`. -/
def memReqWriteValid : Bool := state.flush.memReqMetaFifo.rok false false

/-- `mem_req_write_o`. -/
def memReqWrite : Flush.MemReq cfg :=
  state.flush.memReqMetaFifo.rdata false { nline := 0, memReqId := 0 }

/-! ## Next state -/

def dataRentryD : widths.RamData :=
  match input.otherRentry with
  | some data => data
  | none =>
      if flushDataRead state input then fun way =>
        input.array (flushDataReadSet state input) way (flushDataReadWord state input)
      else state.dataRentry

/-- `write_flits_cnt_q`, an 8-bit counter. -/
def writeFlitsCntD : Nat :=
  if memReqWriteDataValid state && input.memReqWriteDataReady then
    if flushMemReqRlast state then 0 else (state.writeFlitsCntQ + 1) % 2 ^ 8
  else state.writeFlitsCntQ

def step : State widths where
  flush := Flush.step state.flush (flushIn state input)
  dataRentry := dataRentryD state input
  dataFlushRowIndexQ :=
    if flushDataRead state input then dataRamRow widths (flushDataReadWay state input)
    else if cfg.eccEn && input.dataErrRead then dataRamRow widths input.dataErrWay
    else state.dataFlushRowIndexQ
  dataFlushReadQ := if cfg.eccEn then flushDataRead state input else state.dataFlushReadQ
  resizer :=
    state.resizer.step (flushResizerW state) (dataFlushReadData state input)
      (flushResizerWlast state) input.memReqWriteDataReady
  writeFlitsCntQ := writeFlitsCntD state input

end Signals

/-- The write-back path as a synchronous machine. -/
def machine {cfg : Cfg} (widths : FlushWidths cfg) (dataRentry : widths.RamData)
    (dataFlushReadQ : Bool) : Machine (State widths) (Input widths) where
  reset := reset widths dataRentry dataFlushReadQ
  step := step

end FlushPath

end Cva6Hpd.Hpdcache
