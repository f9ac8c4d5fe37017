import Cva6Hpd.Hpdcache.MissHandler
import Cva6Hpd.Common.DataResize
import Cva6Hpd.Hw.Machine
import Mathlib.Data.Nat.Log

/-!
# The refill data path

The miss handler together with the data of its responses: the resizer that turns
the beats of the memory into accesses of the data array, the merge of the
coalesced bytes, and the response sent to the core. Widths are counted in
request words, the width of the data the core exchanges with the cache.
-/

namespace Cva6Hpd.Hpdcache

open Cva6Hpd.Hw
open Cva6Hpd.Common

/-- `clWidth`, in bits. -/
def Cfg.clWidth (cfg : Cfg) : Nat := cfg.clWords * (8 * cfg.wordBytes)

/-- The widths of the refill path: a request word is `reqWords` words wide, an
access, a beat of the memory and a line a number of request words. -/
structure Widths (cfg : Cfg) where
  reqWords : Nat
  accessReqs : Nat
  memReqs : Nat
  lineReqs : Nat
  reqWords_pos : 0 < reqWords
  accessReqs_pos : 0 < accessReqs
  memReqs_pos : 0 < memReqs
  accessWords_eq : cfg.accessWords = accessReqs * reqWords
  clWords_eq : cfg.clWords = lineReqs * reqWords
  clWords_gt : 1 < cfg.clWords
  reqBytes_eq : cfg.wbuf.reqBytes = reqWords * cfg.wordBytes
  accessReqs_pow : 2 ^ Nat.clog 2 accessReqs = accessReqs
  access_dvd : accessReqs ∣ lineReqs
  mem_dvd : memReqs ∣ lineReqs
  resize : memReqs ∣ accessReqs ∨ accessReqs ∣ memReqs

namespace Widths

variable {cfg : Cfg} (widths : Widths cfg)

instance neZeroAccessReqs : NeZero widths.accessReqs :=
  ⟨Nat.ne_of_gt widths.accessReqs_pos⟩

instance neZeroMemReqs : NeZero widths.memReqs := ⟨Nat.ne_of_gt widths.memReqs_pos⟩

/-- `hpdcache_mem_data_t`: one beat of a read response. -/
abbrev MemData := Fin widths.memReqs → cfg.wbuf.Data

/-- `hpdcache_refill_data_t`: one access of the data array. -/
abbrev AccessData := Fin widths.accessReqs → cfg.wbuf.Data

/-- The accesses of a line. -/
def lineAccesses : Nat := widths.lineReqs / widths.accessReqs

/-- The beats of a line, `REFILL_REQ_LEN`. -/
def lineBeats : Nat := widths.lineReqs / widths.memReqs

/-- The refill data buffer for reads of the memory's beats. -/
abbrev RefillFifo := DataResize cfg.refillFifoDepth widths.memReqs widths.accessReqs cfg.wbuf.Data

/-- `reqDataWidth`, in bits. -/
def reqDataWidth : Nat := widths.reqWords * (8 * cfg.wordBytes)

/-- `memDataWidth`, in bits. -/
def memDataWidth : Nat := widths.memReqs * widths.reqDataWidth

/-- The conditions that `hpdcache` checks at elaboration. -/
def ElaborationChecks : Prop :=
  (8 * cfg.wordBytes = 32 ∨ 8 * cfg.wordBytes = 64) ∧
    widths.reqWords ≤ cfg.accessWords ∧
    cfg.accessWords ≤ cfg.clWords ∧
    1 < cfg.clWords ∧
    widths.memDataWidth ≤ cfg.clWidth ∧
    widths.reqDataWidth ≤ widths.memDataWidth ∧
    cfg.mshrWays * cfg.mshrSets ≤ 2 ^ cfg.memIdWidth - 1 ∧
    (cfg.wtEn = true → cfg.wbuf.wbufDirEntries ≤ 2 ^ (cfg.memIdWidth - 1)) ∧
    (cfg.wtEn = true → cfg.wbuf.wbufWords * widths.reqDataWidth ≤ widths.memDataWidth) ∧
    (cfg.wbEn = true → cfg.flushEntries + 1 ≤ 2 ^ (cfg.memIdWidth - 1)) ∧
    (cfg.wtEn = true ∨ cfg.wbEn = true) ∧
    (cfg.lowLatency = true ∨ cfg.eccEn = false)

instance decidableElaborationChecks : Decidable widths.ElaborationChecks :=
  inferInstanceAs (Decidable (_ ∧ _))

theorem fits : DataResize.Fits widths.memReqs widths.accessReqs :=
  ⟨widths.memReqs_pos, widths.accessReqs_pos, widths.resize⟩

theorem lineReqs_pos : 0 < widths.lineReqs := by
  have positive : 0 < widths.lineReqs * widths.reqWords := by
    have wide := widths.clWords_gt
    rw [widths.clWords_eq] at wide
    omega
  exact Nat.pos_of_mul_pos_right positive

theorem lineAccesses_mul : widths.lineAccesses * widths.accessReqs = widths.lineReqs :=
  Nat.div_mul_cancel widths.access_dvd

theorem lineBeats_mul : widths.lineBeats * widths.memReqs = widths.lineReqs :=
  Nat.div_mul_cancel widths.mem_dvd

theorem lineAccesses_pos : 0 < widths.lineAccesses := by
  have positive := widths.lineReqs_pos
  rw [← widths.lineAccesses_mul] at positive
  exact Nat.pos_of_mul_pos_right positive

theorem lineBeats_pos : 0 < widths.lineBeats := by
  have positive := widths.lineReqs_pos
  rw [← widths.lineBeats_mul] at positive
  exact Nat.pos_of_mul_pos_right positive

theorem clWords_eq_accesses : cfg.clWords = widths.lineAccesses * cfg.accessWords := by
  rw [widths.clWords_eq, widths.accessWords_eq, ← Nat.mul_assoc, widths.lineAccesses_mul]

end Widths

namespace Refill

/-- `mem_resp_r_data` and the flags of one beat. -/
structure Beat {cfg : Cfg} (widths : Widths cfg) where
  error : Bool
  id : Nat
  data : widths.MemData

/-- The miss handler and the data of the responses in flight. -/
structure State {cfg : Cfg} (widths : Widths cfg) where
  miss : MissHandler.State cfg
  dataResize : widths.RefillFifo
  coreRspData : FifoReg 1 cfg.wbuf.Data

/-- The inputs of one cycle; `refillDataWok` of the miss handler is driven by
the resizer. -/
structure Input {cfg : Cfg} (widths : Widths cfg) where
  ports : MissHandler.Input cfg
  memRespData : widths.MemData

def reset {cfg : Cfg} (widths : Widths cfg)
    (powerUp : Sram cfg.mshrSets cfg.mshrWays (Mshr.Entry cfg)) : State widths where
  miss := MissHandler.reset powerUp
  dataResize := DataResize.reset fun _ => 0
  coreRspData := FifoReg.reset fun _ => 0

section Signals

variable {cfg : Cfg} {widths : Widths cfg} (state : State widths) (input : Input widths)

/-- The inputs of the miss handler. -/
def missInput : MissHandler.Input cfg :=
  { input.ports with refillDataWok := state.dataResize.wok }

/-- `refill_fifo_resp_meta_wok`. -/
def respMetaWok : Bool := state.miss.respMetaFifo.wok false false

/-- `refill_fifo_resp_data_w`. -/
def respDataW : Bool :=
  input.ports.memRespValid &&
    ((respMetaWok state || !input.ports.memRespLast) && !input.ports.memRespInval)

/-- `mem_resp_ready_o`. -/
def memRespReady : Bool :=
  if input.ports.memRespValid then
    if input.ports.memRespInval then respMetaWok state
    else (respMetaWok state || !input.ports.memRespLast) && state.dataResize.wok
  else false

/-- The variables and outputs of `miss_resp_fsm_comb`. -/
def out : MissHandler.RefillOut cfg :=
  MissHandler.missRespFsmComb state.miss (missInput state input)

/-- `refill_word_o`. -/
def refillWord : Nat := state.miss.refillCntQ

/-- `refill_core_rsp_word`: the missed request word, given while the line is
being written. -/
def coreRspWord : Nat :=
  if state.miss.refillFsmQ = .refillWrite then
    if state.miss.refillCntQ = 0 then
      (MissHandler.mshrAckEntry state.miss).wordIdx / widths.reqWords
    else state.miss.refillCoreRspWordQ / widths.reqWords
  else 0

/-- The request word of the access that `refill_core_rsp_word` selects. -/
def coreRspSel : Nat := coreRspWord state % 2 ^ Nat.clog 2 widths.accessReqs

/-- The bytes of `merged` replace those of `clean`. -/
def mergeBytes (clean : cfg.wbuf.Data) (merged : MissHandler.CbufEntry cfg) :
    cfg.wbuf.Data :=
  fun b => if merged.be b then merged.wdata b else clean b

/-- `refill_data_o`: the access read from the resizer, with the coalesced bytes
in the selected request word. -/
def refillData : widths.AccessData := fun i =>
  let clean := state.dataResize.rdata i
  if cfg.wbEn && ((out state input).refillDirtyValid && decide (i.val = coreRspSel state)) then
    mergeBytes clean (out state input).refillDirtyData
  else clean

/-- `refill_core_rsp_rdata`: the selected request word. -/
def coreRspRdata : cfg.wbuf.Data :=
  refillData state input (Fin.ofNat widths.accessReqs (coreRspSel state))

/-- `refill_core_rsp_o`, the data. -/
def coreRspDataO : cfg.wbuf.Data :=
  state.coreRspData.rdata cfg.refillCoreRspFeedthrough (coreRspRdata state input)

def step : State widths where
  miss := MissHandler.step state.miss (missInput state input)
  dataResize :=
    state.dataResize.step (respDataW state input) input.memRespData input.ports.memRespLast
      (out state input).refillFifoRespDataR
  coreRspData :=
    state.coreRspData.step cfg.refillCoreRspFeedthrough
      (MissHandler.refillCoreRspValid state.miss) (coreRspRdata state input) true

end Signals

/-- The refill path as a synchronous machine. -/
def machine {cfg : Cfg} (widths : Widths cfg)
    (powerUp : Sram cfg.mshrSets cfg.mshrWays (Mshr.Entry cfg)) :
    Machine (State widths) (Input widths) where
  reset := reset widths powerUp
  step := step

/-! ## A small configuration -/

/-- Lines of two 32-bit words, written one word at a time, one miss at a time. -/
def smallCfg (refillFifoDepth : Nat) (depth_pos : 0 < refillFifoDepth) : Cfg where
  sets := 2
  ways := 1
  mshrSets := 1
  mshrWays := 1
  rtabEntries := 1
  flushEntries := 1
  cbufEntries := 1
  refillFifoDepth := refillFifoDepth
  clWords := 2
  accessWords := 1
  mshrUseRegbank := true
  refillCoreRspFeedthrough := true
  victimSel := .random
  memIdWidth := 2
  wordBytes := 4
  lineBytes := 8
  wtEn := true
  wbEn := true
  lowLatency := true
  eccEn := false
  eccScrubberEn := false
  wbuf := {
    wbufDirEntries := 1
    wbufDataEntries := 1
    wbufWords := 1
    reqBytes := 4
    lineEntries := 2
    memDataRatio := 1
    wbufTimecntWidth := 1
    dirEntries_pos := Nat.one_pos
    dataEntries_pos := Nat.one_pos
    words_pos := Nat.one_pos
    reqBytes_pos := by decide
    lineEntries_pos := Nat.two_pos
    memDataRatio_pos := Nat.one_pos }
  sets_pos := Nat.two_pos
  ways_pos := Nat.one_pos
  mshrSets_pos := Nat.one_pos
  mshrWays_pos := Nat.one_pos
  rtabEntries_pos := Nat.one_pos
  flushEntries_pos := Nat.one_pos
  cbufEntries_pos := Nat.one_pos
  refillFifoDepth_pos := depth_pos
  accessWords_pos := Nat.one_pos
  accessWords_le := by decide
  lineBytes_pos := by decide
  lineBytes_eq := by decide
  mshrSets_dvd := by decide
  writePolicy := Cfg.small.writePolicy
  memIds := by decide

/-- Requests, accesses and beats of one word. -/
def smallWidths (refillFifoDepth : Nat) (depth_pos : 0 < refillFifoDepth) :
    Widths (smallCfg refillFifoDepth depth_pos) where
  reqWords := 1
  accessReqs := 1
  memReqs := 1
  lineReqs := 2
  reqWords_pos := Nat.one_pos
  accessReqs_pos := Nat.one_pos
  memReqs_pos := Nat.one_pos
  accessWords_eq := rfl
  clWords_eq := rfl
  clWords_gt := Nat.one_lt_two
  reqBytes_eq := rfl
  accessReqs_pow := by decide
  access_dvd := by decide
  mem_dvd := by decide
  resize := by decide

/-- A cycle without requests or responses. -/
def Input.quiet {cfg : Cfg} (widths : Widths cfg) : Input widths where
  ports := {
    cfgPrefetchUpdtSelVictim := false
    mshrCheck := false
    mshrCheckSet := 0
    mshrAlloc := false
    mshrAllocCs := false
    mshrAllocNline := 0
    mshrAllocTid := 0
    mshrAllocSid := 0
    mshrAllocWord := 0
    mshrAllocVictimWay := Bits.zero
    mshrAllocNeedRsp := false
    mshrAllocIsPrefetch := false
    mshrAllocWback := false
    mshrAllocDirty := false
    mshrAllocData := MissHandler.CbufEntry.zero
    refillReqReady := false
    invalHit := false
    memReqReady := false
    memRespValid := false
    memRespError := false
    memRespId := 0
    memRespLast := false
    memRespInval := false
    memRespInvalNline := 0
    refillDataWok := false }
  memRespData := fun _ _ => 0

/-- The MSHR at power up. -/
def clearMshr (cfg : Cfg) : Sram cfg.mshrSets cfg.mshrWays (Mshr.Entry cfg) where
  mem := fun _ _ => {
    tag := 0
    reqId := 0
    srcId := 0
    wordIdx := 0
    victimWayIdx := 0
    wback := false
    dirty := false
    needRsp := false
    isPrefetch := false
    cbufId := 0 }
  rdata := fun _ => {
    tag := 0
    reqId := 0
    srcId := 0
    wordIdx := 0
    victimWayIdx := 0
    wback := false
    dirty := false
    needRsp := false
    isPrefetch := false
    cbufId := 0 }

end Refill

end Cva6Hpd.Hpdcache
