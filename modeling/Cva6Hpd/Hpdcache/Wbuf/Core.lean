import Cva6Hpd.Hw.Machine
import Cva6Hpd.Common.Arbiter
import Cva6Hpd.Common.FifoReg
import Mathlib.Data.Nat.Log

/-!
# The write buffer

`hpdcache_wbuf` has a directory of address tags with a four-state life cycle
and a separate pool of data buffers. A write either opens a free directory
entry, or is merged into the open or pending entry of its tag. A pending entry
is granted by a round-robin arbiter, which moves its tag and its buffer pointer
to the two send FIFOs; its data buffer is released when its data is sent, its
directory entry when the memory acknowledges it.
-/

namespace Cva6Hpd.Hpdcache.Wbuf

open Cva6Hpd.Hw
open Cva6Hpd.Common

/-! ## Configuration and state -/

/-- The parameters of the write buffer. Addresses are byte addresses; an entry
covers `wbufWords` request words of `reqBytes` bytes, a cache line
`lineEntries` entries, a memory word `memDataRatio` entries. -/
structure Cfg where
  wbufDirEntries : Nat
  wbufDataEntries : Nat
  wbufWords : Nat
  reqBytes : Nat
  lineEntries : Nat
  memDataRatio : Nat
  wbufTimecntWidth : Nat
  dirEntries_pos : 0 < wbufDirEntries
  dataEntries_pos : 0 < wbufDataEntries
  words_pos : 0 < wbufWords
  reqBytes_pos : 0 < reqBytes
  lineEntries_pos : 0 < lineEntries
  memDataRatio_pos : 0 < memDataRatio

namespace Cfg

variable (cfg : Cfg)

instance neZeroDirEntries : NeZero cfg.wbufDirEntries :=
  ⟨Nat.ne_of_gt cfg.dirEntries_pos⟩

instance neZeroDataEntries : NeZero cfg.wbufDataEntries :=
  ⟨Nat.ne_of_gt cfg.dataEntries_pos⟩

/-- Index of a directory entry, `wbuf_dir_ptr_t`. -/
abbrev DirPtr := Fin cfg.wbufDirEntries

/-- Index of a data buffer, `wbuf_data_ptr_t`. -/
abbrev DataPtr := Fin cfg.wbufDataEntries

abbrev Timecnt := BitVec cfg.wbufTimecntWidth

/-- One request word, `wbuf_data_t`, and its byte enables, `wbuf_be_t`. -/
abbrev Data := Fin cfg.reqBytes → BitVec 8

abbrev Be := Bits cfg.reqBytes

abbrev DataBuf := Fin cfg.wbufWords → cfg.Data

abbrev BeBuf := Fin cfg.wbufWords → cfg.Be

/-- The tag of the entry that covers a byte address. -/
def tagOf (addr : Nat) : Nat :=
  addr / (cfg.reqBytes * cfg.wbufWords)

/-- The request word of an address inside its entry. -/
def wordOf (addr : Nat) : Nat :=
  addr / cfg.reqBytes % cfg.wbufWords

/-- The cache line of an entry, `wbuf_tag_to_match_addr`. -/
def tagToMatchAddr (tag : Nat) : Nat :=
  tag / cfg.lineEntries

/-- The cache line of a byte address. -/
def matchAddr (addr : Nat) : Nat :=
  cfg.tagToMatchAddr (cfg.tagOf addr)

end Cfg

/-- `wbuf_state_e`. -/
inductive DirState where
  | wbufFree
  | wbufOpen
  | wbufPend
  | wbufSent
deriving DecidableEq, Repr

/-- `wbuf_dir_entry_t`. -/
structure DirEntry (cfg : Cfg) where
  ptr : cfg.DataPtr
  cnt : cfg.Timecnt
  tag : Nat
  uc : Bool
deriving DecidableEq

/-- `wbuf_data_entry_t`. -/
structure DataEntry (cfg : Cfg) where
  data : cfg.DataBuf
  be : cfg.BeBuf

/-- `wbuf_send_data_t`. -/
structure SendData (cfg : Cfg) where
  dataPtr : cfg.DataPtr
  dataTag : Nat
deriving DecidableEq

/-- `wbuf_send_meta_t`. -/
structure SendMeta (cfg : Cfg) where
  metaTag : Nat
  metaId : cfg.DirPtr
  metaUc : Bool
deriving DecidableEq

/-- The registers of the write buffer. -/
structure State (cfg : Cfg) where
  wbufDirStateQ : cfg.DirPtr → DirState
  wbufDirQ : cfg.DirPtr → DirEntry cfg
  wbufDataValidQ : Bits cfg.wbufDataEntries
  wbufDataQ : cfg.DataPtr → DataEntry cfg
  dirFreeArb : Arbiter cfg.wbufDirEntries
  dataFreeArb : Arbiter cfg.wbufDataEntries
  pendArb : Arbiter cfg.wbufDirEntries
  sendDataFifo : FifoReg cfg.wbufDataEntries (SendData cfg)
  sendMetaFifo : FifoReg cfg.wbufDataEntries (SendMeta cfg)

/-- The inputs of one cycle. -/
structure Input (cfg : Cfg) where
  flushAll : Bool
  cfgThreshold : cfg.Timecnt
  cfgResetTimecntOnWrite : Bool
  cfgSequentialWaw : Bool
  cfgInhibitWriteCoalescing : Bool
  write : Bool
  writeAddr : Nat
  writeData : cfg.Data
  writeBe : cfg.Be
  writeUc : Bool
  readAddr : Nat
  readFlushHit : Bool
  replayAddr : Nat
  replayIsRead : Bool
  memReqWriteReady : Bool
  memReqWriteDataReady : Bool
  memRespWriteValid : Bool
  memRespWId : Nat

/-- The write request presented to memory, `mem_req_write_o`. -/
structure MemReq (cfg : Cfg) where
  memReqAddr : Nat
  memReqId : cfg.DirPtr
  memReqCacheable : Bool

/-- The write data presented to memory, `mem_req_write_data_o`: `memDataRatio`
copies of the entry, of which the byte enables select one. -/
structure MemReqW (cfg : Cfg) where
  memReqWData : Fin cfg.memDataRatio → cfg.DataBuf
  memReqWBe : Fin cfg.memDataRatio → cfg.BeBuf

def reset (cfg : Cfg) : State cfg where
  wbufDirStateQ := fun _ => .wbufFree
  wbufDirQ := fun _ => { ptr := 0, cnt := 0, tag := 0, uc := false }
  wbufDataValidQ := Bits.zero
  wbufDataQ := fun _ => { data := fun _ _ => 0, be := fun _ _ => false }
  dirFreeArb := Fxarb.reset
  dataFreeArb := Fxarb.reset
  pendArb := Rrarb.reset
  sendDataFifo := FifoReg.reset { dataPtr := 0, dataTag := 0 }
  sendMetaFifo := FifoReg.reset { metaTag := 0, metaId := 0, metaUc := false }

/-- `wbuf_data_write`: the enabled bytes replace the old ones. -/
def wbufDataWrite {cfg : Cfg} (oldData : cfg.DataBuf) (oldBe : cfg.BeBuf)
    (newData : cfg.DataBuf) (newBe : cfg.BeBuf) : DataEntry cfg where
  data := fun w b => if newBe w b then newData w b else oldData w b
  be := fun w b => oldBe w b || newBe w b

section Signals

variable {cfg : Cfg} (state : State cfg) (input : Input cfg)

/-! ## Write control -/

def wbufDirFreeBv : Bits cfg.wbufDirEntries := fun i =>
  decide (state.wbufDirStateQ i = .wbufFree)

def wbufDirOpenBv : Bits cfg.wbufDirEntries := fun i =>
  decide (state.wbufDirStateQ i = .wbufOpen)

def wbufDirPendBv : Bits cfg.wbufDirEntries := fun i =>
  decide (state.wbufDirStateQ i = .wbufPend)

def wbufDirSentBv : Bits cfg.wbufDirEntries := fun i =>
  decide (state.wbufDirStateQ i = .wbufSent)

def empty : Bool := (wbufDirFreeBv state).all

def full : Bool := decide (∀ i, wbufDirFreeBv state i = false)

def writeTag : Nat := cfg.tagOf input.writeAddr

/-- `mem_resp_w_id[0 +: wbufDirPtrWidth]`. -/
def ackId : Nat := input.memRespWId % 2 ^ Nat.clog 2 cfg.wbufDirEntries

/-- The write word replicated over the entry. -/
def writeDataBuf : cfg.DataBuf := fun _ => input.writeData

/-- The byte enables at the written word, none elsewhere. -/
def writeBeBuf : cfg.BeBuf := fun w =>
  if w.val = cfg.wordOf input.writeAddr then input.writeBe else fun _ => false

def wbufDirFree : Bool := (wbufDirFreeBv state).any

def wbufDataFreeBv : Bits cfg.wbufDataEntries := fun p => !state.wbufDataValidQ p

def wbufDataFree : Bool := !state.wbufDataValidQ.all

def wbufDirFreePtrBv : Bits cfg.wbufDirEntries :=
  Fxarb.gnt state.dirFreeArb (wbufDirFreeBv state)

def wbufDataFreePtrBv : Bits cfg.wbufDataEntries :=
  Fxarb.gnt state.dataFreeArb (wbufDataFreeBv state)

def wbufDataFreePtr : cfg.DataPtr := (wbufDataFreePtrBv state).lastIndex

/-- The entries of the written tag that are in state `dirState`. -/
def wbufWriteHitBv (dirState : DirState) : Bits cfg.wbufDirEntries := fun i =>
  decide ((state.wbufDirQ i).tag = writeTag input ∧ state.wbufDirStateQ i = dirState)

def wbufWriteHitOpen : Bool := (wbufWriteHitBv state input .wbufOpen).any

def wbufWriteHitPend : Bool := (wbufWriteHitBv state input .wbufPend).any

def wbufWriteHitSent : Bool := (wbufWriteHitBv state input .wbufSent).any

def wbufWriteHitOpenDirPtr : cfg.DirPtr :=
  (wbufWriteHitBv state input .wbufOpen).lastIndex

def wbufWriteHitPendDirPtr : cfg.DirPtr :=
  (wbufWriteHitBv state input .wbufPend).lastIndex

/-- `read_hit_o`: some entry in use belongs to the line of the read address. -/
def readHit : Bool :=
  Bits.any fun i : cfg.DirPtr =>
    decide (state.wbufDirStateQ i ≠ .wbufFree) &&
      decide (cfg.tagToMatchAddr (state.wbufDirQ i).tag = cfg.matchAddr input.readAddr)

/-- A replayed read compares lines, a replayed write compares entry tags. -/
def replayMatch : Bits cfg.wbufDirEntries := fun i =>
  if input.replayIsRead then
    decide (cfg.tagToMatchAddr (state.wbufDirQ i).tag = cfg.matchAddr input.replayAddr)
  else
    decide ((state.wbufDirQ i).tag = cfg.tagOf input.replayAddr)

def replayOpenHit : Bool :=
  Bits.any fun i => replayMatch state input i && wbufDirOpenBv state i

def replayPendHit : Bool :=
  Bits.any fun i => replayMatch state input i && wbufDirPendBv state i

def replaySentHit : Bool :=
  Bits.any fun i => replayMatch state input i && wbufDirSentBv state i

def replayNotReady : Bool :=
  if replayPendHit state input then true
  else if replaySentHit state input && input.cfgSequentialWaw then true
  else !replayOpenHit state input && (!wbufDirFree state || !wbufDataFree state)

/-- A new entry may be opened for the write. -/
def wbufWriteFree : Bool :=
  wbufDirFree state && wbufDataFree state &&
    !wbufWriteHitOpen state input && !wbufWriteHitPend state input &&
    !(wbufWriteHitSent state input && input.cfgSequentialWaw)

/-- `write_ready_o`. -/
def writeReady : Bool :=
  wbufWriteFree state input ||
    ((wbufWriteHitOpen state input || wbufWriteHitPend state input) &&
      !input.cfgInhibitWriteCoalescing)

/-! ## Send control -/

def sendDataReady : Bool :=
  state.sendDataFifo.wok false input.memReqWriteDataReady

def sendMetaReady : Bool :=
  state.sendMetaFifo.wok false input.memReqWriteReady

def wbufSendGrant : Bits cfg.wbufDirEntries :=
  Rrarb.gnt state.pendArb (wbufDirPendBv state)

/-- The entry selected by the one-hot multiplexers of the send control. -/
def wbufSendPtr : cfg.DirPtr := (wbufSendGrant state).lastIndex

def wbufMetaSend : SendMeta cfg where
  metaTag := (state.wbufDirQ (wbufSendPtr state)).tag
  metaId := wbufSendPtr state
  metaUc := (state.wbufDirQ (wbufSendPtr state)).uc

def sendDataD : SendData cfg where
  dataPtr := (state.wbufDirQ (wbufSendPtr state)).ptr
  dataTag := (wbufMetaSend state).metaTag

def sendDataW : Bool := (wbufDirPendBv state).any && sendMetaReady state input

def sendMetaValid : Bool := (wbufDirPendBv state).any && sendDataReady state input

def memReqWriteDataValid : Bool :=
  state.sendDataFifo.rok false (sendDataW state input)

def memReqWriteValid : Bool :=
  state.sendMetaFifo.rok false (sendMetaValid state input)

/-- The head of the data FIFO, `send_data_q`. -/
def sendDataQ : SendData cfg := state.sendDataFifo.rdata false (sendDataD state)

/-- The head of the meta-data FIFO, `wbuf_meta_send_q`. -/
def wbufMetaSendQ : SendMeta cfg := state.sendMetaFifo.rdata false (wbufMetaSend state)

def memReqWrite : MemReq cfg where
  memReqAddr := (wbufMetaSendQ state).metaTag * (cfg.reqBytes * cfg.wbufWords)
  memReqId := (wbufMetaSendQ state).metaId
  memReqCacheable := !(wbufMetaSendQ state).metaUc

/-- The data buffer at the head of the data FIFO, its byte enables put at the
position of the entry inside the memory word. -/
def memReqWriteData : MemReqW cfg where
  memReqWData := fun _ => (state.wbufDataQ (sendDataQ state).dataPtr).data
  memReqWBe := fun position =>
    if position.val = (sendDataQ state).dataTag % cfg.memDataRatio then
      (state.wbufDataQ (sendDataQ state).dataPtr).be
    else
      fun _ _ => false

/-! ## Update control -/

def matchFree (i : cfg.DirPtr) : Bool :=
  wbufWriteFree state input && wbufDirFreePtrBv state i

/-- The write opens entry `i`. -/
def allocAt : Bits cfg.wbufDirEntries := fun i =>
  decide (state.wbufDirStateQ i = .wbufFree) && (input.write && matchFree state input i)

/-- `write_hit` of an open entry. -/
def writeHitOpenAt : Bits cfg.wbufDirEntries := fun i =>
  decide (state.wbufDirStateQ i = .wbufOpen) &&
    (input.write && wbufWriteHitOpen state input &&
      decide (i = wbufWriteHitOpenDirPtr state input) &&
      !input.cfgInhibitWriteCoalescing)

/-- `write_hit` of a pending entry. -/
def writeHitPendAt : Bits cfg.wbufDirEntries := fun i =>
  decide (state.wbufDirStateQ i = .wbufPend) &&
    (input.write && wbufWriteHitPend state input &&
      decide (i = wbufWriteHitPendDirPtr state input) &&
      !input.cfgInhibitWriteCoalescing)

/-- The write is merged into entry `i`. -/
def writeHitAt : Bits cfg.wbufDirEntries := fun i =>
  writeHitOpenAt state input i || writeHitPendAt state input i

/-- `cnt == threshold - 1`, compared at the width of the literal. -/
def timeoutAt (i : cfg.DirPtr) : Bool :=
  let width := max cfg.wbufTimecntWidth 32
  (state.wbufDirQ i).cnt.setWidth width == input.cfgThreshold.setWidth width -
    BitVec.ofNat width 1

def readHitAt (i : cfg.DirPtr) : Bool :=
  input.readFlushHit && wbufWriteHitOpen state input &&
    decide (i = wbufWriteHitOpenDirPtr state input)

/-- The timeout after a write may have reset the counter. -/
def timeoutNow (i : cfg.DirPtr) : Bool :=
  timeoutAt state input i &&
    !(writeHitOpenAt state input i && input.cfgResetTimecntOnWrite)

/-- The new entry is closed at once. -/
def sendAtOnce : Bool :=
  input.cfgThreshold == 0 || input.writeUc || input.flushAll ||
    input.cfgInhibitWriteCoalescing

/-- Entry `i` leaves for the send FIFOs. -/
def sendAt : Bits cfg.wbufDirEntries := fun i =>
  decide (state.wbufDirStateQ i = .wbufPend) &&
    (wbufSendGrant state i && sendDataReady state input && sendMetaReady state input)

def ackAt : Bits cfg.wbufDirEntries := fun i =>
  decide (state.wbufDirStateQ i = .wbufSent) &&
    (input.memRespWriteValid && decide (i.val = ackId input))

def wbufDirStateD (i : cfg.DirPtr) : DirState :=
  match state.wbufDirStateQ i with
  | .wbufFree =>
      if allocAt state input i then
        if sendAtOnce input then .wbufPend else .wbufOpen
      else
        .wbufFree
  | .wbufOpen =>
      if input.flushAll then .wbufPend
      else if readHitAt state input i || timeoutNow state input i ||
          input.cfgInhibitWriteCoalescing then .wbufPend
      else .wbufOpen
  | .wbufPend => if sendAt state input i then .wbufSent else .wbufPend
  | .wbufSent => if ackAt state input i then .wbufFree else .wbufSent

def wbufDirD (i : cfg.DirPtr) : DirEntry cfg :=
  match state.wbufDirStateQ i with
  | .wbufFree =>
      if allocAt state input i then
        { ptr := wbufDataFreePtr state, cnt := 0, tag := writeTag input,
          uc := input.writeUc }
      else
        state.wbufDirQ i
  | .wbufOpen =>
      if input.flushAll then
        state.wbufDirQ i
      else if writeHitOpenAt state input i && input.cfgResetTimecntOnWrite then
        { state.wbufDirQ i with cnt := 0 }
      else if !timeoutAt state input i then
        { state.wbufDirQ i with cnt := (state.wbufDirQ i).cnt + 1 }
      else
        state.wbufDirQ i
  | .wbufPend => state.wbufDirQ i
  | .wbufSent => state.wbufDirQ i

/-- The data buffer that entry `i` writes when it opens or merges. -/
def dataPtrAt (i : cfg.DirPtr) : cfg.DataPtr :=
  if allocAt state input i then wbufDataFreePtr state else (state.wbufDirQ i).ptr

def dataWriteAt : Bits cfg.wbufDirEntries := fun i =>
  allocAt state input i || writeHitAt state input i

def wbufDataWInit : Bool := (allocAt state input).any

def wbufDataW : Bool := (dataWriteAt state input).any

/-- The loop over the entries ends with the pointer of the last writing one. -/
def wbufDataWPtr : cfg.DataPtr :=
  dataPtrAt state input (dataWriteAt state input).lastIndex

def wbufDataD : cfg.DataPtr → DataEntry cfg :=
  if wbufDataW state input then
    let ptr := wbufDataWPtr state input
    let bufBe := if wbufDataWInit state input then fun _ _ => false
      else (state.wbufDataQ ptr).be
    Function.update state.wbufDataQ ptr
      (wbufDataWrite (state.wbufDataQ ptr).data bufBe (writeDataBuf input)
        (writeBeBuf input))
  else
    state.wbufDataQ

def wbufDataValidD : Bits cfg.wbufDataEntries :=
  let allocated :=
    if input.write && wbufWriteFree state input then
      Function.update state.wbufDataValidQ (wbufDataFreePtr state) true
    else
      state.wbufDataValidQ
  if memReqWriteDataValid state input && input.memReqWriteDataReady then
    Function.update allocated (sendDataQ state).dataPtr false
  else
    allocated

def step : State cfg where
  wbufDirStateQ := wbufDirStateD state input
  wbufDirQ := wbufDirD state input
  wbufDataValidQ := wbufDataValidD state input
  wbufDataQ := wbufDataD state input
  dirFreeArb :=
    Fxarb.step state.dirFreeArb (wbufDirFreeBv state)
      (input.write && wbufWriteFree state input)
  dataFreeArb :=
    Fxarb.step state.dataFreeArb (wbufDataFreeBv state)
      (input.write && wbufWriteFree state input)
  pendArb :=
    Rrarb.step state.pendArb (wbufDirPendBv state)
      (sendDataReady state input && sendMetaReady state input)
  sendDataFifo :=
    state.sendDataFifo.step false (sendDataW state input) (sendDataD state)
      input.memReqWriteDataReady
  sendMetaFifo :=
    state.sendMetaFifo.step false (sendMetaValid state input) (wbufMetaSend state)
      input.memReqWriteReady

end Signals

/-- The write buffer as a synchronous machine. -/
def machine (cfg : Cfg) : Machine (State cfg) (Input cfg) where
  reset := reset cfg
  step := step

end Cva6Hpd.Hpdcache.Wbuf
