import Cva6Hpd.Hpdcache.Pkg
import Cva6Hpd.Hw.Bytes
import Cva6Hpd.Hw.Machine

/-!
# The handler of uncacheable requests and atomics

`hpdcache_uncached` serves one request at a time: it forwards it to the memory,
address and data each at its own time, waits for the responses, updates the
cached copy with the result of an AMO that hits, and answers the core. It also
keeps the LR/SC reservation. The flags of `hpdcache_uc_op_t` are the tests of the
operation code; addresses are byte addresses.
-/

namespace Cva6Hpd.Hpdcache.Uncached

open Cva6Hpd.Hw

/-! ## Registers and inputs -/

/-- `hpdcache_uc_fsm_t`. -/
inductive UcFsm where
  | idle
  | memReq
  | memWReq
  | memWdataReq
  | memWaitRsp
  | coreRsp
  | amoWriteData
deriving DecidableEq, Repr

/-- `AMO_SC_SUCCESS` and `AMO_SC_FAILURE`. -/
def amoScSuccess : Bool := false

def amoScFailure : Bool := true

/-- `MEM_REQ_RATIO`: the request words of a memory word. -/
def memReqRatio (cfg : Cfg) : Nat := cfg.wbuf.memDataRatio * cfg.wbuf.wbufWords

theorem memReqRatio_pos (cfg : Cfg) : 0 < memReqRatio cfg :=
  Nat.mul_pos cfg.wbuf.memDataRatio_pos cfg.wbuf.words_pos

/-- The bytes of a memory word. -/
def memBytes (cfg : Cfg) : Nat := memReqRatio cfg * cfg.wbuf.reqBytes

/-- One memory word. -/
abbrev MemData (cfg : Cfg) := Fin (memBytes cfg) → BitVec 8

/-- The byte enables of one memory word. -/
abbrev MemBe (cfg : Cfg) := Bits (memBytes cfg)

/-- The request registers. -/
structure Request (cfg : Cfg) where
  op : ReqOp
  addr : Nat
  size : Nat
  data : cfg.wbuf.Data
  be : cfg.wbuf.Be
  uc : Bool
  sid : Nat
  tid : Nat
  needRsp : Bool
  hitWay : cfg.WayVector
  oldData : cfg.wbuf.Data

/-- The registers of `hpdcache_uncached`. -/
structure State (cfg : Cfg) where
  ucFsmQ : UcFsm
  reqQ : Request cfg
  ucScRetcodeQ : Bool
  rspRdataQ : cfg.wbuf.Data
  rspErrorQ : Bool
  memRespWriteValidQ : Bool
  memRespReadValidQ : Bool
  lrscRsrvValidQ : Bool
  lrscRsrvAddrQ : Nat

/-- The inputs of one cycle. -/
structure Input (cfg : Cfg) where
  reqValid : Bool
  req : Request cfg
  lrscSnoop : Bool
  lrscSnoopAddr : Nat
  lrscSnoopSize : Nat
  coreRspReady : Bool
  memReqReadReady : Bool
  memRespReadValid : Bool
  memRespRError : Bool
  memRespRData : MemData cfg
  memReqWriteReady : Bool
  memReqWriteDataReady : Bool
  memRespWriteValid : Bool
  memRespWError : Bool
  memRespWIsAtomic : Bool
  cfgErrorOnCacheableAmo : Bool

/-- The registers that the state machine drives, and its other outputs. -/
structure FsmOut where
  ucFsmD : UcFsm
  memRespWriteValidD : Bool
  memRespReadValidD : Bool
  rspErrorSet : Bool
  rspErrorRst : Bool
  lrscRsrvAddrD : Nat
  ucScRetcodeD : Bool
  wbufFlushAll : Bool
  lrscUcSet : Bool
  lrscUcReset : Bool

section Signals

variable {cfg : Cfg} (s : State cfg) (i : Input cfg)

/-! ## LR/SC reservation buffer -/

/-- The line address of a byte address. -/
def nlineOf (cfg : Cfg) (addr : Nat) : Nat := addr / cfg.lineBytes

/-- The double word of a byte address inside its line. -/
def wordOf (cfg : Cfg) (addr : Nat) : Nat := addr % cfg.lineBytes / 8

/-- `lrsc_snoop_words`: the eight bits of the size are shifted, and the count is
truncated to an offset. -/
def lrscSnoopWords : Nat :=
  if i.lrscSnoopSize < 3 then 1 else (2 ^ i.lrscSnoopSize % 2 ^ 8) / 8 % cfg.lineBytes

def lrscSnoopBase : Nat := wordOf cfg i.lrscSnoopAddr

def lrscSnoopEnd : Nat := (lrscSnoopBase i + lrscSnoopWords i) % cfg.lineBytes

def lrscSnoopHit : Bool :=
  s.lrscRsrvValidQ && nlineOf cfg s.lrscRsrvAddrQ == nlineOf cfg i.lrscSnoopAddr &&
    decide (lrscSnoopBase i ≤ wordOf cfg s.lrscRsrvAddrQ) &&
    decide (wordOf cfg s.lrscRsrvAddrQ < lrscSnoopEnd i)

def lrscSnoopReset : Bool := i.lrscSnoop && lrscSnoopHit s i

def lrscUcHit : Bool :=
  s.lrscRsrvValidQ && nlineOf cfg s.lrscRsrvAddrQ == nlineOf cfg i.req.addr &&
    wordOf cfg s.lrscRsrvAddrQ == wordOf cfg i.req.addr

/-! ## The state machine -/

def reqHit : Bool := s.reqQ.hitWay.any

/-- `req_is_amo`: the atomics that read and write the memory. -/
def reqIsAmo : ReqOp → Bool
  | .amoSwap | .amoAdd | .amoAnd | .amoOr | .amoXor | .amoMax | .amoMaxu | .amoMin
  | .amoMinu => true
  | _ => false

/-- The operations with a write request: the `unique case` of the states that
send it. -/
def reqIsWrite (op : ReqOp) : Bool := op.isStore || op == .amoSc || reqIsAmo op

/-- The defaults of `uc_fsm_comb`. -/
def fsmDefaults : FsmOut where
  ucFsmD := s.ucFsmQ
  memRespWriteValidD := s.memRespWriteValidQ
  memRespReadValidD := s.memRespReadValidQ
  rspErrorSet := false
  rspErrorRst := false
  lrscRsrvAddrD := s.lrscRsrvAddrQ
  ucScRetcodeD := s.ucScRetcodeQ
  wbufFlushAll := false
  lrscUcSet := false
  lrscUcReset := false

/-- An atomic on a cacheable address that the configuration answers with an
error. -/
def refused : Bool := !i.req.uc && i.cfgErrorOnCacheableAmo

/-- `UC_IDLE`. -/
def idleComb : FsmOut :=
  let o := fsmDefaults s
  if i.reqValid then
    let o := { o with wbufFlushAll := true }
    if i.req.op.isLoad || i.req.op.isStore then
      { o with ucFsmD := .memReq }
    else if reqIsAmo i.req.op || i.req.op == .amoLr then
      let o := { o with lrscUcReset := decide (i.req.op ≠ ReqOp.amoLr) && lrscUcHit s i }
      if refused i then { o with rspErrorSet := true, ucFsmD := .coreRsp }
      else { o with ucFsmD := .memReq }
    else if i.req.op == .amoSc then
      if refused i then { o with rspErrorSet := true, ucFsmD := .coreRsp }
      else
        let o := { o with lrscUcReset := true }
        if lrscUcHit s i then { o with ucFsmD := .memReq }
        else { o with ucScRetcodeD := amoScFailure, ucFsmD := .coreRsp }
    else if i.req.needRsp then { o with rspErrorSet := true, ucFsmD := .coreRsp }
    else o
  else o

/-- `UC_MEM_REQ`. -/
def memReqComb : FsmOut :=
  let o := { fsmDefaults s with memRespWriteValidD := false, memRespReadValidD := false }
  if s.reqQ.op.isLoad || s.reqQ.op == .amoLr then
    if i.memReqReadReady then { o with ucFsmD := .memWaitRsp } else o
  else if reqIsWrite s.reqQ.op then
    if i.memReqWriteReady && i.memReqWriteDataReady then { o with ucFsmD := .memWaitRsp }
    else if i.memReqWriteReady then { o with ucFsmD := .memWdataReq }
    else if i.memReqWriteDataReady then { o with ucFsmD := .memWReq }
    else o
  else o

/-- `UC_MEM_W_REQ`. -/
def memWReqComb : FsmOut :=
  let o := fsmDefaults s
  if i.memReqWriteReady then { o with ucFsmD := .memWaitRsp } else o

/-- `UC_MEM_WDATA_REQ`: the read response of an AMO may already come. -/
def memWdataReqComb : FsmOut :=
  let o := { fsmDefaults s with
    memRespReadValidD := s.memRespReadValidQ || i.memRespReadValid }
  if i.memReqWriteDataReady then { o with ucFsmD := .memWaitRsp } else o

def rdError : Bool := i.memRespReadValid && i.memRespRError

def wrError : Bool := i.memRespWriteValid && i.memRespWError

/-- The exclusive store was performed. -/
def isAtomic : Bool := i.memRespWIsAtomic && !wrError i

/-- The last of the two responses of an AMO arrives. -/
def amoResponded : Bool :=
  (i.memRespReadValid && i.memRespWriteValid) ||
    (i.memRespReadValid && s.memRespWriteValidQ) ||
    (s.memRespReadValidQ && i.memRespWriteValid)

/-- `UC_MEM_WAIT_RSP`. -/
def memWaitRspComb : FsmOut :=
  let o := { fsmDefaults s with
    memRespWriteValidD := s.memRespWriteValidQ || i.memRespWriteValid
    memRespReadValidD := s.memRespReadValidQ || i.memRespReadValid
    rspErrorSet := s.reqQ.needRsp && (rdError i || wrError i) }
  let answered := if s.reqQ.needRsp then UcFsm.coreRsp else UcFsm.idle
  if s.reqQ.op.isLoad then
    if i.memRespReadValid then { o with ucFsmD := answered } else o
  else if s.reqQ.op.isStore then
    if i.memRespWriteValid then { o with ucFsmD := answered } else o
  else if s.reqQ.op == .amoLr then
    if i.memRespReadValid then
      let o := if rdError i then { o with lrscUcReset := true }
        else { o with lrscUcSet := true, lrscRsrvAddrD := s.reqQ.addr }
      if s.reqQ.uc || rdError i || !reqHit s then { o with ucFsmD := .coreRsp }
      else { o with ucFsmD := .amoWriteData }
    else o
  else if s.reqQ.op == .amoSc then
    if i.memRespWriteValid then
      let o := { o with ucScRetcodeD := if isAtomic i then amoScSuccess else amoScFailure }
      if s.reqQ.uc || !isAtomic i || !reqHit s then { o with ucFsmD := .coreRsp }
      else { o with ucFsmD := .amoWriteData }
    else o
  else if reqIsAmo s.reqQ.op then
    if amoResponded s i then
      if s.reqQ.uc || s.rspErrorQ || rdError i || wrError i || !reqHit s then
        { o with ucFsmD := .coreRsp }
      else { o with ucFsmD := .amoWriteData }
    else o
  else o

/-- `uc_fsm_comb`. -/
def fsm : FsmOut :=
  match s.ucFsmQ with
  | .idle => idleComb s i
  | .memReq => memReqComb s i
  | .memWReq => memWReqComb s i
  | .memWdataReq => memWdataReqComb s i
  | .memWaitRsp => memWaitRspComb s i
  | .coreRsp =>
      if i.coreRspReady then { fsmDefaults s with rspErrorRst := true, ucFsmD := .idle }
      else fsmDefaults s
  | .amoWriteData => { fsmDefaults s with ucFsmD := .coreRsp }

/-! ## Handshakes -/

def reqReady : Bool := s.ucFsmQ == .idle

def coreRspValid : Bool := s.ucFsmQ == .coreRsp

def memReqReadValid : Bool :=
  s.ucFsmQ == .memReq && (s.reqQ.op.isLoad || s.reqQ.op == .amoLr)

def memReqWriteValid : Bool :=
  (s.ucFsmQ == .memReq && reqIsWrite s.reqQ.op) || s.ucFsmQ == .memWReq

def memReqWriteDataValid : Bool :=
  (s.ucFsmQ == .memReq && reqIsWrite s.reqQ.op) || s.ucFsmQ == .memWdataReq

/-- `data_amo_write_o` and `data_amo_write_enable_o`: the cached copy is written. -/
def dataAmoWrite : Bool := s.ucFsmQ == .amoWriteData && reqHit s

/-! ## Memory requests and responses -/

/-- The request word of the memory word that an address selects. -/
def memWordIdx (cfg : Cfg) (addr : Nat) : Fin (memReqRatio cfg) :=
  ⟨addr / cfg.wbuf.reqBytes % memReqRatio cfg, Nat.mod_lt _ (memReqRatio_pos cfg)⟩

/-- The lane of the memory word that carries a byte of a request word. -/
def memLane (cfg : Cfg) (word : Fin (memReqRatio cfg)) (byte : Fin cfg.wbuf.reqBytes) :
    Fin (memBytes cfg) :=
  ⟨word.val * cfg.wbuf.reqBytes + byte.val, by
    calc
      word.val * cfg.wbuf.reqBytes + byte.val
          < word.val * cfg.wbuf.reqBytes + cfg.wbuf.reqBytes := by omega
      _ = (word.val + 1) * cfg.wbuf.reqBytes := by rw [Nat.succ_mul]
      _ ≤ memBytes cfg := Nat.mul_le_mul_right _ word.isLt⟩

/-- The byte of the request word on a lane of the memory word. -/
def lowLane {cfg : Cfg} (lane : Fin (memBytes cfg)) : Fin cfg.wbuf.reqBytes :=
  ⟨lane.val % cfg.wbuf.reqBytes, Nat.mod_lt _ cfg.wbuf.reqBytes_pos⟩

/-- `mem_req_write_data`: the operand of a bit-clear is inverted. -/
def memReqWriteData : cfg.wbuf.Data :=
  if s.reqQ.op = .amoAnd then fun byte => ~~~s.reqQ.data byte else s.reqQ.data

/-- `mem_req_w_data`: the request word on every word of the memory. -/
def memReqWData : MemData cfg := fun lane => memReqWriteData s (lowLane lane)

/-- `mem_req_w_be`: the byte enables on the addressed word of the memory. -/
def memReqWBe : MemBe cfg := fun lane =>
  decide (lane.val / cfg.wbuf.reqBytes = (memWordIdx cfg s.reqQ.addr).val) &&
    s.reqQ.be (lowLane lane)

/-- `rsp_rdata_d`: the addressed word of the memory. -/
def rspRdataD : cfg.wbuf.Data := fun byte =>
  i.memRespRData (memLane cfg (memWordIdx cfg s.reqQ.addr) byte)

/-! ## One clock cycle -/

def step : State cfg :=
  let o := fsm s i
  { ucFsmQ := o.ucFsmD
    reqQ := if i.reqValid && reqReady s then i.req else s.reqQ
    ucScRetcodeQ := o.ucScRetcodeD
    rspRdataQ := if i.memRespReadValid then rspRdataD s i else s.rspRdataQ
    rspErrorQ := (!s.rspErrorQ && o.rspErrorSet) || (s.rspErrorQ && !o.rspErrorRst)
    memRespWriteValidQ := o.memRespWriteValidD
    memRespReadValidQ := o.memRespReadValidD
    lrscRsrvValidQ :=
      (!s.lrscRsrvValidQ && o.lrscUcSet) ||
        (s.lrscRsrvValidQ && !(o.lrscUcReset || lrscSnoopReset s i))
    lrscRsrvAddrQ := o.lrscRsrvAddrD }

end Signals

/-- The request registers at reset; an operation without any flag stands for the
cleared flags. -/
def Request.zero (cfg : Cfg) : Request cfg where
  op := .cmoFence
  addr := 0
  size := 0
  data := fun _ => 0
  be := fun _ => false
  uc := false
  sid := 0
  tid := 0
  needRsp := false
  hitWay := fun _ => false
  oldData := fun _ => 0

/-- A cycle without any request, response or handshake. -/
def Input.quiet (cfg : Cfg) : Input cfg where
  reqValid := false
  req := Request.zero cfg
  lrscSnoop := false
  lrscSnoopAddr := 0
  lrscSnoopSize := 0
  coreRspReady := false
  memReqReadReady := false
  memRespReadValid := false
  memRespRError := false
  memRespRData := fun _ => 0
  memReqWriteReady := false
  memReqWriteDataReady := false
  memRespWriteValid := false
  memRespWError := false
  memRespWIsAtomic := false
  cfgErrorOnCacheableAmo := false

def reset (cfg : Cfg) : State cfg where
  ucFsmQ := .idle
  reqQ := Request.zero cfg
  ucScRetcodeQ := false
  rspRdataQ := fun _ => 0
  rspErrorQ := false
  memRespWriteValidQ := false
  memRespReadValidQ := false
  lrscRsrvValidQ := false
  lrscRsrvAddrQ := 0

/-- The handler as a synchronous machine. -/
def machine (cfg : Cfg) : Machine (State cfg) (Input cfg) where
  reset := reset cfg
  step := step

/-! ## The successor states -/

section Next

variable {cfg : Cfg} {s : State cfg} (i : Input cfg)

/-- The request is on its way to the memory. -/
def Sending (s : State cfg) : Prop :=
  s.ucFsmQ = .memReq ∨ s.ucFsmQ = .memWReq ∨ s.ucFsmQ = .memWdataReq

/-- An idle handler stays, or takes a request to the memory or to an answer; only
an answer starts with an error. -/
theorem next_of_idle (state : s.ucFsmQ = .idle) :
    ((step s i).ucFsmQ = .idle ∧ (step s i).rspErrorQ = s.rspErrorQ) ∨
      (i.reqValid = true ∧
        (((step s i).ucFsmQ = .memReq ∧ (step s i).rspErrorQ = s.rspErrorQ) ∨
          (step s i).ucFsmQ = .coreRsp)) := by
  simp only [step, fsm, state, idleComb, fsmDefaults]
  split_ifs with valid <;> simp [valid]

/-- A request on its way stays there, or waits for the responses. -/
theorem next_of_sending (sending : Sending s) :
    (step s i).rspErrorQ = s.rspErrorQ ∧
      (Sending (step s i) ∨ (step s i).ucFsmQ = .memWaitRsp) := by
  rcases sending with state | state | state
  · simp only [Sending, step, fsm, state, memReqComb, fsmDefaults]
    split_ifs <;> simp
  · simp only [Sending, step, fsm, state, memWReqComb, fsmDefaults]
    split_ifs <;> simp
  · simp only [Sending, step, fsm, state, memWdataReqComb, fsmDefaults]
    split_ifs <;> simp

/-- Waiting ends with an answer, with a write of the cached copy, or silently. -/
theorem next_of_waiting (state : s.ucFsmQ = .memWaitRsp) :
    (step s i).rspErrorQ = (s.rspErrorQ || s.reqQ.needRsp && (rdError i || wrError i)) ∧
      ((step s i).ucFsmQ = .memWaitRsp ∨ (step s i).ucFsmQ = .coreRsp ∨
        (step s i).ucFsmQ = .amoWriteData ∨
        ((step s i).ucFsmQ = .idle ∧ s.reqQ.needRsp = false)) := by
  simp only [step, fsm, state, memWaitRspComb, fsmDefaults]
  constructor
  · split_ifs <;> cases s.rspErrorQ <;> simp
  · split_ifs <;> simp_all

theorem next_of_answering (state : s.ucFsmQ = .coreRsp) :
    ((step s i).ucFsmQ = .coreRsp ∧ (step s i).rspErrorQ = s.rspErrorQ) ∨
      ((step s i).ucFsmQ = .idle ∧ (step s i).rspErrorQ = false) := by
  simp only [step, fsm, state, fsmDefaults]
  split_ifs <;> simp

theorem next_of_writing (state : s.ucFsmQ = .amoWriteData) :
    (step s i).ucFsmQ = .coreRsp ∧ (step s i).rspErrorQ = s.rspErrorQ := by
  simp [step, fsm, state, fsmDefaults]

theorem reqQ_step_of_busy (busy : s.ucFsmQ ≠ .idle) : (step s i).reqQ = s.reqQ := by
  simp [step, reqReady, busy]

/-- Without an answer to give, the error register is clear. -/
structure Clean (s : State cfg) : Prop where
  resting : s.ucFsmQ = .idle ∨ Sending s → s.rspErrorQ = false
  silent : s.ucFsmQ = .memWaitRsp → s.reqQ.needRsp = false → s.rspErrorQ = false

theorem clean_reset : Clean (reset cfg) where
  resting := fun _ => rfl
  silent := fun _ _ => rfl

theorem clean_of_sending (sending : Sending s)
    (resting : s.ucFsmQ = .idle ∨ Sending s → s.rspErrorQ = false) : Clean (step s i) := by
  have error := (next_of_sending i sending).1.trans (resting (.inr sending))
  exact ⟨fun _ => error, fun _ _ => error⟩

theorem Clean.step (clean : Clean s) : Clean (step s i) := by
  cases state : s.ucFsmQ with
  | idle =>
      have before := clean.resting (.inl state)
      rcases next_of_idle i state with ⟨next, error⟩ | ⟨_, ⟨next, error⟩ | next⟩
      · exact ⟨fun _ => error.trans before, by simp [next]⟩
      · exact ⟨fun _ => error.trans before, by simp [next]⟩
      · exact ⟨by simp [Sending, next], by simp [next]⟩
  | memReq => exact clean_of_sending i (.inl state) clean.resting
  | memWReq => exact clean_of_sending i (.inr (.inl state)) clean.resting
  | memWdataReq => exact clean_of_sending i (.inr (.inr state)) clean.resting
  | memWaitRsp =>
      have same := reqQ_step_of_busy i (s := s) (by simp [state])
      rcases next_of_waiting i state with ⟨error, next | next | next | ⟨next, noRsp⟩⟩
      · refine ⟨by simp [Sending, next], fun _ noRsp => ?_⟩
        rw [same] at noRsp
        rw [error, clean.silent state noRsp, noRsp]
        rfl
      · exact ⟨by simp [Sending, next], by simp [next]⟩
      · exact ⟨by simp [Sending, next], by simp [next]⟩
      · refine ⟨fun _ => ?_, by simp [next]⟩
        rw [error, clean.silent state noRsp, noRsp]
        rfl
  | coreRsp =>
      rcases next_of_answering i state with ⟨next, _⟩ | ⟨next, error⟩
      · exact ⟨by simp [Sending, next], by simp [next]⟩
      · exact ⟨fun _ => error, by simp [next]⟩
  | amoWriteData =>
      have next := (next_of_writing i state).1
      exact ⟨by simp [Sending, next], by simp [next]⟩

end Next

end Cva6Hpd.Hpdcache.Uncached
