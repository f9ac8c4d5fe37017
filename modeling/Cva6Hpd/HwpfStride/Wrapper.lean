import Cva6Hpd.Common.Arbiter
import Cva6Hpd.Hpdcache.Pkg
import Cva6Hpd.HwpfStride.Inflight

/-!
# The wrapper of the stride prefetcher

`hwpf_stride_wrapper`: the engines share one port of the cache through an arbiter, and they are
started by the accesses that the snoop ports show. A request carries its address as an offset and a
tag; the cache puts the two together.
-/

namespace Cva6Hpd.HwpfStride

open Cva6Hpd.Hw Cva6Hpd.Common Cva6Hpd.Hpdcache

/-! ## Addresses and requests -/

/-- The widths of `hpdcache_cfg_t` that the wrapper reads. -/
structure Geometry where
  tagWidth : Nat
  setWidth : Nat
  clOffsetWidth : Nat
  reqDataWidth : Nat
  sidWidth : Nat
  tidWidth : Nat

namespace Geometry

variable (g : Geometry)

abbrev nlineWidth : Nat := g.tagWidth + g.setWidth

abbrev reqOffsetWidth : Nat := g.setWidth + g.clOffsetWidth

abbrev paWidth : Nat := g.tagWidth + g.reqOffsetWidth

end Geometry

/-- `hpdcache_req_t`; the attributes are without the reserved `io` flag. -/
structure Req (g : Geometry) where
  addrOffset : BitVec g.reqOffsetWidth
  wdata : BitVec g.reqDataWidth
  op : ReqOp
  be : BitVec (g.reqDataWidth / 8)
  size : BitVec 3
  sid : BitVec g.sidWidth
  tid : BitVec g.tidWidth
  needRsp : Bool
  physIndexed : Bool
  addrTag : BitVec g.tagWidth
  pma : Pma

section Cache

variable {g : Geometry}

/-- `{tag, offset}`. -/
def address (tag : BitVec g.tagWidth) (offset : BitVec g.reqOffsetWidth) : BitVec g.paWidth :=
  tag ++ offset

/-- The line of an address. -/
def lineOf (addr : BitVec g.paWidth) : BitVec g.nlineWidth :=
  addr.extractLsb' g.clOffsetWidth g.nlineWidth

/-- `st1_req_tag` of the cache: the tag comes with a request that is physically indexed. -/
def st1ReqTag (req : Req g) (coreReqTag : BitVec g.tagWidth) : BitVec g.tagWidth :=
  if req.physIndexed then req.addrTag else coreReqTag

/-- `st1_req_nline` of the cache. -/
def st1ReqNline (req : Req g) (coreReqTag : BitVec g.tagWidth) : BitVec g.nlineWidth :=
  lineOf (address (st1ReqTag req coreReqTag) req.addrOffset)

/-- `hpdcache_req_set` of an engine. -/
def reqSet (s : State g.nlineWidth) : BitVec g.setWidth :=
  s.requestNlineQ.extractLsb' 0 g.setWidth

/-- `hpdcache_req_tag` of an engine. -/
def reqTag (s : State g.nlineWidth) : BitVec g.tagWidth :=
  s.requestNlineQ.extractLsb' g.setWidth g.tagWidth

/-- `hpdcache_req_o` of an engine. -/
def hpdcacheReq (s : State g.nlineWidth) : Req g where
  addrOffset := reqSet s ++ BitVec.ofNat g.clOffsetWidth 0
  wdata := 0
  op := .cmoPrefetch
  be := BitVec.allOnes _
  size := 0
  sid := 0
  tid := 0
  needRsp := true
  physIndexed := true
  addrTag := reqTag s
  pma := ⟨false, .auto⟩

/-- The all-zero request. -/
def Req.zero (g : Geometry) : Req g where
  addrOffset := 0
  wdata := 0
  op := .load
  be := 0
  size := 0
  sid := 0
  tid := 0
  needRsp := false
  physIndexed := false
  addrTag := 0
  pma := ⟨false, .auto⟩

end Cache

/-! ## Registers and inputs -/

/-- The registers of the wrapper, of its engines and of its arbiter. -/
structure Wrapper (g : Geometry) (numHwPrefetch numSnoopPorts : Nat) where
  engines : Fin numHwPrefetch → State g.nlineWidth
  arbiter : Arbiter numHwPrefetch
  snoopValidQ : Fin numSnoopPorts → Bool
  snoopAddrOffsetQ : Fin numSnoopPorts → BitVec g.reqOffsetWidth

/-- What a snoop port shows in a cycle. -/
structure Snoop (g : Geometry) where
  valid : Bool
  abort : Bool
  addrOffset : BitVec g.reqOffsetWidth
  addrTag : BitVec g.tagWidth
  physIndexed : Bool

/-- The writes of the configuration registers of an engine. -/
structure CsrWrite where
  baseSet : Bool
  base : Base
  paramSet : Bool
  param : Param
  throttleSet : Bool
  throttle : Throttle

structure WrapperInput (g : Geometry) (numHwPrefetch numSnoopPorts : Nat) where
  csr : Fin numHwPrefetch → CsrWrite
  snoop : Fin numSnoopPorts → Snoop g
  hpdcacheReqSid : BitVec g.sidWidth
  hpdcacheReqReady : Bool
  hpdcacheRspValid : Bool
  hpdcacheRspTid : BitVec g.tidWidth

section Code

variable {g : Geometry} {n ports : Nat} [NeZero n] (w : Wrapper g n ports)
  (i : WrapperInput g n ports)

/-! ## Snooping -/

/-- `snoop_valid`: the access of the cycle or the latched one. -/
def snoopValid (port : Fin ports) : Bool :=
  if (i.snoop port).physIndexed then (i.snoop port).valid else w.snoopValidQ port

/-- `snoop_offset`. -/
def snoopOffset (port : Fin ports) : BitVec g.reqOffsetWidth :=
  if (i.snoop port).physIndexed then (i.snoop port).addrOffset else w.snoopAddrOffsetQ port

/-- The assignment of an address to `snoop_nline` cuts its upper bits off. -/
def cutNline (addr : BitVec g.paWidth) : BitVec g.nlineWidth :=
  addr.setWidth g.nlineWidth

/-- `hwpf_snoop_match`. -/
def hwpfSnoopMatch (engine : Fin n) : Bool :=
  Bits.any fun port => snoopValid w i port && !(i.snoop port).abort &&
    decide (snoopNline (w.engines engine) =
      cutNline (address (i.snoop port).addrTag (snoopOffset w i port)))

/-! ## Requests -/

/-- `hpdcache_req_valid_o` of an engine, which no input takes part in. -/
def reqValid {nlineWidth : Nat} (s : State nlineWidth) : Bool :=
  decide (s.stateQ = .sendReq)

/-- `hwpf_stride_arb_in_req`: the identifier is the index of the engine. -/
def arbInReq (engine : Fin n) : Req g :=
  { hpdcacheReq (w.engines engine) with
    sid := i.hpdcacheReqSid
    tid := BitVec.ofNat _ engine
    addrTag := 0
    pma := ⟨false, .auto⟩ }

/-- `arb_req_gnt`. -/
def arbReqGnt : Bits n := Rrarb.gnt w.arbiter fun engine => reqValid (w.engines engine)

/-- `hpdcache_req_valid_o`. -/
def hpdcacheReqValid : Bool := (arbReqGnt w).any

/-- `hpdcache_req_o`. -/
def hpdcacheReqO : Req g := muxOneHot (Req.zero g) (arbReqGnt w) (arbInReq w i)

/-- `hpdcache_req_tag_o`. -/
def hpdcacheReqTagO : BitVec g.tagWidth := 0

/-! ## The machine -/

/-- The inputs of an engine. -/
def engineInput (engine : Fin n) : Input where
  csrBaseSet := (i.csr engine).baseSet
  csrBase := (i.csr engine).base
  csrParamSet := (i.csr engine).paramSet
  csrParam := (i.csr engine).param
  csrThrottleSet := (i.csr engine).throttleSet
  csrThrottle := (i.csr engine).throttle
  snoopMatch := hwpfSnoopMatch w i engine
  hpdcacheReqReady := arbReqGnt w engine && i.hpdcacheReqReady
  hpdcacheRspValid := i.hpdcacheRspValid && decide (engine.val = i.hpdcacheRspTid.toNat)

/-- One clock edge. -/
def wrapperStep : Wrapper g n ports where
  engines engine := step (w.engines engine) (engineInput w i engine)
  arbiter := Rrarb.step w.arbiter (fun engine => reqValid (w.engines engine)) i.hpdcacheReqReady
  snoopValidQ port :=
    if (i.snoop port).physIndexed then (i.snoop port).valid else w.snoopValidQ port
  snoopAddrOffsetQ port :=
    if (i.snoop port).physIndexed then (i.snoop port).addrOffset else w.snoopAddrOffsetQ port

end Code

/-- `hwpf_stride_wrapper` from reset. -/
def wrapper (g : Geometry) (n ports : Nat) [NeZero n] (csrThrottle : Fin n → Throttle) :
    Machine (Wrapper g n ports) (WrapperInput g n ports) where
  reset :=
    { engines := fun engine => reset g.nlineWidth (csrThrottle engine)
      arbiter := Rrarb.reset
      snoopValidQ := fun _ => false
      snoopAddrOffsetQ := fun _ => 0 }
  step := wrapperStep

/-! ## Addresses as numbers -/

section Numbers

variable {g : Geometry}

theorem toNat_address (tag : BitVec g.tagWidth) (offset : BitVec g.reqOffsetWidth) :
    (address tag offset).toNat = tag.toNat * 2 ^ g.reqOffsetWidth + offset.toNat := by
  rw [address, BitVec.toNat_append, ← Nat.shiftLeft_add_eq_or_of_lt offset.isLt,
    Nat.shiftLeft_eq]

theorem toNat_lineOf (addr : BitVec g.paWidth) :
    (lineOf addr).toNat = addr.toNat / 2 ^ g.clOffsetWidth := by
  rw [lineOf, BitVec.extractLsb'_toNat, Nat.shiftRight_eq_div_pow]
  apply Nat.mod_eq_of_lt
  rw [Nat.div_lt_iff_lt_mul (Nat.two_pow_pos _), ← Nat.pow_add, Nat.add_assoc]
  exact addr.isLt

theorem toNat_st1ReqNline (s : State g.nlineWidth) {req : Req g} (coreReqTag : BitVec g.tagWidth)
    (physIndexed : req.physIndexed = true)
    (addrOffset : req.addrOffset = (hpdcacheReq s).addrOffset) :
    (st1ReqNline req coreReqTag).toNat =
      req.addrTag.toNat * 2 ^ g.setWidth + s.requestNlineQ.toNat % 2 ^ g.setWidth := by
  have offset : req.addrOffset.toNat =
      s.requestNlineQ.toNat % 2 ^ g.setWidth * 2 ^ g.clOffsetWidth := by
    rw [addrOffset, hpdcacheReq, reqSet, BitVec.toNat_append, BitVec.toNat_ofNat, Nat.zero_mod,
      Nat.or_zero, Nat.shiftLeft_eq, BitVec.extractLsb'_toNat, Nat.shiftRight_zero]
  rw [st1ReqNline, toNat_lineOf, toNat_address, offset, st1ReqTag, if_pos physIndexed,
    Nat.pow_add, ← Nat.mul_assoc, ← Nat.add_mul,
    Nat.mul_div_cancel _ (Nat.two_pow_pos _)]

end Numbers

/-! ## The granted engine -/

theorem reqValid_step {nlineWidth : Nat} {s : State nlineWidth} {i : Input}
    (valid : reqValid s = true) (stalled : i.hpdcacheReqReady = false) :
    reqValid (step s i) = true := by
  rw [reqValid, decide_eq_true_eq] at valid ⊢
  simp only [step, control, valid, controlSendReq, stalled, Bool.false_eq_true, if_false,
    controlDefault]

section Granted

variable {g : Geometry} {n ports : Nat} [NeZero n]

/-- The arbiter holds the grant of an engine that has a request. -/
def HoldsRequest (w : Wrapper g n ports) : Prop :=
  Rrarb.Holds w.arbiter fun engine => reqValid (w.engines engine) = true

theorem HoldsRequest.step {w : Wrapper g n ports} (i : WrapperInput g n ports)
    (holds : HoldsRequest w) : HoldsRequest (wrapperStep w i) := by
  have stays (stalled : i.hpdcacheReqReady = false) (engine : Fin n)
      (valid : reqValid (w.engines engine) = true) :
      reqValid ((wrapperStep w i).engines engine) = true := by
    apply reqValid_step valid
    rw [engineInput, stalled, Bool.and_false]
  exact Rrarb.holds_step holds stays stays

theorem holdsRequest_run (csrThrottle : Fin n → Throttle)
    (inputs : List (WrapperInput g n ports)) :
    HoldsRequest ((wrapper g n ports csrThrottle).run inputs) :=
  (wrapper g n ports csrThrottle).run_invariant HoldsRequest (Rrarb.holds_reset _)
    (fun _ i holds => holds.step i) inputs

theorem granted_of_valid {w : Wrapper g n ports} (holds : HoldsRequest w)
    (valid : hpdcacheReqValid w = true) :
    ∃ engine, arbReqGnt w = Bits.single engine ∧ reqValid (w.engines engine) = true := by
  cases waiting : w.arbiter.waitQ with
  | true =>
      obtain ⟨engine, granted, requests⟩ := holds waiting
      refine ⟨engine, ?_, requests⟩
      rw [arbReqGnt, Rrarb.gnt, Arbiter.gntO_of_waiting waiting, granted]
  | false =>
      rw [hpdcacheReqValid, arbReqGnt, Rrarb.gnt, Arbiter.gntO_of_idle waiting] at valid
      rw [arbReqGnt, Rrarb.gnt, Arbiter.gntO_of_idle waiting]
      apply Rrarb.grant_oneHot
      by_contra idle
      rw [Rrarb.grant_of_none _ (Bool.eq_false_iff.mpr idle), Bits.any_eq_true_iff] at valid
      exact valid.elim fun _ => Bool.noConfusion

/-- The line that the cache reads off the request of the wrapper. -/
def presentedNline (w : Wrapper g n ports) (i : WrapperInput g n ports) : BitVec g.nlineWidth :=
  st1ReqNline (hpdcacheReqO w i) hpdcacheReqTagO

theorem presentedNline_eq_iff {w : Wrapper g n ports} (i : WrapperInput g n ports)
    {engine : Fin n} (granted : arbReqGnt w = Bits.single engine) :
    presentedNline w i = (w.engines engine).requestNlineQ ↔
      (w.engines engine).requestNlineQ.toNat < 2 ^ g.setWidth := by
  have request : hpdcacheReqO w i = arbInReq w i engine := by
    rw [hpdcacheReqO, granted, muxOneHot_single]
  rw [presentedNline, request, ← BitVec.toNat_inj,
    @toNat_st1ReqNline _ (w.engines engine) (arbInReq w i engine) hpdcacheReqTagO rfl rfl]
  change (BitVec.ofNat g.tagWidth 0).toNat * _ + _ = _ ↔ _
  rw [BitVec.toNat_zero, Nat.zero_mul, Nat.zero_add]
  exact Nat.mod_eq_iff_lt (Nat.two_pow_pos _).ne'

/-- The wrapper presents the line of the engine that is granted exactly if its tag is zero. -/
theorem presents_line_iff (csrThrottle : Fin n → Throttle)
    (inputs : List (WrapperInput g n ports)) (i : WrapperInput g n ports)
    (valid : hpdcacheReqValid ((wrapper g n ports csrThrottle).run inputs) = true) :
    ∃ engine, arbReqGnt ((wrapper g n ports csrThrottle).run inputs) = Bits.single engine ∧
      (((wrapper g n ports csrThrottle).run inputs).engines engine).stateQ = .sendReq ∧
      (presentedNline ((wrapper g n ports csrThrottle).run inputs) i =
          (((wrapper g n ports csrThrottle).run inputs).engines engine).requestNlineQ ↔
        (((wrapper g n ports csrThrottle).run inputs).engines engine).requestNlineQ.toNat <
          2 ^ g.setWidth) := by
  obtain ⟨engine, granted, requests⟩ :=
    granted_of_valid (holdsRequest_run csrThrottle inputs) valid
  rw [reqValid, decide_eq_true_eq] at requests
  exact ⟨engine, granted, requests, presentedNline_eq_iff i granted⟩

end Granted

/-! ## An engine whose lines have a tag -/

/-- Sixteen sets of 16-byte lines. -/
def smallGeometry : Geometry where
  tagWidth := 4
  setWidth := 4
  clOffsetWidth := 4
  reqDataWidth := 64
  sidWidth := 3
  tidWidth := 4

/-- One engine and one snoop port, with nothing but what is given. -/
def wrapperInput (snoop : Snoop smallGeometry) (csr : CsrWrite) :
    WrapperInput smallGeometry 1 1 where
  csr _ := csr
  snoop _ := snoop
  hpdcacheReqSid := 5
  hpdcacheReqReady := false
  hpdcacheRspValid := false
  hpdcacheRspTid := 0

def noAccess : Snoop smallGeometry := ⟨false, false, 0, 0, true⟩

def noWrite : CsrWrite := ⟨false, ⟨0, 0, false, false, false⟩, false, ⟨0, 0, 0⟩, false, ⟨0, 0⟩⟩

/-- The engine is enabled for four lines from line 16. -/
def enableLines : CsrWrite := ⟨true, ⟨16, 0, false, false, true⟩, true, ⟨0, 3, 0⟩, true, ⟨1, 1⟩⟩

/-- The engine is started by an access whose low address bits are its base line. -/
def startedRun : List (WrapperInput smallGeometry 1 1) :=
  [wrapperInput noAccess enableLines, wrapperInput noAccess noWrite,
    wrapperInput ⟨true, false, 16, 0, true⟩ noWrite]

theorem startedRun_presents_line_iff :
    ∃ engine, arbReqGnt ((wrapper smallGeometry 1 1 fun _ => ⟨0, 0⟩).run startedRun) =
        Bits.single engine ∧
      (((wrapper smallGeometry 1 1 fun _ => ⟨0, 0⟩).run startedRun).engines engine).stateQ =
        .sendReq ∧
      (presentedNline ((wrapper smallGeometry 1 1 fun _ => ⟨0, 0⟩).run startedRun)
          (wrapperInput noAccess noWrite) =
          (((wrapper smallGeometry 1 1 fun _ => ⟨0, 0⟩).run startedRun).engines
            engine).requestNlineQ ↔
        (((wrapper smallGeometry 1 1 fun _ => ⟨0, 0⟩).run startedRun).engines
          engine).requestNlineQ.toNat < 2 ^ smallGeometry.setWidth) :=
  presents_line_iff (fun _ => ⟨0, 0⟩) startedRun (wrapperInput noAccess noWrite) (by decide +kernel)

/-- The engine computes line 17, and the cache is asked for line 1. -/
theorem presents_other_line :
    hpdcacheReqValid ((wrapper smallGeometry 1 1 fun _ => ⟨0, 0⟩).run startedRun) = true ∧
      (((wrapper smallGeometry 1 1 fun _ => ⟨0, 0⟩).run startedRun).engines 0).requestNlineQ =
        17 ∧
      presentedNline ((wrapper smallGeometry 1 1 fun _ => ⟨0, 0⟩).run startedRun)
        (wrapperInput noAccess noWrite) = 1 := by
  decide +kernel

end Cva6Hpd.HwpfStride
