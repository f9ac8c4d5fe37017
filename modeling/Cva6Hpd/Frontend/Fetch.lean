import Cva6Hpd.Frontend.InstrQueue
import Cva6Hpd.Frontend.InstrScan
import Cva6Hpd.Frontend.Realign

/-!
# The frontend

`frontend` with compressed instructions: the registers behind the instruction cache, the scan of
a fetch block, the selection of a prediction, the return-address stack, the next program counter
and the instruction queue. The predictions of the branch target buffer and of the branch history
table are inputs, already shifted to the ports of the block.
-/

namespace Cva6Hpd.Frontend.Fetch

open Cva6Hpd.Hw
open InstrQueue (Cf FrontendException)
open Realign (FetchWidth)

/-! ## Types -/

/-- The parameters that are read; VLEN is XLEN. -/
structure Cfg where
  width : FetchWidth
  xlen32 : Bool
  rvh : Bool
  tvalEn : Bool
  mmuPresent : Bool
  debugEn : Bool
  btbEntries : Nat
  rasDepth : Nat
  gplen : Nat
  -- `DmBaseAddress + HaltAddress`
  debugAddress : Nat

def Cfg.vlen (cfg : Cfg) : Nat := if cfg.xlen32 then 32 else 64

/-- `INSTR_PER_FETCH`. -/
def Cfg.ports (cfg : Cfg) : Nat := cfg.width.instrPerFetch

/-- `FETCH_ALIGN_BITS`. -/
def Cfg.fetchAlignBits (cfg : Cfg) : Nat :=
  match cfg.width with
  | .w32 => 2
  | .w64 => 3

instance (cfg : Cfg) : NeZero cfg.ports :=
  ⟨by rw [Cfg.ports]; cases cfg.width <;> decide⟩

/-- The parameters of the instruction queue; a superscalar core fetches 64 bits. -/
def Cfg.queue (cfg : Cfg) : InstrQueue.Cfg where
  superscalarEn := decide (cfg.width = .w64)
  rvc := true
  rvh := cfg.rvh
  tvalEn := cfg.tvalEn
  xlen := cfg.vlen
  vlen := cfg.vlen
  gplen := cfg.gplen

/-- `ras_t`. -/
structure Ras (vlen : Nat) where
  valid : Bool
  ra : BitVec vlen
deriving DecidableEq

/-- `btb_prediction_t`. -/
structure BtbPrediction (vlen : Nat) where
  valid : Bool
  targetAddress : BitVec vlen

/-- `bht_prediction_t`. -/
structure BhtPrediction where
  valid : Bool
  taken : Bool

/-- `bp_resolve_t`, as far as it is read here. -/
structure BpResolve (vlen : Nat) where
  valid : Bool
  isMispredict : Bool
  targetAddress : BitVec vlen

/-- The registers; the data are parcels, the first of the block at 0. -/
structure State (cfg : Cfg) where
  npcRstLoadQ : Bool
  npcQ : BitVec cfg.vlen
  icacheDataQ : Nat → BitVec 16
  icacheValidQ : Bool
  icacheVaddrQ : BitVec cfg.vlen
  icacheGpaddrQ : BitVec cfg.gplen
  icacheTinstQ : BitVec 32
  icacheGvaQ : Bool
  icacheExValidQ : FrontendException
  realign : Realign.State
  queue : InstrQueue.State cfg.queue cfg.ports
  stackQ : Nat → Ras cfg.vlen

/-- The answer of the instruction cache. -/
structure IcacheDrsp (cfg : Cfg) where
  ready : Bool
  valid : Bool
  vaddr : BitVec cfg.vlen
  data : Nat → BitVec 16
  exCause : Nat
  exTval2 : BitVec cfg.gplen
  exTinst : BitVec 32
  exGva : Bool

structure Input (cfg : Cfg) where
  bootAddr : BitVec cfg.vlen
  flush : Bool
  halt : Bool
  haltFrontend : Bool
  setPcCommit : Bool
  pcCommit : BitVec cfg.vlen
  exValid : Bool
  resolvedBranch : BpResolve cfg.vlen
  eret : Bool
  epc : BitVec cfg.vlen
  trapVectorBase : BitVec cfg.vlen
  setDebugPc : Bool
  icache : IcacheDrsp cfg
  btbPredictionShifted : Fin cfg.ports → BtbPrediction cfg.vlen
  bhtPredictionShifted : Fin cfg.ports → BhtPrediction
  fetchEntryReady : Fin 2 → Bool

/-! ## Prediction selection -/

section Selection

variable {cfg : Cfg} (s : State cfg) (i : Input cfg)

/-- The aligner on the block of this cycle. -/
def realigned : Realign.Comb :=
  Realign.comb cfg.width s.realign
    ⟨false, s.icacheValidQ, s.icacheVaddrQ.toNat, s.icacheDataQ⟩

def portOf (p : Fin cfg.ports) : Realign.Port := (realigned s).ports.getD p.val Realign.noPort

def instructionValid : Bits cfg.ports := fun p => (portOf s p).valid

def addr (p : Fin cfg.ports) : BitVec cfg.vlen := BitVec.ofNat cfg.vlen (portOf s p).addr

def instr (p : Fin cfg.ports) : BitVec 32 := (portOf s p).instr

def scanned (p : Fin cfg.ports) : InstrScan.Scan cfg.vlen :=
  InstrScan.scan cfg.xlen32 cfg.vlen (instr s p)

def isBranch (p : Fin cfg.ports) : Bool := instructionValid s p && (scanned s p).isBranch

def isCall (p : Fin cfg.ports) : Bool := instructionValid s p && (scanned s p).isCall

def isReturn (p : Fin cfg.ports) : Bool := instructionValid s p && (scanned s p).isReturn

def isJump (p : Fin cfg.ports) : Bool := instructionValid s p && (scanned s p).isJump

def isJalr (p : Fin cfg.ports) : Bool :=
  instructionValid s p && !isReturn s p &&
    ((scanned s p).rviJalr || (scanned s p).rvcJalr || (scanned s p).rvcJr)

/-- `ras_predict`. -/
def rasPredict : Ras cfg.vlen := if cfg.rasDepth = 0 then ⟨false, 0⟩ else s.stackQ 0

/-- The dynamic prediction of a branch, or else the static one by the sign of its offset. -/
def branchTaken (p : Fin cfg.ports) (imm : BitVec cfg.vlen) : Bool :=
  if (i.bhtPredictionShifted p).valid then (i.bhtPredictionShifted p).taken else imm.msb

/-- `taken_rvi_cf`. -/
def takenRviCf (p : Fin cfg.ports) : Bool :=
  match isBranch s p, isReturn s p, isJump s p, isJalr s p with
  | false, false, true, false => (scanned s p).rviJump
  | true, false, false, false =>
      (scanned s p).rviBranch && branchTaken i p (scanned s p).rviImm
  | _, _, _, _ => false

/-- `taken_rvc_cf`. -/
def takenRvcCf (p : Fin cfg.ports) : Bool :=
  match isBranch s p, isReturn s p, isJump s p, isJalr s p with
  | false, false, true, false => (scanned s p).rvcJump
  | true, false, false, false =>
      (scanned s p).rvcBranch && branchTaken i p (scanned s p).rvcImm
  | _, _, _, _ => false

/-- The BTB has a target. -/
def btbHit (p : Fin cfg.ports) : Bool :=
  decide (cfg.btbEntries ≠ 0) && (i.btbPredictionShifted p).valid

/-- `cf_type`. -/
def cfType (p : Fin cfg.ports) : Cf :=
  match isBranch s p, isReturn s p, isJump s p, isJalr s p with
  | false, false, false, true => if btbHit i p then .jumpR else .noCF
  | false, false, true, false => .jump
  | false, true, false, false => .ret
  | true, false, false, false => if takenRviCf s i p || takenRvcCf s i p then .branch else .noCF
  | _, _, _, _ => .noCF

/-- What a port makes of the address that the ports behind it predict. -/
def portPredict (p : Fin cfg.ports) (behind : BitVec cfg.vlen) : BitVec cfg.vlen :=
  if takenRvcCf s i p || takenRviCf s i p then
    addr s p + if takenRvcCf s i p then (scanned s p).rvcImm else (scanned s p).rviImm
  else
    match isBranch s p, isReturn s p, isJump s p, isJalr s p with
    | false, false, false, true =>
        if btbHit i p then (i.btbPredictionShifted p).targetAddress else behind
    | false, true, false, false => (rasPredict s).ra
    | _, _, _, _ => behind

/-- `predict_address`: the ports are visited from the last one, so that the first one takes
precedence. -/
def predictAddress : BitVec cfg.vlen := (List.finRange cfg.ports).foldr (portPredict s i) 0

/-- The return stack cannot predict a return while it is empty. -/
def bpValid : Bool :=
  Bits.any fun p =>
    (decide (cfType s i p ≠ .noCF) && decide (cfType s i p ≠ .ret)) ||
      (decide (cfType s i p = .ret) && (rasPredict s).valid)

/-- The inputs of the instruction queue. -/
def queueInput : InstrQueue.Input cfg.queue cfg.ports where
  flush := i.flush
  instr := instr s
  addr := addr s
  valid := instructionValid s
  exception := s.icacheExValidQ
  exceptionAddr := s.icacheVaddrQ
  exceptionGpaddr := s.icacheGpaddrQ
  exceptionTinst := s.icacheTinstQ
  exceptionGva := s.icacheGvaQ
  predictAddress := predictAddress s i
  cfType := cfType s i
  fetchEntryReady := i.fetchEntryReady

def instrQueueConsumed : Bits cfg.ports := InstrQueue.consumedO s.queue (queueInput s i)

def instrQueueReady : Bool := InstrQueue.readyO s.queue

def replay : Bool := InstrQueue.replayO s.queue (queueInput s i)

def replayAddr : BitVec cfg.vlen := InstrQueue.replayAddrO s.queue (queueInput s i)

end Selection

/-! ## The return-address stack -/

section Stack

variable {cfg : Cfg} (s : State cfg) (i : Input cfg)

/-- `ras_push`, `ras_pop` and `ras_update`. -/
structure RasControl (vlen : Nat) where
  push : Bool
  pop : Bool
  update : BitVec vlen

/-- What a port makes of the operation on the stack. -/
def portRas (p : Fin cfg.ports) (behind : RasControl cfg.vlen) : RasControl cfg.vlen :=
  let selected : RasControl cfg.vlen :=
    match isBranch s p, isReturn s p, isJump s p, isJalr s p with
    | false, false, false, true | false, false, true, false | true, false, false, false =>
        { behind with push := false, pop := false }
    | false, true, false, false =>
        { behind with push := false, pop := (rasPredict s).valid && instrQueueConsumed s i p }
    | _, _, _, _ => behind
  if isCall s p then
    { selected with
      push := instrQueueConsumed s i p
      update := addr s p + if (scanned s p).rvcCall then 2 else 4 }
  else selected

def rasControl : RasControl cfg.vlen :=
  (List.finRange cfg.ports).foldr (portRas s i) ⟨false, false, 0⟩

/-- `stack_d`; what stands behind the depth is not read. -/
def stackD (k : Nat) : Ras cfg.vlen :=
  let control := rasControl s i
  let pushed : Ras cfg.vlen := ⟨true, control.update⟩
  if control.push && control.pop then if k = 0 then pushed else s.stackQ k
  else if control.pop then if k + 1 < cfg.rasDepth then s.stackQ (k + 1) else ⟨false, 0⟩
  else if control.push then if k = 0 then pushed else s.stackQ (k - 1)
  else s.stackQ k

end Stack

/-! ## Next program counter -/

section NextPc

variable {cfg : Cfg} (s : State cfg) (i : Input cfg)

def isMispredict : Bool := i.resolvedBranch.valid && i.resolvedBranch.isMispredict

def icacheReq : Bool := instrQueueReady s && !i.haltFrontend

def ifReady : Bool := i.icache.ready && instrQueueReady s && !i.haltFrontend

def killS1 : Bool := isMispredict i || i.flush || replay s i

def killS2 : Bool := killS1 s i || bpValid s i

/-- The address without a prediction. -/
def fetchBase : BitVec cfg.vlen := if s.npcRstLoadQ then i.bootAddr else s.npcQ

/-- `fetch_address`, which is the address of the request to the cache. -/
def fetchAddress : BitVec cfg.vlen := if bpValid s i then predictAddress s i else fetchBase s i

/-- The next fetch block. -/
def nextBlock (address : BitVec cfg.vlen) : BitVec cfg.vlen :=
  ((address >>> cfg.fetchAlignBits) + 1) <<< cfg.fetchAlignBits

/-- `npc_d` up to the redirections from outside. -/
def npcFetch : BitVec cfg.vlen :=
  if replay s i then replayAddr s i
  else if ifReady s i then nextBlock (fetchAddress s i)
  else fetchAddress s i

/-- `npc_d`; the last assignment takes precedence. -/
def npcD : BitVec cfg.vlen :=
  if cfg.debugEn && i.setDebugPc then BitVec.ofNat cfg.vlen cfg.debugAddress
  else if i.setPcCommit then i.pcCommit + if i.halt then 0 else 4
  else if i.exValid then i.trapVectorBase
  else if i.eret then i.epc
  else if isMispredict i then i.resolvedBranch.targetAddress
  else npcFetch s i

end NextPc

/-! ## The machine -/

section Step

variable {cfg : Cfg} (s : State cfg) (i : Input cfg)

def instrAccessFault : Nat := 1
def instrPageFault : Nat := 12
def instrGuestPageFault : Nat := 20

/-- The exceptions that the frontend knows. -/
def frontendException (cfg : Cfg) (cause : Nat) : FrontendException :=
  if cfg.mmuPresent && decide (cause = instrGuestPageFault) then .instrGuestPageFault
  else if cfg.mmuPresent && decide (cause = instrPageFault) then .instrPageFault
  else if cause = instrAccessFault then .instrAccessFault
  else .none

/-- The place of an address in its block. -/
def blockOffset (address : BitVec cfg.vlen) : Nat := address.toNat / 2 % cfg.ports

/-- The block shifted down to its first parcel. -/
def icacheData (data : Nat → BitVec 16) (k : Nat) : BitVec 16 :=
  if k + blockOffset i.icache.vaddr < cfg.ports then data (k + blockOffset i.icache.vaddr) else 0

/-- The input of the aligner. -/
def realignInput : Realign.Input :=
  ⟨killS2 s i, s.icacheValidQ, s.icacheVaddrQ.toNat, s.icacheDataQ⟩

/-- One clock edge. -/
def step : State cfg where
  npcRstLoadQ := false
  npcQ := npcD s i
  icacheDataQ := if i.icache.valid then icacheData i i.icache.data else s.icacheDataQ
  icacheValidQ := i.icache.valid
  icacheVaddrQ := if i.icache.valid then i.icache.vaddr else s.icacheVaddrQ
  icacheGpaddrQ :=
    if i.icache.valid then if cfg.rvh then i.icache.exTval2 else 0 else s.icacheGpaddrQ
  icacheTinstQ :=
    if i.icache.valid then if cfg.rvh then i.icache.exTinst else 0 else s.icacheTinstQ
  icacheGvaQ := if i.icache.valid then cfg.rvh && i.icache.exGva else s.icacheGvaQ
  icacheExValidQ :=
    if i.icache.valid then frontendException cfg i.icache.exCause else s.icacheExValidQ
  realign := Realign.step cfg.width s.realign (realignInput s i)
  queue := InstrQueue.step s.queue (queueInput s i)
  stackQ := stackD s i

/-- The registers after reset. -/
def init (cfg : Cfg) : State cfg where
  npcRstLoadQ := true
  npcQ := 0
  icacheDataQ _ := 0
  icacheValidQ := false
  icacheVaddrQ := 0
  icacheGpaddrQ := 0
  icacheTinstQ := 0
  icacheGvaQ := false
  icacheExValidQ := .none
  realign := ⟨false, 0, 0⟩
  queue := InstrQueue.init cfg.queue cfg.ports
  stackQ _ := ⟨false, 0⟩

/-- `frontend` from reset. -/
def machine (cfg : Cfg) : Machine (State cfg) (Input cfg) where
  reset := init cfg
  step := step

end Step

/-! ## What the return-address stack predicts -/

section Returns

variable {cfg : Cfg} {s : State cfg} {i : Input cfg} {calls : List (BitVec cfg.vlen)}

/-- The return addresses that were pushed and not popped since, the newest first. -/
def recordCalls (s : State cfg) (i : Input cfg) (calls : List (BitVec cfg.vlen)) :
    List (BitVec cfg.vlen) :=
  let left := if (rasControl s i).pop then calls.tail else calls
  if (rasControl s i).push then (rasControl s i).update :: left else left

/-- The stack holds the newest return addresses. -/
def HoldsNewest (s : State cfg) (calls : List (BitVec cfg.vlen)) : Prop :=
  ∃ held, held ≤ calls.length ∧ held ≤ cfg.rasDepth ∧ ∀ k < cfg.rasDepth,
    s.stackQ k = if k < held then ⟨true, calls.getD k 0⟩ else ⟨false, 0⟩

theorem valid_of_pop (pop : (rasControl s i).pop = true) : (rasPredict s).valid = true := by
  rw [rasControl] at pop
  generalize List.finRange cfg.ports = ports at pop
  induction ports with
  | nil => contradiction
  | cons p behind inductionHypothesis =>
      rw [List.foldr_cons] at pop
      generalize behind.foldr (portRas s i) ⟨false, false, 0⟩ = control at pop inductionHypothesis
      unfold portRas at pop
      cases branch : isBranch s p <;> cases ret : isReturn s p <;> cases jump : isJump s p <;>
        cases jalr : isJalr s p <;> cases call : isCall s p <;> simp_all

theorem HoldsNewest.step (holds : HoldsNewest s calls) :
    HoldsNewest (Fetch.step s i) (recordCalls s i calls) := by
  obtain ⟨held, known, fits, entry⟩ := holds
  have stack : (Fetch.step s i).stackQ = stackD s i := rfl
  rw [HoldsNewest, stack, recordCalls]
  cases push : (rasControl s i).push <;> cases pop : (rasControl s i).pop
  · exact ⟨held, known, fits, fun k inside => by simpa [stackD, push, pop] using entry k inside⟩
  · refine ⟨held - 1, by simp; omega, by omega, fun k inside => ?_⟩
    simp only [stackD, push, pop]
    by_cases last : k + 1 < cfg.rasDepth
    · simp [last, entry (k + 1) last, Nat.lt_sub_iff_add_lt]
    · simp [last]
      omega
  · refine ⟨min (held + 1) cfg.rasDepth, by simp; omega, by omega, fun k inside => ?_⟩
    cases k with
    | zero => simp [stackD, push, pop, Nat.ne_of_gt inside]
    | succ k => simp [stackD, push, pop, inside, entry k (by omega)]
  · refine ⟨held, by simp; omega, fits, fun k inside => ?_⟩
    cases k with
    | zero =>
        have valid := valid_of_pop pop
        rw [rasPredict, if_neg (Nat.ne_of_gt inside), entry 0 inside] at valid
        split at valid
        · rename_i some
          simp [stackD, push, pop, some]
        · contradiction
    | succ k => simp [stackD, push, pop, entry (k + 1) inside]

end Returns

end Cva6Hpd.Frontend.Fetch
