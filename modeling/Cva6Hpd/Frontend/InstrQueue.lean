import Cva6Hpd.Common.FifoV3
import Cva6Hpd.Common.Lzc
import Cva6Hpd.Hw.Bits
import Cva6Hpd.Hw.Machine

/-!
# The instruction queue

`instr_queue`: the instructions of a fetch block go round robin into one queue for each place of
the block, the targets of the predicted control flow into a queue of addresses, and the program
counters are computed again at the output. With compressed instructions a block has at least two
places; without them it has one, and the rotations below do nothing.
-/

namespace Cva6Hpd.Frontend.InstrQueue

open Common (FifoV3)
open Hw

/-! ## Types -/

/-- The parameters that are read. -/
structure Cfg where
  superscalarEn : Bool
  rvc : Bool
  rvh : Bool
  tvalEn : Bool
  xlen : Nat
  vlen : Nat
  gplen : Nat

/-- `INSTR_PER_FETCH`. -/
def Cfg.instrPerFetch (cfg : Cfg) : Nat :=
  (if cfg.superscalarEn then 64 else 32) / (if cfg.rvc then 16 else 32)

instance (cfg : Cfg) : NeZero cfg.instrPerFetch :=
  ⟨by rw [Cfg.instrPerFetch]; cases cfg.superscalarEn <;> cases cfg.rvc <;> decide⟩

/-- `cf_t`. -/
inductive Cf where
  | noCF | branch | jump | jumpR | ret
deriving DecidableEq, Repr

/-- `frontend_exception_t`. -/
inductive FrontendException where
  | none | instrAccessFault | instrPageFault | instrGuestPageFault
deriving DecidableEq, Repr

/-- `instr_data_t`. -/
structure InstrData (cfg : Cfg) where
  instr : BitVec 32
  cf : Cf
  ex : FrontendException
  exVaddr : BitVec cfg.vlen
  exGpaddr : BitVec cfg.gplen
  exTinst : BitVec 32
  exGva : Bool
deriving DecidableEq

/-- `fetch_entry_t`. -/
structure FetchEntry (cfg : Cfg) where
  address : BitVec cfg.vlen
  instruction : BitVec 32
  exValid : Bool
  exCause : Nat
  exTval : BitVec cfg.xlen
  exTval2 : BitVec cfg.gplen
  exTinst : BitVec 32
  exGva : Bool
  predictAddress : BitVec cfg.vlen
  cf : Cf
deriving DecidableEq

/-- `FETCH_FIFO_DEPTH`. -/
abbrev fetchFifoDepth : Nat := 4

/-- `FETCH_ADDR_FIFO_DEPTH`. -/
abbrev fetchAddrFifoDepth : Nat := 2

/-- The registers; `idxDsQ` is the place of the bit that is set in the one-hot register. -/
structure State (cfg : Cfg) (n : Nat) where
  instrData : Fin n → FifoV3 fetchFifoDepth (InstrData cfg)
  address : FifoV3 fetchAddrFifoDepth (BitVec cfg.vlen)
  idxIsQ : Fin n
  idxDsQ : Fin n
  pcQ : BitVec cfg.vlen
  resetAddressQ : Bool

/-- The inputs; the second port of `fetchEntryReady` exists in a superscalar core only. -/
structure Input (cfg : Cfg) (n : Nat) where
  flush : Bool
  instr : Fin n → BitVec 32
  addr : Fin n → BitVec cfg.vlen
  valid : Bits n
  exception : FrontendException
  exceptionAddr : BitVec cfg.vlen
  exceptionGpaddr : BitVec cfg.gplen
  exceptionTinst : BitVec 32
  exceptionGva : Bool
  predictAddress : BitVec cfg.vlen
  cfType : Fin n → Cf
  fetchEntryReady : Fin 2 → Bool

/-! ## Input side -/

section InputSide

variable {cfg : Cfg} {n : Nat} [NeZero n] (s : State cfg n) (i : Input cfg n)

def instrQueueFull : Bits n := fun q => (s.instrData q).full

def fullAddress : Bool := s.address.full

def readyO : Bool := !(instrQueueFull s).any && !fullAddress s

def taken : Bits n := fun p => decide (i.cfType p ≠ .noCF)

/-- The first branch. -/
def branchIndex : Nat :=
  Common.Lzc.trailing (BitVec.ofBoolListLE ((List.finRange n).map (taken i)))

/-- `n` ones, shifted to the left by the index of the first branch. -/
def branchMaskExtended (bit : Nat) : Bool :=
  decide (branchIndex i ≤ bit) && decide (bit < branchIndex i + n)

def branchMask : Bits n := fun p => branchMaskExtended i (n - 1 + p.val)

/-- The instructions that are to be pushed. -/
def valid : Bits n := fun p => i.valid p && branchMask i p

/-- The place of the block that the rotation by `idx_is_q` takes to the queue `q`. -/
def placeOf (q : Fin n) : Fin n := q - s.idxIsQ

def fifoPos : Bits n := fun q => valid i (placeOf s q)

def pushInstr : Bits n := fun q => fifoPos s i q && !instrQueueFull s q

/-- What a place of the block brings. -/
def instrDataOf (p : Fin n) : InstrData cfg where
  instr := i.instr p
  cf := i.cfType p
  ex := i.exception
  exVaddr := i.exceptionAddr
  exGpaddr := if cfg.rvh then i.exceptionGpaddr else 0
  exTinst := if cfg.rvh then i.exceptionTinst else 0
  exGva := cfg.rvh && i.exceptionGva

def instrDataIn (q : Fin n) : InstrData cfg := instrDataOf i (placeOf s q)

def pushAddress : Bool :=
  Bits.any fun q => pushInstr s i q && decide ((instrDataIn s i q).cf ≠ .noCF)

def addressOverflow : Bool := fullAddress s && pushAddress s i

/-- No instruction is saved when its address cannot be. -/
def pushInstrFifo : Bits n := fun q => pushInstr s i q && !addressOverflow s i

def consumedO : Bits n := fun p => pushInstrFifo s i (p + s.idxIsQ)

def popcount : Nat := (List.finRange n).countP (pushInstrFifo s i)

/-- The low bits of the count. -/
def shamt : Fin n := Fin.ofNat n (popcount s i)

def idxIsD : Fin n := s.idxIsQ + shamt s i

def instrOverflow : Bool := Bits.any fun q => instrQueueFull s q && fifoPos s i q

def replayO : Bool := instrOverflow s i || addressOverflow s i

def replayAddrO : BitVec cfg.vlen :=
  if addressOverflow s i then i.addr 0 else i.addr (shamt s i)

end InputSide

/-! ## Output side -/

section OutputSide

variable {cfg : Cfg} {n : Nat} [NeZero n] (s : State cfg n) (i : Input cfg n)

def instrQueueEmpty : Bits n := fun q => (s.instrData q).empty

/-- The queue that is `port` places behind the output pointer. -/
def idxDs (port : Nat) : Fin n := s.idxDsQ + Fin.ofNat n port

def instrDataOut (port : Nat) : InstrData cfg := (s.instrData (idxDs s port)).dataOut

def addressOut : BitVec cfg.vlen := s.address.dataOut

def instrAccessFault : Nat := 1
def instrPageFault : Nat := 12
def instrGuestPageFault : Nat := 20

/-- The entry of the first port for an instruction at an address. -/
def fetchEntry0 (pc : BitVec cfg.vlen) (data : InstrData cfg) (predict : BitVec cfg.vlen) :
    FetchEntry cfg where
  address := pc
  instruction := data.instr
  exValid := decide (data.ex ≠ .none)
  exCause :=
    if data.ex = .instrAccessFault then instrAccessFault
    else if cfg.rvc && cfg.rvh && decide (data.ex = .instrGuestPageFault) then
      instrGuestPageFault
    else instrPageFault
  exTval := if cfg.tvalEn then data.exVaddr.setWidth cfg.xlen else 0
  exTval2 := if cfg.rvh then data.exGpaddr else 0
  exTinst := if cfg.rvh then data.exTinst else 0
  exGva := cfg.rvh && data.exGva
  predictAddress := predict
  cf := data.cf

/-- The entry of the second port. -/
def fetchEntry1 (pc : BitVec cfg.vlen) (data : InstrData cfg) (predict : BitVec cfg.vlen) :
    FetchEntry cfg where
  address := pc
  instruction := data.instr
  exValid := decide (data.ex ≠ .none)
  exCause := if data.ex = .instrAccessFault then instrAccessFault else instrPageFault
  exTval := data.exVaddr.setWidth cfg.xlen
  exTval2 := 0
  exTinst := 0
  exGva := false
  predictAddress := predict
  cf := data.cf

def fetchEntry (port : Fin 2) :
    BitVec cfg.vlen → InstrData cfg → BitVec cfg.vlen → FetchEntry cfg :=
  if port = 0 then fetchEntry0 else fetchEntry1

def fetchEntryIsCf (port : Nat) : Bool := decide ((instrDataOut s port).cf ≠ .noCF)

/-- The address behind an instruction that is not a predicted control flow. -/
def stepPc (pc : BitVec cfg.vlen) (instr : BitVec 32) : BitVec cfg.vlen :=
  pc + if instr.extractLsb' 0 2 ≠ 3 then 2 else 4

/-- `pc_j`. -/
def pcJ : Nat → BitVec cfg.vlen
  | 0 => s.pcQ
  | port + 1 =>
      if fetchEntryIsCf s port then addressOut s
      else stepPc (pcJ port) (instrDataOut s port).instr

def fetchEntryO (port : Fin 2) : FetchEntry cfg :=
  fetchEntry port (pcJ s port) (instrDataOut s port) (addressOut s)

/-- The second port does not show a control flow behind one of the first port. -/
def fetchEntryValidO (port : Fin 2) : Bool :=
  if port = 0 then !(instrQueueEmpty s).all
  else cfg.superscalarEn && !instrQueueEmpty s (idxDs s 1) &&
    !(fetchEntryIsCf s 0 && fetchEntryIsCf s 1)

def fetchEntryFire (port : Fin 2) : Bool := fetchEntryValidO s port && i.fetchEntryReady port

def popInstr : Bits n := fun q =>
  if cfg.superscalarEn && decide (q = idxDs s 1) then fetchEntryFire s i 1
  else decide (q = idxDs s 0) && fetchEntryFire s i 0

def idxDsD : Fin n :=
  if fetchEntryFire s i 0 then
    if fetchEntryFire s i 1 then idxDs s 2 else idxDs s 1
  else s.idxDsQ

def popAddress : Bool :=
  (fetchEntryIsCf s 0 && fetchEntryFire s i 0) || (fetchEntryIsCf s 1 && fetchEntryFire s i 1)

/-- The program counter behind what is taken. -/
def pcNext : BitVec cfg.vlen :=
  if fetchEntryFire s i 0 then if fetchEntryFire s i 1 then pcJ s 2 else pcJ s 1 else s.pcQ

/-- A flush was before: the address comes from the next block. -/
def resetsAddress : Bool := i.valid 0 && s.resetAddressQ

def pcD : BitVec cfg.vlen := if resetsAddress s i then i.addr 0 else pcNext s i

def resetAddressD : Bool :=
  if resetsAddress s i then false else i.flush || s.resetAddressQ

end OutputSide

/-! ## The machine -/

/-- The registers after reset. -/
def init (cfg : Cfg) (n : Nat) [NeZero n] : State cfg n where
  instrData _ := .init ⟨0, .noCF, .none, 0, 0, 0, false⟩
  address := .init 0
  idxIsQ := 0
  idxDsQ := 0
  pcQ := 0
  resetAddressQ := true

/-- One clock edge. -/
def step {cfg : Cfg} {n : Nat} [NeZero n] (s : State cfg n) (i : Input cfg n) : State cfg n where
  instrData q :=
    (s.instrData q).step (pushInstrFifo s i q) (instrDataIn s i q) (popInstr s i q) i.flush
  address :=
    s.address.step (pushAddress s i && !fullAddress s) i.predictAddress (popAddress s i) i.flush
  idxIsQ := if i.flush then 0 else idxIsD s i
  idxDsQ := if i.flush then 0 else idxDsD s i
  pcQ := pcD s i
  resetAddressQ := i.flush || resetAddressD s i

/-- `instr_queue` from reset. -/
def machine (cfg : Cfg) (n : Nat) [NeZero n] : Machine (State cfg n) (Input cfg n) where
  reset := init cfg n
  step := step

end Cva6Hpd.Frontend.InstrQueue
