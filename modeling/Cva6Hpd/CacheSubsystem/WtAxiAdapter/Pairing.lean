import Cva6Hpd.CacheSubsystem.WtAxiAdapter.Core

/-!
# Which response answers which request

The history of the adapter lists what the data cache requested and what it was answered, and
what the memory owes: the bursts of reads in the order of their addresses, and the responses of
writes in any order. An atomic operation that loads is owed a read and a write response.
-/

namespace Cva6Hpd.CacheSubsystem.WtAxiAdapter

open Cva6Hpd.Hw
open Cva6Hpd.Common
open Cva6Hpd.Ariane (AmoT)

variable {cfg : Cfg}

/-! ## The memory -/

inductive ReadKind where
  | icache | load | atomic
deriving DecidableEq

/-- `amo` stands for the atomics that load and store. -/
inductive WriteKind where
  | store | sc | amo
deriving DecidableEq

def ReadKind.id : ReadKind → BitVec cfg.idBits
  | .icache => axiId false false
  | .load => axiId true false
  | .atomic => axiId true true

def WriteKind.id : WriteKind → BitVec cfg.idBits
  | .store => axiId true false
  | .sc => axiId true true
  | .amo => axiId true true

/-- `ATOP_R_RESP`: the write is answered by a read response, too. -/
def Aw.returnsRead (aw : Aw cfg) : Bool := aw.atop.getLsbD 5

def Aw.kind (aw : Aw cfg) : WriteKind :=
  if aw.returnsRead then .amo else if aw.lock then .sc else .store

/-- The inputs of a cycle, and what the responses of the memory are for. -/
structure Cycle (cfg : Cfg) extends Input cfg where
  rFor : ReadKind
  bFor : WriteKind

/-! ## Histories -/

/-- An answer to an atomic, with the request that it is given for and the outcome of its
exclusive write. -/
structure AtomicAck (cfg : Cfg) where
  request : Option (DcacheReq cfg)
  succeeded : Option Bool
  tid : BitVec cfg.tidBits
  word : Word cfg
deriving DecidableEq

structure History (cfg : Cfg) where
  accepted : List (DcacheReq cfg)
  /-- The atomic that is not answered yet. -/
  current : Option (DcacheReq cfg)
  /-- The outcome of its exclusive write. -/
  succeeded : Option Bool
  /-- The beats that are left of each burst. -/
  owedLoads : List Nat
  owedAtomicReads : List Nat
  owedWrites : WriteKind → Nat
  /-- The write responses that wait in the adapter. -/
  buffered : List (WriteKind × Bool)
  loadAcks : List (BitVec cfg.tidBits)
  storeAcks : List (BitVec cfg.tidBits)
  atomicAcks : List (AtomicAck cfg)

def History.initial : History cfg where
  accepted := []
  current := none
  succeeded := none
  owedLoads := []
  owedAtomicReads := []
  owedWrites := fun _ => 0
  buffered := []
  loadAcks := []
  storeAcks := []
  atomicAcks := []

def History.ofType (h : History cfg) (rtype : DcacheOut) : List (DcacheReq cfg) :=
  h.accepted.filter fun req => req.rtype = rtype

/-- What is owed after a beat. -/
def served : List Nat → List Nat
  | [] => []
  | left :: bursts => if left = 1 then bursts else (left - 1) :: bursts

section Record

variable (s : State cfg) (c : Cycle cfg) (h : History cfg)

def acceptsAtomic : Bool := dcacheDataAck s c.toInput && c.dcacheData.rtype = .atomic

/-- A read response of this kind is taken. -/
def takesRead (kind : ReadKind) : Bool := c.rValid && c.rFor = kind && axiRdRdy s c.toInput

def sendsAw : Bool := awValid s && c.awReady

/-- The request at the head of the queue of the data cache is granted. -/
def grants : Bool := arbAck s c.toInput 1

/-- An answer of this type is given. -/
def acks (rtype : DcacheIn) : Bool := s.dcacheRtrnVldQ && s.dcacheRtrnTypeQ = rtype

/-- The write responses that can be used in this cycle. -/
def shownWrites : List (WriteKind × Bool) :=
  h.buffered ++ if bPush s c.toInput then [(c.bFor, decide (c.b.resp = 1))] else []

def record : History cfg where
  accepted := h.accepted ++ if dcacheDataAck s c.toInput then [c.dcacheData] else []
  current :=
    if acceptsAtomic s c then some c.dcacheData
    else if acks s .atomicAck then none else h.current
  succeeded :=
    if acceptsAtomic s c then none
    else if bPush s c.toInput && c.bFor = .sc then some (c.b.resp = 1) else h.succeeded
  owedLoads :=
    (if takesRead s c .load then served h.owedLoads else h.owedLoads) ++
      if axiRdGnt s c.toInput && decodes s .load then [(axiAr s).len + 1] else []
  owedAtomicReads :=
    (if takesRead s c .atomic then served h.owedAtomicReads else h.owedAtomicReads) ++
      (if axiRdGnt s c.toInput && (axiAr s).lock then [(axiAr s).len + 1] else []) ++
        if sendsAw s c && (axiAw s c.toInput).returnsRead then [1] else []
  owedWrites kind :=
    (h.owedWrites kind - if bPush s c.toInput ∧ c.bFor = kind then 1 else 0) +
      if axiWrGnt s c.toInput ∧ (axiAw s c.toInput).kind = kind then 1 else 0
  buffered :=
    if (decode s c.toInput).bPop then (shownWrites s c h).tail else shownWrites s c h
  loadAcks := h.loadAcks ++ if acks s .loadAck then [(dcacheRtrn s).tid] else []
  storeAcks := h.storeAcks ++ if acks s .storeAck then [(dcacheRtrn s).tid] else []
  atomicAcks := h.atomicAcks ++
    if acks s .atomicAck then [⟨h.current, h.succeeded, (dcacheRtrn s).tid, (dcacheRtrn s).data 0⟩]
    else []

end Record

/-- The adapter with its history. -/
def recorded (cfg : Cfg) : Machine (State cfg × History cfg) (Cycle cfg) :=
  ((machine cfg).onInputs Cycle.toInput).withHistory History.initial record

/-- The operations of the atomic instructions. -/
def supported (op : AmoT) : Bool := op ≠ .none && op ≠ .cas1 && op ≠ .cas2

/-- Every request of this type is answered. -/
def History.Answered (h : History cfg) (rtype : DcacheOut) (acks : List (BitVec cfg.tidBits)) :
    Prop :=
  (h.ofType rtype).length = acks.length

/-- There is no external invalidation. The data cache loads and stores, and an atomic is alone.
The memory answers what it owes, with the last beat of a burst marked. -/
structure Environment (state : State cfg × History cfg) (c : Cycle cfg) : Prop where
  noInval : c.invalValid = false
  rtype : dcacheDataAck state.1 c.toInput = true →
    c.dcacheData.rtype = .load ∨ c.dcacheData.rtype = .store ∨
      (c.dcacheData.rtype = .atomic ∧ supported c.dcacheData.amoOp = true)
  alone : dcacheDataAck state.1 c.toInput = true → state.2.current = none
  atomic : acceptsAtomic state.1 c = true →
    state.2.Answered .load state.2.loadAcks ∧ state.2.Answered .store state.2.storeAcks
  readId : c.rValid = true → c.r.id = c.rFor.id
  loads : c.rValid = true → c.rFor = .load →
    ∃ left bursts, state.2.owedLoads = left :: bursts ∧ (c.r.last = true ↔ left = 1)
  atomics : c.rValid = true → c.rFor = .atomic →
    ∃ left bursts, state.2.owedAtomicReads = left :: bursts ∧ (c.r.last = true ↔ left = 1)
  writeId : c.bValid = true → c.b.id = c.bFor.id
  writes : c.bValid = true → 0 < state.2.owedWrites c.bFor

/-- No write response of an atomic that loads is left after a cycle that presents a
store-conditional, and no atomic is answered on the read channel before it is granted. -/
structure Clear (state : State cfg × History cfg) (c : Cycle cfg) : Prop where
  presents : decodes state.1 .atomic = true → (dcacheData state.1).amoOp = .sc →
    (record state.1 c state.2).owedWrites .amo = 0 ∧
      ∀ entry ∈ (record state.1 c state.2).buffered, entry.1 ≠ .amo
  granted : takesRead state.1 c .atomic = true → state.1.dcacheDataFifo.empty = true

/-- Nothing is left in the adapter, and the memory owes nothing. -/
structure Settled (state : State cfg × History cfg) : Prop where
  queue : state.1.dcacheDataFifo.empty = true
  buffer : state.1.bFifo.empty = true
  register : state.1.dcacheRtrnVldQ = false
  loads : state.2.owedLoads = []
  atomics : state.2.owedAtomicReads = []
  writes : ∀ kind, state.2.owedWrites kind = 0

/-- The answer to an atomic is its own, and a store-conditional reports the outcome of its own
exclusive write. -/
structure AtomicAck.Answers (ack : AtomicAck cfg) (req : DcacheReq cfg) : Prop where
  request : ack.request = some req
  tid : ack.tid = req.tid
  sc : req.amoOp = .sc → ∃ succeeded, ack.succeeded = some succeeded ∧
    ack.word = scWord (amoOff req) succeeded ∧ (ack.word = 0 ↔ succeeded = true)

/-- Each request is answered once, by an answer of its own type with its own identifier: the
answers are those of the first requests of their type, and of all of them once nothing is
left. -/
structure Paired (state : State cfg × History cfg) : Prop where
  loads : state.2.loadAcks <+: (state.2.ofType .load).map DcacheReq.tid
  stores : state.2.storeAcks <+: (state.2.ofType .store).map DcacheReq.tid
  atomics : state.2.ofType .atomic =
    state.2.atomicAcks.filterMap AtomicAck.request ++ state.2.current.toList
  answers : ∀ ack ∈ state.2.atomicAcks, ∃ req, ack.Answers req
  complete : Settled state →
    state.2.loadAcks = (state.2.ofType .load).map DcacheReq.tid ∧
      state.2.storeAcks = (state.2.ofType .store).map DcacheReq.tid ∧ state.2.current = none

end Cva6Hpd.CacheSubsystem.WtAxiAdapter
