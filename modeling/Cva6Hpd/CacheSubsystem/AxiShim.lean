import Cva6Hpd.Hw.Machine
import Mathlib.Data.BitVec
import Mathlib.Data.List.Flatten

/-!
# The write channel of the AXI shim

`axi_shim` transfers the address and the beats of a write in whatever order they are accepted,
and grants the write with its last transfer. The five states of the write channel and the counter
of beats stand for what has been transferred of the write that is being served.
-/

namespace Cva6Hpd.CacheSubsystem.AxiShim

open Cva6Hpd.Hw

universe u v

/-! ## The code -/

/-- A write: what the address channel takes beside the length, and the beats. The counter has
`AddrIndex` bits. -/
structure WrReq (addrIndex : Nat) (α : Type u) (β : Type v) where
  addr : α
  data : BitVec addrIndex → β
  blen : BitVec addrIndex

/-- The states of the write channel. -/
inductive WrState where
  | idle | waitAwReady | waitLastWReady | waitLastWReadyAwReady | waitAwReadyBurst
deriving DecidableEq

structure State (addrIndex : Nat) where
  wrStateQ : WrState
  wrCntQ : BitVec addrIndex
deriving DecidableEq

structure Input (addrIndex : Nat) (α : Type u) (β : Type v) where
  wrReq : Bool
  request : WrReq addrIndex α β
  awReady : Bool
  wReady : Bool

/-- What the process of the write channel assigns. -/
structure Comb where
  awValid : Bool
  wValid : Bool
  wrGnt : Bool
  wrCntEn : Bool
  wrCntClr : Bool
  wrStateD : WrState

section Code

variable {addrIndex : Nat} {α : Type u} {β : Type v}
variable (axiBurstWriteEn : Bool) (s : State addrIndex) (i : Input addrIndex α β)

def wrSingleReq : Bool := i.request.blen = 0

/-- `wr_cnt_done`, which is the last flag as well. -/
def wrCntDone : Bool := s.wrCntQ = i.request.blen

/-- The assignments at the start of the process. -/
def defaults : Comb := ⟨false, false, false, false, false, s.wrStateQ⟩

/-- `IDLE`. -/
def combIdle : Comb :=
  let out := defaults s
  if i.wrReq then
    if axiBurstWriteEn && !wrSingleReq i then
      { out with
        awValid := true
        wValid := true
        wrCntEn := i.wReady
        wrStateD :=
          match i.awReady, i.wReady with
          | true, true => .waitLastWReady
          | false, true => .waitLastWReadyAwReady
          | true, false => .waitLastWReady
          | false, false => out.wrStateD }
    else if wrSingleReq i then
      { out with
        awValid := true
        wValid := true
        wrCntClr := true
        wrGnt := i.awReady && i.wReady
        wrStateD :=
          match i.awReady, i.wReady with
          | false, true => .waitAwReady
          | true, false => .waitLastWReady
          | _, _ => .idle }
    else { out with awValid := true, wValid := true }
  else out

/-- `WAIT_AW_READY`, and `WAIT_AW_READY_BURST` where bursts are enabled. -/
def combWaitAwReady : Comb :=
  let out := { defaults s with awValid := true }
  if i.awReady then { out with wrStateD := .idle, wrGnt := true } else out

/-- `WAIT_LAST_W_READY`. -/
def combWaitLastWReady : Comb :=
  let out := { defaults s with wValid := true }
  if axiBurstWriteEn && i.wReady && !wrCntDone s i then { out with wrCntEn := true }
  else if wrCntDone s i && i.wReady then
    { out with wrStateD := .idle, wrCntClr := true, wrGnt := true }
  else out

/-- `WAIT_LAST_W_READY_AW_READY` where bursts are enabled. -/
def combWaitLastWReadyAwReady : Comb :=
  let out := { defaults s with awValid := true, wValid := true }
  match i.awReady, i.wReady with
  | false, true =>
    if wrCntDone s i then { out with wrStateD := .waitAwReadyBurst, wrCntClr := true }
    else { out with wrCntEn := true }
  | true, false => { out with wrStateD := .waitLastWReady }
  | true, true =>
    if wrCntDone s i then { out with wrStateD := .idle, wrGnt := true, wrCntClr := true }
    else { out with wrStateD := .waitLastWReady, wrCntEn := true }
  | false, false => out

/-- The process of the write channel. -/
def comb : Comb :=
  match s.wrStateQ with
  | .idle => combIdle axiBurstWriteEn s i
  | .waitAwReady => combWaitAwReady s i
  | .waitLastWReady => combWaitLastWReady axiBurstWriteEn s i
  | .waitLastWReadyAwReady =>
    if axiBurstWriteEn then combWaitLastWReadyAwReady s i
    else { defaults s with wrStateD := .idle }
  | .waitAwReadyBurst =>
    if axiBurstWriteEn then combWaitAwReady s i else { defaults s with wrStateD := .idle }

/-- `axi_req_o.w` without its valid bit. -/
def w : β × Bool := (i.request.data s.wrCntQ, wrCntDone s i)

/-- `axi_req_o.aw` without its valid bit. -/
def aw : α × BitVec addrIndex := (i.request.addr, i.request.blen)

def wrCntD : BitVec addrIndex :=
  if (comb axiBurstWriteEn s i).wrCntClr then 0
  else if (comb axiBurstWriteEn s i).wrCntEn && axiBurstWriteEn then s.wrCntQ + 1
  else s.wrCntQ

def step : State addrIndex where
  wrStateQ := (comb axiBurstWriteEn s i).wrStateD
  wrCntQ := wrCntD axiBurstWriteEn s i

def reset : State addrIndex := ⟨.idle, 0⟩

end Code

/-! ## What has been transferred -/

/-- What has been transferred of a write: the address, and a number of beats. -/
structure Progress where
  sent : Bool
  count : Nat

namespace WrReq

variable {addrIndex : Nat} {α : Type u} {β : Type v} (request : WrReq addrIndex α β)

/-- A beat, with its last flag. -/
def beat (index : Nat) : β × Bool :=
  (request.data (BitVec.ofNat addrIndex index), decide (index = request.blen.toNat))

/-- The first beats. -/
def beats (count : Nat) : List (β × Bool) := (List.range count).map request.beat

/-- The number of beats. -/
def length : Nat := request.blen.toNat + 1

/-- All beats of the write. -/
def burst : List (β × Bool) := request.beats request.length

/-- The address of the write. -/
def address : α × BitVec addrIndex := (request.addr, request.blen)

/-- Everything has been transferred. -/
def done (progress : Progress) : Bool := progress.sent && progress.count = request.length

theorem beats_succ (count : Nat) : request.beats (count + 1) =
    request.beats count ++ [request.beat count] := by
  rw [beats, List.range_succ, List.map_append]
  rfl

end WrReq

/-- What the transfers of a run amount to. -/
structure Ledger (addrIndex : Nat) (α : Type u) (β : Type v) where
  /-- The write that waits for its grant. -/
  pending : Option (WrReq addrIndex α β)
  granted : List (WrReq addrIndex α β)
  addresses : List (α × BitVec addrIndex)
  beats : List (β × Bool)
  /-- What was offered to either channel in the last cycle and not accepted. -/
  heldAw : Option (α × BitVec addrIndex)
  heldW : Option (β × Bool)

section Ledger

variable {addrIndex : Nat} {α : Type u} {β : Type v}
variable (axiBurstWriteEn : Bool) (s : State addrIndex) (i : Input addrIndex α β)
  (l : Ledger addrIndex α β)

/-- The address is accepted in this cycle. -/
def sends : Bool := (comb axiBurstWriteEn s i).awValid && i.awReady

/-- A beat is accepted in this cycle. -/
def transfers : Bool := (comb axiBurstWriteEn s i).wValid && i.wReady

def record : Ledger addrIndex α β where
  pending := if i.wrReq && !(comb axiBurstWriteEn s i).wrGnt then some i.request else none
  granted := l.granted ++ if (comb axiBurstWriteEn s i).wrGnt then [i.request] else []
  addresses := l.addresses ++ if sends axiBurstWriteEn s i then [aw i] else []
  beats := l.beats ++ if transfers axiBurstWriteEn s i then [w s i] else []
  heldAw := if (comb axiBurstWriteEn s i).awValid && !i.awReady then some (aw i) else none
  heldW := if (comb axiBurstWriteEn s i).wValid && !i.wReady then some (w s i) else none

end Ledger

/-- The shim with its ledger. -/
def shim (addrIndex : Nat) (α : Type u) (β : Type v) (axiBurstWriteEn : Bool) :
    Machine (State addrIndex × Ledger addrIndex α β) (Input addrIndex α β) :=
  Machine.withHistory ⟨reset, step axiBurstWriteEn⟩ ⟨none, [], [], [], none, none⟩
    (record axiBurstWriteEn)

/-! ## The law -/

section Law

variable {addrIndex : Nat} {α : Type u} {β : Type v}

/-- A write is held until it is granted, and bursts are written where they are enabled. -/
structure Environment (axiBurstWriteEn : Bool) (c : State addrIndex × Ledger addrIndex α β)
    (i : Input addrIndex α β) : Prop where
  held : ∀ request ∈ c.2.pending, i.wrReq = true ∧ i.request = request
  enabled : i.wrReq = true → i.request.blen ≠ 0 → axiBurstWriteEn = true

/-- The transfers are those of the writes that were granted, and of the write that waits its
address or not, and some of its beats, but not everything. -/
structure Exact (l : Ledger addrIndex α β) (progress : Progress) : Prop where
  addresses : l.addresses = l.granted.map WrReq.address ++
    if progress.sent then l.pending.toList.map WrReq.address else []
  beats : l.beats = l.granted.flatMap WrReq.burst ++
    l.pending.toList.flatMap fun request => request.beats progress.count
  some : ∀ request ∈ l.pending,
    progress.count ≤ request.length ∧ request.done progress = false

/-- What is asked for in one cycle. What was offered is offered again until it is accepted. What
is left of a write is offered, and the write is granted once everything has been transferred. -/
structure Sound (axiBurstWriteEn : Bool) (c : State addrIndex × Ledger addrIndex α β)
    (i : Input addrIndex α β) : Prop where
  steadyAw : ∀ address ∈ c.2.heldAw,
    (comb axiBurstWriteEn c.1 i).awValid = true ∧ aw i = address
  steadyW : ∀ beat ∈ c.2.heldW, (comb axiBurstWriteEn c.1 i).wValid = true ∧ w c.1 i = beat
  offersAw : (comb axiBurstWriteEn c.1 i).awValid = true ↔
    i.wrReq = true ∧ c.2.addresses = c.2.granted.map WrReq.address
  offersW : (comb axiBurstWriteEn c.1 i).wValid = true ↔
    i.wrReq = true ∧ c.2.beats ≠ (c.2.granted ++ [i.request]).flatMap WrReq.burst
  grant : (comb axiBurstWriteEn c.1 i).wrGnt = true ↔
    i.wrReq = true ∧
      (record axiBurstWriteEn c.1 i c.2).addresses =
        (c.2.granted ++ [i.request]).map WrReq.address ∧
      (record axiBurstWriteEn c.1 i c.2).beats =
        (c.2.granted ++ [i.request]).flatMap WrReq.burst

end Law

/-! ## One write -/

section Write

variable {addrIndex : Nat} {α : Type u} {β : Type v} {axiBurstWriteEn : Bool}
  {s : State addrIndex} {i : Input addrIndex α β} {request : WrReq addrIndex α β}

/-- What the state stands for. -/
def progressOf (s : State addrIndex) (request : WrReq addrIndex α β) : Progress :=
  match s.wrStateQ with
  | .idle => ⟨false, 0⟩
  | .waitAwReady | .waitAwReadyBurst => ⟨false, request.length⟩
  | .waitLastWReady => ⟨true, s.wrCntQ.toNat⟩
  | .waitLastWReadyAwReady => ⟨false, s.wrCntQ.toNat⟩

/-- The counter stays within the burst, and is zero where it is not used. -/
structure Serves (axiBurstWriteEn : Bool) (s : State addrIndex) (request : WrReq addrIndex α β) :
    Prop where
  cleared : s.wrStateQ = .idle ∨ s.wrStateQ = .waitAwReady ∨ s.wrStateQ = .waitAwReadyBurst →
    s.wrCntQ = 0
  within : s.wrCntQ.toNat ≤ request.blen.toNat
  burst : s.wrStateQ = .waitLastWReadyAwReady ∨ s.wrStateQ = .waitAwReadyBurst →
    axiBurstWriteEn = true
  enabled : request.blen ≠ 0 → axiBurstWriteEn = true

/-- The transfers of one cycle. -/
def Progress.after (progress : Progress) (request : WrReq addrIndex α β)
    (awReady wReady : Bool) : Progress where
  sent := progress.sent || awReady
  count := if progress.count < request.length && wReady then progress.count + 1
    else progress.count

/-- One cycle of a write. -/
structure Turn (axiBurstWriteEn : Bool) (s : State addrIndex) (i : Input addrIndex α β)
    (after : Progress) : Prop where
  awValid : (comb axiBurstWriteEn s i).awValid = !(progressOf s i.request).sent
  wValid : (comb axiBurstWriteEn s i).wValid =
    decide ((progressOf s i.request).count < i.request.length)
  counted : (progressOf s i.request).count < i.request.length →
    (progressOf s i.request).count = s.wrCntQ.toNat
  wrGnt : (comb axiBurstWriteEn s i).wrGnt = i.request.done after
  granted : i.request.done after = true → step axiBurstWriteEn s i = reset
  serves : i.request.done after = false →
    Serves axiBurstWriteEn (step axiBurstWriteEn s i) i.request
  progress : i.request.done after = false →
    progressOf (step axiBurstWriteEn s i) i.request = after

/-- The counter of a burst has room for one more beat. -/
theorem count_mod {count blen : BitVec addrIndex} (less : count.toNat < blen.toNat) :
    (count.toNat + 1) % 2 ^ addrIndex = count.toNat + 1 :=
  Nat.mod_eq_of_lt (Nat.lt_of_le_of_lt less blen.isLt)

theorem count_succ {count blen : BitVec addrIndex} (less : count.toNat < blen.toNat) :
    (count + BitVec.ofNat addrIndex 1).toNat = count.toNat + 1 := by
  rw [BitVec.toNat_add, BitVec.toNat_ofNat, Nat.add_mod_mod, count_mod less]

theorem serves_cleared {next : WrState} (enabled : request.blen ≠ 0 → axiBurstWriteEn = true)
    (burst : next = .waitLastWReadyAwReady ∨ next = .waitAwReadyBurst → axiBurstWriteEn = true) :
    Serves axiBurstWriteEn ⟨next, 0⟩ request where
  cleared _ := rfl
  within := by
    rw [BitVec.ofNat_eq_ofNat, BitVec.toNat_zero]
    exact Nat.zero_le _
  burst := burst
  enabled := enabled

theorem serves_counted {next : WrState} {count : BitVec addrIndex}
    (counts : next = .waitLastWReady ∨ next = .waitLastWReadyAwReady)
    (within : count.toNat ≤ request.blen.toNat)
    (burst : next = .waitLastWReadyAwReady → axiBurstWriteEn = true)
    (enabled : request.blen ≠ 0 → axiBurstWriteEn = true) :
    Serves axiBurstWriteEn ⟨next, count⟩ request where
  cleared := by rcases counts with rfl | rfl <;> rintro (⟨⟨⟩⟩ | ⟨⟨⟩⟩ | ⟨⟨⟩⟩)
  within := within
  burst := by
    rintro (last | other)
    · exact burst last
    · rcases counts with rfl | rfl <;> cases other
  enabled := enabled

theorem wrCntDone_eq : wrCntDone s i = decide (s.wrCntQ.toNat = i.request.blen.toNat) := by
  simp only [wrCntDone, BitVec.toNat_inj]

theorem turn_of_single (present : i.wrReq = true) (state : s = ⟨.idle, 0⟩)
    (single : i.request.blen = 0) :
    Turn axiBurstWriteEn s i (Progress.after ⟨false, 0⟩ i.request i.awReady i.wReady) := by
  subst state
  have enabled : i.request.blen ≠ 0 → axiBurstWriteEn = true := fun several => absurd single several
  cases aw : i.awReady <;> cases w : i.wReady <;> constructor <;>
    simp [comb, combIdle, present, wrSingleReq, single, aw, w, progressOf, Progress.after,
      WrReq.done, WrReq.length, defaults, step, wrCntD, reset] <;>
    exact serves_cleared enabled (by simp)

theorem turn_of_burst (present : i.wrReq = true) (state : s = ⟨.idle, 0⟩)
    (burst : i.request.blen ≠ 0) (enabled : axiBurstWriteEn = true) :
    Turn axiBurstWriteEn s i (Progress.after ⟨false, 0⟩ i.request i.awReady i.wReady) := by
  subst state enabled
  have several : wrSingleReq i = false := decide_eq_false burst
  have more : i.request.blen.toNat ≠ 0 := fun zero => burst (BitVec.eq_of_toNat_eq zero)
  have wide : 0 < addrIndex := by
    apply Nat.pos_of_ne_zero
    rintro rfl
    exact burst (BitVec.eq_nil _)
  have one : (BitVec.ofNat addrIndex 1).toNat = 1 := BitVec.toNat_one wide
  have inside : (BitVec.ofNat addrIndex 1).toNat ≤ i.request.blen.toNat := by
    rw [one]
    exact Nat.pos_of_ne_zero more
  cases aw : i.awReady <;> cases w : i.wReady <;> constructor <;>
    simp [comb, combIdle, present, several, aw, w, progressOf, Progress.after, more, wide,
      WrReq.done, WrReq.length, defaults, step, wrCntD, reset]
  · exact serves_cleared (fun _ => rfl) (fun _ => rfl)
  · exact serves_counted (Or.inr rfl) inside (fun _ => rfl) (fun _ => rfl)
  · exact serves_cleared (fun _ => rfl) (fun _ => rfl)
  · exact serves_counted (Or.inl rfl) inside (fun _ => rfl) (fun _ => rfl)

theorem turn_of_waitAwReady (serves : Serves axiBurstWriteEn s i.request)
    (state : s.wrStateQ = .waitAwReady ∨ s.wrStateQ = .waitAwReadyBurst) :
    Turn axiBurstWriteEn s i
      ((progressOf s i.request).after i.request i.awReady i.wReady) := by
  have zero := serves.cleared (Or.inr state)
  have out : comb axiBurstWriteEn s i = combWaitAwReady s i := by
    rw [comb]
    rcases state with same | same
    · rw [same]
    · rw [same]
      exact if_pos (serves.burst (Or.inr same))
  have progress : progressOf s i.request = ⟨false, i.request.length⟩ := by
    rw [progressOf]
    rcases state with same | same <;> rw [same]
  have same : (⟨s.wrStateQ, BitVec.ofNat addrIndex 0⟩ : State addrIndex) = s := by
    rw [← BitVec.ofNat_eq_ofNat, ← zero]
  cases aw : i.awReady <;> constructor <;>
    simp [out, combWaitAwReady, defaults, aw, progress, Progress.after, WrReq.done, step, wrCntD,
      zero, reset]
  · rw [same]
    exact serves
  · rw [same]
    exact progress

theorem turn_of_lastBeat (serves : Serves axiBurstWriteEn s i.request)
    (state : s.wrStateQ = .waitLastWReady) (last : wrCntDone s i = true) :
    Turn axiBurstWriteEn s i ((progressOf s i.request).after i.request i.awReady i.wReady) := by
  obtain ⟨stateQ, count⟩ := s
  obtain rfl : stateQ = .waitLastWReady := state
  have counted : count.toNat = i.request.blen.toNat := by simpa [wrCntDone_eq] using last
  cases w : i.wReady <;> constructor <;>
    simp [comb, combWaitLastWReady, defaults, w, last, progressOf, Progress.after, WrReq.done,
      step, wrCntD, reset, counted, WrReq.length]
  exact serves

theorem Serves.enabled_of_more (serves : Serves axiBurstWriteEn s i.request)
    (more : wrCntDone s i = false) : s.wrCntQ.toNat < i.request.blen.toNat ∧
      axiBurstWriteEn = true := by
  rw [wrCntDone_eq, decide_eq_false_iff_not] at more
  have less := Nat.lt_of_le_of_ne serves.within more
  refine ⟨less, serves.enabled ?_⟩
  intro zero
  rw [zero, BitVec.ofNat_eq_ofNat, BitVec.toNat_zero] at less
  exact Nat.not_lt_zero _ less

theorem turn_of_beat (serves : Serves axiBurstWriteEn s i.request)
    (state : s.wrStateQ = .waitLastWReady) (more : wrCntDone s i = false) :
    Turn axiBurstWriteEn s i ((progressOf s i.request).after i.request i.awReady i.wReady) := by
  obtain ⟨less, rfl⟩ := serves.enabled_of_more more
  obtain ⟨stateQ, count⟩ := s
  obtain rfl : stateQ = .waitLastWReady := state
  have wrap := count_mod less
  have next : (count + BitVec.ofNat addrIndex 1).toNat ≤ i.request.blen.toNat := by
    rw [count_succ less]
    exact less
  dsimp only at less wrap
  have differs : count.toNat ≠ i.request.blen.toNat := Nat.ne_of_lt less
  have room : count.toNat < i.request.blen.toNat + 1 := Nat.lt_succ_of_lt less
  have below : count.toNat ≠ i.request.blen.toNat + 1 := Nat.ne_of_lt room
  cases w : i.wReady <;> constructor <;>
    simp [comb, combWaitLastWReady, defaults, w, more, progressOf, Progress.after, WrReq.done,
      step, wrCntD, WrReq.length, room, differs, below, wrap]
  · exact serves
  · exact serves_counted (Or.inl rfl) next (fun _ => rfl) (fun _ => rfl)

theorem turn_of_lastBeat_aw (serves : Serves axiBurstWriteEn s i.request)
    (state : s.wrStateQ = .waitLastWReadyAwReady) (last : wrCntDone s i = true) :
    Turn axiBurstWriteEn s i ((progressOf s i.request).after i.request i.awReady i.wReady) := by
  obtain rfl := serves.burst (Or.inl state)
  obtain ⟨stateQ, count⟩ := s
  obtain rfl : stateQ = .waitLastWReadyAwReady := state
  have counted : count.toNat = i.request.blen.toNat := by simpa [wrCntDone_eq] using last
  have within : count.toNat ≤ i.request.blen.toNat := Nat.le_of_eq counted
  cases aw : i.awReady <;> cases w : i.wReady <;> constructor <;>
    simp [comb, combWaitLastWReadyAwReady, defaults, aw, w, last, progressOf, Progress.after,
      WrReq.done, step, wrCntD, reset, counted, WrReq.length]
  · exact serves
  · exact serves_cleared (fun _ => rfl) (fun _ => rfl)
  · exact serves_counted (Or.inl rfl) within (fun _ => rfl) (fun _ => rfl)

theorem turn_of_beat_aw (serves : Serves axiBurstWriteEn s i.request)
    (state : s.wrStateQ = .waitLastWReadyAwReady) (more : wrCntDone s i = false) :
    Turn axiBurstWriteEn s i ((progressOf s i.request).after i.request i.awReady i.wReady) := by
  obtain ⟨less, rfl⟩ := serves.enabled_of_more more
  obtain ⟨stateQ, count⟩ := s
  obtain rfl : stateQ = .waitLastWReadyAwReady := state
  have wrap := count_mod less
  have next : (count + BitVec.ofNat addrIndex 1).toNat ≤ i.request.blen.toNat := by
    rw [count_succ less]
    exact less
  dsimp only at less wrap
  have differs : count.toNat ≠ i.request.blen.toNat := Nat.ne_of_lt less
  have room : count.toNat < i.request.blen.toNat + 1 := Nat.lt_succ_of_lt less
  have below : count.toNat ≠ i.request.blen.toNat + 1 := Nat.ne_of_lt room
  cases aw : i.awReady <;> cases w : i.wReady <;> constructor <;>
    simp [comb, combWaitLastWReadyAwReady, defaults, aw, w, more, progressOf, Progress.after,
      WrReq.done, step, wrCntD, WrReq.length, room, differs, below, wrap]
  · exact serves
  · exact serves_counted (Or.inr rfl) next (fun _ => rfl) (fun _ => rfl)
  · exact serves_counted (Or.inl rfl) (Nat.le_of_lt less) (fun _ => rfl) (fun _ => rfl)
  · exact serves_counted (Or.inl rfl) next (fun _ => rfl) (fun _ => rfl)

theorem turn (serves : Serves axiBurstWriteEn s i.request) (present : i.wrReq = true) :
    Turn axiBurstWriteEn s i ((progressOf s i.request).after i.request i.awReady i.wReady) := by
  cases state : s.wrStateQ with
  | idle =>
      have zero : s = ⟨.idle, 0⟩ := by
        rw [← state, ← serves.cleared (Or.inl state)]
      have progress : progressOf s i.request = ⟨false, 0⟩ := by rw [progressOf, state]
      rw [progress]
      by_cases single : i.request.blen = 0
      · exact turn_of_single present zero single
      · exact turn_of_burst present zero single (serves.enabled single)
  | waitAwReady => exact turn_of_waitAwReady serves (Or.inl state)
  | waitAwReadyBurst => exact turn_of_waitAwReady serves (Or.inr state)
  | waitLastWReady =>
      cases last : wrCntDone s i with
      | true => exact turn_of_lastBeat serves state last
      | false => exact turn_of_beat serves state last
  | waitLastWReadyAwReady =>
      cases last : wrCntDone s i with
      | true => exact turn_of_lastBeat_aw serves state last
      | false => exact turn_of_beat_aw serves state last

end Write

/-! ## Runs -/

section Runs

variable {addrIndex : Nat} {α : Type u} {β : Type v} {axiBurstWriteEn : Bool}
  {c : State addrIndex × Ledger addrIndex α β} {i : Input addrIndex α β}
  {request : WrReq addrIndex α β}

/-- The transfers, while a write waits. -/
structure Accounts (l : Ledger addrIndex α β) (request : WrReq addrIndex α β)
    (progress : Progress) : Prop where
  addresses : l.addresses = l.granted.map WrReq.address ++
    if progress.sent then [request.address] else []
  beats : l.beats = l.granted.flatMap WrReq.burst ++ request.beats progress.count
  within : progress.count ≤ request.length
  notDone : request.done progress = false

/-- A write waits. -/
structure Live (axiBurstWriteEn : Bool) (c : State addrIndex × Ledger addrIndex α β)
    (request : WrReq addrIndex α β) : Prop where
  serves : Serves axiBurstWriteEn c.1 request
  accounts : Accounts c.2 request (progressOf c.1 request)
  heldAw : ∀ address ∈ c.2.heldAw,
    (progressOf c.1 request).sent = false ∧ address = request.address
  heldW : ∀ beat ∈ c.2.heldW, (progressOf c.1 request).count < request.length ∧
    beat = request.beat (progressOf c.1 request).count

/-- No write waits. -/
structure Rests (c : State addrIndex × Ledger addrIndex α β) : Prop where
  state : c.1 = reset
  addresses : c.2.addresses = c.2.granted.map WrReq.address
  beats : c.2.beats = c.2.granted.flatMap WrReq.burst
  heldAw : c.2.heldAw = none
  heldW : c.2.heldW = none

/-- The state is that of the ledger. -/
structure Tracked (axiBurstWriteEn : Bool) (c : State addrIndex × Ledger addrIndex α β) :
    Prop where
  live : ∀ request ∈ c.2.pending, Live axiBurstWriteEn c request
  rests : c.2.pending = none → Rests c

/-- A write may start where none waits. -/
theorem Rests.live (rests : Rests c) (enabled : request.blen ≠ 0 → axiBurstWriteEn = true) :
    Live axiBurstWriteEn c request := by
  have progress : progressOf c.1 request = ⟨false, 0⟩ := by
    rw [rests.state]
    rfl
  constructor
  · rw [rests.state]
    exact serves_cleared enabled (by rintro (⟨⟨⟩⟩ | ⟨⟨⟩⟩))
  · rw [progress]
    constructor
    · rw [rests.addresses]
      exact (List.append_nil _).symm
    · rw [rests.beats]
      exact (List.append_nil _).symm
    · exact Nat.zero_le _
    · rfl
  · simp [rests.heldAw]
  · simp [rests.heldW]

/-- The write at the shim is the one that waits, or starts. -/
theorem Tracked.present (tracked : Tracked axiBurstWriteEn c)
    (environment : Environment axiBurstWriteEn c i) (present : i.wrReq = true) :
    Live axiBurstWriteEn c i.request := by
  cases waits : c.2.pending with
  | none => exact (tracked.rests waits).live (environment.enabled present)
  | some request =>
      rw [(environment.held request waits).2]
      exact tracked.live request waits

/-- Without a write nothing happens. -/
theorem Tracked.absent (tracked : Tracked axiBurstWriteEn c)
    (environment : Environment axiBurstWriteEn c i) (absent : i.wrReq = false) :
    Rests c ∧ comb axiBurstWriteEn c.1 i = defaults c.1 := by
  have rests : Rests c := by
    apply tracked.rests
    cases waits : c.2.pending with
    | none => rfl
    | some request =>
        have held := (environment.held request waits).1
        rw [absent] at held
        cases held
  refine ⟨rests, ?_⟩
  rw [rests.state]
  simp [comb, reset, combIdle, absent]

theorem Live.turn (live : Live axiBurstWriteEn c i.request) (present : i.wrReq = true) :
    Turn axiBurstWriteEn c.1 i
      ((progressOf c.1 i.request).after i.request i.awReady i.wReady) :=
  AxiShim.turn live.serves present

/-- The word at the data channel is the next beat. -/
theorem Live.w_eq (live : Live axiBurstWriteEn c i.request) (present : i.wrReq = true)
    (more : (progressOf c.1 i.request).count < i.request.length) :
    w c.1 i = i.request.beat (progressOf c.1 i.request).count := by
  rw [(live.turn present).counted more, w, WrReq.beat, BitVec.ofNat_toNat, BitVec.setWidth_eq,
    wrCntDone_eq]

/-- The transfers of a cycle continue those of the write. -/
theorem Live.transferred (live : Live axiBurstWriteEn c i.request) (present : i.wrReq = true)
    {after : Progress}
    (next : after = (progressOf c.1 i.request).after i.request i.awReady i.wReady) :
    (record axiBurstWriteEn c.1 i c.2).addresses =
        c.2.granted.map WrReq.address ++ (if after.sent then [i.request.address] else []) ∧
      (record axiBurstWriteEn c.1 i c.2).beats =
        c.2.granted.flatMap WrReq.burst ++ i.request.beats after.count ∧
      after.count ≤ i.request.length := by
  subst next
  have turn := live.turn present
  have within := live.accounts.within
  refine ⟨?_, ?_, ?_⟩
  · rw [record, live.accounts.addresses, sends, turn.awValid, Progress.after]
    cases (progressOf c.1 i.request).sent <;> cases i.awReady <;> simp [aw, WrReq.address]
  · rw [record, live.accounts.beats, transfers, turn.wValid, Progress.after]
    by_cases more : (progressOf c.1 i.request).count < i.request.length
    · rw [live.w_eq present more]
      cases i.wReady <;> simp [more, WrReq.beats_succ]
    · simp [more]
  · rw [Progress.after]
    dsimp only
    split
    · rename_i grows
      simp only [Bool.and_eq_true, decide_eq_true_eq] at grows
      exact grows.1
    · exact within

theorem beats_eq_burst_iff {count : Nat} :
    request.beats count = request.burst ↔ count = request.length := by
  constructor
  · intro same
    simpa [WrReq.beats, WrReq.burst] using congrArg List.length same
  · intro same
    rw [same, WrReq.burst]

theorem Live.sound (live : Live axiBurstWriteEn c i.request) (present : i.wrReq = true) :
    Sound axiBurstWriteEn c i := by
  have turn := live.turn present
  obtain ⟨addresses, beats, -⟩ := live.transferred present rfl
  constructor
  · intro address held
    obtain ⟨waits, rfl⟩ := live.heldAw address held
    rw [turn.awValid, waits]
    exact ⟨rfl, rfl⟩
  · intro beat held
    obtain ⟨more, rfl⟩ := live.heldW beat held
    rw [turn.wValid, decide_eq_true more]
    exact ⟨rfl, live.w_eq present more⟩
  · rw [turn.awValid, live.accounts.addresses]
    cases (progressOf c.1 i.request).sent <;> simp [present]
  · rw [turn.wValid, live.accounts.beats, decide_eq_true_eq, List.flatMap_append,
      List.flatMap_singleton, ne_eq, List.append_cancel_left_eq, beats_eq_burst_iff]
    have within := live.accounts.within
    constructor
    · intro more
      exact ⟨present, Nat.ne_of_lt more⟩
    · rintro ⟨-, more⟩
      exact Nat.lt_of_le_of_ne within more
  · rw [turn.wrGnt, addresses, beats, List.map_append, List.flatMap_append,
      List.flatMap_singleton, List.append_cancel_left_eq, List.append_cancel_left_eq,
      beats_eq_burst_iff, WrReq.done]
    cases ((progressOf c.1 i.request).after i.request i.awReady i.wReady).sent <;>
      simp [present]

/-- The write is granted, or waits on. -/
theorem Live.tracked (live : Live axiBurstWriteEn c i.request) (present : i.wrReq = true) :
    Tracked axiBurstWriteEn ((shim addrIndex α β axiBurstWriteEn).step c i) := by
  have turn := live.turn present
  obtain ⟨addresses, beats, within⟩ := live.transferred present rfl
  have heldAw : ∀ address ∈ (record axiBurstWriteEn c.1 i c.2).heldAw,
      ((progressOf c.1 i.request).after i.request i.awReady i.wReady).sent = false ∧
        address = i.request.address := by
    intro address held
    rw [record, turn.awValid] at held
    cases sent : (progressOf c.1 i.request).sent <;> cases ready : i.awReady <;>
      simp_all [Progress.after, aw, WrReq.address]
  have heldW : ∀ beat ∈ (record axiBurstWriteEn c.1 i c.2).heldW,
      ((progressOf c.1 i.request).after i.request i.awReady i.wReady).count <
          i.request.length ∧
        beat = i.request.beat
          ((progressOf c.1 i.request).after i.request i.awReady i.wReady).count := by
    intro beat held
    rw [record, turn.wValid] at held
    by_cases more : (progressOf c.1 i.request).count < i.request.length
    · rw [live.w_eq present more] at held
      cases ready : i.wReady <;> simp_all [Progress.after]
    · simp [more] at held
  generalize after_eq : (progressOf c.1 i.request).after i.request i.awReady i.wReady = after at *
  have pending : (record axiBurstWriteEn c.1 i c.2).pending =
      if i.request.done after then none else some i.request := by
    rw [record, turn.wrGnt, present]
    cases i.request.done after <;> rfl
  have granted : (record axiBurstWriteEn c.1 i c.2).granted =
      c.2.granted ++ if i.request.done after then [i.request] else [] := by
    rw [record, turn.wrGnt]
  cases done : i.request.done after with
  | true =>
      rw [done, if_pos rfl] at pending granted
      rw [WrReq.done, Bool.and_eq_true, decide_eq_true_eq] at done
      obtain ⟨sent, all⟩ := done
      constructor
      · intro request waits
        cases pending.symm.trans waits
      · intro _
        constructor
        · exact turn.granted (by rw [WrReq.done, sent, all, decide_eq_true rfl]; rfl)
        · refine addresses.trans ?_
          rw [sent, if_pos rfl, shim, Machine.withHistory, granted, List.map_append]
          rfl
        · refine beats.trans ?_
          rw [all, shim, Machine.withHistory, granted, List.flatMap_append, List.flatMap_singleton]
          rfl
        · apply Option.eq_none_iff_forall_not_mem.mpr
          intro address held
          rw [(heldAw address held).1] at sent
          cases sent
        · apply Option.eq_none_iff_forall_not_mem.mpr
          intro beat held
          exact absurd all (Nat.ne_of_lt (heldW beat held).1)
  | false =>
      rw [done, if_neg Bool.false_ne_true] at pending granted
      rw [List.append_nil] at granted
      have progress := turn.progress done
      constructor
      · intro request waits
        obtain rfl : i.request = request := Option.some.inj (pending.symm.trans waits)
        constructor
        · exact turn.serves done
        · change Accounts _ _ (progressOf (step axiBurstWriteEn c.1 i) i.request)
          rw [progress]
          constructor
          · rw [← granted] at addresses
            exact addresses
          · rw [← granted] at beats
            exact beats
          · exact within
          · exact done
        · change ∀ address ∈ _, (progressOf (step axiBurstWriteEn c.1 i) i.request).sent = _ ∧ _
          rw [progress]
          exact heldAw
        · change ∀ beat ∈ _, (progressOf (step axiBurstWriteEn c.1 i) i.request).count < _ ∧
            beat = WrReq.beat _ (progressOf (step axiBurstWriteEn c.1 i) i.request).count
          rw [progress]
          exact heldW
      · intro rests
        cases pending.symm.trans rests

theorem Tracked.sound (tracked : Tracked axiBurstWriteEn c)
    (environment : Environment axiBurstWriteEn c i) : Sound axiBurstWriteEn c i := by
  cases present : i.wrReq with
  | true => exact (tracked.present environment present).sound present
  | false =>
      obtain ⟨rests, out⟩ := tracked.absent environment present
      constructor
      · simp [rests.heldAw]
      · simp [rests.heldW]
      · simp [out, defaults, present]
      · simp [out, defaults, present]
      · simp [out, defaults, present]

theorem Tracked.step (tracked : Tracked axiBurstWriteEn c)
    (environment : Environment axiBurstWriteEn c i) :
    Tracked axiBurstWriteEn ((shim addrIndex α β axiBurstWriteEn).step c i) := by
  cases present : i.wrReq with
  | true => exact (tracked.present environment present).tracked present
  | false =>
      obtain ⟨rests, out⟩ := tracked.absent environment present
      have idle : record axiBurstWriteEn c.1 i c.2 = { c.2 with pending := none } := by
        simp [record, sends, transfers, out, defaults, present, rests.heldAw, rests.heldW]
      have same : AxiShim.step axiBurstWriteEn c.1 i = c.1 := by
        simp [AxiShim.step, wrCntD, out, defaults]
      constructor
      · intro request waits
        change request ∈ (record axiBurstWriteEn c.1 i c.2).pending at waits
        rw [idle] at waits
        cases waits
      · intro _
        have next : (shim addrIndex α β axiBurstWriteEn).step c i =
            (c.1, { c.2 with pending := none }) := Prod.ext same idle
        rw [next]
        exact ⟨rests.state, rests.addresses, rests.beats, rests.heldAw, rests.heldW⟩

theorem tracked_reset : Tracked axiBurstWriteEn (shim addrIndex α β axiBurstWriteEn).reset where
  live _ waits := by cases waits
  rests _ := ⟨rfl, rfl, rfl, rfl, rfl⟩

theorem Tracked.exact (tracked : Tracked axiBurstWriteEn c) : ∃ progress, Exact c.2 progress := by
  cases waits : c.2.pending with
  | none =>
      have rests := tracked.rests waits
      refine ⟨⟨false, 0⟩, ?_, ?_, ?_⟩
      · rw [rests.addresses, if_neg Bool.false_ne_true, List.append_nil]
      · rw [rests.beats, waits]
        simp
      · simp [waits]
  | some request =>
      have accounts := (tracked.live request waits).accounts
      refine ⟨progressOf c.1 request, ?_, ?_, ?_⟩
      · rw [accounts.addresses, waits]
        rfl
      · rw [accounts.beats, waits, Option.toList_some, List.flatMap_singleton]
      · intro other same
        obtain rfl : request = other := Option.some.inj (waits.symm.trans same)
        exact ⟨accounts.within, accounts.notDone⟩

/-- In every run the shim transfers one address and the beats of each write, and grants the write
with its last transfer. -/
theorem writes_exact {inputs : List (Input addrIndex α β)}
    (along : (shim addrIndex α β axiBurstWriteEn).RunAlong (Environment axiBurstWriteEn) inputs) :
    (∃ progress, Exact ((shim addrIndex α β axiBurstWriteEn).run inputs).2 progress) ∧
      (shim addrIndex α β axiBurstWriteEn).RunAlong (Sound axiBurstWriteEn) inputs := by
  have preserved (c : State addrIndex × Ledger addrIndex α β) (i : Input addrIndex α β)
      (tracked : Tracked axiBurstWriteEn c) (environment : Environment axiBurstWriteEn c i) :
      Tracked axiBurstWriteEn ((shim addrIndex α β axiBurstWriteEn).step c i) :=
    tracked.step environment
  constructor
  · have tracked := (shim addrIndex α β axiBurstWriteEn).run_invariant_along
      (Tracked axiBurstWriteEn) tracked_reset preserved along
    exact tracked.exact
  · exact along.of_invariant (Tracked axiBurstWriteEn) preserved
      (fun c i tracked environment => tracked.sound environment) tracked_reset

/-- A burst of two beats. -/
def twoBeats : WrReq 1 (BitVec 8) Bool := ⟨0x40, fun index => index = 1, 1⟩

/-- The first beat is accepted before the address, the second one together with it. -/
def twoCycles : List (Input 1 (BitVec 8) Bool) :=
  [⟨true, twoBeats, false, true⟩, ⟨true, twoBeats, true, true⟩]

theorem two_beats_exact :
    (∃ progress, Exact ((shim 1 (BitVec 8) Bool true).run twoCycles).2 progress) ∧
      (shim 1 (BitVec 8) Bool true).RunAlong (Sound true) twoCycles := by
  have along : (shim 1 (BitVec 8) Bool true).RunAlong (Environment true) twoCycles :=
    ⟨⟨fun _ absent => (nomatch absent), fun _ _ => rfl⟩,
      ⟨fun _ held => ⟨rfl, Option.some.inj held⟩, fun _ _ => rfl⟩, trivial⟩
  exact writes_exact along

end Runs

end Cva6Hpd.CacheSubsystem.AxiShim
