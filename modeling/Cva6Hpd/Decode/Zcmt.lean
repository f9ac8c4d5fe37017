import Cva6Hpd.Decode.IssueRegister
import Cva6Hpd.Hw.Machine
import Mathlib.Data.BitVec

/-!
# Table jumps

`zcmt_decoder` for 32 bits, with the pipeline register of `id_stage` behind it. A `cm.jt` or
`cm.jalt` reads its target from the table in memory and becomes a `jal`. The decoder asks for the
table entry in one cycle and is ready in the next one, whether the cache has granted the request
and answered it or not; it knows neither flushes nor the valid bit of its instruction.
-/

namespace Cva6Hpd.Decode.Zcmt

open Cva6Hpd.Decode

/-! ## The code -/

/-- The width of the index of the data cache; physical addresses have 34 bits. -/
structure Cfg where
  dcacheIndexWidth : Nat

/-- The states of the decoder. -/
inductive Fsm where
  | idle | tableJump
deriving DecidableEq, Repr

/-- What decode hands to the issue stage: the word, and the target that replaces the immediate
of a table jump. -/
structure Decoded where
  instr : BitVec 32
  isZcmt : Bool
  jumpAddress : BitVec 32
  pc : BitVec 32
deriving DecidableEq

/-- The decoder and the pipeline register. `instrLatch` is the word that `instr_o` keeps where
the process does not assign it. -/
structure State where
  stateQ : Fsm
  instrLatch : BitVec 32
  issueQ : IssueRegister Decoded

/-- The inputs: the instruction of the frontend as the compressed decoder hands it on, the base
of the table, the port of the data cache and the acknowledgement. -/
structure Input where
  flush : Bool
  fetchValid : Bool
  instr : BitVec 32
  isZcmtInstr : Bool
  pc : BitVec 32
  jvtBase : BitVec 26
  dataGnt : Bool
  dataRvalid : Bool
  dataRdata : BitVec 32
  issueAck : Bool

section Code

variable (cfg : Cfg) (s : State) (i : Input)

/-- `instr_i[9:2]`. -/
def index (instr : BitVec 32) : BitVec 8 := instr.extractLsb' 2 8

/-- `table_address`. -/
def tableAddress : BitVec 32 :=
  (i.jvtBase ++ 0#6) + (i.instr.extractLsb' 2 6 ++ 0#2).setWidth 32

/-- `data_req`. -/
def dataReq : Bool := s.stateQ = .idle && i.isZcmtInstr

/-- The address that the cache reads: `address_index` is `table_address[9:0]` and `address_tag`
the rest. -/
def readAddress : Nat :=
  (tableAddress i).toNat / 2 ^ 10 % 2 ^ (34 - cfg.dcacheIndexWidth)
      * 2 ^ cfg.dcacheIndexWidth
    + (tableAddress i).toNat % 2 ^ 10 % 2 ^ cfg.dcacheIndexWidth

/-- `fetch_stall_o`. -/
def fetchStall : Bool := s.stateQ = .idle && i.isZcmtInstr

/-- A jump without an offset. -/
def jal (rd : BitVec 5) : BitVec 32 := 0#20 ++ rd ++ 0x6F#7

/-- `instr_o`. -/
def instrO : BitVec 32 :=
  match s.stateQ with
  | .idle => if i.isZcmtInstr then s.instrLatch else i.instr
  | .tableJump =>
      if i.dataRvalid then if (index i.instr).toNat < 32 then jal 0 else jal 1 else s.instrLatch

/-- `jump_address_o`. -/
def jumpAddressO : BitVec 32 :=
  if s.stateQ = .tableJump && i.dataRvalid then i.dataRdata - i.pc else 0

/-- `state_d`. -/
def stateD : Fsm :=
  match s.stateQ with
  | .idle => if i.isZcmtInstr then .tableJump else .idle
  | .tableJump => if i.dataRvalid then .idle else .tableJump

/-- What decode offers to the pipeline register; another instruction takes the other way. -/
def offer : Offer Decoded where
  flush := i.flush
  issueAck := i.issueAck
  fetchValid := i.fetchValid
  stall := fetchStall s i
  decodedValid := !(i.isZcmtInstr && fetchStall s i)
  decoded :=
    { instr := if i.isZcmtInstr then instrO s i else i.instr
      isZcmt := i.isZcmtInstr
      jumpAddress := jumpAddressO s i
      pc := i.pc }

/-- `fetch_entry_ready_o[0]`. -/
def ready : Bool := s.issueQ.ready (offer s i)

/-- A valid instruction enters the issue stage. -/
def enters : Bool := s.issueQ.enters (offer s i)

def step : State where
  stateQ := stateD s i
  instrLatch := instrO s i
  issueQ := s.issueQ.step (offer s i)

end Code

namespace Decoded

/-- The decoder sees a `jal`. -/
def isJal (d : Decoded) : Bool := d.instr.extractLsb' 0 7 = 0x6F

/-- The register that a `jal` links. -/
def rd (d : Decoded) : BitVec 5 := d.instr.extractLsb' 7 5

/-- The target of a table jump: its immediate is `jump_address_i`. -/
def target (d : Decoded) : BitVec 32 := d.pc + d.jumpAddress

end Decoded

/-! ## The reads in flight -/

/-- A read that the cache has granted: the presentation of an instruction that asked for it, if
one did, the base of the table at that time and the address. -/
structure Read where
  owner : Option Nat
  base : BitVec 26
  address : Nat

/-- What is known beside the circuit: the instruction that waits at the decoder, the number of
instructions before it, the granted reads without an answer, and whether the read of the decoder
has lost the instruction that asked for it. -/
structure Ledger where
  held : Option (BitVec 32 × Bool × BitVec 32)
  presented : Nat
  reads : List Read
  orphan : Bool

/-- The instruction at the decoder. -/
def Input.entry (i : Input) : BitVec 32 × Bool × BitVec 32 := (i.instr, i.isZcmtInstr, i.pc)

/-- A table jump is at the decoder and stays there. -/
def Input.presents (i : Input) : Bool := i.fetchValid && i.isZcmtInstr && !i.flush

section Ledger

variable (cfg : Cfg) (s : State) (i : Input) (l : Ledger)

/-- The instruction at the decoder is taken or flushed. -/
def departs : Bool := i.flush || ready s i

/-- The reads after the answer and the grant of this cycle. -/
def readsNext : List Read :=
  let left := if i.dataRvalid then l.reads.tail else l.reads
  if dataReq s i && i.dataGnt then
    left ++ [⟨if i.presents then some l.presented else none, i.jvtBase, readAddress cfg i⟩]
  else left

def record : Ledger where
  held := if i.fetchValid && !departs s i then some i.entry else none
  presented := if departs s i then l.presented + 1 else l.presented
  reads := readsNext cfg s i l
  orphan :=
    if dataReq s i then !i.presents
    else l.orphan || departs s i

end Ledger

/-- The stage with its ledger. -/
def stage (cfg : Cfg) : Hw.Machine (State × Ledger) Input :=
  Hw.Machine.withHistory ⟨⟨.idle, 0, ⟨false, ⟨0, false, 0, 0⟩⟩⟩, step⟩ ⟨none, 0, [], true⟩
    (record cfg)

/-- The instruction queue holds an instruction until it is taken, and the cache answers reads
that it has granted. -/
structure Environment (c : State × Ledger) (i : Input) : Prop where
  held : ∀ entry ∈ c.2.held, i.fetchValid = true ∧ i.entry = entry
  answers : i.dataRvalid = true → c.2.reads ≠ []

/-! ## The law -/

/-- The address of an entry of the table. -/
def entryAddress (base : BitVec 26) (instr : BitVec 32) : Nat :=
  (base.toNat * 64 + (index instr).toNat * 4) % 2 ^ 32

/-- What is asked for in one cycle. A table jump that enters the issue stage is taken from the
decoder and one that is taken enters it; its one read is for its own entry of the table, and the
answer to this read is its target. Where there is room it enters, or the read is on its way. -/
structure Sound (cfg : Cfg) (c : State × Ledger) (i : Input) : Prop where
  once : i.presents = true → enters c.1 i = ready c.1 i
  reads : i.presents = true → dataReq c.1 i = true →
    readAddress cfg i = entryAddress i.jvtBase i.instr
  answered : i.presents = true → enters c.1 i = true →
    i.dataRvalid = true ∧ ∃ read, c.2.reads = [read] ∧ read.owner = some c.2.presented ∧
      read.address = entryAddress read.base i.instr
  jumps : i.presents = true → enters c.1 i = true →
    (offer c.1 i).decoded.isJal = true ∧ (offer c.1 i).decoded.target = i.dataRdata ∧
      (offer c.1 i).decoded.rd = if (index i.instr).toNat < 32 then 0 else 1
  progress : i.presents = true → c.1.issueQ.room (offer c.1 i) = true →
    enters c.1 i = true ∨ dataReq c.1 i = true

/-- The index fits into the six bits that the decoder uses, and a table jump for which there is
room after its request finds the answer to its own read. -/
structure Timely (c : State × Ledger) (i : Input) : Prop where
  index : i.presents = true → (index i.instr).toNat < 64
  answer : i.presents = true → c.1.stateQ = .tableJump →
    c.1.issueQ.room (offer c.1 i) = true → c.2.orphan = false ∧ i.dataRvalid = true

section Addresses

variable {cfg : Cfg} {i : Input}

/-- The decoder uses the low six bits of the index. -/
theorem toNat_tableAddress :
    (tableAddress i).toNat = (i.jvtBase.toNat * 64 + (index i.instr).toNat % 64 * 4) % 2 ^ 32 := by
  have base : (i.jvtBase ++ 0#6).toNat = i.jvtBase.toNat * 64 := by
    rw [BitVec.toNat_append, Nat.shiftLeft_eq]
    simp
  have low : (i.instr.extractLsb' 2 6).toNat = (index i.instr).toNat % 64 := by
    rw [index, BitVec.extractLsb'_toNat, BitVec.extractLsb'_toNat]
    omega
  have offset : ((i.instr.extractLsb' 2 6 ++ 0#2).setWidth 32).toNat =
      (index i.instr).toNat % 64 * 4 := by
    rw [BitVec.toNat_setWidth, BitVec.toNat_append, Nat.shiftLeft_eq, low]
    simp
    omega
  rw [tableAddress, BitVec.toNat_add, base, offset]

theorem readAddress_eq (fits : cfg.dcacheIndexWidth = 10) (small : (index i.instr).toNat < 64) :
    readAddress cfg i = entryAddress i.jvtBase i.instr := by
  rw [readAddress, fits, toNat_tableAddress, Nat.mod_eq_of_lt small, entryAddress]
  have bound := i.jvtBase.isLt
  omega

end Addresses

/-! ## The invariant -/

/-- At most one read is in flight, and only while the decoder waits for it. Unless the decoder
has lost its instruction, the read is that of the instruction it holds. -/
structure Tracked (c : State × Ledger) : Prop where
  idle : c.1.stateQ = .idle → c.2.reads = []
  one : c.2.reads.length ≤ 1
  owned : c.1.stateQ = .tableJump → c.2.orphan = false → ∃ entry, c.2.held = some entry ∧
    entry.2.1 = true ∧ ∀ read ∈ c.2.reads, read.owner = some c.2.presented ∧
      read.address = entryAddress read.base entry.1

section Step

variable {cfg : Cfg} {c : State × Ledger} {i : Input}

theorem presents_eq_true : i.presents = true ↔
    i.fetchValid = true ∧ i.isZcmtInstr = true ∧ i.flush = false := by
  simp [Input.presents, and_assoc]

theorem tableJump_of_enters (presents : i.presents = true) (goes : enters c.1 i = true) :
    c.1.stateQ = .tableJump ∧ c.1.issueQ.room (offer c.1 i) = true := by
  obtain ⟨-, zcmt, -⟩ := presents_eq_true.mp presents
  simp only [enters, IssueRegister.enters, Bool.and_eq_true] at goes
  obtain ⟨⟨⟨room, -⟩, decoded⟩, -⟩ := goes
  refine ⟨?_, room⟩
  cases state : c.1.stateQ with
  | idle => simp [offer, fetchStall, state, zcmt] at decoded
  | tableJump => rfl

theorem enters_of_tableJump {s : State} (presents : i.presents = true)
    (state : s.stateQ = .tableJump) : enters s i = s.issueQ.room (offer s i) := by
  obtain ⟨fetch, zcmt, stays⟩ := presents_eq_true.mp presents
  simp [enters, IssueRegister.enters, offer, fetchStall, state, fetch, stays]

theorem tracked_idle (tracked : Tracked c) (environment : Environment c i) (timely : Timely c i)
    (fits : cfg.dcacheIndexWidth = 10) (state : c.1.stateQ = .idle) :
    Tracked ((stage cfg).step c i) := by
  have none := tracked.idle state
  have quiet : i.dataRvalid = false :=
    Bool.eq_false_iff.mpr fun answer => environment.answers answer none
  change Tracked (step c.1 i, record cfg c.1 i c.2)
  constructor
  · intro stays
    have other : i.isZcmtInstr = false := by
      by_contra zcmt
      simp [step, stateD, state, zcmt] at stays
    simp [record, readsNext, none, quiet, dataReq, state, other]
  · simp only [record, readsNext, none, quiet]
    split <;> simp
  · intro asked kept
    have zcmt : i.isZcmtInstr = true := by
      by_contra other
      simp [step, stateD, state, other] at asked
    have presents : i.presents = true := by
      simpa [record, dataReq, state, zcmt] using kept
    obtain ⟨fetch, -, stays⟩ := presents_eq_true.mp presents
    have waits : departs c.1 i = false := by
      simp [departs, stays, ready, IssueRegister.ready, offer, fetchStall, state, zcmt]
    refine ⟨i.entry, by simp [record, fetch, waits], zcmt, ?_⟩
    intro read member
    simp only [record, readsNext, none, quiet, waits, presents] at member ⊢
    split at member
    · simp only [Bool.false_eq_true, ↓reduceIte, List.nil_append, List.mem_singleton] at member
      subst member
      exact ⟨rfl, readAddress_eq fits (timely.index presents)⟩
    · cases member

theorem tracked_tableJump (tracked : Tracked c) (environment : Environment c i)
    (state : c.1.stateQ = .tableJump) : Tracked ((stage cfg).step c i) := by
  have silent : dataReq c.1 i = false := by simp [dataReq, state]
  have one := tracked.one
  change Tracked (step c.1 i, record cfg c.1 i c.2)
  cases answer : i.dataRvalid with
  | true =>
    have last : (record cfg c.1 i c.2).reads = [] := by
      have left : c.2.reads.tail = [] :=
        List.length_eq_zero_iff.mp (by rw [List.length_tail]; omega)
      simp [record, readsNext, silent, answer, left]
    have idle : (step c.1 i).stateQ = .idle := by simp [step, stateD, state, answer]
    constructor
    · exact fun _ => last
    · rw [last]
      exact Nat.zero_le 1
    · intro waits
      rw [idle] at waits
      cases waits
  | false =>
    have same : (record cfg c.1 i c.2).reads = c.2.reads := by
      simp [record, readsNext, silent, answer]
    have waits : (step c.1 i).stateQ = .tableJump := by simp [step, stateD, state, answer]
    constructor
    · intro idle
      rw [waits] at idle
      cases idle
    · rw [same]
      exact one
    · intro _ kept
      simp only [record, silent, Bool.false_eq_true, ↓reduceIte, Bool.or_eq_false_iff] at kept
      rcases tracked.owned state kept.1 with ⟨entry, held, zcmt, own⟩
      obtain ⟨fetch, unchanged⟩ := environment.held entry held
      refine ⟨entry, by simp [record, fetch, kept.2, unchanged], zcmt, ?_⟩
      intro read member
      rw [same] at member
      simpa [record, kept.2] using own read member

theorem tracked_step (fits : cfg.dcacheIndexWidth = 10) (tracked : Tracked c)
    (environment : Environment c i) (timely : Timely c i) : Tracked ((stage cfg).step c i) := by
  cases state : c.1.stateQ with
  | idle => exact tracked_idle tracked environment timely fits state
  | tableJump => exact tracked_tableJump tracked environment state

theorem extract_jal (rd : BitVec 5) :
    (jal rd).extractLsb' 0 7 = 0x6F ∧ (jal rd).extractLsb' 7 5 = rd := by
  revert rd
  decide

theorem sound_of_tracked (fits : cfg.dcacheIndexWidth = 10) (tracked : Tracked c)
    (environment : Environment c i) (timely : Timely c i) : Sound cfg c i where
  once presents := by
    obtain ⟨fetch, zcmt, stays⟩ := presents_eq_true.mp presents
    simp [enters, ready, IssueRegister.enters, IssueRegister.ready, offer, fetch, zcmt, stays]
  reads presents _ := readAddress_eq fits (timely.index presents)
  answered presents goes := by
    obtain ⟨state, room⟩ := tableJump_of_enters presents goes
    obtain ⟨kept, answer⟩ := timely.answer presents state room
    rcases tracked.owned state kept with ⟨entry, held, -, own⟩
    have unchanged := (environment.held entry held).2
    have some := environment.answers answer
    have one := tracked.one
    refine ⟨answer, ?_⟩
    rcases reads : c.2.reads with _ | ⟨read, _ | _⟩
    · exact absurd reads some
    · have mine := own read (by rw [reads]; exact List.mem_singleton_self read)
      refine ⟨read, rfl, mine.1, ?_⟩
      rw [mine.2, ← unchanged]
      rfl
    · rw [reads] at one
      simp at one
  jumps presents goes := by
    obtain ⟨state, room⟩ := tableJump_of_enters presents goes
    obtain ⟨-, answer⟩ := timely.answer presents state room
    obtain ⟨-, zcmt, -⟩ := presents_eq_true.mp presents
    simp only [Decoded.isJal, Decoded.target, Decoded.rd, offer, instrO, jumpAddressO, state, zcmt,
      answer, ↓reduceIte, decide_true, Bool.and_self]
    refine ⟨?_, ?_, ?_⟩
    · split <;> simp [extract_jal]
    · rw [BitVec.add_comm, BitVec.sub_add_cancel]
    · split <;> simp [extract_jal]
  progress presents room := by
    cases state : c.1.stateQ with
    | idle =>
      obtain ⟨-, zcmt, -⟩ := presents_eq_true.mp presents
      exact Or.inr (by simp [dataReq, state, zcmt])
    | tableJump => exact Or.inl (by rw [enters_of_tableJump presents state, room])

end Step

/-! ## Runs -/

section Runs

variable {cfg : Cfg} {inputs : List Input}

theorem tracked_reset : Tracked (stage cfg).reset :=
  ⟨fun _ => rfl, Nat.zero_le 1, fun waits => by cases waits⟩

theorem enters_after_request {s : State} {i j : Input} (presents : i.presents = true)
    (room : s.issueQ.room (offer s i) = true) (asks : dataReq s i = true)
    (again : j.presents = true) : enters (step s i) j = true := by
  obtain ⟨-, zcmt, -⟩ := presents_eq_true.mp presents
  simp only [dataReq, Bool.and_eq_true, decide_eq_true_eq] at asks
  have waits : (step s i).stateQ = .tableJump := by simp [step, stateD, asks.1, zcmt]
  have stays : s.issueQ.enters (offer s i) = false := by
    simp [IssueRegister.enters, offer, fetchStall, asks.1, zcmt]
  rw [enters_of_tableJump again waits]
  exact IssueRegister.room_step _ _ room stays

/-- In a run in which every table jump has a small index and finds the answer to its own read as
soon as it can use it, every cycle is as it should be, and a table jump for which there is room
is issued in the cycle or the next one. -/
theorem jumps_of_timely (fits : cfg.dcacheIndexWidth = 10)
    (along : (stage cfg).RunAlong (fun c i => Environment c i ∧ Timely c i) inputs) :
    (stage cfg).RunAlong (Sound cfg) inputs ∧
      ∀ first i j later, inputs = first ++ i :: j :: later →
        i.presents = true → j.presents = true →
          ((stage cfg).run first).1.issueQ.room (offer ((stage cfg).run first).1 i) = true →
            enters ((stage cfg).run first).1 i = true ∨
              enters ((stage cfg).run (first ++ [i])).1 j = true := by
  have sound : (stage cfg).RunAlong (Sound cfg) inputs :=
    along.of_invariant Tracked
      (fun _ _ tracked now => tracked_step fits tracked now.1 now.2)
      (fun _ _ tracked now => sound_of_tracked fits tracked now.1 now.2) tracked_reset
  refine ⟨sound, ?_⟩
  rintro first i j later rfl presents again room
  have here := (((stage cfg).along_append (Sound cfg) _ first (i :: j :: later)).mp sound).2.1
  rcases here.progress presents room with goes | asks
  · exact Or.inl goes
  · rw [Hw.Machine.run_concat]
    exact Or.inr (enters_after_request presents room asks again)

end Runs

/-! ## Two jumps -/

/-- A table jump at address zero, with the table at address 64, before a cache that grants. -/
def tableJump (instr : BitVec 32) : Input where
  flush := false
  fetchValid := true
  instr := instr
  isZcmtInstr := true
  pc := 0
  jvtBase := 1
  dataGnt := true
  dataRvalid := false
  dataRdata := 0
  issueAck := true

/-- `cm.jt` through entry 5, whose read is answered in the cycle after the request. -/
def promptJump : List Input :=
  [tableJump 0xA016#32, { tableJump 0xA016#32 with dataRvalid := true, dataRdata := 0x1000#32 }]

theorem promptJump_sound : (stage ⟨10⟩).RunAlong (Sound ⟨10⟩) promptJump := by
  refine (jumps_of_timely rfl ?_).1
  refine ⟨⟨⟨?_, ?_⟩, ?_, ?_⟩, ⟨⟨?_, ?_⟩, ?_, ?_⟩, trivial⟩
  · exact fun _ held => nomatch held
  · decide
  · decide
  · decide
  · rintro entry ⟨⟩
    exact ⟨rfl, rfl⟩
  · decide
  · decide
  · decide

/-- `cm.jalt` through entry 64 reads entry 0. -/
theorem jump64_not_sound :
    ∃ inputs, (stage ⟨10⟩).RunAlong Environment inputs ∧
      ¬(stage ⟨10⟩).RunAlong (Sound ⟨10⟩) inputs := by
  refine ⟨[tableJump 0xA102#32], ⟨⟨fun _ held => (nomatch held), by decide⟩, trivial⟩, ?_⟩
  intro sound
  have address := sound.1.reads (by decide) (by decide)
  revert address
  decide

end Cva6Hpd.Decode.Zcmt
