import Cva6Hpd.Hw.Machine
import Cva6Hpd.Lsu.Control

/-!
# The load buffer

The load unit alone, with a history of the requests that the data cache granted and of those
that it answered. The entries of the load buffer are the granted requests without an answer:
a request takes an entry that is free, or that is freed in the same cycle, and finds in it
what it wrote until its answer comes.
-/

namespace Cva6Hpd.Lsu.LoadUnit

open Cva6Hpd.Hw

variable {cfg : Cfg}

/-! ## Histories -/

/-- The inputs of a cycle with the number of the request that the data cache answers. -/
structure Cycle (cfg : Cfg) where
  input : Input cfg
  request : Nat

/-- A granted request: the number of the load that it is for, the load, and the identifier. -/
structure Request (cfg : Cfg) where
  load : Nat
  ctrl : LsuCtrl cfg
  id : Fin cfg.nrLoadBufEntries
deriving DecidableEq

/-- A write-back of the load unit, the number of the load that it is for, and the inputs of
the cycle with the request that was answered in it. -/
structure WriteBack (cfg : Cfg) where
  load : Nat
  transId : cfg.TransId
  exception : Bool
  result : BitVec cfg.xlen
  input : Input cfg
  answer : Option Nat

/-- The granted requests and the numbers of the answered ones; the loads in the order in
which they were taken from the head of the queue; of those that asked the data cache, the ones
that wait with their requests, and those that were flushed; the write-backs; the loads whose
translation faulted and those that were dropped; the load that was at the head and stays
there, and the request that was granted in the last cycle. -/
structure History (cfg : Cfg) where
  requests : List (Request cfg)
  answered : List Nat
  taken : List (LsuCtrl cfg)
  waiting : List (Nat × Nat)
  flushed : List Nat
  writes : List (WriteBack cfg)
  faults : List Nat
  dropped : List Nat
  head : Option (LsuCtrl cfg)
  tag : Option Nat

def History.initial : History cfg where
  requests := []
  answered := []
  taken := []
  waiting := []
  flushed := []
  writes := []
  faults := []
  dropped := []
  head := none
  tag := none

section Record

variable (s : State cfg) (c : Cycle cfg) (h : History cfg)

/-- The number of the request that is answered in this cycle. -/
def answer : Option Nat := if c.input.reqPort.dataRvalid then some c.request else none

/-- The request for the load at the head, if it is granted. -/
def granted : List (Request cfg) :=
  if ldbufW s c.input then
    [{ load := h.taken.length, ctrl := c.input.lsuCtrl, id := ldbufWindex s c.input }]
  else []

/-- The load that a write-back of this cycle is for: the one of the answered request, or the
one at the head. -/
def owner : Nat :=
  match answer c with
  | some number => ((h.requests[number]?).map Request.load).getD h.taken.length
  | none => h.taken.length

/-- The loads that wait for the data cache, before a flush. -/
def remaining : List (Nat × Nat) :=
  h.waiting.filter (fun load => some load.2 ≠ answer c) ++
    if popLd s c.input && ldbufW s c.input then [(h.taken.length, h.requests.length)] else []

/-- The load whose tag is sent, or the one that leaves the head without a request, faults. -/
def faulting : List Nat :=
  if c.input.ex.valid then
    match s.stateQ with
    | .sendTag => ((h.tag.bind fun number => h.requests[number]?).map Request.load).toList
    | .waitTranslation => if popLd s c.input then [h.taken.length] else []
    | _ => []
  else []

def record : History cfg where
  requests := h.requests ++ granted s c h
  answered := h.answered ++ (answer c).toList
  taken := h.taken ++ if popLd s c.input then [c.input.lsuCtrl] else []
  waiting := if c.input.flush then [] else remaining s c h
  flushed := h.flushed ++ if c.input.flush then (remaining s c h).map Prod.fst else []
  writes :=
    h.writes ++
      if validO s c.input then
        [{ load := owner c h
           transId := transId s c.input
           exception := exValid s c.input
           result := result s c.input
           input := c.input
           answer := answer c }]
      else []
  faults := h.faults ++ faulting s c h
  dropped :=
    h.dropped ++
      if s.stateQ = .waitSpecLoad && popLd s c.input then [h.taken.length] else []
  head :=
    if c.input.flush || popLd s c.input || !c.input.valid then none else some c.input.lsuCtrl
  tag := if ldbufW s c.input then some h.requests.length else none

end Record

/-- The load unit together with what happened at its ports. -/
def recorded (cfg : Cfg) : Machine (State cfg × History cfg) (Cycle cfg) where
  reset := (reset, History.initial)
  step state c := (step state.1 c.input, record state.1 c state.2)

/-- The request is granted and not answered. -/
def Open (h : History cfg) (number : Nat) (request : Request cfg) : Prop :=
  h.requests[number]? = some request ∧ number ∉ h.answered

/-- The neighbours of the unit: a load stays at the head until it is taken or flushed, and
the data cache answers each granted request once, in a later cycle, under its identifier. The
request of the last cycle, if it is killed, is answered at once. -/
structure Environment (state : State cfg × History cfg) (c : Cycle cfg) : Prop where
  head : ∀ load ∈ state.2.head, c.input.valid = true ∧
    c.input.lsuCtrl.transId = load.transId ∧ c.input.lsuCtrl.vaddr = load.vaddr ∧
      c.input.lsuCtrl.operation = load.operation
  answers : c.input.reqPort.dataRvalid = true → ∃ request,
    Open state.2 c.request request ∧
      c.input.reqPort.dataRid = BitVec.ofNat _ request.id.val
  kills : ∀ number ∈ state.2.tag, killReq state.1 c.input = true →
    c.input.reqPort.dataRvalid = true ∧ c.request = number

/-! ## Entries -/

/-- What the load buffer keeps of a load. -/
def entryOf (ctrl : LsuCtrl cfg) : LdBuf cfg where
  transId := ctrl.transId
  addressOffset := ctrl.vaddr.setWidth cfg.xlenAlignBytes
  operation := ctrl.operation

/-- The used entries are those of the open requests. -/
structure Tracks (s : State cfg) (h : History cfg) : Prop where
  bounded : ∀ number ∈ h.answered, number < h.requests.length
  valid_iff : ∀ entry, s.ldbufValidQ entry = true ↔ ∃ number request,
    Open h number request ∧ request.id = entry
  distinct : ∀ {number other request second}, Open h number request → Open h other second →
    request.id = second.id → number = other
  data : ∀ {number request}, Open h number request →
    s.ldbufQ request.id = entryOf request.ctrl

/-- A new request does not take an entry in use. -/
def Handed (s : State cfg) (c : Cycle cfg) (h : History cfg) : Prop :=
  ldbufW s c.input = true → ∀ number request, Open h number request →
    answer c ≠ some number → request.id ≠ ldbufWindex s c.input

section Cycles

variable {s : State cfg} {c : Cycle cfg} {h : History cfg}

theorem ldbufRindex_eq (fits : cfg.nrLoadBufEntries ≤ 2 ^ cfg.dcacheIdWidth)
    {entry : Fin cfg.nrLoadBufEntries} {i : Input cfg}
    (rid : i.reqPort.dataRid = BitVec.ofNat _ entry.val) : ldbufRindex i = entry := by
  have small : entry.val < 2 ^ cfg.dcacheIdWidth := lt_of_lt_of_le entry.isLt fits
  apply Fin.ext
  rw [ldbufRindex, rid, BitVec.toNat_ofNat, Nat.mod_eq_of_lt small, Fin.val_ofNat,
    Nat.mod_eq_of_lt entry.isLt]

theorem lt_of_open {number : Nat} {request : Request cfg} (opened : Open h number request) :
    number < h.requests.length := by
  rcases List.getElem?_eq_some_iff.mp opened.1 with ⟨inside, _⟩
  exact inside

theorem getElem?_granted {number : Nat} {request : Request cfg} :
    (granted s c h)[number]? = some request ↔
      ldbufW s c.input = true ∧ number = 0 ∧
        { load := h.taken.length, ctrl := c.input.lsuCtrl,
          id := ldbufWindex s c.input } = request := by
  rw [granted]
  cases ldbufW s c.input
  · simp
  · simp [List.getElem?_singleton]

theorem open_record (tracks : Tracks s h) (env : Environment (s, h) c) {number : Nat}
    {request : Request cfg} :
    Open (record s c h) number request ↔
      (Open h number request ∧ answer c ≠ some number) ∨
        (ldbufW s c.input = true ∧ number = h.requests.length ∧
          { load := h.taken.length, ctrl := c.input.lsuCtrl,
            id := ldbufWindex s c.input } = request) := by
  have known : answer c = some number → number < h.requests.length := by
    intro answered
    rw [answer] at answered
    split at answered
    · next valid =>
      rcases env.answers valid with ⟨_, opened, _⟩
      rw [Option.some.injEq] at answered
      exact answered ▸ lt_of_open opened
    · cases answered
  simp only [Open, record, List.mem_append, Option.mem_toList, not_or]
  rcases Nat.lt_or_ge number h.requests.length with inside | beyond
  · rw [List.getElem?_append_left inside]
    have old : number ≠ h.requests.length := Nat.ne_of_lt inside
    simp [old, and_assoc]
  · rw [List.getElem?_append_right beyond, getElem?_granted]
    have fresh : number ∉ h.answered := fun member =>
      absurd (tracks.bounded number member) (Nat.not_lt.mpr beyond)
    have unanswered : answer c ≠ some number := fun answered =>
      absurd (known answered) (Nat.not_lt.mpr beyond)
    have absent : h.requests[number]? = none := List.getElem?_eq_none beyond
    have first : number - h.requests.length = 0 ↔ number = h.requests.length := by omega
    simp [absent, fresh, unanswered, first]

/-! ## One cycle of the buffer -/

theorem answered_eq (fits : cfg.nrLoadBufEntries ≤ 2 ^ cfg.dcacheIdWidth) (tracks : Tracks s h)
    (env : Environment (s, h) c) {number : Nat} {request : Request cfg}
    (opened : Open h number request) (valid : c.input.reqPort.dataRvalid = true) :
    answer c = some number ↔ ldbufRindex c.input = request.id := by
  rcases env.answers valid with ⟨answered, known, rid⟩
  have index := ldbufRindex_eq fits rid
  have isAnswer : answer c = some c.request := by rw [answer, if_pos valid]
  rw [isAnswer, Option.some.injEq, index]
  constructor
  · rintro rfl
    have equal := known.1.symm.trans opened.1
    rw [Option.some.injEq] at equal
    rw [equal]
  · exact fun same => tracks.distinct known opened same

theorem freed_iff (fits : cfg.nrLoadBufEntries ≤ 2 ^ cfg.dcacheIdWidth) (tracks : Tracks s h)
    (env : Environment (s, h) c) {number : Nat} {request : Request cfg}
    (opened : Open h number request) :
    answer c = some number ↔
      c.input.reqPort.dataRvalid = true ∧ ldbufRindex c.input = request.id := by
  cases valid : c.input.reqPort.dataRvalid
  · simp [answer, valid]
  · simp [answered_eq fits tracks env opened valid]

/-- With one entry, every entry is the one that is written. -/
theorem eq_of_fallthrough (single : fallthrough cfg = true)
    (first second : Fin cfg.nrLoadBufEntries) : first = second := by
  have one : cfg.nrLoadBufEntries = 1 := by simpa [fallthrough] using single
  apply Fin.ext
  omega

theorem ldbufValidD_eq (entry : Fin cfg.nrLoadBufEntries) :
    ldbufValidD s c.input entry = true ↔
      (ldbufW s c.input = true ∧ entry = ldbufWindex s c.input) ∨
        (s.ldbufValidQ entry = true ∧
          ¬(c.input.reqPort.dataRvalid = true ∧ ldbufRindex c.input = entry)) := by
  rw [ldbufValidD]
  split
  · next writes =>
    rw [Bool.and_eq_true, decide_eq_true_eq] at writes
    simp [writes]
  · next kept =>
    rw [Bool.and_eq_true, decide_eq_true_eq] at kept
    have alone : ldbufW s c.input = true → fallthrough cfg = false := by
      intro write
      rw [← Bool.not_eq_true]
      exact fun single => kept ⟨write, eq_of_fallthrough single _ _⟩
    have frees : (!fallthrough cfg || !ldbufW s c.input) = true := by
      cases write : ldbufW s c.input
      · simp
      · simp [alone write]
    simp only [kept, false_or, frees, Bool.and_true, ldbufR, Bool.and_eq_true, decide_eq_true_eq]
    rw [@eq_comm _ (ldbufRindex c.input)]
    split
    · next read => simp [read]
    · next unread => simp [unread]

theorem tracks_step (fits : cfg.nrLoadBufEntries ≤ 2 ^ cfg.dcacheIdWidth) (tracks : Tracks s h)
    (env : Environment (s, h) c) (handed : Handed s c h) :
    Tracks (step s c.input) (record s c h) where
  bounded := by
    intro number answered
    simp only [record, List.mem_append, Option.mem_toList] at answered ⊢
    rw [List.length_append]
    rcases answered with before | now
    · exact Nat.lt_add_right _ (tracks.bounded number before)
    · rw [answer] at now
      split at now
      · next valid =>
        rcases env.answers valid with ⟨_, opened, _⟩
        rw [Option.some.injEq] at now
        exact Nat.lt_add_right _ (now ▸ lt_of_open opened)
      · cases now
  valid_iff := by
    intro entry
    change ldbufValidD s c.input entry = true ↔ _
    rw [ldbufValidD_eq]
    constructor
    · rintro (⟨write, equal⟩ | ⟨valid, kept⟩)
      · exact ⟨_, _, (open_record tracks env).mpr (Or.inr ⟨write, rfl, rfl⟩), equal.symm⟩
      · rcases (tracks.valid_iff entry).mp valid with ⟨number, request, opened, rfl⟩
        exact ⟨number, request, (open_record tracks env).mpr
          (Or.inl ⟨opened, mt (freed_iff fits tracks env opened).mp kept⟩), rfl⟩
    · rintro ⟨number, request, opened, rfl⟩
      rcases (open_record tracks env).mp opened with ⟨first, live⟩ | ⟨write, _, new⟩
      · exact Or.inr ⟨(tracks.valid_iff _).mpr ⟨number, request, first, rfl⟩,
          mt (freed_iff fits tracks env first).mpr live⟩
      · exact Or.inl ⟨write, (congrArg Request.id new).symm⟩
  distinct := by
    intro number other request second one two same
    rcases (open_record tracks env).mp one with ⟨first, live⟩ | ⟨write, at_, new⟩ <;>
      rcases (open_record tracks env).mp two with ⟨last, live'⟩ | ⟨write', at', new'⟩
    · exact tracks.distinct first last same
    · exact absurd (same.trans (congrArg Request.id new').symm)
        (handed write' number request first live)
    · exact absurd (same.symm.trans (congrArg Request.id new).symm)
        (handed write other second last live')
    · rw [at_, at']
  data := by
    intro number request opened
    rcases (open_record tracks env).mp opened with ⟨first, live⟩ | ⟨write, at_, new⟩
    · cases write : ldbufW s c.input
      · simpa [step, write] using tracks.data first
      · have apart := handed write number request first live
        simpa [step, write, Function.update_of_ne apart] using tracks.data first
    · rw [← new]
      simp [step, write, ldbufWdata, entryOf]

end Cycles

end Cva6Hpd.Lsu.LoadUnit
