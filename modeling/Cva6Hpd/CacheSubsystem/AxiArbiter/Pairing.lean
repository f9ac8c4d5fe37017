import Cva6Hpd.CacheSubsystem.AxiArbiter.Core

/-!
# Which response belongs to which miss

The history of the port lists the misses that were accepted, the beats that the memory has
delivered for each of them, and what the caches were answered. Between its acceptance and its
response the buffer holds one miss, so the address and the cacheability that align a response
are those of its own miss.
-/

namespace Cva6Hpd.CacheSubsystem.AxiArbiter

open Cva6Hpd.Hw
open Cva6Hpd.Common

variable {cfg : Cfg}

/-! ## Histories -/

structure History (cfg : Cfg) where
  accepted : List (IcacheReq cfg)
  inFlight : Option (IcacheReq cfg)
  /-- The beats that the memory has delivered for the miss in flight. -/
  beats : List (Beat cfg)
  /-- So many beats does the memory owe to the instruction cache. -/
  owed : Nat
  /-- The misses that were answered, with their beats. -/
  answered : List (IcacheReq cfg × List (Beat cfg))
  responses : List (BitVec cfg.idBits × Line cfg)
  ar : List (Ar cfg)
  dcacheReads : List (MemReq cfg)
  dcacheBeats : List (R cfg)
  dcacheResponses : List (MemRespR cfg)

def History.initial : History cfg where
  accepted := []
  inFlight := none
  beats := []
  owed := 0
  answered := []
  responses := []
  ar := []
  dcacheReads := []
  dcacheBeats := []
  dcacheResponses := []

section Record

variable (s : State cfg) (i : Input cfg) (h : History cfg)

def acceptsMiss : Bool := i.icacheMissValid && icacheMissReady s

def sendsAr : Bool := arValid s i && i.arReady

/-- A beat is delivered to the instruction cache. -/
def takesBeat : Bool := missRespW i && rReady s i

def beatsNow : List (Beat cfg) := h.beats ++ if takesBeat s i then [i.r.data] else []

/-- The beats of a read that is sent for the instruction cache. -/
def owes : Nat :=
  if sendsAr s i && toIcache (arO s i).id then (arO s i).len.toNat + 1 else 0

def record : History cfg where
  accepted := h.accepted ++ if acceptsMiss s i then [i.icacheMiss] else []
  inFlight :=
    if acceptsMiss s i then some i.icacheMiss else if metaRok s i then none else h.inFlight
  beats := if metaRok s i then [] else beatsNow s i h
  owed := (if takesBeat s i then h.owed - 1 else h.owed) + owes s i
  answered := h.answered ++
    if metaRok s i then h.inFlight.toList.map fun miss => (miss, beatsNow s i h) else []
  responses := h.responses ++ if metaRok s i then [(metaId s i, missRdata s i)] else []
  ar := h.ar ++ if sendsAr s i then [arO s i] else []
  dcacheReads := h.dcacheReads ++ if readReady s i 1 then [i.dcacheRead] else []
  dcacheBeats := h.dcacheBeats ++
    if i.rValid && rReady s i && !toIcache i.r.id then [i.r] else []
  dcacheResponses := h.dcacheResponses ++
    if dcacheReadRespValid i && i.dcacheReadRespReady then [dcacheReadResp i] else []

end Record

/-- The port with its history. -/
def recorded (cfg : Cfg) : Machine (State cfg × History cfg) (Input cfg) :=
  (machine cfg).withHistory History.initial record

/-- The instruction cache and the data cache use identifiers of their own, and the memory
answers the instruction cache only for what it owes, with the last beat marked. -/
structure Environment (h : History cfg) (i : Input cfg) : Prop where
  tid : i.icacheMissValid = true → i.icacheMiss.tid = cfg.icacheMissId
  dcacheId : i.dcacheReadValid = true → i.dcacheRead.id ≠ cfg.icacheMissId
  owed : missRespW i = true → 0 < h.owed ∧ (i.r.last = true ↔ h.owed = 1)

/-- The response to a miss, by the beats of its own read: the line, or the word of the bus at
its address, aligned to the right. -/
def answer (miss : IcacheReq cfg) (beats : List (Beat cfg)) : BitVec cfg.idBits × Line cfg :=
  (miss.tid,
    if miss.nc then fun word =>
      if word = 0 then beats.getD 0 (fun _ => 0) (Fin.ofNat _ (miss.paddr.toNat / 8)) else 0
    else fun word =>
      beats.getD (word.val / cfg.busWords) (fun _ => 0) (Fin.ofNat _ word.val))

/-- Each miss that was accepted is sent once and answered once, in order, by the beats of its
own read; the reads and the beats of the data cache pass unchanged and in order. -/
structure Paired (h : History cfg) : Prop where
  accepted : h.accepted = h.answered.map Prod.fst ++ h.inFlight.toList
  sent : ∃ n, h.answered.length ≤ n ∧
    h.ar.filter (fun ar => toIcache ar.id) =
      (h.accepted.take n).map fun miss => toAr (missReq miss)
  whole : ∀ entry ∈ h.answered, entry.2.length = (missReq entry.1).len.toNat + 1
  responses : h.responses = h.answered.map fun entry => answer entry.1 entry.2
  dcacheSent : h.ar.filter (fun ar => !toIcache ar.id) = h.dcacheReads.map toAr
  dcacheAnswered : h.dcacheResponses = h.dcacheBeats.map toResp

/-! ## The miss in flight -/

/-- Nothing of a response has arrived. -/
structure Quiet (s : State cfg) (h : History cfg) : Prop where
  beats : h.beats = []
  owed : h.owed = 0
  noMeta : s.metaFifo.validQ = false
  used : s.upsize.usedQ = 0
  words : s.upsize.wordsQ 0 = 0

/-- The beats before the last one are in the buffer of the line. -/
structure Collects (s : State cfg) (h : History cfg) (miss : IcacheReq cfg) : Prop where
  owed : h.beats.length + h.owed = (missReq miss).len.toNat + 1
  some : 0 < h.owed
  noMeta : s.metaFifo.validQ = false
  used : s.upsize.usedQ = 0
  words : s.upsize.wordsQ 0 = h.beats.length
  stored : ∀ k < h.beats.length, s.upsize.bufQ 0 k = h.beats.getD k fun _ => 0

/-- All beats are in the buffer of the line. -/
structure Completes (s : State cfg) (h : History cfg) (miss : IcacheReq cfg) : Prop where
  isNarrow : narrow cfg = true
  beats : h.beats.length = (missReq miss).len.toNat + 1
  owed : h.owed = 0
  isMeta : s.metaFifo.validQ = true
  id : s.metaFifo.bufQ = cfg.icacheMissId
  used : s.upsize.usedQ = 1
  stored : ∀ k < h.beats.length, s.upsize.bufQ 0 k = h.beats.getD k fun _ => 0

/-- The miss is in the buffer. -/
structure Held (s : State cfg) (h : History cfg) (miss : IcacheReq cfg) : Prop where
  buffer : s.missReqFifo = ⟨true, missReq miss⟩
  inFlight : h.inFlight = some miss
  tid : miss.tid = cfg.icacheMissId

/-- The stages of a miss. -/
inductive Stage (s : State cfg) (h : History cfg) : Prop where
  | empty (free : s.missReqFifo.validQ = false) (nothing : h.inFlight = none)
      (idle : s.missPendingQ = false) (quiet : Quiet s h)
  | waits (miss : IcacheReq cfg) (held : Held s h miss) (idle : s.missPendingQ = false)
      (quiet : Quiet s h)
  | collects (miss : IcacheReq cfg) (held : Held s h miss) (pending : s.missPendingQ = true)
      (collects : Collects s h miss)
  | completes (miss : IcacheReq cfg) (held : Held s h miss) (pending : s.missPendingQ = true)
      (completes : Completes s h miss)

/-! ## Read requests -/

section Request

variable {s : State cfg} {i : Input cfg}

theorem readGnt_eq_single (unique : s.arbiter.gntQ.AtMostOne) {port : Fin 2}
    (ready : readReady s i port = true) : readGnt s i = Bits.single port := by
  simp only [readReady, Bool.and_eq_true] at ready
  exact Bits.oneHot_of_atMostOne (Fxarb.gnt_atMostOne unique _) ready.1.2

theorem arO_of_ready (unique : s.arbiter.gntQ.AtMostOne) {port : Fin 2}
    (ready : readReady s i port = true) : arO s i = toAr (readReqs s i port) := by
  rw [arO, readGnt_eq_single unique ready, muxOneHot_single]

theorem readReady_other (unique : s.arbiter.gntQ.AtMostOne) {port other : Fin 2}
    (ready : readReady s i port = true) (apart : other ≠ port) :
    readReady s i other = false := by
  rw [readReady, readGnt_eq_single unique ready, Bits.single, decide_eq_false apart,
    Bool.and_false, Bool.false_and]

theorem sendsAr_eq : sendsAr s i = (readReady s i 0 || readReady s i 1) := by
  rw [Bool.eq_iff_iff, sendsAr, arValid, Bool.and_eq_true, Bits.any_eq_true_iff, Bool.or_eq_true]
  constructor
  · rintro ⟨⟨port, both⟩, ready⟩
    match port with
    | 0 => exact Or.inl (by simpa [readReady, ready] using both)
    | 1 => exact Or.inr (by simpa [readReady, ready] using both)
  · simp only [readReady, Bool.and_eq_true]
    rintro (⟨⟨ready, gnt⟩, valid⟩ | ⟨⟨ready, gnt⟩, valid⟩)
    · exact ⟨⟨0, gnt, valid⟩, ready⟩
    · exact ⟨⟨1, gnt, valid⟩, ready⟩

theorem dcacheReadValid_of_ready (ready : readReady s i 1 = true) : i.dcacheReadValid = true := by
  simp only [readReady, Bool.and_eq_true] at ready
  exact ready.2

/-- What is sent in a cycle: the miss, a read of the data cache, or nothing. -/
theorem sends_cases (unique : s.arbiter.gntQ.AtMostOne) :
    (readReady s i 0 = true ∧ readReady s i 1 = false ∧ sendsAr s i = true ∧
        arO s i = toAr (missReqRdata s i)) ∨
      (readReady s i 0 = false ∧ readReady s i 1 = true ∧ sendsAr s i = true ∧
        arO s i = toAr i.dcacheRead) ∨
      (readReady s i 0 = false ∧ readReady s i 1 = false ∧ sendsAr s i = false) := by
  rw [sendsAr_eq]
  cases first : readReady s i 0 with
  | true =>
      have other := @readReady_other _ s i unique 0 1 first (by decide)
      have same := arO_of_ready unique first
      exact Or.inl ⟨rfl, other, by simp, by rw [same, readReqs, if_pos rfl]⟩
  | false =>
      cases second : readReady s i 1 with
      | true =>
          have same := arO_of_ready unique second
          exact Or.inr (Or.inl ⟨rfl, rfl, rfl, same⟩)
      | false => exact Or.inr (Or.inr ⟨rfl, rfl, rfl⟩)

theorem sent_by_id (unique : s.arbiter.gntQ.AtMostOne) {h : History cfg}
    (env : Environment h i)
    (isMiss : readReady s i 0 = true → (missReqRdata s i).id = cfg.icacheMissId) :
    let sent := if sendsAr s i then [arO s i] else []
    sent.filter (fun ar => toIcache ar.id) =
        (if readReady s i 0 then [toAr (missReqRdata s i)] else []) ∧
      sent.filter (fun ar => !toIcache ar.id) =
        (if readReady s i 1 then [toAr i.dcacheRead] else []) ∧
      owes s i = if readReady s i 0 then (missReqRdata s i).len.toNat + 1 else 0 := by
  rcases sends_cases (i := i) unique with
    ⟨first, second, sends, same⟩ | ⟨first, second, sends, same⟩ | ⟨first, second, sends⟩
  · have id := isMiss first
    simp [first, second, sends, same, owes, toAr, toIcache, id]
  · have id := env.dcacheId (dcacheReadValid_of_ready second)
    simp [first, second, sends, same, owes, toAr, toIcache, id]
  · simp [first, second, sends, owes]

end Request

/-! ## The buffers of a response -/

section Buffers

variable {regs : DataUpsizeRegs 1 cfg.busWords Word} {w last : Bool} {data : Beat cfg}

theorem upsize_step_open (isOpen : regs.usedQ = 0) :
    (regs.step cfg.beats w data last true).usedQ =
        (if w && (decide (regs.wordsQ 0 = cfg.beats - 1) || last) then 1 else 0) ∧
      (regs.step cfg.beats w data last true).wordsQ 0 =
        (if w && decide (regs.wordsQ 0 < cfg.beats - 1) then regs.wordsQ 0 + 1
        else regs.wordsQ 0) ∧
      (regs.step cfg.beats w data last true).bufQ 0 =
        if w then Function.update (regs.bufQ 0) (regs.wordsQ 0) data else regs.bufQ 0 := by
  have pointer : regs.wrptrQ = 0 := Subsingleton.elim _ _
  have room : regs.wok = true := by simp [DataUpsizeRegs.wok, DataUpsizeRegs.full, isOpen]
  have nothing : regs.rok = false := by simp [DataUpsizeRegs.rok, DataUpsizeRegs.empty, isOpen]
  simp only [DataUpsizeRegs.step, DataUpsizeRegs.closes, pointer, room, nothing, isOpen,
    Bool.and_true, Bool.and_false, Bool.false_eq_true, if_false]
  refine ⟨?_, ?_, ?_⟩
  · cases w && (decide (regs.wordsQ 0 = cfg.beats - 1) || last) <;> rfl
  · split <;> simp
  · split <;> simp

/-- A whole line is read at once. -/
theorem upsize_step_full (isFull : regs.usedQ = 1) :
    (regs.step cfg.beats false data last true).usedQ = 0 ∧
      (regs.step cfg.beats false data last true).wordsQ 0 = 0 := by
  have pointer : regs.rdptrQ = 0 := Subsingleton.elim _ _
  have something : regs.rok = true := by simp [DataUpsizeRegs.rok, DataUpsizeRegs.empty, isFull]
  simp [DataUpsizeRegs.step, pointer, something, isFull]

end Buffers

section Response

variable {s : State cfg} {i : Input cfg} {h : History cfg}

theorem Quiet.silent (quiet : Quiet s h) (env : Environment h i) : missRespW i = false := by
  rw [Bool.eq_false_iff]
  intro arrives
  have some := (env.owed arrives).1
  rw [quiet.owed] at some
  exact Nat.lt_irrefl 0 some

theorem metaRok_of_silent (noMeta : s.metaFifo.validQ = false) (silent : missRespW i = false) :
    metaRok s i = false := by
  simp [metaRok, SyncBuffer.rok, noMeta, silent]

theorem step_upsize : (step s i).upsize =
    s.upsize.step cfg.beats (upsizeW i) i.r.data i.r.last true :=
  rfl

/-- A cycle without a beat leaves the buffers of a line that is not closed. -/
theorem upsize_step_of_silent (isOpen : s.upsize.usedQ = 0) (silent : missRespW i = false) :
    (step s i).upsize.usedQ = 0 ∧ (step s i).upsize.wordsQ 0 = s.upsize.wordsQ 0 ∧
      (step s i).upsize.bufQ 0 = s.upsize.bufQ 0 := by
  have noWrite : upsizeW i = false := by simp [upsizeW, silent]
  have same : (step s i).upsize = s.upsize.step cfg.beats false i.r.data i.r.last true := by
    rw [step_upsize, noWrite]
  rcases @upsize_step_open _ s.upsize false i.r.last i.r.data isOpen with ⟨used, words, stored⟩
  rw [same]
  exact ⟨used, words, stored⟩

theorem metaFifo_step_of_silent (noMeta : s.metaFifo.validQ = false)
    (silent : missRespW i = false) : (step s i).metaFifo.validQ = false := by
  simp [step, SyncBuffer.step, SyncBuffer.bufWe, metaW, silent, noMeta]

theorem takesBeat_of_silent (silent : missRespW i = false) : takesBeat s i = false := by
  simp [takesBeat, silent]

theorem Quiet.step (quiet : Quiet s h) (env : Environment h i) (none : owes s i = 0) :
    Quiet (step s i) (record s i h) := by
  have silent := quiet.silent env
  have noTake := takesBeat_of_silent (s := s) silent
  have noResponse := metaRok_of_silent quiet.noMeta silent
  obtain ⟨used, words, _⟩ := upsize_step_of_silent quiet.used silent
  constructor
  · simp [record, noResponse, beatsNow, noTake, quiet.beats]
  · simp [record, noTake, quiet.owed, none]
  · exact metaFifo_step_of_silent quiet.noMeta silent
  · exact used
  · rw [words, quiet.words]

theorem Quiet.sent {miss : IcacheReq cfg} (quiet : Quiet s h) (env : Environment h i)
    (brings : owes s i = (missReq miss).len.toNat + 1) :
    Collects (AxiArbiter.step s i) (record s i h) miss := by
  have silent := quiet.silent env
  have noTake := takesBeat_of_silent (s := s) silent
  have noResponse := metaRok_of_silent quiet.noMeta silent
  obtain ⟨used, words, _⟩ := upsize_step_of_silent quiet.used silent
  have beats : (record s i h).beats = [] := by
    simp [record, noResponse, beatsNow, noTake, quiet.beats]
  have owed : (record s i h).owed = (missReq miss).len.toNat + 1 := by
    simp [record, noTake, quiet.owed, brings]
  constructor
  · rw [beats, owed, List.length_nil, Nat.zero_add]
  · rw [owed]
    exact Nat.succ_pos _
  · exact metaFifo_step_of_silent quiet.noMeta silent
  · exact used
  · rw [words, quiet.words, beats, List.length_nil]
  · intro k inside
    rw [beats] at inside
    exact absurd inside (Nat.not_lt_zero k)

theorem Collects.takesBeat_eq {miss : IcacheReq cfg} (collects : Collects s h miss) :
    takesBeat s i = missRespW i := by
  have room : s.upsize.wok = true := by
    simp [DataUpsizeRegs.wok, DataUpsizeRegs.full, collects.used]
  have free : s.metaFifo.wok false true = true := by
    simp [SyncBuffer.wok, collects.noMeta]
  cases arrives : missRespW i with
  | false => simp [takesBeat, arrives]
  | true =>
      have isIcache : toIcache i.r.id = true := (Bool.and_eq_true_iff.mp arrives).2
      simp [takesBeat, arrives, rReady, isIcache, missRespWok, room, free]

theorem Held.acceptsMiss_eq {miss : IcacheReq cfg} (held : Held s h miss) :
    acceptsMiss s i = false := by
  simp [acceptsMiss, icacheMissReady, held.buffer, SyncBuffer.wok]

theorem Held.keeps {miss : IcacheReq cfg} (held : Held s h miss) (stays : metaRok s i = false) :
    Held (step s i) (record s i h) miss := by
  constructor
  · simp [AxiArbiter.step, held.buffer, stays, SyncBuffer.step, SyncBuffer.bufWe]
  · simp [record, held.acceptsMiss_eq, stays, held.inFlight]
  · exact held.tid

theorem Held.leaves {miss : IcacheReq cfg} (held : Held s h miss) (responds : metaRok s i = true) :
    (step s i).missReqFifo.validQ = false ∧ (record s i h).inFlight = none := by
  constructor
  · simp [AxiArbiter.step, held.buffer, responds, SyncBuffer.step, SyncBuffer.bufWe]
  · simp [record, held.acceptsMiss_eq, responds]

theorem pending_of_responds {miss : IcacheReq cfg} (held : Held s h miss)
    (pending : s.missPendingQ = true) :
    (step s i).missPendingQ = !metaRok s i := by
  simp [AxiArbiter.step, missReqRok, held.buffer, SyncBuffer.rok, pending]

theorem readReady_of_pending (pending : s.missPendingQ = true) : readReady s i 0 = false := by
  simp [readReady, readValid, pending]

theorem len_le (miss : IcacheReq cfg) : (missReq miss).len.toNat ≤ cfg.beats - 1 := by
  simp only [missReq]
  split
  · exact Nat.zero_le _
  · have bound := cfg.beats_le
    rw [BitVec.toNat_ofNat, Nat.mod_eq_of_lt (by omega)]

theorem metaRok_of_narrow (isNarrow : narrow cfg = true) : metaRok s i = s.metaFifo.validQ := by
  simp [metaRok, isNarrow, SyncBuffer.rok]

/-- A line that is narrower than the bus is closed by its last beat. -/
theorem Collects.next {miss : IcacheReq cfg} (collects : Collects s h miss)
    (isNarrow : narrow cfg = true) (env : Environment h i) (none : owes s i = 0)
    (arrives : missRespW i = true) :
    Collects (step s i) (record s i h) miss ∨ Completes (step s i) (record s i h) miss := by
  have takes : takesBeat s i = true := collects.takesBeat_eq.trans arrives
  have stays : metaRok s i = false := (metaRok_of_narrow isNarrow).trans collects.noMeta
  have writes : upsizeW i = true := by simp [upsizeW, isNarrow, arrives]
  have beats : (record s i h).beats = h.beats ++ [i.r.data] := by
    simp [record, stays, beatsNow, takes]
  have owed : (record s i h).owed = h.owed - 1 := by simp [record, takes, none]
  have same : (AxiArbiter.step s i).upsize =
      s.upsize.step cfg.beats true i.r.data i.r.last true := by
    rw [step_upsize, writes]
  obtain ⟨used, words, stored⟩ := @upsize_step_open _ s.upsize true i.r.last i.r.data collects.used
  rw [← same, Bool.true_and] at used words
  rw [← same, if_pos rfl, collects.words] at stored
  have kept : ∀ k < (record s i h).beats.length, (AxiArbiter.step s i).upsize.bufQ 0 k =
      (record s i h).beats.getD k fun _ => 0 := by
    intro k inside
    rw [stored, beats]
    rw [beats, List.length_append, List.length_singleton] at inside
    rcases Nat.lt_or_eq_of_le (Nat.le_of_lt_succ inside) with before | rfl
    · rw [Function.update_of_ne before.ne, collects.stored k before,
        List.getD_append _ _ _ _ before]
    · rw [Function.update_self, List.getD_append_right _ _ _ _ (Nat.le_refl _), Nat.sub_self]
      rfl
  have total := collects.owed
  have bound := len_le miss
  obtain ⟨some, isLast⟩ := env.owed arrives
  have id : i.r.id = cfg.icacheMissId := by
    simpa [toIcache] using (Bool.and_eq_true_iff.mp arrives).2
  cases last : i.r.last with
  | false =>
      have more : h.owed ≠ 1 := by
        intro one
        simp [isLast.mpr one] at last
      have within : s.upsize.wordsQ 0 < cfg.beats - 1 := by
        rw [collects.words]
        omega
      refine Or.inl ⟨?_, ?_, ?_, ?_, ?_, kept⟩
      · rw [beats, owed, List.length_append, List.length_singleton]
        omega
      · rw [owed]
        omega
      · simp [AxiArbiter.step, SyncBuffer.step, SyncBuffer.bufWe, metaW, last, collects.noMeta]
      · rw [used, last, decide_eq_false within.ne]
        rfl
      · rw [words, if_pos (decide_eq_true within), collects.words, beats, List.length_append,
          List.length_singleton]
  | true =>
      have one : h.owed = 1 := isLast.mp last
      refine Or.inr ⟨isNarrow, ?_, ?_, ?_, ?_, ?_, kept⟩
      · rw [beats, List.length_append, List.length_singleton]
        omega
      · rw [owed, one]
      · simp [AxiArbiter.step, SyncBuffer.step, SyncBuffer.bufWe, metaW, last, isNarrow, arrives,
          collects.noMeta]
      · simp [AxiArbiter.step, SyncBuffer.step, SyncBuffer.bufWe, metaW, last, isNarrow, arrives,
          collects.noMeta, id]
      · rw [used, last, Bool.or_true]
        rfl

theorem Collects.waits {miss : IcacheReq cfg} (collects : Collects s h miss)
    (none : owes s i = 0) (silent : missRespW i = false) :
    Collects (step s i) (record s i h) miss := by
  have noTake := takesBeat_of_silent (s := s) silent
  have noResponse := metaRok_of_silent collects.noMeta silent
  obtain ⟨used, words, stored⟩ := upsize_step_of_silent collects.used silent
  have beats : (record s i h).beats = h.beats := by simp [record, noResponse, beatsNow, noTake]
  have owed : (record s i h).owed = h.owed := by simp [record, noTake, none]
  constructor
  · rw [beats, owed, collects.owed]
  · rw [owed]
    exact collects.some
  · exact metaFifo_step_of_silent collects.noMeta silent
  · exact used
  · rw [words, beats, collects.words]
  · rw [stored, beats]
    exact collects.stored

theorem Collects.answered {miss : IcacheReq cfg} (collects : Collects s h miss)
    (isWide : narrow cfg = false) (none : owes s i = 0) (arrives : missRespW i = true) :
    metaRok s i = true ∧ Quiet (step s i) (record s i h) := by
  have responds : metaRok s i = true := by simp [metaRok, isWide, arrives]
  have takes : takesBeat s i = true := collects.takesBeat_eq.trans arrives
  have single : cfg.beats = 1 := by
    have positive := cfg.beats_pos
    simp only [narrow, decide_eq_false_iff_not] at isWide
    omega
  have bound := len_le miss
  have total := collects.owed
  have some := collects.some
  have noWrite : upsizeW i = false := by simp [upsizeW, isWide]
  have same : (AxiArbiter.step s i).upsize =
      s.upsize.step cfg.beats false i.r.data i.r.last true := by
    rw [step_upsize, noWrite]
  obtain ⟨used, words, _⟩ := @upsize_step_open _ s.upsize false i.r.last i.r.data collects.used
  refine ⟨responds, ?_, ?_, ?_, ?_, ?_⟩
  · simp [record, responds]
  · have last : h.owed - 1 = 0 := by omega
    simp [record, takes, none, last]
  · simp [AxiArbiter.step, SyncBuffer.step, SyncBuffer.bufWe, metaW, isWide, collects.noMeta]
  · rw [same]
    exact used
  · rw [same, words, Bool.false_and, if_neg Bool.false_ne_true, collects.words]
    omega

theorem Completes.silent {miss : IcacheReq cfg} (completes : Completes s h miss)
    (env : Environment h i) : missRespW i = false := by
  rw [Bool.eq_false_iff]
  intro arrives
  have some := (env.owed arrives).1
  rw [completes.owed] at some
  exact Nat.lt_irrefl 0 some

theorem Completes.answered {miss : IcacheReq cfg} (completes : Completes s h miss)
    (env : Environment h i) (none : owes s i = 0) :
    metaRok s i = true ∧ Quiet (step s i) (record s i h) := by
  have silent := completes.silent env
  have responds : metaRok s i = true :=
    (metaRok_of_narrow completes.isNarrow).trans completes.isMeta
  have noWrite : upsizeW i = false := by simp [upsizeW, silent]
  have same : (AxiArbiter.step s i).upsize =
      s.upsize.step cfg.beats false i.r.data i.r.last true := by
    rw [step_upsize, noWrite]
  obtain ⟨used, words⟩ := @upsize_step_full _ s.upsize i.r.last i.r.data completes.used
  refine ⟨responds, ?_, ?_, ?_, ?_, ?_⟩
  · simp [record, responds]
  · simp [record, takesBeat_of_silent silent, completes.owed, none]
  · simp [AxiArbiter.step, SyncBuffer.step, SyncBuffer.bufWe, metaW, silent, completes.isMeta]
  · rw [same, used]
  · rw [same, words]

end Response

/-! ## One cycle -/

section Step

variable {s : State cfg} {i : Input cfg} {h : History cfg}

theorem owes_of_pending (unique : s.arbiter.gntQ.AtMostOne) (env : Environment h i)
    (pending : s.missPendingQ = true) : owes s i = 0 := by
  have idle := readReady_of_pending (i := i) pending
  obtain ⟨_, _, none⟩ := sent_by_id unique env (by simp [idle])
  rw [none, idle, if_neg Bool.false_ne_true]

theorem Stage.step (stage : Stage s h) (env : Environment h i)
    (unique : s.arbiter.gntQ.AtMostOne) : Stage (step s i) (record s i h) := by
  cases stage with
  | empty free nothing idle quiet =>
      have noMiss : missReqRok s i = false := by simp [missReqRok, free, SyncBuffer.rok]
      have notSent : readReady s i 0 = false := by simp [readReady, readValid, noMiss]
      obtain ⟨_, _, none⟩ := sent_by_id unique env (by simp [notSent])
      rw [notSent, if_neg Bool.false_ne_true] at none
      have stays := metaRok_of_silent quiet.noMeta (quiet.silent env)
      have still : (AxiArbiter.step s i).missPendingQ = false := by
        simp [AxiArbiter.step, noMiss, idle]
      cases offered : i.icacheMissValid with
      | false =>
          have notAccepted : acceptsMiss s i = false := by simp [acceptsMiss, offered]
          refine .empty ?_ ?_ still (quiet.step env none)
          · simp [AxiArbiter.step, SyncBuffer.step, SyncBuffer.bufWe, offered, free]
          · simp [record, notAccepted, stays, nothing]
      | true =>
          have accepts : acceptsMiss s i = true := by
            simp [acceptsMiss, offered, icacheMissReady, SyncBuffer.wok, free]
          refine .waits i.icacheMiss ⟨?_, ?_, env.tid offered⟩ still (quiet.step env none)
          · simp [AxiArbiter.step, SyncBuffer.step, SyncBuffer.bufWe, offered, free]
          · simp [record, accepts]
  | waits miss held idle quiet =>
      have stays := metaRok_of_silent quiet.noMeta (quiet.silent env)
      have isMiss : missReqRdata s i = missReq miss := by
        simp [missReqRdata, SyncBuffer.rdata, held.buffer]
      obtain ⟨_, _, owes⟩ := sent_by_id unique env (by simp [isMiss, missReq, held.tid])
      rw [isMiss] at owes
      cases sent : readReady s i 0 with
      | false =>
          rw [sent, if_neg Bool.false_ne_true] at owes
          refine .waits miss (held.keeps stays) ?_ (quiet.step env owes)
          simp [AxiArbiter.step, sent, idle]
      | true =>
          rw [sent, if_pos rfl] at owes
          refine .collects miss (held.keeps stays) ?_ (quiet.sent env owes)
          simp [AxiArbiter.step, missReqRok, held.buffer, SyncBuffer.rok, sent, idle]
  | collects miss held pending collects =>
      have none := owes_of_pending unique env pending
      have responds := pending_of_responds (i := i) held pending
      cases arrives : missRespW i with
      | false =>
          have stays := metaRok_of_silent collects.noMeta arrives
          rw [stays] at responds
          exact .collects miss (held.keeps stays) responds (collects.waits none arrives)
      | true =>
          cases isNarrow : narrow cfg with
          | false =>
              obtain ⟨now, quiet⟩ := collects.answered isNarrow none arrives
              obtain ⟨free, nothing⟩ := held.leaves now
              rw [now] at responds
              exact .empty free nothing responds quiet
          | true =>
              have stays : metaRok s i = false :=
                (metaRok_of_narrow isNarrow).trans collects.noMeta
              rw [stays] at responds
              rcases collects.next isNarrow env none arrives with more | all
              · exact .collects miss (held.keeps stays) responds more
              · exact .completes miss (held.keeps stays) responds all
  | completes miss held pending completes =>
      have none := owes_of_pending unique env pending
      have responds := pending_of_responds (i := i) held pending
      obtain ⟨now, quiet⟩ := completes.answered env none
      obtain ⟨free, nothing⟩ := held.leaves now
      rw [now] at responds
      exact .empty free nothing responds quiet

end Step

end Cva6Hpd.CacheSubsystem.AxiArbiter
