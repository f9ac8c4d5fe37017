import Cva6Hpd.Hpdcache.WriteIds.Core

/-!
# Outstanding writes have identifiers of their own

A write of the write buffer is outstanding while its entry is sent, one of the flush
controller while its entry is valid, and the handler of uncacheable requests waits
for the response to its only write. So no two outstanding writes share an
identifier, and a response reaches the unit of its request.
-/

namespace Cva6Hpd.Hpdcache.WriteIds

open Cva6Hpd.Hw
open Cva6Hpd.Common

variable {cfg : Cfg}

/-! ## The handler of uncacheable requests -/

section Handler

variable {s : Uncached.State cfg} {i : Uncached.Input cfg}

/-- The handler waits for the response to its write. -/
structure Waiting (s : Uncached.State cfg) : Prop where
  state : s.ucFsmQ = .memWdataReq ∨ s.ucFsmQ = .memWaitRsp
  write : Uncached.reqIsWrite s.reqQ.op = true
  unanswered : s.memRespWriteValidQ = false

/-- With the data of a write sent before its address, no response is recorded. -/
def Quiet (s : Uncached.State cfg) : Prop :=
  s.ucFsmQ = .memWReq → Uncached.reqIsWrite s.reqQ.op = true ∧ s.memRespWriteValidQ = false

theorem not_read_of_write {op : ReqOp} (write : Uncached.reqIsWrite op = true) :
    op.isLoad = false ∧ op ≠ .amoLr := by
  cases op <;> first | contradiction | exact ⟨rfl, by simp⟩

theorem Waiting.step (waiting : Waiting s) (none : i.memRespWriteValid = false) :
    Waiting (Uncached.step s i) := by
  have unanswered := waiting.unanswered
  rcases not_read_of_write waiting.write with ⟨noLoad, noLr⟩
  rcases waiting.state with state | state
  · have same := Uncached.reqQ_step_of_busy i (s := s) (by simp [state])
    have write := waiting.write
    rw [← same] at write
    refine ⟨?_, write, ?_⟩
    · simp only [Uncached.step, Uncached.fsm, state, Uncached.memWdataReqComb]
      split_ifs
      · exact .inr rfl
      · exact .inl state
    · simp only [Uncached.step, Uncached.fsm, state, Uncached.memWdataReqComb]
      split_ifs <;> exact unanswered
  · have same := Uncached.reqQ_step_of_busy i (s := s) (by simp [state])
    have write := waiting.write
    rw [← same] at write
    have pending : Uncached.amoResponded s i = false := by
      simp [Uncached.amoResponded, none, unanswered]
    have lr : (s.reqQ.op == ReqOp.amoLr) = false := beq_eq_false_iff_ne.mpr noLr
    refine ⟨.inr ?_, write, ?_⟩
    · simp only [Uncached.step, Uncached.fsm, state, Uncached.memWaitRspComb, noLoad, lr, none,
        pending, Bool.false_eq_true, if_false]
      split_ifs <;> exact state
    · simp only [Uncached.step, Uncached.fsm, state, Uncached.memWaitRspComb, noLoad, lr, none,
        pending, Bool.false_eq_true, if_false]
      split_ifs <;> simp [unanswered]

theorem waiting_of_accepted (quiet : Quiet s)
    (taken : (Uncached.memReqWriteValid s && i.memReqWriteReady) = true) :
    Waiting (Uncached.step s i) := by
  rw [Bool.and_eq_true] at taken
  rcases taken with ⟨valid, ready⟩
  simp only [Uncached.memReqWriteValid, Bool.or_eq_true, Bool.and_eq_true, beq_iff_eq] at valid
  rcases valid with ⟨state, write⟩ | state
  · rcases not_read_of_write write with ⟨noLoad, noLr⟩
    have lr : (s.reqQ.op == ReqOp.amoLr) = false := beq_eq_false_iff_ne.mpr noLr
    have same := Uncached.reqQ_step_of_busy i (s := s) (by simp [state])
    refine ⟨?_, by rw [same]; exact write, ?_⟩
    · simp only [Uncached.step, Uncached.fsm, state, Uncached.memReqComb, noLoad, lr, write,
        ready, Bool.or_self, Bool.false_eq_true, if_false, if_true, Bool.true_and]
      split_ifs
      · exact .inr rfl
      · exact .inl rfl
    · simp only [Uncached.step, Uncached.fsm, state, Uncached.memReqComb]
      split_ifs <;> rfl
  · have same := Uncached.reqQ_step_of_busy i (s := s) (by simp [state])
    have before := quiet state
    refine ⟨.inr ?_, by rw [same]; exact before.1, ?_⟩
    · simp only [Uncached.step, Uncached.fsm, state, Uncached.memWReqComb, ready, if_true]
    · simp only [Uncached.step, Uncached.fsm, state, Uncached.memWReqComb, ready, if_true]
      exact before.2

theorem Quiet.step (quiet : Quiet s) : Quiet (Uncached.step s i) := by
  intro next
  cases state : s.ucFsmQ with
  | memReq =>
      have same := Uncached.reqQ_step_of_busy i (s := s) (by simp [state])
      rw [same]
      simp only [Uncached.step, Uncached.fsm, state, Uncached.memReqComb] at next ⊢
      split_ifs at next ⊢ with load read write
      all_goals first | exact ⟨‹_›, rfl⟩ | contradiction | simp_all [Uncached.fsmDefaults]
  | memWReq =>
      have same := Uncached.reqQ_step_of_busy i (s := s) (by simp [state])
      have before := quiet state
      rw [same]
      refine ⟨before.1, ?_⟩
      simp only [Uncached.step, Uncached.fsm, state, Uncached.memWReqComb]
      split_ifs <;> exact before.2
  | idle =>
      rcases Uncached.next_of_idle i state with ⟨stays, -⟩ | ⟨-, ⟨sends, -⟩ | answers⟩ <;>
        simp_all
  | memWdataReq =>
      simp only [Uncached.step, Uncached.fsm, state, Uncached.memWdataReqComb] at next
      split_ifs at next
      simp_all [Uncached.fsmDefaults]
  | memWaitRsp =>
      rcases (Uncached.next_of_waiting i state).2 with stays | answers | writes | ⟨ends, -⟩ <;>
        simp_all
  | coreRsp =>
      rcases Uncached.next_of_answering i state with ⟨stays, -⟩ | ⟨ends, -⟩ <;> simp_all
  | amoWriteData =>
      have answers := (Uncached.next_of_writing i state).1
      simp_all

end Handler

/-! ## Requests in flight -/

/-- The identifier of the request is in use in its unit. -/
def InUse (s : State cfg) : Origin cfg → Prop
  | .wbuf id => cfg.wtEn = true ∧ s.wbuf.wbufDirStateQ id = .wbufSent
  | .flush id => cfg.wbEn = true ∧ s.flush.flushDirValidQ id = true
  | .uc => Waiting s.uc

/-- The requests that wait in the units for the write channels. -/
def queued (s : State cfg) : List (Origin cfg) :=
  (s.wbuf.sendMetaFifo.contents.map fun request => .wbuf request.metaId) ++
    s.flush.memReqMetaFifo.contents.map fun request => .flush request.memReqId

section Started

variable (s : State cfg) (i : Input cfg)

/-- The requests that the units start. -/
def wbufStarted : List (Origin cfg) :=
  if cfg.wtEn && Wbuf.sends s.wbuf (wbufInput i) then [.wbuf (Wbuf.wbufSendPtr s.wbuf)] else []

def flushStarted : List (Origin cfg) :=
  if cfg.wbEn && Flush.alloc s.flush (flushInput i) then [.flush (Flush.freePtr s.flush)] else []

def started : List (Origin cfg) := wbufStarted s i ++ flushStarted s i ++ ucAccepted s i

end Started

/-- Every request in flight has an identifier of its own, which is in use. -/
structure Owned (s : State cfg) (outstanding : List (Origin cfg)) : Prop where
  flight : InFlight (InUse s) outstanding (queued s)
  wbuf : Wbuf.ArbitersHold s.wbuf
  flush : Fxarb.Holds s.flush.flushDirFreeArb fun entry => !s.flush.flushDirValidQ entry
  uc : Quiet s.uc

section Conserved

variable (s : State cfg) (i : Input cfg)

theorem wbuf_conserved :
    (s.wbuf.sendMetaFifo.contents.map fun request => Origin.wbuf request.metaId) ++
        wbufStarted s i =
      wbufAccepted s i ++
        ((step s i).wbuf.sendMetaFifo.contents.map fun request => Origin.wbuf request.metaId) := by
  cases enabled : cfg.wtEn with
  | false => simp [wbufStarted, wbufAccepted, step, enabled]
  | true =>
      have conserved := congrArg
        (List.map fun request : Wbuf.SendMeta cfg.wbuf => (Origin.wbuf request.metaId : Origin cfg))
        (Wbuf.sendMetaFifo_conserved s.wbuf (wbufInput i))
      rw [List.map_append, List.map_append] at conserved
      simp only [wbufStarted, wbufAccepted, step, enabled, if_true, Bool.true_and]
      rw [← conserved]
      split_ifs <;> rfl

theorem flush_conserved :
    (s.flush.memReqMetaFifo.contents.map fun request => Origin.flush request.memReqId) ++
        flushStarted s i =
      flushAccepted s i ++
        ((step s i).flush.memReqMetaFifo.contents.map
          fun request => Origin.flush request.memReqId) := by
  cases enabled : cfg.wbEn with
  | false => simp [flushStarted, flushAccepted, step, enabled]
  | true =>
      have edge := s.flush.memReqMetaFifo.contents_conserved false
        (Flush.memReqW s.flush (flushInput i)) (flushMemReq s i) i.flush.mem.memReqWriteReady
      have writes : (Flush.memReqW s.flush (flushInput i) &&
          s.flush.memReqMetaFifo.wok false i.flush.mem.memReqWriteReady) =
            Flush.alloc s.flush (flushInput i) := by
        simp only [Flush.memReqW, Flush.alloc, Flush.allocReady, Flush.memReqWok, flushInput]
        cases i.flush.flushAlloc <;> cases i.flush.mem.flushResizerWok <;>
          cases Flush.full s.flush <;> simp
      rw [writes] at edge
      have conserved := congrArg
        (List.map fun request : Flush.MemReq cfg =>
          (Origin.flush request.memReqId : Origin cfg)) edge
      rw [List.map_append, List.map_append] at conserved
      simp only [flushStarted, flushAccepted, step, enabled, if_true, Bool.true_and]
      have left : (List.map (fun request : Flush.MemReq cfg => Origin.flush request.memReqId)
          (if Flush.alloc s.flush (flushInput i) then [flushMemReq s i] else [])) =
            if Flush.alloc s.flush (flushInput i) then [.flush (Flush.freePtr s.flush)]
              else [] := by
        split_ifs <;> rfl
      rw [← left, conserved]
      congr 1
      split_ifs <;> rfl

theorem requests_conserved :
    (queued s ++ started s i).Perm (accepted s i ++ queued (step s i)) := by
  have wbuf := wbuf_conserved s i
  have flush := flush_conserved s i
  rw [List.perm_iff_count]
  intro origin
  have wbufCount := congrArg (List.count origin) wbuf
  have flushCount := congrArg (List.count origin) flush
  simp only [queued, started, accepted, List.count_append] at wbufCount flushCount ⊢
  omega

end Conserved

/-! ## Responses -/

section Responses

variable {s : State cfg} {i : Input cfg} {outstanding : List (Origin cfg)}

theorem InUse.enabled {origin : Origin cfg} (used : InUse s origin) : origin.Enabled := by
  cases origin with
  | wbuf id => exact used.1
  | flush id => exact used.1
  | uc => trivial

theorem enabled_of_accepted {origin : Origin cfg} (member : origin ∈ accepted s i) :
    origin.Enabled := by
  simp only [accepted, List.mem_append, wbufAccepted, flushAccepted, ucAccepted] at member
  rcases member with (wbuf | flush) | uc
  · split_ifs at wbuf with enabled
    · obtain ⟨request, -, rfl⟩ := List.mem_map.mp wbuf
      exact enabled
    · contradiction
  · split_ifs at flush with taken
    · obtain rfl := List.mem_singleton.mp flush
      exact (Bool.and_eq_true_iff.mp taken).1
    · contradiction
  · split_ifs at uc with taken
    · obtain rfl := List.mem_singleton.mp uc
      trivial
    · contradiction

theorem Owned.enabled (owned : Owned s outstanding) {origin : Origin cfg}
    (member : origin ∈ outstanding ++ accepted s i) : origin.Enabled := by
  rcases List.mem_append.mp member with old | new
  · exact (owned.flight.used origin (List.mem_append_left _ old)).enabled
  · exact enabled_of_accepted new

theorem mem_of_answered {origin : Origin cfg} (found : answered s i outstanding = some origin) :
    origin ∈ outstanding ++ accepted s i := by
  rw [answered] at found
  split_ifs at found
  exact List.mem_of_find?_eq_some found

theorem Owned.answered_of_valid (owned : Owned s outstanding) (widths : IdWidths cfg)
    (responds : RespondsToIssued (s, outstanding) i) (valid : i.memRespWriteValid = true) :
    ∃ origin, answered s i outstanding = some origin ∧ Delivered i origin := by
  obtain ⟨issued, member, identifier⟩ := responds valid
  have some : ((outstanding ++ accepted s i).find?
      fun origin => reqWriteSelId origin == i.memRespWId).isSome = true :=
    List.find?_isSome.mpr ⟨issued, member, beq_iff_eq.mpr identifier⟩
  obtain ⟨origin, found⟩ := Option.isSome_iff_exists.mp some
  have answers : answered s i outstanding = .some origin := by rw [answered, if_pos valid, found]
  have same : (reqWriteSelId origin == i.memRespWId) = true :=
    List.find?_some (p := fun origin => reqWriteSelId origin == i.memRespWId) found
  exact ⟨origin, answers, delivered_of_answers widths
    (owned.enabled (mem_of_answered answers)) valid (beq_iff_eq.mp same)⟩

theorem valid_of_selected {valid : Bool} {id : Nat}
    (selected : demux cfg valid id ≠ ⟨false, false, false⟩) : valid = true := by
  cases valid with
  | true => rfl
  | false => exact absurd rfl selected

theorem Owned.answered_of_ack (owned : Owned s outstanding) (widths : IdWidths cfg)
    (responds : RespondsToIssued (s, outstanding) i) :
    (∀ id, Wbuf.acknowledges (wbufInput i) id = true →
        answered s i outstanding = some (.wbuf id)) ∧
      (∀ id, Flush.ackBv (flushInput i).mem id = true →
        answered s i outstanding = some (.flush id)) ∧
      ((ucInput i).memRespWriteValid = true → answered s i outstanding = some .uc) := by
  have route (some : memRespWrite i ≠ ⟨false, false, false⟩) :=
    owned.answered_of_valid widths responds (valid_of_selected some)
  refine ⟨fun id acks => ?_, fun id acks => ?_, fun acks => ?_⟩
  · simp only [Wbuf.acknowledges, Bool.and_eq_true, decide_eq_true_eq] at acks
    have gets : (memRespWrite i).wbufValid = true := acks.1
    obtain ⟨origin, answers, unit, own⟩ := route fun none => by simp [none] at gets
    rw [unit] at gets
    cases origin with
    | wbuf other => rw [answers, Fin.ext (acks.2.trans own)]
    | flush other => contradiction
    | uc => contradiction
  · simp only [Flush.ackBv, Bool.and_eq_true, decide_eq_true_eq] at acks
    have gets : (memRespWrite i).flushValid = true := acks.1
    obtain ⟨origin, answers, unit, own⟩ := route fun none => by simp [none] at gets
    rw [unit] at gets
    cases origin with
    | wbuf other => contradiction
    | flush other => rw [answers, Fin.ext (acks.2.trans own)]
    | uc => contradiction
  · have gets : (memRespWrite i).ucValid = true := acks
    obtain ⟨origin, answers, unit, -⟩ := route fun none => by simp [none] at gets
    rw [unit] at gets
    cases origin with
    | wbuf other => contradiction
    | flush other => contradiction
    | uc => exact answers

end Responses

/-! ## One cycle -/

section Step

variable {s : State cfg} {i : Input cfg} {outstanding : List (Origin cfg)}

theorem Owned.freePtr (owned : Owned s outstanding)
    (allocates : Flush.alloc s.flush (flushInput i) = true) :
    Flush.freeBv s.flush = Bits.single (Flush.freePtr s.flush) ∧
      s.flush.flushDirValidQ (Flush.freePtr s.flush) = false := by
  have room : (Bits.any fun entry => !s.flush.flushDirValidQ entry) = true := by
    simp only [Flush.alloc, Flush.allocReady, Flush.full, Bool.and_eq_true,
      Bool.not_eq_true'] at allocates
    rcases (Bits.all_eq_false_iff _).mp allocates.2.2 with ⟨entry, free⟩
    exact (Bits.any_eq_true_iff _).mpr ⟨entry, by simp [free]⟩
  rcases Fxarb.gnt_oneHot owned.flush room with ⟨entry, grant, free⟩
  have granted : Flush.freeBv s.flush = Bits.single entry := grant
  have pointer : Flush.freePtr s.flush = entry := by
    rw [Flush.freePtr, granted, Bits.lastIndex_single]
  rw [pointer]
  exact ⟨granted, by simpa using free⟩

theorem mem_wbufStarted {origin : Origin cfg} (member : origin ∈ wbufStarted s i) :
    origin = .wbuf (Wbuf.wbufSendPtr s.wbuf) ∧ cfg.wtEn = true ∧
      Wbuf.sends s.wbuf (wbufInput i) = true := by
  rw [wbufStarted] at member
  split_ifs at member with starts
  · exact ⟨List.mem_singleton.mp member, Bool.and_eq_true_iff.mp starts⟩
  · contradiction

theorem mem_flushStarted {origin : Origin cfg} (member : origin ∈ flushStarted s i) :
    origin = .flush (Flush.freePtr s.flush) ∧ cfg.wbEn = true ∧
      Flush.alloc s.flush (flushInput i) = true := by
  rw [flushStarted] at member
  split_ifs at member with starts
  · exact ⟨List.mem_singleton.mp member, Bool.and_eq_true_iff.mp starts⟩
  · contradiction

theorem mem_ucAccepted {origin : Origin cfg} (member : origin ∈ ucAccepted s i) :
    origin = .uc ∧ (Uncached.memReqWriteValid s.uc && (ucInput i).memReqWriteReady) = true := by
  rw [ucAccepted] at member
  split_ifs at member with starts
  · exact ⟨List.mem_singleton.mp member, starts⟩
  · contradiction

theorem nodup_started (s : State cfg) (i : Input cfg) : (started s i).Nodup := by
  rw [started, wbufStarted, flushStarted, ucAccepted]
  split_ifs <;> simp

theorem not_waiting_of_valid (valid : Uncached.memReqWriteValid s.uc = true) :
    ¬Waiting s.uc := by
  simp only [Uncached.memReqWriteValid, Bool.or_eq_true, Bool.and_eq_true, beq_iff_eq] at valid
  rintro ⟨state | state, -, -⟩ <;> simp [state] at valid

theorem Owned.fresh (owned : Owned s outstanding) {origin : Origin cfg}
    (member : origin ∈ started s i) : ¬InUse s origin := by
  simp only [started, List.mem_append] at member
  rcases member with (wbuf | flush) | uc
  · obtain ⟨rfl, -, sends⟩ := mem_wbufStarted wbuf
    rintro ⟨-, sent⟩
    rw [(Wbuf.sendAt_single owned.wbuf sends).2] at sent
    contradiction
  · obtain ⟨rfl, -, allocates⟩ := mem_flushStarted flush
    rintro ⟨-, valid⟩
    rw [(owned.freePtr allocates).2] at valid
    contradiction
  · obtain ⟨rfl, taken⟩ := mem_ucAccepted uc
    exact not_waiting_of_valid (Bool.and_eq_true_iff.mp taken).1

/-- An identifier stays in use until its request is answered. -/
theorem Owned.kept (owned : Owned s outstanding) (widths : IdWidths cfg)
    (responds : RespondsToIssued (s, outstanding) i) {origin : Origin cfg}
    (pending : answered s i outstanding ≠ some origin)
    (used : InUse s origin ∨ origin ∈ started s i) : InUse (step s i) origin := by
  rcases owned.answered_of_ack widths responds with ⟨wbufAck, flushAck, ucAck⟩
  cases origin with
  | wbuf id =>
      have noAck : Wbuf.acknowledges (wbufInput i) id = false :=
        Bool.eq_false_iff.mpr fun acks => pending (wbufAck id acks)
      simp only [Wbuf.acknowledges] at noAck
      rcases used with ⟨enabled, sent⟩ | starts
      · refine ⟨enabled, ?_⟩
        simp only [step, enabled, if_true]
        simp [Wbuf.step, Wbuf.wbufDirStateD, Wbuf.ackAt, sent, noAck]
      · simp only [started, List.mem_append] at starts
        rcases starts with (wbuf | flush) | uc
        · obtain ⟨same, enabled, sends⟩ := mem_wbufStarted wbuf
          obtain rfl := Origin.wbuf.inj same
          have leaves := Wbuf.sendAt_single owned.wbuf sends
          refine ⟨enabled, ?_⟩
          simp only [step, enabled, if_true]
          simp [Wbuf.step, Wbuf.wbufDirStateD, leaves.1, leaves.2]
        · exact absurd (mem_flushStarted flush).1 (by simp)
        · exact absurd (mem_ucAccepted uc).1 (by simp)
  | flush id =>
      have noAck : Flush.ackBv (flushInput i).mem id = false :=
        Bool.eq_false_iff.mpr fun acks => pending (flushAck id acks)
      rcases used with ⟨enabled, valid⟩ | starts
      · refine ⟨enabled, ?_⟩
        simp only [step, enabled, if_true]
        simp [Flush.step, valid, noAck]
      · simp only [started, List.mem_append] at starts
        rcases starts with (wbuf | flush) | uc
        · exact absurd (mem_wbufStarted wbuf).1 (by simp)
        · obtain ⟨same, enabled, allocates⟩ := mem_flushStarted flush
          obtain rfl := Origin.flush.inj same
          have free := owned.freePtr allocates
          refine ⟨enabled, ?_⟩
          simp only [step, enabled, if_true]
          simp [Flush.step, free.1, free.2, allocates]
        · exact absurd (mem_ucAccepted uc).1 (by simp)
  | uc =>
      have noAck : (ucInput i).memRespWriteValid = false :=
        Bool.eq_false_iff.mpr fun acks => pending (ucAck acks)
      rcases used with waiting | starts
      · exact waiting.step noAck
      · simp only [started, List.mem_append] at starts
        rcases starts with (wbuf | flush) | uc
        · exact absurd (mem_wbufStarted wbuf).1 (by simp)
        · exact absurd (mem_flushStarted flush).1 (by simp)
        · exact waiting_of_accepted owned.uc (mem_ucAccepted uc).2

theorem Owned.step (owned : Owned s outstanding) (widths : IdWidths cfg)
    (responds : RespondsToIssued (s, outstanding) i) :
    Owned (step s i) (recordOutstanding s i outstanding) where
  flight := owned.flight.step (requests_conserved s i) (nodup_started s i)
    (fun _ member => owned.fresh member) (fun _ found => mem_of_answered found)
    (fun _ pending used => owned.kept widths responds pending used)
  wbuf := by
    cases enabled : cfg.wtEn with
    | true =>
        simp only [WriteIds.step, enabled, if_true]
        exact Wbuf.arbitersHold_step (wbufInput i) owned.wbuf
    | false => simpa only [WriteIds.step, enabled, Bool.false_eq_true, if_false] using owned.wbuf
  flush := by
    cases enabled : cfg.wbEn with
    | true =>
        simp only [WriteIds.step, enabled, if_true]
        refine Fxarb.holds_step owned.flush fun idle entry free => ?_
        have same : (!s.flush.flushDirValidQ entry) = true := free
        rw [Bool.not_eq_true'] at same
        simp [Flush.step, same, idle]
    | false =>
        simpa only [WriteIds.step, enabled, Bool.false_eq_true, if_false] using owned.flush
  uc := owned.uc.step

end Step

/-! ## Runs -/

theorem owned_reset : Owned (reset cfg) [] where
  flight := by
    have none : queued (reset cfg) = [] := by
      simp [queued, reset, Wbuf.reset, Flush.reset]
    rw [none]
    exact inFlight_nil _
  wbuf := Wbuf.arbitersHold_reset
  flush := Fxarb.holds_reset _
  uc := by intro state; contradiction

theorem owned_run (widths : IdWidths cfg) {inputs : List (Input cfg)}
    (responds : (idMachine cfg).RunAlong RespondsToIssued inputs) :
    Owned ((idMachine cfg).run inputs).1 ((idMachine cfg).run inputs).2 :=
  (idMachine cfg).run_invariant_along (fun s => Owned s.1 s.2) owned_reset
    (fun _ _ owned condition => owned.step widths condition) responds

/-- In every run with a memory that responds to the requests it was given, no two
outstanding writes share an identifier, and a response reaches the unit that issued
its request alone, with the identifier that the unit gave. -/
theorem writeIds_run (widths : IdWidths cfg) (inputs : List (Input cfg)) (i : Input cfg)
    (responds : (idMachine cfg).RunAlong RespondsToIssued inputs)
    (next : RespondsToIssued ((idMachine cfg).run inputs) i) :
    (((idMachine cfg).run inputs).2.map reqWriteSelId).Nodup ∧
      (i.memRespWriteValid = true →
        ∃ origin ∈ ((idMachine cfg).run inputs).2 ++ accepted ((idMachine cfg).run inputs).1 i,
          reqWriteSelId origin = i.memRespWId ∧ Delivered i origin) := by
  have owned := owned_run widths responds
  constructor
  · have distinct : ((idMachine cfg).run inputs).2.Nodup := by
      have nodup := owned.flight.nodup
      rw [List.nodup_append'] at nodup
      exact nodup.1
    refine distinct.map_on fun first firstMember second secondMember same => ?_
    exact reqWriteSelId_injective widths
      (owned.enabled (i := i) (List.mem_append_left _ firstMember))
      (owned.enabled (i := i) (List.mem_append_left _ secondMember)) same
  · intro valid
    obtain ⟨origin, member, same⟩ := next valid
    exact ⟨origin, member, same, delivered_of_answers widths (owned.enabled member) valid same⟩

/-- A cycle in which only the handler of uncacheable requests and the memory do
something. -/
def ucCycle (uc : Uncached.Input Cfg.small) (valid : Bool) (id : Nat) : Input Cfg.small where
  wbuf := {
    flushAll := false
    cfgThreshold := 0
    cfgResetTimecntOnWrite := false
    cfgSequentialWaw := false
    cfgInhibitWriteCoalescing := false
    write := false
    writeAddr := 0
    writeData := fun _ => 0
    writeBe := fun _ => false
    writeUc := false
    readAddr := 0
    readFlushHit := false
    replayAddr := 0
    replayIsRead := false
    memReqWriteReady := false
    memReqWriteDataReady := false
    memRespWriteValid := false
    memRespWId := 0 }
  flush := {
    flushAlloc := false
    flushAllocNline := 0
    flushAllocWay := Bits.zero
    mem := {
      flushResizerWok := false
      memReqWriteReady := false
      memRespWriteValid := false
      memRespWId := 0 } }
  uc := uc
  memRespWriteValid := valid
  memRespWId := id

/-- An uncacheable store that the memory takes. -/
def ucStore : List (Input Cfg.small) :=
  [ucCycle { Uncached.Input.quiet Cfg.small with
      reqValid := true
      req := { Uncached.Request.zero Cfg.small with op := .store, uc := true } } false 0,
    ucCycle { Uncached.Input.quiet Cfg.small with
      memReqWriteReady := true
      memReqWriteDataReady := true } false 0]

theorem writeIds_ucStore :
    (((idMachine Cfg.small).run ucStore).2.map reqWriteSelId).Nodup ∧
      ∃ origin ∈ ((idMachine Cfg.small).run ucStore).2 ++
          accepted ((idMachine Cfg.small).run ucStore).1
            (ucCycle (Uncached.Input.quiet Cfg.small) true 3),
        reqWriteSelId origin = 3 ∧
          Delivered (ucCycle (Uncached.Input.quiet Cfg.small) true 3) origin := by
  have ids := writeIds_run { wbuf := by decide, flush := by decide } ucStore
    (ucCycle (Uncached.Input.quiet Cfg.small) true 3) (by decide +kernel) (by decide +kernel)
  exact ⟨ids.1, ids.2 rfl⟩

end Cva6Hpd.Hpdcache.WriteIds
