import Cva6Hpd.Hpdcache.Refill.Assembly

/-!
# The account of the refills

Over a whole run, every complete burst is granted one refill, in the order of
their completion; the cycles of these refills are those expected of their
misses, one refill after the other, and nothing is written outside them; the
core receives the responses of these cycles in their order.
-/

namespace Cva6Hpd.Hpdcache.Refill

open Cva6Hpd.Hw
open Cva6Hpd.Common

variable {cfg : Cfg} {widths : Widths cfg}

/-! ## The account -/

/-- The complete bursts, the refills granted with their misses, the cycles of
these refills, and the responses given to the core. -/
structure Account (widths : Widths cfg) where
  completed : List (Burst widths)
  refills : List (Miss cfg × Burst widths)
  observed : List (Cycle widths)
  delivered : List (MissHandler.CoreRsp × cfg.wbuf.Data)

/-- The cycles of the refills, one refill after the other. -/
def refillCycles (refills : List (Miss cfg × Burst widths)) : List (Cycle widths) :=
  refills.flatMap fun refill => expectedRefill refill.1 refill.2

/-- A refill writes the cache in this cycle. -/
def writing (state : State widths) : Bool :=
  decide (state.miss.refillFsmQ = .refillWrite ∨ state.miss.refillFsmQ = .refillWriteDir)

/-- `refill_core_rsp_o`. -/
def coreRspO (state : State widths) (input : Input widths) :
    MissHandler.CoreRsp × cfg.wbuf.Data :=
  (state.miss.coreRspBuf.rdata cfg.refillCoreRspFeedthrough
      (MissHandler.refillCoreRsp state.miss (missInput state input)),
    coreRspDataO state input)

def Account.record (state : State widths × Log widths) (input : Input widths)
    (account : Account widths) : Account widths where
  completed := account.completed ++
    if takesLast state.1 input then [⟨state.2.ledger.arriving, beat input⟩] else []
  refills := account.refills ++
    if (out state.1 input).mshrAck then
      (state.2.ledger.pending.head?.map fun burst =>
        (state.2.missOf burst.last.id, burst)).toList
    else []
  observed := account.observed ++ if writing state.1 then [observe state.1 input] else []
  delivered := account.delivered ++
    if MissHandler.refillCoreRspValidO state.1.miss then [coreRspO state.1 input] else []

/-- The refill path with its account. -/
def audited (widths : Widths cfg)
    (powerUp : Sram cfg.mshrSets cfg.mshrWays (Mshr.Entry cfg)) :
    Machine ((State widths × Log widths) × Account widths) (Input widths) :=
  (logged widths powerUp).withHistory
    { completed := [], refills := [], observed := [], delivered := [] }
    fun state input account => account.record state input

/-! ## The cycles of the refills -/

/-- Where the refill in progress stands: the cycles observed are those of the
finished refills and the first ones of the last refill granted. -/
inductive Progress (state : State widths × Log widths) (account : Account widths) : Prop where
  | rests (rests : writing state.1 = false)
      (observed : account.observed = refillCycles account.refills)
  | writes (done : List (Miss cfg × Burst widths)) (miss : Miss cfg) (burst : Burst widths)
      (k : Nat) (refilling : Refilling state.1 state.2.ledger miss burst k)
      (refills : account.refills = done ++ [(miss, burst)])
      (observed : account.observed =
        refillCycles done ++ (List.range k).map (expectedAccess miss burst))
  | writesDir (done : List (Miss cfg × Burst widths)) (miss : Miss cfg) (burst : Burst widths)
      (fsm : state.1.miss.refillFsmQ = .refillWriteDir) (only : widths.lineAccesses = 1)
      (dir : ∀ next, observe state.1 next = expectedDir miss burst)
      (refills : account.refills = done ++ [(miss, burst)])
      (observed : account.observed = refillCycles done ++ [expectedAccess miss burst 0])

theorem refillCycles_append (first second : List (Miss cfg × Burst widths)) :
    refillCycles (first ++ second) = refillCycles first ++ refillCycles second :=
  List.flatMap_append

theorem refillCycles_singleton (miss : Miss cfg) (burst : Burst widths) :
    refillCycles [(miss, burst)] = expectedRefill miss burst :=
  List.flatMap_singleton _ _

section Steps

variable {state : State widths × Log widths} {account : Account widths}
  {input : Input widths}

theorem Progress.step (consistent : Consistent state) (promised : Promised state input)
    (progress : Progress state account) :
    Progress (Refill.step state.1 input, state.2.record state.1 input)
      (account.record state input) := by
  have fsmD : (Refill.step state.1 input).miss.refillFsmQ = (out state.1 input).refillFsmD :=
    rfl
  have turn := MissHandler.turn state.1.miss (missInput state.1 input)
  change MissHandler.Turn _ _ (out state.1 input) at turn
  have refills (acks : (out state.1 input).mshrAck = false) :
      (account.record state input).refills = account.refills := by
    simp only [Account.record, acks, Bool.false_eq_true, if_false, List.append_nil]
  have observed (writes : writing state.1 = true) :
      (account.record state input).observed = account.observed ++ [observe state.1 input] := by
    simp only [Account.record, writes, if_true]
  cases progress with
  | rests rests same =>
      have quiet : (account.record state input).observed = account.observed := by
        simp only [Account.record, rests, Bool.false_eq_true, if_false, List.append_nil]
      have goesOn (acks : (out state.1 input).mshrAck = false)
          (next : writing (Refill.step state.1 input) = false) :
          Progress (Refill.step state.1 input, state.2.record state.1 input)
            (account.record state input) :=
        Progress.rests next (by rw [quiet, refills acks, same])
      cases turn with
      | wait fsm held next pops reads acks => exact goesOn acks (by simp [writing, fsmD, next])
      | startInval fsm filled inval next pops reads acks =>
          exact goesOn acks (by simp [writing, fsmD, next])
      | inval fsm next pops reads acks => exact goesOn acks (by simp [writing, fsmD, next])
      | startRefill fsm filled granted refill next cnt pops reads acks =>
          rcases consistent.granted promised acks with ⟨burst, rest, _, oldest, refilling⟩
          refine Progress.writes account.refills (state.2.missOf burst.last.id) burst 0
            refilling ?_ ?_
          · simp only [Account.record, acks, if_true, oldest, List.head?_cons,
              Option.map_some, Option.toList_some]
          · rw [quiet, same]
            simp
      | _ => simp_all [writing]
  | writes done miss burst k refilling granted same =>
      have fsm := refilling.fsm
      have writes : writing state.1 = true := by simp [writing, fsm]
      have more : (account.record state input).observed =
          refillCycles done ++ (List.range (k + 1)).map (expectedAccess miss burst) := by
        rw [observed writes, same, refilling.observe input, List.range_succ, List.map_append,
          List.append_assoc]
        rfl
      cases turn with
      | chunk _ notLast next cnt pops reads acks =>
          have inside := refilling.inside
          have later : k + 1 ≠ widths.lineAccesses := mt refilling.last_iff.mpr notLast
          exact Progress.writes done miss burst (k + 1)
            (refilling.step input promised.whole (by omega)) (by rw [refills acks, granted]) more
      | onlyChunk _ last single next pops reads acks =>
          have only := lineAccesses_of_only widths single
          refine Progress.writesDir done miss burst (fsmD.trans next) only
            (refilling.observe_dir input only) (by rw [refills acks, granted]) ?_
          have first : k = 0 := by
            have inside := refilling.inside
            omega
          rw [more, first]
          rfl
      | lastChunk _ last several next pops reads acks =>
          have all := refilling.last_iff.mp last
          have notOne : widths.lineAccesses ≠ 1 := fun only => several (by
            rw [lastChunkWord_eq widths, only, Nat.sub_self, Nat.zero_mul])
          refine Progress.rests (by simp [writing, fsmD, next]) ?_
          rw [more, refills acks, granted, refillCycles_append, refillCycles_singleton,
            expectedRefill, if_neg notOne, List.append_nil, all]
      | _ => simp_all
  | writesDir done miss burst fsm only dir granted same =>
      have writes : writing state.1 = true := by simp [writing, fsm]
      cases turn with
      | writeDir _ next pops reads acks =>
          refine Progress.rests (by simp [writing, fsmD, next]) ?_
          rw [observed writes, same, dir input, refills acks, granted, refillCycles_append,
            refillCycles_singleton, expectedRefill, if_pos only, only, List.append_assoc]
          rfl
      | _ => simp_all

end Steps

/-! ## The responses to the core -/

/-- The responses in the buffer. -/
def heldRsps (state : State widths) : List (MissHandler.CoreRsp × cfg.wbuf.Data) :=
  state.miss.coreRspBuf.contents.zip state.coreRspData.contents

/-- The response produced in this cycle. -/
def produced (state : State widths) (input : Input widths) :
    List (MissHandler.CoreRsp × cfg.wbuf.Data) :=
  if MissHandler.refillCoreRspValid state.miss then
    [(MissHandler.refillCoreRsp state.miss (missInput state input), coreRspRdata state input)]
  else []

/-- The responses given to the core and those in the buffer are the responses
of the refills, and the buffer is empty when one is produced. -/
structure Delivered (state : State widths) (account : Account widths) : Prop where
  rsps : account.delivered.map Prod.fst ++ state.miss.coreRspBuf.contents =
    (account.observed.filterMap Cycle.rsp).map Prod.fst
  data : account.delivered.map Prod.snd ++ state.coreRspData.contents =
    (account.observed.filterMap Cycle.rsp).map Prod.snd
  shape : state.coreRspData.contents.length = state.miss.coreRspBuf.contents.length
  apart : state.miss.coreRspBuf.contents ≠ [] →
    MissHandler.refillCoreRspValid state.miss = false

theorem Delivered.conserved {state : State widths} {account : Account widths}
    (delivered : Delivered state account) :
    account.delivered ++ heldRsps state = account.observed.filterMap Cycle.rsp := by
  have pairs (l : List (MissHandler.CoreRsp × cfg.wbuf.Data)) :
      (l.map Prod.fst).zip (l.map Prod.snd) = l := by
    induction l with
    | nil => rfl
    | cons first rest inductionHypothesis =>
        rw [List.map_cons, List.map_cons, List.zip_cons_cons, inductionHypothesis]
  rw [← pairs (account.observed.filterMap Cycle.rsp), ← delivered.rsps, ← delivered.data,
    List.zip_append (by simp), pairs]
  rfl

section Responses

variable {state : State widths × Log widths} {account : Account widths}
  {input : Input widths}

theorem responses_record :
    (account.record state input).observed.filterMap Cycle.rsp =
      account.observed.filterMap Cycle.rsp ++ produced state.1 input := by
  simp only [Account.record, List.filterMap_append]
  congr 1
  cases valid : MissHandler.refillCoreRspValid state.1.miss with
  | true =>
      have writes : writing state.1 = true := by
        simp only [MissHandler.refillCoreRspValid, Bool.and_eq_true, decide_eq_true_eq] at valid
        simp only [writing, valid.1.1, true_or, decide_true]
      simp [writes, observe, produced, valid]
  | false =>
      simp only [produced, valid, Bool.false_eq_true, if_false]
      split_ifs
      · simp [observe, valid]
      · rfl

theorem Progress.answers_once (promised : Promised state input)
    (progress : Progress state account)
    (valid : MissHandler.refillCoreRspValid state.1.miss = true) :
    MissHandler.refillCoreRspValid (Refill.step state.1 input).miss = false := by
  have fsmD : (Refill.step state.1 input).miss.refillFsmQ = (out state.1 input).refillFsmD :=
    rfl
  simp only [MissHandler.refillCoreRspValid, Bool.and_eq_true, decide_eq_true_eq] at valid
  have turn := MissHandler.turn state.1.miss (missInput state.1 input)
  change MissHandler.Turn _ _ (out state.1 input) at turn
  cases progress with
  | rests rests => simp [writing, valid.1.1] at rests
  | writesDir done miss burst fsm => simp [fsm] at valid
  | writes done miss burst k refilling =>
      cases turn with
      | chunk _ notLast =>
          have inside := refilling.inside
          have later : k + 1 ≠ widths.lineAccesses := mt refilling.last_iff.mpr notLast
          have here := refilling.answers_iff.mp valid.1.2
          have next := refilling.step input promised.whole (by omega)
          have passed : MissHandler.answers (Refill.step state.1 input).miss = false := by
            rw [Bool.eq_false_iff, Ne, next.answers_iff]
            omega
          simp only [MissHandler.refillCoreRspValid, passed, Bool.and_false, Bool.false_and]
      | onlyChunk _ _ _ next => simp [MissHandler.refillCoreRspValid, fsmD, next]
      | lastChunk _ _ _ next => simp [MissHandler.refillCoreRspValid, fsmD, next]
      | _ => simp_all

theorem Delivered.step (promised : Promised state input) (progress : Progress state account)
    (delivered : Delivered state.1 account) :
    Delivered (Refill.step state.1 input) (account.record state input) := by
  have sameEmpty : state.1.coreRspData.empty = state.1.miss.coreRspBuf.empty := by
    rw [FifoReg.empty_eq_decide, FifoReg.empty_eq_decide]
    simp only [← List.length_eq_zero_iff, delivered.shape]
  have sameFull : state.1.coreRspData.full = state.1.miss.coreRspBuf.full := by
    rw [FifoReg.full_eq_decide, FifoReg.full_eq_decide, delivered.shape]
  have wok : MissHandler.refillCoreRspValid state.1.miss = true →
      state.1.miss.coreRspBuf.wok cfg.refillCoreRspFeedthrough true = true := by
    intro valid
    have room : state.1.miss.coreRspBuf.contents = [] := by
      by_contra held
      rw [delivered.apart held] at valid
      exact Bool.noConfusion valid
    simp [FifoRegs.wok, FifoReg.full_eq_decide, room]
  have takes {α : Type} (wdata : α) :
      (if MissHandler.refillCoreRspValid state.1.miss &&
          state.1.miss.coreRspBuf.wok cfg.refillCoreRspFeedthrough true then [wdata] else []) =
        if MissHandler.refillCoreRspValid state.1.miss then [wdata] else [] := by
    split_ifs <;> simp_all
  have rsps := state.1.miss.coreRspBuf.contents_conserved cfg.refillCoreRspFeedthrough
    (MissHandler.refillCoreRspValid state.1.miss)
    (MissHandler.refillCoreRsp state.1.miss (missInput state.1 input)) true
  have data := state.1.coreRspData.contents_conserved cfg.refillCoreRspFeedthrough
    (MissHandler.refillCoreRspValid state.1.miss) (coreRspRdata state.1 input) true
  have sameWok : state.1.coreRspData.wok cfg.refillCoreRspFeedthrough true =
      state.1.miss.coreRspBuf.wok cfg.refillCoreRspFeedthrough true := by
    simp only [FifoRegs.wok, sameFull]
  have sameRok : state.1.coreRspData.rok cfg.refillCoreRspFeedthrough
        (MissHandler.refillCoreRspValid state.1.miss) =
      MissHandler.refillCoreRspValidO state.1.miss := by
    simp only [MissHandler.refillCoreRspValidO, FifoRegs.rok, sameEmpty]
  have rok : state.1.miss.coreRspBuf.rok cfg.refillCoreRspFeedthrough
        (MissHandler.refillCoreRspValid state.1.miss) =
      MissHandler.refillCoreRspValidO state.1.miss := rfl
  rw [takes, rok, Bool.true_and] at rsps
  rw [sameWok, sameRok, takes, Bool.true_and] at data
  constructor
  · have new : (produced state.1 input).map Prod.fst =
        if MissHandler.refillCoreRspValid state.1.miss then
          [MissHandler.refillCoreRsp state.1.miss (missInput state.1 input)] else [] := by
      simp only [produced]
      split_ifs <;> rfl
    rw [responses_record, List.map_append, ← delivered.rsps, List.append_assoc, new, rsps,
      ← List.append_assoc]
    congr 1
    simp only [Account.record, List.map_append]
    congr 1
    split_ifs <;> rfl
  · have new : (produced state.1 input).map Prod.snd =
        if MissHandler.refillCoreRspValid state.1.miss then [coreRspRdata state.1 input]
        else [] := by
      simp only [produced]
      split_ifs <;> rfl
    rw [responses_record, List.map_append, ← delivered.data, List.append_assoc, new, data,
      ← List.append_assoc]
    congr 1
    simp only [Account.record, List.map_append]
    congr 1
    split_ifs <;> rfl
  · have lengths := congrArg List.length rsps
    have lengths' := congrArg List.length data
    have shape := delivered.shape
    simp only [List.length_append, apply_ite List.length, List.length_singleton,
      List.length_nil] at lengths lengths'
    change (state.1.coreRspData.step _ _ _ _).contents.length =
      (state.1.miss.coreRspBuf.step _ _ _ _).contents.length
    omega
  · intro held
    exact progress.answers_once promised (FifoReg.written_of_held _ held)

end Responses

/-! ## Runs -/

/-- The account of a run in one of its states. -/
structure Accounted (state : (State widths × Log widths) × Account widths) : Prop where
  consistent : Consistent state.1
  order : state.2.refills.map Prod.snd ++ waiting state.1.1 state.1.2.ledger =
    state.2.completed
  progress : Progress state.1 state.2
  delivered : Delivered state.1.1 state.2

theorem Accounted.reset (powerUp : Sram cfg.mshrSets cfg.mshrWays (Mshr.Entry cfg)) :
    Accounted (audited widths powerUp).reset where
  consistent := Consistent.reset powerUp
  order := rfl
  progress := Progress.rests rfl rfl
  delivered := by
    constructor <;>
      simp [audited, logged, Machine.withHistory, machine, Refill.reset, MissHandler.reset]

theorem Accounted.step {state : (State widths × Log widths) × Account widths}
    {input : Input widths} (accounted : Accounted state) (promised : Promised state.1 input) :
    Accounted ((audited widths powerUp).step state input) where
  consistent := accounted.consistent.step promised
  order := by
    rcases state with ⟨⟨state, log⟩, account⟩
    rcases accounted with ⟨consistent, order, -, -⟩
    have moved := waiting_step input consistent.tracked
    change ((account.record (state, log) input).refills.map Prod.snd ++
      waiting (Refill.step state input) (log.ledger.record state input)) = _ ++ _
    rw [moved, ← order]
    cases ack : (out state input).mshrAck with
    | true =>
        rcases consistent.granted promised ack with ⟨burst, rest, waits, oldest, _⟩
        dsimp only at waits oldest
        simp [Account.record, ack, waits, oldest]
    | false => simp [Account.record, ack]
  progress := accounted.progress.step accounted.consistent promised
  delivered := accounted.delivered.step promised accounted.progress

theorem accounted_run (powerUp : Sram cfg.mshrSets cfg.mshrWays (Mshr.Entry cfg))
    {inputs : List (Input widths)}
    (promised : (audited widths powerUp).RunAlong (fun state => Promised state.1) inputs) :
    Accounted ((audited widths powerUp).run inputs) :=
  (audited widths powerUp).run_invariant_along Accounted (Accounted.reset powerUp)
    (fun _ _ accounted promised => accounted.step promised) promised

/-- What was observed is an initial part of what is expected. -/
theorem Progress.prefix {state : State widths × Log widths} {account : Account widths}
    (progress : Progress state account) :
    account.observed <+: refillCycles account.refills := by
  cases progress with
  | rests rests same =>
      rw [same]
  | writes done miss burst k refilling granted same =>
      have inside := refilling.inside
      rw [same, granted, refillCycles_append, refillCycles_singleton, expectedRefill,
        List.prefix_append_right_inj]
      refine List.IsPrefix.trans ?_ (List.prefix_append _ _)
      refine List.IsPrefix.map _ ?_
      rw [List.prefix_iff_eq_take, List.length_range, List.take_range,
        Nat.min_eq_left (Nat.le_of_lt inside)]
  | writesDir done miss burst fsm only dir granted same =>
      rw [same, granted, refillCycles_append, refillCycles_singleton, expectedRefill, only,
        List.prefix_append_right_inj]
      exact List.prefix_append _ _

/-- Nothing is written and nobody is answered outside the refills. -/
theorem observe_of_rests {state : State widths} (rests : writing state = false)
    (input : Input widths) : observe state input = Cycle.idle := by
  simp only [writing, decide_eq_false_iff_not, not_or] at rests
  have quiet : (out state input).refillWriteData = false ∧
      (out state input).refillWriteDir = false ∧
      MissHandler.refillCoreRspValid state.miss = false := by
    simp only [out, MissHandler.missRespFsmComb, MissHandler.refillCoreRspValid]
    cases fsm : state.miss.refillFsmQ with
    | refillIdle =>
        simp only [MissHandler.refillIdle]
        split_ifs <;> simp [MissHandler.refillDefaults]
    | refillInval => simp [MissHandler.refillInval, MissHandler.refillDefaults]
    | refillWrite => exact absurd fsm rests.1
    | refillWriteDir => exact absurd fsm rests.2
  rw [observe, quiet.1, quiet.2.1, quiet.2.2]
  rfl

/-- In every run the cycles of the refills are those expected of the misses:
every complete burst is refilled once, in order; each access of its line is
written once, in order, with the data of the memory and the coalesced bytes of
the miss, unless the response reports an error; the directory is written with
the last access, or in the cycle after the only one; and the core is given the
missed word of the merged line. -/
theorem refillAssembled_run (powerUp : Sram cfg.mshrSets cfg.mshrWays (Mshr.Entry cfg))
    {inputs : List (Input widths)}
    (promised : (audited widths powerUp).RunAlong (fun state => Promised state.1) inputs) :
    let state := ((audited widths powerUp).run inputs).1.1
    let ledger := ((audited widths powerUp).run inputs).1.2.ledger
    let account := ((audited widths powerUp).run inputs).2
    account.refills.map Prod.snd ++ waiting state ledger = account.completed ∧
      account.observed <+: refillCycles account.refills ∧
      (writing state = false → account.observed = refillCycles account.refills ∧
        ∀ input, observe state input = Cycle.idle) ∧
      account.delivered ++ heldRsps state = account.observed.filterMap Cycle.rsp := by
  intro state ledger account
  have accounted := accounted_run powerUp promised
  refine ⟨accounted.order, accounted.progress.prefix, ?_, accounted.delivered.conserved⟩
  intro rests
  refine ⟨?_, observe_of_rests rests⟩
  cases accounted.progress with
  | rests _ same => exact same
  | writes done miss burst k refilling =>
      simp [state, writing, refilling.fsm] at rests
  | writesDir done miss burst fsm => simp [state, writing, fsm] at rests

/-- The reads on their way to the memory, those without an answer and the bursts that wait
for their refill have different identifiers, each of a valid slot, and a valid slot keeps the
miss and the coalesced bytes that it was allocated for. -/
theorem slots_run (powerUp : Sram cfg.mshrSets cfg.mshrWays (Mshr.Entry cfg))
    {inputs : List (Input widths)}
    (promised : (logged widths powerUp).RunAlong Promised inputs) :
    let state := (logged widths powerUp).run inputs
    (openIds state.1 state.2).Nodup ∧
      (∀ id ∈ openIds state.1 state.2,
        ∃ w s, id = MissHandler.memId w s ∧ state.1.miss.mshr.mshrValidQ w s = true) ∧
      Kept state.1 state.2 := by
  have consistent := consistent_run powerUp promised
  exact ⟨consistent.owned.distinct, consistent.owned.live, consistent.kept⟩

/-! ## Three refills -/

/-- The small configuration with lines written in two accesses, or in one. -/
abbrev narrow : Widths (smallCfg 2 Nat.two_pos) := smallWidths 2 Nat.two_pos

abbrev wideCfg : Cfg :=
  { smallCfg 2 Nat.two_pos with
    accessWords := 2
    accessWords_pos := Nat.two_pos
    accessWords_le := Nat.le_refl 2 }

def wide : Widths wideCfg where
  reqWords := 1
  accessReqs := 2
  memReqs := 1
  lineReqs := 2
  reqWords_pos := Nat.one_pos
  accessReqs_pos := Nat.two_pos
  memReqs_pos := Nat.one_pos
  accessWords_eq := rfl
  clWords_eq := rfl
  clWords_gt := Nat.one_lt_two
  reqBytes_eq := rfl
  accessReqs_pow := by decide
  access_dvd := Nat.dvd_mul_left 2 1
  mem_dvd := (smallWidths 2 Nat.two_pos).mem_dvd
  resize := Or.inl (Nat.one_dvd 2)

/-- A store misses word 1 of line 0 and its bytes are kept, the read is sent and
answered in two beats, and the refill is granted and runs for two cycles. -/
def storeMiss (widths : Widths cfg) (error : Bool) : List (Input widths) :=
  let quiet := Input.quiet widths
  let answer (last : Bool) : Input widths :=
    { quiet with
      ports := { quiet.ports with
        memRespValid := true
        memRespError := error
        memRespLast := last } }
  [{ quiet with
      ports := { quiet.ports with
        mshrAlloc := true
        mshrAllocCs := true
        mshrAllocWord := 1
        mshrAllocNeedRsp := true
        mshrAllocVictimWay := fun _ => true
        mshrAllocWback := true
        mshrAllocDirty := true
        mshrAllocData := { wdata := fun _ => 7, be := fun _ => true } } },
    { quiet with ports := { quiet.ports with memReqReady := true } },
    answer false,
    answer true,
    { quiet with ports := { quiet.ports with refillReqReady := true } },
    quiet,
    quiet]

def accountOf (widths : Widths cfg) (inputs : List (Input widths)) : Account widths :=
  ((audited widths (clearMshr cfg)).run inputs).2

theorem storeMiss_assembled :
    (accountOf narrow (storeMiss narrow false)).refills.length = 1 ∧
      (accountOf narrow (storeMiss narrow false)).observed =
        refillCycles (accountOf narrow (storeMiss narrow false)).refills :=
  ⟨by decide +kernel, ((refillAssembled_run (clearMshr _) (by decide +kernel)).2.2.1
    (by decide +kernel)).1⟩

theorem storeMiss_slots :
    let state := (logged narrow (clearMshr _)).run ((storeMiss narrow false).take 3)
    (openIds state.1 state.2).Nodup ∧
      (∀ id ∈ openIds state.1 state.2,
        ∃ w s, id = MissHandler.memId w s ∧ state.1.miss.mshr.mshrValidQ w s = true) ∧
      Kept state.1 state.2 :=
  slots_run (clearMshr _) (by decide)

/-- What is written in the cycles of the refills: the line, the directory. -/
def writesOf (account : Account widths) : List (Bool × Bool) :=
  account.observed.map fun cycle => (cycle.write.isSome, cycle.dir.isSome)

/-- A line of one access has its directory written after it, and a line whose
response reports an error is not written. -/
theorem storeMiss_apart :
    (audited wide (clearMshr _)).RunAlong (fun state => Promised state.1)
        (storeMiss wide false) ∧
      writesOf (accountOf wide (storeMiss wide false)) = [(true, false), (false, true)] ∧
      (audited narrow (clearMshr _)).RunAlong (fun state => Promised state.1)
        (storeMiss narrow true) ∧
      writesOf (accountOf narrow (storeMiss narrow true)) = [(false, false), (false, true)] := by
  decide +kernel

end Cva6Hpd.Hpdcache.Refill
