import Cva6Hpd.CacheSubsystem.WtAxiAdapter.Atomics

/-!
# Runs of the adapter

As long as no write response of an atomic is left when a store-conditional is presented, every
request is answered once and by its own answer. Otherwise the flag that remembers the kind of
the last atomic is already that of the store-conditional.
-/

namespace Cva6Hpd.CacheSubsystem.WtAxiAdapter

open Cva6Hpd.Hw
open Cva6Hpd.Common
open Cva6Hpd.Ariane (AmoT)

variable {cfg : Cfg}

/-! ## The result of a store-conditional -/

theorem scWord_eq_zero_iff (off : BitVec cfg.offBits) (succeeded : Bool) :
    (scWord off succeeded : Word cfg) = 0 ↔ succeeded = true := by
  cases succeeded with
  | true => simp [scWord]
  | false =>
      have bound := off.isLt
      have inside : off.toNat * 8 < cfg.dataBits := by
        rw [Cfg.dataBits]
        omega
      have hit : (scWord off false : Word cfg).getLsbD (off.toNat * 8) = true := by
        simp [scWord, inside]
      constructor
      · intro zero
        rw [zero] at hit
        simp at hit
      · exact nofun

/-! ## The invariant -/

/-- What holds in every state of a run. -/
structure Invariant (state : State cfg × History cfg) : Prop where
  wired : Wired state.1
  buffers : Buffers state.1 state.2
  dropped : AmosDropped state.1 state.2
  phase : Ordinary state.1 state.2 ∨
    ∃ req, Alone state.1 state.2 req ∧ Stage state.1 state.2 req
  atomics : state.2.ofType .atomic =
    state.2.atomicAcks.filterMap AtomicAck.request ++ state.2.current.toList
  answers : ∀ ack ∈ state.2.atomicAcks, ∃ req, ack.Answers req

theorem invariant_reset : Invariant (recorded cfg).reset where
  wired := wired_reset
  buffers := rfl
  dropped := by
    rintro (owed | ⟨entry, waits, _⟩)
    · exact absurd owed (Nat.lt_irrefl 0)
    · exact absurd waits List.not_mem_nil
  phase := Or.inl
    { current := rfl
      queue := fun _ among => absurd among List.not_mem_nil
      atomicReads := rfl
      noSc := ⟨rfl, fun _ among => absurd among List.not_mem_nil⟩
      noAck := rfl
      accounted := ⟨rfl, rfl, rfl, rfl⟩ }
  atomics := rfl
  answers _ among := absurd among List.not_mem_nil

section Step

variable {s : State cfg} {c : Cycle cfg} {h : History cfg}

theorem Invariant.phase_step (holds : Invariant (s, h)) (env : Environment (s, h) c)
    (clear : Clear (s, h) c) :
    Ordinary (step s c.toInput) (record s c h) ∨
      ∃ req, Alone (step s c.toInput) (record s c h) req ∧
        Stage (step s c.toInput) (record s c h) req := by
  have wired : Wired s := holds.wired
  have buffers : Buffers s h := holds.buffers
  have dropped : AmosDropped s h := holds.dropped
  rcases holds.phase with ordinary | ⟨req, alone, stage⟩
  · cases accepts : acceptsAtomic s c with
    | false => exact Or.inl (Ordinary.step ordinary wired buffers dropped env accepts)
    | true =>
        obtain ⟨alone, waits⟩ := Ordinary.accepts ordinary wired buffers dropped env accepts
        exact Or.inr ⟨c.dcacheData, alone, .waits waits⟩
  · have silentStep (queue : s.dcacheDataFifo.contents = []) (noAck : acks s .atomicAck = false) :
        Alone (WtAxiAdapter.step s c.toInput) (record s c h) req := by
      have silent := wired.silent queue c
      exact Alone.step alone buffers env noAck (silent.decodes .load) fun writing => by
        simp [silent.noWrite] at writing
    cases stage with
    | waits waits =>
        have still : Alone (WtAxiAdapter.step s c.toInput) (record s c h) req := by
          refine Alone.step alone buffers env waits.noAck (waits.noLoad alone wired) ?_
          intro writing
          have presents := wired.any_of_axiWrGnt writing
          obtain ⟨any, idx⟩ := any_of_axiWrReq presents
          have head := waits.head wired any idx
          rw [head.axiWrReq_eq] at presents
          have notLr : req.amoOp ≠ .lr := by
            simpa [DcacheReq.isWrite, show req.rtype = .atomic from alone.isAtomic] using presents
          rw [head.kind_eq alone.isAtomic alone.isSupported notLr]
          split <;> simp
        cases granted : grants s c with
        | false =>
            exact Or.inr ⟨req, still, .waits
              (waits.stays alone wired buffers dropped env clear granted)⟩
        | true =>
            exact Or.inr ⟨req, still, waits.sent alone wired buffers dropped env clear granted⟩
    | loads loads =>
        exact Or.inr ⟨req, silentStep loads.queue loads.noAck,
          Loads.step loads alone wired buffers dropped env⟩
    | stores stores =>
        exact Or.inr ⟨req, silentStep stores.queue stores.noAck,
          Stores.step stores alone wired buffers env⟩
    | answered answered => exact Or.inl (Answered.step answered alone wired buffers dropped env)

theorem Invariant.answered (holds : Invariant (s, h)) (ack : acks s .atomicAck = true) :
    ∃ req, Alone s h req ∧ Answered s h req := by
  rcases holds.phase with ordinary | ⟨req, alone, stage⟩
  · exact absurd (ordinary.noAck.symm.trans ack) Bool.false_ne_true
  · cases stage with
    | waits waits => exact absurd (waits.noAck.symm.trans ack) Bool.false_ne_true
    | loads loads => exact absurd (loads.noAck.symm.trans ack) Bool.false_ne_true
    | stores stores => exact absurd (stores.noAck.symm.trans ack) Bool.false_ne_true
    | answered answered => exact ⟨req, alone, answered⟩

theorem Answered.answers {req : DcacheReq cfg} (answered : Answered s h req)
    (alone : Alone s h req) :
    AtomicAck.Answers ⟨h.current, h.succeeded, (dcacheRtrn s).tid, (dcacheRtrn s).data 0⟩ req where
  request := alone.current
  tid := answered.tid
  sc isSc := by
    obtain ⟨succeeded, outcome, word⟩ := answered.sc isSc
    refine ⟨succeeded, outcome, word, ?_⟩
    rw [show (dcacheRtrn s).data 0 = scWord (amoOff req) succeeded from word]
    exact scWord_eq_zero_iff _ _

theorem ofType_record (rtype : DcacheOut) :
    (record s c h).ofType rtype =
      h.ofType rtype ++ (entering s c).filter fun req => req.rtype = rtype :=
  List.filter_append ..

theorem Invariant.atomics_step (holds : Invariant (s, h)) (env : Environment (s, h) c) :
    (record s c h).ofType .atomic =
      (record s c h).atomicAcks.filterMap AtomicAck.request ++
        (record s c h).current.toList := by
  have atomics : h.ofType .atomic =
    h.atomicAcks.filterMap AtomicAck.request ++ h.current.toList := holds.atomics
  rw [ofType_record, atomics]
  cases accepts : acceptsAtomic s c with
  | true =>
      have both : dcacheDataAck s c.toInput = true ∧ c.dcacheData.rtype = .atomic := by
        simpa [acceptsAtomic] using accepts
      have none : h.current = none := env.alone both.1
      have noAck : acks s .atomicAck = false := by
        rw [Bool.eq_false_iff]
        intro ack
        obtain ⟨req, alone, _⟩ := holds.answered ack
        rw [alone.current] at none
        contradiction
      simp [record, accepts, noAck, none, entering, both]
  | false =>
      have noEntry : (entering s c).filter (fun req => req.rtype = .atomic) = [] := by
        cases ack : dcacheDataAck s c.toInput with
        | false => simp [entering, ack]
        | true =>
            have other : c.dcacheData.rtype ≠ .atomic := by
              simpa [acceptsAtomic, ack] using accepts
            simp [entering, ack, other]
      rw [noEntry, List.append_nil]
      cases ack : acks s .atomicAck with
      | false => simp [record, accepts, ack]
      | true =>
          obtain ⟨req, alone, _⟩ := holds.answered ack
          simp [record, accepts, ack, alone.current]

theorem Invariant.step (holds : Invariant (s, h)) (env : Environment (s, h) c)
    (clear : Clear (s, h) c) : Invariant ((recorded cfg).step (s, h) c) where
  wired := holds.wired.step c
  buffers := holds.buffers.step holds.wired env
  dropped := holds.dropped.step env clear
  phase := holds.phase_step env clear
  atomics := holds.atomics_step env
  answers ack among := by
    rcases List.mem_append.mp among with before | new
    · exact holds.answers ack before
    · cases gives : acks s .atomicAck with
      | false => simp [gives] at new
      | true =>
          obtain ⟨req, alone, answered⟩ := holds.answered gives
          have same : ack =
              ⟨h.current, h.succeeded, (dcacheRtrn s).tid, (dcacheRtrn s).data 0⟩ := by
            simpa [gives] using new
          rw [same]
          exact ⟨req, answered.answers alone⟩

end Step

/-! ## Every run -/

theorem Settled.noRegister {state : State cfg × History cfg} (settled : Settled state)
    (rtype : DcacheIn) : acks state.1 rtype = false := by
  simp [acks, settled.register]

theorem Invariant.complete {state : State cfg × History cfg} (holds : Invariant state)
    (settled : Settled state) :
    state.2.loadAcks = (state.2.ofType .load).map DcacheReq.tid ∧
      state.2.storeAcks = (state.2.ofType .store).map DcacheReq.tid ∧ state.2.current = none := by
  have queue := FifoV3.empty_eq_true_iff.mp settled.queue
  rcases holds.phase with ordinary | ⟨req, alone, stage⟩
  · have buffered : state.2.buffered = [] := by
      have stored := holds.buffers
      rw [Buffers, FifoV3.empty_eq_true_iff.mp settled.buffer] at stored
      exact List.map_eq_nil_iff.mp stored.symm
    have reads := ordinary.accounted.reads
    rw [settled.loads, List.length_nil, List.length_eq_zero_iff] at reads
    have writes := ordinary.accounted.writes
    rw [settled.writes, waitingStores, buffered, List.countP_nil, List.length_eq_zero_iff] at writes
    have loads := ordinary.accounted.loads
    have stores := ordinary.accounted.stores
    rw [reads, queue, inRegister, settled.noRegister] at loads
    rw [writes, queue, inRegister, settled.noRegister] at stores
    have allLoads : state.2.loadAcks = tids .load state.2.accepted := by simpa using loads.symm
    have allStores : state.2.storeAcks = tids .store state.2.accepted := by
      simpa using stores.symm
    exact ⟨allLoads, allStores, ordinary.current⟩
  · cases stage with
    | waits waits => exact absurd (waits.queue.symm.trans queue) (List.cons_ne_nil _ _)
    | loads loads =>
        obtain ⟨left, owed⟩ := loads.atomicReads
        exact absurd (owed.symm.trans settled.atomics) (List.cons_ne_nil _ _)
    | stores stores => exact absurd (stores.owed.symm.trans (settled.writes .sc)) Nat.one_ne_zero
    | answered answered =>
        exact absurd ((settled.noRegister .atomicAck).symm.trans answered.ack) Bool.false_ne_true

theorem Invariant.paired {state : State cfg × History cfg} (holds : Invariant state) :
    Paired state := by
  have acked : state.2.loadAcks <+: tids .load state.2.accepted ∧
      state.2.storeAcks <+: tids .store state.2.accepted := by
    rcases holds.phase with ordinary | ⟨req, alone, _⟩
    · rw [ordinary.accounted.loads, ordinary.accounted.stores]
      simp only [List.append_assoc]
      exact ⟨List.prefix_append _ _, List.prefix_append _ _⟩
    · rw [alone.loads, alone.stores]
      exact ⟨List.prefix_rfl, List.prefix_rfl⟩
  exact ⟨acked.1, acked.2, holds.atomics, holds.answers, holds.complete⟩

/-! ## Runs of a small adapter -/

section Small

/-- A bus of 64 bits, and lines of one word. -/
private def small : Cfg where
  plen := 8
  tidBits := 2
  idBits := 2
  indexBits := 4
  offBits := 3
  icacheWords := 1
  dcacheWords := 1
  metaFifoDepth := 2
  two_le_idBits := Nat.le_add_left 2 0
  dcacheWords_pos := Nat.one_pos
  metaFifoDepth_pos := Nat.two_pos

/-- The memory takes every request. -/
private def quiet : Cycle small where
  icacheDataReq := false
  icacheData := ⟨0, false, 0⟩
  dcacheDataReq := false
  dcacheData := ⟨.store, 0, 0, 0, .none⟩
  mbe := false
  invalValid := false
  invalAddr := 0
  arReady := true
  awReady := true
  wReady := true
  rValid := false
  r := ⟨0, 0, false⟩
  bValid := false
  b := ⟨0, 0⟩
  rFor := .icache
  bFor := .store

private def requests (op : AmoT) : Cycle small :=
  { quiet with dcacheDataReq := true, dcacheData := ⟨.atomic, 3, 8, 2, op⟩ }

private def returns : Cycle small :=
  { quiet with rValid := true, r := ⟨3, 5, true⟩, rFor := .atomic }

private def responds (kind : WriteKind) (resp : BitVec 2) : Cycle small :=
  { quiet with bValid := true, b := ⟨3, resp⟩, bFor := kind }

private theorem environment_quiet (state : State small × History small) :
    Environment state quiet :=
  ⟨rfl, nofun, nofun, nofun, nofun, nofun, nofun, nofun, nofun⟩

private theorem environment_requests {state : State small × History small} {op : AmoT}
    (isSupported : supported op = true) (alone : state.2.current = none)
    (loads : (state.2.ofType .load).length = state.2.loadAcks.length)
    (stores : (state.2.ofType .store).length = state.2.storeAcks.length) :
    Environment state (requests op) :=
  ⟨rfl, fun _ => .inr (.inr ⟨rfl, isSupported⟩), fun _ => alone, fun _ => ⟨loads, stores⟩,
    nofun, nofun, nofun, nofun, nofun⟩

private theorem environment_returns {state : State small × History small}
    (owed : state.2.owedAtomicReads = [1]) : Environment state returns :=
  ⟨rfl, nofun, nofun, nofun, fun _ => rfl, nofun, fun _ _ => ⟨1, [], owed, by decide⟩, nofun,
    nofun⟩

private theorem environment_responds {state : State small × History small} {kind : WriteKind}
    (resp : BitVec 2) (id : 3 = @WriteKind.id small kind)
    (owed : 0 < state.2.owedWrites kind) : Environment state (responds kind resp) :=
  ⟨rfl, nofun, nofun, nofun, nofun, nofun, nofun, fun _ => id, fun _ => owed⟩

/-- Whatever the order of the requests and of the responses, as long as no write response of an
atomic that loads is left when a store-conditional is presented, and no atomic is answered
before it is granted: every request is answered once, by its own answer. -/
theorem requests_answered_once (cfg : Cfg) (cycles : List (Cycle cfg))
    (along : (recorded cfg).RunAlong
      (fun state c => Environment state c ∧ Clear state c) cycles) :
    Paired ((recorded cfg).run cycles) :=
  Invariant.paired <| (recorded cfg).run_invariant_along Invariant invariant_reset
    (fun _ _ holds both => holds.step both.1 both.2) along

/-- An addition and a store-conditional. The write response of the addition comes before its
read response. -/
private def prompt : List (Cycle small) :=
  [requests .add, quiet, responds .amo 0, returns, quiet, requests .sc, quiet, responds .sc 1,
    quiet]

theorem requests_answered_once_prompt : Paired ((recorded small).run prompt) := by
  apply requests_answered_once
  refine ⟨⟨environment_requests rfl ?_ ?_ ?_, ?_, ?_⟩, ⟨environment_quiet _, ?_, ?_⟩,
    ⟨environment_responds 0 rfl ?_, ?_, ?_⟩, ⟨environment_returns ?_, ?_, ?_⟩,
    ⟨environment_quiet _, ?_, ?_⟩, ⟨environment_requests rfl ?_ ?_ ?_, ?_, ?_⟩,
    ⟨environment_quiet _, ?_, ?_⟩, ⟨environment_responds 1 rfl ?_, ?_, ?_⟩,
    ⟨environment_quiet _, ?_, ?_⟩, trivial⟩
  all_goals decide +kernel

/-- An addition, a load-reserved and a store-conditional. The write response of the addition
comes when the store-conditional has been sent. -/
private def late : List (Cycle small) :=
  [requests .add, quiet, returns, quiet, requests .lr, quiet, returns, quiet, requests .sc, quiet,
    responds .amo 0, quiet, responds .sc 1, quiet]

private theorem environment_late :
    (recorded small).RunAlong Environment late := by
  refine ⟨environment_requests rfl ?_ ?_ ?_, environment_quiet _, environment_returns ?_,
    environment_quiet _, environment_requests rfl ?_ ?_ ?_, environment_quiet _,
    environment_returns ?_, environment_quiet _, environment_requests rfl ?_ ?_ ?_,
    environment_quiet _, environment_responds 0 rfl ?_, environment_quiet _,
    environment_responds 1 rfl ?_, environment_quiet _, trivial⟩
  all_goals decide +kernel

/-- The store-conditional is answered by the write response of the addition, which reports a
failure; its own write succeeds, and is answered once more. -/
theorem late_response_answers_other :
    (recorded small).RunAlong Environment late ∧
      ((recorded small).run late).2.atomicAcks.map (fun ack => (ack.succeeded, ack.word)) =
        [(none, 5), (none, 5), (none, 1), (some true, 0)] ∧
      ¬Paired ((recorded small).run late) := by
  refine ⟨environment_late, by decide +kernel, fun paired => ?_⟩
  have among : (⟨some ⟨.atomic, 3, 8, 2, .sc⟩, none, 2, 1⟩ : AtomicAck small) ∈
      ((recorded small).run late).2.atomicAcks := by decide +kernel
  obtain ⟨req, answers⟩ := paired.answers _ among
  have isSc : req.amoOp = .sc := by rw [← Option.some.inj answers.request]
  obtain ⟨succeeded, outcome, _⟩ := answers.sc isSc
  exact Option.some_ne_none succeeded outcome.symm

end Small

end Cva6Hpd.CacheSubsystem.WtAxiAdapter
