import Cva6Hpd.CacheSubsystem.AxiArbiter.Pairing

/-!
# The account of the port

What the caches were answered is what the beats of their own reads say.
-/

namespace Cva6Hpd.CacheSubsystem.AxiArbiter

open Cva6Hpd.Hw
open Cva6Hpd.Common

variable {cfg : Cfg} {s : State cfg} {i : Input cfg} {h : History cfg}

/-! ## Responses -/

/-- What is read while a response is given: the beats of the miss in flight. -/
structure Responds (s : State cfg) (i : Input cfg) (h : History cfg) (miss : IcacheReq cfg) :
    Prop where
  held : Held s h miss
  pending : s.missPendingQ = true
  whole : (beatsNow s i h).length = (missReq miss).len.toNat + 1
  id : metaId s i = cfg.icacheMissId
  data : ∀ word : Fin cfg.lineWords, word.val / cfg.busWords < (beatsNow s i h).length →
    respData s i word =
      (beatsNow s i h).getD (word.val / cfg.busWords) (fun _ => 0) (Fin.ofNat _ word.val)

theorem Collects.responds {miss : IcacheReq cfg} (collects : Collects s h miss)
    (held : Held s h miss) (pending : s.missPendingQ = true) (responds : metaRok s i = true) :
    Responds s i h miss := by
  have isWide : narrow cfg = false := by
    rw [Bool.eq_false_iff]
    intro isNarrow
    rw [metaRok_of_narrow isNarrow, collects.noMeta] at responds
    exact Bool.false_ne_true responds
  have arrives : missRespW i = true := by simpa [metaRok, isWide] using responds
  have takes : takesBeat s i = true := collects.takesBeat_eq.trans arrives
  have single : cfg.beats - 1 = 0 := by
    simp only [narrow, decide_eq_false_iff_not] at isWide
    omega
  have total := collects.owed
  have some := collects.some
  have bound := len_le miss
  have first : h.beats = [] := List.length_eq_zero_iff.mp (by omega)
  have now : beatsNow s i h = [i.r.data] := by simp [beatsNow, first, takes]
  refine ⟨held, pending, ?_, ?_, ?_⟩
  · rw [now, List.length_singleton]
    omega
  · have id : i.r.id = cfg.icacheMissId := by
      simpa [toIcache] using (Bool.and_eq_true_iff.mp arrives).2
    simp [metaId, isWide, id]
  · intro word inside
    rw [now, List.length_singleton] at inside
    rw [now, Nat.lt_one_iff.mp inside]
    simp [respData, isWide]

theorem Completes.responds {miss : IcacheReq cfg} (completes : Completes s h miss)
    (held : Held s h miss) (pending : s.missPendingQ = true) (env : Environment h i) :
    Responds s i h miss := by
  have noTake := takesBeat_of_silent (s := s) (completes.silent env)
  have now : beatsNow s i h = h.beats := by simp [beatsNow, noTake]
  refine ⟨held, pending, ?_, ?_, ?_⟩
  · rw [now, completes.beats]
  · simp [metaId, completes.isNarrow, SyncBuffer.rdata, completes.id]
  · intro word inside
    rw [now] at inside
    have pointer : s.upsize.rdptrQ = 0 := Subsingleton.elim _ _
    simp only [respData, completes.isNarrow, if_true, DataUpsizeRegs.rdata, pointer]
    rw [now, completes.stored _ inside]

theorem Stage.responds (stage : Stage s h) (env : Environment h i)
    (responds : metaRok s i = true) : ∃ miss, Responds s i h miss := by
  cases stage with
  | empty free nothing idle quiet =>
      rw [metaRok_of_silent quiet.noMeta (quiet.silent env)] at responds
      contradiction
  | waits miss held idle quiet =>
      rw [metaRok_of_silent quiet.noMeta (quiet.silent env)] at responds
      contradiction
  | collects miss held pending collects =>
      exact ⟨miss, collects.responds held pending responds⟩
  | completes miss held pending completes =>
      exact ⟨miss, completes.responds held pending env⟩

theorem Responds.missReqRdata_eq {miss : IcacheReq cfg} (responds : Responds s i h miss) :
    missReqRdata s i = missReq miss := by
  simp [missReqRdata, SyncBuffer.rdata, responds.held.buffer]

theorem Responds.answers {miss : IcacheReq cfg} (responds : Responds s i h miss) :
    (metaId s i, missRdata s i) = answer miss (beatsNow s i h) := by
  have whole := responds.whole
  rw [answer, responds.id, responds.held.tid]
  congr 1
  simp only [missRdata, responds.missReqRdata_eq]
  cases nc : miss.nc with
  | true =>
      have small : (@wordIndex cfg miss.paddr).val =
          miss.paddr.toNat / 8 % cfg.busWords :=
        Nat.mod_eq_of_lt (Nat.lt_of_lt_of_le (Nat.mod_lt _ cfg.busWords_pos) cfg.busWords_le)
      have first : (@wordIndex cfg miss.paddr).val / cfg.busWords = 0 := by
        rw [small, Nat.div_eq_of_lt (Nat.mod_lt _ cfg.busWords_pos)]
      have word := responds.data (wordIndex miss.paddr) (by rw [first, whole]; exact Nat.succ_pos _)
      have same : Fin.ofNat cfg.busWords (@wordIndex cfg miss.paddr).val =
          Fin.ofNat cfg.busWords (miss.paddr.toNat / 8) := by
        apply Fin.ext
        rw [small, Fin.val_ofNat, Fin.val_ofNat, Nat.mod_mod]
      rw [first, same] at word
      simp only [missReq, nc, Bool.not_true, Bool.not_false, if_true, word]
  | false =>
      simp only [missReq, nc, Bool.not_true, Bool.not_false, Bool.false_eq_true, if_false]
      funext word
      apply responds.data
      have bound := cfg.beats_le
      have positive := cfg.beats_pos
      have beats : (BitVec.ofNat 8 (cfg.beats - 1)).toNat + 1 = cfg.beats := by
        rw [BitVec.toNat_ofNat, Nat.mod_eq_of_lt (by omega)]
        omega
      rw [whole]
      simp only [missReq, nc, Bool.false_eq_true, if_false, beats]
      exact Nat.div_lt_of_lt_mul (by rw [Nat.mul_comm]; exact word.isLt)

/-! ## One cycle -/

/-- The misses that were sent. -/
def sentMisses (s : State cfg) (h : History cfg) : List (IcacheReq cfg) :=
  h.answered.map Prod.fst ++ if s.missPendingQ then h.inFlight.toList else []

structure Account (s : State cfg) (h : History cfg) : Prop where
  accepted : h.accepted = h.answered.map Prod.fst ++ h.inFlight.toList
  sent : h.ar.filter (fun ar => toIcache ar.id) =
    (sentMisses s h).map fun miss => toAr (missReq miss)
  whole : ∀ entry ∈ h.answered, entry.2.length = (missReq entry.1).len.toNat + 1
  responses : h.responses = h.answered.map fun entry => answer entry.1 entry.2
  dcacheSent : h.ar.filter (fun ar => !toIcache ar.id) = h.dcacheReads.map toAr
  dcacheAnswered : h.dcacheResponses = h.dcacheBeats.map toResp

theorem Stage.accepted_step (stage : Stage s h) (env : Environment h i)
    (account : h.accepted = h.answered.map Prod.fst ++ h.inFlight.toList) :
    (record s i h).accepted =
      (record s i h).answered.map Prod.fst ++ (record s i h).inFlight.toList := by
  cases now : metaRok s i with
  | true =>
      obtain ⟨miss, responds⟩ := stage.responds env now
      have notAccepted := responds.held.acceptsMiss_eq (i := i)
      simp [record, now, notAccepted, account, responds.held.inFlight]
  | false =>
      cases accepts : acceptsMiss s i with
      | false => simp [record, now, accepts, account]
      | true =>
          have nothing : h.inFlight = none := by
            cases stage with
            | empty free nothing idle quiet => exact nothing
            | waits miss held => simp [held.acceptsMiss_eq] at accepts
            | collects miss held => simp [held.acceptsMiss_eq] at accepts
            | completes miss held => simp [held.acceptsMiss_eq] at accepts
          simp [record, now, accepts, account, nothing]

theorem Stage.sends (stage : Stage s h) (ready : readReady s i 0 = true) :
    ∃ miss, Held s h miss ∧ s.missPendingQ = false ∧ Quiet s h ∧
      missReqRdata s i = missReq miss := by
  cases stage with
  | empty free nothing idle quiet =>
      simp [readReady, readValid, missReqRok, free, SyncBuffer.rok] at ready
  | waits miss held idle quiet =>
      exact ⟨miss, held, idle, quiet, by simp [missReqRdata, SyncBuffer.rdata, held.buffer]⟩
  | collects miss held pending collects => simp [readReady_of_pending pending] at ready
  | completes miss held pending completes => simp [readReady_of_pending pending] at ready

theorem Stage.isMiss (stage : Stage s h) (ready : readReady s i 0 = true) :
    (missReqRdata s i).id = cfg.icacheMissId := by
  obtain ⟨miss, held, _, _, same⟩ := stage.sends ready
  rw [same]
  exact held.tid

theorem Stage.held_of_pending (stage : Stage s h) (pending : s.missPendingQ = true) :
    ∃ miss, Held s h miss := by
  cases stage with
  | empty free nothing idle quiet => exact absurd (idle.symm.trans pending) Bool.false_ne_true
  | waits miss held idle quiet => exact absurd (idle.symm.trans pending) Bool.false_ne_true
  | collects miss held => exact ⟨miss, held⟩
  | completes miss held => exact ⟨miss, held⟩

theorem Stage.sentMisses_step (stage : Stage s h) (env : Environment h i) :
    (sentMisses (AxiArbiter.step s i) (record s i h)).map (fun miss => toAr (missReq miss)) =
      (sentMisses s h).map (fun miss => toAr (missReq miss)) ++
        if readReady s i 0 then [toAr (missReqRdata s i)] else [] := by
  cases ready : readReady s i 0 with
  | true =>
      obtain ⟨miss, held, idle, quiet, same⟩ := stage.sends ready
      have stays := metaRok_of_silent quiet.noMeta (quiet.silent env)
      have pending : (AxiArbiter.step s i).missPendingQ = true := by
        simp [AxiArbiter.step, missReqRok, held.buffer, SyncBuffer.rok, ready, idle]
      have inFlight := (held.keeps stays).inFlight
      have answered : (record s i h).answered = h.answered := by simp [record, stays]
      rw [sentMisses, sentMisses, pending, inFlight, answered, idle, same]
      simp
  | false =>
      cases now : metaRok s i with
      | true =>
          obtain ⟨miss, responds⟩ := stage.responds env now
          have pending := pending_of_responds (i := i) responds.held responds.pending
          have answered : (record s i h).answered = h.answered ++ [(miss, beatsNow s i h)] := by
            simp [record, now, responds.held.inFlight]
          rw [now] at pending
          rw [sentMisses, sentMisses, pending, answered, responds.pending,
            responds.held.inFlight]
          simp
      | false =>
          have same : (AxiArbiter.step s i).missPendingQ = s.missPendingQ := by
            simp [AxiArbiter.step, ready, now]
          have answered : (record s i h).answered = h.answered := by simp [record, now]
          rw [sentMisses, sentMisses, same, answered]
          cases pending : s.missPendingQ with
          | false => simp
          | true =>
              obtain ⟨miss, held⟩ := stage.held_of_pending pending
              rw [(held.keeps now).inFlight, held.inFlight]
              simp

theorem Account.step (account : Account s h) (stage : Stage s h) (env : Environment h i)
    (unique : s.arbiter.gntQ.AtMostOne) : Account (AxiArbiter.step s i) (record s i h) := by
  obtain ⟨icacheSent, dcacheSent, _⟩ := sent_by_id unique env stage.isMiss
  constructor
  · exact stage.accepted_step env account.accepted
  · rw [stage.sentMisses_step env, ← account.sent, ← icacheSent, ← List.filter_append]
    rfl
  · intro entry among
    rcases List.mem_append.mp among with before | new
    · exact account.whole entry before
    · cases now : metaRok s i with
      | false => simp [now] at new
      | true =>
          obtain ⟨miss, responds⟩ := stage.responds env now
          have same : entry = (miss, beatsNow s i h) := by
            simpa [now, responds.held.inFlight] using new
          rw [same]
          exact responds.whole
  · cases now : metaRok s i with
    | false => simp [record, now, account.responses]
    | true =>
        obtain ⟨miss, responds⟩ := stage.responds env now
        simp [record, now, account.responses, responds.held.inFlight, responds.answers]
  · have added : (record s i h).ar = h.ar ++ if sendsAr s i then [arO s i] else [] := rfl
    rw [added, List.filter_append, dcacheSent, account.dcacheSent]
    cases ready : readReady s i 1 <;> simp [record, ready]
  · have same : (dcacheReadRespValid i && i.dcacheReadRespReady) =
        (i.rValid && rReady s i && !toIcache i.r.id) := by
      cases isIcache : toIcache i.r.id <;>
        simp [dcacheReadRespValid, rReady, isIcache]
    simp only [record, same, account.dcacheAnswered, List.map_append]
    split <;> rfl

/-! ## Runs -/

/-- What holds in every state of the port. -/
structure Invariant (state : State cfg × History cfg) : Prop where
  unique : state.1.arbiter.gntQ.AtMostOne
  stage : Stage state.1 state.2
  account : Account state.1 state.2

theorem invariant_reset : Invariant (recorded cfg).reset := by
  refine ⟨Fxarb.gntQ_atMostOne_reset, ?_, ?_⟩
  · exact .empty rfl rfl rfl ⟨rfl, rfl, rfl, rfl, rfl⟩
  · constructor <;>
      simp [recorded, machine, Machine.withHistory, History.initial, sentMisses, reset]

theorem Invariant.step {state : State cfg × History cfg} (holds : Invariant state)
    (env : Environment state.2 i) : Invariant ((recorded cfg).step state i) where
  unique := Fxarb.gntQ_atMostOne_step holds.unique _ _
  stage := holds.stage.step env holds.unique
  account := holds.account.step holds.stage env holds.unique

theorem Invariant.paired {state : State cfg × History cfg} (holds : Invariant state) :
    Paired state.2 := by
  obtain ⟨_, stage, account⟩ := holds
  refine ⟨account.accepted, ?_, account.whole, account.responses, account.dcacheSent,
    account.dcacheAnswered⟩
  cases pending : state.1.missPendingQ with
  | false =>
      refine ⟨state.2.answered.length, Nat.le_refl _, ?_⟩
      rw [account.sent, sentMisses, pending, account.accepted]
      simp
  | true =>
      obtain ⟨miss, held⟩ := stage.held_of_pending pending
      refine ⟨state.2.answered.length + 1, Nat.le_succ _, ?_⟩
      rw [account.sent, sentMisses, pending, account.accepted, held.inFlight,
        List.take_of_length_le (by simp)]
      rfl

end Cva6Hpd.CacheSubsystem.AxiArbiter
