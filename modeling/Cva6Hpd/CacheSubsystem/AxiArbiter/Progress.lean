import Cva6Hpd.CacheSubsystem.AxiArbiter.Account

/-!
# Every miss is answered

A miss waits for at most one read of the data cache, then for its own read, then for its
beats. With a memory that takes the reads and delivers what it owes, it is answered.
-/

namespace Cva6Hpd.CacheSubsystem.AxiArbiter

open Cva6Hpd.Hw
open Cva6Hpd.Common

variable {cfg : Cfg}

/-! ## One cycle -/

section Step

variable {s : State cfg} {i : Input cfg} {h : History cfg}

/-- A bound on the events before the response to the miss in flight. -/
def remaining (s : State cfg) (h : History cfg) : Nat :=
  if s.missPendingQ then h.owed + 1
  else cfg.beats + 2 + if s.arbiter.waitQ && s.arbiter.gntQ 1 then 1 else 0

/-- The memory does not let the miss in flight go on. -/
def Stalls (s : State cfg) (i : Input cfg) (h : History cfg) : Prop :=
  if s.missPendingQ then 0 < h.owed ∧ missRespW i = false
  else arValid s i = true ∧ i.arReady = false

def Advances (s : State cfg) (i : Input cfg) (h : History cfg) : Prop :=
  remaining (step s i) (record s i h) < remaining s h ∨
    remaining (step s i) (record s i h) = remaining s h ∧
      (step s i).missPendingQ = s.missPendingQ ∧ Stalls s i h

theorem lowest_of_first {req : Bits 2} (first : req 0 = true) : req.lowest = Bits.single 0 := by
  apply Bits.oneHot_of_atMostOne (Bits.atMostOne_lowest req)
  simp [Bits.lowest, first]

theorem Held.advances_of_waits {miss : IcacheReq cfg} (held : Held s h miss)
    (idle : s.missPendingQ = false) (quiet : Quiet s h) (env : Environment h i)
    (unique : s.arbiter.gntQ.AtMostOne)
    (holds : Fxarb.Holds s.arbiter fun port => readValid s i port = true) :
    Advances s i h := by
  have first : readValid s i 0 = true := by
    simp [readValid, missReqRok, held.buffer, SyncBuffer.rok, idle]
  have fresh := lowest_of_first first
  obtain ⟨port, granted, requests⟩ :=
    Fxarb.gnt_oneHot holds ((Bits.any_eq_true_iff _).mpr ⟨0, first⟩)
  have valid : arValid s i = true :=
    (Bits.any_eq_true_iff _).mpr ⟨port, by simp [readGnt, granted, requests]⟩
  cases ready : i.arReady with
  | false =>
      have notSent : readReady s i 0 = false := by simp [readReady, ready]
      have pending : (step s i).missPendingQ = false := by simp [step, notSent, idle]
      have same : ((step s i).arbiter.waitQ && (step s i).arbiter.gntQ 1) =
          (s.arbiter.waitQ && s.arbiter.gntQ 1) := by
        have some : (readValid s i).any = true := (Bits.any_eq_true_iff _).mpr ⟨0, first⟩
        cases waiting : s.arbiter.waitQ with
        | true => simp [step, Fxarb.step, Arbiter.waitD, waiting, ready]
        | false =>
            simp [step, Fxarb.step, waiting, ready, some, fresh, Bits.single]
      refine Or.inr ⟨?_, pending.trans idle.symm, ?_⟩
      · rw [remaining, remaining, pending, idle, same]
        rfl
      · rw [Stalls, idle, if_neg Bool.false_ne_true]
        exact ⟨valid, ready⟩
  | true =>
      left
      obtain rfl | rfl : port = 0 ∨ port = 1 := by omega
      · have sent : readReady s i 0 = true := by
          simp [readReady, ready, readGnt, granted, first]
        have stays := metaRok_of_silent quiet.noMeta (quiet.silent env)
        have pending : (step s i).missPendingQ = true := by
          simp [step, missReqRok, held.buffer, SyncBuffer.rok, sent, idle]
        have isMiss : missReqRdata s i = missReq miss := by
          simp [missReqRdata, SyncBuffer.rdata, held.buffer]
        obtain ⟨_, _, brings⟩ := sent_by_id unique env (by simp [isMiss, missReq, held.tid])
        rw [sent, if_pos rfl, isMiss] at brings
        have owed := (quiet.sent env brings).owed
        have beats : (record s i h).beats.length = 0 := by
          simp [record, stays, beatsNow, quiet.beats,
            takesBeat_of_silent (s := s) (quiet.silent env)]
        have bound := len_le miss
        have positive := cfg.beats_pos
        rw [remaining, remaining, pending, idle, if_pos rfl, if_neg Bool.false_ne_true]
        omega
      · have waiting : s.arbiter.waitQ = true := by
          by_contra rests
          rw [Bool.not_eq_true] at rests
          rw [Fxarb.gnt, Arbiter.gntO_of_idle rests, prio1hotEncoder, fresh] at granted
          have same := congrFun granted 0
          simp [Bits.single] at same
        have notSent : readReady s i 0 = false := by
          simp [readReady, readGnt, granted, Bits.single]
        have pending : (step s i).missPendingQ = false := by simp [step, notSent, idle]
        have served : (step s i).arbiter.waitQ = false := by
          simp [step, Fxarb.step, Arbiter.waitD, ready]
        rw [Fxarb.gnt, Arbiter.gntO_of_waiting waiting] at granted
        simp [remaining, pending, idle, served, waiting, granted, Bits.single]

theorem Held.advances_of_collects {miss : IcacheReq cfg} (held : Held s h miss)
    (pending : s.missPendingQ = true) (collects : Collects s h miss) (none : owes s i = 0)
    (stays : metaRok s i = false) : Advances s i h := by
  have still := pending_of_responds (i := i) held pending
  rw [stays] at still
  have owed : (record s i h).owed = if missRespW i then h.owed - 1 else h.owed := by
    simp [record, none, collects.takesBeat_eq]
  have some := collects.some
  cases arrives : missRespW i with
  | false =>
      rw [arrives, if_neg Bool.false_ne_true] at owed
      refine Or.inr ⟨?_, still.trans pending.symm, ?_⟩
      · rw [remaining, remaining, still, pending, owed]
        rfl
      · rw [Stalls, pending, if_pos rfl]
        exact ⟨some, arrives⟩
  | true =>
      rw [arrives, if_pos rfl] at owed
      left
      rw [remaining, remaining, still, pending, owed]
      simp only [Bool.not_false, if_true]
      omega

/-- The miss in flight is answered, or it goes on, or the memory stalls it. -/
theorem Stage.advances (stage : Stage s h) (env : Environment h i)
    (unique : s.arbiter.gntQ.AtMostOne)
    (holds : Fxarb.Holds s.arbiter fun port => readValid s i port = true)
    (inFlight : h.inFlight ≠ none) (stays : metaRok s i = false) : Advances s i h := by
  cases stage with
  | empty free nothing idle quiet => exact absurd nothing inFlight
  | waits miss held idle quiet => exact held.advances_of_waits idle quiet env unique holds
  | collects miss held pending collects =>
      exact held.advances_of_collects pending collects (owes_of_pending unique env pending) stays
  | completes miss held pending completes =>
      have now := (completes.answered env (owes_of_pending unique env pending)).1
      exact absurd (stays.symm.trans now) Bool.false_ne_true

theorem Stage.readValid_stays (stage : Stage s h) (env : Environment h i) {next : Input cfg}
    (stable : i.dcacheReadValid = true → readReady s i 1 = false → next.dcacheReadValid = true)
    (stalled : i.arReady = false) (port : Fin 2) (valid : readValid s i port = true) :
    readValid (AxiArbiter.step s i) next port = true := by
  match port with
  | 0 =>
      have notSent : readReady s i 0 = false := by simp [readReady, stalled]
      cases stage with
      | empty free => simp [readValid, missReqRok, free, SyncBuffer.rok] at valid
      | waits miss held idle quiet =>
          have stays := metaRok_of_silent quiet.noMeta (quiet.silent env)
          have buffer := (held.keeps stays).buffer
          have pending : (AxiArbiter.step s i).missPendingQ = false := by
            simp [AxiArbiter.step, notSent, idle]
          simp [readValid, missReqRok, buffer, SyncBuffer.rok, pending]
      | collects miss held pending => simp [readValid, pending] at valid
      | completes miss held pending => simp [readValid, pending] at valid
  | 1 => exact stable valid (by simp [readReady, stalled])

end Step

/-! ## Endless runs -/

section Endless

variable {inputs : Nat → Input cfg}

/-- The data cache holds its reads until they are taken; the memory takes the reads that are
presented and delivers the beats that it owes. -/
structure Fair (inputs : Nat → Input cfg) : Prop where
  stable : ∀ n, (inputs n).dcacheReadValid = true →
    readReady ((recorded cfg).after inputs n).1 (inputs n) 1 = false →
      (inputs (n + 1)).dcacheReadValid = true
  takes : ∀ n, ∃ m, n ≤ m ∧
    (arValid ((recorded cfg).after inputs m).1 (inputs m) = true → (inputs m).arReady = true)
  delivers : ∀ n, ∃ m, n ≤ m ∧
    (0 < ((recorded cfg).after inputs m).2.owed → missRespW (inputs m) = true)

theorem invariant_after
    (env : ∀ n, Environment ((recorded cfg).after inputs n).2 (inputs n)) (n : Nat) :
    Invariant ((recorded cfg).after inputs n) :=
  (recorded cfg).after_invariant Invariant invariant_reset
    (fun _ _ holds env => holds.step env) env n

theorem Fair.holds (fair : Fair inputs)
    (env : ∀ n, Environment ((recorded cfg).after inputs n).2 (inputs n)) (n : Nat) :
    Fxarb.Holds ((recorded cfg).after inputs n).1.arbiter fun port =>
      readValid ((recorded cfg).after inputs n).1 (inputs n) port = true := by
  induction n with
  | zero => exact Fxarb.holds_reset _
  | succ n inductionHypothesis =>
      exact Fxarb.holds_step inductionHypothesis fun stalled port valid =>
        (invariant_after env n).stage.readValid_stays (env n) (fair.stable n) stalled port valid

/-- The miss with this number is in flight. -/
structure InFlight (inputs : Nat → Input cfg) (number n : Nat) : Prop where
  some : ((recorded cfg).after inputs n).2.inFlight ≠ none
  number : ((recorded cfg).after inputs n).2.answered.length = number

def remainingAt (inputs : Nat → Input cfg) (n : Nat) : Nat :=
  remaining ((recorded cfg).after inputs n).1 ((recorded cfg).after inputs n).2

theorem InFlight.step {number n : Nat} (inFlight : InFlight inputs number n)
    (env : ∀ n, Environment ((recorded cfg).after inputs n).2 (inputs n)) (fair : Fair inputs) :
    number < ((recorded cfg).after inputs (n + 1)).2.answered.length ∨
      InFlight inputs number (n + 1) ∧
        Advances ((recorded cfg).after inputs n).1 (inputs n)
          ((recorded cfg).after inputs n).2 := by
  have holds := invariant_after env n
  have next : ((recorded cfg).after inputs (n + 1)).2 =
      record ((recorded cfg).after inputs n).1 (inputs n) ((recorded cfg).after inputs n).2 := rfl
  cases now : metaRok ((recorded cfg).after inputs n).1 (inputs n) with
  | true =>
      left
      obtain ⟨miss, responds⟩ := holds.stage.responds (env n) now
      rw [next]
      simp [record, now, responds.held.inFlight, inFlight.number]
  | false =>
      right
      refine ⟨⟨?_, ?_⟩, holds.stage.advances (env n) holds.unique (fair.holds env n)
        inFlight.some now⟩
      · rw [next]
        simp only [record, now]
        split
        · exact Option.some_ne_none _
        · exact inFlight.some
      · rw [next]
        simp [record, now, inFlight.number]

/-- From a cycle on, the miss has not advanced. -/
structure StalledSince (inputs : Nat → Input cfg) (number n m : Nat) : Prop where
  inFlight : InFlight inputs number m
  same : remainingAt inputs m = remainingAt inputs n
  pending : ((recorded cfg).after inputs m).1.missPendingQ =
    ((recorded cfg).after inputs n).1.missPendingQ

theorem Fair.not_stalls (fair : Fair inputs) (n : Nat) :
    ∃ m, n ≤ m ∧ (((recorded cfg).after inputs m).1.missPendingQ =
        ((recorded cfg).after inputs n).1.missPendingQ →
      ¬ Stalls ((recorded cfg).after inputs m).1 (inputs m) ((recorded cfg).after inputs m).2) := by
  cases pending : ((recorded cfg).after inputs n).1.missPendingQ with
  | false =>
      obtain ⟨m, later, takes⟩ := fair.takes n
      refine ⟨m, later, fun same stalls => ?_⟩
      rw [Stalls, same, if_neg Bool.false_ne_true] at stalls
      exact Bool.false_ne_true (stalls.2.symm.trans (takes stalls.1))
  | true =>
      obtain ⟨m, later, delivers⟩ := fair.delivers n
      refine ⟨m, later, fun same stalls => ?_⟩
      rw [Stalls, same, if_pos rfl] at stalls
      exact Bool.false_ne_true (stalls.2.symm.trans (delivers stalls.1))

theorem InFlight.progress
    (env : ∀ n, Environment ((recorded cfg).after inputs n).2 (inputs n)) (fair : Fair inputs)
    (number n : Nat) (inFlight : InFlight inputs number n) :
    ∃ m, n ≤ m ∧ (number < ((recorded cfg).after inputs m).2.answered.length ∨
      InFlight inputs number m ∧ remainingAt inputs m < remainingAt inputs n) := by
  have step {m : Nat} (stalled : StalledSince inputs number n m) :
      (number < ((recorded cfg).after inputs (m + 1)).2.answered.length ∨
        InFlight inputs number (m + 1) ∧ remainingAt inputs (m + 1) < remainingAt inputs n) ∨
      (StalledSince inputs number n (m + 1) ∧
        Stalls ((recorded cfg).after inputs m).1 (inputs m)
          ((recorded cfg).after inputs m).2) := by
    rcases stalled.inFlight.step env fair with answered | ⟨again, less | ⟨same, pending, stalls⟩⟩
    · exact .inl (.inl answered)
    · exact .inl (.inr ⟨again, stalled.same ▸ less⟩)
    · exact .inr ⟨⟨again, Eq.trans same stalled.same, Eq.trans pending stalled.pending⟩, stalls⟩
  have reached : ∃ m, n ≤ m ∧
      (number < ((recorded cfg).after inputs (m + 1)).2.answered.length ∨
        InFlight inputs number (m + 1) ∧ remainingAt inputs (m + 1) < remainingAt inputs n) := by
    apply eventually_of_persists (StalledSince inputs number n) ⟨inFlight, rfl, rfl⟩
    · intro m _ stalled
      rcases step stalled with onward | again
      · exact .inl onward
      · exact .inr again.1
    · obtain ⟨m, later, moves⟩ := fair.not_stalls n
      refine ⟨m, later, fun stalled => ?_⟩
      rcases step stalled with onward | again
      · exact onward
      · exact absurd again.2 (moves stalled.pending)
  obtain ⟨m, later, onward⟩ := reached
  exact ⟨m + 1, Nat.le_succ_of_le later, onward⟩

theorem answered_of_inFlight
    (env : ∀ n, Environment ((recorded cfg).after inputs n).2 (inputs n)) (fair : Fair inputs)
    {number n : Nat} (inFlight : InFlight inputs number n) :
    ∃ m, n ≤ m ∧ number < ((recorded cfg).after inputs m).2.answered.length := by
  apply eventually_of_decreases (InFlight inputs number) (remainingAt inputs) _ inFlight
  intro n again
  exact again.progress env fair number n

/-- Whatever the caches request and withdraw, each accepted miss of the instruction cache is
sent once and answered once, in order and by the beats of its own read, and what passes for the
data cache is unchanged and in order; with a fair memory every accepted miss is answered. -/
theorem misses_paired_and_answered (cfg : Cfg) (inputs : Nat → Input cfg)
    (env : ∀ n, Environment ((recorded cfg).after inputs n).2 (inputs n)) :
    (∀ n, Paired ((recorded cfg).after inputs n).2) ∧
      (Fair inputs → ∀ n, ∀ number < ((recorded cfg).after inputs n).2.accepted.length,
        ∃ m, n ≤ m ∧ number < ((recorded cfg).after inputs m).2.answered.length) := by
  refine ⟨fun n => (invariant_after env n).paired, fun fair n number among => ?_⟩
  have accepted := (invariant_after env n).account.accepted
  rcases Nat.lt_or_ge number ((recorded cfg).after inputs n).2.answered.length with done | waits
  · exact ⟨n, Nat.le_refl n, done⟩
  · rw [accepted, List.length_append, List.length_map] at among
    cases inFlight : ((recorded cfg).after inputs n).2.inFlight with
    | none =>
        simp only [inFlight, Option.toList_none, List.length_nil] at among
        omega
    | some miss =>
        simp only [inFlight, Option.toList_some, List.length_singleton] at among
        refine answered_of_inFlight env fair ⟨?_, by omega⟩
        rw [inFlight]
        exact Option.some_ne_none miss

end Endless

/-! ## One miss -/

section OneMiss

/-- A bus of 64 bits, and lines of two words. -/
private def twoBeats : Cfg where
  addrBits := 8
  idBits := 2
  busBits := 0
  beats := 2
  icacheMissId := 1
  busBits_le := by decide
  beats_pos := Nat.two_pos
  beats_le := by decide

private def quietInput : Input twoBeats where
  icacheMissValid := false
  icacheMiss := ⟨0, false, 0⟩
  dcacheReadValid := false
  dcacheRead := .zero
  dcacheReadRespReady := true
  arReady := true
  rValid := false
  r := ⟨0, fun _ => 0, 0, false⟩

/-- A read of the data cache is sent while a miss is accepted; the miss is sent in the next
cycle. The beat for the data cache comes between the two beats for the instruction cache. -/
private def oneMiss : Nat → Input twoBeats
  | 0 => { quietInput with
      icacheMissValid := true
      icacheMiss := ⟨0x40, false, 1⟩
      dcacheReadValid := true
      dcacheRead := { MemReq.zero with id := 2 } }
  | 1 => quietInput
  | 2 => { quietInput with rValid := true, r := ⟨1, fun _ => 10, 0, false⟩ }
  | 3 => { quietInput with rValid := true, r := ⟨2, fun _ => 20, 0, true⟩ }
  | 4 => { quietInput with rValid := true, r := ⟨1, fun _ => 11, 0, true⟩ }
  | _ + 5 => quietInput

private theorem environment_oneMiss :
    ∀ n, Environment ((recorded twoBeats).after oneMiss n).2 (oneMiss n)
  | 0 => ⟨by decide, by decide, by decide⟩
  | 1 => ⟨by decide, by decide, by decide⟩
  | 2 => ⟨by decide, by decide, by decide⟩
  | 3 => ⟨by decide, by decide, by decide⟩
  | 4 => ⟨by decide, by decide, by decide⟩
  | _ + 5 => ⟨nofun, nofun, nofun⟩

private theorem inFlight_oneMiss (n : Nat) :
    ((recorded twoBeats).after oneMiss (n + 6)).2.inFlight = none := by
  induction n with
  | zero => decide
  | succ n inductionHypothesis =>
      change (record _ quietInput _).inFlight = none
      simp [record, acceptsMiss, quietInput, inductionHypothesis]

private theorem fair_oneMiss : Fair oneMiss where
  stable
    | 0 => by decide
    | 1 => nofun
    | 2 => nofun
    | 3 => nofun
    | 4 => nofun
    | _ + 5 => nofun
  takes n := by
    refine ⟨n, Nat.le_refl n, fun _ => ?_⟩
    match n with
    | 0 | 1 | 2 | 3 | 4 | _ + 5 => rfl
  delivers n := by
    refine ⟨n + 6, Nat.le_add_right n 6, fun some => ?_⟩
    have stage := (invariant_after environment_oneMiss (n + 6)).stage
    cases stage with
    | empty free nothing idle quiet => exact absurd quiet.owed some.ne'
    | waits miss held => exact absurd (held.inFlight.symm.trans (inFlight_oneMiss n)) nofun
    | collects miss held => exact absurd (held.inFlight.symm.trans (inFlight_oneMiss n)) nofun
    | completes miss held => exact absurd (held.inFlight.symm.trans (inFlight_oneMiss n)) nofun

theorem misses_paired_and_answered_oneMiss :
    (∀ n, Paired ((recorded twoBeats).after oneMiss n).2) ∧
      ∃ m, 1 ≤ m ∧ 0 < ((recorded twoBeats).after oneMiss m).2.answered.length := by
  have both := misses_paired_and_answered twoBeats oneMiss environment_oneMiss
  exact ⟨both.1, both.2 fair_oneMiss 1 0 (by decide)⟩

end OneMiss

end Cva6Hpd.CacheSubsystem.AxiArbiter
