import Cva6Hpd.Hpdcache.MemReqWrite.Arbiter

/-!
# Bursts in the order of their addresses

The grants that the arbiter remembers are those of the requests whose bursts are not
finished. The data channel is open to the requester of the oldest of them only, so
the bursts come in the order of the requests, each from its requester, and pass the
arbiter unchanged.
-/

namespace Cva6Hpd.Hpdcache.MemReqWriteArbiter

open Cva6Hpd.Hw
open Cva6Hpd.Common

variable {n : Nat} {Req ReqW : Type} {payload : Payload Req ReqW}

/-- The bursts that a sequence of beats finishes. -/
def finished (payload : Payload Req ReqW) (beats : List (Fin n × ReqW)) : Nat :=
  beats.countP fun beat => payload.memReqWLast beat.2

/-- Every beat comes from the owner of its burst: the requester of the request with as
many requests before it as there are bursts finished before the beat. -/
def Owned (payload : Payload Req ReqW) (owners : List (Fin n)) (beats : List (Fin n × ReqW)) :
    Prop :=
  ∀ j (bound : j < beats.length), owners[finished payload (beats.take j)]? = some beats[j].1

theorem Owned.append_requests {owners : List (Fin n)} {beats : List (Fin n × ReqW)}
    (owned : Owned payload owners beats) (more : List (Fin n)) :
    Owned payload (owners ++ more) beats := by
  intro j bound
  have owner := owned j bound
  rw [List.getElem?_append_left (List.getElem?_eq_some_iff.mp owner).1]
  exact owner

theorem Owned.append_beat {owners : List (Fin n)} {beats : List (Fin n × ReqW)}
    (owned : Owned payload owners beats) {beat : Fin n × ReqW}
    (owner : owners[finished payload beats]? = some beat.1) :
    Owned payload owners (beats ++ [beat]) := by
  intro j bound
  rw [List.length_append, List.length_singleton] at bound
  by_cases old : j < beats.length
  · rw [List.getElem_append_left old, List.take_append_of_le_length old.le]
    exact owned j old
  · have last : j = beats.length := by omega
    subst last
    simpa using owner

/-! ## The handshakes of a cycle -/

section Cycle

variable {s : State n Req} {i : Input n Req ReqW}

variable (payload i) in
theorem takenRequests_cases (arb : s.fxarb.gntQ.AtMostOne) :
    ((reqValid s i && memWriteArbReqReady payload s i) = false ∧
        takenRequests payload s i = []) ∨
      ∃ k, (reqValid s i && memWriteArbReqReady payload s i) = true ∧
        memWriteArbReqGnt s i = Bits.single k ∧
        takenRequests payload s i = [(k, i.memReqWrite k)] := by
  cases ready : memWriteArbReqReady payload s i with
  | false =>
      refine .inl ⟨Bool.and_false _, ?_⟩
      rw [takenRequests, Bits.indices_of_none]
      · rfl
      · intro k
        simp [memReqWriteReadyO, ready]
  | true =>
      cases valid : reqValid s i with
      | false =>
          refine .inl ⟨rfl, ?_⟩
          rw [takenRequests, Bits.indices_of_none]
          · rfl
          · intro k
            have none := (Bits.any_eq_false_iff _).mp valid k
            rw [memReqWriteReadyO, ready, Bool.and_true, Bool.and_comm]
            exact none
      | true =>
          obtain ⟨k, granted⟩ := (Bits.any_eq_true_iff _).mp valid
          rw [Bool.and_eq_true] at granted
          have alone : memWriteArbReqGnt s i = Bits.single k :=
            Bits.oneHot_of_atMostOne (Fxarb.gnt_atMostOne arb _) granted.1
          refine .inr ⟨k, rfl, alone, ?_⟩
          have one : (fun j => i.memReqWriteValid j && memReqWriteReadyO payload s i j) =
              Bits.single k := by
            funext j
            rw [memReqWriteReadyO, ready, alone, Bool.and_true, Bool.eq_iff_iff,
              Bool.and_eq_true, Bits.single_eq_true_iff]
            constructor
            · exact And.right
            · rintro rfl
              exact ⟨granted.2, rfl⟩
          rw [takenRequests, one, Bits.indices_single]
          rfl

theorem rok_eq (s : State n Req) (i : Input n Req ReqW) :
    memWriteArbReqRok s i = !decide (s.reqGntFifo.contents = []) := by
  simp [memWriteArbReqRok, FifoRegs.rok, FifoReg.empty_eq_decide]

variable (payload i) in
/-- Without a grant no beat passes. -/
theorem beats_of_none [NeZero n] (none : s.reqGntFifo.contents = []) :
    takenBeats s i = [] ∧ sentBeats payload s i = [] ∧
      (memWriteArbReqR payload s i && memWriteArbReqRok s i) = false := by
  have empty : memWriteArbReqRok s i = false := by simp [rok_eq, none]
  refine ⟨?_, ?_, ?_⟩
  · rw [takenBeats, Bits.indices_of_none]
    · rfl
    · intro k
      simp [memReqWriteDataReadyO, empty]
  · simp [sentBeats, memReqWriteDataValidO, empty]
  · rw [empty, Bool.and_false]

variable (payload i) in
theorem beats_of_grant [NeZero n] {k : Fin n} {rest : List (Bits n)}
    (oldest : s.reqGntFifo.contents = Bits.single k :: rest) :
    takenBeats s i =
        (if i.memReqWriteDataValid k && i.memReqWriteDataReady then [(k, i.memReqWriteData k)]
        else []) ∧
      sentBeats payload s i = (takenBeats s i).map Prod.snd ∧
      (memWriteArbReqR payload s i && memWriteArbReqRok s i) =
        (i.memReqWriteDataValid k && i.memReqWriteDataReady &&
          payload.memReqWLast (i.memReqWriteData k)) := by
  have some : memWriteArbReqRok s i = true := by simp [rok_eq, oldest]
  have grant : memWriteArbReqGntQ s i = Bits.single k :=
    FifoReg.rdata_of_cons oldest false _
  have pick (f : Fin n → Bool) :
      (Bits.any fun j => memWriteArbReqGntQ s i j && f j) = f k := by
    rw [Bool.eq_iff_iff, Bits.any_eq_true_iff, grant]
    constructor
    · rintro ⟨j, hit⟩
      rw [Bool.and_eq_true, Bits.single_eq_true_iff] at hit
      obtain ⟨rfl, set⟩ := hit
      exact set
    · exact fun set => ⟨k, by rw [Bits.single_self, set]; rfl⟩
  have valid : reqDataValid s i = i.memReqWriteDataValid k := pick _
  have last : reqDataLast payload s i = payload.memReqWLast (i.memReqWriteData k) :=
    pick fun j => payload.memReqWLast (i.memReqWriteData j)
  have taken : takenBeats s i =
      if i.memReqWriteDataValid k && i.memReqWriteDataReady then [(k, i.memReqWriteData k)]
      else [] := by
    split_ifs with handshake
    · rw [Bool.and_eq_true] at handshake
      have one : (fun j => i.memReqWriteDataValid j && memReqWriteDataReadyO s i j) =
          Bits.single k := by
        funext j
        rw [memReqWriteDataReadyO, some, grant, handshake.2, Bool.eq_iff_iff]
        simp only [Bool.and_true, Bool.and_eq_true, Bits.single_eq_true_iff]
        constructor
        · exact And.right
        · rintro rfl
          exact ⟨handshake.1, rfl⟩
      rw [takenBeats, one, Bits.indices_single]
      rfl
    · rw [takenBeats, Bits.indices_of_none]
      · rfl
      · intro j
        rw [Bool.eq_false_iff]
        intro accepted
        rw [memReqWriteDataReadyO, some, grant] at accepted
        simp only [Bool.and_true, Bool.and_eq_true, Bits.single_eq_true_iff] at accepted
        obtain ⟨set, rfl, ready⟩ := accepted
        exact handshake (by rw [set, ready]; rfl)
  refine ⟨taken, ?_, ?_⟩
  · rw [taken, sentBeats, memReqWriteDataValidO, valid, some, Bool.and_true, Bool.and_comm,
      memReqWriteDataO, grant, muxOneHot_single]
    split_ifs <;> rfl
  · rw [memWriteArbReqR, valid, last, some, Bool.and_true,
      Bool.and_comm i.memReqWriteDataReady]

end Cycle

/-! ## Runs -/

/-- The requesters of the requests taken so far. -/
def Log.owners (log : Log n Req ReqW) : List (Fin n) := log.requests.map Prod.fst

/-- The remembered grants are those of the unfinished bursts, and the requests and
beats are those that the memory takes. -/
structure Routed (payload : Payload Req ReqW) (s : State n Req) (log : Log n Req ReqW) :
    Prop where
  arb : s.fxarb.gntQ.AtMostOne
  addresses : log.sentRequests ++ s.reqFifo.contents = log.requests.map Prod.snd
  grants : s.reqGntFifo.contents =
    (log.owners.drop (finished payload log.beats)).map Bits.single
  started : finished payload log.beats ≤ log.owners.length
  owned : Owned payload log.owners log.beats
  unchanged : log.sentBeats = log.beats.map Prod.snd

section Step

variable [NeZero n] {s : State n Req} {log : Log n Req ReqW} {i : Input n Req ReqW}

theorem Routed.addresses_step (routed : Routed payload s log) :
    (record payload s i log).sentRequests ++ (step payload s i).reqFifo.contents =
      (record payload s i log).requests.map Prod.snd := by
  have edge := s.reqFifo.contents_conserved true (memReqWriteW payload s i)
    (memReqWrite payload s i) i.memReqWriteReady
  have writes : (memReqWriteW payload s i && s.reqFifo.wok true i.memReqWriteReady) =
      (reqValid s i && memWriteArbReqReady payload s i) := by
    rw [memReqWriteW, memWriteArbReqReady, memReqWriteWok, Bool.and_assoc]
  have added : (if reqValid s i && memWriteArbReqReady payload s i then [memReqWrite payload s i]
      else []) = (takenRequests payload s i).map Prod.snd := by
    rcases takenRequests_cases payload i routed.arb with
      ⟨idle, none⟩ | ⟨k, takes, granted, one⟩
    · rw [idle, none]
      rfl
    · rw [takes, one, memReqWrite, granted, muxOneHot_single]
      rfl
  rw [writes, added] at edge
  simp only [record, List.map_append]
  rw [List.append_assoc, ← routed.addresses, List.append_assoc]
  exact congrArg _ edge.symm

theorem Routed.grants_conserved (routed : Routed payload s log) :
    s.reqGntFifo.contents ++
        ((takenRequests payload s i).map Prod.fst).map Bits.single =
      (if memWriteArbReqR payload s i && memWriteArbReqRok s i then [memWriteArbReqGntQ s i]
        else []) ++ (step payload s i).reqGntFifo.contents := by
  have edge := s.reqGntFifo.contents_conserved false (memWriteArbReqW s i)
    (memWriteArbReqGnt s i) (memWriteArbReqR payload s i)
  have writes : (memWriteArbReqW s i && s.reqGntFifo.wok false (memWriteArbReqR payload s i)) =
      (reqValid s i && memWriteArbReqReady payload s i) := by
    rw [memWriteArbReqW, memWriteArbReqReady, memWriteArbReqWok, Bool.and_assoc,
      Bool.and_comm (memReqWriteWok s i)]
  have added : (if reqValid s i && memWriteArbReqReady payload s i then [memWriteArbReqGnt s i]
      else []) = ((takenRequests payload s i).map Prod.fst).map Bits.single := by
    rcases takenRequests_cases payload i routed.arb with
      ⟨idle, none⟩ | ⟨k, takes, granted, one⟩
    · rw [idle, none]
      rfl
    · rw [takes, one, granted]
      rfl
  rw [writes, added] at edge
  exact edge

omit [NeZero n] in
theorem Routed.owner_of_grant (routed : Routed payload s log) {grant : Bits n}
    {rest : List (Bits n)} (oldest : s.reqGntFifo.contents = grant :: rest) :
    ∃ k, log.owners[finished payload log.beats]? = some k ∧ grant = Bits.single k ∧
      rest = (log.owners.drop (finished payload log.beats + 1)).map Bits.single := by
  rw [routed.grants] at oldest
  cases owners : log.owners.drop (finished payload log.beats) with
  | nil => rw [owners] at oldest; contradiction
  | cons k others =>
      rw [owners, List.map_cons] at oldest
      rcases List.cons.inj oldest with ⟨same, more⟩
      have head : log.owners[finished payload log.beats]? = some k := by
        rw [← List.head?_drop, owners]
        rfl
      refine ⟨k, head, same.symm, ?_⟩
      rw [← List.drop_drop, owners, ← more]
      rfl

omit [NeZero n] in
theorem finished_append (first second : List (Fin n × ReqW)) :
    finished payload (first ++ second) = finished payload first + finished payload second :=
  List.countP_append

theorem Routed.step (routed : Routed payload s log) :
    Routed payload (step payload s i) (record payload s i log) := by
  have conserved := routed.grants_conserved (i := i)
  have owners : (record payload s i log).owners =
      log.owners ++ (takenRequests payload s i).map Prod.fst := List.map_append
  have kept := routed.owned.append_requests ((takenRequests payload s i).map Prod.fst)
  cases stored : s.reqGntFifo.contents with
  | nil =>
      rcases beats_of_none payload i stored with ⟨noBeat, noSent, stays⟩
      have beats : (record payload s i log).beats = log.beats := by
        rw [record, noBeat, List.append_nil]
      have all : log.owners.length ≤ finished payload log.beats := by
        rw [← List.drop_eq_nil_iff, ← List.map_eq_nil_iff, ← routed.grants, stored]
      refine ⟨Fxarb.gntQ_atMostOne_step routed.arb _ _, routed.addresses_step, ?_, ?_, ?_, ?_⟩
      · rw [stored, stays, List.nil_append] at conserved
        rw [beats, owners, List.drop_append, List.drop_eq_nil_of_le all, List.nil_append,
          Nat.sub_eq_zero_of_le routed.started, List.drop_zero, conserved]
        rfl
      · rw [beats, owners, List.length_append]
        exact Nat.le_add_right_of_le routed.started
      · rw [beats, owners]
        exact kept
      · rw [beats, record, noSent, List.append_nil]
        exact routed.unchanged
  | cons grant rest =>
      obtain ⟨k, owner, rfl, others⟩ := routed.owner_of_grant stored
      rcases beats_of_grant payload i stored with ⟨taken, sent, ends⟩
      have bound : finished payload log.beats < log.owners.length :=
        (List.getElem?_eq_some_iff.mp owner).1
      have grantQ : memWriteArbReqGntQ s i = Bits.single k := FifoReg.rdata_of_cons stored false _
      have owner' : (record payload s i log).owners[finished payload log.beats]? = some k := by
        rw [owners, List.getElem?_append_left bound]
        exact owner
      have count : finished payload (record payload s i log).beats =
          finished payload log.beats +
            if memWriteArbReqR payload s i && memWriteArbReqRok s i then 1 else 0 := by
        rw [record, finished_append, ends, taken]
        congr 1
        cases i.memReqWriteDataValid k && i.memReqWriteDataReady <;>
          simp [finished, List.countP_cons]
      refine ⟨Fxarb.gntQ_atMostOne_step routed.arb _ _, routed.addresses_step, ?_, ?_, ?_, ?_⟩
      · rw [stored, grantQ, others] at conserved
        rw [count, owners]
        split_ifs at conserved ⊢ with last
        · rw [List.drop_append_of_le_length bound, List.map_append]
          exact (List.cons.inj conserved).2.symm
        · rw [Nat.add_zero, List.drop_append_of_le_length bound.le, List.map_append,
            ← routed.grants, stored, others]
          exact conserved.symm
      · rw [count, owners, List.length_append]
        split_ifs <;> omega
      · rw [record, taken]
        split_ifs
        · exact (owners ▸ kept).append_beat owner'
        · rw [List.append_nil]
          exact owners ▸ kept
      · simp only [record, sent, List.map_append, routed.unchanged]

end Step

/-- The addresses and the beats that the memory took are those of the requesters, in
their order; every beat comes from the owner of its burst; and a burst is not left
before its last beat. -/
structure Ordered (payload : Payload Req ReqW) (log : Log n Req ReqW) : Prop where
  addresses : log.sentRequests <+: log.requests.map Prod.snd
  beats : log.sentBeats = log.beats.map Prod.snd
  owned : Owned payload log.owners log.beats
  whole : ∀ j (bound : j + 1 < log.beats.length),
    payload.memReqWLast log.beats[j].2 = false → log.beats[j + 1].1 = log.beats[j].1

theorem Owned.whole {owners : List (Fin n)} {beats : List (Fin n × ReqW)}
    (owned : Owned payload owners beats) {j : Nat} (bound : j + 1 < beats.length)
    (more : payload.memReqWLast (beats[j]).2 = false) : beats[j + 1].1 = beats[j].1 := by
  have first := owned j (Nat.lt_of_succ_lt bound)
  have second := owned (j + 1) bound
  have same : finished payload (beats.take (j + 1)) = finished payload (beats.take j) := by
    rw [List.take_succ_eq_append_getElem (Nat.lt_of_succ_lt bound), finished_append]
    simp [finished, more]
  rw [same, first] at second
  exact (Option.some.inj second).symm

theorem Routed.ordered {s : State n Req} {log : Log n Req ReqW}
    (routed : Routed payload s log) : Ordered payload log where
  addresses := ⟨_, routed.addresses⟩
  beats := routed.unchanged
  owned := routed.owned
  whole _ bound more := routed.owned.whole bound more

end Cva6Hpd.Hpdcache.MemReqWriteArbiter
