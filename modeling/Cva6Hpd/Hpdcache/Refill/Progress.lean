import Cva6Hpd.Hpdcache.Refill.Data

/-!
# Progress of the refill path

The metadata of a burst are queued with its last beat, and its data are read
from the resizer only afterwards. The beats are all accepted when the resizer
can hold a whole line: a blocked beat then implies that an older burst is
complete, and its refill makes room. When a line has more entries than the
resizer, the first burst blocks before its last beat, for ever.
-/

namespace Cva6Hpd.Hpdcache.Refill

open Cva6Hpd.Hw
open Cva6Hpd.Common

variable {cfg : Cfg} {widths : Widths cfg}

/-- The entries of the resizer that a line takes. -/
def lineEntries (widths : Widths cfg) : Nat :=
  widths.lineReqs / max widths.memReqs widths.accessReqs

/-- The resizer can hold a line. -/
def LineFits (widths : Widths cfg) : Prop := lineEntries widths ≤ cfg.refillFifoDepth

instance decidableLineFits (widths : Widths cfg) : Decidable (LineFits widths) :=
  inferInstanceAs (Decidable (_ ≤ _))

/-- An endless run of the refill path in its environment: the memory answers
with whole lines and offers a beat until it is taken, and a refill request is
eventually granted. -/
structure Served (powerUp : Sram cfg.mshrSets cfg.mshrWays (Mshr.Entry cfg))
    (inputs : Nat → Input widths) : Prop where
  whole : ∀ n, WholeLines ((recorded widths powerUp).after inputs n) (inputs n)
  held : ∀ n, offersBeat (inputs n) = true →
    takesBeat ((recorded widths powerUp).after inputs n).1 (inputs n) = false →
    offersBeat (inputs (n + 1)) = true
  granted : ∀ n,
    MissHandler.refillReqValid ((recorded widths powerUp).after inputs n).1.miss = true →
    ∃ m, n ≤ m ∧ (inputs m).ports.refillReqReady = true

/-- Every beat that the memory offers is eventually taken. -/
def Progresses (widths : Widths cfg) : Prop :=
  ∀ (powerUp : Sram cfg.mshrSets cfg.mshrWays (Mshr.Entry cfg))
    (inputs : Nat → Input widths), Served powerUp inputs →
    ∀ n, offersBeat (inputs n) = true →
      ∃ m, n ≤ m ∧ takesBeat ((recorded widths powerUp).after inputs m).1 (inputs m) = true

/-! ## Room in the resizer -/

theorem max_dvd_lineReqs (widths : Widths cfg) :
    max widths.memReqs widths.accessReqs ∣ widths.lineReqs := by
  rcases Nat.le_total widths.memReqs widths.accessReqs with wide | wide
  · rw [Nat.max_eq_right wide]
    exact widths.access_dvd
  · rw [Nat.max_eq_left wide]
    exact widths.mem_dvd

theorem entries_lt_lineEntries (widths : Widths cfg) {beats : Nat}
    (more : beats < widths.lineBeats) :
    DataResize.entries widths.memReqs widths.accessReqs (beats * widths.memReqs) <
      lineEntries widths := by
  have positive : 0 < max widths.memReqs widths.accessReqs :=
    Nat.lt_of_lt_of_le widths.memReqs_pos (Nat.le_max_left _ _)
  have width := widths.memReqs_pos
  have part : beats * widths.memReqs + widths.memReqs ≤ widths.lineReqs := by
    rw [← Nat.succ_mul, ← widths.lineBeats_mul]
    exact Nat.mul_le_mul_right _ more
  rw [DataResize.entries, lineEntries, Nat.div_lt_iff_lt_mul positive,
    Nat.div_mul_cancel (max_dvd_lineReqs widths)]
  omega

/-! ## A refill ends -/

section Runs

variable {powerUp : Sram cfg.mshrSets cfg.mshrWays (Mshr.Entry cfg)}
  {inputs : Nat → Input widths}

/-- The state before cycle `n`, with its ledger. -/
abbrev before (powerUp : Sram cfg.mshrSets cfg.mshrWays (Mshr.Entry cfg))
    (inputs : Nat → Input widths) (n : Nat) : State widths × Ledger widths :=
  (recorded widths powerUp).after inputs n

/-- Metadata are consumed in cycle `n`. -/
def pops (powerUp : Sram cfg.mshrSets cfg.mshrWays (Mshr.Entry cfg))
    (inputs : Nat → Input widths) (n : Nat) : Prop :=
  (out (before powerUp inputs n).1 (inputs n)).refillFifoRespMetaR = true

theorem Served.invariants (served : Served powerUp inputs) (n : Nat) :
    Tracked (before powerUp inputs n).1 (before powerUp inputs n).2 ∧
      Stored (before powerUp inputs n).1 (before powerUp inputs n).2 :=
  (recorded widths powerUp).after_invariant (fun s => Tracked s.1 s.2 ∧ Stored s.1 s.2)
    ⟨Tracked.reset powerUp, Stored.reset powerUp⟩
    (fun _ input both whole => ⟨both.1.step input, both.2.step input both.1 whole⟩)
    served.whole n

theorem turn_before (powerUp : Sram cfg.mshrSets cfg.mshrWays (Mshr.Entry cfg))
    (inputs : Nat → Input widths) (n : Nat) :
    MissHandler.Turn (before powerUp inputs n).1.miss
      (missInput (before powerUp inputs n).1 (inputs n))
      (out (before powerUp inputs n).1 (inputs n)) :=
  MissHandler.turn _ _

theorem fsm_after (n : Nat) :
    (before powerUp inputs (n + 1)).1.miss.refillFsmQ =
      (out (before powerUp inputs n).1 (inputs n)).refillFsmD :=
  rfl

theorem cnt_after (n : Nat) :
    (before powerUp inputs (n + 1)).1.miss.refillCntQ =
      (out (before powerUp inputs n).1 (inputs n)).refillCntD :=
  rfl

theorem pops_of_writeDir {n : Nat}
    (directory : (before powerUp inputs n).1.miss.refillFsmQ = .refillWriteDir) :
    pops powerUp inputs n := by
  have turn := turn_before powerUp inputs n
  cases turn with
  | writeDir fsm next pops => exact pops
  | _ => simp_all

theorem pops_of_inval {n : Nat}
    (inval : (before powerUp inputs n).1.miss.refillFsmQ = .refillInval) :
    pops powerUp inputs n := by
  have turn := turn_before powerUp inputs n
  cases turn with
  | inval fsm next pops => exact pops
  | _ => simp_all

theorem pops_of_writing (left : Nat) {n k : Nat}
    (writing : (before powerUp inputs n).1.miss.refillFsmQ = .refillWrite)
    (at_k : (before powerUp inputs n).1.miss.refillCntQ = k * cfg.accessWords)
    (rest : k + left + 1 = widths.lineAccesses) :
    ∃ m, n ≤ m ∧ pops powerUp inputs m := by
  induction left generalizing n k with
  | zero =>
      have turn := turn_before powerUp inputs n
      cases turn with
      | chunk fsm more =>
          refine absurd ?_ more
          rw [at_k, lastChunkWord_eq widths]
          congr 1
          omega
      | onlyChunk fsm last only next =>
          have directory := (fsm_after n).trans next
          exact ⟨n + 1, Nat.le_succ n, pops_of_writeDir directory⟩
      | lastChunk fsm last several next pops => exact ⟨n, Nat.le_refl n, pops⟩
      | _ => simp_all
  | succ left inductionHypothesis =>
      have turn := turn_before powerUp inputs n
      have notLast : (before powerUp inputs n).1.miss.refillCntQ ≠
          MissHandler.lastChunkWord cfg := by
        rw [at_k, lastChunkWord_eq widths]
        intro same
        have equal := Nat.eq_of_mul_eq_mul_right cfg.accessWords_pos same
        omega
      cases turn with
      | chunk fsm more next cnt =>
          have next := (fsm_after n).trans next
          have cnt : (before powerUp inputs (n + 1)).1.miss.refillCntQ =
              (k + 1) * cfg.accessWords := by
            rw [cnt_after, cnt, at_k, Nat.succ_mul]
          rcases inductionHypothesis next cnt (by omega) with ⟨m, later, pops⟩
          exact ⟨m, by omega, pops⟩
      | onlyChunk fsm last => exact absurd last notLast
      | lastChunk fsm last => exact absurd last notLast
      | _ => simp_all

theorem Served.eventually_pops (served : Served powerUp inputs) {n : Nat}
    (queued : ∀ m, n ≤ m → (before powerUp inputs m).1.miss.respMetaFifo.contents ≠ []) :
    ∃ m, n ≤ m ∧ pops powerUp inputs m := by
  -- A refill or an invalidation in progress ends by itself.
  have ofBusy {m : Nat} (later : n ≤ m)
      (busy : (before powerUp inputs m).1.miss.refillFsmQ ≠ .refillIdle) :
      ∃ m, n ≤ m ∧ pops powerUp inputs m := by
    cases fsm : (before powerUp inputs m).1.miss.refillFsmQ with
    | refillIdle => exact absurd fsm busy
    | refillWrite =>
        rcases (served.invariants m).2.count fsm with ⟨k, inside, at_k⟩
        rcases pops_of_writing (widths.lineAccesses - k - 1) fsm at_k (by omega) with
          ⟨last, after, pops⟩
        exact ⟨last, by omega, pops⟩
    | refillWriteDir => exact ⟨m, later, pops_of_writeDir fsm⟩
    | refillInval => exact ⟨m, later, pops_of_inval fsm⟩
  by_cases idle : (before powerUp inputs n).1.miss.refillFsmQ = .refillIdle
  · -- The state machine asks until it is granted.
    have requests {m : Nat} (later : n ≤ m)
        (idle : (before powerUp inputs m).1.miss.refillFsmQ = .refillIdle) :
        MissHandler.refillReqValid (before powerUp inputs m).1.miss = true := by
      simp only [MissHandler.refillReqValid, idle, decide_true, Bool.true_and]
      exact (respMetaRok_iff _).mpr (queued m later)
    have leaves : ∃ m, n ≤ m ∧
        (before powerUp inputs (m + 1)).1.miss.refillFsmQ ≠ .refillIdle := by
      apply eventually_of_persists (fun m =>
        (before powerUp inputs m).1.miss.refillFsmQ = .refillIdle) idle
      · intro m later _
        exact (Classical.em _).symm
      · rcases served.granted n (requests (Nat.le_refl n) idle) with ⟨m, later, granted⟩
        refine ⟨m, later, fun idle => ?_⟩
        have turn := turn_before powerUp inputs m
        have filled := (respMetaRok_iff _).mpr (queued m later)
        rw [fsm_after]
        cases turn with
        | wait fsm held =>
            rcases held with empty | refused
            · rw [filled] at empty
              exact Bool.noConfusion empty
            · rw [missInput, granted] at refused
              exact Bool.noConfusion refused
        | startInval fsm filled inval next => simp [next]
        | startRefill fsm filled granted refill next => simp [next]
        | _ => simp_all
    rcases leaves with ⟨m, later, busy⟩
    exact ofBusy (Nat.le_succ_of_le later) busy
  · exact ofBusy (Nat.le_refl n) idle

/-! ## A blocked beat waits for an older burst -/

theorem Served.queued_of_refused (served : Served powerUp inputs) (fits : LineFits widths)
    {n : Nat} (offers : offersBeat (inputs n) = true)
    (refused : takesBeat (before powerUp inputs n).1 (inputs n) = false) :
    (before powerUp inputs n).1.miss.respMetaFifo.contents ≠ [] := by
  intro empty
  rcases served.invariants n with ⟨tracked, stored⟩
  have idle : (before powerUp inputs n).1.miss.refillFsmQ = .refillIdle := by
    by_contra busy
    exact tracked.busy busy empty
  have none : (before powerUp inputs n).2.pending = [] := by
    have metas := tracked.metas
    rw [empty] at metas
    exact List.map_eq_nil_iff.mp metas.symm
  have held : (before powerUp inputs n).1.dataResize.contents.length =
      (before powerUp inputs n).2.arriving.length * widths.memReqs := by
    rw [stored.data, Ledger.stream, none, List.flatMap_nil, List.nil_append, consumed, idle,
      List.drop_zero, length_words]
  have room : (before powerUp inputs n).1.dataResize.wok = true := by
    rw [DataResize.wok_eq_decide widths.fits, decide_eq_true_eq, held]
    exact Nat.lt_of_lt_of_le (entries_lt_lineEntries widths stored.short) fits
  have metaRoom : respMetaWok (before powerUp inputs n).1 = true := by
    simp only [respMetaWok, FifoRegs.wok, FifoReg.full_eq_decide, empty, Bool.false_and,
      Bool.or_false, Bool.not_eq_true', decide_eq_false_iff_not, List.length_nil]
    exact Nat.ne_of_lt cfg.refillFifoDepth_pos
  simp only [offersBeat, Bool.and_eq_true, Bool.not_eq_true'] at offers
  simp [takesBeat, offersBeat, memRespReady, offers, room, metaRoom] at refused

theorem newMetas_of_refused {state : State widths} {input : Input widths}
    (offers : offersBeat input = true) (refused : takesBeat state input = false) :
    newMetas state input = [] := by
  simp only [offersBeat, Bool.and_eq_true, Bool.not_eq_true'] at offers
  simp [newMetas, refused, offers]

theorem Served.progress (served : Served powerUp inputs) (fits : LineFits widths) {n : Nat}
    (offers : offersBeat (inputs n) = true) :
    ∃ m, n ≤ m ∧ takesBeat (before powerUp inputs m).1 (inputs m) = true := by
  by_contra never
  have refused {m : Nat} (later : n ≤ m) :
      takesBeat (before powerUp inputs m).1 (inputs m) = false := by
    rw [Bool.eq_false_iff]
    exact fun taken => never ⟨m, later, taken⟩
  have offered (steps : Nat) : offersBeat (inputs (n + steps)) = true := by
    induction steps with
    | zero => exact offers
    | succ steps inductionHypothesis =>
        exact served.held (n + steps) inductionHypothesis (refused (Nat.le_add_right n steps))
  have offers {m : Nat} (later : n ≤ m) : offersBeat (inputs m) = true := by
    have here := offered (m - n)
    rwa [Nat.add_sub_cancel' later] at here
  have queued (m : Nat) (later : n ≤ m) :=
    served.queued_of_refused fits (offers later) (refused later)
  have edge (m : Nat) (later : n ≤ m) :
      (before powerUp inputs (m + 1)).1.miss.respMetaFifo.contents =
        if (out (before powerUp inputs m).1 (inputs m)).refillFifoRespMetaR then
          (before powerUp inputs m).1.miss.respMetaFifo.contents.tail
        else (before powerUp inputs m).1.miss.respMetaFifo.contents := by
    have stepped := metas_step (before powerUp inputs m).1 (inputs m)
    rw [newMetas_of_refused (offers later) (refused later), List.append_nil] at stepped
    exact stepped
  have shorter {first : Nat} (later : n ≤ first) (steps : Nat) :
      (before powerUp inputs (first + steps)).1.miss.respMetaFifo.contents.length ≤
        (before powerUp inputs first).1.miss.respMetaFifo.contents.length := by
    induction steps with
    | zero => exact Nat.le_refl _
    | succ steps inductionHypothesis =>
        refine Nat.le_trans ?_ inductionHypothesis
        rw [← Nat.add_assoc, edge (first + steps) (by omega)]
        split_ifs
        · rw [List.length_tail]
          exact Nat.sub_le _ _
        · exact Nat.le_refl _
  -- The queue of metadata can only shrink, and does so again and again.
  have shrinks (length : Nat) : ∀ m, n ≤ m →
      (before powerUp inputs m).1.miss.respMetaFifo.contents.length ≤ length → False := by
    induction length with
    | zero =>
        intro m later none
        exact queued m later (List.length_eq_zero_iff.mp (Nat.le_zero.mp none))
    | succ length inductionHypothesis =>
        intro m later bound
        rcases served.eventually_pops fun j after => queued j (Nat.le_trans later after) with
          ⟨last, after, popped⟩
        refine inductionHypothesis (last + 1) (by omega) ?_
        have fewer := shorter later (last - m)
        rw [Nat.add_sub_cancel' after] at fewer
        rw [pops] at popped
        rw [edge last (by omega), if_pos popped, List.length_tail]
        omega
  exact shrinks _ n (Nat.le_refl n) (Nat.le_refl _)

end Runs

/-! ## A line that does not fit -/

/-- The beats that the resizer can hold. -/
def capacity (widths : Widths cfg) : Nat :=
  cfg.refillFifoDepth * max widths.memReqs widths.accessReqs / widths.memReqs

/-- A memory that answers one read, of which the resizer takes as many beats as
it can hold. -/
def oneBurst (widths : Widths cfg) (n : Nat) : Input widths :=
  { Input.quiet widths with
    ports := { (Input.quiet widths).ports with
      memRespValid := true
      memRespLast := decide (min n (capacity widths) + 1 = widths.lineBeats) } }

theorem capacity_mul (widths : Widths cfg) :
    capacity widths * widths.memReqs =
      cfg.refillFifoDepth * max widths.memReqs widths.accessReqs := by
  have divides : widths.memReqs ∣ max widths.memReqs widths.accessReqs := by
    rcases Nat.lt_or_ge widths.memReqs widths.accessReqs with narrow | wide
    · rw [Nat.max_eq_right (Nat.le_of_lt narrow)]
      exact widths.fits.of_lt narrow
    · rw [Nat.max_eq_left wide]
  exact Nat.div_mul_cancel (Dvd.dvd.mul_left divides _)

theorem capacity_lt (long : ¬LineFits widths) : capacity widths < widths.lineBeats := by
  have positive : 0 < max widths.memReqs widths.accessReqs :=
    Nat.lt_of_lt_of_le widths.memReqs_pos (Nat.le_max_left _ _)
  have more : cfg.refillFifoDepth * max widths.memReqs widths.accessReqs < widths.lineReqs := by
    rw [LineFits, lineEntries, Nat.not_le, Nat.lt_div_iff_mul_lt_of_dvd
      (Nat.ne_of_gt positive) (max_dvd_lineReqs widths)] at long
    exact long
  rw [← capacity_mul, ← widths.lineBeats_mul] at more
  exact Nat.lt_of_mul_lt_mul_right more

theorem entries_lt_iff (widths : Widths cfg) (beats : Nat) :
    DataResize.entries widths.memReqs widths.accessReqs (beats * widths.memReqs) <
        cfg.refillFifoDepth ↔ beats < capacity widths := by
  have positive : 0 < max widths.memReqs widths.accessReqs :=
    Nat.lt_of_lt_of_le widths.memReqs_pos (Nat.le_max_left _ _)
  have width := widths.memReqs_pos
  rw [DataResize.entries, Nat.div_lt_iff_lt_mul positive, ← capacity_mul]
  constructor
  · intro room
    exact Nat.lt_of_mul_lt_mul_right (a := widths.memReqs) (by omega)
  · intro room
    have next : (beats + 1) * widths.memReqs ≤ capacity widths * widths.memReqs :=
      Nat.mul_le_mul_right _ room
    rw [Nat.succ_mul] at next
    omega

/-- The burst fills the resizer, and its metadata are never queued. -/
structure Filling (n : Nat) (state : State widths) (ledger : Ledger widths) : Prop where
  tracked : Tracked state ledger
  stored : Stored state ledger
  queue : state.miss.respMetaFifo.contents = []
  pending : ledger.pending = []
  arriving : ledger.arriving.length = min n (capacity widths)

section Block

variable {n : Nat} {state : State widths} {ledger : Ledger widths}

theorem Filling.whole (filling : Filling n state ledger) :
    WholeLines (state, ledger) (oneBurst widths n) := by
  intro _
  simp [oneBurst, filling.arriving]

theorem Filling.takesBeat_eq (filling : Filling n state ledger) :
    takesBeat state (oneBurst widths n) = decide (n < capacity widths) := by
  have idle : state.miss.refillFsmQ = .refillIdle := by
    by_contra busy
    exact filling.tracked.busy busy filling.queue
  have held : state.dataResize.contents.length =
      ledger.arriving.length * widths.memReqs := by
    rw [filling.stored.data, Ledger.stream, filling.pending, List.flatMap_nil,
      List.nil_append, consumed, idle, List.drop_zero, length_words]
  have room : state.dataResize.wok = decide (n < capacity widths) := by
    rw [DataResize.wok_eq_decide widths.fits, held, filling.arriving, Bool.eq_iff_iff,
      decide_eq_true_eq, decide_eq_true_eq, entries_lt_iff]
    omega
  have metaRoom : respMetaWok state = true := by
    simp only [respMetaWok, FifoRegs.wok, FifoReg.full_eq_decide, filling.queue,
      Bool.false_and, Bool.or_false, Bool.not_eq_true', decide_eq_false_iff_not,
      List.length_nil]
    exact Nat.ne_of_lt cfg.refillFifoDepth_pos
  simp [takesBeat, offersBeat, memRespReady, oneBurst, Input.quiet, room, metaRoom]

theorem Filling.step (filling : Filling n state ledger) (long : ¬LineFits widths) :
    Filling (n + 1) (step state (oneBurst widths n))
      (ledger.record state (oneBurst widths n)) := by
  have takes := filling.takesBeat_eq
  have short := capacity_lt long
  have unfinished : (takesBeat state (oneBurst widths n) &&
      (oneBurst widths n).ports.memRespLast) = false := by
    rw [takes, Bool.and_eq_false_iff, decide_eq_false_iff_not]
    by_cases below : n < capacity widths
    · refine Or.inr ?_
      simp only [oneBurst, decide_eq_false_iff_not]
      omega
    · exact Or.inl below
  have noMetas : newMetas state (oneBurst widths n) = [] := by
    have response : (oneBurst widths n).ports.memRespInval = false := rfl
    simp [newMetas, unfinished, response]
  have keeps : endsRefill state (oneBurst widths n) = false := by
    rw [Bool.eq_false_iff]
    intro ends
    exact filling.tracked.pending_of_endsRefill _ ends filling.pending
  constructor
  · exact filling.tracked.step _
  · exact filling.stored.step _ filling.tracked filling.whole
  · rw [metas_step, noMetas, filling.queue, List.tail_nil, ite_self, List.append_nil]
  · simp [Ledger.record, keeps, unfinished, filling.pending]
  · simp only [Ledger.record, takes, decide_eq_true_eq]
    rw [takes] at unfinished
    split_ifs with below last
    · simp [below, last] at unfinished
    · rw [List.length_append, List.length_singleton, filling.arriving]
      omega
    · rw [filling.arriving]
      omega

end Block

theorem filling_before (powerUp : Sram cfg.mshrSets cfg.mshrWays (Mshr.Entry cfg))
    (long : ¬LineFits widths) (n : Nat) :
    Filling n (before powerUp (oneBurst widths) n).1
      (before powerUp (oneBurst widths) n).2 := by
  induction n with
  | zero =>
      constructor
      · exact Tracked.reset powerUp
      · exact Stored.reset powerUp
      · exact FifoReg.contents_reset _
      · rfl
      · exact (Nat.zero_min _).symm
  | succ n inductionHypothesis => exact inductionHypothesis.step long

/-- The environment of the burst is one the refill path is promised. -/
theorem served_oneBurst (powerUp : Sram cfg.mshrSets cfg.mshrWays (Mshr.Entry cfg))
    (long : ¬LineFits widths) : Served powerUp (oneBurst widths) where
  whole n := (filling_before powerUp long n).whole
  held n offers _ := offers
  granted n requests := by
    have empty := (filling_before powerUp long n).queue
    simp only [MissHandler.refillReqValid, Bool.and_eq_true] at requests
    exact absurd empty ((respMetaRok_iff _).mp requests.2)

theorem not_progresses_of_not_lineFits
    (powerUp : Sram cfg.mshrSets cfg.mshrWays (Mshr.Entry cfg)) (long : ¬LineFits widths) :
    ¬Progresses widths := by
  intro progresses
  have offers : offersBeat (oneBurst widths (capacity widths)) = true := rfl
  rcases progresses powerUp (oneBurst widths) (served_oneBurst powerUp long) _ offers with
    ⟨m, later, taken⟩
  rw [(filling_before powerUp long m).takesBeat_eq, decide_eq_true_eq] at taken
  omega

/-- Every beat of every burst is eventually taken exactly in the configurations
whose resizer can hold a line. -/
theorem progresses_iff_lineFits (widths : Widths cfg) :
    Progresses widths ↔ LineFits widths := by
  constructor
  · intro progresses
    by_contra long
    exact not_progresses_of_not_lineFits (clearMshr cfg) long progresses
  · intro fits powerUp inputs served n offers
    exact served.progress fits offers

/-! ## A configuration whose lines do not fit -/

/-- A line of two words and a data FIFO of one. -/
abbrev oneEntry : Widths (smallCfg 1 Nat.one_pos) := smallWidths 1 Nat.one_pos

/-- The checks made at elaboration accept the configuration, and its refill path
blocks. -/
theorem oneEntry_blocks : oneEntry.ElaborationChecks ∧ ¬Progresses oneEntry := by
  constructor
  · decide
  · exact not_progresses_of_not_lineFits (clearMshr _) (by decide)

end Cva6Hpd.Hpdcache.Refill
