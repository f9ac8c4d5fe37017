import Cva6Hpd.Icache.Coherence

/-!
# The responses of the instruction cache

A response answers the request that waits, with the word that the memory stores
at its translated address. A request that is not killed is answered, if the
translation and the memory answer in the end.
-/

namespace Cva6Hpd.Icache

open Cva6Hpd.Hw Cva6Hpd.Common

/-! ## The word of a response -/

section Addresses

variable (cfg : Cfg)

theorem fetchOffset_add_lt (vaddr : Nat) {byte : Nat} (inWord : byte < 2 ^ cfg.fetchAlignBits) :
    cfg.fetchOffset vaddr + byte < 2 ^ cfg.offsetWidth :=
  align_mod_add_lt cfg.fetchAlign_dvd_line (Nat.two_pow_pos _) vaddr inWord

theorem line_of_low {paddr vaddr : Nat}
    (low : paddr % 2 ^ cfg.indexWidth = cfg.alignFetch vaddr % 2 ^ cfg.indexWidth) :
    cfg.line paddr = cfg.lineOf (paddr / 2 ^ cfg.indexWidth) (cfg.index vaddr) ∧
      paddr = cfg.line paddr * 2 ^ cfg.offsetWidth + cfg.fetchOffset vaddr := by
  constructor
  · rw [cfg.line_eq_lineOf, cfg.index_congr low, cfg.index_alignFetch]
  · rw [Cfg.fetchOffset, ← cfg.offset_congr low, cfg.line_mul_add]

theorem eq_align_of_low {paddr vaddr : Nat}
    (low : paddr % 2 ^ cfg.indexWidth = cfg.alignFetch vaddr % 2 ^ cfg.indexWidth) :
    paddr = paddr / 2 ^ cfg.indexWidth * 2 ^ cfg.indexWidth +
      vaddr % 2 ^ cfg.indexWidth / 2 ^ cfg.fetchAlignBits * 2 ^ cfg.fetchAlignBits := by
  rw [← align_mod (Nat.dvd_trans cfg.fetchAlign_dvd_line cfg.line_dvd_index), ← Cfg.alignFetch,
    ← low, cfg.tag_mul_add]

theorem tag_add_align {align : Nat} (divides : align ∣ 2 ^ cfg.indexWidth) (positive : 0 < align)
    (tag low : Nat) :
    tag * 2 ^ cfg.indexWidth + low / align * align =
      (tag * 2 ^ cfg.indexWidth + low) / align * align := by
  rcases divides with ⟨parts, size⟩
  rw [size, show tag * (align * parts) = align * (tag * parts) by
    rw [Nat.mul_left_comm], Nat.mul_add_div positive, Nat.add_mul, Nat.mul_comm align]

/-- The word of an access that is not cacheable lies in the eight bytes that
AXI returns for it. -/
theorem narrow_word (vaddr : Nat) {byte : Nat} (inWord : byte < 2 ^ cfg.fetchAlignBits) :
    narrowOffset (cfg.fetchOffset vaddr) + byte < 8 ∧
      vaddr % 2 ^ cfg.indexWidth / 8 * 8 + narrowOffset (cfg.fetchOffset vaddr) =
        vaddr % 2 ^ cfg.indexWidth / 2 ^ cfg.fetchAlignBits * 2 ^ cfg.fetchAlignBits := by
  have lineParts := Nat.div_add_mod (cfg.alignFetch vaddr) (2 ^ cfg.offsetWidth)
  have indexParts := Nat.div_add_mod vaddr (2 ^ cfg.indexWidth)
  rcases cfg.eight_dvd_line with ⟨parts, line⟩
  rcases Nat.dvd_trans cfg.eight_dvd_line cfg.line_dvd_index with ⟨parts', index⟩
  have offset : cfg.fetchOffset vaddr / 4 % 2 = cfg.alignFetch vaddr / 4 % 2 := by
    rw [line, Nat.mul_assoc] at lineParts
    rw [Cfg.fetchOffset, line]
    generalize parts * (cfg.alignFetch vaddr / (8 * parts)) = whole at lineParts
    omega
  have low : vaddr % 2 ^ cfg.indexWidth / 4 % 2 = vaddr / 4 % 2 := by
    rw [index, Nat.mul_assoc] at indexParts
    rw [index]
    generalize parts' * (vaddr / (8 * parts')) = whole at indexParts
    omega
  rw [narrowOffset, offset, Cfg.alignFetch]
  rcases cfg.fetch_legal with two | three
  · simp only [two] at inWord ⊢
    omega
  · simp only [three] at inWord ⊢
    omega

end Addresses

section Responses

variable {cfg : Cfg} {s : State cfg} {log : FetchLog} {c : Cycle cfg}
variable {last : Option (Announcement cfg)} {clears : ClearLog}

/-- The response of this cycle carries the word that the memory stores at the
translated address of the waiting request, unless its line was modified. -/
def AnswersWaiting (s : State cfg) (log : FetchLog) (c : Cycle cfg) : Prop :=
  ∃ paddr, log.pending = some s.vaddrQ ∧ translationNow log s c.input = some paddr ∧
    paddr % 2 ^ cfg.indexWidth = fetchVaddr s % 2 ^ cfg.indexWidth ∧
    (modifiedNow cfg log c.memory (cfg.line paddr) = false →
      dreqData s c.input = fetchWord cfg c.memory paddr)

theorem fetchBits_eq_fetchWord {line : Line} {offset paddr : Nat} {memory : Nat → Byte}
    (same : ∀ byte < 2 ^ cfg.fetchAlignBits, line (offset + byte) = memory (paddr + byte)) :
    fetchBits cfg line offset = fetchWord cfg memory paddr :=
  List.map_congr_left fun byte inWord => same byte (List.mem_range.mp inWord)

theorem clHit_hitIdx (hit : (clHit s c.input).any = true) :
    clHit s c.input (hitIdx s c.input) = true := by
  rcases (Bits.any_eq_true_iff _).mp hit with ⟨way, here⟩
  rw [hitIdx, lzcCnt, if_pos hit]
  exact Bits.firstIndex_hit here

theorem answers_of_hit (unique : Unique ((s, last), clears))
    (environment : Environment (((s, last), clears), log) c) (waiting : Waiting s log)
    (translated : Translated s log) (coherent : Coherent s log) (served : Served s c.input)
    (noException : c.input.fetchException = false) : AnswersWaiting s log c := by
  rcases served with ⟨read, answer, _, result, noInvalidation⟩
  simp only [Icache.translated, Bool.and_eq_true] at answer
  simp only [hitOrException, noException, Bool.or_false, Bool.and_eq_true] at result
  rcases result with ⟨hit, enabled⟩
  have settled : Settled s := ⟨read, enabled, noInvalidation⟩
  have fresh : ∀ way, (s.tagSram way).rdataQ = tagRow s (setNow s) way :=
    unique.lookup.tagFresh settled
  have way := clHit_hitIdx hit
  simp only [clHit, clTagRdata, vldRdata, fresh, Bool.and_eq_true, beq_iff_eq, clTagD, answer.1,
    if_true] at way
  rcases way with ⟨tag, valid⟩
  have low : c.input.fetchPaddr % 2 ^ cfg.indexWidth =
      cfg.alignFetch s.vaddrQ % 2 ^ cfg.indexWidth := environment.untranslated answer.1
  rcases line_of_low cfg low with ⟨line, address⟩
  have compare : s.cmpEnQ = true := by
    by_contra off
    rcases translated.held settled (Bool.eq_false_iff.mpr off) with ⟨paddr, logged, differ⟩
    rw [environment.stable read answer.1 paddr logged] at tag
    exact differ _ valid tag
  have offset : s.clOffsetQ = cfg.fetchOffset s.vaddrQ := by
    rcases translated.offset read with full | ⟨_, _, disabled | ⟨paddr, logged, region⟩⟩
    · exact full
    · rw [disabled] at enabled
      contradiction
    · have cacheable := coherent.cacheable (by simp [read]) _ _ valid
      rw [tag, environment.stable read answer.1 paddr logged, region] at cacheable
      contradiction
  refine ⟨c.input.fetchPaddr, waiting.pending (Or.inl read),
    translationNow_of_read read answer.1, low, fun unmodified => ?_⟩
  rcases stored_of_unmodified unmodified with ⟨unmodifiedBefore, stored⟩
  rw [dreqData, if_pos compare, clSel, offset]
  refine fetchBits_eq_fetchWord fun byte inWord => ?_
  have inLine := fetchOffset_add_lt cfg s.vaddrQ inWord
  have lineRow : cfg.lineOf (tagRow s (setNow s) (hitIdx s c.input)).tag (setNow s) =
      cfg.line c.input.fetchPaddr := by
    rw [tag]
    exact line.symm
  have content :=
    coherent.lines (by simp [read]) _ _ valid (by rw [lineRow]; exact unmodifiedBefore)
    _ inLine
  have word : (s.dataSram (hitIdx s c.input)).rdataQ = dataRow s (setNow s) (hitIdx s c.input) :=
    unique.lookup.dataFresh settled _
  rw [word, content, lineRow, ← stored _ inLine, ← Nat.add_assoc,
    ← address]

theorem answers_of_miss (environment : Environment (((s, last), clears), log) c)
    (waiting : Waiting s log) (translated : Translated s log) (miss : s.stateQ = .miss)
    (answer : ifillAck c.input = true) : AnswersWaiting s log c := by
  rcases translated.tag miss with ⟨paddr, logged, tag⟩
  have low := translated.low (Or.inr miss) paddr logged
  rcases translated.asked miss with ⟨request, asked, base, offset, _⟩
  rcases line_of_low cfg low with ⟨line, address⟩
  have aligned := eq_align_of_low cfg low
  rw [← tag] at line aligned
  have fetchDvd := Nat.dvd_trans cfg.fetchAlign_dvd_line cfg.line_dvd_index
  -- the miss asked for the line of the request
  have sameLine : cfg.line request.paddr = cfg.line paddr := by
    have lineOfAlign {align : Nat} (divides : align ∣ 2 ^ cfg.offsetWidth) (positive : 0 < align) :
        cfg.line (s.clTagQ * 2 ^ cfg.indexWidth +
          s.vaddrQ % 2 ^ cfg.indexWidth / align * align) =
        cfg.line (s.clTagQ * 2 ^ cfg.indexWidth + s.vaddrQ % 2 ^ cfg.indexWidth) := by
      rw [tag_add_align cfg (Nat.dvd_trans divides cfg.line_dvd_index) positive, Cfg.line,
        align_div divides, Cfg.line]
    have legal : cfg.missAlign request.nc ∣ 2 ^ cfg.offsetWidth ∧
        0 < cfg.missAlign request.nc := by
      unfold Cfg.missAlign
      split_ifs
      · exact ⟨cfg.eight_dvd_line, by decide⟩
      · exact ⟨Nat.dvd_trans (by decide) cfg.eight_dvd_line, by decide⟩
      · exact ⟨Nat.dvd_refl _, Nat.two_pow_pos _⟩
    rw [base, lineOfAlign legal.1 legal.2, aligned,
      lineOfAlign cfg.fetchAlign_dvd_line (Nat.two_pow_pos _)]
  have noAnswer := fetchValid_of_miss environment miss
  refine ⟨paddr, waiting.pending (Or.inr miss), by simp [translationNow, noAnswer, logged], low,
    fun unmodified => ?_⟩
  have returned :=
    environment.returns miss answer request asked (by rw [sameLine]; exact unmodified)
  rw [dreqData, waiting.compare miss, if_neg Bool.false_ne_true, offset]
  refine fetchBits_eq_fetchWord fun byte inWord => ?_
  cases nc : request.nc with
  | false =>
      rw [Returns, nc, if_neg Bool.false_ne_true] at returned
      have start : request.paddr = cfg.line paddr * 2 ^ cfg.offsetWidth := by
        rw [base, nc, line, cfg.lineOf_index_mul]
        rfl
      rw [Bool.false_and, if_neg Bool.false_ne_true,
        returned _ (fetchOffset_add_lt cfg s.vaddrQ inWord), start, ← Nat.add_assoc, ← address]
  | true =>
      cases axi : cfg.nocAxi with
      | true =>
          rw [Returns, nc, axi, if_pos rfl, if_pos rfl] at returned
          rcases narrow_word cfg s.vaddrQ inWord with ⟨inBytes, word⟩
          have start : request.paddr = s.clTagQ * 2 ^ cfg.indexWidth +
              s.vaddrQ % 2 ^ cfg.indexWidth / 8 * 8 := by
            rw [base, nc, Cfg.missAlign, axi]
            rfl
          rw [Bool.true_and, if_pos rfl, returned _ inBytes, start]
          congr 1
          rw [← Nat.add_assoc, Nat.add_assoc (s.clTagQ * 2 ^ cfg.indexWidth), word, ← aligned]
      | false =>
          rw [Returns, nc, axi, if_pos rfl, if_neg Bool.false_ne_true] at returned
          have two := cfg.piton_legal axi
          have start : request.paddr = paddr := by
            rw [base, nc, Cfg.missAlign, axi]
            conv_rhs => rw [aligned, two]
            rfl
          have inFour : byte < 4 := by simpa [two] using inWord
          rw [Bool.true_and, if_neg Bool.false_ne_true]
          have place := returned byte inFour
          rwa [start, cfg.offset_congr low] at place

end Responses

/-! ## Runs -/

section Runs

variable {cfg : Cfg}

/-- The invariants together. -/
structure Fetching (state : ((State cfg × Option (Announcement cfg)) × ClearLog) × FetchLog) :
    Prop where
  unique : Unique state.1
  waiting : Waiting state.1.1.1 state.2
  translated : Translated state.1.1.1 state.2
  coherent : Coherent state.1.1.1 state.2

theorem fetching_reset (powerUp : PowerUp cfg) (memory : Nat → Byte) :
    Fetching (fetching powerUp memory).reset where
  unique := unique_reset powerUp
  waiting :=
    { pending := fun busy => absurd busy (by
        rintro (read | miss)
        · exact absurd read (fun same => Fsm.noConfusion same)
        · exact absurd miss (fun same => Fsm.noConfusion same))
      idle := fun _ => rfl
      noFlush := fun _ => rfl
      compare := fun _ => rfl
      counts := rfl }
  translated :=
    { low := fun _ paddr logged => absurd logged.symm (Option.some_ne_none paddr)
      tag := fun miss => Fsm.noConfusion miss
      offset := fun read => Fsm.noConfusion read
      asked := fun miss => Fsm.noConfusion miss
      held := fun settled => Fsm.noConfusion settled.1 }
  coherent :=
    { cacheable := fun noClear => absurd rfl noClear
      lines := fun noClear => absurd rfl noClear }

theorem fetching_step (powerUp : PowerUp cfg) (memory : Nat → Byte)
    {state : ((State cfg × Option (Announcement cfg)) × ClearLog) × FetchLog} {c : Cycle cfg}
    (invariant : Fetching state) (environment : Environment state c) :
    Fetching ((fetching powerUp memory).step state c) where
  unique := unique_step powerUp invariant.unique environment.handshake
  waiting := waiting_step invariant.waiting environment.flushKill
  translated := translated_step invariant.unique.lookup environment invariant.translated
  coherent := coherent_step invariant.unique environment invariant.translated invariant.coherent

theorem answers_of_valid
    {state : ((State cfg × Option (Announcement cfg)) × ClearLog) × FetchLog} {c : Cycle cfg}
    (invariant : Fetching state) (environment : Environment state c)
    (valid : (pFsm state.1.1.1 c.input).valid = true) :
    c.input.killS2 = false ∧ state.2.pending = some state.1.1.1.vaddrQ ∧
      (c.input.fetchException = false → AnswersWaiting state.1.1.1 state.2 c) := by
  refine ⟨((valid_iff _ _).mp valid).1, invariant.waiting.pending (busy_of_valid valid),
    fun noException => ?_⟩
  rcases ((valid_iff _ _).mp valid).2 with served | ⟨miss, answer, _⟩
  · exact answers_of_hit invariant.unique environment invariant.waiting invariant.translated
      invariant.coherent served noException
  · exact answers_of_miss environment invariant.waiting invariant.translated miss answer

/-! ## Progress -/

/-- The waiting request is answered or killed in this cycle. -/
def Ends (state : ((State cfg × Option (Announcement cfg)) × ClearLog) × FetchLog)
    (c : Cycle cfg) : Prop :=
  (pFsm state.1.1.1 c.input).valid = true ∨ c.input.killS2 = true

/-- The environment answers in the end: a lookup is translated in a cycle that
no invalidation disturbs, in which the memory takes its miss if there is one;
and the memory answers a miss. -/
structure Fair (powerUp : PowerUp cfg) (memory : Nat → Byte) (cycles : Nat → Cycle cfg) :
    Prop where
  lookup : ∀ n, ∃ m, n ≤ m ∧
    (((fetching powerUp memory).after cycles m).1.1.1.stateQ = .read →
      translated (cycles m).input = true ∧
        ((fetching powerUp memory).after cycles m).1.1.1.invQ = false ∧
        ((pFsm ((fetching powerUp memory).after cycles m).1.1.1 (cycles m).input).memDataReq =
          true → (cycles m).input.memDataAck = true))
  miss : ∀ n, ∃ m, n ≤ m ∧
    (((fetching powerUp memory).after cycles m).1.1.1.stateQ = .miss →
      ifillAck (cycles m).input = true)

/-- A request that is not ended keeps waiting. -/
theorem busy_step_of_not_ends
    {state : ((State cfg × Option (Announcement cfg)) × ClearLog) × FetchLog} {c : Cycle cfg}
    (invariant : Fetching state) (environment : Environment state c) (busy : Busy state.1.1.1)
    (goesOn : ¬Ends state c) : Busy (step state.1.1.1 c.input) := by
  have silent : (pFsm state.1.1.1 c.input).valid = false :=
    Bool.eq_false_iff.mpr fun valid => goesOn (Or.inl valid)
  have alive : c.input.killS2 = false :=
    Bool.eq_false_iff.mpr fun kill => goesOn (Or.inr kill)
  refine (busy_step invariant.waiting environment.flushKill ?_).mpr ⟨busy, silent, alive⟩
  refine Bool.eq_false_iff.mpr fun accepted => ?_
  rcases ((accepts_iff _ _).mp accepted).2 with ⟨idle, _⟩ | served
  · rcases busy with read | miss
    · simp [idle] at read
    · simp [idle] at miss
  · rw [(valid_iff _ _).mpr ⟨alive, Or.inl served⟩] at silent
    contradiction

theorem flushPending_of_alive
    {state : ((State cfg × Option (Announcement cfg)) × ClearLog) × FetchLog} {c : Cycle cfg}
    (invariant : Fetching state) (environment : Environment state c) (busy : Busy state.1.1.1)
    (alive : c.input.killS2 = false) : flushPending state.1.1.1 c.input = false := by
  have calm : c.input.flush = false := by
    refine Bool.eq_false_iff.mpr fun flush => ?_
    rw [environment.flushKill flush] at alive
    contradiction
  simp [flushPending, invariant.waiting.noFlush busy, calm]

section Endless

variable {powerUp : PowerUp cfg} {memory : Nat → Byte} {cycles : Nat → Cycle cfg}

theorem fetching_after
    (environment : ∀ n, Environment ((fetching powerUp memory).after cycles n) (cycles n))
    (n : Nat) : Fetching ((fetching powerUp memory).after cycles n) :=
  (fetching powerUp memory).after_invariant Fetching (fetching_reset powerUp memory)
    (fun _ _ invariant promised => fetching_step powerUp memory invariant promised) environment n

theorem miss_ends
    (environment : ∀ n, Environment ((fetching powerUp memory).after cycles n) (cycles n))
    (fair : Fair powerUp memory cycles) (n : Nat)
    (miss : ((fetching powerUp memory).after cycles n).1.1.1.stateQ = .miss) :
    ∃ m, n ≤ m ∧ Ends ((fetching powerUp memory).after cycles m) (cycles m) := by
  refine eventually_of_persists
    (fun m => ((fetching powerUp memory).after cycles m).1.1.1.stateQ = .miss) miss ?_ ?_
  · intro m _ waits
    by_cases ends : Ends ((fetching powerUp memory).after cycles m) (cycles m)
    · exact Or.inl ends
    · right
      have alive : (cycles m).input.killS2 = false :=
        Bool.eq_false_iff.mpr fun kill => ends (Or.inr kill)
      have calm := flushPending_of_alive (fetching_after environment m) (environment m)
        (Or.inr waits) alive
      refine (stateD_miss_iff _ _).mpr (Or.inr ⟨waits, ?_, alive, calm⟩)
      refine Bool.eq_false_iff.mpr fun answer => ends (Or.inl ?_)
      exact (valid_iff _ _).mpr ⟨alive, Or.inr ⟨waits, answer, calm⟩⟩
  · rcases fair.miss n with ⟨m, later, answers⟩
    refine ⟨m, later, fun waits => ?_⟩
    by_cases kill : (cycles m).input.killS2 = true
    · exact Or.inr kill
    · have alive : (cycles m).input.killS2 = false := Bool.eq_false_iff.mpr kill
      exact Or.inl ((valid_iff _ _).mpr ⟨alive, Or.inr ⟨waits, answers waits,
        flushPending_of_alive (fetching_after environment m) (environment m) (Or.inr waits)
          alive⟩⟩)

/-- A lookup is answered or killed, or becomes a miss. -/
theorem read_ends
    (environment : ∀ n, Environment ((fetching powerUp memory).after cycles n) (cycles n))
    (fair : Fair powerUp memory cycles) (n : Nat)
    (read : ((fetching powerUp memory).after cycles n).1.1.1.stateQ = .read) :
    ∃ m, n ≤ m ∧ (Ends ((fetching powerUp memory).after cycles m) (cycles m) ∨
      ((fetching powerUp memory).after cycles (m + 1)).1.1.1.stateQ = .miss) := by
  refine eventually_of_persists
    (fun m => ((fetching powerUp memory).after cycles m).1.1.1.stateQ = .read) read ?_ ?_
  · intro m _ waits
    by_cases ends : Ends ((fetching powerUp memory).after cycles m) (cycles m)
    · exact Or.inl (Or.inl ends)
    · rcases busy_step_of_not_ends (fetching_after environment m) (environment m)
        (Or.inl waits) ends with again | miss
      · exact Or.inr again
      · exact Or.inl (Or.inr miss)
  · rcases fair.lookup n with ⟨m, later, settles⟩
    refine ⟨m, later, fun waits => ?_⟩
    rcases settles waits with ⟨answer, noInvalidation, takes⟩
    by_cases kill : (cycles m).input.killS2 = true
    · exact Or.inl (Or.inr kill)
    · have alive : (cycles m).input.killS2 = false := Bool.eq_false_iff.mpr kill
      have calm := flushPending_of_alive (fetching_after environment m) (environment m)
        (Or.inl waits) alive
      cases result : hitOrException ((fetching powerUp memory).after cycles m).1.1.1
          (cycles m).input with
      | true =>
          exact Or.inl (Or.inl ((valid_iff _ _).mpr
            ⟨alive, Or.inl ⟨waits, answer, calm, result, noInvalidation⟩⟩))
      | false =>
          have request := (memDataReq_iff _ _).mpr
            ⟨waits, answer, calm, result, alive, noInvalidation⟩
          exact Or.inr ((stateD_miss_iff _ _).mpr (Or.inl ⟨request, takes request⟩))

/-- In a fair environment every waiting request is answered or killed. -/
theorem pending_ends
    (environment : ∀ n, Environment ((fetching powerUp memory).after cycles n) (cycles n))
    (fair : Fair powerUp memory cycles) (n : Nat)
    (pending : ((fetching powerUp memory).after cycles n).2.pending.isSome = true) :
    ∃ m, n ≤ m ∧ Ends ((fetching powerUp memory).after cycles m) (cycles m) := by
  have busy : Busy ((fetching powerUp memory).after cycles n).1.1.1 := by
    by_contra idle
    rw [(fetching_after environment n).waiting.idle idle] at pending
    contradiction
  rcases busy with read | miss
  · rcases read_ends environment fair n read with ⟨m, later, ends | miss⟩
    · exact ⟨m, later, ends⟩
    · rcases miss_ends environment fair (m + 1) miss with ⟨m', after, ends⟩
      exact ⟨m', by omega, ends⟩
  · exact miss_ends environment fair n miss

end Endless

/-- In every run next to a memory that returns what is asked: a response
answers a waiting request that is not killed, and without an exception it
carries the word stored at the translated address, unless the line was modified
since it was last invalidated or flushed; every accepted request is answered
once, killed, or waiting; and if the environment answers in the end, no request
waits for ever. -/
theorem fetches_run (powerUp : PowerUp cfg) (memory : Nat → Byte) :
    (∀ (cycles : List (Cycle cfg)) (c : Cycle cfg),
      (fetching powerUp memory).RunAlong Environment (cycles ++ [c]) →
        ((pFsm ((fetching powerUp memory).run cycles).1.1.1 c.input).valid = true →
          c.input.killS2 = false ∧
          ((fetching powerUp memory).run cycles).2.pending =
            some ((fetching powerUp memory).run cycles).1.1.1.vaddrQ ∧
          (c.input.fetchException = false →
            AnswersWaiting ((fetching powerUp memory).run cycles).1.1.1
              ((fetching powerUp memory).run cycles).2 c)) ∧
        ((fetching powerUp memory).run cycles).2.accepted =
          ((fetching powerUp memory).run cycles).2.answered +
            ((fetching powerUp memory).run cycles).2.killed +
            ((fetching powerUp memory).run cycles).2.pending.isSome.toNat) ∧
      ∀ cycles : Nat → Cycle cfg,
        (∀ n, Environment ((fetching powerUp memory).after cycles n) (cycles n)) →
          Fair powerUp memory cycles → ∀ n,
            ((fetching powerUp memory).after cycles n).2.pending.isSome = true →
              ∃ m, n ≤ m ∧ Ends ((fetching powerUp memory).after cycles m) (cycles m) := by
  refine ⟨fun cycles c along => ?_, fun cycles environment fair n pending =>
    pending_ends environment fair n pending⟩
  rcases ((fetching powerUp memory).runAlong_concat Environment cycles c).mp along with
    ⟨before, promised⟩
  have invariant : Fetching ((fetching powerUp memory).run cycles) :=
    (fetching powerUp memory).run_invariant_along Fetching (fetching_reset powerUp memory)
      (fun _ _ invariant promised => fetching_step powerUp memory invariant promised) before
  exact ⟨answers_of_valid invariant promised, invariant.waiting.counts⟩

/-- A memory that stores the address of each byte. -/
def countingMemory (addr : Nat) : Byte := BitVec.ofNat 8 addr

/-- The clear of the cache, and a miss of the word at address 20. -/
def missCycles : List (Cycle Cfg.small) :=
  ([Input.quiet Cfg.small, Input.quiet Cfg.small] ++ lookupInputs 20).map fun input =>
    { input := input, memory := countingMemory }

def returnCycle : Cycle Cfg.small where
  input := { fillInput with rtrnData := fun byte => countingMemory (16 + byte) }
  memory := countingMemory

/-- The response of the miss. -/
theorem fetches_run_small :
    returnCycle.input.killS2 = false ∧
      ((fetching (PowerUp.zero Cfg.small) countingMemory).run missCycles).2.pending =
        some ((fetching (PowerUp.zero Cfg.small) countingMemory).run missCycles).1.1.1.vaddrQ ∧
      (returnCycle.input.fetchException = false →
        AnswersWaiting ((fetching (PowerUp.zero Cfg.small) countingMemory).run missCycles).1.1.1
          ((fetching (PowerUp.zero Cfg.small) countingMemory).run missCycles).2 returnCycle) :=
  ((fetches_run (PowerUp.zero Cfg.small) countingMemory).1 missCycles returnCycle
    (by decide +kernel)).1 (by decide +kernel)

end Runs

end Cva6Hpd.Icache
