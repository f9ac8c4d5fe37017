import Cva6Hpd.Icache.Core
import Cva6Hpd.Icache.Uniqueness

/-!
# Fetches against the memory

The cache runs next to a memory whose contents may change in every cycle. A log
of the interface keeps the request that waits for its response, the physical
address that the translation gave for it, the miss that the memory works on and
the lines that were modified since they were last invalidated or flushed.
-/

/-!
## Addresses of lines and fetch words

Where a physical address lies: its line is named by the tag and the set, and
aligning an address within a line keeps both.
-/

namespace Cva6Hpd.Icache

open Cva6Hpd.Hw

/-! ## Alignment -/

section Align

variable {align size : Nat}

theorem align_div (divides : align ∣ size) (addr : Nat) :
    addr / align * align / size = addr / size := by
  rcases divides with ⟨parts, rfl⟩
  rcases Nat.eq_zero_or_pos align with rfl | positive
  · simp
  · rw [← Nat.div_div_eq_div_mul, Nat.mul_div_cancel _ positive, Nat.div_div_eq_div_mul]

theorem align_mod (divides : align ∣ size) (addr : Nat) :
    addr / align * align % size = addr % size / align * align := by
  have whole := align_div divides addr
  rcases divides with ⟨parts, rfl⟩
  have split := Nat.div_add_mod (addr / align * align) (align * parts)
  have below : addr % (align * parts) / align = addr / align % parts :=
    Nat.mod_mul_right_div_self addr align parts
  have quotient := Nat.div_add_mod (addr / align) parts
  rw [whole] at split
  rw [Nat.div_div_eq_div_mul] at quotient
  rw [below]
  have scaled := congrArg (· * align) quotient
  simp only [Nat.add_mul] at scaled
  have regroup : parts * (addr / (align * parts)) * align =
      align * parts * (addr / (align * parts)) := by
    rw [Nat.mul_comm, ← Nat.mul_assoc]
  omega

theorem align_mod_add_lt (divides : align ∣ size) (positive : 0 < size) (addr : Nat) {byte : Nat}
    (inside : byte < align) : addr / align * align % size + byte < size := by
  have bound := Nat.mod_lt addr positive
  rw [align_mod divides]
  rcases divides with ⟨parts, rfl⟩
  have quotient : addr % (align * parts) / align < parts :=
    Nat.div_lt_of_lt_mul bound
  calc addr % (align * parts) / align * align + byte
      < addr % (align * parts) / align * align + align := Nat.add_lt_add_left inside _
    _ = (addr % (align * parts) / align + 1) * align := by rw [Nat.add_mul, Nat.one_mul]
    _ ≤ parts * align := Nat.mul_le_mul_right align quotient
    _ = align * parts := Nat.mul_comm _ _

end Align

/-! ## Lines -/

namespace Cfg

variable (cfg : Cfg)

/-- The number of the line of a physical address. -/
def line (paddr : Nat) : Nat := paddr / 2 ^ cfg.offsetWidth

/-- The line number of a tag in a set. -/
def lineOf (tag : Nat) (set : Fin cfg.numWords) : Nat := tag * cfg.numWords + set.val

/-- The address of a fetch word. -/
def alignFetch (addr : Nat) : Nat := addr / 2 ^ cfg.fetchAlignBits * 2 ^ cfg.fetchAlignBits

theorem numWords_mul_line : 2 ^ cfg.offsetWidth * cfg.numWords = 2 ^ cfg.indexWidth := by
  rw [← Nat.pow_add, Nat.add_sub_cancel' (Nat.le_of_lt cfg.index_legal)]

theorem line_dvd_index : 2 ^ cfg.offsetWidth ∣ 2 ^ cfg.indexWidth :=
  Nat.pow_dvd_pow 2 (Nat.le_of_lt cfg.index_legal)

theorem fetchAlign_dvd_line : 2 ^ cfg.fetchAlignBits ∣ 2 ^ cfg.offsetWidth := by
  refine Nat.pow_dvd_pow 2 ?_
  have := cfg.offset_legal
  rcases cfg.fetch_legal with two | three <;> omega

theorem eight_dvd_line : 8 ∣ 2 ^ cfg.offsetWidth :=
  Nat.pow_dvd_pow 2 cfg.offset_legal

@[simp]
theorem lineOf_mod (tag : Nat) (set : Fin cfg.numWords) :
    cfg.lineOf tag set % cfg.numWords = set.val := by
  rw [lineOf, Nat.mul_comm, Nat.mul_add_mod, Nat.mod_eq_of_lt set.isLt]

@[simp]
theorem lineOf_div (tag : Nat) (set : Fin cfg.numWords) :
    cfg.lineOf tag set / cfg.numWords = tag := by
  rw [lineOf, Nat.mul_comm, Nat.mul_add_div (Nat.two_pow_pos _), Nat.div_eq_of_lt set.isLt,
    Nat.add_zero]

theorem index_val (addr : Nat) :
    (cfg.index addr).val = addr / 2 ^ cfg.offsetWidth % cfg.numWords :=
  rfl

theorem index_congr {addr addr' : Nat}
    (same : addr % 2 ^ cfg.indexWidth = addr' % 2 ^ cfg.indexWidth) :
    cfg.index addr = cfg.index addr' := by
  rw [Fin.ext_iff, index_val, index_val, ← Nat.mod_mul_right_div_self,
    ← Nat.mod_mul_right_div_self, numWords_mul_line, same]

theorem index_alignFetch (addr : Nat) : cfg.index (cfg.alignFetch addr) = cfg.index addr := by
  rw [Fin.ext_iff, index_val, index_val, alignFetch, align_div cfg.fetchAlign_dvd_line]

/-- The line of an address is named by its tag and its set. -/
theorem line_eq_lineOf (paddr : Nat) :
    cfg.line paddr = cfg.lineOf (paddr / 2 ^ cfg.indexWidth) (cfg.index paddr) := by
  have split := Nat.div_add_mod (paddr / 2 ^ cfg.offsetWidth) cfg.numWords
  rw [Nat.div_div_eq_div_mul, numWords_mul_line] at split
  rw [line, lineOf, index_val, Nat.mul_comm (paddr / 2 ^ cfg.indexWidth)]
  exact split.symm

theorem line_mul_add (paddr : Nat) :
    cfg.line paddr * 2 ^ cfg.offsetWidth + paddr % 2 ^ cfg.offsetWidth = paddr := by
  rw [line, Nat.mul_comm]
  exact Nat.div_add_mod paddr _

theorem lineOf_index_mul (tag addr : Nat) :
    cfg.lineOf tag (cfg.index addr) * 2 ^ cfg.offsetWidth =
      tag * 2 ^ cfg.indexWidth +
        addr % 2 ^ cfg.indexWidth / 2 ^ cfg.offsetWidth * 2 ^ cfg.offsetWidth := by
  have set : addr % 2 ^ cfg.indexWidth / 2 ^ cfg.offsetWidth = (cfg.index addr).val := by
    rw [index_val, ← numWords_mul_line, Nat.mod_mul_right_div_self]
  rw [set, lineOf, Nat.add_mul, Nat.mul_assoc, Nat.mul_comm cfg.numWords, numWords_mul_line]

theorem tag_mul_add (paddr : Nat) :
    paddr / 2 ^ cfg.indexWidth * 2 ^ cfg.indexWidth + paddr % 2 ^ cfg.indexWidth = paddr := by
  rw [Nat.mul_comm]
  exact Nat.div_add_mod paddr _

theorem offset_congr {addr addr' : Nat}
    (same : addr % 2 ^ cfg.indexWidth = addr' % 2 ^ cfg.indexWidth) :
    addr % 2 ^ cfg.offsetWidth = addr' % 2 ^ cfg.offsetWidth := by
  rw [← Nat.mod_mod_of_dvd addr cfg.line_dvd_index, same,
    Nat.mod_mod_of_dvd addr' cfg.line_dvd_index]

end Cfg

end Cva6Hpd.Icache

namespace Cva6Hpd.Icache

open Cva6Hpd.Hw Cva6Hpd.Common

section Interface

variable {cfg : Cfg}

/-- The inputs of one cycle and the contents of the memory in it. -/
structure Cycle (cfg : Cfg) where
  input : Input cfg
  memory : Nat → Byte

/-- The fetch word that the memory stores at a physical address. -/
def fetchWord (cfg : Cfg) (memory : Nat → Byte) (paddr : Nat) : List Byte :=
  (List.range (2 ^ cfg.fetchAlignBits)).map fun byte => memory (paddr + byte)

/-- A miss at the interface of the memory. -/
structure MemRequest where
  paddr : Nat
  nc : Bool

/-- What is observed at the interfaces. -/
structure FetchLog where
  -- the virtual address of the request that waits for its response
  pending : Option Nat
  -- the physical address that was given for it
  translation : Option Nat
  request : Option MemRequest
  stored : Nat → Byte
  modified : Nat → Bool
  accepted : Nat
  answered : Nat
  killed : Nat

def FetchLog.initial (memory : Nat → Byte) : FetchLog where
  pending := none
  translation := none
  request := none
  stored := memory
  modified := fun _ => false
  accepted := 0
  answered := 0
  killed := 0

/-- The translation, with an answer of this cycle. -/
def translationNow (log : FetchLog) (s : State cfg) (i : Input cfg) : Option Nat :=
  if s.stateQ = .read ∧ i.fetchValid = true then some i.fetchPaddr else log.translation

/-- The line was modified since it was last invalidated or flushed. -/
def modifiedNow (cfg : Cfg) (log : FetchLog) (memory : Nat → Byte) (line : Nat) : Bool :=
  log.modified line || (List.range (2 ^ cfg.offsetWidth)).any fun byte =>
    memory (line * 2 ^ cfg.offsetWidth + byte) != log.stored (line * 2 ^ cfg.offsetWidth + byte)

/-- The invalidation of this cycle covers the line: it names the set of the
line, and all its ways or the way that holds the line. -/
def covers (s : State cfg) (i : Input cfg) (line : Nat) : Bool :=
  invEn i && decide (line % cfg.numWords = (cfg.index i.invIdx).val) &&
    (i.invAll || (i.invVld && (tagRow s (cfg.index i.invIdx) i.invWay).vld &&
      decide ((tagRow s (cfg.index i.invIdx) i.invWay).tag = line / cfg.numWords)))

/-- One cycle of the interfaces. A kill ends the waiting request; a request
accepted in the cycle of a kill of the first stage never waits. -/
def observe (s : State cfg) (c : Cycle cfg) (log : FetchLog) : FetchLog where
  pending :=
    if accepts s c.input then (if c.input.killS1 then none else some c.input.vaddr)
    else if (pFsm s c.input).valid || c.input.killS2 then none
    else log.pending
  translation := if accepts s c.input then none else translationNow log s c.input
  request :=
    if (pFsm s c.input).memDataReq && c.input.memDataAck then
      some ⟨memDataPaddr s c.input, paddrIsNc s c.input⟩
    else log.request
  stored := c.memory
  modified := fun line =>
    modifiedNow cfg log c.memory line && !clearEnds s && !covers s c.input line
  accepted := log.accepted + (accepts s c.input).toNat
  answered := log.answered + (pFsm s c.input).valid.toNat
  killed := log.killed + (log.pending.isSome && c.input.killS2).toNat +
    (accepts s c.input && c.input.killS1).toNat

/-- The cache with all its logs, next to a memory. -/
def fetching (powerUp : PowerUp cfg) (memory : Nat → Byte) :
    Machine (((State cfg × Option (Announcement cfg)) × ClearLog) × FetchLog) (Cycle cfg) :=
  ((clearing powerUp).onInputs Cycle.input).withHistory (FetchLog.initial memory)
    fun state c log => observe state.1.1 c log

/-- The memory returns what a miss asked for: the line, or the bytes of an
access that is not cacheable, on AXI in the lowest bytes and else at their
place in the line. -/
def Returns (cfg : Cfg) (request : MemRequest) (memory : Nat → Byte) (line : Line) : Prop :=
  if request.nc then
    if cfg.nocAxi then ∀ byte < 8, line byte = memory (request.paddr + byte)
    else ∀ byte < 4,
      line (request.paddr % 2 ^ cfg.offsetWidth + byte) = memory (request.paddr + byte)
  else ∀ byte < 2 ^ cfg.offsetWidth, line byte = memory (request.paddr + byte)

/-- What the cache is promised in each cycle. -/
structure Environment (state : ((State cfg × Option (Announcement cfg)) × ClearLog) × FetchLog)
    (c : Cycle cfg) : Prop where
  /-- The translation answers only while it is asked. -/
  handshake : Handshake state.1 c.input
  /-- The answer keeps the index bits, which are not translated. -/
  untranslated : c.input.fetchValid = true →
    c.input.fetchPaddr % 2 ^ cfg.indexWidth = fetchVaddr state.1.1.1 % 2 ^ cfg.indexWidth
  /-- The answer for one request stays the same while the request waits. -/
  stable : state.1.1.1.stateQ = .read → c.input.fetchValid = true →
    ∀ paddr ∈ state.2.translation, c.input.fetchPaddr = paddr
  /-- Flush and kill are asserted together. -/
  flushKill : c.input.flush = true → c.input.killS2 = true
  /-- The memory returns what was asked for, as it is stored, unless it was
  modified since the line was last invalidated or flushed. -/
  returns : state.1.1.1.stateQ = .miss → ifillAck c.input = true →
    ∀ request ∈ state.2.request,
      modifiedNow cfg state.2 c.memory (cfg.line request.paddr) = false →
        Returns cfg request c.memory c.input.rtrnData

instance decidableReturns (cfg : Cfg) (request : MemRequest) (memory : Nat → Byte)
    (line : Line) : Decidable (Returns cfg request memory line) := by
  unfold Returns
  infer_instance

instance decidableEnvironment
    (state : ((State cfg × Option (Announcement cfg)) × ClearLog) × FetchLog) (c : Cycle cfg) :
    Decidable (Environment state c) :=
  decidable_of_iff
    (Handshake state.1 c.input ∧
      (c.input.fetchValid = true →
        c.input.fetchPaddr % 2 ^ cfg.indexWidth =
          fetchVaddr state.1.1.1 % 2 ^ cfg.indexWidth) ∧
      (state.1.1.1.stateQ = .read → c.input.fetchValid = true →
        ∀ paddr ∈ state.2.translation, c.input.fetchPaddr = paddr) ∧
      (c.input.flush = true → c.input.killS2 = true) ∧
      (state.1.1.1.stateQ = .miss → ifillAck c.input = true →
        ∀ request ∈ state.2.request,
          modifiedNow cfg state.2 c.memory (cfg.line request.paddr) = false →
            Returns cfg request c.memory c.input.rtrnData))
    ⟨fun ⟨handshake, untranslated, stable, flushKill, returns⟩ =>
      ⟨handshake, untranslated, stable, flushKill, returns⟩,
      fun environment => ⟨environment.handshake, environment.untranslated, environment.stable,
        environment.flushKill, environment.returns⟩⟩

/-- A request waits for its response. -/
def Busy (s : State cfg) : Prop := s.stateQ = .read ∨ s.stateQ = .miss

/-- The offset of the fetch word in its line. -/
def Cfg.fetchOffset (cfg : Cfg) (vaddr : Nat) : Nat :=
  cfg.alignFetch vaddr % 2 ^ cfg.offsetWidth

/-- The offset of the word in the eight bytes of an access that is not
cacheable. -/
def narrowOffset (offset : Nat) : Nat := offset / 4 % 2 * 4

/-- The alignment of the address that a miss asks for. -/
def Cfg.missAlign (cfg : Cfg) (nc : Bool) : Nat :=
  if nc then (if cfg.nocAxi then 8 else 4) else 2 ^ cfg.offsetWidth

/-- The log and the registers agree on the request that waits. -/
structure Waiting (s : State cfg) (log : FetchLog) : Prop where
  pending : Busy s → log.pending = some s.vaddrQ
  idle : ¬Busy s → log.pending = none
  noFlush : Busy s → s.flushQ = false
  compare : s.stateQ = .miss → s.cmpEnQ = false
  counts : log.accepted = log.answered + log.killed + log.pending.isSome.toNat

/-- The translation of the request that waits, the offset of its word and the
miss that was asked for it. -/
structure Translated (s : State cfg) (log : FetchLog) : Prop where
  low : Busy s → ∀ paddr, log.translation = some paddr →
    paddr % 2 ^ cfg.indexWidth = cfg.alignFetch s.vaddrQ % 2 ^ cfg.indexWidth
  tag : s.stateQ = .miss →
    ∃ paddr, log.translation = some paddr ∧ s.clTagQ = paddr / 2 ^ cfg.indexWidth
  offset : s.stateQ = .read → s.clOffsetQ = cfg.fetchOffset s.vaddrQ ∨
    (s.clOffsetQ = narrowOffset (cfg.fetchOffset s.vaddrQ) ∧ cfg.nocAxi = true ∧
      (s.cacheEnQ = false ∨ ∃ paddr, log.translation = some paddr ∧
        cfg.isInsideCacheableRegions
          (paddr / 2 ^ cfg.indexWidth * 2 ^ cfg.indexWidth) = false))
  asked : s.stateQ = .miss → ∃ request, log.request = some request ∧
    request.paddr = s.clTagQ * 2 ^ cfg.indexWidth +
      s.vaddrQ % 2 ^ cfg.indexWidth / cfg.missAlign request.nc * cfg.missAlign request.nc ∧
    s.clOffsetQ =
      (if request.nc && cfg.nocAxi then narrowOffset (cfg.fetchOffset s.vaddrQ)
      else cfg.fetchOffset s.vaddrQ) ∧
    (s.cacheEnQ = true → request.nc =
      !cfg.isInsideCacheableRegions (s.clTagQ * 2 ^ cfg.indexWidth))
  held : Settled s → s.cmpEnQ = false → ∃ paddr, log.translation = some paddr ∧
    ∀ way, (tagRow s (setNow s) way).vld = true →
      (tagRow s (setNow s) way).tag ≠ paddr / 2 ^ cfg.indexWidth

/-- A valid line is cacheable and holds what the memory stores, unless it was
modified since. -/
structure Coherent (s : State cfg) (log : FetchLog) : Prop where
  cacheable : s.stateQ ≠ .flush → ∀ set way, (tagRow s set way).vld = true →
    cfg.isInsideCacheableRegions ((tagRow s set way).tag * 2 ^ cfg.indexWidth) = true
  lines : s.stateQ ≠ .flush → ∀ set way, (tagRow s set way).vld = true →
    log.modified (cfg.lineOf (tagRow s set way).tag set) = false →
      ∀ byte < 2 ^ cfg.offsetWidth, dataRow s set way byte =
        log.stored (cfg.lineOf (tagRow s set way).tag set * 2 ^ cfg.offsetWidth + byte)

end Interface

/-! ## The request that waits -/

section Waiting

variable {cfg : Cfg} {s : State cfg} {log : FetchLog} {c : Cycle cfg}

/-- Without an acceptance a request keeps waiting exactly if it is neither
answered nor killed. -/
theorem busy_step (waiting : Waiting s log)
    (flushKill : c.input.flush = true → c.input.killS2 = true)
    (kept : accepts s c.input = false) :
    Busy (step s c.input) ↔
      Busy s ∧ (pFsm s c.input).valid = false ∧ c.input.killS2 = false := by
  have waits_iff : (pFsm s c.input).stateD = .read ↔ Waits s c.input := by
    rw [stateD_read_iff, kept]
    simp
  constructor
  · rintro (read | miss)
    · have waits := waits_iff.mp read
      refine ⟨Or.inl waits.1, ?_, waits.2.1⟩
      refine Bool.eq_false_iff.mpr fun valid => ?_
      rcases ((valid_iff s c.input).mp valid).2 with served | ⟨miss, _⟩
      · rcases waits.2.2.2 with untranslated | invalidation | ⟨request, _⟩
        · exact absurd served.2.1 (by simp [untranslated])
        · exact absurd served.2.2.2.2 (by simp [invalidation])
        · exact absurd served.2.2.2.1 (by simp [((memDataReq_iff s c.input).mp request).2.2.2.1])
      · exact absurd waits.1 (by simp [miss])
    · rcases (stateD_miss_iff s c.input).mp miss with ⟨request, _⟩ | ⟨before, pending, alive, _⟩
      · rcases (memDataReq_iff s c.input).mp request with ⟨read, _, _, noResult, alive, _⟩
        refine ⟨Or.inl read, ?_, alive⟩
        refine Bool.eq_false_iff.mpr fun valid => ?_
        rcases ((valid_iff s c.input).mp valid).2 with served | ⟨miss, _⟩
        · exact absurd served.2.2.2.1 (by simp [noResult])
        · exact absurd read (by simp [miss])
      · refine ⟨Or.inr before, ?_, alive⟩
        refine Bool.eq_false_iff.mpr fun valid => ?_
        rcases ((valid_iff s c.input).mp valid).2 with served | ⟨_, answer, _⟩
        · exact absurd served.1 (by simp [before])
        · exact absurd answer (by simp [pending])
  · rintro ⟨busy, silent, alive⟩
    have noFlush : flushPending s c.input = false := by
      have calm : c.input.flush = false := by
        refine Bool.eq_false_iff.mpr fun flush => ?_
        rw [flushKill flush] at alive
        contradiction
      simp [flushPending, waiting.noFlush busy, calm]
    rcases busy with read | miss
    · by_cases translation : translated c.input = true
      · by_cases invalidation : s.invQ = true
        · exact Or.inl (waits_iff.mpr ⟨read, alive, noFlush, Or.inr (Or.inl invalidation)⟩)
        · have settled : s.invQ = false := Bool.eq_false_iff.mpr invalidation
          have noResult : hitOrException s c.input = false := by
            refine Bool.eq_false_iff.mpr fun result => ?_
            have valid := (valid_iff s c.input).mpr
              ⟨alive, Or.inl ⟨read, translation, noFlush, result, settled⟩⟩
            rw [silent] at valid
            contradiction
          have request : (pFsm s c.input).memDataReq = true :=
            (memDataReq_iff s c.input).mpr
              ⟨read, translation, noFlush, noResult, alive, settled⟩
          by_cases ack : c.input.memDataAck = true
          · exact Or.inr ((stateD_miss_iff s c.input).mpr (Or.inl ⟨request, ack⟩))
          · exact Or.inl (waits_iff.mpr ⟨read, alive, noFlush,
              Or.inr (Or.inr ⟨request, Bool.eq_false_iff.mpr ack⟩)⟩)
      · exact Or.inl (waits_iff.mpr
          ⟨read, alive, noFlush, Or.inl (Bool.eq_false_iff.mpr translation)⟩)
    · have noAnswer : ifillAck c.input = false := by
        refine Bool.eq_false_iff.mpr fun answer => ?_
        have valid := (valid_iff s c.input).mpr
          ⟨alive, Or.inr ⟨miss, answer, noFlush⟩⟩
        rw [silent] at valid
        contradiction
      exact Or.inr ((stateD_miss_iff s c.input).mpr
        (Or.inr ⟨miss, noAnswer, alive, noFlush⟩))

theorem busy_step_of_accepts (accepted : accepts s c.input = true) :
    Busy (step s c.input) ↔ c.input.killS1 = false := by
  constructor
  · rintro (read | miss)
    · rcases (stateD_read_iff s c.input).mp read with ⟨_, alive⟩ | waits
      · exact alive
      · exact absurd waits (not_waits_of_accepts accepted)
    · rcases (stateD_miss_iff s c.input).mp miss with ⟨request, _⟩ | ⟨before, _⟩
      · rw [accepts_of_memDataReq request] at accepted
        contradiction
      · rw [accepts_of_miss before] at accepted
        contradiction
  · exact fun alive => Or.inl ((stateD_read_iff s c.input).mpr (Or.inl ⟨accepted, alive⟩))

theorem flushPending_of_busy_step (busy : Busy (step s c.input)) :
    flushPending s c.input = false ∧ s.stateQ ≠ .flush := by
  rcases busy with read | miss
  · rcases (stateD_read_iff s c.input).mp read with ⟨accepted, _⟩ | waits
    · rcases ((accepts_iff s c.input).mp accepted).2 with ⟨idle, calm, _⟩ | served
      · exact ⟨calm, by simp [idle]⟩
      · exact ⟨served.2.2.1, by simp [served.1]⟩
    · exact ⟨waits.2.2.1, by simp [waits.1]⟩
  · rcases (stateD_miss_iff s c.input).mp miss with ⟨request, _⟩ | ⟨before, _, _, calm⟩
    · have asked := (memDataReq_iff s c.input).mp request
      exact ⟨asked.2.2.1, by simp [asked.1]⟩
    · exact ⟨calm, by simp [before]⟩

/-- A miss waits with the comparison off. -/
theorem cmpEnQ_of_miss_step (miss : (step s c.input).stateQ = .miss) :
    (step s c.input).cmpEnQ = false := by
  refine Bool.eq_false_iff.mpr fun compare => ?_
  have enabled := (cmpEnD_iff s c.input).mp compare
  rcases (stateD_miss_iff s c.input).mp miss with ⟨request, _⟩ | ⟨before, _⟩
  · rw [enabled.2.2] at request
    contradiction
  · simp [before] at enabled

theorem busy_of_valid (valid : (pFsm s c.input).valid = true) : Busy s := by
  rcases ((valid_iff s c.input).mp valid).2 with served | ⟨miss, _⟩
  · exact Or.inl served.1
  · exact Or.inr miss

theorem counts_step (waiting : Waiting s log) :
    (observe s c log).accepted = (observe s c log).answered + (observe s c log).killed +
      (observe s c log).pending.isSome.toNat := by
  have counts := waiting.counts
  by_cases accepted : accepts s c.input = true
  · have request : (observe s c log).pending.isSome = !c.input.killS1 := by
      cases kill : c.input.killS1 <;> simp [observe, accepted, kill]
    simp only [request]
    simp only [observe, accepted, Bool.true_and]
    rcases ((accepts_iff s c.input).mp accepted).2 with ⟨idle, _⟩ | served
    · have silent : (pFsm s c.input).valid = false := by
        refine Bool.eq_false_iff.mpr fun valid => ?_
        rcases busy_of_valid valid with read | miss
        · simp [read] at idle
        · simp [miss] at idle
      rw [waiting.idle (by simp [Busy, idle])] at counts ⊢
      cases kill : c.input.killS1 <;> simp [silent] at counts ⊢ <;> omega
    · have answer : (pFsm s c.input).valid = !c.input.killS2 := by
        rw [Bool.eq_iff_iff, valid_iff]
        simp [served]
      rw [waiting.pending (Or.inl served.1)] at counts ⊢
      cases kill : c.input.killS1 <;> cases kill' : c.input.killS2 <;>
        simp [answer, kill'] at counts ⊢ <;> omega
  · simp only [observe, Bool.eq_false_iff.mpr accepted, Bool.false_and, Bool.false_eq_true,
      if_false]
    by_cases valid : (pFsm s c.input).valid = true
    · have alive := ((valid_iff s c.input).mp valid).1
      rw [waiting.pending (busy_of_valid valid)] at counts ⊢
      simp [valid, alive] at counts ⊢
      omega
    · cases kill : c.input.killS2 <;> cases request : log.pending <;>
        simp [valid, request] at counts ⊢ <;> omega

theorem waiting_step (waiting : Waiting s log)
    (flushKill : c.input.flush = true → c.input.killS2 = true) :
    Waiting (step s c.input) (observe s c log) := by
  refine ⟨?_, ?_, ?_, cmpEnQ_of_miss_step, counts_step waiting⟩
  · intro busy
    by_cases accepted : accepts s c.input = true
    · have alive := (busy_step_of_accepts accepted).mp busy
      simp [observe, accepted, alive, step, vaddrD]
    · have kept : accepts s c.input = false := Bool.eq_false_iff.mpr accepted
      rcases (busy_step waiting flushKill kept).mp busy with ⟨before, silent, alive⟩
      simp [observe, kept, silent, alive, step, vaddrD, waiting.pending before]
  · intro idle
    by_cases accepted : accepts s c.input = true
    · have dead : c.input.killS1 = true := by
        by_contra alive
        exact idle ((busy_step_of_accepts accepted).mpr (Bool.eq_false_iff.mpr alive))
      simp [observe, accepted, dead]
    · have kept : accepts s c.input = false := Bool.eq_false_iff.mpr accepted
      by_cases before : Busy s
      · have ended : ((pFsm s c.input).valid || c.input.killS2) = true := by
          by_contra goesOn
          have both := Bool.or_eq_false_iff.mp (Bool.eq_false_iff.mpr goesOn)
          exact idle ((busy_step waiting flushKill kept).mpr ⟨before, both⟩)
        simp [observe, kept, ended]
      · simp [observe, kept, waiting.idle before]
  · intro busy
    rcases flushPending_of_busy_step busy with ⟨calm, noClear⟩
    have flushes := flushD_eq s c.input
    rw [if_neg (fun clear => noClear clear.1)] at flushes
    exact flushes.trans calm

end Waiting

/-! ## Its translation and its miss -/

section Translated

variable {cfg : Cfg} {s : State cfg} {log : FetchLog} {c : Cycle cfg}
variable {last : Option (Announcement cfg)} {clears : ClearLog}

theorem busy_of_busy_step (kept : accepts s c.input = false) (busy : Busy (step s c.input)) :
    Busy s := by
  rcases busy with read | miss
  · rcases (stateD_read_iff s c.input).mp read with ⟨accepted, _⟩ | waits
    · rw [kept] at accepted
      contradiction
    · exact Or.inl waits.1
  · rcases (stateD_miss_iff s c.input).mp miss with ⟨request, _⟩ | ⟨before, _⟩
    · exact Or.inl ((memDataReq_iff s c.input).mp request).1
    · exact Or.inr before

theorem vaddrQ_step_of_not_accepts (kept : accepts s c.input = false) :
    (step s c.input).vaddrQ = s.vaddrQ := by
  simp [step, vaddrD, kept]

theorem translationNow_of_read (read : s.stateQ = .read) (answer : c.input.fetchValid = true) :
    translationNow log s c.input = some c.input.fetchPaddr := by
  simp [translationNow, read, answer]

theorem translationNow_of_logged (environment : Environment (((s, last), clears), log) c)
    {paddr : Nat} (logged : log.translation = some paddr) :
    translationNow log s c.input = some paddr := by
  by_cases answer : s.stateQ = .read ∧ c.input.fetchValid = true
  · rw [translationNow, if_pos answer, environment.stable answer.1 answer.2 paddr logged]
  · rw [translationNow, if_neg answer, logged]

theorem low_step (environment : Environment (((s, last), clears), log) c)
    (translated : Translated s log) (busy : Busy (step s c.input)) (paddr : Nat)
    (logged : (observe s c log).translation = some paddr) :
    paddr % 2 ^ cfg.indexWidth =
      cfg.alignFetch (step s c.input).vaddrQ % 2 ^ cfg.indexWidth := by
  by_cases accepted : accepts s c.input = true
  · simp [observe, accepted] at logged
  · have kept : accepts s c.input = false := Bool.eq_false_iff.mpr accepted
    simp only [observe, kept, Bool.false_eq_true, if_false, translationNow] at logged
    rw [vaddrQ_step_of_not_accepts kept]
    split_ifs at logged with answer
    · rw [← Option.some.inj logged]
      exact environment.untranslated answer.2
    · exact translated.low (busy_of_busy_step kept busy) paddr logged

theorem fetchValid_of_memDataReq (request : (pFsm s c.input).memDataReq = true) :
    c.input.fetchValid = true := by
  have answer := ((memDataReq_iff s c.input).mp request).2.1
  simp only [translated, Bool.and_eq_true] at answer
  exact answer.1

/-- While the memory works on a miss nothing is translated. -/
theorem fetchValid_of_miss (environment : Environment (((s, last), clears), log) c)
    (miss : s.stateQ = .miss) : c.input.fetchValid = false := by
  refine Bool.eq_false_iff.mpr fun answer => ?_
  simpa [miss] using (fetchReq_iff s c.input).mp (environment.handshake answer)

/-- The log after a cycle in which a miss is presented. -/
theorem translation_of_memDataReq (request : (pFsm s c.input).memDataReq = true) :
    (observe s c log).translation = some c.input.fetchPaddr ∧
      clTagD s c.input = c.input.fetchPaddr / 2 ^ cfg.indexWidth := by
  have answer := fetchValid_of_memDataReq request
  have read := ((memDataReq_iff s c.input).mp request).1
  refine ⟨?_, by simp [clTagD, answer]⟩
  simp [observe, accepts_of_memDataReq request, translationNow_of_read read answer]

theorem miss_step_kept (environment : Environment (((s, last), clears), log) c)
    (miss : s.stateQ = .miss) :
    (observe s c log).translation = log.translation ∧
      (observe s c log).request = log.request ∧
      clTagD s c.input = s.clTagQ ∧ clOffsetD s c.input = s.clOffsetQ := by
  have noAnswer := fetchValid_of_miss environment miss
  have kept := @accepts_of_miss _ s c.input miss
  have noRequest : (pFsm s c.input).memDataReq = false := by
    refine Bool.eq_false_iff.mpr fun request => ?_
    simpa [miss] using ((memDataReq_iff s c.input).mp request).1
  refine ⟨?_, ?_, ?_, ?_⟩
  · simp [observe, kept, translationNow, noAnswer]
  · simp [observe, noRequest]
  · simp [clTagD, noAnswer]
  · simp [clOffsetD, kept, noRequest]

theorem tag_step (environment : Environment (((s, last), clears), log) c)
    (translated : Translated s log) (miss : (step s c.input).stateQ = .miss) :
    ∃ paddr, (observe s c log).translation = some paddr ∧
      (step s c.input).clTagQ = paddr / 2 ^ cfg.indexWidth := by
  rcases (stateD_miss_iff s c.input).mp miss with ⟨request, _⟩ | ⟨before, _⟩
  · exact ⟨_, translation_of_memDataReq request⟩
  · rcases translated.tag before with ⟨paddr, logged, tag⟩
    rcases miss_step_kept environment before with ⟨sameTranslation, _, sameTag, _⟩
    exact ⟨paddr, sameTranslation.trans logged, sameTag.trans tag⟩

theorem clOffsetD_of_accepts (accepted : accepts s c.input = true) :
    clOffsetD s c.input = cfg.fetchOffset c.input.vaddr := by
  cases axi : cfg.nocAxi with
  | true => simp [clOffsetD, axi, accepted, Cfg.fetchOffset, Cfg.alignFetch]
  | false =>
      simp [clOffsetD, axi, accepted, Cfg.fetchOffset, Cfg.alignFetch, cfg.piton_legal axi]

@[simp]
theorem narrowOffset_narrowOffset (offset : Nat) :
    narrowOffset (narrowOffset offset) = narrowOffset offset := by
  simp only [narrowOffset]
  omega

theorem paddrIsNc_of_narrow (environment : Environment (((s, last), clears), log) c)
    (request : (pFsm s c.input).memDataReq = true)
    (narrow : s.cacheEnQ = false ∨ ∃ paddr, log.translation = some paddr ∧
      cfg.isInsideCacheableRegions
        (paddr / 2 ^ cfg.indexWidth * 2 ^ cfg.indexWidth) = false) :
    paddrIsNc s c.input = true := by
  rcases narrow with disabled | ⟨paddr, logged, region⟩
  · simp [paddrIsNc, disabled]
  · have same := environment.stable ((memDataReq_iff s c.input).mp request).1
      (fetchValid_of_memDataReq request) paddr logged
    rw [paddrIsNc, (@translation_of_memDataReq _ _ log _ request).2, same, region]
    simp

theorem offset_step (environment : Environment (((s, last), clears), log) c)
    (translated : Translated s log) (read : (step s c.input).stateQ = .read) :
    (step s c.input).clOffsetQ = cfg.fetchOffset (step s c.input).vaddrQ ∨
      ((step s c.input).clOffsetQ = narrowOffset (cfg.fetchOffset (step s c.input).vaddrQ) ∧
        cfg.nocAxi = true ∧
        ((step s c.input).cacheEnQ = false ∨
          ∃ paddr, (observe s c log).translation = some paddr ∧
            cfg.isInsideCacheableRegions
              (paddr / 2 ^ cfg.indexWidth * 2 ^ cfg.indexWidth) = false)) := by
  rcases (stateD_read_iff s c.input).mp read with ⟨accepted, _⟩ | waits
  · refine Or.inl ((clOffsetD_of_accepts accepted).trans ?_)
    simp [step, vaddrD, accepted]
  · have kept : accepts s c.input = false :=
      Bool.eq_false_iff.mpr fun accepted => not_waits_of_accepts accepted waits
    have disabled (off : s.cacheEnQ = false) : (step s c.input).cacheEnQ = false := by
      have enables := cacheEnD_eq s c.input
      rw [if_neg (fun clear => by simp [waits.1] at clear), off, Bool.false_and] at enables
      exact enables
    rw [vaddrQ_step_of_not_accepts kept]
    by_cases narrows : cfg.nocAxi = true ∧ paddrIsNc s c.input = true ∧
        (pFsm s c.input).memDataReq = true
    · rcases narrows with ⟨axi, nc, request⟩
      refine Or.inr ⟨?_, axi, ?_⟩
      · have narrowed : (step s c.input).clOffsetQ = narrowOffset s.clOffsetQ := by
          simp [step, clOffsetD, axi, kept, nc, request, narrowOffset]
        rw [narrowed]
        rcases translated.offset waits.1 with full | ⟨narrow, _⟩
        · rw [full]
        · rw [narrow, narrowOffset_narrowOffset]
      · rcases @translation_of_memDataReq _ _ log _ request with ⟨logged, tag⟩
        simp only [paddrIsNc, Bool.or_eq_true, Bool.not_eq_true', tag] at nc
        exact nc.imp disabled fun region => ⟨_, logged, region⟩
    · have same : (step s c.input).clOffsetQ = s.clOffsetQ := by
        cases axi : cfg.nocAxi with
        | true =>
            have noNarrow : (paddrIsNc s c.input && (pFsm s c.input).memDataReq) = false := by
              simpa [axi] using narrows
            simp [step, clOffsetD, axi, kept, noNarrow]
        | false => simp [step, clOffsetD, axi, kept]
      rw [same]
      refine (translated.offset waits.1).imp_right ?_
      rintro ⟨narrow, axi, reason⟩
      refine ⟨narrow, axi, reason.imp disabled ?_⟩
      rintro ⟨paddr, logged, region⟩
      refine ⟨paddr, ?_, region⟩
      simp [observe, kept, translationNow_of_logged environment logged]

theorem asked_step (environment : Environment (((s, last), clears), log) c)
    (translated : Translated s log) (miss : (step s c.input).stateQ = .miss) :
    ∃ request, (observe s c log).request = some request ∧
      request.paddr = (step s c.input).clTagQ * 2 ^ cfg.indexWidth +
        (step s c.input).vaddrQ % 2 ^ cfg.indexWidth / cfg.missAlign request.nc *
          cfg.missAlign request.nc ∧
      (step s c.input).clOffsetQ =
        (if request.nc && cfg.nocAxi then
          narrowOffset (cfg.fetchOffset (step s c.input).vaddrQ)
        else cfg.fetchOffset (step s c.input).vaddrQ) ∧
      ((step s c.input).cacheEnQ = true → request.nc =
        !cfg.isInsideCacheableRegions ((step s c.input).clTagQ * 2 ^ cfg.indexWidth)) := by
  have enabledBefore (noClear : s.stateQ ≠ .flush)
      (enabled : (step s c.input).cacheEnQ = true) : s.cacheEnQ = true :=
    cacheEnQ_of_cacheEnD noClear enabled
  rcases (stateD_miss_iff s c.input).mp miss with ⟨request, ack⟩ | ⟨before, _⟩
  · have read := ((memDataReq_iff s c.input).mp request).1
    have kept := accepts_of_memDataReq request
    refine ⟨⟨memDataPaddr s c.input, paddrIsNc s c.input⟩, ?_, ?_, ?_, ?_⟩
    · simp [observe, request, ack]
    · rw [vaddrQ_step_of_not_accepts kept]
      rfl
    · rw [vaddrQ_step_of_not_accepts kept]
      have offset := translated.offset read
      cases axi : cfg.nocAxi with
      | false =>
          have full : s.clOffsetQ = cfg.fetchOffset s.vaddrQ := by simpa [axi] using offset
          simp [step, clOffsetD, axi, kept, full]
      | true =>
          cases nc : paddrIsNc s c.input with
          | true =>
              have narrowed : (step s c.input).clOffsetQ = narrowOffset s.clOffsetQ := by
                simp [step, clOffsetD, axi, kept, nc, request, narrowOffset]
              rw [narrowed]
              rcases offset with full | ⟨narrow, _⟩
              · simp [full]
              · simp [narrow]
          | false =>
              have same : (step s c.input).clOffsetQ = s.clOffsetQ := by
                simp [step, clOffsetD, axi, kept, nc]
              rw [same]
              rcases offset with full | ⟨_, _, narrow⟩
              · simp [full]
              · rw [paddrIsNc_of_narrow environment request narrow] at nc
                contradiction
    · intro enabled
      have on := enabledBefore (by simp [read]) enabled
      simp [paddrIsNc, on, step]
  · rcases translated.asked before with ⟨request, logged, paddr, offset, region⟩
    rcases @miss_step_kept _ _ log _ _ _ environment before with
      ⟨_, sameRequest, sameTag, sameOffset⟩
    refine ⟨request, sameRequest.trans logged, ?_, ?_, ?_⟩
    · rw [vaddrQ_step_of_not_accepts (accepts_of_miss before)]
      exact paddr.trans (by rw [← sameTag]; rfl)
    · rw [vaddrQ_step_of_not_accepts (accepts_of_miss before)]
      exact sameOffset.trans offset
    · intro enabled
      have on := enabledBefore (by simp [before]) enabled
      exact (region on).trans (by rw [← sameTag]; rfl)

/-- A settled lookup with the comparison off follows the presentation of its
miss. -/
theorem memDataReq_of_held (settled : Settled (step s c.input))
    (noCompare : (step s c.input).cmpEnQ = false) :
    (pFsm s c.input).memDataReq = true ∧ s.cacheEnQ = true := by
  have enabled : s.cacheEnQ = true := (inFlight_step ⟨Or.inl settled.1, settled.2.1⟩).1
  have states : s.stateQ = .idle ∨ s.stateQ = .read := by
    rcases (stateD_read_iff s c.input).mp settled.1 with ⟨accepted, _⟩ | waits
    · exact accepts_state accepted
    · exact Or.inr waits.1
  refine ⟨?_, enabled⟩
  by_contra noRequest
  have compare := (cmpEnD_iff s c.input).mpr ⟨states, enabled, Bool.eq_false_iff.mpr noRequest⟩
  exact absurd noCompare (by simp [step, compare])

theorem held_step (lookup : Lookup s) (settled : Settled (step s c.input))
    (noCompare : (step s c.input).cmpEnQ = false) :
    ∃ paddr, (observe s c log).translation = some paddr ∧
      ∀ way, (tagRow (step s c.input) (setNow (step s c.input)) way).vld = true →
        (tagRow (step s c.input) (setNow (step s c.input)) way).tag ≠
          paddr / 2 ^ cfg.indexWidth := by
  rcases memDataReq_of_held settled noCompare with ⟨request, enabled⟩
  rcases @translation_of_memDataReq _ _ log _ request with ⟨logged, tag⟩
  refine ⟨_, logged, ?_⟩
  rw [setNow_step_of_not_accepts (accepts_of_memDataReq request),
    tagRow_step_of_read (settled_step settled).1, ← tag]
  exact tag_ne_of_memDataReq lookup request enabled

theorem translated_step (lookup : Lookup s)
    (environment : Environment (((s, last), clears), log) c) (translated : Translated s log) :
    Translated (step s c.input) (observe s c log) :=
  ⟨low_step environment translated, tag_step environment translated,
    offset_step environment translated, asked_step environment translated, held_step lookup⟩

end Translated

end Cva6Hpd.Icache
