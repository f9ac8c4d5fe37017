import Cva6Hpd.Hw.Machine
import Cva6Hpd.Icache.Control
import Mathlib.Data.BitVec
import Mathlib.Data.Nat.Log

/-!
# The line fills of the instruction cache

`cva6_icache_axi_wrapper` with the read channel of its `axi_shim`. A request of the instruction
cache is kept until the bus accepts its address, and the beats of its burst are shifted into a
line. The length of the burst is that of a line in words of 64 bits, whatever the width of the
bus, and is cut to the width of its wire.
-/

namespace Cva6Hpd.CacheSubsystem.IcacheAxiWrapper

open Cva6Hpd.Hw

/-- The widths: those of a line of either cache and of the data of the bus are powers of two. A
line of the instruction cache has at least the width of the bus, which has a size that it can
name, and no burst has more than 256 beats. -/
structure Cfg where
  plen : Nat
  axiAddrWidth : Nat
  tidWidth : Nat
  lineLog : Nat
  dcacheLineLog : Nat
  axiLog : Nat
  plen_le : plen ≤ axiAddrWidth
  axi_le_line : axiLog ≤ lineLog
  byte_le_axi : 3 ≤ axiLog
  axi_le : axiLog ≤ 10
  lines_le : max lineLog dcacheLineLog ≤ axiLog + 8

namespace Cfg

variable (cfg : Cfg)

/-- `ICACHE_LINE_WIDTH`. -/
def icacheLineWidth : Nat := 2 ^ cfg.lineLog

/-- `DCACHE_LINE_WIDTH`. -/
def dcacheLineWidth : Nat := 2 ^ cfg.dcacheLineLog

/-- `AxiDataWidth`. -/
def axiDataWidth : Nat := 2 ^ cfg.axiLog

def axiNumWords : Nat :=
  cfg.icacheLineWidth / cfg.axiDataWidth *
      (decide (cfg.icacheLineWidth > cfg.dcacheLineWidth)).toNat +
    cfg.dcacheLineWidth / cfg.axiDataWidth *
      (decide (cfg.icacheLineWidth ≤ cfg.dcacheLineWidth)).toNat

/-- The width of `axi_rd_blen`: a range from -1 to 0 has two bits. -/
def blenBits : Nat := if Nat.clog 2 cfg.axiNumWords = 0 then 2 else Nat.clog 2 cfg.axiNumWords

/-- The words of a line. -/
def words : Nat := cfg.icacheLineWidth / cfg.axiDataWidth

theorem words_eq : cfg.words = 2 ^ (cfg.lineLog - cfg.axiLog) :=
  Nat.pow_div cfg.axi_le_line (by decide)

instance neZeroWords : NeZero cfg.words := ⟨by
  rw [words_eq]
  exact (Nat.two_pow_pos _).ne'⟩

/-- The burst of a line has the right length. -/
def Fits : Prop :=
  cfg.axiDataWidth = 64 ∨
    (cfg.dcacheLineWidth ≤ cfg.icacheLineWidth ∧ cfg.axiDataWidth < cfg.icacheLineWidth ∧
      (64 ≤ cfg.axiDataWidth ∨ cfg.icacheLineWidth < 64))

end Cfg

abbrev Word (cfg : Cfg) : Type := BitVec cfg.axiDataWidth

/-- A line, with its first word at the lowest bits. -/
abbrev Line (cfg : Cfg) : Type := Fin cfg.words → Word cfg

/-- `icache_req_t`. -/
structure IcacheReq (cfg : Cfg) where
  paddr : BitVec cfg.plen
  nc : Bool
  tid : BitVec cfg.tidWidth
deriving DecidableEq

/-- The read address channel. -/
structure Ar (cfg : Cfg) where
  addr : BitVec cfg.axiAddrWidth
  len : BitVec 8
  size : BitVec 3
deriving DecidableEq

structure State (cfg : Cfg) where
  reqValidQ : Bool
  reqDataQ : IcacheReq cfg
  firstQ : Bool
  rdShiftQ : Line cfg

structure Input (cfg : Cfg) where
  dataReq : Bool
  data : IcacheReq cfg
  arReady : Bool
  rValid : Bool
  rData : Word cfg
  rLast : Bool

def reset (cfg : Cfg) : State cfg where
  reqValidQ := false
  reqDataQ := ⟨0, false, 0⟩
  firstQ := true
  rdShiftQ := fun _ => 0

/-! ## The code -/

section Code

variable {cfg : Cfg} (s : State cfg) (i : Input cfg)

def axiRdReq : Bool := i.dataReq || s.reqValidQ

def axiRdGnt : Bool := axiRdReq s i && i.arReady

def reqDataD : IcacheReq cfg := if i.dataReq then i.data else s.reqDataQ

def axiRdBlen : BitVec cfg.blenBits :=
  if (reqDataD s i).nc then 0 else BitVec.ofNat _ (cfg.icacheLineWidth / 64) - 1

def axiRdSize : BitVec 3 := BitVec.ofNat 3 (Nat.clog 2 (cfg.axiDataWidth / 8))

/-- `axi_req_o.ar`. -/
def ar : Ar cfg where
  addr := (reqDataD s i).paddr.setWidth _
  len := (axiRdBlen s i).setWidth 8
  size := @axiRdSize cfg

def icacheMemRtrnVld : Bool := i.rValid && i.rLast

/-- `icache_mem_rtrn.tid`. -/
def icacheMemRtrnTid : BitVec cfg.tidWidth := s.reqDataQ.tid

def firstD : Bool := if i.rValid then i.rLast else s.firstQ

/-- The beat is shifted in from the top. -/
def shifted : Line cfg :=
  if cfg.icacheLineWidth = cfg.axiDataWidth then fun _ => i.rData
  else fun k => if inside : k.val + 1 < cfg.words then s.rdShiftQ ⟨k.val + 1, inside⟩ else i.rData

/-- `rd_shift_d`, which is `icache_mem_rtrn.data` as well. -/
def rdShiftD : Line cfg :=
  if i.rValid then
    if s.firstQ then Function.update (shifted s i) 0 i.rData else shifted s i
  else s.rdShiftQ

def step : State cfg where
  reqValidQ := !axiRdGnt s i && (i.dataReq || s.reqValidQ)
  reqDataQ := reqDataD s i
  firstQ := firstD s i
  rdShiftQ := rdShiftD s i

end Code

/-! ## What has been asked and answered -/

/-- The request whose address waits, and the one whose burst has been accepted, with the beats so
far. -/
structure Ledger (cfg : Cfg) where
  waiting : Option (IcacheReq cfg)
  burst : Option (IcacheReq cfg × Ar cfg)
  beats : List (Word cfg)

section Ledger

variable {cfg : Cfg} (s : State cfg) (i : Input cfg) (l : Ledger cfg)

/-- The request whose address is due. -/
def due : Option (IcacheReq cfg) := if i.dataReq then some i.data else l.waiting

def record : Ledger cfg where
  waiting := if axiRdGnt s i then none else due i l
  burst :=
    if axiRdGnt s i then (due i l).map fun request => (request, ar s i)
    else if icacheMemRtrnVld i then none
    else l.burst
  beats :=
    if axiRdGnt s i || icacheMemRtrnVld i then []
    else if i.rValid then l.beats ++ [i.rData]
    else l.beats

end Ledger

/-- The wrapper with its ledger. -/
def wrapper (cfg : Cfg) : Machine (State cfg × Ledger cfg) (Input cfg) :=
  Machine.withHistory ⟨reset cfg, step⟩ ⟨none, none, []⟩ record

/-! ## The law -/

section Law

variable {cfg : Cfg}

/-- The cache has one request at a time, and the bus returns the beats of the burst that it has
accepted and marks the last one. -/
structure Environment (c : State cfg × Ledger cfg) (i : Input cfg) : Prop where
  alone : i.dataReq = true → c.2.waiting = none ∧ c.2.burst = none
  beats : i.rValid = true →
    ∃ burst ∈ c.2.burst, i.rLast = decide (c.2.beats.length = burst.2.len.toNat)

/-- The bits that a burst transfers. -/
def Ar.bits (ar : Ar cfg) : Nat := (ar.len.toNat + 1) * (8 * 2 ^ ar.size.toNat)

/-- The burst is that of the request: a line, or one word where it is not cacheable. -/
structure Asks (request : IcacheReq cfg) (ar : Ar cfg) : Prop where
  addr : ar.addr.toNat = request.paddr.toNat
  bits : ar.bits = if request.nc then cfg.axiDataWidth else cfg.icacheLineWidth

/-- The line consists of the beats in order; only its first word is of interest where the request
is not cacheable. -/
def Returned (request : IcacheReq cfg) (beats : List (Word cfg)) (line : Line cfg) : Prop :=
  if request.nc then beats = [line 0] else beats = List.ofFn line

/-- What is asked for in one cycle. -/
structure Sound (c : State cfg × Ledger cfg) (i : Input cfg) : Prop where
  asks : axiRdReq c.1 i = (due i c.2).isSome
  burst : ∀ request ∈ due i c.2, Asks request (ar c.1 i)
  returns : icacheMemRtrnVld i = true ↔
    i.rValid = true ∧ ∃ burst ∈ c.2.burst, c.2.beats.length = burst.2.len.toNat
  line : icacheMemRtrnVld i = true → ∃ burst ∈ c.2.burst,
    icacheMemRtrnTid c.1 = burst.1.tid ∧
      Returned burst.1 (c.2.beats ++ [i.rData]) (rdShiftD c.1 i)

end Law

/-! ## The length of a burst -/

section Length

variable {cfg : Cfg}

theorem toNat_pow_sub_one (width exponent : Nat) :
    (BitVec.ofNat width (2 ^ exponent) - BitVec.ofNat width 1).toNat + 1 =
      2 ^ min exponent width := by
  have positive := Nat.two_pow_pos width
  rcases Nat.lt_or_ge exponent width with less | more
  · have small : 2 ^ exponent < 2 ^ width := Nat.pow_lt_pow_right (by decide) less
    have some := Nat.two_pow_pos exponent
    have one : (BitVec.ofNat width 1).toNat = 1 := BitVec.toNat_one (by omega)
    rw [Nat.min_eq_left less.le, BitVec.toNat_sub_of_le, BitVec.toNat_ofNat,
      Nat.mod_eq_of_lt small, one, Nat.sub_add_cancel some]
    rw [BitVec.le_def, one, BitVec.toNat_ofNat, Nat.mod_eq_of_lt small]
    exact some
  · have zero : BitVec.ofNat width (2 ^ exponent) = BitVec.ofNat width 0 := by
      apply BitVec.eq_of_toNat_eq
      rw [BitVec.toNat_ofNat, BitVec.toNat_ofNat, Nat.zero_mod]
      exact Nat.mod_eq_zero_of_dvd (Nat.pow_dvd_pow 2 more)
    rw [Nat.min_eq_right more, zero, BitVec.zero_sub, BitVec.neg_one_eq_allOnes,
      BitVec.toNat_allOnes]
    exact Nat.sub_add_cancel positive

namespace Cfg

theorem axiNumWords_eq :
    cfg.axiNumWords = 2 ^ (max cfg.lineLog cfg.dcacheLineLog - cfg.axiLog) := by
  have fits := cfg.axi_le_line
  rcases Nat.lt_or_ge cfg.dcacheLineLog cfg.lineLog with less | more
  · have wider : cfg.dcacheLineWidth < cfg.icacheLineWidth := Nat.pow_lt_pow_right (by decide) less
    rw [axiNumWords, decide_eq_true wider, decide_eq_false (Nat.not_le.mpr wider),
      Nat.max_eq_left less.le]
    have quotient : cfg.icacheLineWidth / cfg.axiDataWidth = 2 ^ (cfg.lineLog - cfg.axiLog) :=
      Nat.pow_div fits (by decide)
    simp [quotient]
  · have wider : cfg.icacheLineWidth ≤ cfg.dcacheLineWidth := Nat.pow_le_pow_right (by decide) more
    rw [axiNumWords, decide_eq_true wider, decide_eq_false (Nat.not_lt.mpr wider),
      Nat.max_eq_right more]
    have quotient : cfg.dcacheLineWidth / cfg.axiDataWidth =
        2 ^ (cfg.dcacheLineLog - cfg.axiLog) := Nat.pow_div (fits.trans more) (by decide)
    simp [quotient]

theorem blenBits_eq : cfg.blenBits =
    if max cfg.lineLog cfg.dcacheLineLog - cfg.axiLog = 0 then 2
    else max cfg.lineLog cfg.dcacheLineLog - cfg.axiLog := by
  rw [blenBits, axiNumWords_eq, Nat.clog_pow 2 _ (by decide)]

theorem blenBits_le : cfg.blenBits ≤ 8 := by
  have lines := cfg.lines_le
  rw [blenBits_eq]
  split <;> omega

/-- The exponent of the number of beats of a line. -/
def beatsLog (cfg : Cfg) : Nat :=
  if 6 ≤ cfg.lineLog then min (cfg.lineLog - 6) cfg.blenBits else cfg.blenBits

theorem fits_iff : cfg.Fits ↔ cfg.beatsLog = cfg.lineLog - cfg.axiLog := by
  have fits := cfg.axi_le_line
  have lt_iff {small large : Nat} : 2 ^ small < 2 ^ large ↔ small < large :=
    Nat.pow_lt_pow_iff_right (by decide)
  have le_iff {small large : Nat} : 2 ^ small ≤ 2 ^ large ↔ small ≤ large :=
    Nat.pow_le_pow_iff_right (by decide)
  have eq_iff {first second : Nat} : 2 ^ first = 2 ^ second ↔ first = second :=
    Nat.pow_right_inj (by decide)
  have word : 64 = 2 ^ 6 := rfl
  rw [Fits, axiDataWidth, icacheLineWidth, dcacheLineWidth, word, eq_iff, le_iff, lt_iff, le_iff,
    lt_iff, beatsLog, blenBits_eq]
  split <;> split <;> omega

end Cfg

variable {s : State cfg} {i : Input cfg}

theorem axiRdBlen_of_line (line : (reqDataD s i).nc = false) :
    (axiRdBlen s i).toNat + 1 = 2 ^ cfg.beatsLog := by
  rw [axiRdBlen, line, if_neg Bool.false_ne_true, Cfg.beatsLog]
  by_cases wide : 6 ≤ cfg.lineLog
  · have words : cfg.icacheLineWidth / 64 = 2 ^ (cfg.lineLog - 6) :=
      Nat.pow_div wide (by decide)
    rw [words, if_pos wide]
    exact toNat_pow_sub_one ..
  · have none : cfg.icacheLineWidth / 64 = 0 := by
      apply Nat.div_eq_of_lt
      exact Nat.pow_lt_pow_right (n := 6) (by decide) (Nat.not_le.mp wide)
    rw [none, if_neg wide, BitVec.ofNat_eq_ofNat, BitVec.zero_sub, BitVec.neg_one_eq_allOnes,
      BitVec.toNat_allOnes]
    exact Nat.sub_add_cancel (Nat.two_pow_pos _)

theorem ar_len : (ar s i).len.toNat = (axiRdBlen s i).toNat := by
  have small : (axiRdBlen s i).toNat < 2 ^ 8 :=
    Nat.lt_of_lt_of_le (axiRdBlen s i).isLt (Nat.pow_le_pow_right (by decide) cfg.blenBits_le)
  rw [ar, BitVec.toNat_setWidth, Nat.mod_eq_of_lt small]

theorem ar_size : 8 * 2 ^ (ar s i).size.toNat = cfg.axiDataWidth := by
  have low := cfg.byte_le_axi
  have high := cfg.axi_le
  have bytes : cfg.axiDataWidth / 8 = 2 ^ (cfg.axiLog - 3) := Nat.pow_div low (by decide)
  have small : cfg.axiLog - 3 < 2 ^ 3 := by omega
  rw [ar, axiRdSize, bytes, Nat.clog_pow 2 _ (by decide), BitVec.toNat_ofNat,
    Nat.mod_eq_of_lt small, Cfg.axiDataWidth]
  calc
    8 * 2 ^ (cfg.axiLog - 3) = 2 ^ 3 * 2 ^ (cfg.axiLog - 3) := rfl
    _ = 2 ^ cfg.axiLog := by rw [← Nat.pow_add, Nat.add_sub_cancel' low]

theorem asks_iff : Asks (reqDataD s i) (ar s i) ↔ ((reqDataD s i).nc = false → cfg.Fits) := by
  have addr : (ar s i).addr.toNat = (reqDataD s i).paddr.toNat :=
    BitVec.toNat_setWidth_of_le cfg.plen_le
  have bits : (ar s i).bits = ((axiRdBlen s i).toNat + 1) * cfg.axiDataWidth := by
    rw [Ar.bits, ar_size, ar_len]
  cases nc : (reqDataD s i).nc with
  | true =>
      apply iff_of_true
      · refine ⟨addr, ?_⟩
        rw [bits, nc, axiRdBlen, nc]
        simp
      · intro line
        cases line
  | false =>
      have whole : cfg.icacheLineWidth = 2 ^ (cfg.lineLog - cfg.axiLog) * cfg.axiDataWidth := by
        rw [Cfg.icacheLineWidth, Cfg.axiDataWidth, ← Nat.pow_add,
          Nat.sub_add_cancel cfg.axi_le_line]
      have positive : cfg.axiDataWidth ≠ 0 := (Nat.two_pow_pos _).ne'
      have same : (ar s i).bits = cfg.icacheLineWidth ↔ cfg.Fits := by
        rw [bits, axiRdBlen_of_line nc, whole, Nat.mul_left_inj positive,
          Nat.pow_right_inj (by decide), Cfg.fits_iff]
      constructor
      · intro asks _
        have right := asks.bits
        rw [nc, if_neg Bool.false_ne_true] at right
        exact same.mp right
      · intro fits
        refine ⟨addr, ?_⟩
        rw [nc, if_neg Bool.false_ne_true]
        exact same.mpr (fits rfl)

theorem len_of_fits (fits : cfg.Fits) (line : (reqDataD s i).nc = false) :
    (ar s i).len.toNat + 1 = cfg.words := by
  rw [ar_len, axiRdBlen_of_line line, Cfg.fits_iff.mp fits, Cfg.words_eq]

theorem len_of_nc (single : (reqDataD s i).nc = true) : (ar s i).len.toNat = 0 := by
  rw [ar_len, axiRdBlen, if_pos single]
  exact BitVec.toNat_zero

end Length

/-! ## The shift register -/

section Shift

variable {cfg : Cfg} {s : State cfg} {i : Input cfg} {beats : List (Word cfg)}

/-- The top words of the register are the beats so far. -/
def Holds (register : Line cfg) (beats : List (Word cfg)) : Prop :=
  ∀ k : Fin cfg.words, cfg.words ≤ k.val + beats.length →
    beats[k.val + beats.length - cfg.words]? = some (register k)

theorem shifted_top {k : Fin cfg.words} (top : ¬k.val + 1 < cfg.words) :
    shifted s i k = i.rData := by
  rw [shifted]
  split
  · rfl
  · exact dif_neg top

theorem shifted_below {k : Fin cfg.words} (below : k.val + 1 < cfg.words) :
    shifted s i k = s.rdShiftQ ⟨k.val + 1, below⟩ := by
  have several : cfg.icacheLineWidth ≠ cfg.axiDataWidth := by
    intro same
    have positive : 0 < cfg.axiDataWidth := Nat.two_pow_pos _
    have one : cfg.words = 1 := by rw [Cfg.words, same, Nat.div_self positive]
    omega
  rw [shifted, if_neg several]
  exact dif_pos below

theorem holds_shifted (holds : Holds s.rdShiftQ beats) :
    Holds (shifted s i) (beats ++ [i.rData]) := by
  intro k top
  rw [List.length_append, List.length_singleton] at top ⊢
  by_cases below : k.val + 1 < cfg.words
  · have next : k.val + (beats.length + 1) - cfg.words =
        (⟨k.val + 1, below⟩ : Fin cfg.words).val + beats.length - cfg.words := by
      dsimp only
      omega
    rw [shifted_below below, next, List.getElem?_append_left (by dsimp only; omega)]
    apply holds
    dsimp only
    omega
  · have last : k.val + (beats.length + 1) - cfg.words = beats.length := by omega
    rw [shifted_top below, last, List.getElem?_concat_length]

/-- One more beat. The first one is written to the lowest word as well. -/
theorem holds_beat (valid : i.rValid = true) (first : s.firstQ = decide (beats = []))
    (holds : Holds s.rdShiftQ beats) : Holds (rdShiftD s i) (beats ++ [i.rData]) := by
  rw [rdShiftD, if_pos valid]
  split
  · rename_i start
    rw [first, decide_eq_true_eq] at start
    subst start
    intro k top
    have last : k.val + ([] ++ [i.rData]).length - cfg.words = 0 := by
      rw [List.nil_append, List.length_singleton]
      omega
    rw [last]
    rcases eq_or_ne k 0 with rfl | other
    · rw [Function.update_self]
      rfl
    · rw [Function.update_of_ne other, ← holds_shifted holds k top, last]
  · exact holds_shifted holds

theorem line_of_holds {register : Line cfg} (holds : Holds register beats)
    (full : beats.length = cfg.words) : beats = List.ofFn register := by
  apply List.ext_getElem?
  intro index
  by_cases inside : index < cfg.words
  · have here := holds ⟨index, inside⟩ (by dsimp only; omega)
    have same : index + beats.length - cfg.words = index := by omega
    rw [same] at here
    rw [here, List.getElem?_ofFn, dif_pos inside]
  · rw [List.getElem?_eq_none (by omega), List.getElem?_ofFn, dif_neg inside]

end Shift

/-! ## Runs -/

section Runs

variable {cfg : Cfg} {c : State cfg × Ledger cfg} {i : Input cfg}

/-- The burst of the request that has been accepted is under way. -/
structure Filling (c : State cfg × Ledger cfg) (burst : IcacheReq cfg × Ar cfg) : Prop where
  idle : c.2.waiting = none
  request : c.1.reqDataQ = burst.1
  within : c.2.beats.length ≤ burst.2.len.toNat
  length : burst.2.len.toNat + 1 = if burst.1.nc then 1 else cfg.words

/-- The state is that of the ledger. -/
structure Tracked (c : State cfg × Ledger cfg) : Prop where
  valid : c.1.reqValidQ = c.2.waiting.isSome
  waiting : ∀ request ∈ c.2.waiting, c.1.reqDataQ = request ∧ c.2.burst = none
  filling : ∀ burst ∈ c.2.burst, Filling c burst
  empty : c.2.burst = none → c.2.beats = []
  first : c.1.firstQ = decide (c.2.beats = [])
  holds : Holds c.1.rdShiftQ c.2.beats

theorem tracked_reset : Tracked (wrapper cfg).reset where
  valid := rfl
  waiting _ absent := by cases absent
  filling _ absent := by cases absent
  empty _ := rfl
  first := rfl
  holds k top := absurd k.isLt (Nat.not_lt.mpr top)

theorem Tracked.due_eq (tracked : Tracked c) : axiRdReq c.1 i = (due i c.2).isSome ∧
    ∀ request ∈ due i c.2, reqDataD c.1 i = request := by
  rw [axiRdReq, due, reqDataD]
  cases i.dataReq with
  | true => exact ⟨rfl, fun request same => Option.some.inj same⟩
  | false => exact ⟨tracked.valid, fun request waits => (tracked.waiting request waits).1⟩

theorem Tracked.beat (tracked : Tracked c) (environment : Environment c i)
    (valid : i.rValid = true) : ∃ burst ∈ c.2.burst, Filling c burst ∧
      i.rLast = decide (c.2.beats.length = burst.2.len.toNat) ∧ axiRdReq c.1 i = false := by
  obtain ⟨burst, accepted, last⟩ := environment.beats valid
  have filling := tracked.filling burst accepted
  refine ⟨burst, accepted, filling, last, ?_⟩
  have quiet : i.dataReq = false := by
    cases request : i.dataReq with
    | false => rfl
    | true =>
        have none := (environment.alone request).2
        rw [accepted] at none
        cases none
  rw [axiRdReq, quiet, tracked.valid, filling.idle]
  rfl

theorem Tracked.sound (fits : cfg.Fits) (tracked : Tracked c) (environment : Environment c i) :
    Sound c i := by
  obtain ⟨asks, same⟩ := @Tracked.due_eq cfg c i tracked
  constructor
  · exact asks
  · intro request waits
    rw [← same request waits]
    exact asks_iff.mpr fun _ => fits
  · rw [icacheMemRtrnVld, Bool.and_eq_true]
    constructor
    · rintro ⟨valid, last⟩
      obtain ⟨burst, accepted, -, marked, -⟩ := tracked.beat environment valid
      rw [marked, decide_eq_true_eq] at last
      exact ⟨valid, burst, accepted, last⟩
    · rintro ⟨valid, burst, accepted, last⟩
      obtain ⟨other, same, -, marked, -⟩ := tracked.beat environment valid
      obtain rfl : burst = other := Option.some.inj (accepted.symm.trans same)
      exact ⟨valid, by rw [marked, decide_eq_true last]⟩
  · intro returns
    rw [icacheMemRtrnVld, Bool.and_eq_true] at returns
    obtain ⟨valid, last⟩ := returns
    obtain ⟨burst, accepted, filling, marked, -⟩ := tracked.beat environment valid
    rw [marked, decide_eq_true_eq] at last
    refine ⟨burst, accepted, congrArg IcacheReq.tid filling.request, ?_⟩
    have length := filling.length
    rw [← last] at length
    rw [Returned]
    cases single : burst.1.nc with
    | true =>
        rw [single, if_pos rfl] at length
        have start : c.2.beats = [] := List.eq_nil_of_length_eq_zero (Nat.succ.inj length)
        rw [if_pos rfl, start, rdShiftD, if_pos valid, tracked.first, decide_eq_true start,
          if_pos rfl, Function.update_self]
        rfl
    | false =>
        rw [single, if_neg Bool.false_ne_true] at length
        rw [if_neg Bool.false_ne_true]
        apply line_of_holds (holds_beat valid tracked.first tracked.holds)
        rw [List.length_append, List.length_singleton, length]

theorem Tracked.free (tracked : Tracked c) (environment : Environment c i)
    (waits : (due i c.2).isSome = true) : c.2.burst = none := by
  cases request : i.dataReq with
  | true => exact (environment.alone request).2
  | false =>
      rw [due, request, if_neg Bool.false_ne_true] at waits
      obtain ⟨waiting, same⟩ := Option.isSome_iff_exists.mp waits
      exact (tracked.waiting waiting same).2

theorem Tracked.step_of_beat (tracked : Tracked c) (environment : Environment c i)
    (valid : i.rValid = true) : Tracked ((wrapper cfg).step c i) := by
  obtain ⟨burst, accepted, filling, marked, quiet⟩ := tracked.beat environment valid
  have noRequest : i.dataReq = false := (Bool.or_eq_false_iff.mp quiet).1
  have noGrant : axiRdGnt c.1 i = false := by rw [axiRdGnt, quiet, Bool.false_and]
  have request : reqDataD c.1 i = c.1.reqDataQ := by
    rw [reqDataD, noRequest, if_neg Bool.false_ne_true]
  have first : firstD c.1 i = i.rLast := if_pos valid
  have holds := holds_beat valid tracked.first tracked.holds
  have waiting : (record c.1 i c.2).waiting = none := by
    rw [record, noGrant, due, noRequest]
    exact filling.idle
  cases last : i.rLast with
  | true =>
      have after : record c.1 i c.2 = ⟨none, none, []⟩ := by
        rw [← waiting]
        simp [record, noGrant, icacheMemRtrnVld, valid, last]
      have next : (wrapper cfg).step c i = (step c.1 i, ⟨none, none, []⟩) := Prod.ext rfl after
      rw [next]
      constructor
      · change (!axiRdGnt c.1 i && axiRdReq c.1 i) = false
        rw [quiet, Bool.and_false]
      · intro _ absent
        cases absent
      · intro _ absent
        cases absent
      · intro _
        rfl
      · exact first.trans last
      · exact fun k top => absurd k.isLt (Nat.not_lt.mpr top)
  | false =>
      rw [last] at marked
      have more : c.2.beats.length < burst.2.len.toNat :=
        Nat.lt_of_le_of_ne filling.within (of_decide_eq_false marked.symm)
      have after : record c.1 i c.2 = ⟨none, some burst, c.2.beats ++ [i.rData]⟩ := by
        have kept : c.2.burst = some burst := accepted
        rw [← waiting]
        simp [record, noGrant, icacheMemRtrnVld, valid, last, kept]
      have next : (wrapper cfg).step c i =
          (step c.1 i, ⟨none, some burst, c.2.beats ++ [i.rData]⟩) := Prod.ext rfl after
      rw [next]
      constructor
      · change (!axiRdGnt c.1 i && axiRdReq c.1 i) = false
        rw [quiet, Bool.and_false]
      · intro _ absent
        cases absent
      · intro other same
        obtain rfl : burst = other := Option.some.inj same
        constructor
        · rfl
        · exact request.trans filling.request
        · rw [List.length_append, List.length_singleton]
          exact more
        · exact filling.length
      · intro absent
        cases absent
      · rw [decide_eq_false (List.append_ne_nil_of_right_ne_nil _ (List.cons_ne_nil _ _))]
        exact first.trans last
      · exact holds

/-- A cycle without a beat. -/
theorem Tracked.step_of_silent (fits : cfg.Fits) (tracked : Tracked c)
    (environment : Environment c i) (silent : i.rValid = false) :
    Tracked ((wrapper cfg).step c i) := by
  obtain ⟨asks, same⟩ := @Tracked.due_eq cfg c i tracked
  have first : firstD c.1 i = c.1.firstQ := by rw [firstD, silent, if_neg Bool.false_ne_true]
  have register : rdShiftD c.1 i = c.1.rdShiftQ := by
    rw [rdShiftD, silent, if_neg Bool.false_ne_true]
  have noReturn : icacheMemRtrnVld i = false := by rw [icacheMemRtrnVld, silent, Bool.false_and]
  cases grant : axiRdGnt c.1 i with
  | true =>
      have requested : axiRdReq c.1 i = true := (Bool.and_eq_true_iff.mp grant).1
      rw [requested] at asks
      obtain ⟨request, waits⟩ := Option.isSome_iff_exists.mp asks.symm
      have empty := tracked.empty (tracked.free environment asks.symm)
      have after : record c.1 i c.2 = ⟨none, some (request, ar c.1 i), []⟩ := by
        simp [record, grant, waits]
      have next : (wrapper cfg).step c i =
          (step c.1 i, ⟨none, some (request, ar c.1 i), []⟩) := Prod.ext rfl after
      have due := same request waits
      rw [next]
      constructor
      · change (!axiRdGnt c.1 i && axiRdReq c.1 i) = false
        rw [grant]
        rfl
      · intro _ absent
        cases absent
      · intro burst accepted
        obtain rfl : (request, ar c.1 i) = burst := Option.some.inj accepted
        constructor
        · rfl
        · exact due
        · exact Nat.zero_le _
        · dsimp only
          rw [← due]
          cases single : (reqDataD c.1 i).nc with
          | true => rw [len_of_nc single, if_pos rfl]
          | false => rw [len_of_fits fits single, if_neg Bool.false_ne_true]
      · intro absent
        cases absent
      · change firstD c.1 i = true
        rw [first, tracked.first, decide_eq_true empty]
      · exact fun k top => absurd k.isLt (Nat.not_lt.mpr top)
  | false =>
      have after : record c.1 i c.2 = ⟨due i c.2, c.2.burst, c.2.beats⟩ := by
        simp [record, grant, noReturn, silent]
      have next : (wrapper cfg).step c i =
          (step c.1 i, ⟨due i c.2, c.2.burst, c.2.beats⟩) := Prod.ext rfl after
      rw [next]
      constructor
      · change (!axiRdGnt c.1 i && axiRdReq c.1 i) = _
        rw [grant, asks]
        rfl
      · intro request waits
        exact ⟨same request waits, tracked.free environment (Option.isSome_of_mem waits)⟩
      · intro burst accepted
        have filling := tracked.filling burst accepted
        have quiet : i.dataReq = false := by
          cases request : i.dataReq with
          | false => rfl
          | true =>
              have none := (environment.alone request).2
              rw [accepted] at none
              cases none
        constructor
        · change due i c.2 = none
          rw [due, quiet]
          exact filling.idle
        · change reqDataD c.1 i = _
          rw [reqDataD, quiet]
          exact filling.request
        · exact filling.within
        · exact filling.length
      · exact tracked.empty
      · exact first.trans tracked.first
      · change Holds (rdShiftD c.1 i) _
        rw [register]
        exact tracked.holds

theorem Tracked.step (fits : cfg.Fits) (tracked : Tracked c) (environment : Environment c i) :
    Tracked ((wrapper cfg).step c i) := by
  cases valid : i.rValid with
  | true => exact tracked.step_of_beat environment valid
  | false => exact tracked.step_of_silent fits environment valid

/-- The request of a line, whose address is accepted at once. -/
def lineRequest (cfg : Cfg) : Input cfg where
  dataReq := true
  data := ⟨0, false, 0⟩
  arReady := true
  rValid := false
  rData := 0
  rLast := false

theorem environment_lineRequest : Environment (wrapper cfg).reset (lineRequest cfg) where
  alone _ := ⟨rfl, rfl⟩
  beats valid := by cases valid

theorem fits_of_sound (sound : Sound (wrapper cfg).reset (lineRequest cfg)) : cfg.Fits := by
  have asks : Asks (reqDataD (reset cfg) (lineRequest cfg)) (ar (reset cfg) (lineRequest cfg)) :=
    sound.burst ⟨0, false, 0⟩ rfl
  exact asks_iff.mp asks rfl

/-- Every run fills the lines that are asked for exactly if the length of a burst fits the widths of
the line and of the bus. -/
theorem fills_iff (cfg : Cfg) :
    (∀ inputs : List (Input cfg), (wrapper cfg).RunAlong Environment inputs →
      (wrapper cfg).RunAlong Sound inputs) ↔ cfg.Fits := by
  constructor
  · intro fills
    exact fits_of_sound (fills [lineRequest cfg] ⟨environment_lineRequest, trivial⟩).1
  · intro fits inputs along
    exact along.of_invariant Tracked (fun _ _ tracked environment => tracked.step fits environment)
      (fun _ _ tracked environment => tracked.sound fits environment) tracked_reset

/-- Lines of 128 bits on a bus of 32 bits. -/
def narrowBus : Cfg where
  plen := 34
  axiAddrWidth := 64
  tidWidth := 2
  lineLog := 7
  dcacheLineLog := 7
  axiLog := 5
  plen_le := by decide
  axi_le_line := by decide
  byte_le_axi := by decide
  axi_le := by decide
  lines_le := by decide

/-- Half a line is requested. -/
theorem half_line_on_narrow_bus :
    (wrapper narrowBus).RunAlong Environment [lineRequest narrowBus] ∧
      ¬(wrapper narrowBus).RunAlong Sound [lineRequest narrowBus] := by
  refine ⟨⟨environment_lineRequest, trivial⟩, ?_⟩
  rintro ⟨sound, -⟩
  exact absurd (fits_of_sound sound) (by simp [Cfg.Fits, Cfg.axiDataWidth, Cfg.icacheLineWidth,
    Cfg.dcacheLineWidth, narrowBus])

end Runs

/-! ## The requests of the cache -/

section Cache

variable {icache : Icache.Cfg}

/-- The cache waits for an answer. -/
def asking (s : Icache.State icache) : Bool := s.stateQ = .miss || s.stateQ = .killMiss

theorem asking_step (s : Icache.State icache) (i : Icache.Input icache) :
    asking (Icache.step s i) =
      ((Icache.pFsm s i).memDataReq && i.memDataAck || asking s && !Icache.ifillAck i) := by
  simp only [asking, Icache.step]
  cases state : s.stateQ with
  | flush =>
      simp only [Icache.pFsm, state, Icache.ctrlFlush]
      split_ifs <;> simp [Icache.ctrlDefault, state]
  | idle =>
      simp only [Icache.pFsm, state, Icache.ctrlIdle]
      split_ifs <;> simp [Icache.ctrlDefault]
  | read =>
      simp only [Icache.pFsm, state, Icache.ctrlRead]
      split_ifs <;> simp_all [Icache.ctrlDefault]
  | miss =>
      simp only [Icache.pFsm, state, Icache.ctrlMiss]
      split_ifs <;> simp_all [Icache.ctrlDefault]
  | killAtrans =>
      simp only [Icache.pFsm, state, Icache.ctrlKillAtrans]
      split_ifs <;> simp [Icache.ctrlDefault]
  | killMiss =>
      simp only [Icache.pFsm, state, Icache.ctrlKillMiss]
      split_ifs <;> simp_all [Icache.ctrlDefault]

/-- The memory owes an answer: a request was acknowledged, and not answered yet. -/
def owed (s : Icache.State icache) (i : Icache.Input icache) (answer : Bool) : Bool :=
  (Icache.pFsm s i).memDataReq && i.memDataAck || answer && !Icache.ifillAck i

def asker (powerUp : Icache.PowerUp icache) :
    Machine (Icache.State icache × Bool) (Icache.Input icache) :=
  Machine.withHistory (Icache.machine powerUp) false owed

/-- The cache asks for a line only if no answer is owed, as the wrapper expects. -/
theorem asks_alone (powerUp : Icache.PowerUp icache) (inputs : List (Icache.Input icache))
    {i : Icache.Input icache}
    (asks : (Icache.pFsm ((asker powerUp).run inputs).1 i).memDataReq = true) :
    ((asker powerUp).run inputs).2 = false := by
  have same : ((asker powerUp).run inputs).2 = asking ((asker powerUp).run inputs).1 := by
    apply (asker powerUp).run_invariant fun c => c.2 = asking c.1
    · rfl
    · intro c i same
      change owed c.1 i c.2 = asking (Icache.step c.1 i)
      rw [asking_step, owed, same]
  have reads := ((Icache.memDataReq_iff _ i).mp asks).1
  rw [same, asking, reads]
  rfl

/-- After the two cycles of the reset flush, a lookup misses. -/
theorem asks_alone_miss :
    let quiet := Icache.Input.quiet Icache.Cfg.small
    ((asker (Icache.PowerUp.zero Icache.Cfg.small)).run
      [quiet, quiet, { quiet with req := true, vaddr := 8 }]).2 = false :=
  asks_alone (Icache.PowerUp.zero Icache.Cfg.small) _
    (i := { Icache.Input.quiet Icache.Cfg.small with fetchValid := true, fetchPaddr := 8 })
    (by decide)

end Cache

end Cva6Hpd.CacheSubsystem.IcacheAxiWrapper
