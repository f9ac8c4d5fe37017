import Mathlib.Data.BitVec
import Cva6Hpd.Hw.Machine

/-!
# Instruction realignment

`instr_realign` with compressed instructions, for fetch blocks of two and of four parcels. The
unit keeps the lower half of an instruction that a block cuts off and completes it with the next
block. `parse` is the division of a stream of parcels into instructions.
-/

namespace Cva6Hpd.Frontend.Realign

/-! ## The code -/

/-- `FETCH_WIDTH`, 32 or 64. -/
inductive FetchWidth where
  | w32 | w64
deriving DecidableEq, Repr

/-- `INSTR_PER_FETCH`. -/
def FetchWidth.instrPerFetch : FetchWidth → Nat
  | w32 => 2
  | w64 => 4

/-- `instr_is_compressed` of a parcel. -/
def compressed (parcel : BitVec 16) : Bool := parcel.extractLsb' 0 2 ≠ 3

/-- A word of two parcels, the lower one first. -/
def word (low high : BitVec 16) : BitVec 32 := high ++ low

/-- The registers. -/
structure State where
  unalignedQ : Bool
  unalignedAddressQ : Nat
  unalignedInstrQ : BitVec 16
deriving DecidableEq

/-- The inputs; `data k` is `data_i[16 * k +: 16]`. -/
structure Input where
  flush : Bool
  valid : Bool
  address : Nat
  data : Nat → BitVec 16

/-- One of the ports to the frontend. -/
structure Port where
  valid : Bool
  addr : Nat
  instr : BitVec 32
deriving DecidableEq

/-- The outputs and the values that the registers take on. -/
structure Comb where
  ports : List Port
  unalignedD : Bool
  unalignedAddressD : Nat
  unalignedInstrD : BitVec 16

section Code

variable (s : State) (i : Input)

/-- `serving_unaligned_o`. -/
def servingUnalignedO : Bool := s.unalignedQ

/-- `address_i[VLEN-1:2]` or `address_i[VLEN-1:3]` with the given low bits. -/
def inBlock (width : FetchWidth) (low : Nat) : Nat :=
  i.address / (2 * width.instrPerFetch) * (2 * width.instrPerFetch) + low

/-- The port of the first instruction of a block of two parcels. -/
def first32 (valid : Bool) : Port where
  valid := valid
  addr := if s.unalignedQ then s.unalignedAddressQ else i.address
  instr := if s.unalignedQ then word s.unalignedInstrQ (i.data 0) else word (i.data 0) (i.data 1)

/-- The second instruction of a block of two parcels is compressed. -/
def second32 (valid : Bool) : Port :=
  ⟨valid, inBlock i .w32 2, if valid then word (i.data 1) 0 else 0⟩

/-- `realign_bp_32` up to the case of an unaligned start. -/
def aligned32 : Comb :=
  if compressed (i.data 0) || s.unalignedQ then
    if compressed (i.data 1) then
      ⟨[first32 s i i.valid, second32 i i.valid], false, inBlock i .w32 2, i.data 1⟩
    else ⟨[first32 s i i.valid, second32 i false], true, inBlock i .w32 2, i.data 1⟩
  else ⟨[first32 s i i.valid, second32 i false], s.unalignedQ, inBlock i .w32 2, i.data 1⟩

/-- `realign_bp_32`. -/
def realign32 : Comb :=
  if i.valid && i.address / 2 % 2 = 1 then
    if !compressed (i.data 0) then
      ⟨[first32 s i false, second32 i false], true, inBlock i .w32 2, i.data 0⟩
    else { aligned32 s i with ports := [first32 s i true, second32 i false] }
  else aligned32 s i

/-- The port of the instruction at the given parcel. -/
def port (valid : Bool) (addr k : Nat) : Port := ⟨valid, addr, word (i.data k) (i.data (k + 1))⟩

/-- The port of the last parcel, which can only be a compressed instruction. -/
def lastPort (valid : Bool) : Port := ⟨valid, inBlock i .w64 6, word (i.data 3) 0⟩

/-- A port without an instruction. -/
def noPort : Port := ⟨false, 0, 0⟩

/-- The block ends with a whole instruction; the registers keep their values. -/
def whole (ports : List Port) : Comb := ⟨ports, false, s.unalignedAddressQ, s.unalignedInstrQ⟩

/-- The block ends with the lower half of an instruction. -/
def cut (ports : List Port) (parcel : BitVec 16) : Comb := ⟨ports, true, inBlock i .w64 6, parcel⟩

/-- The ports of the first and the second parcel of a block of four, when an instruction starts at
the second parcel. -/
def fromSecond64 (first : Port) : Comb :=
  let second := port i i.valid (inBlock i .w64 2) 1
  if compressed (i.data 1) then
    let third := port i i.valid (inBlock i .w64 4) 2
    if compressed (i.data 2) then
      if compressed (i.data 3) then whole s [first, second, third, lastPort i i.valid]
      else cut i [first, second, third, lastPort i false] (i.data 3)
    else whole s [first, second, third, lastPort i false]
  else
    if compressed (i.data 3) then whole s [first, second, lastPort i i.valid, lastPort i false]
    else cut i [first, second, lastPort i false, lastPort i false] (i.data 3)

/-- The case `2'b00`: the block is complete. -/
def from0 : Comb :=
  if s.unalignedQ then
    fromSecond64 s i ⟨i.valid, s.unalignedAddressQ, word s.unalignedInstrQ (i.data 0)⟩
  else
    let first := port i i.valid i.address 0
    if compressed (i.data 0) then fromSecond64 s i first
    else
      let second := port i i.valid (inBlock i .w64 4) 2
      if compressed (i.data 2) then
        if compressed (i.data 3) then
          whole s [first, second, lastPort i i.valid, lastPort i false]
        else cut i [first, second, lastPort i false, lastPort i false] (i.data 3)
      else whole s [first, second, lastPort i false, lastPort i false]

/-- The case `2'b01`: the block lacks its first parcel. -/
def from2 : Comb :=
  let first := port i i.valid (inBlock i .w64 2) 0
  let third (valid : Bool) := port i valid (inBlock i .w64 6) 2
  if compressed (i.data 0) then
    let second := port i i.valid (inBlock i .w64 4) 1
    if compressed (i.data 1) then
      if compressed (i.data 2) then whole s [first, second, third i.valid, lastPort i false]
      else cut i [first, second, third false, lastPort i false] (i.data 2)
    else whole s [first, second, third false, lastPort i false]
  else
    if compressed (i.data 2) then whole s [first, third i.valid, third false, lastPort i false]
    else cut i [first, third false, third false, lastPort i false] (i.data 2)

/-- The case `2'b10`: the block has its last two parcels. -/
def from4 : Comb :=
  let first := port i i.valid (inBlock i .w64 4) 0
  let second (valid : Bool) := port i valid (inBlock i .w64 6) 1
  if compressed (i.data 0) then
    if compressed (i.data 1) then whole s [first, second i.valid, noPort, lastPort i false]
    else cut i [first, second false, noPort, lastPort i false] (i.data 1)
  else whole s [first, second false, noPort, lastPort i false]

/-- The case `2'b11`: the block has its last parcel. -/
def from6 : Comb :=
  let first (valid : Bool) := port i valid (inBlock i .w64 6) 0
  if compressed (i.data 0) then whole s [first i.valid, noPort, noPort, lastPort i false]
  else cut i [first false, noPort, noPort, lastPort i false] (i.data 0)

/-- `realign_bp_64`. -/
def realign64 : Comb :=
  match i.address / 2 % 4 with
  | 0 => from0 s i
  | 1 => from2 s i
  | 2 => from4 s i
  | _ => from6 s i

end Code

/-- `re_align`. -/
def comb (width : FetchWidth) (s : State) (i : Input) : Comb :=
  match width with
  | .w32 => realign32 s i
  | .w64 => realign64 s i

/-- The registers at the next edge. -/
def step (width : FetchWidth) (s : State) (i : Input) : State where
  unalignedQ :=
    if i.flush then false else if i.valid then (comb width s i).unalignedD else s.unalignedQ
  unalignedAddressQ :=
    if i.valid then (comb width s i).unalignedAddressD else s.unalignedAddressQ
  unalignedInstrQ := if i.valid then (comb width s i).unalignedInstrD else s.unalignedInstrQ

/-! ## The stream -/

/-- A parcel at its address. -/
structure Parcel where
  addr : Nat
  bits : BitVec 16

/-- An instruction: its address and its parcels. -/
structure Instr where
  addr : Nat
  parcels : List (BitVec 16)
deriving DecidableEq

/-- The division of a stream into instructions, and the half instruction at its end. -/
def parse : List Parcel → List Instr × List Parcel
  | [] => ([], [])
  | [p] => if compressed p.bits then ([⟨p.addr, [p.bits]⟩], []) else ([], [p])
  | p :: q :: rest =>
      if compressed p.bits then
        (⟨p.addr, [p.bits]⟩ :: (parse (q :: rest)).1, (parse (q :: rest)).2)
      else (⟨p.addr, [p.bits, q.bits]⟩ :: (parse rest).1, (parse rest).2)

theorem parse_cons_compressed {p : Parcel} {rest : List Parcel} (short : compressed p.bits = true) :
    parse (p :: rest) = (⟨p.addr, [p.bits]⟩ :: (parse rest).1, (parse rest).2) := by
  cases rest <;> simp [parse, short]

theorem parse_cons_cons {p q : Parcel} {rest : List Parcel} (long : compressed p.bits = false) :
    parse (p :: q :: rest) = (⟨p.addr, [p.bits, q.bits]⟩ :: (parse rest).1, (parse rest).2) := by
  simp [parse, long]

/-- A stream is divided chunk by chunk when the half instruction is carried over. -/
theorem parse_append (first second : List Parcel) :
    parse (first ++ second) =
      ((parse first).1 ++ (parse ((parse first).2 ++ second)).1,
        (parse ((parse first).2 ++ second)).2) := by
  induction first using parse.induct with
  | case1 => simp [parse]
  | case2 p short => simp [parse, short, parse_cons_compressed]
  | case3 p long => simp [parse, long]
  | case4 p q rest short inductionHypothesis =>
      rw [List.cons_append, parse_cons_compressed short, inductionHypothesis,
        parse_cons_compressed short]
      rfl
  | case5 p q rest long inductionHypothesis =>
      rw [Bool.not_eq_true] at long
      rw [List.cons_append, List.cons_append, parse_cons_cons long, inductionHypothesis,
        parse_cons_cons long]
      rfl

/-- The instruction that a port shows. -/
def Port.read (port : Port) : Instr :=
  let low := port.instr.extractLsb' 0 16
  if compressed low then ⟨port.addr, [low]⟩
  else ⟨port.addr, [low, port.instr.extractLsb' 16 16]⟩

@[simp]
theorem read_word (valid : Bool) (addr : Nat) (low high : BitVec 16) :
    Port.read ⟨valid, addr, word low high⟩ =
      if compressed low then ⟨addr, [low]⟩ else ⟨addr, [low, high]⟩ := by
  have bit (k : Nat) : (word low high).getLsbD k =
      if k < 16 then low.getLsbD k else high.getLsbD (k - 16) := BitVec.getLsbD_append
  have lower : (word low high).extractLsb' 0 16 = low := by
    ext k inside
    simp [bit, inside, ← BitVec.getLsbD_eq_getElem]
  have upper : (word low high).extractLsb' 16 16 = high := by
    ext k inside
    simp [bit, inside, ← BitVec.getLsbD_eq_getElem]
  simp only [Port.read, lower, upper]

/-- The instructions that the unit puts out in a cycle. -/
def output (width : FetchWidth) (s : State) (i : Input) : List Instr :=
  ((comb width s i).ports.filter Port.valid).map Port.read

/-- The place of a block's first parcel in the aligned block. -/
def offset (width : FetchWidth) (i : Input) : Nat := i.address / 2 % width.instrPerFetch

/-- The parcels that a block brings. -/
def arriving (width : FetchWidth) (i : Input) : List Parcel :=
  if i.valid then
    (List.range (width.instrPerFetch - offset width i)).map fun k => ⟨i.address + 2 * k, i.data k⟩
  else []

/-- The half instruction that waits for the next block. -/
def pending (s : State) : List Parcel :=
  if s.unalignedQ then [⟨s.unalignedAddressQ, s.unalignedInstrQ⟩] else []

/-! ## One block -/

/-- What the frontend promises of a block: it starts at a parcel, its data are shifted down to
that parcel, and it starts at the first one unless a redirection came before. -/
structure Regular (width : FetchWidth) (stream : List Parcel) (i : Input) : Prop where
  even : i.valid = true → i.address % 2 = 0
  shifted : i.valid = true → ∀ k, width.instrPerFetch ≤ k + offset width i → i.data k = 0
  aligned : i.valid = true → stream ≠ [] → offset width i = 0

section Block

variable {width : FetchWidth} {s : State} {i : Input}

/-- The half instruction at the end of a block. -/
def cutOff (c : Comb) : List Parcel :=
  if c.unalignedD then [⟨c.unalignedAddressD, c.unalignedInstrD⟩] else []

theorem parse_block32 (valid : i.valid = true) (even : i.address % 2 = 0)
    (shifted : offset .w32 i = 1 → i.data 1 = 0)
    (aligned : s.unalignedQ = true → offset .w32 i = 0)
    (half : s.unalignedQ = true → compressed s.unalignedInstrQ = false) :
    parse (pending s ++ arriving .w32 i) = (output .w32 s i, cutOff (comb .w32 s i)) := by
  have place : offset .w32 i = 0 ∨ offset .w32 i = 1 := by
    simp only [offset, FetchWidth.instrPerFetch]
    omega
  have empty : compressed 0#16 = true := rfl
  rcases place with first | second
  · have start : inBlock i .w32 2 = i.address + 2 := by
      simp only [offset, FetchWidth.instrPerFetch, inBlock] at first ⊢
      omega
    have block : arriving .w32 i = [⟨i.address, i.data 0⟩, ⟨i.address + 2, i.data 1⟩] := by
      simp [arriving, valid, first, FetchWidth.instrPerFetch, List.range_succ]
    have whole : i.address / 2 % 2 = 0 := first
    rw [block]
    cases waits : s.unalignedQ with
    | true =>
      have long := half waits
      cases short : compressed (i.data 1) <;>
        simp [pending, waits, parse, long, short, output, comb, realign32, aligned32, first32,
          second32, whole, valid, start, cutOff, List.filter]
    | false =>
      cases short : compressed (i.data 0) <;> cases short' : compressed (i.data 1) <;>
        simp [pending, waits, parse, short, short', output, comb, realign32, aligned32, first32,
          second32, whole, valid, start, cutOff, List.filter]
  · have start : inBlock i .w32 2 = i.address := by
      simp only [offset, FetchWidth.instrPerFetch, inBlock] at second ⊢
      omega
    have block : arriving .w32 i = [⟨i.address, i.data 0⟩] := by
      simp [arriving, valid, second, FetchWidth.instrPerFetch, List.range_succ]
    have late : i.address / 2 % 2 = 1 := second
    have waits : s.unalignedQ = false := by
      cases waits : s.unalignedQ with
      | true => simp [aligned waits] at second
      | false => rfl
    rw [block]
    cases short : compressed (i.data 0) <;>
      simp [pending, waits, parse, short, output, comb, realign32, aligned32, first32, second32,
        late, valid, start, cutOff, shifted second, empty, List.filter]

theorem parse_fromSecond64 (valid : i.valid = true) (whole : i.address % 8 = 0) {first : Port}
    (shown : first.valid = true) {before : List Parcel}
    (ends : ∀ rest, parse (before ++ rest) = (first.read :: (parse rest).1, (parse rest).2)) :
    parse (before ++ [⟨i.address + 2, i.data 1⟩, ⟨i.address + 4, i.data 2⟩,
        ⟨i.address + 6, i.data 3⟩]) =
      (((fromSecond64 s i first).ports.filter Port.valid).map Port.read,
        cutOff (fromSecond64 s i first)) := by
  have start (low : Nat) : inBlock i .w64 low = i.address + low := by
    simp only [inBlock, FetchWidth.instrPerFetch]
    omega
  rw [ends]
  cases short : compressed (i.data 1) <;> cases short' : compressed (i.data 2) <;>
    cases short'' : compressed (i.data 3) <;>
    simp [fromSecond64, port, lastPort, Realign.whole, cut, start, short, short', short'', valid,
      shown, parse, cutOff, List.filter]

theorem parse_block64 (valid : i.valid = true) (even : i.address % 2 = 0)
    (aligned : s.unalignedQ = true → offset .w64 i = 0)
    (half : s.unalignedQ = true → compressed s.unalignedInstrQ = false) :
    parse (pending s ++ arriving .w64 i) = (output .w64 s i, cutOff (comb .w64 s i)) := by
  have place : i.address / 2 % 4 = 0 ∨ i.address / 2 % 4 = 1 ∨ i.address / 2 % 4 = 2 ∨
      i.address / 2 % 4 = 3 := by omega
  have waits (late : i.address / 2 % 4 ≠ 0) : s.unalignedQ = false :=
    Bool.eq_false_iff.mpr fun waits => late (aligned waits)
  rcases place with first | second | third | fourth
  · have block : arriving .w64 i = [⟨i.address, i.data 0⟩] ++
        [⟨i.address + 2, i.data 1⟩, ⟨i.address + 4, i.data 2⟩, ⟨i.address + 6, i.data 3⟩] := by
      simp [arriving, offset, valid, first, FetchWidth.instrPerFetch, List.range_succ]
    have whole : i.address % 8 = 0 := by omega
    have continues (port : Port) (shown : port.valid = true)
        (ends : ∀ rest, parse ((pending s ++ [⟨i.address, i.data 0⟩]) ++ rest) =
          (port.read :: (parse rest).1, (parse rest).2))
        (same : comb .w64 s i = fromSecond64 s i port) :
        parse (pending s ++ arriving .w64 i) = (output .w64 s i, cutOff (comb .w64 s i)) := by
      rw [block, ← List.append_assoc, parse_fromSecond64 valid whole shown ends, output, same]
    cases unaligned : s.unalignedQ with
    | true =>
      have long := half unaligned
      apply continues ⟨i.valid, s.unalignedAddressQ, word s.unalignedInstrQ (i.data 0)⟩ valid
      · intro rest
        simp [pending, unaligned, parse, long]
      · simp [comb, realign64, first, from0, unaligned]
    | false =>
      cases short : compressed (i.data 0) with
      | true =>
        apply continues (port i i.valid i.address 0) valid
        · intro rest
          simp [pending, unaligned, parse_cons_compressed, short, port]
        · simp [comb, realign64, first, from0, unaligned, short]
      | false =>
        have start (low : Nat) : inBlock i .w64 low = i.address + low := by
          simp only [inBlock, FetchWidth.instrPerFetch]
          omega
        rw [block]
        cases short' : compressed (i.data 2) <;> cases short'' : compressed (i.data 3) <;>
          simp [pending, unaligned, parse, short, short', short'', output, comb, realign64, first,
            from0, port, lastPort, Realign.whole, cut, start, valid, cutOff, List.filter]
  · have start (low : Nat) : inBlock i .w64 (2 + low) = i.address + low := by
      simp only [inBlock, FetchWidth.instrPerFetch]
      omega
    have block : arriving .w64 i =
        [⟨i.address, i.data 0⟩, ⟨i.address + 2, i.data 1⟩, ⟨i.address + 4, i.data 2⟩] := by
      simp [arriving, offset, valid, second, FetchWidth.instrPerFetch, List.range_succ]
    rw [block]
    cases short : compressed (i.data 0) <;> cases short' : compressed (i.data 1) <;>
      cases short'' : compressed (i.data 2) <;>
      simp [pending, waits (by omega), parse, short, short', short'', output, comb, realign64,
        second, from2, port, lastPort, Realign.whole, cut, start 0, start 2, start 4, valid,
        cutOff, List.filter]
  · have start (low : Nat) : inBlock i .w64 (4 + low) = i.address + low := by
      simp only [inBlock, FetchWidth.instrPerFetch]
      omega
    have block : arriving .w64 i = [⟨i.address, i.data 0⟩, ⟨i.address + 2, i.data 1⟩] := by
      simp [arriving, offset, valid, third, FetchWidth.instrPerFetch, List.range_succ]
    rw [block]
    cases short : compressed (i.data 0) <;> cases short' : compressed (i.data 1) <;>
      simp [pending, waits (by omega), parse, short, short', output, comb, realign64, third, from4,
        port, lastPort, noPort, Realign.whole, cut, start 0, start 2, valid, cutOff, List.filter]
  · have start : inBlock i .w64 6 = i.address := by
      simp only [inBlock, FetchWidth.instrPerFetch]
      omega
    have block : arriving .w64 i = [⟨i.address, i.data 0⟩] := by
      simp [arriving, offset, valid, fourth, FetchWidth.instrPerFetch]
    rw [block]
    cases short : compressed (i.data 0) <;>
      simp [pending, waits (by omega), parse, short, output, comb, realign64, fourth, from6, port,
        lastPort, noPort, Realign.whole, cut, start, valid, cutOff, List.filter]

/-- Without a block nothing is put out. -/
theorem output_of_not_valid (idle : i.valid = false) : output width s i = [] := by
  cases width with
  | w32 =>
    simp only [output, comb, realign32, idle, Bool.false_and, Bool.false_eq_true, ↓reduceIte,
      aligned32, first32, second32]
    split <;> (try split) <;> rfl
  | w64 =>
    simp only [output, comb, realign64, from0, from2, from4, from6, fromSecond64, port, lastPort,
      noPort, whole, cut, idle]
    repeat' split
    all_goals rfl

/-- The half instruction at the end of a stream is the lower half of a long one. -/
theorem long_of_rest {stream : List Parcel} {p : Parcel} (last : p ∈ (parse stream).2) :
    compressed p.bits = false := by
  induction stream using parse.induct with
  | case1 => simp [parse] at last
  | case2 q short => simp [parse, short] at last
  | case3 q long =>
      simp only [parse, long, Bool.false_eq_true, ↓reduceIte, List.mem_singleton] at last
      rw [last]
      simpa using long
  | case4 q r rest short inductionHypothesis =>
      rw [parse_cons_compressed short] at last
      exact inductionHypothesis last
  | case5 q r rest long inductionHypothesis =>
      rw [parse_cons_cons (by simpa using long)] at last
      exact inductionHypothesis last

end Block

/-! ## Runs -/

/-- What came in and what went out from one redirection to the next. -/
structure Segment where
  stream : List Parcel
  output : List Instr

def Segment.empty : Segment := ⟨[], []⟩

/-- The instructions that went out are those of the stream. -/
def Segment.Parsed (segment : Segment) : Prop := segment.output = (parse segment.stream).1

/-- The segments that a redirection ended and the current one. -/
structure History where
  past : List Segment
  now : Segment

/-- The segment with the block of this cycle. -/
def extended (width : FetchWidth) (s : State) (i : Input) (segment : Segment) : Segment where
  stream := segment.stream ++ arriving width i
  output := segment.output ++ output width s i

/-- A flush resets the pending half; the block of its cycle still goes out. -/
def record (width : FetchWidth) (s : State) (i : Input) (h : History) : History :=
  if i.flush then ⟨h.past ++ [extended width s i h.now], Segment.empty⟩
  else ⟨h.past, extended width s i h.now⟩

/-- The unit with its history. -/
def realigner (width : FetchWidth) : Hw.Machine (State × History) Input :=
  Hw.Machine.withHistory ⟨⟨false, 0, 0⟩, step width⟩ ⟨[], Segment.empty⟩ (record width)

/-- The frontend keeps its promises. -/
def Environment (width : FetchWidth) (c : State × History) (i : Input) : Prop :=
  Regular width c.2.now.stream i

/-- The segments are parsed, and the registers hold the half instruction at the end. -/
structure Tracked (c : State × History) : Prop where
  past : ∀ segment ∈ c.2.past, segment.Parsed
  now : c.2.now.Parsed
  pending : pending c.1 = (parse c.2.now.stream).2

section Runs

variable {width : FetchWidth}

/-- A block, with the half instruction before it, is divided as the ports show. -/
theorem parse_arriving {s : State} {i : Input} {stream : List Parcel} (valid : i.valid = true)
    (regular : Regular width stream i) (waits : pending s = (parse stream).2) :
    parse (pending s ++ arriving width i) = (output width s i, cutOff (comb width s i)) := by
  have aligned (unaligned : s.unalignedQ = true) : offset width i = 0 := by
    apply regular.aligned valid
    rintro rfl
    simp [pending, unaligned, parse] at waits
  have half (unaligned : s.unalignedQ = true) : compressed s.unalignedInstrQ = false := by
    apply @long_of_rest stream ⟨s.unalignedAddressQ, s.unalignedInstrQ⟩
    simp [← waits, pending, unaligned]
  cases width with
  | w32 =>
    refine parse_block32 valid (regular.even valid) (fun late => ?_) aligned half
    exact regular.shifted valid 1 (by simp [late, FetchWidth.instrPerFetch])
  | w64 => exact parse_block64 valid (regular.even valid) aligned half

theorem extended_parsed {s : State} {i : Input} {segment : Segment} (parsed : segment.Parsed)
    (regular : Regular width segment.stream i) (waits : pending s = (parse segment.stream).2) :
    (extended width s i segment).Parsed ∧
      (parse (extended width s i segment).stream).2 =
        if i.valid then cutOff (comb width s i) else pending s := by
  cases valid : i.valid with
  | false =>
    simp only [extended, Segment.Parsed, arriving, valid, Bool.false_eq_true, ↓reduceIte,
      List.append_nil, output_of_not_valid valid]
    exact ⟨parsed, waits.symm⟩
  | true =>
    have block := parse_arriving valid regular waits
    rw [waits] at block
    simp only [extended, Segment.Parsed, parse_append, block, ↓reduceIte, and_true]
    rw [parsed]

theorem tracked_step {c : State × History} {i : Input} (tracked : Tracked c)
    (environment : Environment width c i) : Tracked ((realigner width).step c i) := by
  obtain ⟨parsed, rest⟩ := extended_parsed tracked.now environment tracked.pending
  change Tracked (step width c.1 i, record width c.1 i c.2)
  rw [record]
  split
  · next flush =>
    constructor
    · intro segment member
      rcases List.mem_append.mp member with old | new
      · exact tracked.past segment old
      · exact List.mem_singleton.mp new ▸ parsed
    · rfl
    · simp [pending, step, flush, Segment.empty, parse]
  · next stays =>
    rw [Bool.not_eq_true] at stays
    refine ⟨tracked.past, parsed, ?_⟩
    change pending (step width c.1 i) = (parse (extended width c.1 i c.2.now).stream).2
    rw [rest]
    cases valid : i.valid <;> simp [pending, step, stays, valid, cutOff]

/-- Between two redirections the unit puts out the instructions of the stream of parcels, each
once and at its address. -/
theorem realigned {inputs : List Input}
    (environment : (realigner width).RunAlong (Environment width) inputs) :
    (∀ segment ∈ ((realigner width).run inputs).2.past, segment.Parsed) ∧
      ((realigner width).run inputs).2.now.Parsed := by
  have tracked : Tracked ((realigner width).run inputs) := by
    apply (realigner width).run_invariant_along Tracked _ _ environment
    · exact ⟨fun _ member => absurd member List.not_mem_nil, rfl, rfl⟩
    · exact fun c i tracked environment => tracked_step tracked environment
  exact ⟨tracked.past, tracked.now⟩

end Runs

/-! ## An instruction over two blocks -/

/-- A block that starts at the given address, shifted down to its first parcel. -/
def block (address : Nat) (parcels : List (BitVec 16)) : Input :=
  ⟨false, true, address, fun k => parcels.getD k 0⟩

theorem regular_block {width : FetchWidth} {stream : List Parcel} {address : Nat}
    {parcels : List (BitVec 16)} (even : address % 2 = 0)
    (short : parcels.length + address / 2 % width.instrPerFetch ≤ width.instrPerFetch)
    (aligned : stream ≠ [] → address / 2 % width.instrPerFetch = 0) :
    Regular width stream (block address parcels) where
  even _ := even
  shifted _ k past := by
    simp only [offset, block] at past
    have none : parcels.length ≤ k := by omega
    simp [block, none]
  aligned _ := aligned

/-- Fetch starts in the second half of a block, with the lower half of a long instruction. -/
def splitRun : List Input := [block 2 [0x0013#16], block 4 [0x0000#16, 0x0001#16]]

/-- The long instruction comes out with the second block, before the compressed one. -/
theorem splitRun_realigned :
    ((realigner .w32).run splitRun).2.now.output =
      [⟨2, [0x0013#16, 0#16]⟩, ⟨6, [0x0001#16]⟩] := by
  have environment : (realigner .w32).RunAlong (Environment .w32) splitRun := by
    refine ⟨?_, ?_, trivial⟩
    · exact regular_block (by decide) (by decide) (fun started => absurd rfl started)
    · exact regular_block (by decide) (by decide) (fun _ => by decide)
  rw [(realigned environment).2]
  decide

end Cva6Hpd.Frontend.Realign
