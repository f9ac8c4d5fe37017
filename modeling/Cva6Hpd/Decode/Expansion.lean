import Cva6Hpd.Decode.Macro
import Cva6Hpd.Hw.Machine

/-!
# The expansion of a push, pop or move

The instructions that a macro instruction stands for, and the runs in which exactly these enter
the issue stage. A macro instruction whose first word waits for an acknowledgement enters that
word again when the pipeline register was empty, any other loses it when the register is
occupied, and a flush leaves the decoder in the middle of its list.
-/

namespace Cva6Hpd.Decode.Macro

open Cva6Hpd.Decode

/-! ## The law -/

/-- The registers of the longest list, in the order of their transfer. -/
def listedRegs : List (BitVec 5) := [27, 26, 25, 24, 23, 22, 21, 20, 19, 18, 9, 8, 1]

/-- The last `count` registers. -/
def saved (count : Nat) : List (BitVec 5) := listedRegs.drop (13 - count)

/-- The number of registers in a list: no list ends with `s10`. -/
def regCount (list : BitVec 4) : Nat := if list = 15 then 13 else list.toNat - 3

/-- The size of the stack frame: the registers, in blocks of 16 bytes, and the blocks that the
instruction adds. -/
def frameSize (list : BitVec 4) (spimm : BitVec 2) : BitVec 12 :=
  BitVec.ofNat 12 ((4 * regCount list + 15) / 16 * 16 + 16 * spimm.toNat)

/-- The registers of a list are transferred at descending addresses. -/
def transfers (word : BitVec 5 → BitVec 12 → BitVec 32) :
    BitVec 12 → List (BitVec 5) → List (BitVec 32)
  | _, [] => []
  | offset, reg :: regs => word reg offset :: transfers word (offset - 4) regs

/-- The saved register of three bits: `s0`, `s1` and `s2` to `s7`. -/
def savedReg (bits : BitVec 3) : BitVec 5 :=
  if bits.toNat < 2 then 8 + bits.setWidth 5 else 16 + bits.setWidth 5

/-- What follows the transfers. The zero of `cm.popretz` takes two instructions. -/
def epilogue (type : MacroInstr) (size : BitVec 12) : List (BitVec 32) :=
  match type with
  | .push => [addi 2 2 (-size)]
  | .pop => [addi 2 2 size]
  | .popret => [addi 2 2 size, ret]
  | .popretz => [luiA0, addi 10 10 0, addi 2 2 size, ret]
  | _ => []

/-- The size of the frame of an instruction. -/
def frame (instr : BitVec 32) : BitVec 12 := frameSize (rlist instr) (spimm instr)

/-- The words of a macro instruction. -/
def words (type : MacroInstr) (instr : BitVec 32) : List (BitVec 32) :=
  match type with
  | .mvsa01 =>
      [addi (savedReg (xreg1Bits instr)) 10 0, addi (savedReg (xreg2Bits instr)) 11 0]
  | .mva01s =>
      [addi 10 (savedReg (xreg1Bits instr)) 0, addi 11 (savedReg (xreg2Bits instr)) 0]
  | .push => transfers storeWord (-4) (saved (regCount (rlist instr))) ++
      epilogue .push (frame instr)
  | type => transfers loadWord (frame instr - 4) (saved (regCount (rlist instr))) ++
      epilogue type (frame instr)

/-- An instruction of an expansion. -/
structure Element where
  instr : BitVec 32
  last : Bool
deriving DecidableEq

/-- The last word is marked. -/
def marked : List (BitVec 32) → List Element
  | [] => []
  | word :: rest => ⟨word, rest.isEmpty⟩ :: marked rest

/-- The instructions that a macro instruction stands for. -/
def expansion (instr : BitVec 32) : List Element :=
  match typeOf instr with
  | some type => marked (words type instr)
  | none => []

/-- The list of a push or pop is not reserved, and a move has two registers. -/
def Legal (instr : BitVec 32) : Prop :=
  ∃ type, typeOf instr = some type ∧
    if type.isMove then xreg1Bits instr ≠ xreg2Bits instr else 4 ≤ (rlist instr).toNat

/-! ## What has entered -/

/-- The instruction that waits at the decoder, and the elements that have entered the issue stage
for it. -/
structure Ledger where
  held : Option (BitVec 32 × Bool)
  handed : List Element

/-- The instruction at the decoder. -/
def Input.entry (i : Input) : BitVec 32 × Bool := (i.instr, i.isMacroInstr)

/-- A macro instruction is at the decoder and stays there. -/
def Input.presents (i : Input) : Bool := i.fetchValid && i.isMacroInstr && !i.flush

section Ledger

variable (s : State) (i : Input) (l : Ledger)

/-- The instruction at the decoder is taken or flushed. -/
def departs : Bool := i.flush || ready s i

/-- What decode offers, as an element. -/
def element : Element := ⟨(offer s i).decoded.instr, (offer s i).decoded.isLastMacro⟩

def record : Ledger where
  held := if i.fetchValid && !departs s i then some i.entry else none
  handed :=
    if departs s i then []
    else if i.presents && enters s i then l.handed ++ [element s i]
    else l.handed

end Ledger

/-- The stage with its ledger. -/
def stage (latches : Latches) : Hw.Machine (State × Ledger) Input :=
  Hw.Machine.withHistory ⟨initial latches, step⟩ ⟨none, []⟩ record

/-- The instruction queue holds an instruction until it is taken, and the issue stage
acknowledges what the register holds. -/
structure Environment (c : State × Ledger) (i : Input) : Prop where
  held : ∀ entry ∈ c.2.held, i.fetchValid = true ∧ i.entry = entry
  acks : i.issueAck = true → c.1.issueQ.valid = true

/-- What is asked for in one cycle. Of the instruction at the decoder the next element of its
expansion enters whenever there is room; it is taken with the last one. Before the first element
the decoder is idle. -/
structure Sound (c : State × Ledger) (i : Input) : Prop where
  idle : c.2.handed = [] → c.1.regs.stateQ = .idle
  next : i.presents = true → enters c.1 i = true →
    (offer c.1 i).decoded.illegal = false ∧
      c.2.handed ++ [element c.1 i] <+: expansion i.instr
  complete : i.presents = true →
    (ready c.1 i = true ↔
      enters c.1 i = true ∧ c.2.handed ++ [element c.1 i] = expansion i.instr)
  progress : i.presents = true → enters c.1 i = c.1.issueQ.room (offer c.1 i)

/-- The decoder leaves `IDLE` only with an acknowledgement. -/
def gated (s : State) (i : Input) : Bool :=
  !(macroInstrType s i).isMove && regNumbers i.instr ≠ 1 && regNumbers i.instr ≠ 12

/-- The condition on a cycle. Macro instructions are legal, and the bits of one without a valid
instruction do not start the decoder. The first element of a list whose start waits for an
acknowledgement finds the register occupied, that of any other finds room. A flush finds the
decoder before its start or at its end. -/
structure Orderly (c : State × Ledger) (i : Input) : Prop where
  legal : i.fetchValid = true → i.isMacroInstr = true → Legal i.instr
  stale : i.fetchValid = false → i.isMacroInstr = true →
    gated c.1 i = true ∧ i.issueAck = false
  first : i.presents = true → c.2.handed = [] →
    if gated c.1 i then c.1.issueQ.valid = true else c.1.issueQ.room (offer c.1 i) = true
  flush : i.fetchValid = true → i.isMacroInstr = true → i.flush = true →
    if c.2.handed = [] then gated c.1 i = true ∧ i.issueAck = false
    else i.issueAck = true ∧ c.2.handed.length + 1 = (expansion i.instr).length

/-! ## The lists of registers -/

section Lists

theorem stackAdjOf_eq (list : BitVec 4) (spimm : BitVec 2) (legal : 4 ≤ list.toNat) :
    stackAdjOf list spimm = frameSize list spimm := by
  revert list spimm
  decide

theorem xreg_eq (bits : BitVec 3) : xreg bits = savedReg bits := by
  revert bits
  decide

theorem add_minus_four (offset : BitVec 12) : offset + 0xFFC = offset - 4 := by
  rw [BitVec.sub_eq_add_neg]
  rfl

theorem length_marked (words : List (BitVec 32)) :
    (marked words).length = words.length := by
  induction words with
  | nil => rfl
  | cons word rest inductionHypothesis =>
    rw [marked, List.length_cons, inductionHypothesis, List.length_cons]

theorem storeReg_sub_one (count : BitVec 4) (some : 1 ≤ count.toNat) :
    14 + count.setWidth 5 - 1 = 14 + (count - 1).setWidth 5 := by
  revert count
  decide

theorem thirteen_add (count : BitVec 4) : 13 + count.setWidth 5 = 14 + count.setWidth 5 - 1 := by
  revert count
  decide

theorem regCount_eq {instr : BitVec 32} (legal : 4 ≤ (rlist instr).toNat) :
    if regNumbers instr = 12 then regCount (rlist instr) = 13
    else regCount (rlist instr) = (regNumbers instr).toNat ∧ 1 ≤ (regNumbers instr).toNat ∧
      (regNumbers instr).toNat ≤ 11 := by
  rw [regNumbers]
  revert legal
  generalize rlist instr = list
  revert list
  decide

/-- The register that is transferred when `count` are left, and those after it. -/
theorem transferReg_cons {count : BitVec 4} {reg : BitVec 5} (some : 1 ≤ count.toNat)
    (few : count.toNat ≤ 11) (named : 4 ≤ count.toNat → reg = 14 + count.setWidth 5) :
    ∃ next, transferReg count reg = Option.some next ∧
      saved count.toNat = next :: saved (count.toNat - 1) := by
  have listed : ∀ count : BitVec 4, 1 ≤ count.toNat → count.toNat ≤ 11 →
      (transferReg count (14 + count.setWidth 5)).map (· :: saved (count.toNat - 1)) =
        Option.some (saved count.toNat) := by decide
  have same : transferReg count reg = transferReg count (14 + count.setWidth 5) := by
    by_cases many : 4 ≤ count.toNat
    · rw [named many]
    · simp [transferReg, many]
  obtain ⟨next, found, cons⟩ := Option.map_eq_some_iff.mp (listed count some few)
  exact ⟨next, by rw [same, found], cons.symm⟩

end Lists

/-! ## The words that are left -/

section Remaining

variable {type : MacroInstr} {instr : BitVec 32} {regs : Regs}

/-- The words that the decoder has still to hand over. -/
def remaining (type : MacroInstr) (instr : BitVec 32) (regs : Regs) : List (BitVec 32) :=
  match regs.stateQ with
  | .idle => []
  | .init => transfers type.transfer regs.offsetQ (saved regs.regNumbersQ.toNat) ++
      epilogue type (frame instr)
  | .pushPopInstr2 => transfers type.transfer regs.offsetQ (saved 12) ++
      epilogue type (frame instr)
  | .pushAddi => if type = .popretz then epilogue .popret (frame instr)
      else epilogue type (frame instr)
  | .popretz1 => (epilogue .popretz (frame instr)).drop
      (if regs.popretzInstQ = 1 then 3 else if regs.popretzInstQ = 2 then 1 else 0)
  | .move => (words type instr).drop 1

/-- How far the decoder is with what follows the transfers. -/
def Returns (type : MacroInstr) (regs : Regs) : Prop :=
  match type with
  | .popretz => regs.popretzInstQ = 3
  | .popret => regs.popretzInstQ = 1
  | _ => True

/-- The flip-flops in the middle of an instruction. -/
def Follows (type : MacroInstr) (regs : Regs) : Prop :=
  match regs.stateQ with
  | .idle => False
  | .init => type.isMove = false ∧ Returns type regs ∧ 1 ≤ regs.regNumbersQ.toNat ∧
      regs.regNumbersQ.toNat ≤ 11 ∧
      (4 ≤ regs.regNumbersQ.toNat → regs.storeRegQ = 14 + regs.regNumbersQ.setWidth 5)
  | .pushPopInstr2 => type.isMove = false ∧ Returns type regs ∧ regs.regNumbersQ = 11 ∧
      regs.storeRegQ = 26
  | .pushAddi => type.isMove = false ∧ (type = .popretz ∨ type = .popret → regs.popretzInstQ = 1)
  | .popretz1 => type = .popretz ∧ (regs.popretzInstQ = 3 ∨ regs.popretzInstQ = 2) ∨
      (type = .popretz ∨ type = .popret) ∧ regs.popretzInstQ = 1
  | .move => type.isMove = true

/-- The decoder hands over the first of the words that are due and is then idle or keeps the
others. -/
structure Hands (type : MacroInstr) (instr : BitVec 32) (out : Comb)
    (due : List (BitVec 32)) : Prop where
  legal : out.illegal = false
  word : out.instr :: remaining type instr out.next = due
  last : out.isLastMacro = decide (out.next.stateQ = .idle)
  stall : out.fetchStall = !decide (out.next.stateQ = .idle)
  follows : out.next.stateQ = .idle ∨ Follows type out.next

/-- In the middle of an instruction something is left. -/
theorem remaining_ne_nil (follows : Follows type regs) : remaining type instr regs ≠ [] := by
  unfold Follows at follows
  unfold remaining
  cases state : regs.stateQ with
  | idle => simp [state] at follows
  | init =>
    simp only [state] at follows
    cases type <;> simp_all [epilogue, MacroInstr.isMove]
  | pushPopInstr2 =>
    simp only [state] at follows
    cases type <;> simp_all [epilogue, MacroInstr.isMove]
  | pushAddi =>
    simp only [state] at follows
    cases type <;> simp_all [epilogue, MacroInstr.isMove]
  | popretz1 =>
    dsimp only
    split
    · simp [epilogue]
    · split <;> simp [epilogue]
  | move =>
    simp only [state] at follows
    cases type <;> simp_all [words, MacroInstr.isMove]

/-- After the last transfer the rest is left. -/
theorem remaining_afterTransfers (other : type.isMove = false) (returns : Returns type regs) :
    remaining type instr { regs with stateQ := type.afterTransfers } =
        epilogue type (frame instr) ∧
      Follows type { regs with stateQ := type.afterTransfers } := by
  cases type with
  | push => exact ⟨rfl, rfl, by rintro (⟨⟨⟩⟩ | ⟨⟨⟩⟩)⟩
  | pop => exact ⟨rfl, rfl, by rintro (⟨⟨⟩⟩ | ⟨⟨⟩⟩)⟩
  | popret => exact ⟨rfl, rfl, fun _ => returns⟩
  | popretz =>
    have three : regs.popretzInstQ = 3 := returns
    exact ⟨by simp [remaining, MacroInstr.afterTransfers, three], Or.inl ⟨rfl, Or.inl three⟩⟩
  | mva01s => cases other
  | mvsa01 => cases other

end Remaining

/-! ## One word -/

section Words

variable {s : State} {i : Input} {type : MacroInstr}

/-- A legal macro instruction is at the decoder. -/
structure Given (type : MacroInstr) (i : Input) : Prop where
  isMacro : i.isMacroInstr = true
  typed : typeOf i.instr = some type
  legal : if type.isMove then xreg1Bits i.instr ≠ xreg2Bits i.instr else 4 ≤ (rlist i.instr).toNat

theorem Given.macroInstrType_eq (given : Given type i) : macroInstrType s i = type := by
  rw [macroInstrType, if_pos given.isMacro, given.typed, Option.getD_some]

theorem Given.illegalBits_eq (given : Given type i) : illegalBits s i = false := by
  have distinct : sameRegs s i = false := by
    rw [sameRegs, given.macroInstrType_eq]
    have legal := given.legal
    cases move : type.isMove with
    | false => rfl
    | true => simpa [move] using legal
  simp [illegalBits, given.isMacro, given.typed, distinct]

theorem Given.xregOf_eq (given : Given type i) (move : type.isMove = true) {bits : BitVec 3}
    {latch : BitVec 5} : xregOf s i bits latch = savedReg bits := by
  have distinct : sameRegs s i = false := by
    have legal := given.legal
    simpa [sameRegs, given.macroInstrType_eq, move] using legal
  rw [xregOf, if_pos given.isMacro, given.macroInstrType_eq, if_pos move, distinct]
  exact xreg_eq bits

theorem Given.words_move (given : Given type i) (move : type.isMove = true) :
    words type i.instr = [moveFirst s i, moveSecond s i] := by
  rw [moveFirst, moveSecond, given.macroInstrType_eq, xreg1, xreg2, given.xregOf_eq move,
    given.xregOf_eq move]
  cases type with
  | mva01s => rfl
  | mvsa01 => rfl
  | _ => cases move

theorem Given.frame_eq (given : Given type i) (other : type.isMove = false) :
    stackAdj i.instr = frame i.instr := by
  have legal := given.legal
  rw [if_neg (by rw [other]; exact Bool.false_ne_true)] at legal
  exact stackAdjOf_eq _ _ legal

theorem Given.words_list (given : Given type i) (other : type.isMove = false) :
    words type i.instr = transfers type.transfer (firstOffset s i)
        (saved (regCount (rlist i.instr))) ++ epilogue type (frame i.instr) := by
  rw [firstOffset, given.macroInstrType_eq, given.frame_eq other]
  cases type with
  | mva01s => cases other
  | mvsa01 => cases other
  | _ => rfl

theorem hands_move (given : Given type i) (state : s.regs.stateQ = .move)
    (follows : Follows type s.regs) (ack : i.issueAck = true) :
    Hands type i.instr (comb s i) (remaining type i.instr s.regs) := by
  have move : type.isMove = true := by simpa [Follows, state] using follows
  have due : remaining type i.instr s.regs = [moveSecond s i] := by
    rw [remaining, state]
    dsimp only
    rw [given.words_move (s := s) move]
    rfl
  have out : comb s i = { defaults s i with
      instr := moveSecond s i
      isLastMacro := true
      isDoubleRdMacro := true
      next := { s.regs with stateQ := .idle } } := by
    rw [comb, state]
    dsimp only
    rw [combMove, given.macroInstrType_eq, if_pos move, if_pos ack]
  rw [out, due]
  exact ⟨given.illegalBits_eq, rfl, rfl, rfl, Or.inl rfl⟩

theorem hands_pushAddi (given : Given type i) (state : s.regs.stateQ = .pushAddi)
    (follows : Follows type s.regs) (ack : i.issueAck = true) :
    Hands type i.instr (comb s i) (remaining type i.instr s.regs) := by
  simp only [Follows, state] at follows
  obtain ⟨other, returns⟩ := follows
  have out : comb s i = combPushAddi s i := by rw [comb, state]
  have size := given.frame_eq other
  have legal := given.illegalBits_eq (s := s)
  rw [out, remaining, state]
  cases type with
  | push =>
    constructor <;>
      simp [combPushAddi, given.macroInstrType_eq, given.isMacro, ack, size, legal, epilogue,
        MacroInstr.imm, remaining, BitVec.neg_eq_not_add, defaults]
  | pop =>
    constructor <;>
      simp [combPushAddi, given.macroInstrType_eq, given.isMacro, ack, size, legal, epilogue,
        remaining, defaults]
  | popret =>
    constructor <;>
      simp [combPushAddi, given.macroInstrType_eq, given.isMacro, ack, size, legal, epilogue,
        remaining, returns, defaults, Follows]
  | popretz =>
    constructor <;>
      simp [combPushAddi, given.macroInstrType_eq, given.isMacro, ack, size, legal, epilogue,
        remaining, returns, defaults, Follows]
  | mva01s => cases other
  | mvsa01 => cases other

theorem hands_popretz1 (given : Given type i) (state : s.regs.stateQ = .popretz1)
    (follows : Follows type s.regs) (ack : i.issueAck = true) :
    Hands type i.instr (comb s i) (remaining type i.instr s.regs) := by
  simp only [Follows, state] at follows
  have out : comb s i = combPopretz1 s i := by rw [comb, state]
  have legal := given.illegalBits_eq (s := s)
  rw [out, remaining, state]
  rcases follows with ⟨rfl, three | two⟩ | ⟨kind, one⟩
  · constructor <;>
      simp [combPopretz1, three, ack, legal, epilogue, remaining, state, defaults, Follows]
  · constructor <;>
      simp [combPopretz1, two, ack, legal, epilogue, remaining, defaults, Follows,
        MacroInstr.isMove]
  · constructor <;>
      simp [combPopretz1, one, ack, legal, epilogue, remaining, defaults]

theorem hands_pushPopInstr2 (given : Given type i) (state : s.regs.stateQ = .pushPopInstr2)
    (follows : Follows type s.regs) (ack : i.issueAck = true) :
    Hands type i.instr (comb s i) (remaining type i.instr s.regs) := by
  simp only [Follows, state] at follows
  obtain ⟨other, returns, count, reg⟩ := follows
  have out : comb s i = { defaults s i with
      fetchStall := true
      instr := type.transfer s.regs.storeRegQ s.regs.offsetQ
      next := { s.regs with
        offsetQ := s.regs.offsetQ + 0xFFC
        storeRegQ := s.regs.storeRegQ - 1
        stateQ := .init } } := by
    rw [comb, state]
    dsimp only
    rw [combPushPopInstr2, given.macroInstrType_eq, other, if_neg Bool.false_ne_true, if_pos ack]
  rw [out, remaining, state]
  constructor
  · exact given.illegalBits_eq
  · dsimp only
    rw [remaining, count, reg, add_minus_four]
    rfl
  · rfl
  · rfl
  · refine Or.inr ⟨other, returns, ?_, ?_, ?_⟩
    · rw [count]
      decide
    · rw [count]
      decide
    · intro _
      dsimp only
      rw [count, reg]
      rfl

theorem hands_init (given : Given type i) (state : s.regs.stateQ = .init)
    (follows : Follows type s.regs) (ack : i.issueAck = true) :
    Hands type i.instr (comb s i) (remaining type i.instr s.regs) := by
  simp only [Follows, state] at follows
  obtain ⟨other, returns, some, few, named⟩ := follows
  obtain ⟨reg, found, cons⟩ := transferReg_cons some few named
  have out : comb s i = { defaults s i with
      fetchStall := true
      instr := type.transfer reg s.regs.offsetQ
      next :=
        if s.regs.regNumbersQ = 1 then { s.regs with stateQ := type.afterTransfers }
        else advance s.regs } := by
    rw [comb, state]
    dsimp only
    rw [combInit, given.macroInstrType_eq, given.isMacro, ack, other, found]
    rfl
  rw [out, remaining, state]
  dsimp only
  rw [cons, transfers, List.cons_append]
  by_cases one : s.regs.regNumbersQ = 1
  · obtain ⟨left, follows⟩ :=
      @remaining_afterTransfers type i.instr s.regs other returns
    have busy : ¬({ s.regs with stateQ := type.afterTransfers } : Regs).stateQ = .idle := by
      cases type <;> simp [MacroInstr.afterTransfers]
    constructor
    · exact given.illegalBits_eq
    · dsimp only
      rw [if_pos one, left, one]
      rfl
    · rw [if_pos one, decide_eq_false busy]
      rfl
    · rw [if_pos one, decide_eq_false busy]
      rfl
    · rw [if_pos one]
      exact Or.inr follows
  · have more : s.regs.regNumbersQ.toNat ≠ 1 := fun same => one (BitVec.eq_of_toNat_eq same)
    have twelve : s.regs.regNumbersQ ≠ 12 := by
      intro twelve
      rw [twelve] at few
      exact absurd few (by decide)
    have fewer : (s.regs.regNumbersQ - 1).toNat = s.regs.regNumbersQ.toNat - 1 :=
      BitVec.toNat_sub_of_le (BitVec.le_def.mpr some)
    have same : (advance s.regs).stateQ = .init := by
      rw [advance, if_neg one, if_neg twelve]
      exact state
    rw [if_neg one]
    constructor
    · exact given.illegalBits_eq
    · dsimp only
      rw [remaining, same]
      dsimp only
      rw [advance, if_neg one, fewer, add_minus_four]
    · rw [decide_eq_false (by rw [same]; exact Fsm.noConfusion)]
      rfl
    · rw [decide_eq_false (by rw [same]; exact Fsm.noConfusion)]
      rfl
    · right
      rw [Follows, same]
      dsimp only
      rw [advance, if_neg one]
      dsimp only
      rw [fewer]
      refine ⟨other, returns, by omega, by omega, fun many => ?_⟩
      rw [named (by omega), if_pos (by simp; omega)]
      exact storeReg_sub_one _ some

theorem hands_of_follows (given : Given type i) (follows : Follows type s.regs)
    (ack : i.issueAck = true) :
    Hands type i.instr (comb s i) (remaining type i.instr s.regs) := by
  cases state : s.regs.stateQ with
  | idle => simp [Follows, state] at follows
  | init => exact hands_init given state follows ack
  | pushAddi => exact hands_pushAddi given state follows ack
  | popretz1 => exact hands_popretz1 given state follows ack
  | move => exact hands_move given state follows ack
  | pushPopInstr2 => exact hands_pushPopInstr2 given state follows ack

theorem prepare_offsetQ (given : Given type i) (other : type.isMove = false) :
    (prepare s i).offsetQ = firstOffset s i - 4 := by
  simp only [prepare, firstOffset, given.macroInstrType_eq]
  cases type with
  | push => rfl
  | mva01s => cases other
  | mvsa01 => cases other
  | _ => exact add_minus_four _

theorem returns_prepare (given : Given type i) : Returns type (prepare s i) := by
  simp only [Returns, prepare, given.macroInstrType_eq]
  cases type <;> trivial

theorem hands_idle_move (given : Given type i) (state : s.regs.stateQ = .idle)
    (move : type.isMove = true) : Hands type i.instr (comb s i) (words type i.instr) := by
  have out : comb s i = { defaults s i with
      instr := moveFirst s i
      fetchStall := true
      isDoubleRdMacro := true
      next := { prepare s i with stateQ := .move } } := by
    rw [comb, state]
    dsimp only
    rw [combIdle, if_pos given.isMacro, given.macroInstrType_eq, if_pos move]
  rw [out]
  refine ⟨given.illegalBits_eq, ?_, rfl, rfl, Or.inr move⟩
  rw [remaining]
  dsimp only
  rw [given.words_move (s := s) move]
  rfl

theorem combIdle_list (given : Given type i) (state : s.regs.stateQ = .idle)
    (other : type.isMove = false) {reg : BitVec 5}
    (found : transferReg (regNumbers i.instr) (storeReg i) = some reg) :
    comb s i = { defaults s i with
      instr := type.transfer reg (firstOffset s i)
      fetchStall := true
      next :=
        if regNumbers i.instr = 1 then { prepare s i with stateQ := type.afterTransfers }
        else if regNumbers i.instr = 12 then { prepare s i with stateQ := .pushPopInstr2 }
        else prepare s i } := by
  rw [comb, state]
  dsimp only
  rw [combIdle, if_pos given.isMacro, given.macroInstrType_eq, other, found]
  rfl

theorem hands_idle_longest (given : Given type i) (state : s.regs.stateQ = .idle)
    (other : type.isMove = false) (twelve : regNumbers i.instr = 12) :
    Hands type i.instr (comb s i) (words type i.instr) := by
  have found : transferReg (regNumbers i.instr) (storeReg i) = some 27 := by
    rw [storeReg, twelve]
    rfl
  have legal := given.legal
  rw [if_neg (by rw [other]; exact Bool.false_ne_true)] at legal
  have count : regCount (rlist i.instr) = 13 := by
    simpa [twelve] using regCount_eq legal
  rw [combIdle_list given state other found, given.words_list (s := s) other, count, twelve]
  refine ⟨given.illegalBits_eq, ?_, rfl, rfl, Or.inr ⟨other, returns_prepare given, ?_, ?_⟩⟩
  · change _ :: (transfers type.transfer (prepare s i).offsetQ (saved 12) ++ _) = _
    rw [prepare_offsetQ given other]
    rfl
  · change regNumbers i.instr - 1 = 11
    rw [twelve]
    rfl
  · change (prepare s i).storeRegQ = 26
    rw [prepare, twelve]
    rfl

theorem hands_idle_list (given : Given type i) (state : s.regs.stateQ = .idle)
    (other : type.isMove = false) (shorter : regNumbers i.instr ≠ 12)
    (starts : regNumbers i.instr = 1 ∨ i.issueAck = true) :
    Hands type i.instr (comb s i) (words type i.instr) := by
  have legal := given.legal
  rw [if_neg (by rw [other]; exact Bool.false_ne_true)] at legal
  have bounds := regCount_eq legal
  rw [if_neg shorter] at bounds
  obtain ⟨count, some, few⟩ := bounds
  have first : storeReg i = 14 + (regNumbers i.instr).setWidth 5 := by
    rw [storeReg, if_neg shorter]
  obtain ⟨reg, found, cons⟩ := transferReg_cons some few (fun _ => first)
  rw [combIdle_list given state other found, given.words_list (s := s) other, count, cons,
    transfers, List.cons_append]
  by_cases one : regNumbers i.instr = 1
  · obtain ⟨left, follows⟩ := @remaining_afterTransfers type i.instr (prepare s i)
      other (returns_prepare given)
    have busy : ¬({ prepare s i with stateQ := type.afterTransfers } : Regs).stateQ = .idle := by
      cases type <;> simp [MacroInstr.afterTransfers]
    constructor
    · exact given.illegalBits_eq
    · dsimp only
      rw [if_pos one, left, one]
      rfl
    · rw [if_pos one, decide_eq_false busy]
      rfl
    · rw [if_pos one, decide_eq_false busy]
      rfl
    · rw [if_pos one]
      exact Or.inr follows
  · have ack : i.issueAck = true := starts.resolve_left one
    have more : (regNumbers i.instr).toNat ≠ 1 := fun same => one (BitVec.eq_of_toNat_eq same)
    have fewer : (regNumbers i.instr - 1).toNat = (regNumbers i.instr).toNat - 1 :=
      BitVec.toNat_sub_of_le (BitVec.le_def.mpr some)
    have same : (prepare s i).stateQ = .init := if_pos ack
    rw [if_neg one, if_neg shorter]
    constructor
    · exact given.illegalBits_eq
    · dsimp only
      rw [remaining, same]
      dsimp only
      rw [prepare_offsetQ given other, ← fewer]
      rfl
    · rw [decide_eq_false (by rw [same]; exact Fsm.noConfusion)]
      rfl
    · rw [decide_eq_false (by rw [same]; exact Fsm.noConfusion)]
      rfl
    · right
      rw [Follows, same]
      refine ⟨other, returns_prepare given, ?_, ?_, fun _ => ?_⟩
      · change 1 ≤ (regNumbers i.instr - 1).toNat
        omega
      · change (regNumbers i.instr - 1).toNat ≤ 11
        omega
      · change (prepare s i).storeRegQ = 14 + (regNumbers i.instr - 1).setWidth 5
        rw [← storeReg_sub_one _ some]
        simp only [prepare, if_neg shorter, thirteen_add]

theorem hands_of_idle (given : Given type i) (state : s.regs.stateQ = .idle)
    (starts : gated s i = false ∨ i.issueAck = true) :
    Hands type i.instr (comb s i) (words type i.instr) := by
  cases move : type.isMove with
  | true => exact hands_idle_move given state move
  | false =>
    by_cases twelve : regNumbers i.instr = 12
    · exact hands_idle_longest given state move twelve
    · apply hands_idle_list given state move twelve
      rcases starts with free | ack
      · left
        by_contra one
        rw [gated, given.macroInstrType_eq, move, decide_eq_true one, decide_eq_true twelve] at free
        cases free
      · exact Or.inr ack

theorem next_of_not_ack (follows : Follows type s.regs)
    (waits : i.issueAck = false) : (comb s i).next = s.regs := by
  rw [comb]
  unfold Follows at follows
  cases state : s.regs.stateQ with
  | idle => simp [state] at follows
  | init => simp [combInit, waits, defaults]
  | pushAddi => simp [combPushAddi, waits, defaults]
  | popretz1 =>
    simp only [combPopretz1, waits]
    split <;> rfl
  | move =>
    simp only [combMove, waits]
    split <;> rfl
  | pushPopInstr2 =>
    simp only [combPushPopInstr2, waits]
    split <;> rfl

/-- Nor does one start whose start waits for an acknowledgement. -/
theorem idle_of_gated (state : s.regs.stateQ = .idle) (waits : gated s i = true)
    (refused : i.issueAck = false) : (comb s i).next.stateQ = .idle := by
  simp only [gated, Bool.and_eq_true, Bool.not_eq_true', decide_eq_true_eq] at waits
  obtain ⟨⟨other, more⟩, fewer⟩ := waits
  rw [comb, state]
  dsimp only
  rw [combIdle]
  by_cases isMacro : i.isMacroInstr = true
  · rw [if_pos isMacro, other, if_neg Bool.false_ne_true, if_neg more, if_neg fewer]
    simp [prepare, refused]
  · rw [if_neg isMacro]
    exact state

end Words

/-! ## The invariant -/

/-- Between the first element and the last, the register is occupied, the instruction waits, and
what has entered and what is left are its expansion. -/
structure Tracked (c : State × Ledger) : Prop where
  idle : c.2.handed = [] → c.1.regs.stateQ = .idle
  busy : c.2.handed ≠ [] → c.1.issueQ.valid = true ∧
    ∃ instr type, c.2.held = some (instr, true) ∧ typeOf instr = some type ∧
      Follows type c.1.regs ∧
        c.2.handed ++ marked (remaining type instr c.1.regs) = expansion instr

section Step

variable {c : State × Ledger} {i : Input} {type : MacroInstr} {due : List (BitVec 32)}

theorem presents_eq_true : i.presents = true ↔
    i.fetchValid = true ∧ i.isMacroInstr = true ∧ i.flush = false := by
  simp [Input.presents, and_assoc]

theorem given_of_legal (isMacro : i.isMacroInstr = true) (legal : Legal i.instr) :
    ∃ type, Given type i := by
  obtain ⟨type, typed, legal⟩ := legal
  exact ⟨type, isMacro, typed, legal⟩

/-- Nothing is left exactly where the decoder is idle afterwards. -/
theorem Hands.remaining_isEmpty {out : Comb} {instr : BitVec 32}
    (hands : Hands type instr out due) :
    (remaining type instr out.next).isEmpty = decide (out.next.stateQ = .idle) := by
  rcases hands.follows with idle | follows
  · rw [decide_eq_true idle, remaining, idle]
    rfl
  · have busy : out.next.stateQ ≠ .idle := by
      intro idle
      simp [Follows, idle] at follows
    rw [decide_eq_false busy]
    cases left : remaining type instr out.next with
    | nil => exact absurd left (remaining_ne_nil follows)
    | cons _ _ => rfl

theorem Hands.marked_eq (hands : Hands type i.instr (comb c.1 i) due) :
    marked due = element c.1 i :: marked (remaining type i.instr (comb c.1 i).next) := by
  have last : (element c.1 i).last = (remaining type i.instr (comb c.1 i).next).isEmpty := by
    rw [hands.remaining_isEmpty]
    exact hands.last
  rw [← hands.word, marked, ← last]
  rfl

/-- The elements that are due in the instruction in the middle of which the decoder is. -/
theorem busy_turn (tracked : Tracked c) (environment : Environment c i)
    (busy : c.2.handed ≠ []) (orderly : Orderly c i) :
    i.fetchValid = true ∧ ∃ type, Given type i ∧ Follows type c.1.regs ∧
      c.2.handed ++ marked (remaining type i.instr c.1.regs) = expansion i.instr := by
  obtain ⟨-, instr, type, held, typed, follows, split⟩ := tracked.busy busy
  obtain ⟨fetch, same⟩ := environment.held (instr, true) held
  obtain ⟨rfl, isMacro⟩ := Prod.mk.inj same
  obtain ⟨known, given⟩ := given_of_legal isMacro (orderly.legal fetch isMacro)
  obtain rfl : known = type := Option.some.inj (given.typed.symm.trans typed)
  exact ⟨fetch, known, given, follows, split⟩

/-- Of the instruction at the decoder some elements are due. Where there is room the first of
them is handed over, elsewhere the decoder waits. -/
theorem turn (tracked : Tracked c) (environment : Environment c i) (orderly : Orderly c i)
    (presents : i.presents = true) :
    ∃ type due, Given type i ∧ c.2.handed ++ marked due = expansion i.instr ∧
      if c.1.issueQ.room (offer c.1 i) then Hands type i.instr (comb c.1 i) due
      else (comb c.1 i).next.stateQ = .idle ∧ c.2.handed = [] ∨
        (comb c.1 i).next = c.1.regs := by
  obtain ⟨fetch, isMacro, -⟩ := presents_eq_true.mp presents
  by_cases start : c.2.handed = []
  · obtain ⟨type, given⟩ := given_of_legal isMacro (orderly.legal fetch isMacro)
    have idle := tracked.idle start
    have first := orderly.first presents start
    refine ⟨type, words type i.instr, given, ?_, ?_⟩
    · rw [start, List.nil_append, expansion, given.typed]
    · cases waits : gated c.1 i with
      | false =>
        rw [waits, if_neg Bool.false_ne_true] at first
        rw [if_pos first]
        exact hands_of_idle given idle (Or.inl waits)
      | true =>
        rw [waits, if_pos rfl] at first
        have room : c.1.issueQ.room (offer c.1 i) = i.issueAck := by
          simp [IssueRegister.room, offer, first]
        rw [room]
        cases ack : i.issueAck with
        | true => exact hands_of_idle given idle (Or.inr ack)
        | false => exact Or.inl ⟨idle_of_gated idle waits ack, start⟩
  · obtain ⟨-, type, given, follows, split⟩ := busy_turn tracked environment start orderly
    refine ⟨type, _, given, split, ?_⟩
    have room : c.1.issueQ.room (offer c.1 i) = i.issueAck := by
      simp [IssueRegister.room, offer, (tracked.busy start).1]
    rw [room]
    cases ack : i.issueAck with
    | true => exact hands_of_follows given follows ack
    | false => exact Or.inr (next_of_not_ack follows ack)

theorem enters_of_presents (presents : i.presents = true) :
    enters c.1 i = c.1.issueQ.room (offer c.1 i) := by
  obtain ⟨fetch, -, stays⟩ := presents_eq_true.mp presents
  simp [enters, IssueRegister.enters, offer, fetch, stays]

theorem ready_of_presents (presents : i.presents = true) :
    ready c.1 i = (c.1.issueQ.room (offer c.1 i) && !(comb c.1 i).fetchStall) := by
  obtain ⟨fetch, -, -⟩ := presents_eq_true.mp presents
  simp [ready, IssueRegister.ready, offer, fetch]

theorem sound_of_tracked (tracked : Tracked c) (environment : Environment c i)
    (orderly : Orderly c i) : Sound c i where
  idle := tracked.idle
  next presents goes := by
    obtain ⟨type, due, given, split, hands⟩ := turn tracked environment orderly presents
    rw [enters_of_presents presents] at goes
    rw [if_pos goes] at hands
    rw [hands.marked_eq] at split
    refine ⟨hands.legal, marked (remaining type i.instr (comb c.1 i).next), ?_⟩
    rw [List.append_assoc, List.singleton_append, split]
  complete presents := by
    obtain ⟨type, due, given, split, hands⟩ := turn tracked environment orderly presents
    rw [ready_of_presents presents, enters_of_presents presents]
    cases room : c.1.issueQ.room (offer c.1 i) with
    | false => simp
    | true =>
      rw [if_pos room] at hands
      rw [hands.marked_eq] at split
      have empty := hands.remaining_isEmpty
      rw [hands.stall, Bool.not_not, Bool.true_and, ← empty]
      constructor
      · intro done
        rw [List.isEmpty_iff.mp done] at split
        exact ⟨rfl, split⟩
      · rintro ⟨-, done⟩
        rw [← done] at split
        have length := congrArg List.length split
        simp only [List.length_append, List.length_cons, List.length_nil, length_marked] at length
        exact List.isEmpty_iff.mpr (List.length_eq_zero_iff.mp (by omega))
  progress := enters_of_presents

/-- While the instruction stays at the decoder the invariant goes on. -/
theorem tracked_of_presents {latches : Latches} (tracked : Tracked c)
    (environment : Environment c i) (orderly : Orderly c i) (presents : i.presents = true) :
    Tracked ((stage latches).step c i) := by
  obtain ⟨type, due, given, split, hands⟩ := turn tracked environment orderly presents
  obtain ⟨fetch, isMacro, stays⟩ := presents_eq_true.mp presents
  change Tracked (step c.1 i, record c.1 i c.2)
  cases room : c.1.issueQ.room (offer c.1 i) with
  | false =>
    rw [if_neg (by rw [room]; exact Bool.false_ne_true)] at hands
    have waits : departs c.1 i = false := by
      rw [departs, stays, ready_of_presents presents, room]
      rfl
    have same : (record c.1 i c.2).handed = c.2.handed := by
      simp [record, waits, enters_of_presents presents, room]
    have kept : (step c.1 i).issueQ = c.1.issueQ := IssueRegister.step_of_not_room _ _ room stays
    constructor
    · intro start
      rw [same] at start
      rcases hands with ⟨idle, -⟩ | unchanged
      · exact idle
      · change (comb c.1 i).next.stateQ = .idle
        rw [unchanged]
        exact tracked.idle start
    · intro busy
      rw [same] at busy ⊢
      rcases hands with ⟨-, start⟩ | unchanged
      · exact absurd start busy
      · obtain ⟨valid, instr, known, held, typed, follows, whole⟩ := tracked.busy busy
        obtain ⟨rfl, -⟩ := Prod.mk.inj (environment.held (instr, true) held).2
        refine ⟨by rw [kept, valid], i.instr, known, ?_, typed, ?_, ?_⟩
        · simp [record, fetch, waits, Input.entry, isMacro]
        · change Follows known (comb c.1 i).next
          rw [unchanged]
          exact follows
        · change c.2.handed ++ marked (remaining known i.instr (comb c.1 i).next) = _
          rw [unchanged]
          exact whole
  | true =>
    rw [if_pos room] at hands
    rcases hands.follows with idle | follows
    · have leaves : departs c.1 i = true := by
        rw [departs, ready_of_presents presents, room, hands.stall, decide_eq_true idle]
        exact Bool.or_true _
      have none : (record c.1 i c.2).handed = [] := by simp [record, leaves]
      exact ⟨fun _ => idle, fun busy => absurd none busy⟩
    · have running : (comb c.1 i).next.stateQ ≠ .idle := by
        intro idle
        simp [Follows, idle] at follows
      have waits : departs c.1 i = false := by
        rw [departs, stays, ready_of_presents presents, room, hands.stall,
          decide_eq_false running]
        rfl
      have more : (record c.1 i c.2).handed = c.2.handed ++ [element c.1 i] := by
        simp [record, waits, presents, enters_of_presents presents, room]
      constructor
      · intro start
        rw [more] at start
        simp at start
      · intro _
        refine ⟨?_, i.instr, type, ?_, given.typed, follows, ?_⟩
        · exact IssueRegister.valid_step_of_enters _ _ ((enters_of_presents presents).trans room)
        · simp [record, fetch, waits, Input.entry, isMacro]
        · rw [more, List.append_assoc, List.singleton_append, ← split, hands.marked_eq]
          rfl

theorem idle_of_other (state : c.1.regs.stateQ = .idle) (other : i.isMacroInstr = false) :
    (comb c.1 i).next.stateQ = .idle := by
  rw [comb, state]
  dsimp only
  rw [combIdle, if_neg (by rw [other]; exact Bool.false_ne_true)]
  exact state

/-- Where no macro instruction stays at the decoder it is idle afterwards, and nothing has been
handed over. -/
theorem tracked_of_not_presents {latches : Latches} (tracked : Tracked c)
    (environment : Environment c i) (orderly : Orderly c i) (absent : i.presents = false) :
    Tracked ((stage latches).step c i) := by
  change Tracked (step c.1 i, record c.1 i c.2)
  have unstarted : i.fetchValid = false ∨ i.isMacroInstr = false → c.2.handed = [] := by
    intro missing
    by_contra busy
    obtain ⟨fetch, type, given, -⟩ := busy_turn tracked environment busy orderly
    rcases missing with invalid | other
    · rw [invalid] at fetch
      cases fetch
    · have isMacro := given.isMacro
      rw [other] at isMacro
      cases isMacro
  suffices ends : (comb c.1 i).next.stateQ = .idle ∧ (record c.1 i c.2).handed = [] from
    ⟨fun _ => ends.1, fun busy => absurd ends.2 busy⟩
  cases fetch : i.fetchValid with
  | false =>
    have start := unstarted (Or.inl fetch)
    have idle := tracked.idle start
    refine ⟨?_, by simp [record, absent, start]⟩
    cases isMacro : i.isMacroInstr with
    | false => exact idle_of_other idle isMacro
    | true =>
      obtain ⟨waits, refused⟩ := orderly.stale fetch isMacro
      exact idle_of_gated idle waits refused
  | true =>
    cases isMacro : i.isMacroInstr with
    | false =>
      have start := unstarted (Or.inr isMacro)
      exact ⟨idle_of_other (tracked.idle start) isMacro, by simp [record, absent, start]⟩
    | true =>
      have flush : i.flush = true := by simpa [Input.presents, fetch, isMacro] using absent
      refine ⟨?_, by simp [record, departs, flush]⟩
      have condition := orderly.flush fetch isMacro flush
      by_cases start : c.2.handed = []
      · rw [if_pos start] at condition
        exact idle_of_gated (tracked.idle start) condition.1 condition.2
      · rw [if_neg start] at condition
        obtain ⟨-, type, given, follows, split⟩ := busy_turn tracked environment start orderly
        have hands := hands_of_follows given follows condition.1
        have length := congrArg List.length split
        rw [List.length_append, length_marked, ← hands.word, List.length_cons] at length
        have empty := hands.remaining_isEmpty
        rw [List.length_eq_zero_iff.mp (show (remaining type i.instr
          (comb c.1 i).next).length = 0 by omega)] at empty
        exact of_decide_eq_true empty.symm

theorem tracked_step {latches : Latches} (tracked : Tracked c) (environment : Environment c i)
    (orderly : Orderly c i) : Tracked ((stage latches).step c i) := by
  cases presents : i.presents with
  | true => exact tracked_of_presents tracked environment orderly presents
  | false => exact tracked_of_not_presents tracked environment orderly presents

end Step

/-! ## Runs -/

section Runs

variable {latches : Latches} {inputs : List Input}

theorem tracked_reset : Tracked (stage latches).reset :=
  ⟨fun _ => rfl, fun busy => absurd rfl busy⟩

/-- In a run in which every macro instruction starts where the decoder hands over its first
element once, and no flush finds the decoder between, exactly the expansions enter the issue
stage, and the decoder is idle whenever nothing of an instruction has entered. -/
theorem expands_of_orderly
    (along : (stage latches).RunAlong (fun c i => Environment c i ∧ Orderly c i) inputs) :
    (stage latches).RunAlong Sound inputs ∧
      (((stage latches).run inputs).2.handed = [] →
        ((stage latches).run inputs).1.regs.stateQ = .idle) := by
  constructor
  · exact along.of_invariant Tracked
      (fun _ _ tracked now => tracked_step tracked now.1 now.2)
      (fun _ _ tracked now => sound_of_tracked tracked now.1 now.2) tracked_reset
  · exact ((stage latches).run_invariant_along Tracked tracked_reset
      (fun _ _ tracked now => tracked_step tracked now.1 now.2) along).idle

end Runs

/-! ## A pop and a push -/

/-- A macro instruction at the decoder, without an acknowledgement. -/
def presented (instr : BitVec 32) : Input where
  flush := false
  fetchValid := true
  instr := instr
  isMacroInstr := true
  illegalInstr := false
  isCompressed := true
  issueAck := false

/-- `cm.pop {ra}, 16`, which the issue stage refuses once. -/
def refusedPop : List Input :=
  [presented 0xBA42#32, presented 0xBA42#32, { presented 0xBA42#32 with issueAck := true }]

theorem refusedPop_sound : (stage ⟨0, .push, 0, 0⟩).RunAlong Sound refusedPop := by
  refine (expands_of_orderly ?_).1
  have legal : Legal 0xBA42#32 := ⟨.pop, by decide, by decide⟩
  refine ⟨⟨⟨?_, by decide⟩, fun _ _ => legal, by decide, by decide, by decide⟩,
    ⟨⟨?_, by decide⟩, fun _ _ => legal, by decide, by decide, by decide⟩,
    ⟨⟨?_, by decide⟩, fun _ _ => legal, by decide, by decide, by decide⟩, trivial⟩
  · exact fun _ held => nomatch held
  · rintro entry ⟨⟩
    exact ⟨rfl, rfl⟩
  · rintro entry ⟨⟩
    exact ⟨rfl, rfl⟩

/-- `cm.push {ra, s0}, -16` stores `s0` twice when it finds the register empty. -/
theorem push_not_sound :
    ∃ inputs, (stage ⟨0, .push, 0, 0⟩).RunAlong Environment inputs ∧
      (∀ i ∈ inputs, i.presents = true → Legal i.instr) ∧
        ¬(stage ⟨0, .push, 0, 0⟩).RunAlong Sound inputs := by
  refine ⟨[presented 0xB852#32, { presented 0xB852#32 with issueAck := true }],
    ⟨⟨fun _ held => (nomatch held), by decide⟩, ⟨?_, by decide⟩, trivial⟩, ?_, ?_⟩
  · rintro entry ⟨⟩
    exact ⟨rfl, rfl⟩
  · intro i member _
    have same : i.instr = 0xB852#32 := by
      rcases List.mem_pair.mp member with rfl | rfl <;> rfl
    rw [same]
    exact ⟨.push, by decide, by decide⟩
  · rintro ⟨-, second, -⟩
    have again := (second.next (by decide) (by decide)).2
    revert again
    decide

end Cva6Hpd.Decode.Macro
