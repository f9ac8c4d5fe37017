import Cva6Hpd.Decode.MacroWidth

/-!
# A push and the matching pop

A push followed by the pop of the same list and adjustment. For 32 bits every listed register and
the stack pointer are restored, each from its own slot of the frame. For 64 bits the offsets still
step by four, and both adjustments of the stack pointer are four less than the list asks for, so
that it ends eight below where it started.
-/

namespace Cva6Hpd.Decode.Macro

open Cva6Hpd.Hw

/-! ## The law -/

/-- A frame of the stack. Every listed register has a slot of its own, and the memory outside the
frame keeps its value. -/
structure Framed {width : Nat} (listed : List (BitVec 5)) (size : Nat) (slot : BitVec 5 → Nat)
    (hart framed : Hart width) : Prop where
  pointer : framed.regs 2 = hart.regs 2 - BitVec.ofNat width size
  inside : ∀ name ∈ listed, slot name + width / 8 ≤ size
  apart : ∀ name ∈ listed, ∀ other ∈ listed, name ≠ other →
    slot name + width / 8 ≤ slot other ∨ slot other + width / 8 ≤ slot name
  stored : ∀ name ∈ listed, ∀ k < width / 8,
    framed.mem (framed.regs 2 + BitVec.ofNat width (slot name + k)) = byteAt (hart.regs name) k
  outside : ∀ address, size ≤ (address - framed.regs 2).toNat →
    framed.mem address = hart.mem address

/-- What is asked for. The words of the push leave a frame, and those of the pop restore the
stack pointer and every listed register, whatever the registers hold by then. -/
def RoundTrip {width : Nat} (pushed popped : List (BitVec 32)) (listed : List (BitVec 5))
    (size : Nat) (hart : Hart width) : Prop :=
  ∃ framed slot, hart.run pushed = some framed ∧ Framed listed size slot hart framed ∧
    ∀ regs : BitVec 5 → BitVec width, regs 2 = framed.regs 2 →
      ∃ restored, Hart.run ⟨regs, framed.mem⟩ popped = some restored ∧
        restored.regs 2 = hart.regs 2 ∧ restored.mem = framed.mem ∧
        ∀ name ∈ listed, restored.regs name = hart.regs name

/-- The size of the frame. -/
def frameBytes (wide : Bool) (instr : BitVec 32) : Nat :=
  if wide then (stackAdj64 instr).toNat else (stackAdj instr).toNat

/-- The registers of an instruction. -/
def listedBy (instr : BitVec 32) : List (BitVec 5) := saved (regCount (rlist instr))

/-- A push and a pop with the same list and the same adjustment. -/
structure Matching (push pop : BitVec 32) : Prop where
  pushes : typeOf push = some .push
  pops : typeOf pop = some .pop
  legal : 4 ≤ (rlist push).toNat
  list : rlist pop = rlist push
  adjustment : spimm pop = spimm push

/-! ## The registers -/

section Registers

variable {instr : BitVec 32} {name : BitVec 5}

theorem nodup_listedBy : (listedBy instr).Nodup :=
  (List.drop_sublist ..).nodup (by decide : listedRegs.Nodup)

theorem ne_of_mem_listedRegs : ∀ name ∈ listedRegs, name ≠ 0 ∧ name ≠ 2 := by decide

theorem ne_of_listed (listed : name ∈ listedBy instr) : name ≠ 0 ∧ name ≠ 2 :=
  ne_of_mem_listedRegs name (List.mem_of_mem_drop listed)

theorem length_listedBy : (listedBy instr).length = min (regCount (rlist instr)) 13 := by
  have whole : listedRegs.length = 13 := rfl
  rw [listedBy, saved, List.length_drop, whole]
  omega

/-- The registers fit in the frame, which is small. -/
theorem length_le_frame (legal : 4 ≤ (rlist instr).toNat) :
    4 * (listedBy instr).length ≤ (stackAdj instr).toNat ∧ (stackAdj instr).toNat ≤ 112 ∧
      (listedBy instr).length ≤ 13 := by
  rw [length_listedBy, stackAdj]
  revert legal
  generalize rlist instr = list, spimm instr = steps
  revert list steps
  decide

end Registers

/-! ## The words of 32 bits -/

section Words

variable {s : State} {i : Input} {type : MacroInstr} {fuel : Nat}

theorem remaining_idle (type : MacroInstr) (instr : BitVec 32) {regs : Regs}
    (idle : regs.stateQ = .idle) : remaining type instr regs = [] := by
  rw [remaining, idle]

theorem combOf_narrow : combOf s i false = comb s i := rfl

theorem emitted_of_hands {due : List (BitVec 32)} (hands : Hands type i.instr (comb s i) due)
    (rest : Follows type (comb s i).next →
      emitted false i fuel (decoderStep s i false) = remaining type i.instr (comb s i).next) :
    emitted false i (fuel + 1) s = due := by
  rw [← hands.word, emitted, combOf_narrow]
  apply congrArg (List.cons _)
  rcases hands.follows with idle | next
  · rw [if_pos idle, remaining_idle type i.instr idle]
  · have busy : (comb s i).next.stateQ ≠ .idle := by
      intro idle
      exact remaining_ne_nil next (remaining_idle type i.instr idle)
    rw [if_neg busy, rest next]

theorem emitted_of_follows (given : Given type i) (ack : i.issueAck = true)
    (follows : Follows type s.regs) (enough : (remaining type i.instr s.regs).length ≤ fuel) :
    emitted false i fuel s = remaining type i.instr s.regs := by
  induction fuel generalizing s with
  | zero =>
      have none := List.eq_nil_of_length_eq_zero (Nat.le_zero.mp enough)
      exact absurd none (remaining_ne_nil follows)
  | succ fuel inductionHypothesis =>
      have hands := hands_of_follows given follows ack
      rw [← hands.word, List.length_cons] at enough
      apply emitted_of_hands hands
      intro next
      exact inductionHypothesis (s := decoderStep s i false) next (Nat.le_of_succ_le_succ enough)

theorem emitted_of_idle (given : Given type i) (ack : i.issueAck = true)
    (idle : s.regs.stateQ = .idle) (enough : (words type i.instr).length ≤ fuel) :
    emitted false i fuel s = words type i.instr := by
  have hands := hands_of_idle given idle (Or.inr ack)
  rw [← hands.word, List.length_cons] at enough
  cases fuel with
  | zero => cases enough
  | succ fuel =>
      apply emitted_of_hands hands
      intro next
      exact emitted_of_follows (s := decoderStep s i false) given ack next
        (Nat.le_of_succ_le_succ enough)

theorem given_acknowledged {instr : BitVec 32} (typed : typeOf instr = some type)
    (other : type.isMove = false) (legal : 4 ≤ (rlist instr).toNat) :
    Given type (acknowledged instr) where
  isMacro := rfl
  typed := typed
  legal := by
    rw [other]
    exact legal

theorem length_transfers (word : BitVec 5 → BitVec 12 → BitVec 32) (offset : BitVec 12)
    (names : List (BitVec 5)) : (transfers word offset names).length = names.length := by
  induction names generalizing offset with
  | nil => rfl
  | cons name rest inductionHypothesis =>
      rw [transfers, List.length_cons, inductionHypothesis, List.length_cons]

end Words

/-! ## The meaning of the transfers -/

section Meaning

variable {hart : Hart 32} {offset : BitVec 12} {names : List (BitVec 5)}

theorem signExtend_sub_four (low : -2044 ≤ offset.toInt) :
    (offset - 4).signExtend 32 = offset.signExtend 32 - BitVec.ofNat 32 4 := by
  apply BitVec.eq_of_toInt_eq
  have high := BitVec.toInt_lt (x := offset)
  rw [BitVec.toInt_signExtend_of_le (by decide), BitVec.toInt_sub, BitVec.toInt_sub,
    BitVec.toInt_signExtend_of_le (by decide)]
  have four : (4 : BitVec 12).toInt = 4 := rfl
  have fourWide : (BitVec.ofNat 32 4).toInt = 4 := rfl
  rw [four, fourWide, Int.bmod_eq_of_le (by omega) (by omega),
    Int.bmod_eq_of_le (by omega) (by omega)]

theorem toInt_sub_four (low : -2044 ≤ offset.toInt) :
    (offset - 4).toInt = offset.toInt - 4 := by
  have high := BitVec.toInt_lt (x := offset)
  have four : (4 : BitVec 12).toInt = 4 := rfl
  rw [BitVec.toInt_sub, four, Int.bmod_eq_of_le (by omega) (by omega)]

/-- The stores of a list, at descending addresses. -/
theorem run_stores (low : 4 * (names.length : Int) ≤ offset.toInt + 2048) :
    hart.run (transfers storeWord offset names) = some
      { hart with
        mem := storeDown 4 hart.mem (hart.reg 2 + offset.signExtend 32)
          (names.map hart.reg) } := by
  induction names generalizing hart offset with
  | nil => rfl
  | cons name rest inductionHypothesis =>
      rw [List.length_cons] at low
      push_cast at low
      rw [transfers, Hart.run_cons _ (ofWord_storeWord name offset), inductionHypothesis]
      · rw [List.map_cons, storeDown, signExtend_sub_four (by omega), ← add_sub_assoc]
        rfl
      · rw [toInt_sub_four (by omega)]
        omega

theorem run_loads {value : BitVec 5 → BitVec 32} {place : BitVec 32}
    (low : 4 * (names.length : Int) ≤ offset.toInt + 2048)
    (base : hart.regs 2 + offset.signExtend 32 = place) (distinct : names.Nodup)
    (named : ∀ name ∈ names, name ≠ 2)
    (slots : ∀ index name, names[index]? = some name → ∀ k < 4,
      hart.mem (place - BitVec.ofNat 32 (4 * index) + BitVec.ofNat 32 k) =
        byteAt (value name) k) :
    ∃ loaded, hart.run (transfers loadWord offset names) = some loaded ∧
      loaded.mem = hart.mem ∧ (∀ name ∈ names, loaded.regs name = value name) ∧
      ∀ name ∉ names, loaded.regs name = hart.regs name := by
  induction names generalizing hart offset place with
  | nil => exact ⟨hart, rfl, rfl, by simp, fun _ _ => rfl⟩
  | cons name rest inductionHypothesis =>
      rw [List.length_cons] at low
      push_cast at low
      obtain ⟨fresh, distinct⟩ := List.nodup_cons.mp distinct
      have notPointer : name ≠ 2 := named name List.mem_cons_self
      have loadedHere : loadAt 4 hart.mem (hart.reg 2 + offset.signExtend 32) = value name := by
        rw [Hart.reg_of_ne hart (by decide), base]
        apply loadAt_eq (by decide)
        intro k inside
        have here := slots 0 name rfl k inside
        rwa [Nat.mul_zero, BitVec.sub_zero] at here
      have lower : 4 * (rest.length : Int) ≤ (offset - 4).toInt + 2048 := by
        rw [toInt_sub_four (by omega)]
        omega
      have baseLower : (hart.setReg name (value name)).regs 2 + (offset - 4).signExtend 32 =
          place - BitVec.ofNat 32 4 := by
        rw [Hart.setReg_regs_of_ne _ notPointer.symm, signExtend_sub_four (by omega),
          ← add_sub_assoc, base]
      have slotsLower : ∀ index other, rest[index]? = some other → ∀ k < 4,
          (hart.setReg name (value name)).mem (place - BitVec.ofNat 32 4 -
            BitVec.ofNat 32 (4 * index) + BitVec.ofNat 32 k) = byteAt (value other) k := by
        intro index other found k inside
        rw [lower_lower]
        exact slots (index + 1) other found k inside
      rw [transfers, Hart.run_cons _ (ofWord_loadWord name offset), Hart.exec, loadedHere]
      obtain ⟨loaded, runs, mem, listed, others⟩ := inductionHypothesis lower baseLower distinct
        (fun other member => named other (List.mem_cons_of_mem name member)) slotsLower
      refine ⟨loaded, runs, mem, ?_, ?_⟩
      · intro other member
        rcases List.mem_cons.mp member with rfl | later
        · rw [others other fresh, Hart.setReg_regs_self]
        · exact listed other later
      · intro other absent
        obtain ⟨differs, absent⟩ := not_or.mp (mt List.mem_cons.mpr absent)
        rw [others other absent, Hart.setReg_regs_of_ne _ differs]

end Meaning

/-! ## 32 bits -/

section Narrow

variable {push pop : BitVec 32} {hart : Hart 32}

/-- The slot of a register: the first one is below the top of the frame. -/
def slotOf (instr : BitVec 32) (name : BitVec 5) : Nat :=
  (stackAdj instr).toNat - 4 * ((listedBy instr).idxOf name + 1)

/-- The hart after a push. -/
def pushedHart (instr : BitVec 32) (hart : Hart 32) : Hart 32 :=
  { regs := Function.update hart.regs 2 (hart.regs 2 - BitVec.ofNat 32 (stackAdj instr).toNat)
    mem := storeDown 4 hart.mem (hart.regs 2 - BitVec.ofNat 32 4)
      ((listedBy instr).map hart.reg) }

theorem words_push (matching : Matching push pop) :
    words .push push = transfers storeWord (-4) (listedBy push) ++
      [addi 2 2 (-stackAdj push)] := by
  have size : frame push = stackAdj push := (stackAdjOf_eq _ _ matching.legal).symm
  rw [← size]
  rfl

theorem words_pop (matching : Matching push pop) :
    words .pop pop = transfers loadWord (stackAdj push - 4) (listedBy push) ++
      [addi 2 2 (stackAdj push)] := by
  have size : frame push = stackAdj push := (stackAdjOf_eq _ _ matching.legal).symm
  have same : frame pop = frame push := by rw [frame, frame, matching.list, matching.adjustment]
  have listed : listedBy pop = listedBy push := by rw [listedBy, listedBy, matching.list]
  rw [← size, ← same, ← listed]
  rfl

/-- The sign of the size of a frame is that of a number. -/
theorem signExtend_stackAdj {instr : BitVec 32} (legal : 4 ≤ (rlist instr).toNat) :
    (stackAdj instr).signExtend 32 = BitVec.ofNat 32 (stackAdj instr).toNat ∧
      (-stackAdj instr).signExtend 32 = -BitVec.ofNat 32 (stackAdj instr).toNat ∧
      (stackAdj instr).toInt = (stackAdj instr).toNat := by
  rw [stackAdj]
  revert legal
  generalize rlist instr = list, spimm instr = steps
  revert list steps
  decide

theorem run_push (matching : Matching push pop) :
    hart.run (words .push push) = some (pushedHart push hart) := by
  obtain ⟨-, negated, -⟩ := signExtend_stackAdj matching.legal
  obtain ⟨-, -, few⟩ := length_le_frame matching.legal
  have first : (-4 : BitVec 12).toInt = -4 := rfl
  have firstWide : (-4 : BitVec 12).signExtend 32 = -BitVec.ofNat 32 4 := rfl
  rw [words_push matching, Hart.run_append, run_stores (by rw [first]; omega), Option.bind_some,
    Hart.run_cons _ (ofWord_addi ..), Hart.run, Hart.exec, negated, firstWide,
    pushedHart, sub_eq_add_neg, sub_eq_add_neg]
  rfl

theorem pushedHart_pointer (instr : BitVec 32) (hart : Hart 32) :
    (pushedHart instr hart).regs 2 =
      hart.regs 2 - BitVec.ofNat 32 (stackAdj instr).toNat := by
  rw [pushedHart]
  dsimp only
  rw [Function.update_self]

theorem slot_place {size index k : Nat} (inside : 4 * (index + 1) ≤ size) (top : BitVec 32) :
    top - BitVec.ofNat 32 size + BitVec.ofNat 32 (size - 4 * (index + 1) + k) =
      top - BitVec.ofNat 32 4 - BitVec.ofNat 32 (4 * index) + BitVec.ofNat 32 k := by
  have whole : BitVec.ofNat 32 size = BitVec.ofNat 32 (size - 4 * (index + 1)) +
      BitVec.ofNat 32 (4 * (index + 1)) := by
    rw [← BitVec.ofNat_add, Nat.sub_add_cancel inside]
  rw [lower_lower, whole, BitVec.ofNat_add, ← add_assoc, ← sub_sub, sub_right_comm,
    sub_add_cancel]

theorem pushedHart_slot (legal : 4 ≤ (rlist push).toNat) {index k : Nat} {name : BitVec 5}
    (found : (listedBy push)[index]? = some name) (inside : k < 4) :
    (pushedHart push hart).mem
        (hart.regs 2 - BitVec.ofNat 32 4 - BitVec.ofNat 32 (4 * index) + BitVec.ofNat 32 k) =
      byteAt (hart.regs name) k := by
  obtain ⟨-, -, few⟩ := length_le_frame legal
  have listed : name ∈ listedBy push := List.mem_of_getElem? found
  rw [← hart.reg_of_ne (ne_of_listed listed).1]
  apply storeDown_slot
  · rw [List.length_map]
    omega
  · rw [List.getElem?_map, found, Option.map_some]
  · exact inside

theorem getElem?_idxOf_listed {instr : BitVec 32} {name : BitVec 5}
    (listed : name ∈ listedBy instr) :
    (listedBy instr)[(listedBy instr).idxOf name]? = some name :=
  List.getElem?_idxOf listed

theorem slotOf_add (legal : 4 ≤ (rlist push).toNat) {name : BitVec 5}
    (listed : name ∈ listedBy push) :
    slotOf push name + 4 * ((listedBy push).idxOf name + 1) = (stackAdj push).toNat := by
  obtain ⟨fits, -, -⟩ := length_le_frame legal
  have below := List.idxOf_lt_length_of_mem listed
  rw [slotOf]
  omega

theorem framed_pushedHart (legal : 4 ≤ (rlist push).toNat) :
    Framed (listedBy push) (stackAdj push).toNat (slotOf push) hart (pushedHart push hart) where
  pointer := pushedHart_pointer push hart
  inside := by
    intro name listed
    have sum := slotOf_add legal listed
    omega
  apart := by
    intro name listed other otherListed differ
    have sum := slotOf_add legal listed
    have otherSum := slotOf_add legal otherListed
    have places : (listedBy push).idxOf name ≠ (listedBy push).idxOf other :=
      fun same => differ (List.idxOf_inj listed |>.mp same)
    omega
  stored := by
    intro name listed k inside
    have sum := slotOf_add legal listed
    rw [pushedHart_pointer, slotOf, slot_place (by omega)]
    exact pushedHart_slot legal (getElem?_idxOf_listed listed) inside
  outside := by
    intro address far
    obtain ⟨fits, small, few⟩ := length_le_frame legal
    apply storeDown_of_outside
    intro index inside
    rw [List.length_map] at inside
    have below : 4 * (index + 1) ≤ (stackAdj push).toNat := by omega
    have place := slot_place (k := 0) below (hart.regs 2)
    rw [Nat.add_zero, BitVec.add_zero] at place
    rw [pushedHart_pointer] at far
    rw [← place, ← sub_sub, BitVec.toNat_sub_of_le]
    · rw [BitVec.toNat_ofNat, Nat.mod_eq_of_lt (by omega)]
      omega
    · rw [BitVec.le_def, BitVec.toNat_ofNat, Nat.mod_eq_of_lt (by omega)]
      omega

theorem round_trip_narrow (matching : Matching push pop) :
    RoundTrip (words .push push) (words .pop pop) (listedBy push) (stackAdj push).toNat hart := by
  obtain ⟨positive, -, value⟩ := signExtend_stackAdj matching.legal
  obtain ⟨fits, small, few⟩ := length_le_frame matching.legal
  refine ⟨pushedHart push hart, slotOf push, run_push matching,
    framed_pushedHart matching.legal, ?_⟩
  intro regs pointer
  rw [pushedHart_pointer] at pointer
  have base : regs 2 + (stackAdj push - 4).signExtend 32 = hart.regs 2 - BitVec.ofNat 32 4 := by
    rw [signExtend_sub_four (by omega), positive, pointer, ← add_sub_assoc, sub_add_cancel]
  have low : 4 * ((listedBy push).length : Int) ≤ (stackAdj push - 4).toInt + 2048 := by
    rw [toInt_sub_four (by omega)]
    omega
  have slots : ∀ index name, (listedBy push)[index]? = some name → ∀ k < 4,
      (⟨regs, (pushedHart push hart).mem⟩ : Hart 32).mem (hart.regs 2 - BitVec.ofNat 32 4 -
        BitVec.ofNat 32 (4 * index) + BitVec.ofNat 32 k) = byteAt (hart.regs name) k :=
    fun index name found k inside => pushedHart_slot matching.legal found inside
  obtain ⟨loaded, runs, mem, listed, others⟩ := run_loads low base nodup_listedBy
    (fun name member => (ne_of_listed member).2) slots
  have unlisted : (2 : BitVec 5) ∉ listedBy push := fun member => (ne_of_listed member).2 rfl
  refine ⟨loaded.setReg 2 (hart.regs 2), ?_, Hart.setReg_regs_self .., mem, ?_⟩
  · have back : loaded.reg 2 + (stackAdj push).signExtend 32 = hart.regs 2 := by
      rw [Hart.reg_of_ne loaded (by decide), others 2 unlisted, positive]
      exact (congrArg (· + _) pointer).trans (sub_add_cancel ..)
    rw [words_pop matching, Hart.run_append, runs, Option.bind_some,
      Hart.run_cons _ (ofWord_addi ..), Hart.run, Hart.exec, back]
  · intro name member
    rw [Hart.setReg_regs_of_ne _ (ne_of_listed member).2]
    exact listed name member

end Narrow

/-! ## 64 bits -/

section Wide

variable {s : State} {i : Input} {type : MacroInstr} {fuel : Nat} {hart framed : Hart 64}

/-- The word is a store or a load that leaves the stack pointer alone. -/
def KeepsPointer (word : BitVec 32) : Prop :=
  ∃ op, Op.ofWord word = some op ∧
    ∀ {width : Nat} (hart : Hart width), (hart.exec op).regs 2 = hart.regs 2

/-- The adjustment of the stack pointer. -/
def pointerStep (type : MacroInstr) (instr : BitVec 32) : BitVec 12 :=
  if type = .push then type.imm (stackAdj64 instr) - 4 else stackAdj64 instr - 4

theorem keepsPointer_storeDword (reg : BitVec 5) (offset : BitVec 12) :
    KeepsPointer (storeDword reg offset) := by
  obtain ⟨stored, known⟩ := ofWord_storeDword reg offset
  exact ⟨_, known, fun _ => rfl⟩

theorem keepsPointer_loadDword {reg : BitVec 5} (offset : BitVec 12) (other : reg ≠ 2) :
    KeepsPointer (loadDword reg offset) :=
  ⟨_, ofWord_loadDword reg offset, fun hart => hart.setReg_regs_of_ne other.symm _⟩

theorem keepsPointer_transfer64 {reg : BitVec 5} (offset : BitVec 12) (other : reg ≠ 2) :
    KeepsPointer (type.transfer64 reg offset) := by
  rw [MacroInstr.transfer64]
  split
  · exact keepsPointer_storeDword reg offset
  · exact keepsPointer_loadDword _ other

/-- One cycle for 64 bits. The decoder goes on as for 32 bits, save for the offset. -/
structure Turns (type : MacroInstr) (instr : BitVec 32) (narrow out : Comb) : Prop where
  next : ∃ offset, out.next = { narrow.next with offsetQ := offset }
  word : if narrow.next.stateQ = .idle then out.instr = addi 2 2 (pointerStep type instr)
    else KeepsPointer out.instr

theorem length_remaining_offset (type : MacroInstr) (instr : BitVec 32) (regs : Regs)
    (offset : BitVec 12) :
    (remaining type instr { regs with offsetQ := offset }).length =
      (remaining type instr regs).length := by
  rw [remaining, remaining]
  dsimp only
  cases regs.stateQ with
  | init => simp only [List.length_append, length_transfers]
  | pushPopInstr2 => simp only [List.length_append, length_transfers]
  | _ => rfl

/-- A push or a pop. -/
def Plain (type : MacroInstr) : Prop := type = .push ∨ type = .pop

theorem Plain.other (plain : Plain type) : type.isMove = false := by
  rcases plain with rfl | rfl <;> rfl

theorem turns_of_pushAddi (plain : Plain type) (given : Given type i) (ack : i.issueAck = true)
    (state : s.regs.stateQ = .pushAddi) :
    Turns type i.instr (comb s i) (combOf s i true) := by
  have out : comb s i = combPushAddi s i := by rw [comb, state]
  have outWide : combOf s i true = combPushAddi64 s i := by rw [combOf, if_pos rfl, state]
  rw [out, outWide]
  rcases plain with rfl | rfl <;>
    exact ⟨⟨s.regs.offsetQ, by simp [combPushAddi64, combPushAddi, given.macroInstrType_eq, ack]⟩,
      by simp [combPushAddi64, combPushAddi, given.macroInstrType_eq, given.isMacro, ack,
        pointerStep]⟩

theorem turns_of_pushPopInstr2 (given : Given type i) (ack : i.issueAck = true)
    (state : s.regs.stateQ = .pushPopInstr2) (follows : Follows type s.regs) :
    Turns type i.instr (comb s i) (combOf s i true) := by
  simp only [Follows, state] at follows
  obtain ⟨other, -, -, reg⟩ := follows
  have out : comb s i = combPushPopInstr2 s i := by rw [comb, state]
  have outWide : combOf s i true = combPushPopInstr264 s i := by rw [combOf, if_pos rfl, state]
  rw [out, outWide]
  constructor
  · exact ⟨(combPushPopInstr2 s i).next.offsetQ, by
      simp [combPushPopInstr264, given.macroInstrType_eq, other, ack]⟩
  · simp only [combPushPopInstr2, combPushPopInstr264, given.macroInstrType_eq, other, ack]
    exact keepsPointer_transfer64 _ (by rw [reg]; decide)

theorem busy_of_hands {out : Comb} {due : List (BitVec 32)}
    (hands : Hands type i.instr out due) (more : 2 ≤ due.length) : out.next.stateQ ≠ .idle := by
  intro idle
  rw [← hands.word, remaining_idle type i.instr idle] at more
  exact Nat.not_succ_le_self 1 more

theorem turns_of_init (plain : Plain type) (given : Given type i) (ack : i.issueAck = true)
    (state : s.regs.stateQ = .init) (follows : Follows type s.regs) :
    Turns type i.instr (comb s i) (combOf s i true) := by
  have hands := hands_of_follows given follows ack
  simp only [Follows, state] at follows
  obtain ⟨other, -, some, few, named⟩ := follows
  obtain ⟨reg, found, cons⟩ := transferReg_cons some few named
  have notPointer : reg ≠ 2 := by
    have listed : reg ∈ saved s.regs.regNumbersQ.toNat := by
      rw [cons]
      exact List.mem_cons_self
    exact (ne_of_mem_listedRegs reg (List.mem_of_mem_drop listed)).2
  have more : 2 ≤ (remaining type i.instr s.regs).length := by
    rw [remaining, state]
    dsimp only
    rw [cons, transfers]
    rcases plain with rfl | rfl <;> simp [epilogue]
  have out : comb s i = combInit s i := by rw [comb, state]
  have outWide : combOf s i true =
      { combInit s i with instr := type.transfer64 reg s.regs.offsetQ } := by
    rw [combOf, if_pos rfl, state]
    dsimp only
    rw [combInit64, ack, given.isMacro, given.macroInstrType_eq, other, found]
    rfl
  rw [outWide, ← out]
  constructor
  · exact ⟨(comb s i).next.offsetQ, rfl⟩
  · rw [if_neg (busy_of_hands hands more)]
    exact keepsPointer_transfer64 _ notPointer

theorem first_register (legal : 4 ≤ (rlist i.instr).toNat) :
    ∃ reg, transferReg (regNumbers i.instr) (storeReg i) = some reg ∧ reg ≠ 2 := by
  rw [storeReg, regNumbers]
  revert legal
  generalize rlist i.instr = list
  revert list
  decide

theorem turns_of_idle (plain : Plain type) (given : Given type i) (ack : i.issueAck = true)
    (legal : 4 ≤ (rlist i.instr).toNat) (state : s.regs.stateQ = .idle) :
    Turns type i.instr (comb s i) (combOf s i true) := by
  have hands := hands_of_idle given state (Or.inr ack)
  obtain ⟨reg, found, notPointer⟩ := first_register legal
  have more : 2 ≤ (words type i.instr).length := by
    rw [given.words_list (s := s) plain.other, List.length_append, length_transfers]
    have some := @length_listedBy i.instr
    rw [listedBy] at some
    have listed : 1 ≤ regCount (rlist i.instr) := by
      rw [regCount]
      split <;> omega
    have after : (epilogue type (frame i.instr)).length = 1 := by
      rcases plain with rfl | rfl <;> rfl
    omega
  have out : comb s i = combIdle s i := by rw [comb, state]
  have outWide : combOf s i true = combIdle64 s i := by rw [combOf, if_pos rfl, state]
  rw [outWide]
  constructor
  · rw [out, combIdle64, given.isMacro, given.macroInstrType_eq, plain.other]
    exact ⟨_, rfl⟩
  · rw [if_neg (busy_of_hands hands more), combIdle64, given.isMacro, given.macroInstrType_eq,
      plain.other, found]
    change KeepsPointer (first64 s i reg)
    rw [first64]
    split
    · exact keepsPointer_storeDword reg _
    · exact keepsPointer_loadDword _ notPointer

theorem turns_of_follows (plain : Plain type) (given : Given type i) (ack : i.issueAck = true)
    (follows : Follows type s.regs) : Turns type i.instr (comb s i) (combOf s i true) := by
  cases state : s.regs.stateQ with
  | idle => simp [Follows, state] at follows
  | init => exact turns_of_init plain given ack state follows
  | pushAddi => exact turns_of_pushAddi plain given ack state
  | pushPopInstr2 => exact turns_of_pushPopInstr2 given ack state follows
  | popretz1 => rcases plain with rfl | rfl <;> simp [Follows, state] at follows
  | move => rcases plain with rfl | rfl <;> simp [Follows, state, MacroInstr.isMove] at follows

/-- The words adjust the stack pointer once, at their end. -/
def Adjusts (words : List (BitVec 32)) (step : BitVec 12) : Prop :=
  ∃ moves, words = moves ++ [addi 2 2 step] ∧ ∀ word ∈ moves, KeepsPointer word

theorem adjusts_of_turns {due : List (BitVec 32)} (hands : Hands type i.instr (comb s i) due)
    (turns : Turns type i.instr (comb s i) (combOf s i true))
    (rest : Follows type (decoderStep s i true).regs →
      (remaining type i.instr (decoderStep s i true).regs).length + 1 = due.length →
      Adjusts (emitted true i fuel (decoderStep s i true)) (pointerStep type i.instr)) :
    Adjusts (emitted true i (fuel + 1) s) (pointerStep type i.instr) := by
  obtain ⟨⟨offset, next⟩, word⟩ := turns
  have state : (combOf s i true).next.stateQ = (comb s i).next.stateQ := by rw [next]
  rw [emitted, state]
  rcases hands.follows with idle | follows
  · rw [if_pos idle] at word ⊢
    rw [word]
    exact ⟨[], rfl, fun _ absent => nomatch absent⟩
  · have busy : (comb s i).next.stateQ ≠ .idle := by
      intro idle
      exact remaining_ne_nil follows (remaining_idle type i.instr idle)
    rw [if_neg busy] at word ⊢
    have regs : (decoderStep s i true).regs = { (comb s i).next with offsetQ := offset } := next
    have left : (remaining type i.instr (decoderStep s i true).regs).length + 1 = due.length := by
      rw [regs, length_remaining_offset, ← hands.word, List.length_cons]
    obtain ⟨moves, split, keep⟩ := rest (by rw [regs]; exact follows) left
    refine ⟨(combOf s i true).instr :: moves, ?_, ?_⟩
    · rw [split, List.cons_append]
    · intro other member
      rcases List.mem_cons.mp member with rfl | later
      · exact word
      · exact keep other later

theorem adjusts_of_follows (plain : Plain type) (given : Given type i) (ack : i.issueAck = true)
    (follows : Follows type s.regs) (enough : (remaining type i.instr s.regs).length ≤ fuel) :
    Adjusts (emitted true i fuel s) (pointerStep type i.instr) := by
  induction fuel generalizing s with
  | zero =>
      have none := List.eq_nil_of_length_eq_zero (Nat.le_zero.mp enough)
      exact absurd none (remaining_ne_nil follows)
  | succ fuel inductionHypothesis =>
      apply adjusts_of_turns (hands_of_follows given follows ack)
        (turns_of_follows plain given ack follows)
      intro next left
      apply inductionHypothesis next
      omega

/-- The words of a push or pop adjust the stack pointer by four less than the list asks for. -/
theorem adjusts_of_idle (plain : Plain type) (given : Given type i) (ack : i.issueAck = true)
    (legal : 4 ≤ (rlist i.instr).toNat) (idle : s.regs.stateQ = .idle)
    (enough : (words type i.instr).length ≤ fuel) :
    Adjusts (emitted true i fuel s) (pointerStep type i.instr) := by
  have hands := hands_of_idle given idle (Or.inr ack)
  cases fuel with
  | zero =>
      rw [← hands.word] at enough
      cases enough
  | succ fuel =>
      apply adjusts_of_turns hands (turns_of_idle plain given ack legal idle)
      intro next left
      apply adjusts_of_follows plain given ack next
      omega

theorem run_of_adjusts {words : List (BitVec 32)} {step : BitVec 12}
    (adjusts : Adjusts words step) (runs : hart.run words = some framed) :
    framed.regs 2 = hart.regs 2 + step.signExtend 64 := by
  obtain ⟨moves, rfl, keep⟩ := adjusts
  induction moves generalizing hart with
  | nil =>
      rw [List.nil_append, Hart.run_cons _ (ofWord_addi ..), Hart.run] at runs
      rw [← Option.some.inj runs, Hart.exec, Hart.setReg_regs_self,
        Hart.reg_of_ne hart (by decide)]
  | cons word moves inductionHypothesis =>
      obtain ⟨op, known, same⟩ := keep word List.mem_cons_self
      rw [List.cons_append, Hart.run_cons _ known] at runs
      rw [inductionHypothesis (fun other later => keep other (List.mem_cons_of_mem _ later)) runs,
        same]

/-- Both adjustments together lower the stack pointer by eight. -/
theorem pointerStep_add {push pop : BitVec 32} (matching : Matching push pop) :
    (pointerStep .push push).signExtend 64 + (pointerStep .pop pop).signExtend 64 = -8 := by
  have sum : ∀ (list : BitVec 4) (steps : BitVec 2),
      (~~~stackAdjOf64 list steps + 1 - 4).signExtend 64 +
        (stackAdjOf64 list steps - 4).signExtend 64 = -8 := by decide
  have same : stackAdj64 pop = stackAdj64 push := by
    rw [stackAdj64, stackAdj64, matching.list, matching.adjustment]
  have up : pointerStep .pop pop = stackAdj64 push - 4 := by
    rw [← same]
    rfl
  rw [up]
  exact sum _ _

end Wide

/-! ## Both widths -/

section Both

variable {push pop : BitVec 32} {first second : State} {fuel : Nat}

theorem Matching.legal_pop (matching : Matching push pop) : 4 ≤ (rlist pop).toNat :=
  matching.list ▸ matching.legal

theorem Matching.given_push (matching : Matching push pop) : Given .push (acknowledged push) :=
  given_acknowledged matching.pushes rfl matching.legal

theorem Matching.given_pop (matching : Matching push pop) : Given .pop (acknowledged pop) :=
  given_acknowledged matching.pops rfl matching.legal_pop

theorem Matching.length_push (matching : Matching push pop) : (words .push push).length ≤ 14 := by
  obtain ⟨-, -, few⟩ := length_le_frame matching.legal
  rw [words_push matching, List.length_append, length_transfers]
  exact Nat.succ_le_succ few

theorem Matching.length_pop (matching : Matching push pop) : (words .pop pop).length ≤ 14 := by
  obtain ⟨-, -, few⟩ := length_le_frame matching.legal
  rw [words_pop matching, List.length_append, length_transfers]
  exact Nat.succ_le_succ few

/-- For 64 bits the stack pointer is not restored. -/
theorem not_round_trip_wide (matching : Matching push pop) (idle : first.regs.stateQ = .idle)
    (idleThen : second.regs.stateQ = .idle) (enough : 14 ≤ fuel) {listed : List (BitVec 5)}
    {size : Nat} (hart : Hart 64) :
    ¬RoundTrip (emitted true (acknowledged push) fuel first)
      (emitted true (acknowledged pop) fuel second) listed size hart := by
  rintro ⟨framed, slot, pushed, -, back⟩
  obtain ⟨restored, popped, pointer, -, -⟩ := back framed.regs rfl
  have down := run_of_adjusts (adjusts_of_idle (Or.inl rfl) matching.given_push rfl matching.legal
    idle (matching.length_push.trans enough)) pushed
  have up := run_of_adjusts (adjusts_of_idle (Or.inr rfl) matching.given_pop rfl
    matching.legal_pop idleThen (matching.length_pop.trans enough)) popped
  have sum := pointerStep_add matching
  have moved : hart.regs 2 + -8 = hart.regs 2 := by
    calc
      hart.regs 2 + -8 = hart.regs 2 + ((pointerStep .push push).signExtend 64 +
          (pointerStep .pop pop).signExtend 64) := by rw [sum]
      _ = restored.regs 2 := by
        rw [up, ← add_assoc]
        exact congrArg (· + _) down.symm
      _ = hart.regs 2 := pointer
  exact absurd (add_eq_left.mp moved) (by decide)

/-- A pop restores the registers and the stack pointer of the matching push, from slots of their
own, exactly if the registers have 32 bits. -/
theorem round_trip_iff (wide : Bool) (matching : Matching push pop)
    (idle : first.regs.stateQ = .idle) (idleThen : second.regs.stateQ = .idle)
    (enough : 14 ≤ fuel) (hart : Hart (if wide then 64 else 32)) :
    RoundTrip (emitted wide (acknowledged push) fuel first)
        (emitted wide (acknowledged pop) fuel second) (listedBy push) (frameBytes wide push)
        hart ↔
      wide = false := by
  cases wide with
  | false =>
      apply iff_of_true _ rfl
      rw [emitted_of_idle matching.given_push rfl idle (matching.length_push.trans enough),
        emitted_of_idle matching.given_pop rfl idleThen (matching.length_pop.trans enough)]
      exact round_trip_narrow matching
  | true =>
      apply iff_of_false _ Bool.noConfusion
      exact not_round_trip_wide matching idle idleThen enough hart

/-- An idle decoder. -/
def idleDecoder : State := initial ⟨0, .push, 0, 0⟩

/-- Some registers, and a memory of zeros. -/
def someHart (width : Nat) : Hart width := ⟨fun name => name.setWidth width + 0x1000, fun _ => 0⟩

/-- `cm.push {ra, s0-s11}, -64` and `cm.pop {ra, s0-s11}, 64`. -/
theorem round_trip_longest :
    RoundTrip (emitted false (acknowledged 0xB8F2) 14 idleDecoder)
      (emitted false (acknowledged 0xBAF2) 14 idleDecoder) (listedBy 0xB8F2)
      (frameBytes false 0xB8F2) (someHart 32) := by
  have matching : Matching 0xB8F2 0xBAF2 := ⟨rfl, rfl, by decide, rfl, rfl⟩
  exact (round_trip_iff false matching rfl rfl (Nat.le_refl 14) (someHart 32)).mpr rfl

/-- `cm.push {ra}, -16` and `cm.pop {ra}, 16` with registers of 64 bits. -/
theorem no_round_trip_of_return_address :
    ¬RoundTrip (emitted true (acknowledged 0xB842) 14 idleDecoder)
      (emitted true (acknowledged 0xBA42) 14 idleDecoder) (listedBy 0xB842)
      (frameBytes true 0xB842) (someHart 64) := by
  have matching : Matching 0xB842 0xBA42 := ⟨rfl, rfl, by decide, rfl, rfl⟩
  exact not_round_trip_wide matching rfl rfl (Nat.le_refl 14) (someHart 64)

end Both

end Cva6Hpd.Decode.Macro
