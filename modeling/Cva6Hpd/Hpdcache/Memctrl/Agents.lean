import Cva6Hpd.Hpdcache.Memctrl.Lines

/-!
# The accesses of the data arrays

Each request to the data arrays is an access of its own here, with the set, the way and the
words it asks for. `Granted` is what the memory controller relies on: one requester in a cycle,
the pipeline counting as one, whose read and write then have no column in common. Every RAM is
then used by one access at most, its port is the one that the access asks for, and the accesses
read and write the words of the lines.
-/

namespace Cva6Hpd.Hpdcache.Memctrl.Data

open Cva6Hpd.Hw
open Cva6Hpd.Common

/-- The accesses that can be asked for. -/
inductive Agent where
  | reqRead
  | reqWrite
  | amoWrite
  | flushRead
  | refill
  | errRead
  | errWrite
deriving DecidableEq, Repr

/-- The requesters that `concurrent_data_access_assert` tells apart. -/
inductive Requester where
  | req
  | amo
  | flush
  | refill
  | errRead
  | errWrite
deriving DecidableEq, Repr

namespace Agent

def requester : Agent → Requester
  | reqRead | reqWrite => .req
  | amoWrite => .amo
  | flushRead => .flush
  | refill => .refill
  | errRead => .errRead
  | errWrite => .errWrite

def isWrite : Agent → Bool
  | reqWrite | amoWrite | refill | errWrite => true
  | reqRead | flushRead | errRead => false

variable {cfg : Cfg} {grid : Grid cfg} (state : State grid) (input : Input grid)

def requests : Agent → Bool
  | reqRead => input.dataReqRead
  | reqWrite => input.dataReqWrite
  | amoWrite => input.dataAmoWrite
  | flushRead => input.dataFlushRead
  | refill => input.dataRefill
  | errRead => input.dataErrRead
  | errWrite => input.dataErrWrite

def set : Agent → cfg.Set
  | reqRead => input.dataReqReadSet
  | reqWrite => input.dataReqWriteSet
  | amoWrite => input.dataAmoWriteSet
  | flushRead => input.dataFlushReadSet
  | refill => input.dataRefillSet
  | errRead | errWrite => input.dataErrSet

def word : Agent → cfg.Word
  | reqRead => input.dataReqReadWord
  | reqWrite => input.dataReqWriteWord
  | amoWrite => input.dataAmoWriteWord
  | flushRead => input.dataFlushReadWord
  | refill => input.dataRefillWord
  | errRead | errWrite => input.dataErrWord

/-- The size of an access; the others access as much as the arrays give. -/
def size : Agent → Nat
  | reqRead => input.dataReqReadSize
  | reqWrite => input.dataReqWriteSize
  | amoWrite => input.dataAmoWriteSize
  | flushRead | refill | errRead | errWrite => accessSize cfg

/-- The way of an access; a read of the pipeline reads them all. -/
def way : Agent → cfg.WayVector
  | reqRead => fun _ => true
  | reqWrite => input.dataReqWriteWay
  | amoWrite => input.dataAmoWriteWay
  | flushRead => input.dataFlushReadWay
  | refill => input.dataRefillWay
  | errRead | errWrite => input.dataErrWay

def enable : Agent → Bool
  | reqWrite => input.dataReqWriteEnable
  | amoWrite => input.dataAmoWriteEnable
  | refill | errWrite => true
  | reqRead | flushRead | errRead => false

/-- The bytes of the words of an access that it asks to write. -/
def Writes (word : cfg.Word) (b : Fin cfg.wordBytes) : Agent → Prop
  | reqWrite => grid.SameReqWord word input.dataReqWriteWord ∧
      input.dataReqWriteBe (grid.reqLane (Grid.column word)) b = true
  | amoWrite => grid.SameReqWord word input.dataAmoWriteWord ∧
      input.dataAmoWriteBe (grid.reqLane (Grid.column word)) b = true
  | refill | errWrite => True
  | reqRead | flushRead | errRead => False

instance decidableWrites (word : cfg.Word) (b : Fin cfg.wordBytes) (agent : Agent) :
    Decidable (agent.Writes input word b) := by
  cases agent <;> unfold Writes <;> infer_instance

/-- What an access writes to a word. -/
def data (word : cfg.Word) : Agent → cfg.DataWord
  | reqWrite => input.dataReqWriteData (grid.reqLane (Grid.column word))
  | amoWrite => input.dataAmoWriteData (grid.reqLane (Grid.column word))
  | refill => input.dataRefillData (Grid.column word)
  | errWrite => input.dataErrWdata (Grid.column word)
  | reqRead | flushRead | errRead => fun _ => 0

/-- An access uses the RAM of a row and a column: a read all rows, a write the row of its way. -/
def Uses (agent : Agent) (y : Fin grid.yCuts) (x : Fin cfg.accessWords) : Prop :=
  agent.requests input = true ∧ computeDataRamCs (agent.size input) (agent.word input) x = true ∧
    (agent.isWrite = true → wayToDataRamRow grid (agent.way input) y = true)

end Agent

section Granted

variable {cfg : Cfg} {grid : Grid cfg} (state : State grid) (input : Input grid)

/-- `concurrent_data_access_assert`, and no conflict between the read and the write of the
pipeline. -/
structure Granted : Prop where
  exclusive : ∀ a b : Agent, a.requests input = true → b.requests input = true →
    a.requester = b.requester
  apart : input.dataReqRead = true → input.dataReqWrite = true → rdWrConflict input = false

namespace Granted

variable {input}

theorem silent (granted : Granted input) {a b : Agent} (requests : a.requests input = true)
    (other : a.requester ≠ b.requester) : b.requests input = false := by
  rw [Bool.eq_false_iff]
  intro also
  exact other (granted.exclusive a b requests also)

theorem column_apart (granted : Granted input) {x : Fin cfg.accessWords}
    (reads : input.dataReqRead = true) (writes : input.dataReqWrite = true)
    (selected : computeDataRamCs input.dataReqReadSize input.dataReqReadWord x = true) :
    computeDataRamCs input.dataReqWriteSize input.dataReqWriteWord x = false := by
  have noConflict := granted.apart reads writes
  rw [rdWrConflict, Bits.any_eq_false_iff] at noConflict
  have here := noConflict x
  rw [selected, Bool.true_and] at here
  exact here

theorem alone (granted : Granted input) {a b : Agent} {y : Fin grid.yCuts}
    {x : Fin cfg.accessWords} (first : a.Uses input y x) (second : b.Uses input y x) :
    a = b := by
  rcases first with ⟨firstRequests, firstSelects, _⟩
  rcases second with ⟨secondRequests, secondSelects, _⟩
  have together := granted.exclusive a b firstRequests secondRequests
  cases a <;> cases b <;> simp only [Agent.requester, reduceCtorEq] at together ⊢
  · have apart := granted.column_apart firstRequests secondRequests firstSelects
    exact absurd (apart.symm.trans secondSelects) Bool.false_ne_true
  · have apart := granted.column_apart secondRequests firstRequests secondSelects
    exact absurd (apart.symm.trans firstSelects) Bool.false_ne_true

/-! ## The multiplexers -/

theorem dataWriteComb_eq (granted : Granted input) {agent : Agent}
    (requests : agent.requests input = true) (isWrite : agent.isWrite = true) :
    (dataWriteComb state input).write = true ∧
      (dataWriteComb state input).enable = agent.enable input ∧
      (dataWriteComb state input).set = agent.set input ∧
      (dataWriteComb state input).size = agent.size input ∧
      (dataWriteComb state input).word = agent.word input ∧
      dataWay input = agent.way input := by
  have quiet (b : Agent) (other : agent.requester ≠ b.requester) := granted.silent requests other
  have refill := quiet .refill
  have flush := quiet .flushRead
  have amo := quiet .amoWrite
  have req := quiet .reqWrite
  have errRead := quiet .errRead
  have errWrite := quiet .errWrite
  cases agent <;>
    simp_all [Agent.requests, Agent.requester, Agent.isWrite, dataWriteComb, dataWay, refillWrite,
      reqWrite, amoWrite, Data.errWrite, Agent.enable, Agent.set, Agent.size, Agent.word,
      Agent.way]

theorem dataReadComb_eq (granted : Granted input) {agent : Agent}
    (requests : agent.requests input = true) (reads : agent.isWrite = false) :
    (dataReadComb input).read = true ∧ (dataReadComb input).set = agent.set input ∧
      (dataReadComb input).size = agent.size input ∧
      (dataReadComb input).word = agent.word input := by
  have quiet (b : Agent) (other : agent.requester ≠ b.requester) := granted.silent requests other
  have flush := quiet .flushRead
  have req := quiet .reqRead
  have errRead := quiet .errRead
  cases agent <;>
    simp_all [Agent.requests, Agent.requester, Agent.isWrite, dataReadComb, reqRead, flushRead,
      Data.errRead, Agent.set, Agent.size, Agent.word]

theorem writesColumn_of_read (granted : Granted input) {agent : Agent}
    (requests : agent.requests input = true) (reads : agent.isWrite = false)
    {x : Fin cfg.accessWords}
    (selected : computeDataRamCs (agent.size input) (agent.word input) x = true) :
    writesColumn state input x = false := by
  have quiet (b : Agent) (other : agent.requester ≠ b.requester) := granted.silent requests other
  have refill := quiet .refill
  have amo := quiet .amoWrite
  have req := quiet .reqWrite
  have errWrite := quiet .errWrite
  cases agent with
  | reqRead =>
      cases writes : input.dataReqWrite with
      | false =>
          simp_all [writesColumn, dataWriteComb, noWrite, Agent.requester, Agent.requests]
      | true =>
          have apart := granted.column_apart requests writes selected
          simp_all [writesColumn, dataWriteComb, reqWrite, Agent.requester, Agent.requests]
  | flushRead | errRead =>
      simp_all [writesColumn, dataWriteComb, noWrite, Agent.requester, Agent.requests]
  | reqWrite | amoWrite | refill | errWrite => contradiction

/-! ## The ports -/

theorem port_of_read (granted : Granted input) {agent : Agent} {y : Fin grid.yCuts}
    {x : Fin cfg.accessWords} (uses : agent.Uses input y x) (reads : agent.isWrite = false) :
    (dataCtrlComb state input y x).cs = true ∧ (dataCtrlComb state input y x).we = false ∧
      (dataCtrlComb state input y x).addr =
        setToDataRamAddr grid (agent.set input) (agent.word input) := by
  rcases uses with ⟨requests, selected, _⟩
  have unwritten := granted.writesColumn_of_read state requests reads selected
  rcases granted.dataReadComb_eq requests reads with ⟨read, set, size, word⟩
  simp only [dataCtrlComb, unwritten, read, set, size, word, selected]
  simp

theorem port_of_write (granted : Granted input) {agent : Agent} {y : Fin grid.yCuts}
    {x : Fin cfg.accessWords} (uses : agent.Uses input y x) (isWrite : agent.isWrite = true) :
    (dataCtrlComb state input y x).cs = true ∧
      (dataCtrlComb state input y x).we = agent.enable input ∧
      (dataCtrlComb state input y x).addr =
        setToDataRamAddr grid (agent.set input) (agent.word input) := by
  rcases uses with ⟨requests, selected, row⟩
  rcases granted.dataWriteComb_eq state requests isWrite with
    ⟨write, enable, set, size, word, way⟩
  have written : writesColumn state input x = true := by
    rw [writesColumn, write, size, word, selected]
    rfl
  simp only [dataCtrlComb, written, enable, set, word, way, row isWrite]
  simp

theorem exists_reader (read : (dataReadComb input).read = true) :
    ∃ agent : Agent, agent.requests input = true ∧ agent.isWrite = false := by
  rw [dataReadComb] at read
  split_ifs at read with req flush err
  · exact ⟨.reqRead, req, rfl⟩
  · exact ⟨.flushRead, flush, rfl⟩
  · exact ⟨.errRead, err, rfl⟩
  · contradiction

theorem exists_writer {state : State grid} (write : (dataWriteComb state input).write = true) :
    ∃ agent : Agent, agent.requests input = true ∧ agent.isWrite = true := by
  rw [dataWriteComb] at write
  split_ifs at write with refill req amo err
  · exact ⟨.refill, refill, rfl⟩
  · exact ⟨.reqWrite, req, rfl⟩
  · exact ⟨.amoWrite, amo, rfl⟩
  · exact ⟨.errWrite, err, rfl⟩
  · contradiction

theorem port_of_unused (granted : Granted input) {y : Fin grid.yCuts} {x : Fin cfg.accessWords}
    (unused : ∀ agent : Agent, ¬agent.Uses input y x) :
    (dataCtrlComb state input y x).cs = false := by
  rw [Bool.eq_false_iff]
  intro selected
  simp only [dataCtrlComb, Bool.or_eq_true, Bool.and_eq_true, writesColumn] at selected
  rcases selected with ⟨read, column⟩ | ⟨row, write, column⟩
  · rcases exists_reader read with ⟨agent, requests, reads⟩
    rcases granted.dataReadComb_eq requests reads with ⟨_, _, size, word⟩
    rw [size, word] at column
    apply unused agent
    refine ⟨requests, column, ?_⟩
    rw [reads]
    exact fun isWrite => absurd isWrite Bool.false_ne_true
  · rcases exists_writer write with ⟨agent, requests, isWrite⟩
    rcases granted.dataWriteComb_eq state requests isWrite with
      ⟨_, _, _, size, word, way⟩
    rw [size, word] at column
    rw [way] at row
    exact unused agent ⟨requests, column, fun _ => row⟩

end Granted

end Granted

/-! ## The words that are read -/

section Reads

variable {cfg : Cfg} {grid : Grid cfg} {state : State grid} {input : Input grid}

theorem Granted.dataRentry_step (granted : Granted input) (agent : Agent)
    (requests : agent.requests input = true) (reads : agent.isWrite = false) (way : cfg.Way)
    {word : cfg.Word} (selects : Selects cfg (agent.size input) (agent.word input) word) :
    dataRentry (step state input) (grid.wayRow way) (Grid.column word) (grid.wayWord way) =
      lineWord state (agent.set input) way word := by
  have selected := (computeDataRamCs_column grid (agent.size input) selects.1).mpr selects
  have uses : agent.Uses input (grid.wayRow way) (Grid.column word) :=
    ⟨requests, selected, fun isWrite => absurd (reads.symm.trans isWrite) Bool.false_ne_true⟩
  rcases granted.port_of_read state uses reads with ⟨cs, we, addr⟩
  have sameAddr : setToDataRamAddr grid (agent.set input) word =
      setToDataRamAddr grid (agent.set input) (agent.word input) :=
    (setToDataRamAddr_eq_iff _ _ _ _).mpr ⟨rfl, selects.1⟩
  rw [dataRentry, step, lineWord, SramWbyteenable.rdata_step_of_read _ cs we, addr, sameAddr]

theorem Granted.reqRead_step (granted : Granted input) (reads : input.dataReqRead = true)
    (way : cfg.Way) {word : cfg.Word}
    (selects : Selects cfg input.dataReqReadSize input.dataReqReadWord word)
    (same : grid.SameReqWord word input.dataReqReadWord) :
    dataReqReadData (step state input) (Bits.single way) (grid.reqLane (Grid.column word)) =
      lineWord state input.dataReqReadSet way word := by
  have column : (⟨((step state input).dataReadReqWordIndexQ * grid.reqWords +
      (grid.reqLane (Grid.column word)).val) % cfg.accessWords,
      Nat.mod_lt _ cfg.accessWords_pos⟩ : Fin cfg.accessWords) = Grid.column word :=
    Fin.ext (reqWord_column grid same)
  rw [dataReqReadData, muxOneHot_single, dataReadReqWord, column]
  exact granted.dataRentry_step .reqRead reads rfl way selects

theorem any_wayAt_single (way : cfg.Way) (place : Fin grid.dataWaysPerRamWord) :
    (Bits.any fun row => Bits.single way (grid.wayAt row place)) =
      Bits.single (grid.wayWord way) place := by
  rw [Bool.eq_iff_iff, Bits.any_eq_true_iff, Bits.single_eq_true_iff]
  constructor
  · rintro ⟨row, hit⟩
    rw [Bits.single_eq_true_iff, grid.wayAt_eq_iff] at hit
    exact hit.2
  · rintro rfl
    exact ⟨grid.wayRow way, by simp⟩

theorem dataFlushReadData_of_selected {flushWay errWay : cfg.WayVector} {way : cfg.Way}
    (row : state.dataFlushRowIndexQ = Bits.single (grid.wayRow way))
    (place : (if !cfg.eccEn || state.dataFlushReadQ then flushWay else errWay) =
      Bits.single way) :
    dataFlushReadData state flushWay errWay = fun x =>
      dataRentry state (grid.wayRow way) x (grid.wayWord way) := by
  have sel : dataFlushReadWaySel state flushWay errWay = Bits.single (grid.wayWord way) := by
    funext j
    rw [← any_wayAt_single, ← place, dataFlushReadWaySel]
    split_ifs <;> rfl
  rw [dataFlushReadData, sel, muxOneHot_single, dataFlushRowData, row, muxOneHot_single]

theorem Granted.flushRead_step (granted : Granted input) (reads : input.dataFlushRead = true)
    {way : cfg.Way} (asked : input.dataFlushReadWay = Bits.single way) (errWay : cfg.WayVector)
    {word : cfg.Word} (selects : Selects cfg (accessSize cfg) input.dataFlushReadWord word) :
    dataFlushReadData (step state input) (Bits.single way) errWay (Grid.column word) =
      lineWord state input.dataFlushReadSet way word := by
  have refill := granted.silent (a := .flushRead) (b := .refill) reads (by decide)
  have chosen : dataWay input = Bits.single way := by
    simp only [Agent.requests] at refill
    rw [dataWay, if_neg (by simp [refill]), if_pos reads, asked]
  have row : (step state input).dataFlushRowIndexQ = Bits.single (grid.wayRow way) := by
    rw [step, reads, chosen, wayToDataRamRow_single]
    rfl
  have place : (if !cfg.eccEn || (step state input).dataFlushReadQ then Bits.single way
      else errWay) = Bits.single way := by
    simp only [step, reads]
    cases cfg.eccEn <;> rfl
  rw [dataFlushReadData_of_selected row place]
  exact granted.dataRentry_step .flushRead reads rfl way selects

theorem Granted.errRead_step (granted : Granted input) (reads : input.dataErrRead = true)
    (eccEn : cfg.eccEn = true) {way : cfg.Way} (asked : input.dataErrWay = Bits.single way)
    (flushWay : cfg.WayVector) {word : cfg.Word}
    (selects : Selects cfg (accessSize cfg) input.dataErrWord word) :
    dataErrRdata (step state input) flushWay (Bits.single way) (Grid.column word) =
      lineWord state input.dataErrSet way word := by
  have quiet (b : Agent) (other : Requester.errRead ≠ b.requester) :=
    granted.silent (a := .errRead) reads other
  have refill : input.dataRefill = false := quiet .refill (by decide)
  have flush : input.dataFlushRead = false := quiet .flushRead (by decide)
  have amo : input.dataAmoWrite = false := quiet .amoWrite (by decide)
  have req : input.dataReqWrite = false := quiet .reqWrite (by decide)
  have chosen : dataWay input = Bits.single way := by
    simp [dataWay, refill, flush, amo, req, reads, asked]
  have row : (step state input).dataFlushRowIndexQ = Bits.single (grid.wayRow way) := by
    simp only [step, flush, reads, eccEn, chosen, wayToDataRamRow_single]
    rfl
  have place : (if !cfg.eccEn || (step state input).dataFlushReadQ then flushWay
      else Bits.single way) = Bits.single way := by
    simp [step, flush, eccEn]
  rw [dataErrRdata, if_pos eccEn, dataFlushReadData_of_selected row place]
  exact granted.dataRentry_step .errRead reads rfl way selects

end Reads

/-! ## The words that are written -/

section Writes

variable {cfg : Cfg} {grid : Grid cfg} {state : State grid} {input : Input grid}

theorem lineWord_step {target : cfg.Way} (write : (dataWriteComb state input).write = true)
    (chosen : dataWay input = Bits.single target) (set : cfg.Set) (way : cfg.Way)
    (word : cfg.Word) (b : Fin cfg.wordBytes) :
    lineWord (step state input) set way word b =
      if set = (dataWriteComb state input).set ∧ way = target ∧
          (dataWriteComb state input).enable = true ∧
          Selects cfg (dataWriteComb state input).size (dataWriteComb state input).word word ∧
          (dataWriteComb state input).be (Grid.column word) b = true then
        (dataWriteComb state input).data (Grid.column word) b
      else lineWord state set way word b := by
  have condition : ((dataCtrlComb state input (grid.wayRow way) (Grid.column word)).cs &&
      (dataCtrlComb state input (grid.wayRow way) (Grid.column word)).we &&
      decide (setToDataRamAddr grid set word =
        (dataCtrlComb state input (grid.wayRow way) (Grid.column word)).addr) &&
      (dataCtrlComb state input (grid.wayRow way) (Grid.column word)).wbyteenable
        (grid.wayWord way) b) = true ↔
      set = (dataWriteComb state input).set ∧ way = target ∧
        (dataWriteComb state input).enable = true ∧
        Selects cfg (dataWriteComb state input).size (dataWriteComb state input).word word ∧
        (dataWriteComb state input).be (Grid.column word) b = true := by
    simp only [dataCtrlComb, chosen, wayToDataRamRow_single, wayToDataRamWord_single,
      writesColumn, write, Bool.true_and, Bool.and_eq_true, Bool.or_eq_true, decide_eq_true_eq,
      Bits.single_eq_true_iff]
    constructor
    · rintro ⟨⟨⟨_, enable, row, column⟩, addr⟩, place, be⟩
      rw [if_pos column, setToDataRamAddr_eq_iff] at addr
      exact ⟨addr.1, (grid.way_eq_iff _ _).mpr ⟨row, place⟩, enable,
        (computeDataRamCs_column grid _ addr.2).mp column, be⟩
    · rintro ⟨rfl, rfl, enable, selects, be⟩
      have column := (computeDataRamCs_column grid _ selects.1).mpr selects
      rw [if_pos column, setToDataRamAddr_eq_iff]
      exact ⟨⟨⟨Or.inr ⟨rfl, column⟩, enable, rfl, column⟩, rfl, selects.1⟩, rfl, be⟩
  simp only [lineWord, step, SramWbyteenable.step, condition]
  rfl

/-- The read port of the pipeline shows the words that its write is merged with. -/
def Fresh (state : State grid) (input : Input grid) (way : cfg.Way) : Prop :=
  ∀ word : cfg.Word, Selects cfg input.dataReqWriteSize input.dataReqWriteWord word →
    grid.SameReqWord word input.dataReqWriteWord →
      dataReqReadData state input.dataReqReadWay (grid.reqLane (Grid.column word)) =
        lineWord state input.dataReqWriteSet way word

theorem merged_byte {way : cfg.Way}
    (fresh : cfg.eccEn = true → input.dataReqWriteMerge = true → Fresh state input way)
    {word : cfg.Word} (selects : Selects cfg input.dataReqWriteSize input.dataReqWriteWord word)
    (b : Fin cfg.wordBytes) :
    (if (reqWrite state input).be (Grid.column word) b = true then
        (reqWrite state input).data (Grid.column word) b
      else lineWord state input.dataReqWriteSet way word b) =
      if Agent.reqWrite.Writes input word b then Agent.reqWrite.data input word b
      else lineWord state input.dataReqWriteSet way word b := by
  simp only [reqWrite, demuxBe_column _ selects.1, Agent.Writes, Agent.data, upsizeData]
  by_cases same : grid.SameReqWord word input.dataReqWriteWord
  · simp only [same, true_and, dataReqWriteBeMerged, dataReqWriteDataMerged]
    cases eccEn : cfg.eccEn with
    | false => simp
    | true =>
        cases asked : input.dataReqWriteBe (grid.reqLane (Grid.column word)) b with
        | true => simp [asked]
        | false =>
            cases merge : input.dataReqWriteMerge with
            | false => simp [asked]
            | true => simp [asked, fresh eccEn merge word selects same]
  · simp only [same, false_and, if_false]

theorem Granted.write_step (granted : Granted input) {agent : Agent}
    (requests : agent.requests input = true) (isWrite : agent.isWrite = true) {target : cfg.Way}
    (asked : agent.way input = Bits.single target)
    (fresh : agent = .reqWrite → cfg.eccEn = true → input.dataReqWriteMerge = true →
      Fresh state input target)
    (set : cfg.Set) (way : cfg.Way) (word : cfg.Word) (b : Fin cfg.wordBytes) :
    lineWord (step state input) set way word b =
      if set = agent.set input ∧ way = target ∧ agent.enable input = true ∧
          Selects cfg (agent.size input) (agent.word input) word ∧
          agent.Writes input word b then
        agent.data input word b
      else lineWord state set way word b := by
  rcases granted.dataWriteComb_eq state requests isWrite with
    ⟨write, enable, sets, size, words, ways⟩
  rw [lineWord_step write (ways.trans asked), enable, sets, size, words]
  by_cases selected : set = agent.set input ∧ way = target ∧ agent.enable input = true ∧
      Selects cfg (agent.size input) (agent.word input) word
  · rcases selected with ⟨rfl, rfl, enabled, selects⟩
    simp only [enabled, selects, true_and]
    have quiet (b : Agent) (other : agent.requester ≠ b.requester) :=
      granted.silent requests other
    have refill := quiet .refill
    have req := quiet .reqWrite
    have amo := quiet .amoWrite
    cases agent with
    | reqRead | flushRead | errRead => contradiction
    | reqWrite =>
        have comb : dataWriteComb state input = reqWrite state input := by
          simp_all [dataWriteComb, Agent.requests, Agent.requester]
        rw [comb]
        exact merged_byte (fresh rfl) selects b
    | amoWrite =>
        have comb : dataWriteComb state input = amoWrite input := by
          simp_all [dataWriteComb, Agent.requests, Agent.requester]
        rw [comb]
        have same : Grid.SameAccess word input.dataAmoWriteWord := selects.1
        simp only [amoWrite, demuxBe_column _ same, Agent.Writes, Agent.data, upsizeData,
          Agent.set]
    | refill =>
        have comb : dataWriteComb state input = refillWrite input := by
          simp_all [dataWriteComb, Agent.requests]
        rw [comb]
        rfl
    | errWrite =>
        have comb : dataWriteComb state input = Data.errWrite input := by
          simp_all [dataWriteComb, Agent.requests, Agent.requester]
        rw [comb]
        rfl
  · rw [if_neg (fun all => selected ⟨all.1, all.2.1, all.2.2.1, all.2.2.2.1⟩),
      if_neg (fun all => selected ⟨all.1, all.2.1, all.2.2.1, all.2.2.2.1⟩)]

theorem Granted.kept_step (granted : Granted input)
    (none : ∀ agent : Agent, agent.requests input = true → agent.isWrite = true →
      agent.way input = Bits.zero ∨ agent.enable input = false)
    (set : cfg.Set) (way : cfg.Way) (word : cfg.Word) :
    lineWord (step state input) set way word = lineWord state set way word := by
  have kept (y : Fin grid.yCuts) (x : Fin cfg.accessWords) :
      ((dataCtrlComb state input y x).cs && (dataCtrlComb state input y x).we) = false := by
    rw [Bool.eq_false_iff]
    intro written
    simp only [dataCtrlComb, writesColumn, Bool.and_eq_true] at written
    rcases written with ⟨_, enabled, row, write, _⟩
    rcases exists_writer write with ⟨agent, requests, isWrite⟩
    rcases granted.dataWriteComb_eq state requests isWrite with
      ⟨_, enable, _, _, _, ways⟩
    rcases none agent requests isWrite with zero | disabled
    · rw [ways, zero, wayToDataRamRow_zero] at row
      contradiction
    · rw [enable, disabled] at enabled
      contradiction
  rw [lineWord, step, SramWbyteenable.mem_step_of_kept _ (kept _ _)]
  rfl

theorem Granted.kept_of_read (granted : Granted input) (agent : Agent)
    (requests : agent.requests input = true) (reads : agent.isWrite = false) (set : cfg.Set)
    (way : cfg.Way) {word : cfg.Word}
    (selects : Selects cfg (agent.size input) (agent.word input) word) :
    lineWord (step state input) set way word = lineWord state set way word := by
  have selected := (computeDataRamCs_column grid (agent.size input) selects.1).mpr selects
  have uses : agent.Uses input (grid.wayRow way) (Grid.column word) :=
    ⟨requests, selected, fun isWrite => absurd (reads.symm.trans isWrite) Bool.false_ne_true⟩
  have port := granted.port_of_read state uses reads
  rw [lineWord, step, SramWbyteenable.mem_step_of_kept _ (by rw [port.2.1, Bool.and_false])]
  rfl

theorem Granted.fresh_step (granted : Granted input) (reads : input.dataReqRead = true)
    {next : Input grid} {way : cfg.Way} (set : next.dataReqWriteSet = input.dataReqReadSet)
    (size : next.dataReqWriteSize = input.dataReqReadSize)
    (word : next.dataReqWriteWord = input.dataReqReadWord)
    (hit : next.dataReqReadWay = Bits.single way) : Fresh (step state input) next way := by
  intro other selects same
  rw [size, word] at selects
  rw [word] at same
  rw [hit, granted.reqRead_step reads way selects same, set]
  exact (granted.kept_of_read .reqRead reads rfl _ way selects).symm

end Writes

end Cva6Hpd.Hpdcache.Memctrl.Data
