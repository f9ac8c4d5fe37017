import Cva6Hpd.Hpdcache.Memctrl

/-!
# The accesses of the directory

The requests to the directory as accesses of its RAMs. Once the directory is initialised, and
with one request at a time, the port is the one of the request: a read shows the entries of its
set and ways in the next cycle, and a write changes exactly the entries it names.
-/

namespace Cva6Hpd.Hpdcache.Memctrl

open Cva6Hpd.Hw
open Cva6Hpd.Common

/-- The requests that `concurrent_dir_access_assert` tells apart. -/
inductive DirAgent where
  | dirMatch
  | refill
  | invalCheck
  | invalWrite
  | cmoCheckNline
  | cmoCheckEntry
  | cmoUpdt
  | updt
  | errRead
  | errWrite
deriving DecidableEq, Repr

namespace DirAgent

def isWrite : DirAgent → Bool
  | refill | invalWrite | cmoUpdt | updt | errWrite => true
  | dirMatch | invalCheck | cmoCheckNline | cmoCheckEntry | errRead => false

variable {cfg : Cfg} (state : State cfg) (input : Input cfg)

def requests : DirAgent → Bool
  | dirMatch => input.dirMatch
  | refill => input.dirRefill
  | invalCheck => input.dirInvalCheck
  | invalWrite => input.dirInvalWrite
  | cmoCheckNline => input.dirCmoCheckNline
  | cmoCheckEntry => input.dirCmoCheckEntry
  | cmoUpdt => input.dirCmoUpdt
  | updt => input.dirUpdt
  | errRead => cfg.eccEn && input.dirErrRead
  | errWrite => input.dirErrWrite

def set : DirAgent → cfg.Set
  | dirMatch => input.dirMatchSet
  | refill => input.dirRefillSet
  | invalCheck | invalWrite => cfg.setOf input.dirInvalNline
  | cmoCheckNline => input.dirCmoCheckNlineSet
  | cmoCheckEntry => input.dirCmoCheckEntrySet
  | cmoUpdt => input.dirCmoUpdtSet
  | updt => input.dirUpdtSet
  | errRead | errWrite => input.dirErrSet

/-- The ways of a request: all of them for the reads that compare the tags, those that hit for
an invalidation. -/
def way : DirAgent → cfg.WayVector
  | dirMatch | invalCheck | cmoCheckNline => fun _ => true
  | refill => input.dirRefillWay
  | invalWrite => dirInvalHitWay state input.dirInvalNline
  | cmoCheckEntry => input.dirCmoCheckEntryWay
  | cmoUpdt => input.dirCmoUpdtWay
  | updt => input.dirUpdtWay
  | errRead | errWrite => input.dirErrWay

/-- What a write stores. -/
def entry : DirAgent → DirEntry
  | refill => input.dirRefillEntry
  | cmoUpdt => input.dirCmoUpdtEntry
  | updt => input.dirUpdtEntry
  | errWrite => input.dirErrWdata
  | dirMatch | invalCheck | invalWrite | cmoCheckNline | cmoCheckEntry | errRead =>
      DirEntry.zero

/-- The access of a request. -/
def access (agent : DirAgent) : SramAccess cfg.sets cfg.ways DirEntry :=
  if agent.isWrite then writeWay (agent.set input) (agent.way state input) (agent.entry input)
  else readWay (agent.set input) (agent.way state input)

end DirAgent

/-- `concurrent_dir_access_assert`. -/
def DirGranted {cfg : Cfg} (input : Input cfg) : Prop :=
  ∀ a b : DirAgent, a.requests input = true → b.requests input = true → a = b

section DirGranted

variable {cfg : Cfg} (state : State cfg) {input : Input cfg}

theorem DirGranted.silent (granted : DirGranted input) {a b : DirAgent}
    (requests : a.requests input = true) (other : a ≠ b) : b.requests input = false := by
  rw [Bool.eq_false_iff]
  intro also
  exact other (granted a b requests also)

theorem DirGranted.dirCtrlComb_eq (granted : DirGranted input) (ready : state.initQ = true)
    {agent : DirAgent} (requests : agent.requests input = true) :
    dirCtrlComb state input = agent.access state input := by
  have quiet (b : DirAgent) (other : agent ≠ b) := granted.silent requests other
  have dirMatch := quiet .dirMatch
  have refill := quiet .refill
  have invalCheck := quiet .invalCheck
  have invalWrite := quiet .invalWrite
  have cmoCheckNline := quiet .cmoCheckNline
  have cmoCheckEntry := quiet .cmoCheckEntry
  have cmoUpdt := quiet .cmoUpdt
  have updt := quiet .updt
  have errRead := quiet .errRead
  cases agent <;>
    simp_all [DirAgent.requests, dirCtrlComb, DirAgent.access, DirAgent.isWrite, DirAgent.set,
      DirAgent.way, DirAgent.entry, readSet, readWay]

theorem dirCtrlComb_of_none (ready : state.initQ = true)
    (none : ∀ agent : DirAgent, agent.requests input = false) (way : cfg.Way) :
    (dirCtrlComb state input).cs way = false := by
  have dirMatch := none .dirMatch
  have refill := none .refill
  have invalCheck := none .invalCheck
  have invalWrite := none .invalWrite
  have cmoCheckNline := none .cmoCheckNline
  have cmoCheckEntry := none .cmoCheckEntry
  have cmoUpdt := none .cmoUpdt
  have updt := none .updt
  have errRead := none .errRead
  have errWrite := none .errWrite
  simp only [DirAgent.requests] at *
  simp [dirCtrlComb, *, readWay, Bits.zero]

theorem DirGranted.dirRentry_step (granted : DirGranted input) (ready : state.initQ = true)
    {agent : DirAgent} (requests : agent.requests input = true) (reads : agent.isWrite = false)
    {way : cfg.Way} (asked : agent.way state input way = true) :
    dirRentry (step state input) way = state.dirSram.mem (agent.set input) way := by
  have access : dirCtrlComb state input = readWay (agent.set input) (agent.way state input) := by
    rw [granted.dirCtrlComb_eq state ready requests, DirAgent.access, reads]
    rfl
  rw [dirRentry, step, access, Sram.rdata_step_of_read _ _ asked rfl]
  rfl

/-- A write changes exactly the entries it names, and a read none. -/
theorem DirGranted.mem_step (granted : DirGranted input) (ready : state.initQ = true)
    {agent : DirAgent} (requests : agent.requests input = true) (set : cfg.Set)
    (way : cfg.Way) :
    (step state input).dirSram.mem set way =
      if agent.isWrite = true ∧ set = agent.set input ∧ agent.way state input way = true then
        agent.entry input
      else state.dirSram.mem set way := by
  simp only [step, granted.dirCtrlComb_eq state ready requests, DirAgent.access]
  cases agent.isWrite with
  | false => simp [Sram.step, SramAccess.Writes, readWay]
  | true => simp [Sram.step, SramAccess.Writes, writeWay]

theorem mem_step_of_none (ready : state.initQ = true)
    (none : ∀ agent : DirAgent, agent.requests input = false) (set : cfg.Set) (way : cfg.Way) :
    (step state input).dirSram.mem set way = state.dirSram.mem set way := by
  have idle := dirCtrlComb_of_none state ready none way
  simp [step, Sram.step, SramAccess.Writes, idle]

end DirGranted

end Cva6Hpd.Hpdcache.Memctrl
