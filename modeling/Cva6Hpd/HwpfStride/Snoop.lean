import Cva6Hpd.HwpfStride.Wrapper

/-!
# Snooped accesses

An access that is physically indexed shows its offset and its tag in one cycle; one that is
virtually indexed shows its tag one cycle later. The wrapper latches the accesses of the other
kind, and it compares the low bits of an address with a line.
-/

namespace Cva6Hpd.HwpfStride

open Cva6Hpd.Hw

/-! ## The accesses that the ports show -/

/-- The accesses of the cycles before: the virtually indexed one that was accepted in the last
cycle, and the one of the last cycle in which the port was physically indexed. -/
structure Seen (g : Geometry) (ports : Nat) where
  pending : Fin ports → Option (BitVec g.reqOffsetWidth)
  last : Fin ports → Option (BitVec g.reqOffsetWidth)

section Accesses

variable {g : Geometry} {n ports : Nat} [NeZero n]

/-- The offset of an access that is accepted. -/
def accepted (snoop : Snoop g) : Option (BitVec g.reqOffsetWidth) :=
  if snoop.valid then some snoop.addrOffset else none

def see (_ : Wrapper g n ports) (i : WrapperInput g n ports) (seen : Seen g ports) :
    Seen g ports where
  pending port := if (i.snoop port).physIndexed then none else accepted (i.snoop port)
  last port := if (i.snoop port).physIndexed then accepted (i.snoop port) else seen.last port

/-- The wrapper with the accesses that it saw. -/
def watched (g : Geometry) (n ports : Nat) [NeZero n] (csrThrottle : Fin n → Throttle) :
    Machine (Wrapper g n ports × Seen g ports) (WrapperInput g n ports) :=
  (wrapper g n ports csrThrottle).withHistory ⟨fun _ => none, fun _ => none⟩ see

/-- The port shows the tag of an access with the offset, and does not abort it. -/
structure Shows (seen : Seen g ports) (i : WrapperInput g n ports) (port : Fin ports)
    (offset : BitVec g.reqOffsetWidth) : Prop where
  access : offset ∈ seen.pending port ∨
    (i.snoop port).physIndexed = true ∧ offset ∈ accepted (i.snoop port)
  kept : (i.snoop port).abort = false

/-- The line of the access with the offset, by its own tag. -/
def accessLine (i : WrapperInput g n ports) (port : Fin ports)
    (offset : BitVec g.reqOffsetWidth) : BitVec g.nlineWidth :=
  lineOf (address (i.snoop port).addrTag offset)

/-- An access that is accepted and not aborted falls in the line. -/
def Falls (seen : Seen g ports) (i : WrapperInput g n ports) (nline : BitVec g.nlineWidth) :
    Prop :=
  ∃ port offset, Shows seen i port offset ∧ accessLine i port offset = nline

/-- An engine that waits for an access to its base line. -/
structure Armed {nlineWidth : Nat} (s : State nlineWidth) : Prop where
  state : s.stateQ = .snoop
  enable : s.csrBaseQ.enable = true

/-- The armed engines are started exactly if an access falls in their base line. -/
def StartsRight (w : Wrapper g n ports × Seen g ports) (i : WrapperInput g n ports) : Prop :=
  ∀ engine, Armed (w.1.engines engine) →
    (((wrapperStep w.1 i).engines engine).stateQ = .sendReq ↔
      Falls w.2 i (snoopNline (w.1.engines engine)))

/-- What the port shows to an engine with the base line `nline` is not what the wrapper gets
wrong: no virtually indexed access falls in the line, the low address bits of a physically indexed
one are those of the line only if it falls in it, and they are not those of the line in the tag of
a later cycle. -/
structure Spares (seen : Seen g ports) (i : WrapperInput g n ports) (port : Fin ports)
    (nline : BitVec g.nlineWidth) : Prop where
  virtuallyIndexed : ∀ offset ∈ seen.pending port, accessLine i port offset ≠ nline
  physicallyIndexed : (i.snoop port).physIndexed = true →
    ∀ offset ∈ accepted (i.snoop port),
      (cutNline (address (i.snoop port).addrTag offset) = nline ↔
        accessLine i port offset = nline)
  stale : (i.snoop port).physIndexed = false →
    ∀ offset ∈ seen.last port, cutNline (address (i.snoop port).addrTag offset) ≠ nline

/-- The ports that do not abort an access spare the armed engines. -/
def Spared (w : Wrapper g n ports × Seen g ports) (i : WrapperInput g n ports) : Prop :=
  ∀ engine, Armed (w.1.engines engine) → ∀ port, (i.snoop port).abort = false →
    Spares w.2 i port (snoopNline (w.1.engines engine))

instance decidableArmed {nlineWidth : Nat} (s : State nlineWidth) : Decidable (Armed s) :=
  decidable_of_iff (s.stateQ = .snoop ∧ s.csrBaseQ.enable = true)
    ⟨fun ⟨state, enable⟩ => ⟨state, enable⟩, fun armed => ⟨armed.state, armed.enable⟩⟩

instance decidableFalls (seen : Seen g ports) (i : WrapperInput g n ports)
    (nline : BitVec g.nlineWidth) : Decidable (Falls seen i nline) :=
  decidable_of_iff
    (∃ port, (i.snoop port).abort = false ∧
      ((∃ offset ∈ seen.pending port, accessLine i port offset = nline) ∨
        (i.snoop port).physIndexed = true ∧
          ∃ offset ∈ accepted (i.snoop port), accessLine i port offset = nline))
    ⟨fun
      | ⟨port, kept, .inl ⟨offset, pending, same⟩⟩ => ⟨port, offset, ⟨.inl pending, kept⟩, same⟩
      | ⟨port, kept, .inr ⟨indexed, offset, shown, same⟩⟩ =>
          ⟨port, offset, ⟨.inr ⟨indexed, shown⟩, kept⟩, same⟩,
    fun
      | ⟨port, offset, ⟨.inl pending, kept⟩, same⟩ => ⟨port, kept, .inl ⟨offset, pending, same⟩⟩
      | ⟨port, offset, ⟨.inr ⟨indexed, shown⟩, kept⟩, same⟩ =>
          ⟨port, kept, .inr ⟨indexed, offset, shown, same⟩⟩⟩

instance decidableStartsRight (w : Wrapper g n ports × Seen g ports)
    (i : WrapperInput g n ports) : Decidable (StartsRight w i) :=
  inferInstanceAs (Decidable (∀ _, _ → _))

instance decidableSpares (seen : Seen g ports) (i : WrapperInput g n ports) (port : Fin ports)
    (nline : BitVec g.nlineWidth) : Decidable (Spares seen i port nline) :=
  decidable_of_iff
    ((∀ offset ∈ seen.pending port, accessLine i port offset ≠ nline) ∧
      ((i.snoop port).physIndexed = true → ∀ offset ∈ accepted (i.snoop port),
        (cutNline (address (i.snoop port).addrTag offset) = nline ↔
          accessLine i port offset = nline)) ∧
      ((i.snoop port).physIndexed = false →
        ∀ offset ∈ seen.last port, cutNline (address (i.snoop port).addrTag offset) ≠ nline))
    ⟨fun ⟨first, second, third⟩ => ⟨first, second, third⟩,
      fun spares => ⟨spares.virtuallyIndexed, spares.physicallyIndexed, spares.stale⟩⟩

instance decidableSpared (w : Wrapper g n ports × Seen g ports) (i : WrapperInput g n ports) :
    Decidable (Spared w i) :=
  inferInstanceAs (Decidable (∀ _, _ → ∀ _, _ → _))

/-! ## One clock edge -/

/-- The registers of a port hold the last access that was physically indexed. -/
def Latched (w : Wrapper g n ports × Seen g ports) : Prop :=
  ∀ port, w.2.last port =
    if w.1.snoopValidQ port then some (w.1.snoopAddrOffsetQ port) else none

theorem Latched.step {w : Wrapper g n ports × Seen g ports} (i : WrapperInput g n ports)
    (latched : Latched w) : Latched (wrapperStep w.1 i, see w.1 i w.2) := by
  intro port
  by_cases indexed : (i.snoop port).physIndexed = true
  · simp only [see, wrapperStep, indexed, if_true, accepted]
  · simp only [see, wrapperStep, indexed, Bool.false_eq_true, if_false]
    exact latched port

theorem starts_iff {nlineWidth : Nat} {s : State nlineWidth} {i : Input} (armed : Armed s) :
    (step s i).stateQ = .sendReq ↔ i.snoopMatch = true := by
  simp only [step, control, armed.state, controlSnoop, armed.enable, if_true]
  cases i.snoopMatch with
  | true =>
      rw [if_pos rfl]
      split <;> exact ⟨fun _ => rfl, fun _ => rfl⟩
  | false =>
      rw [if_neg Bool.false_ne_true, controlDefault, armed.state]
      exact ⟨Fsm.noConfusion, Bool.noConfusion⟩

omit [NeZero n] in
theorem hwpfSnoopMatch_iff {w : Wrapper g n ports × Seen g ports} (latched : Latched w)
    (i : WrapperInput g n ports) (engine : Fin n) :
    hwpfSnoopMatch w.1 i engine = true ↔
      ∃ port, (i.snoop port).abort = false ∧
        ∃ offset ∈ (if (i.snoop port).physIndexed then accepted (i.snoop port)
          else w.2.last port),
          cutNline (address (i.snoop port).addrTag offset) = snoopNline (w.1.engines engine) := by
  rw [hwpfSnoopMatch, Bits.any_eq_true_iff]
  apply exists_congr
  intro port
  rw [Bool.and_eq_true, Bool.and_eq_true, decide_eq_true_eq, Bool.not_eq_true', snoopValid,
    snoopOffset, latched port, accepted]
  have single (valid : Bool) (offset : BitVec g.reqOffsetWidth) :
      ((valid = true ∧ (i.snoop port).abort = false) ∧ snoopNline (w.1.engines engine) =
          cutNline (address (i.snoop port).addrTag offset)) ↔
        (i.snoop port).abort = false ∧ ∃ shown ∈ (if valid then some offset else none),
          cutNline (address (i.snoop port).addrTag shown) = snoopNline (w.1.engines engine) := by
    constructor
    · rintro ⟨⟨rfl, kept⟩, same⟩
      exact ⟨kept, offset, rfl, same.symm⟩
    · rintro ⟨kept, shown, member, same⟩
      rw [Option.mem_def, Option.ite_none_right_eq_some, Option.some_inj] at member
      obtain ⟨rfl, rfl⟩ := member
      exact ⟨⟨rfl, kept⟩, same.symm⟩
  by_cases indexed : (i.snoop port).physIndexed = true
  · rw [if_pos indexed, if_pos indexed, if_pos indexed]
    exact single _ _
  · rw [if_neg indexed, if_neg indexed, if_neg indexed]
    exact single _ _

theorem startsRight_of_spared {w : Wrapper g n ports × Seen g ports} (latched : Latched w)
    {i : WrapperInput g n ports} (spared : Spared w i) : StartsRight w i := by
  intro engine armed
  change (step (w.1.engines engine) (engineInput w.1 i engine)).stateQ = .sendReq ↔ _
  rw [starts_iff armed]
  change hwpfSnoopMatch w.1 i engine = true ↔ _
  rw [hwpfSnoopMatch_iff latched]
  constructor
  · rintro ⟨port, kept, offset, shown, same⟩
    have spares := spared engine armed port kept
    cases indexed : (i.snoop port).physIndexed with
    | true =>
        rw [if_pos indexed] at shown
        exact ⟨port, offset, ⟨.inr ⟨indexed, shown⟩, kept⟩,
          (spares.physicallyIndexed indexed offset shown).mp same⟩
    | false =>
        rw [if_neg (Bool.eq_false_iff.mp indexed)] at shown
        exact absurd same (spares.stale indexed offset shown)
  · rintro ⟨port, offset, ⟨access, kept⟩, same⟩
    have spares := spared engine armed port kept
    rcases access with pending | ⟨indexed, shown⟩
    · exact absurd same (spares.virtuallyIndexed offset pending)
    · refine ⟨port, kept, offset, ?_, (spares.physicallyIndexed indexed offset shown).mpr same⟩
      rwa [if_pos indexed]

/-! ## Runs -/

/-- In a run that spares the armed engines they are started exactly by the accesses to their base
lines. -/
theorem startsRight_of_run (csrThrottle : Fin n → Throttle)
    {inputs : List (WrapperInput g n ports)}
    (spared : (watched g n ports csrThrottle).RunAlong Spared inputs) :
    (watched g n ports csrThrottle).RunAlong StartsRight inputs := by
  apply spared.of_invariant Latched
  · intro w i latched _
    exact latched.step i
  · intro w i latched spared
    exact startsRight_of_spared latched spared
  · intro port
    rfl

end Accesses

/-! ## Runs on small lines -/

/-- The base line is line 0, the low address bits of which are those of its addresses. -/
def lineZeroRun : List (WrapperInput smallGeometry 1 1) :=
  [wrapperInput noAccess { enableLines with base := ⟨0, 0, false, false, true⟩ },
    wrapperInput noAccess noWrite, wrapperInput ⟨true, false, 0, 0, true⟩ noWrite]

theorem lineZeroRun_startsRight :
    (watched smallGeometry 1 1 fun _ => ⟨0, 0⟩).RunAlong StartsRight lineZeroRun :=
  startsRight_of_run (fun _ => ⟨0, 0⟩) (by decide +kernel)

/-- The base line 16 is accessed by a virtual index. -/
def missedRun : List (WrapperInput smallGeometry 1 1) :=
  [wrapperInput noAccess enableLines, wrapperInput noAccess noWrite,
    wrapperInput ⟨true, false, 0, 0, false⟩ noWrite,
    wrapperInput ⟨false, false, 0, 1, false⟩ noWrite]

/-- A virtually indexed access to the base line is missed, and a physically indexed one to line 1
starts the engine that waits for line 16. -/
theorem not_startsRight :
    ¬(watched smallGeometry 1 1 fun _ => ⟨0, 0⟩).RunAlong StartsRight missedRun ∧
      ¬(watched smallGeometry 1 1 fun _ => ⟨0, 0⟩).RunAlong StartsRight startedRun := by
  decide +kernel

end Cva6Hpd.HwpfStride
