import Cva6Hpd.Frontend.InstrQueue

/-!
# The fetch ports

With superscalar issue the queue shows a second instruction. Its entry is put together by a
branch of its own; this file compares it with the entry that the first port shows when the first
instruction is popped alone.
-/

namespace Cva6Hpd.Frontend.InstrQueue

open Common
open Hw

section Ports

variable {cfg : Cfg} {n : Nat} [NeZero n] {s : State cfg n} {i : Input cfg n}

/-- The first instruction is popped alone, and no block comes. -/
structure PopsFirst (i : Input cfg n) : Prop where
  running : i.flush = false
  quiet : i.valid = Bits.zero
  ready : i.fetchEntryReady 0 = true
  alone : i.fetchEntryReady 1 = false

instance decidablePopsFirst (i : Input cfg n) : Decidable (PopsFirst i) :=
  decidable_of_iff (i.flush = false ∧ i.valid = Bits.zero ∧ i.fetchEntryReady 0 = true ∧
      i.fetchEntryReady 1 = false)
    ⟨fun parts => ⟨parts.1, parts.2.1, parts.2.2.1, parts.2.2.2⟩,
      fun pops => ⟨pops.1, pops.2, pops.3, pops.4⟩⟩

/-! ## The queue behind the first instruction -/

/-- What the queue of addresses shows once the first instruction is popped. -/
def nextAddressOut (s : State cfg n) : BitVec cfg.vlen :=
  if fetchEntryIsCf s 0 && !s.address.empty then
    s.address.memQ (FifoRegs.advance s.address.readPointerQ)
  else addressOut s

omit [NeZero n] in
theorem PopsFirst.pushInstr_eq (pops : PopsFirst i) (q : Fin n) : pushInstr s i q = false := by
  rw [pushInstr, fifoPos, InstrQueue.valid, pops.quiet]
  rfl

omit [NeZero n] in
theorem PopsFirst.pushAddress_eq (pops : PopsFirst i) : pushAddress s i = false := by
  rw [pushAddress, Bits.any_eq_false_iff]
  intro q
  rw [pops.pushInstr_eq, Bool.false_and]

section Shown

variable (shown : fetchEntryValidO s 1 = true)

include shown

theorem second_notEmpty : instrQueueEmpty s (idxDs s 1) = false := by
  rw [fetchEntryValidO, if_neg (by decide), Bool.and_eq_true, Bool.and_eq_true] at shown
  exact (Bool.not_eq_true' _).mp shown.1.2

theorem first_shown : fetchEntryValidO s 0 = true := by
  have filled := second_notEmpty shown
  rw [fetchEntryValidO, if_pos rfl, Bool.not_eq_true', Bits.all_eq_false_iff]
  exact ⟨_, filled⟩

theorem PopsFirst.fires (pops : PopsFirst i) :
    fetchEntryFire s i 0 = true ∧ fetchEntryFire s i 1 = false := by
  rw [fetchEntryFire, fetchEntryFire, first_shown shown, pops.ready, pops.alone, Bool.and_false]
  exact ⟨rfl, rfl⟩

theorem PopsFirst.pcQ_step (pops : PopsFirst i) : (step s i).pcQ = pcJ s 1 := by
  have fires := pops.fires shown
  have settled : resetsAddress s i = false := by
    rw [resetsAddress, pops.quiet]
    rfl
  change pcD s i = _
  rw [pcD, settled, if_neg Bool.false_ne_true, pcNext, fires.1, fires.2, if_pos rfl,
    if_neg Bool.false_ne_true]

theorem PopsFirst.idxDs_step (pops : PopsFirst i) : idxDs (step s i) 0 = idxDs s 1 := by
  have fires := pops.fires shown
  have pointer : (step s i).idxDsQ = idxDs s 1 := by
    change (if i.flush then 0 else idxDsD s i) = _
    rw [pops.running, if_neg Bool.false_ne_true, idxDsD, fires.1, fires.2, if_pos rfl,
      if_neg Bool.false_ne_true]
  rw [idxDs, pointer]
  exact add_zero _

theorem PopsFirst.instrDataOut_step (pops : PopsFirst i) (superscalar : cfg.superscalarEn = true) :
    instrDataOut (step s i) 0 = instrDataOut s 1 := by
  have kept : popInstr s i (idxDs s 1) = false := by
    rw [popInstr, superscalar, decide_eq_true rfl, Bool.and_self, if_pos rfl, (pops.fires shown).2]
  rw [instrDataOut, pops.idxDs_step shown, instrDataOut]
  change ((s.instrData (idxDs s 1)).step (pushInstrFifo s i _) _ (popInstr s i _)
    i.flush).dataOut = _
  rw [kept, pushInstrFifo, pops.pushInstr_eq, pops.running]
  rfl

theorem PopsFirst.addressOut_step (pops : PopsFirst i) :
    addressOut (step s i) = nextAddressOut s := by
  have fires := pops.fires shown
  have pop : popAddress s i = fetchEntryIsCf s 0 := by
    rw [popAddress, fires.1, fires.2, Bool.and_true, Bool.and_false, Bool.or_false]
  change (s.address.step (pushAddress s i && _) _ (popAddress s i) i.flush).dataOut = _
  rw [pops.pushAddress_eq, pop, pops.running, Bool.false_and, nextAddressOut]
  change s.address.memQ (FifoV3.readPointerN s.address (fetchEntryIsCf s 0)) = _
  rw [FifoV3.readPointerN]
  split <;> rfl

theorem PopsFirst.fetchEntryO_step (pops : PopsFirst i) (superscalar : cfg.superscalarEn = true) :
    fetchEntryO (step s i) 0 = fetchEntry0 (pcJ s 1) (instrDataOut s 1) (nextAddressOut s) := by
  change fetchEntry0 (step s i).pcQ (instrDataOut (step s i) 0) (addressOut (step s i)) = _
  rw [pops.pcQ_step shown, pops.instrDataOut_step shown superscalar, pops.addressOut_step shown]

theorem PopsFirst.valid_step (pops : PopsFirst i) (superscalar : cfg.superscalarEn = true) :
    fetchEntryValidO (step s i) 0 = true := by
  have kept : popInstr s i (idxDs s 1) = false := by
    rw [popInstr, superscalar, decide_eq_true rfl, Bool.and_self, if_pos rfl, (pops.fires shown).2]
  have filled : instrQueueEmpty (step s i) (idxDs s 1) = false := by
    have before := second_notEmpty shown
    change ((s.instrData (idxDs s 1)).step (pushInstrFifo s i _) _ (popInstr s i _)
      i.flush).empty = _
    rw [kept, pushInstrFifo, pops.pushInstr_eq, pops.running]
    exact before
  rw [fetchEntryValidO, if_pos rfl, Bool.not_eq_true', Bits.all_eq_false_iff]
  exact ⟨_, filled⟩

end Shown

/-! ## The two branches -/

/-- What the branch of the second port leaves out does not show: the cause of a guest page fault,
the parameter that silences the faulting address, the guest address and its flags, and a target
of the first instruction. -/
structure PortsAgree (s : State cfg n) : Prop where
  cause : cfg.rvh = true → (instrDataOut s 1).ex ≠ .instrGuestPageFault
  tval : cfg.tvalEn = true ∨ (instrDataOut s 1).exVaddr.setWidth cfg.xlen = 0
  gpaddr : cfg.rvh = true → (instrDataOut s 1).exGpaddr = 0
  tinst : cfg.rvh = true → (instrDataOut s 1).exTinst = 0
  gva : cfg.rvh = true → (instrDataOut s 1).exGva = false
  target : addressOut s = nextAddressOut s

instance decidablePortsAgree (s : State cfg n) : Decidable (PortsAgree s) :=
  decidable_of_iff ((cfg.rvh = true → (instrDataOut s 1).ex ≠ .instrGuestPageFault) ∧
      (cfg.tvalEn = true ∨ (instrDataOut s 1).exVaddr.setWidth cfg.xlen = 0) ∧
      (cfg.rvh = true → (instrDataOut s 1).exGpaddr = 0) ∧
      (cfg.rvh = true → (instrDataOut s 1).exTinst = 0) ∧
      (cfg.rvh = true → (instrDataOut s 1).exGva = false) ∧ addressOut s = nextAddressOut s)
    ⟨fun parts => ⟨parts.1, parts.2.1, parts.2.2.1, parts.2.2.2.1, parts.2.2.2.2.1,
      parts.2.2.2.2.2⟩, fun agree => ⟨agree.1, agree.2, agree.3, agree.4, agree.5, agree.6⟩⟩

theorem exCause_eq_iff (compressed : cfg.rvc = true) (pc predict predict' : BitVec cfg.vlen)
    (data : InstrData cfg) :
    (fetchEntry1 pc data predict).exCause = (fetchEntry0 pc data predict').exCause ↔
      (cfg.rvh = true → data.ex ≠ .instrGuestPageFault) := by
  simp only [fetchEntry1, fetchEntry0, compressed, Bool.true_and]
  cases data.ex <;> cases cfg.rvh <;>
    simp [instrAccessFault, instrPageFault, instrGuestPageFault]

theorem fetchEntry1_eq_iff (compressed : cfg.rvc = true) (pc predict predict' : BitVec cfg.vlen)
    (data : InstrData cfg) :
    fetchEntry1 pc data predict = fetchEntry0 pc data predict' ↔
      (cfg.rvh = true → data.ex ≠ .instrGuestPageFault) ∧
      (cfg.tvalEn = true ∨ data.exVaddr.setWidth cfg.xlen = 0) ∧
      (cfg.rvh = true → data.exGpaddr = 0) ∧ (cfg.rvh = true → data.exTinst = 0) ∧
      (cfg.rvh = true → data.exGva = false) ∧ predict = predict' := by
  rw [← exCause_eq_iff compressed pc predict predict' data]
  simp only [fetchEntry1, fetchEntry0, FetchEntry.mk.injEq, true_and]
  cases cfg.rvh <;> cases cfg.tvalEn <;>
    simp [@eq_comm _ _ data.exGpaddr, @eq_comm _ _ data.exTinst]

end Ports

/-- For every content of the queue, the entry of the second port is the one that the first port
shows behind the first instruction if and only if the ports agree. -/
theorem second_port_iff {cfg : Cfg} (superscalar : cfg.superscalarEn = true)
    (compressed : cfg.rvc = true) {s : State cfg cfg.instrPerFetch}
    (shown : fetchEntryValidO s 1 = true) {i : Input cfg cfg.instrPerFetch} (pops : PopsFirst i) :
    fetchEntryValidO (step s i) 0 = true ∧
      (fetchEntryO s 1 = fetchEntryO (step s i) 0 ↔ PortsAgree s) := by
  constructor
  · exact pops.valid_step shown superscalar
  · rw [pops.fetchEntryO_step shown superscalar]
    change fetchEntry1 (pcJ s 1) (instrDataOut s 1) (addressOut s) = _ ↔ _
    rw [fetchEntry1_eq_iff compressed]
    constructor
    · rintro ⟨cause, tval, gpaddr, tinst, gva, target⟩
      exact ⟨cause, tval, gpaddr, tinst, gva, target⟩
    · rintro ⟨cause, tval, gpaddr, tinst, gva, target⟩
      exact ⟨cause, tval, gpaddr, tinst, gva, target⟩

/-! ## A block of two instructions -/

/-- A superscalar core with the hypervisor extension. -/
def wide : Cfg := ⟨true, true, true, true, 8, 8, 8⟩

/-- Two compressed instructions, fetched with an exception at a guest address. -/
def fetchedWith (exception : FrontendException) (gpaddr : BitVec 8) :
    Input wide wide.instrPerFetch where
  flush := false
  instr p := BitVec.ofNat 32 (4 * p.val + 4)
  addr p := BitVec.ofNat 8 (0x10 + 2 * p.val)
  valid p := decide (p.val < 2)
  exception := exception
  exceptionAddr := if exception = .none then 0 else 0x10
  exceptionGpaddr := gpaddr
  exceptionTinst := 0
  exceptionGva := false
  predictAddress := 0
  cfType _ := .noCF
  fetchEntryReady _ := false

/-- The decoder takes the first instruction. -/
def takesFirst : Input wide wide.instrPerFetch :=
  { fetchedWith .none 0 with
    valid := Bits.zero
    fetchEntryReady := fun port => decide (port = 0) }

theorem second_port_of_page_fault :
    let s := (machine wide _).run [fetchedWith .instrPageFault 0]
    fetchEntryO s 1 = fetchEntryO (step s takesFirst) 0 :=
  have shown :
      fetchEntryValidO ((machine wide _).run [fetchedWith .instrPageFault 0]) 1 = true := by
    decide +kernel
  (second_port_iff rfl rfl shown (by decide +kernel)).2.mpr (by decide +kernel)

/-- The second port reports a guest page fault as a page fault, without the guest address. -/
theorem second_port_of_guest_page_fault :
    let s := (machine wide _).run [fetchedWith .instrGuestPageFault 0x20]
    fetchEntryValidO s 1 = true ∧ PopsFirst takesFirst ∧
      fetchEntryO s 1 ≠ fetchEntryO (step s takesFirst) 0 ∧
      (fetchEntryO s 1).exCause = instrPageFault ∧
      (fetchEntryO (step s takesFirst) 0).exCause = instrGuestPageFault ∧
      (fetchEntryO s 1).exTval2 = 0 ∧ (fetchEntryO (step s takesFirst) 0).exTval2 = 0x20 := by
  decide +kernel

end Cva6Hpd.Frontend.InstrQueue
