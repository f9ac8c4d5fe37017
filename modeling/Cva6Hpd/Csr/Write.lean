import Cva6Hpd.Csr.Read
import Mathlib.Algebra.GroupWithZero.Nat

/-!
# Writes

The cases of `csr_update`: what a write does to the values that the registers take on at the
next edge, with the flush, the exceptions and the write of a performance counter that it asks
for.
-/

namespace Cva6Hpd.Csr

/-! ## Drafts -/

/-- The registers of the trigger module. -/
inductive TriggerReg where
  | tselect | tdata1 | tdata2 | tdata3
deriving DecidableEq

/-- The values under construction: the next state (the `_d` signals) and the outputs that a
write sets. -/
structure Draft (cfg : Cfg) where
  next : State cfg
  flush : Bool
  updateAccessException : Bool
  virtualUpdateAccessException : Bool
  dirtyFpState : Bool
  perfWe : Bool
  perfData : Word cfg
  trigger : Option (TriggerReg × Word cfg)

namespace Draft

variable {cfg : Cfg} (d : Draft cfg)

/-- The defaults of the outputs. -/
def of (next : State cfg) : Draft cfg := ⟨next, false, false, false, false, false, 0, none⟩

/-- `update_access_exception`. -/
def reject : Draft cfg := { d with updateAccessException := true }

/-- `virtual_update_access_exception`. -/
def rejectVirtual : Draft cfg := { d with virtualUpdateAccessException := true }

/-- `flush_o`. -/
def flushes : Draft cfg := { d with flush := true }

/-- `perf_we_o`. -/
def perf (data : Word cfg) : Draft cfg := { d with perfWe := true, perfData := data }

def set (next : State cfg) : Draft cfg := { d with next }

def onMachine (f : Machine cfg → Machine cfg) : Draft cfg :=
  d.set { d.next with machine := f d.next.machine }

def onSupervisor (f : Supervisor cfg → Supervisor cfg) : Draft cfg :=
  d.set { d.next with supervisor := f d.next.supervisor }

def onHypervisor (f : Hypervisor cfg → Hypervisor cfg) : Draft cfg :=
  d.set { d.next with hypervisor := f d.next.hypervisor }

def onVirtual (f : VirtualSupervisor cfg → VirtualSupervisor cfg) : Draft cfg :=
  d.set { d.next with virtualSupervisor := f d.next.virtualSupervisor }

def onDebug (f : Debug cfg → Debug cfg) : Draft cfg :=
  d.set { d.next with debug := f d.next.debug }

def onCounters (f : Counters → Counters) : Draft cfg :=
  d.set { d.next with counters := f d.next.counters }

def onEnvironment (f : Environment cfg → Environment cfg) : Draft cfg :=
  d.set { d.next with environment := f d.next.environment }

def onPmp (f : Pmp cfg → Pmp cfg) : Draft cfg := d.set { d.next with pmp := f d.next.pmp }

/-- The write is there under a condition. -/
def within (present : Bool) (write : Draft cfg → Draft cfg) : Draft cfg :=
  if present then write d else d.reject

end Draft

variable {cfg : Cfg}

/-! ## Words -/

/-- `(old & ~mask) | (new & mask)`. -/
def merged (mask old new : Word cfg) : Word cfg := (old &&& ~~~mask) ||| (new &&& mask)

/-- The low `n` bits are replaced. -/
def withLowBits (n : Nat) (word low : Word cfg) : Word cfg := ((word >>> n) <<< n) ||| low

/-- `SMODE_STATUS_WRITE_MASK`: `SIE`, `SPIE`, `SPP`, `FS`, `SUM` and `MXR`. -/
def smodeStatusWriteMask : BitVec 64 := 0xC6122#64

/-- `HSTATUS_WRITE_MASK`. -/
def hstatusWriteMask : BitVec 64 := 0x7003E0#64

/-- The exceptions that `hedeleg` delegates. -/
def hedelegMask (cfg : Cfg) : Word cfg := bits cfg [0, 1, 2, 3, 4, 5, 6, 7, 8, 12, 13, 15]

/-- The exceptions that `medeleg` delegates. -/
def medelegMask (cfg : Cfg) : Word cfg :=
  hedelegMask cfg ||| (if cfg.rvh then bits cfg [10, 20, 21, 22, 23] else 0)

/-- The interrupts of the supervisor. -/
def supervisorInterrupts (cfg : Cfg) : Word cfg := bits cfg [1, 5, 9]

/-- The mask of `mie`. -/
def mieMask (cfg : Cfg) : Word cfg :=
  if cfg.rvh then hsDelegInterrupts cfg ||| supervisorInterrupts cfg ||| bits cfg [3, 7, 11]
  else if cfg.rvs then supervisorInterrupts cfg ||| bits cfg [3, 7, 11]
  else if cfg.softwareInterruptEn then bits cfg [3, 7, 11]
  else bits cfg [7, 11]

/-- The mask of `mip`. -/
def mipMask (cfg : Cfg) : Word cfg :=
  if cfg.rvh then supervisorInterrupts cfg ||| bit cfg 2
  else if cfg.rvs then supervisorInterrupts cfg
  else 0

/-- `satp` as written: only the implemented bits of the address space stick. -/
def writtenSatp (w : Word cfg) : Satp cfg :=
  let satp := Satp.ofWord w
  { satp with asid := satp.asid &&& BitVec.ofNat _ (2 ^ cfg.asidWidth - 1) }

/-- `hgatp` as written. -/
def writtenHgatp (w : Word cfg) : Hgatp cfg :=
  let hgatp := Hgatp.ofWord w
  { hgatp with ppn := (hgatp.ppn >>> 2) <<< 2
               vmid := hgatp.vmid &&& BitVec.ofNat _ (2 ^ cfg.vmidWidth - 1) }

namespace Mstatus

/-- The fields that depend on the floating point unit. -/
def withFp (cfg : Cfg) (m : Mstatus) : Mstatus := if cfg.fpPresent then m else { m with fs := .off }

/-- The fields that depend on the vector extension. -/
def withVector (cfg : Cfg) (m : Mstatus) : Mstatus := if cfg.rvv then m else { m with vs := .off }

/-- The fields that depend on supervisor mode. -/
def withSupervisor (cfg : Cfg) (m : Mstatus) : Mstatus :=
  if cfg.rvs then m
  else
    { m with sie := false, spie := false, spp := false, sum := false, mxr := false,
             tvm := false, tsr := false }

/-- The fields that depend on user mode. -/
def withUser (cfg : Cfg) (m : Mstatus) : Mstatus :=
  if cfg.rvu then m else { m with tw := false, mprv := false }

/-- The levels that `mpp` does not take on. -/
def refusesMpp (cfg : Cfg) (level : PrivLvl) : Bool :=
  (!cfg.rvh && level = .hs) || (!cfg.rvs && level = .s) || (!cfg.rvu && level = .u)

/-- A level that is refused leaves `mpp` as it was. -/
def withMpp (refused : Bool) (old : PrivLvl) (m : Mstatus) : Mstatus :=
  if refused then { m with mpp := old } else m

/-- The reserved fields, and the copies of `mbe`. -/
def withReserved (m : Mstatus) : Mstatus :=
  { m with wpri3 := 0, wpri1 := false, wpri2 := false, wpri0 := false, sbe := m.mbe,
           ube := m.mbe }

end Mstatus

/-- `sstatus` as written. -/
def writtenSstatus (s : State cfg) (w : Word cfg) : Mstatus :=
  let m := ((s.mstatus.masked smodeStatusWriteMask (w.setWidth 64)).withFp cfg).withVector cfg
  m.withMpp (!cfg.rvh && m.mpp = .hs) s.mstatus.mpp

/-- `vsstatus` as written. -/
def writtenVsstatus (s : State cfg) (w : Word cfg) : Mstatus :=
  { s.vsstatus.masked smodeStatusWriteMask (w.setWidth 64) with xs := .off }.withFp cfg

/-- `mstatus` as written. -/
def writtenMstatus (s : State cfg) (w : Word cfg) : Mstatus :=
  let m := { Mstatus.ofWord (w.setWidth 64) with xs := .off }
  let m := (((m.withFp cfg).withVector cfg).withSupervisor cfg).withUser cfg
  (m.withMpp (Mstatus.refusesMpp cfg m.mpp) s.mstatus.mpp).withReserved

/-- `dcsr` as written. -/
def writtenDcsr (w : Word cfg) : Dcsr :=
  { Dcsr.ofWord (w.setWidth 32) with
    xdebugver := 4, nmip := false, stopcount := false, stoptime := false }

/-- The entry above, when locked with `TOR`, locks the address too. -/
def pmpaddrLocked (pmp : Pmp cfg) (index : Nat) : Bool :=
  (pmp.pmpcfg index).locked
    || ((pmp.pmpcfg (index + 1)).locked && (pmp.pmpcfg (index + 1)).addrMode = .tor)

/-- The entries that a write of `pmpcfg` replaces. -/
def writtenPmpcfg (s : State cfg) (base : Nat) (w : Word cfg) (pmp : Pmp cfg) : Pmp cfg :=
  { pmp with pmpcfg := fun k =>
      if base ≤ k && k < base + cfg.xlen / 8 && !(s.pmp.pmpcfg k).locked then
        PmpCfg.ofByte (w.extractLsb' (8 * (k - base)) 8)
      else pmp.pmpcfg k }

/-! ## The cases of the write -/

section Write

variable (s : State cfg) (i : Input cfg) (w : Word cfg) (d : Draft cfg)

/-- A write of a part of `fcsr`. -/
def writeFcsr (f : Fcsr → Fcsr) : Draft cfg :=
  d.within (cfg.fpPresent && !s.fpOff) fun d =>
    { d.set { d.next with fcsr := f d.next.fcsr } with dirtyFpState := true, flush := true }

/-- A write of a register of the trigger module. -/
def writeTrigger (reg : TriggerReg) : Draft cfg :=
  d.within cfg.sdtrig fun d => { d with trigger := some (reg, w) }

/-- `vsatp`, which flushes also when the guest has to trap. -/
def writeVsatp : Draft cfg :=
  if !cfg.rvh then d.reject
  else if trapsVsatp s then d.rejectVirtual.flushes
  else if (writtenSatp w).supported then
    (d.onVirtual fun r => { r with vsatp := writtenSatp w }).flushes
  else d.flushes

/-- `satp`, which flushes also when the supervisor has to trap. -/
def writeSatp : Draft cfg :=
  if !cfg.rvs then d.reject
  else if trapsSatp s then d.reject.flushes
  else if (writtenSatp w).supported then
    (d.onSupervisor fun r => { r with satp := writtenSatp w }).flushes
  else d.flushes

/-- `hgatp`, which flushes also when the supervisor has to trap. -/
def writeHgatp : Draft cfg :=
  if !cfg.rvh then d.reject
  else if trapsHgatp s then d.reject.flushes
  else if (writtenHgatp w).supported then
    (d.onHypervisor fun r => { r with hgatp := writtenHgatp w }).flushes
  else d.flushes

/-- The cases of `csr_update`. -/
def writeReg : Reg → Draft cfg
  | .fflags => writeFcsr s d fun f => { f with fflags := w.setWidth 5 }
  | .frm => writeFcsr s d fun f => { f with frm := w.setWidth 3 }
  | .fcsr => writeFcsr s d fun f => { f with frm := w.extractLsb' 5 3, fflags := w.setWidth 5 }
  | .ftran => writeFcsr s d fun f => { f with fprec := w.setWidth 7 }
  | .dcsr => d.within cfg.debugEn (·.onDebug fun r => { r with dcsr := writtenDcsr w })
  | .dpc => d.within cfg.debugEn (·.onDebug fun r => { r with dpc := w })
  | .dscratch0 => d.within cfg.debugEn (·.onDebug fun r => { r with dscratch0 := w })
  | .dscratch1 => d.within cfg.debugEn (·.onDebug fun r => { r with dscratch1 := w })
  | .jvt =>
    d.within cfg.rvzcmt fun d =>
      d.set { d.next with jvtBase := w.extractLsb' 6 (cfg.xlen - 6), jvtMode := 0 }
  | .tselect => writeTrigger w d .tselect
  | .tdata1 =>
    d.within cfg.sdtrig fun d =>
      { d with trigger := some (.tdata1, w), flush := i.flushFromTm }
  | .tdata2 => writeTrigger w d .tdata2
  | .tdata3 => writeTrigger w d .tdata3
  | .scontext =>
    d.within cfg.sdtrig fun d => d.set { d.next with scontext := narrow cfg (w.setWidth 32) }
  | .vsstatus =>
    d.within cfg.rvh fun d => (d.set { d.next with vsstatus := writtenVsstatus s w }).flushes
  | .vsie =>
    d.within cfg.rvh
      (·.onMachine fun r => { r with mie := merged s.hypervisor.hideleg s.machine.mie (w <<< 1) })
  | .vsip =>
    d.within cfg.rvh (·.onMachine fun r =>
      { r with mip := merged (bit cfg 2 &&& s.hypervisor.hideleg) s.machine.mip (w <<< 1) })
  | .vstvec =>
    d.within cfg.rvh (·.onVirtual fun r => { r with vstvec := withLowBits 2 w (w &&& bit cfg 0) })
  | .vsscratch => d.within cfg.rvh (·.onVirtual fun r => { r with vsscratch := w })
  | .vsepc => d.within cfg.rvh (·.onVirtual fun r => { r with vsepc := withLowBits 1 w 0 })
  | .vscause => d.within cfg.rvh (·.onVirtual fun r => { r with vscause := w })
  | .vstval => d.within cfg.rvh (·.onVirtual fun r => { r with vstval := w })
  | .vsatp => writeVsatp s w d
  | .sstatus =>
    d.within cfg.rvs fun d => (d.set { d.next with mstatus := writtenSstatus s w }).flushes
  | .sie =>
    d.within cfg.rvs (·.onMachine fun r =>
      { r with mie := merged (supervisorMask s) s.machine.mie w })
  | .sip =>
    d.within cfg.rvs (·.onMachine fun r =>
      { r with mip := merged (bit cfg 1 &&& s.machine.mideleg) s.machine.mip w })
  | .stvec =>
    d.within cfg.rvs
      (·.onSupervisor fun r => { r with stvec := withLowBits 2 w (w &&& bit cfg 0) })
  | .scounteren =>
    d.within cfg.rvs (·.onSupervisor fun r => { r with scounteren := narrow cfg (w.setWidth 32) })
  | .sscratch => d.within cfg.rvs (·.onSupervisor fun r => { r with sscratch := w })
  | .sepc => d.within cfg.rvs (·.onSupervisor fun r => { r with sepc := withLowBits 1 w 0 })
  | .scause => d.within cfg.rvs (·.onSupervisor fun r => { r with scause := w })
  | .stval => d.within (cfg.rvs && cfg.tvalEn) (·.onSupervisor fun r => { r with stval := w })
  | .satp => writeSatp s w d
  | .senvcfg =>
    d.within cfg.rvs (·.onEnvironment fun r =>
      if cfg.rvziCbom then
        { r with fiom := w.getLsbD 0, scbie := Cbie.ofBits (w.extractLsb' 4 2),
                 scbcfe := w.getLsbD 6 }
      else { r with fiom := w.getLsbD 0 })
  | .hstatus =>
    d.within cfg.rvh fun d =>
      (d.set { d.next with
        hstatus := s.hstatus.masked hstatusWriteMask (w.setWidth 64) }).flushes
  | .hedeleg =>
    d.within cfg.rvh (·.onHypervisor fun r =>
      { r with hedeleg := merged (hedelegMask cfg) s.hypervisor.hedeleg w })
  | .hideleg =>
    d.within cfg.rvh (·.onHypervisor fun r =>
      { r with hideleg := merged (vsDelegInterrupts cfg) s.hypervisor.hideleg w })
  | .hie =>
    d.within cfg.rvh (·.onMachine fun r =>
      { r with mie := merged (hsDelegInterrupts cfg) s.machine.mie w })
  | .hip =>
    d.within cfg.rvh (·.onMachine fun r => { r with mip := merged (bit cfg 2) s.machine.mip w })
  | .hvip =>
    d.within cfg.rvh (·.onMachine fun r =>
      { r with mip := merged (vsDelegInterrupts cfg) s.machine.mip w })
  | .hcounteren =>
    d.within cfg.rvh (·.onHypervisor fun r => { r with hcounteren := narrow cfg (w.setWidth 32) })
  | .htval => d.within cfg.rvh (·.onHypervisor fun r => { r with htval := w })
  | .htinst =>
    d.within cfg.rvh (·.onHypervisor fun r => { r with htinst := narrow cfg (w.setWidth 32) })
  | .hgeie => d.within cfg.rvh fun d => d
  | .hgatp => writeHgatp s w d
  | .henvcfg =>
    d.within cfg.rvh (·.onEnvironment fun r =>
      if cfg.rvziCbom then
        { r with fiom := w.getLsbD 0, hcbie := Cbie.ofBits (w.extractLsb' 4 2),
                 hcbcfe := w.getLsbD 6 }
      else { r with fiom := w.getLsbD 0 })
  | .mstatus => (d.set { d.next with mstatus := writtenMstatus s w }).flushes
  | .mstatush =>
    d.within (!cfg.isXlen64) fun d =>
      let mbe := w.getLsbD 5
      (d.set { d.next with mstatus := { s.mstatus with mbe, sbe := mbe, ube := mbe } }).flushes
  | .misa => d
  | .medeleg =>
    d.within cfg.rvs (·.onMachine fun r =>
      { r with medeleg := merged (medelegMask cfg) s.machine.medeleg w })
  | .mideleg =>
    d.within cfg.rvs (·.onMachine fun r =>
      let mideleg := merged (supervisorInterrupts cfg) s.machine.mideleg w
      { r with mideleg := if cfg.rvh then mideleg ||| hsDelegInterrupts cfg else mideleg })
  | .mie => d.onMachine fun r => { r with mie := merged (mieMask cfg) s.machine.mie w }
  | .mtvec =>
    d.onMachine fun r =>
      if !cfg.directVecOnly && w.getLsbD 0 then { r with mtvec := withLowBits 8 w 1 }
      else { r with mtvec := withLowBits 2 w 0 }
  | .mcounteren =>
    d.within cfg.rvu (·.onMachine fun r => { r with mcounteren := narrow cfg (w.setWidth 32) })
  | .mscratch => d.onMachine fun r => { r with mscratch := w }
  | .mepc => d.onMachine fun r => { r with mepc := withLowBits 1 w 0 }
  | .mcause => d.onMachine fun r => { r with mcause := w }
  | .mtval => if cfg.tvalEn then d.onMachine fun r => { r with mtval := w } else d
  | .mtinst =>
    d.within cfg.rvh (·.onMachine fun r => { r with mtinst := narrow cfg (w.setWidth 32) })
  | .mtval2 => d.within cfg.rvh (·.onMachine fun r => { r with mtval2 := w })
  | .mip => d.onMachine fun r => { r with mip := merged (mipMask cfg) s.machine.mip w }
  | .menvcfg =>
    d.onEnvironment fun r =>
      let r := if cfg.rvu then { r with fiom := w.getLsbD 0 } else r
      if cfg.rvziCbom then
        { r with mcbie := Cbie.ofBits (w.extractLsb' 4 2), mcbcfe := w.getLsbD 6 }
      else r
  | .menvcfgh => d.within (cfg.rvu && !cfg.isXlen64) fun d => d
  | .mcountinhibit =>
    d.onCounters fun r =>
      if cfg.perfCounterEn then
        { r with mcountinhibit :=
            w.setWidth 32 &&& (BitVec.ofNat 32 (2 ^ (cfg.mhpmCounterNum + 3) - 1) &&& ~~~2#32) }
      else { r with mcountinhibit := 0 }
  | .mcycle =>
    d.onCounters fun r =>
      { r with cycle := ((r.cycle >>> cfg.xlen) <<< cfg.xlen) ||| w.setWidth 64 }
  | .mcycleh =>
    d.within (!cfg.isXlen64) (·.onCounters fun r =>
      { r with cycle := w.setWidth 32 ++ r.cycle.extractLsb' 0 32 })
  | .minstret =>
    d.onCounters fun r =>
      { r with instret := ((r.instret >>> cfg.xlen) <<< cfg.xlen) ||| w.setWidth 64 }
  | .minstreth =>
    d.within (!cfg.isXlen64) (·.onCounters fun r =>
      { r with instret := w.setWidth 32 ++ r.instret.extractLsb' 0 32 })
  | .mhpmEvent => d.perf w
  | .mhpmCounter => d.perf w
  | .mhpmCounterH => if cfg.isXlen64 then { d.reject with perfWe := true } else d.perf w
  | .dcache => d.onEnvironment fun r => { r with dcache := w &&& bit cfg 0 }
  | .icache => d.onEnvironment fun r => { r with icache := w &&& bit cfg 0 }
  | .accCons =>
    d.within cfg.enableAccelerator (·.onEnvironment fun r => { r with accCons := w &&& bit cfg 0 })
  | .pmpcfg index =>
    d.within (!(cfg.isXlen64 && index % 2 = 1)) (·.onPmp (writtenPmpcfg s (index * 4) w))
  | .pmpaddr index =>
    if pmpaddrLocked s.pmp index then d
    else d.onPmp fun r =>
      { r with pmpaddr := fun k => if k = index then w.setWidth _ else r.pmpaddr k }
  | .tinfo | .hgeip | .mvendorid | .marchid | .mimpid | .mhartid | .mconfigptr | .cycle | .cycleh
  | .instret | .instreth | .hpmCounter | .hpmCounterH => d.reject

/-- The write of `csr_update`, if it is enabled. -/
def writeProcess : Draft cfg :=
  if csrWe s i then
    match Reg.ofAddress (convCsrAddr s i.csrAddr) with
    | some reg => writeReg s i (csrWdata s i) d reg
    | none => d.reject
  else d

end Write

end Cva6Hpd.Csr
