import Cva6Hpd.Csr.Access

/-!
# Reads

`csr_read_process`: the value of a register, or the exception of a read of a register that
the core does not have or that the mode may not read.
-/

namespace Cva6Hpd.Csr

open Cva6Hpd.Ariane (FuOp)

/-! ## Masks -/

/-- A word with one bit. -/
def bit (cfg : Cfg) (position : Nat) : Word cfg := BitVec.ofNat cfg.xlen 1 <<< position

/-- A word with the bits at the given positions. -/
def bits (cfg : Cfg) (positions : List Nat) : Word cfg :=
  positions.foldl (fun word position => word ||| bit cfg position) 0

/-- `HS_DELEG_INTERRUPTS`, the interrupts of the virtual supervisor. -/
def hsDelegInterrupts (cfg : Cfg) : Word cfg := bits cfg [2, 6, 10]

/-- `VS_DELEG_INTERRUPTS`. -/
def vsDelegInterrupts (cfg : Cfg) : Word cfg := bits cfg [2, 6, 10]

/-- `SMODE_STATUS_READ_MASK`. -/
def smodeStatusReadMask (cfg : Cfg) : BitVec 64 :=
  0x3000DE173#64 ||| (if cfg.isXlen64 then 0x8000000000000000#64 else 0x80000000#64)

variable {cfg : Cfg}

/-! ## Words of registers -/

/-- `mstatus_extended` and `vsstatus_extended`. -/
def Mstatus.extended (cfg : Cfg) (m : Mstatus) : Word cfg :=
  if cfg.isXlen64 then m.toWord.setWidth cfg.xlen
  else (BitVec.ofBool m.sd ++ m.wpri3.extractLsb' 0 8 ++ m.toWord.extractLsb' 0 23).setWidth
    cfg.xlen

/-- `mstatush`. -/
def Mstatus.high (m : Mstatus) : BitVec 32 :=
  0#24 ++ BitVec.ofBool m.mpv ++ BitVec.ofBool m.gva ++ BitVec.ofBool m.mbe ++ BitVec.ofBool m.sbe
    ++ 0#4

/-- The word of an environment configuration register. -/
def envcfgWord (cfg : Cfg) (fiom : Bool) (cbie : Cbie) (cbcfe : Bool) : Word cfg :=
  let word : Word cfg := (BitVec.ofBool fiom).setWidth cfg.xlen
  if cfg.rvziCbom then
    word ||| (cbie.bits.setWidth cfg.xlen <<< 4) ||| ((BitVec.ofBool cbcfe).setWidth cfg.xlen <<< 6)
  else word

/-- The bytes of the entries from `base` on. -/
def Pmp.word (pmp : Pmp cfg) (base : Nat) : Word cfg :=
  (List.range (cfg.xlen / 8)).foldl
    (fun word k => word ||| ((pmp.pmpcfg (base + k)).toByte.setWidth cfg.xlen <<< (8 * k))) 0

/-- The address register as read: the last bit follows the mode of the entry. -/
def Pmp.addressWord (pmp : Pmp cfg) (index : Nat) : Word cfg :=
  let granular := (pmp.pmpcfg index).addrMode.bits.getLsbD 1
  (((pmp.pmpaddr index >>> 1) <<< 1) ||| (BitVec.ofBool granular).setWidth _).setWidth cfg.xlen

/-! ## The read process -/

/-- `csr_rdata` with the exceptions of the read. -/
structure ReadResult (cfg : Cfg) where
  data : Word cfg
  accessException : Bool
  virtualAccessException : Bool

namespace ReadResult

/-- A read that succeeds. -/
def value (data : Word cfg) : ReadResult cfg := ⟨data, false, false⟩

/-- A read of a register that is not there. -/
def absent : ReadResult cfg := ⟨0, true, false⟩

/-- A read that the guest has to trap. -/
def virtual : ReadResult cfg := ⟨0, false, true⟩

/-- The register is there under a condition. -/
def within (present : Bool) (data : Word cfg) : ReadResult cfg :=
  if present then value data else absent

end ReadResult

open ReadResult

section Read

variable (s : State cfg) (i : Input cfg)

/-- A supervisor may not touch `satp` under `TVM`. -/
def trapsSatp : Bool := s.privLvlO = .s && s.mstatus.tvm

/-- A virtual supervisor may not touch `vsatp` under `VTVM`. -/
def trapsVsatp : Bool := s.privLvlO = .s && s.hstatus.vtvm && s.v

/-- A supervisor outside of a guest may not touch `hgatp` under `TVM`. -/
def trapsHgatp : Bool := s.privLvlO = .s && !s.v && s.mstatus.tvm

/-- The interrupts that `sie` and `sip` show. -/
def supervisorMask : Word cfg :=
  if cfg.rvh then s.machine.mideleg &&& ~~~hsDelegInterrupts cfg else s.machine.mideleg

/-- A word of 32 bits. -/
def narrow (cfg : Cfg) (word : BitVec 32) : Word cfg := word.setWidth cfg.xlen

/-- The cases of `csr_read_process`. -/
def readReg : Reg → ReadResult cfg
  | .fflags => within (cfg.fpPresent && !s.fpOff) (s.fcsr.fflags.setWidth _)
  | .frm => within (cfg.fpPresent && !s.fpOff) (s.fcsr.frm.setWidth _)
  | .fcsr => within (cfg.fpPresent && !s.fpOff) ((s.fcsr.frm ++ s.fcsr.fflags).setWidth _)
  | .jvt => within cfg.rvzcmt ((s.jvtBase ++ s.jvtMode).setWidth _)
  | .ftran => within (cfg.fpPresent && !s.fpOff) (s.fcsr.fprec.setWidth _)
  | .dcsr => within cfg.debugEn (narrow cfg s.debug.dcsr.toWord)
  | .dpc => within cfg.debugEn s.debug.dpc
  | .dscratch0 => within cfg.debugEn s.debug.dscratch0
  | .dscratch1 => within cfg.debugEn s.debug.dscratch1
  | .tselect => within cfg.sdtrig i.tselectFromTm
  | .tdata1 => within cfg.sdtrig i.tdata1FromTm
  | .tdata2 => within cfg.sdtrig i.tdata2FromTm
  | .tdata3 => within cfg.sdtrig i.tdata3FromTm
  | .tinfo => within cfg.sdtrig (narrow cfg 0x01008078)
  | .scontext => within cfg.sdtrig s.scontext
  | .vsstatus => within cfg.rvh (s.vsstatus.extended cfg)
  | .vsie =>
    within cfg.rvh ((s.machine.mie &&& vsDelegInterrupts cfg &&& s.hypervisor.hideleg) >>> 1)
  | .vsip =>
    within cfg.rvh ((s.machine.mip &&& vsDelegInterrupts cfg &&& s.hypervisor.hideleg) >>> 1)
  | .vstvec => within cfg.rvh s.virtualSupervisor.vstvec
  | .vsscratch => within cfg.rvh s.virtualSupervisor.vsscratch
  | .vsepc => within cfg.rvh s.virtualSupervisor.vsepc
  | .vscause => within cfg.rvh s.virtualSupervisor.vscause
  | .vstval => within cfg.rvh s.virtualSupervisor.vstval
  | .vsatp =>
    if !cfg.rvh then absent
    else if trapsVsatp s then virtual else value s.virtualSupervisor.vsatp.toWord
  | .sstatus =>
    within cfg.rvs (s.mstatus.extended cfg &&& (smodeStatusReadMask cfg).setWidth cfg.xlen)
  | .sie => within cfg.rvs (s.machine.mie &&& supervisorMask s)
  | .sip => within cfg.rvs (s.machine.mip &&& supervisorMask s)
  | .stvec => within cfg.rvs s.supervisor.stvec
  | .scounteren => within cfg.rvs s.supervisor.scounteren
  | .sscratch => within cfg.rvs s.supervisor.sscratch
  | .sepc => within cfg.rvs s.supervisor.sepc
  | .scause => within cfg.rvs s.supervisor.scause
  | .stval => within cfg.rvs s.supervisor.stval
  | .satp => within (cfg.rvs && !trapsSatp s) s.supervisor.satp.toWord
  | .senvcfg =>
    within cfg.rvs (envcfgWord cfg s.environment.fiom s.environment.scbie s.environment.scbcfe)
  | .hstatus => within cfg.rvh (s.hstatus.toWord.setWidth cfg.xlen)
  | .hedeleg => within cfg.rvh s.hypervisor.hedeleg
  | .hideleg => within cfg.rvh s.hypervisor.hideleg
  | .hie => within cfg.rvh (s.machine.mie &&& hsDelegInterrupts cfg)
  | .hip => within cfg.rvh (s.machine.mip &&& hsDelegInterrupts cfg)
  | .hvip => within cfg.rvh (s.machine.mip &&& vsDelegInterrupts cfg)
  | .hcounteren => within cfg.rvh s.hypervisor.hcounteren
  | .htval => within cfg.rvh s.hypervisor.htval
  | .htinst => within cfg.rvh s.hypervisor.htinst
  | .hgeie => within cfg.rvh 0
  | .hgeip => within cfg.rvh 0
  | .henvcfg =>
    within cfg.rvh (envcfgWord cfg s.environment.fiom s.environment.hcbie s.environment.hcbcfe)
  | .hgatp => within (cfg.rvh && !trapsHgatp s) s.hypervisor.hgatp.toWord
  | .mstatus => value (s.mstatus.extended cfg)
  | .mstatush => within (!cfg.isXlen64) (narrow cfg s.mstatus.high)
  | .misa => value (BitVec.ofNat _ cfg.isaCode)
  | .medeleg => within cfg.rvs s.machine.medeleg
  | .mideleg => within cfg.rvs s.machine.mideleg
  | .mie => value s.machine.mie
  | .mtvec => value s.machine.mtvec
  | .mcounteren => within cfg.rvu s.machine.mcounteren
  | .mscratch => value s.machine.mscratch
  | .mepc => value s.machine.mepc
  | .mcause => value s.machine.mcause
  | .mtval => value (if cfg.tvalEn then s.machine.mtval else 0)
  | .mtinst => within cfg.rvh s.machine.mtinst
  | .mtval2 => within cfg.rvh s.machine.mtval2
  | .mip => value s.machine.mip
  | .menvcfg =>
    within (cfg.rvu || cfg.rvziCbom)
      (envcfgWord cfg (cfg.rvu && s.environment.fiom) s.environment.mcbie s.environment.mcbcfe)
  | .menvcfgh => within (cfg.rvu && !cfg.isXlen64) 0
  | .mvendorid => value (narrow cfg 0x0602)
  | .marchid => value (narrow cfg 3)
  | .mimpid => value (narrow cfg 0)
  | .mhartid => value i.hartId
  | .mconfigptr => value 0
  | .mcountinhibit => value (narrow cfg s.counters.mcountinhibit)
  | .mcycle => value (s.counters.cycle.setWidth _)
  | .mcycleh => within (!cfg.isXlen64) (narrow cfg (s.counters.cycle.extractLsb' 32 32))
  | .minstret => value (s.counters.instret.setWidth _)
  | .minstreth => within (!cfg.isXlen64) (narrow cfg (s.counters.instret.extractLsb' 32 32))
  | .cycle => within cfg.rvzicntr (s.counters.cycle.setWidth _)
  | .cycleh =>
    within (cfg.rvzicntr && !cfg.isXlen64) (narrow cfg (s.counters.cycle.extractLsb' 32 32))
  | .instret => within cfg.rvzicntr (s.counters.instret.setWidth _)
  | .instreth =>
    within (cfg.rvzicntr && !cfg.isXlen64) (narrow cfg (s.counters.instret.extractLsb' 32 32))
  | .mhpmEvent => value i.perfData
  | .mhpmCounter => value i.perfData
  | .mhpmCounterH => within (!cfg.isXlen64) i.perfData
  | .hpmCounter => within cfg.rvzihpm i.perfData
  | .hpmCounterH => within (cfg.rvzihpm && !cfg.isXlen64) i.perfData
  | .dcache => value s.environment.dcache
  | .icache => value s.environment.icache
  | .accCons => within cfg.enableAccelerator s.environment.accCons
  | .pmpcfg index =>
    within (!(cfg.isXlen64 && index % 2 = 1)) (s.pmp.word (index * 4))
  | .pmpaddr index => value (s.pmp.addressWord index)

/-- `csr_read_process`. -/
def readProcess : ReadResult cfg :=
  if csrRead s i then
    match Reg.ofAddress (convCsrAddr s i.csrAddr) with
    | some reg => readReg s i reg
    | none => absent
  else value 0

/-- `csr_wdata`. -/
def csrWdata : Word cfg :=
  match i.csrOp with
  | .csrSet => i.csrWdata ||| (readProcess s i).data
  | .csrClear => ~~~i.csrWdata &&& (readProcess s i).data
  | _ => i.csrWdata

end Read

end Cva6Hpd.Csr
