import Cva6Hpd.Ariane.Pkg

/-!
# Types of the control and status registers

The parameters of the register file, the packed words of the status registers with their
fields by name, and the state of all registers. A packed word is a structure with the
conversions from and to its bits; the writes under a mask go through the bits.
-/

namespace Cva6Hpd.Csr

/-! ## Parameters -/

/-- The parameters that the register file reads; `isaCode` is the value of `MISA`,
`zeroTval` is `ZERO_TVAL`, and `debugVector` is `DmBaseAddress + ExceptionAddress`. -/
structure Cfg where
  isXlen64 : Bool
  vlen : Nat
  rvs : Bool
  rvu : Bool
  rvh : Bool
  rvf : Bool
  rvv : Bool
  rvzcmt : Bool
  rvziCbom : Bool
  rvzihpm : Bool
  rvzicntr : Bool
  fpPresent : Bool
  debugEn : Bool
  sdtrig : Bool
  tvalEn : Bool
  perfCounterEn : Bool
  softwareInterruptEn : Bool
  enableAccelerator : Bool
  directVecOnly : Bool
  mmuPresent : Bool
  zeroTval : Bool
  isaCode : Nat
  debugVector : Nat
  mhpmCounterNum : Nat
  nrPmpEntries : Nat
  pmpEntryReadOnly : Nat → Bool
  pmpNapotEn : Bool
  vlen_pos : 0 < vlen
  vlen_le : vlen ≤ if isXlen64 then 64 else 32

namespace Cfg

variable (cfg : Cfg)

def xlen : Nat := if cfg.isXlen64 then 64 else 32

def plen : Nat := if cfg.isXlen64 then 56 else 34

def gplen : Nat := if cfg.isXlen64 then 41 else 34

def modeW : Nat := if cfg.isXlen64 then 4 else 1

def asidW : Nat := if cfg.isXlen64 then 16 else 9

def vmidW : Nat := if cfg.isXlen64 then 14 else 7

def ppnw : Nat := if cfg.isXlen64 then 44 else 22

def asidWidth : Nat := if cfg.isXlen64 then 16 else 1

def vmidWidth : Nat := if cfg.isXlen64 then 14 else 1

/-- `MODE_SV`, the mode of the translation in `satp`. -/
def modeSv : Nat := if cfg.isXlen64 then 8 else 1

theorem vlen_le_xlen : cfg.vlen ≤ cfg.xlen := cfg.vlen_le

/-- A 64-bit core with supervisor and user mode and a debug module. -/
def sv39 : Cfg where
  isXlen64 := true
  vlen := 64
  rvs := true
  rvu := true
  rvh := false
  rvf := true
  rvv := false
  rvzcmt := false
  rvziCbom := false
  rvzihpm := true
  rvzicntr := true
  fpPresent := true
  debugEn := true
  sdtrig := false
  tvalEn := true
  perfCounterEn := true
  softwareInterruptEn := true
  enableAccelerator := false
  directVecOnly := false
  mmuPresent := true
  zeroTval := false
  isaCode := 0x800000000014112D
  debugVector := 0x808
  mhpmCounterNum := 6
  nrPmpEntries := 8
  pmpEntryReadOnly := fun _ => false
  pmpNapotEn := true
  vlen_pos := by decide
  vlen_le := by decide

/-- The same core with the hypervisor extension. -/
def hypervisor : Cfg := { sv39 with rvh := true }

end Cfg

/-- A word of `XLEN` bits. -/
abbrev Word (cfg : Cfg) : Type := BitVec cfg.xlen

/-! ## Enumerations -/

/-- `priv_lvl_t`. -/
inductive PrivLvl where
  | u | s | hs | m
deriving DecidableEq, Repr

namespace PrivLvl

def bits : PrivLvl → BitVec 2
  | u => 0
  | s => 1
  | hs => 2
  | m => 3

def ofBits (bits : BitVec 2) : PrivLvl :=
  if bits = 0 then u else if bits = 1 then s else if bits = 2 then hs else m

/-- The place of the level in the order of the encodings. -/
def rank (level : PrivLvl) : Nat := level.bits.toNat

/-- `priv_lvl_q[0]`, which the trap stack of the supervisor keeps of the level. -/
def low (level : PrivLvl) : Bool := level.bits.getLsbD 0

/-- `{1'b0, spp}`. -/
def ofLow (bit : Bool) : PrivLvl := if bit then s else u

@[simp]
theorem ofBits_bits (level : PrivLvl) : ofBits level.bits = level := by
  cases level <;> rfl

theorem rank_le_m (level : PrivLvl) : level.rank ≤ m.rank := by
  cases level <;> decide

end PrivLvl

/-- `xs_t`, the state of an extension. -/
inductive Xs where
  | off | initial | clean | dirty
deriving DecidableEq, Repr

namespace Xs

def bits : Xs → BitVec 2
  | off => 0
  | initial => 1
  | clean => 2
  | dirty => 3

def ofBits (bits : BitVec 2) : Xs :=
  if bits = 0 then off else if bits = 1 then initial else if bits = 2 then clean else dirty

@[simp]
theorem ofBits_bits (state : Xs) : ofBits state.bits = state := by
  cases state <;> rfl

end Xs

/-- `cbie_t`. -/
inductive Cbie where
  | illegal | flush | rsvd | inval
deriving DecidableEq, Repr

namespace Cbie

def bits : Cbie → BitVec 2
  | illegal => 0
  | flush => 1
  | rsvd => 2
  | inval => 3

/-- The case of the writes on bits 5 and 4 of the word. -/
def ofBits (bits : BitVec 2) : Cbie :=
  if bits = 0 then illegal else if bits = 1 then flush else if bits = 3 then inval else rsvd

end Cbie

/-- `pmp_addr_mode_t`. -/
inductive PmpAddrMode where
  | off | tor | na4 | napot
deriving DecidableEq, Repr

namespace PmpAddrMode

def bits : PmpAddrMode → BitVec 2
  | off => 0
  | tor => 1
  | na4 => 2
  | napot => 3

def ofBits (bits : BitVec 2) : PmpAddrMode :=
  if bits = 0 then off else if bits = 1 then tor else if bits = 2 then na4 else napot

end PmpAddrMode

/-! ## Status words -/

/-- `mstatus_rv_t`. -/
structure Mstatus where
  sd : Bool
  wpri4 : BitVec 23
  mpv : Bool
  gva : Bool
  mbe : Bool
  sbe : Bool
  sxl : BitVec 2
  uxl : BitVec 2
  wpri3 : BitVec 9
  tsr : Bool
  tw : Bool
  tvm : Bool
  mxr : Bool
  sum : Bool
  mprv : Bool
  xs : Xs
  fs : Xs
  mpp : PrivLvl
  vs : Xs
  spp : Bool
  mpie : Bool
  ube : Bool
  spie : Bool
  wpri2 : Bool
  mie : Bool
  wpri1 : Bool
  sie : Bool
  wpri0 : Bool
deriving DecidableEq

namespace Mstatus

def ofWord (w : BitVec 64) : Mstatus where
  sd := w.getLsbD 63
  wpri4 := w.extractLsb' 40 23
  mpv := w.getLsbD 39
  gva := w.getLsbD 38
  mbe := w.getLsbD 37
  sbe := w.getLsbD 36
  sxl := w.extractLsb' 34 2
  uxl := w.extractLsb' 32 2
  wpri3 := w.extractLsb' 23 9
  tsr := w.getLsbD 22
  tw := w.getLsbD 21
  tvm := w.getLsbD 20
  mxr := w.getLsbD 19
  sum := w.getLsbD 18
  mprv := w.getLsbD 17
  xs := Xs.ofBits (w.extractLsb' 15 2)
  fs := Xs.ofBits (w.extractLsb' 13 2)
  mpp := PrivLvl.ofBits (w.extractLsb' 11 2)
  vs := Xs.ofBits (w.extractLsb' 9 2)
  spp := w.getLsbD 8
  mpie := w.getLsbD 7
  ube := w.getLsbD 6
  spie := w.getLsbD 5
  wpri2 := w.getLsbD 4
  mie := w.getLsbD 3
  wpri1 := w.getLsbD 2
  sie := w.getLsbD 1
  wpri0 := w.getLsbD 0

/-- The fields from the most significant one down. -/
def toWord (m : Mstatus) : BitVec 64 :=
  BitVec.ofBool m.sd ++ m.wpri4 ++ BitVec.ofBool m.mpv ++ BitVec.ofBool m.gva
    ++ BitVec.ofBool m.mbe ++ BitVec.ofBool m.sbe ++ m.sxl ++ m.uxl ++ m.wpri3
    ++ BitVec.ofBool m.tsr ++ BitVec.ofBool m.tw ++ BitVec.ofBool m.tvm ++ BitVec.ofBool m.mxr
    ++ BitVec.ofBool m.sum ++ BitVec.ofBool m.mprv ++ m.xs.bits ++ m.fs.bits ++ m.mpp.bits
    ++ m.vs.bits ++ BitVec.ofBool m.spp ++ BitVec.ofBool m.mpie ++ BitVec.ofBool m.ube
    ++ BitVec.ofBool m.spie ++ BitVec.ofBool m.wpri2 ++ BitVec.ofBool m.mie
    ++ BitVec.ofBool m.wpri1 ++ BitVec.ofBool m.sie ++ BitVec.ofBool m.wpri0

/-- `(m & ~mask) | (w & mask)`. -/
def masked (m : Mstatus) (mask w : BitVec 64) : Mstatus :=
  ofWord ((m.toWord &&& ~~~mask) ||| (w &&& mask))

end Mstatus

/-- `hstatus_rv_t`. -/
structure Hstatus where
  wpri4 : BitVec 30
  vsxl : BitVec 2
  wpri3 : BitVec 9
  vtsr : Bool
  vtw : Bool
  vtvm : Bool
  wpri2 : BitVec 2
  vgein : BitVec 6
  wpri1 : BitVec 2
  hu : Bool
  spvp : Bool
  spv : Bool
  gva : Bool
  vsbe : Bool
  wpri0 : BitVec 5
deriving DecidableEq

namespace Hstatus

def ofWord (w : BitVec 64) : Hstatus where
  wpri4 := w.extractLsb' 34 30
  vsxl := w.extractLsb' 32 2
  wpri3 := w.extractLsb' 23 9
  vtsr := w.getLsbD 22
  vtw := w.getLsbD 21
  vtvm := w.getLsbD 20
  wpri2 := w.extractLsb' 18 2
  vgein := w.extractLsb' 12 6
  wpri1 := w.extractLsb' 10 2
  hu := w.getLsbD 9
  spvp := w.getLsbD 8
  spv := w.getLsbD 7
  gva := w.getLsbD 6
  vsbe := w.getLsbD 5
  wpri0 := w.extractLsb' 0 5

def toWord (h : Hstatus) : BitVec 64 :=
  h.wpri4 ++ h.vsxl ++ h.wpri3 ++ BitVec.ofBool h.vtsr ++ BitVec.ofBool h.vtw
    ++ BitVec.ofBool h.vtvm ++ h.wpri2 ++ h.vgein ++ h.wpri1 ++ BitVec.ofBool h.hu
    ++ BitVec.ofBool h.spvp ++ BitVec.ofBool h.spv ++ BitVec.ofBool h.gva
    ++ BitVec.ofBool h.vsbe ++ h.wpri0

/-- `(h & ~mask) | (w & mask)`. -/
def masked (h : Hstatus) (mask w : BitVec 64) : Hstatus :=
  ofWord ((h.toWord &&& ~~~mask) ||| (w &&& mask))

end Hstatus

/-- `dcsr_t`. -/
structure Dcsr where
  xdebugver : BitVec 4
  zero2 : BitVec 10
  ebreakvs : Bool
  ebreakvu : Bool
  ebreakm : Bool
  zero1 : Bool
  ebreaks : Bool
  ebreaku : Bool
  stepie : Bool
  stopcount : Bool
  stoptime : Bool
  cause : BitVec 3
  v : Bool
  mprven : Bool
  nmip : Bool
  step : Bool
  prv : PrivLvl
deriving DecidableEq

namespace Dcsr

def ofWord (w : BitVec 32) : Dcsr where
  xdebugver := w.extractLsb' 28 4
  zero2 := w.extractLsb' 18 10
  ebreakvs := w.getLsbD 17
  ebreakvu := w.getLsbD 16
  ebreakm := w.getLsbD 15
  zero1 := w.getLsbD 14
  ebreaks := w.getLsbD 13
  ebreaku := w.getLsbD 12
  stepie := w.getLsbD 11
  stopcount := w.getLsbD 10
  stoptime := w.getLsbD 9
  cause := w.extractLsb' 6 3
  v := w.getLsbD 5
  mprven := w.getLsbD 4
  nmip := w.getLsbD 3
  step := w.getLsbD 2
  prv := PrivLvl.ofBits (w.extractLsb' 0 2)

def toWord (d : Dcsr) : BitVec 32 :=
  d.xdebugver ++ d.zero2 ++ BitVec.ofBool d.ebreakvs ++ BitVec.ofBool d.ebreakvu
    ++ BitVec.ofBool d.ebreakm ++ BitVec.ofBool d.zero1 ++ BitVec.ofBool d.ebreaks
    ++ BitVec.ofBool d.ebreaku ++ BitVec.ofBool d.stepie ++ BitVec.ofBool d.stopcount
    ++ BitVec.ofBool d.stoptime ++ d.cause ++ BitVec.ofBool d.v ++ BitVec.ofBool d.mprven
    ++ BitVec.ofBool d.nmip ++ BitVec.ofBool d.step ++ d.prv.bits

end Dcsr

/-- `fcsr_t`. -/
structure Fcsr where
  reserved : BitVec 17
  fprec : BitVec 7
  frm : BitVec 3
  fflags : BitVec 5
deriving DecidableEq

/-- `satp_t`. -/
structure Satp (cfg : Cfg) where
  mode : BitVec cfg.modeW
  asid : BitVec cfg.asidW
  ppn : BitVec cfg.ppnw
deriving DecidableEq

namespace Satp

variable {cfg : Cfg}

/-- `satp_t'(w)`. -/
def ofWord (w : Word cfg) : Satp cfg where
  mode := w.extractLsb' (cfg.ppnw + cfg.asidW) cfg.modeW
  asid := w.extractLsb' cfg.ppnw cfg.asidW
  ppn := w.extractLsb' 0 cfg.ppnw

def toWord (satp : Satp cfg) : Word cfg := (satp.mode ++ satp.asid ++ satp.ppn).setWidth cfg.xlen

/-- The translation of `MODE_SV` is on. -/
def translates (satp : Satp cfg) : Bool := satp.mode.toNat = cfg.modeSv

/-- The mode is one that the core supports. -/
def supported (satp : Satp cfg) : Bool := satp.mode.toNat = 0 || satp.mode.toNat = cfg.modeSv

end Satp

/-- `hgatp_t`. -/
structure Hgatp (cfg : Cfg) where
  mode : BitVec cfg.modeW
  warl0 : BitVec 2
  vmid : BitVec cfg.vmidW
  ppn : BitVec cfg.ppnw
deriving DecidableEq

namespace Hgatp

variable {cfg : Cfg}

/-- `hgatp_t'(w)`. -/
def ofWord (w : Word cfg) : Hgatp cfg where
  mode := w.extractLsb' (cfg.ppnw + cfg.vmidW + 2) cfg.modeW
  warl0 := w.extractLsb' (cfg.ppnw + cfg.vmidW) 2
  vmid := w.extractLsb' cfg.ppnw cfg.vmidW
  ppn := w.extractLsb' 0 cfg.ppnw

def toWord (hgatp : Hgatp cfg) : Word cfg :=
  (hgatp.mode ++ hgatp.warl0 ++ hgatp.vmid ++ hgatp.ppn).setWidth cfg.xlen

def translates (hgatp : Hgatp cfg) : Bool := hgatp.mode.toNat = cfg.modeSv

def supported (hgatp : Hgatp cfg) : Bool :=
  hgatp.mode.toNat = 0 || hgatp.mode.toNat = cfg.modeSv

end Hgatp

/-- `pmpcfg_t`. -/
structure PmpCfg where
  locked : Bool
  reserved : BitVec 2
  addrMode : PmpAddrMode
  x : Bool
  w : Bool
  r : Bool
deriving DecidableEq

namespace PmpCfg

def ofByte (b : BitVec 8) : PmpCfg where
  locked := b.getLsbD 7
  reserved := b.extractLsb' 5 2
  addrMode := PmpAddrMode.ofBits (b.extractLsb' 3 2)
  x := b.getLsbD 2
  w := b.getLsbD 1
  r := b.getLsbD 0

def toByte (entry : PmpCfg) : BitVec 8 :=
  BitVec.ofBool entry.locked ++ entry.reserved ++ entry.addrMode.bits ++ BitVec.ofBool entry.x
    ++ BitVec.ofBool entry.w ++ BitVec.ofBool entry.r

end PmpCfg

/-! ## Registers -/

/-- The registers of machine mode. -/
structure Machine (cfg : Cfg) where
  mtvec : Word cfg
  medeleg : Word cfg
  mideleg : Word cfg
  mip : Word cfg
  mie : Word cfg
  mcounteren : Word cfg
  mscratch : Word cfg
  mepc : Word cfg
  mcause : Word cfg
  mtval : Word cfg
  mtinst : Word cfg
  mtval2 : Word cfg

/-- The registers of supervisor mode. -/
structure Supervisor (cfg : Cfg) where
  stvec : Word cfg
  scounteren : Word cfg
  sscratch : Word cfg
  sepc : Word cfg
  scause : Word cfg
  stval : Word cfg
  satp : Satp cfg

/-- The registers of the hypervisor. -/
structure Hypervisor (cfg : Cfg) where
  hedeleg : Word cfg
  hideleg : Word cfg
  hcounteren : Word cfg
  hgeie : Word cfg
  htinst : Word cfg
  htval : Word cfg
  hgatp : Hgatp cfg

/-- The registers of virtual supervisor mode. -/
structure VirtualSupervisor (cfg : Cfg) where
  vstvec : Word cfg
  vsscratch : Word cfg
  vsepc : Word cfg
  vscause : Word cfg
  vstval : Word cfg
  vsatp : Satp cfg

/-- The registers of the debug mode. -/
structure Debug (cfg : Cfg) where
  dcsr : Dcsr
  dpc : Word cfg
  dscratch0 : Word cfg
  dscratch1 : Word cfg

/-- The counters. -/
structure Counters where
  cycle : BitVec 64
  instret : BitVec 64
  mcountinhibit : BitVec 32

/-- The registers of the environment: the cache-block instructions, the caches and the
accelerator. -/
structure Environment (cfg : Cfg) where
  fiom : Bool
  mcbie : Cbie
  scbie : Cbie
  hcbie : Cbie
  mcbcfe : Bool
  scbcfe : Bool
  hcbcfe : Bool
  dcache : Word cfg
  icache : Word cfg
  accCons : Word cfg

/-- The registers of the physical memory protection; the entries from 64 on do not exist. -/
structure Pmp (cfg : Cfg) where
  pmpcfg : Nat → PmpCfg
  pmpaddr : Nat → BitVec (cfg.plen - 2)

/-- The state of the register file. -/
structure State (cfg : Cfg) where
  privLvl : PrivLvl
  v : Bool
  debugMode : Bool
  mstatus : Mstatus
  hstatus : Hstatus
  vsstatus : Mstatus
  machine : Machine cfg
  supervisor : Supervisor cfg
  hypervisor : Hypervisor cfg
  virtualSupervisor : VirtualSupervisor cfg
  debug : Debug cfg
  counters : Counters
  environment : Environment cfg
  pmp : Pmp cfg
  fcsr : Fcsr
  jvtBase : BitVec (cfg.xlen - 6)
  jvtMode : BitVec 6
  scontext : Word cfg
  mtvecRstLoad : Bool
  wfi : Bool
  enLdStTranslation : Bool
  enLdStGTranslation : Bool

namespace State

variable {cfg : Cfg} (s : State cfg)

/-- The hart is in debug mode. -/
def inDebug : Bool := cfg.debugEn && s.debugMode

/-- `priv_lvl_o`: debug mode executes at machine level. -/
def privLvlO : PrivLvl := if s.inDebug then .m else s.privLvl

/-- `mprv`, which counts in debug mode only with `mprven`. -/
def mprv : Bool := if s.inDebug && !s.debug.dcsr.mprven then false else s.mstatus.mprv

/-- The floating point registers are off. -/
def fpOff : Bool := s.mstatus.fs = .off || (cfg.rvh && s.v && s.vsstatus.fs = .off)

end State

end Cva6Hpd.Csr
