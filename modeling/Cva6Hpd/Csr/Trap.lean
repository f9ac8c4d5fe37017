import Cva6Hpd.Csr.Write

/-!
# Traps

"Manage Exception Stack": where an exception or an interrupt goes, what the trap pushes on
the stack of the handler's mode, and the address of the handler. Each mode has a stack of one
entry: `mstatus` and `mepc`, `mstatus`, `hstatus` and `sepc`, `vsstatus` and `vsepc`.
-/

namespace Cva6Hpd.Csr

variable {cfg : Cfg}

/-! ## Causes -/

namespace Cause

def instrAddrMisaligned : Nat := 0
def instrAccessFault : Nat := 1
def illegalInstr : Nat := 2
def breakpoint : Nat := 3
def envCallUmode : Nat := 8
def envCallSmode : Nat := 9
def envCallMmode : Nat := 11
def instrPageFault : Nat := 12
def instrGuestPageFault : Nat := 20
def virtualInstruction : Nat := 22
def debugRequest : Nat := 24

end Cause

namespace Exception

variable (ex : Exception cfg)

/-- `cause[XLEN-1]`. -/
def isInterrupt : Bool := ex.cause.getLsbD (cfg.xlen - 1)

/-- The cause is a given exception. -/
def hasCause (cause : Nat) : Bool := ex.cause = BitVec.ofNat cfg.xlen cause

/-- The cause is one of a set. -/
def causeIn (causes : List Nat) : Bool := causes.any ex.hasCause

/-- The bit of the cause in a delegation register. -/
def selects (word : Word cfg) : Bool := word.getLsbD (ex.cause.toNat % cfg.xlen)

/-- The bit in the register for interrupts or in the one for exceptions. -/
def delegatedBy (interrupts exceptions : Word cfg) : Bool :=
  (ex.isInterrupt && ex.selects interrupts) || (!ex.isInterrupt && ex.selects exceptions)

end Exception

/-! ## The handler's mode -/

/-- The handlers: machine mode, the supervisor (`HS` with the hypervisor extension), and the
virtual supervisor. -/
inductive Handler where
  | machine | supervisor | virtual
deriving DecidableEq, Repr

namespace Handler

/-- `trap_to_priv_lvl`. -/
def privLvl : Handler → PrivLvl
  | machine => .m
  | supervisor => .s
  | virtual => .s

end Handler

section Trap

variable (s : State cfg) (i : Input cfg)

/-- The condition of the branch: outside of the debug mode, and not for a debug request. -/
def takesTrap : Bool :=
  (cfg.debugEn && !s.debugMode && !i.ex.hasCause Cause.debugRequest && i.ex.valid)
    || (!cfg.debugEn && i.ex.valid)
    || (!cfg.debugEn && cfg.sdtrig && i.breakFromTrigger)

/-- The trap is delegated by machine mode. -/
def delegated : Bool := cfg.rvs && i.ex.delegatedBy s.machine.mideleg s.machine.medeleg

/-- `trap_to_priv_lvl` in the branch. -/
def trapToPrivLvl : PrivLvl :=
  if delegated s i then if s.privLvlO = .m then .m else .s else .m

/-- `trap_to_v` in the branch. -/
def trapToV : Bool :=
  delegated s i && cfg.rvh && i.ex.delegatedBy s.hypervisor.hideleg s.hypervisor.hedeleg && s.v

/-- The stack that the branch pushes on. -/
def handler : Handler :=
  if cfg.rvs && trapToPrivLvl s i = .s then
    if cfg.rvh && trapToV s i then .virtual else .supervisor
  else .machine

/-! ## The stacks -/

/-- `{{XLEN-VLEN{pc[VLEN-1]}}, pc}`. -/
def signExtended (cfg : Cfg) (pc : BitVec cfg.vlen) : Word cfg := pc.signExtend cfg.xlen

/-- The value of a register that `ZERO_TVAL` clears for some causes. -/
def orZero (causes : List Nat) (clears : Bool) (value : Word cfg) : Word cfg :=
  if cfg.zeroTval && (i.ex.causeIn causes || clears) then 0 else value

/-- The causes without a value for any supervisor. -/
def plainCauses : List Nat := [Cause.illegalInstr, Cause.breakpoint, Cause.envCallUmode]

/-- The causes without a value. -/
def silentCauses : List Nat := plainCauses ++ [Cause.envCallSmode, Cause.envCallMmode]

/-- The causes without a transformed instruction. -/
def untransformedCauses : List Nat :=
  [Cause.instrAccessFault] ++ silentCauses
    ++ [Cause.instrPageFault, Cause.instrGuestPageFault, Cause.virtualInstruction]

/-- `{..., ex_i.tval2[GPLEN-1:2]}`. -/
def guestAddress : Word cfg := (i.ex.tval2 >>> 2).setWidth cfg.xlen

/-- `vscause`: an interrupt of the virtual supervisor looks like one of the supervisor. -/
def virtualCause : Word cfg :=
  if i.ex.isInterrupt then withLowBits 2 i.ex.cause 1 else i.ex.cause

/-- The trap to the virtual supervisor. -/
def pushVirtual (d : State cfg) : State cfg :=
  { d with
    vsstatus := { d.vsstatus with sie := false, spie := s.vsstatus.sie, spp := s.privLvl.low }
    virtualSupervisor :=
      { d.virtualSupervisor with
        vscause := virtualCause i
        vsepc := signExtended cfg i.pc
        vstval := orZero i plainCauses i.ex.isInterrupt i.ex.tval } }

/-- `hstatus` after a trap to the supervisor. -/
def pushedHstatus (d : State cfg) : Hstatus :=
  { d.hstatus with
    spvp := if s.v then s.privLvl.low else d.hstatus.spvp
    gva := i.ex.gva
    spv := s.v }

/-- The trap to the supervisor. -/
def pushSupervisor (d : State cfg) : State cfg :=
  { d with
    mstatus := { d.mstatus with sie := false, spie := s.mstatus.sie, spp := s.privLvl.low }
    supervisor :=
      { d.supervisor with
        scause := i.ex.cause
        sepc := signExtended cfg i.pc
        stval :=
          if cfg.tvalEn then orZero i silentCauses i.ex.isInterrupt i.ex.tval
          else d.supervisor.stval }
    hstatus := if cfg.rvh then pushedHstatus s i d else d.hstatus
    hypervisor :=
      if cfg.rvh then
        { d.hypervisor with
          htinst :=
            orZero i untransformedCauses i.ex.isInterrupt (i.ex.tinst.setWidth cfg.xlen)
          htval := guestAddress i }
      else d.hypervisor }

/-- `mstatus` after a trap to machine mode. -/
def pushedMstatus (d : State cfg) : Mstatus :=
  { d.mstatus with
    mie := false
    mpie := s.mstatus.mie
    mpp := s.privLvl
    mpv := if cfg.rvh then s.v else d.mstatus.mpv
    gva := if cfg.rvh then i.ex.gva else d.mstatus.gva }

/-- The trap to machine mode. -/
def pushMachine (d : State cfg) : State cfg :=
  { d with
    mstatus := pushedMstatus s i d
    machine :=
      { d.machine with
        mcause := if i.breakFromTrigger then 3 else i.ex.cause
        mepc := signExtended cfg i.pc
        mtval :=
          if cfg.tvalEn then
            orZero i silentCauses (i.ex.cause.getLsbD (cfg.gplen - 1)) i.ex.tval
          else d.machine.mtval
        mtinst :=
          if cfg.rvh then
            orZero i (Cause.instrAddrMisaligned :: untransformedCauses) i.ex.isInterrupt
              (i.ex.tinst.setWidth cfg.xlen)
          else d.machine.mtinst
        mtval2 := if cfg.rvh then guestAddress i else d.machine.mtval2 } }

/-- The push on the stack of a handler. -/
def push (h : Handler) (d : State cfg) : State cfg :=
  match h with
  | .virtual => pushVirtual s i d
  | .supervisor => pushSupervisor s i d
  | .machine => pushMachine s i d

/-- The branch of the trap. -/
def trap (d : State cfg) : State cfg :=
  if takesTrap s i then
    { push s i (handler s i) d with
      privLvl := trapToPrivLvl s i
      v := if cfg.rvh then trapToV s i else d.v }
  else d

/-! ## The address of the handler -/

/-- `trap_vector_base_o`; without a trap it is the base of machine mode. -/
def trapVectorBase : BitVec cfg.vlen :=
  let level := if takesTrap s i then trapToPrivLvl s i else .m
  let virtual := takesTrap s i && trapToV s i
  let aligned (word : Word cfg) : BitVec cfg.vlen := ((word.setWidth cfg.vlen) >>> 2) <<< 2
  let vectored (base : BitVec cfg.vlen) (number : BitVec 6) : BitVec cfg.vlen :=
    (base &&& ~~~BitVec.ofNat cfg.vlen 0xfc) ||| (number.setWidth cfg.vlen <<< 2)
  let base :=
    if s.inDebug then BitVec.ofNat cfg.vlen cfg.debugVector
    else if cfg.rvs && level = .s then
      if cfg.rvh && virtual then aligned s.virtualSupervisor.vstvec else aligned s.supervisor.stvec
    else aligned s.machine.mtvec
  let base :=
    if i.ex.isInterrupt
        && ((level = .m && !cfg.directVecOnly && s.machine.mtvec.getLsbD 0)
          || (cfg.rvs && level = .s && !virtual && s.supervisor.stvec.getLsbD 0)) then
      vectored base (i.ex.cause.extractLsb' 0 6)
    else base
  if i.ex.isInterrupt && cfg.rvh && level = .s && virtual
      && s.virtualSupervisor.vstvec.getLsbD 0 then
    vectored base (i.ex.cause.extractLsb' 2 4 ++ 1#2)
  else base

end Trap

end Cva6Hpd.Csr
