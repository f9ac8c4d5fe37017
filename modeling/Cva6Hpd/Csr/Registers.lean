import Cva6Hpd.Csr.Types
import Mathlib.Tactic.SplitIfs

/-!
# Addresses of the registers

The registers that the cases of the register file name, with their addresses. The counters
and the registers of the physical memory protection are families of one name each.
-/

namespace Cva6Hpd.Csr

/-- The registers by name; `pmpcfg` and `pmpaddr` carry the offset from the first address. -/
inductive Reg where
  | fflags | frm | fcsr | jvt | ftran
  | dcsr | dpc | dscratch0 | dscratch1
  | tselect | tdata1 | tdata2 | tdata3 | tinfo | scontext
  | vsstatus | vsie | vsip | vstvec | vsscratch | vsepc | vscause | vstval | vsatp
  | sstatus | sie | sip | stvec | scounteren | sscratch | sepc | scause | stval | satp | senvcfg
  | hstatus | hedeleg | hideleg | hie | hip | hvip | hcounteren | htval | htinst | hgeie | hgeip
  | henvcfg | hgatp
  | mstatus | mstatush | misa | medeleg | mideleg | mie | mtvec | mcounteren | mscratch | mepc
  | mcause | mtval | mtinst | mtval2 | mip | menvcfg | menvcfgh
  | mvendorid | marchid | mimpid | mhartid | mconfigptr | mcountinhibit
  | mcycle | mcycleh | minstret | minstreth | cycle | cycleh | instret | instreth
  | mhpmEvent | mhpmCounter | mhpmCounterH | hpmCounter | hpmCounterH
  | dcache | icache | accCons
  | pmpcfg (index : Nat) | pmpaddr (index : Nat)
deriving DecidableEq, Repr

/-- `csr_reg_t`, the registers that are not in a family. -/
def addresses : List (Nat × Reg) :=
  [(0x001, .fflags), (0x002, .frm), (0x003, .fcsr), (0x017, .jvt), (0x800, .ftran),
   (0x7b0, .dcsr), (0x7b1, .dpc), (0x7b2, .dscratch0), (0x7b3, .dscratch1),
   (0x7a0, .tselect), (0x7a1, .tdata1), (0x7a2, .tdata2), (0x7a3, .tdata3), (0x7a4, .tinfo),
   (0x5a8, .scontext),
   (0x200, .vsstatus), (0x204, .vsie), (0x205, .vstvec), (0x240, .vsscratch), (0x241, .vsepc),
   (0x242, .vscause), (0x243, .vstval), (0x244, .vsip), (0x280, .vsatp),
   (0x100, .sstatus), (0x104, .sie), (0x105, .stvec), (0x106, .scounteren), (0x10a, .senvcfg),
   (0x140, .sscratch), (0x141, .sepc), (0x142, .scause), (0x143, .stval), (0x144, .sip),
   (0x180, .satp),
   (0x600, .hstatus), (0x602, .hedeleg), (0x603, .hideleg), (0x604, .hie), (0x606, .hcounteren),
   (0x607, .hgeie), (0x643, .htval), (0x644, .hip), (0x645, .hvip), (0x64a, .htinst),
   (0xe12, .hgeip), (0x60a, .henvcfg), (0x680, .hgatp),
   (0x300, .mstatus), (0x301, .misa), (0x302, .medeleg), (0x303, .mideleg), (0x304, .mie),
   (0x305, .mtvec), (0x306, .mcounteren), (0x310, .mstatush), (0x320, .mcountinhibit),
   (0x340, .mscratch), (0x341, .mepc), (0x342, .mcause), (0x343, .mtval), (0x344, .mip),
   (0x34a, .mtinst), (0x34b, .mtval2), (0x30a, .menvcfg), (0x31a, .menvcfgh),
   (0xf11, .mvendorid), (0xf12, .marchid), (0xf13, .mimpid), (0xf14, .mhartid),
   (0xf15, .mconfigptr), (0xb00, .mcycle), (0xb80, .mcycleh), (0xb02, .minstret),
   (0xb82, .minstreth), (0xc00, .cycle), (0xc80, .cycleh), (0xc02, .instret),
   (0xc82, .instreth), (0x7c1, .dcache), (0x7c0, .icache), (0x7c2, .accCons)]

/-- The register at an address; `none` is the default case. -/
def Reg.ofAddress (address : BitVec 12) : Option Reg :=
  let a := address.toNat
  match addresses.lookup a with
  | some reg => some reg
  | none =>
    if 0x323 ≤ a && a ≤ 0x33f then some .mhpmEvent
    else if 0xb03 ≤ a && a ≤ 0xb1f then some .mhpmCounter
    else if 0xb83 ≤ a && a ≤ 0xb9f then some .mhpmCounterH
    else if 0xc03 ≤ a && a ≤ 0xc1f then some .hpmCounter
    else if 0xc83 ≤ a && a ≤ 0xc9f then some .hpmCounterH
    else if 0x3a0 ≤ a && a ≤ 0x3af then some (.pmpcfg (a - 0x3a0))
    else if 0x3b0 ≤ a && a ≤ 0x3ef then some (.pmpaddr (a - 0x3b0))
    else none

/-- `csr_decode.priv_lvl`, the level that bits 9 and 8 of an address ask for. -/
def addressPriv (address : BitVec 12) : PrivLvl := PrivLvl.ofBits (address.extractLsb' 8 2)

/-- `convert_vs_access_csr`: from a virtualized mode the addresses of the supervisor's
registers name those of the virtual supervisor. -/
def convertVsAccessCsr (address : BitVec 12) (v : Bool) : BitVec 12 :=
  let a := address.toNat
  if (0x100 ≤ a && a ≤ 0x105) || (0x140 ≤ a && a ≤ 0x180) then
    if v then (address &&& ~~~0x300#12) ||| 0x200#12 else address
  else address

/-- `conv_csr_addr`. -/
def convCsrAddr {cfg : Cfg} (s : State cfg) (address : BitVec 12) : BitVec 12 :=
  if cfg.rvh then convertVsAccessCsr address s.v else address

/-! ## The level of a register -/

theorem mem_of_lookup {a : Nat} {reg : Reg} :
    ∀ {table : List (Nat × Reg)}, table.lookup a = some reg → (a, reg) ∈ table
  | [], found => by cases found
  | (b, first) :: table, found => by
    rw [List.lookup_cons] at found
    cases same : a == b with
    | true =>
      rw [same] at found
      rw [beq_iff_eq.1 same, ← Option.some.inj found]
      exact List.mem_cons_self
    | false =>
      rw [same] at found
      exact List.mem_cons_of_mem _ (mem_of_lookup found)

/-- The families of registers. -/
def Reg.inFamily : Reg → Bool
  | .mhpmEvent | .mhpmCounter | .mhpmCounterH | .hpmCounter | .hpmCounterH => true
  | .pmpcfg _ | .pmpaddr _ => true
  | _ => false

theorem mem_addresses {address : BitVec 12} {reg : Reg}
    (named : Reg.ofAddress address = some reg) (single : reg.inFamily = false) :
    (address.toNat, reg) ∈ addresses := by
  rw [Reg.ofAddress] at named
  cases found : addresses.lookup address.toNat with
  | some other =>
    simp only [found, Option.some.injEq] at named
    rw [← named]
    exact mem_of_lookup found
  | none =>
    simp only [found] at named
    split_ifs at named <;> cases named <;> cases single

theorem convertVsAccessCsr_cases (address : BitVec 12) (v : Bool) :
    convertVsAccessCsr address v = address ∨
      (convertVsAccessCsr address v).getLsbD 8 = false := by
  rw [convertVsAccessCsr]
  split
  · cases v with
    | false => exact Or.inl rfl
    | true =>
      right
      simp
  · exact Or.inl rfl

theorem convCsrAddr_cases {cfg : Cfg} (s : State cfg) (address : BitVec 12) :
    convCsrAddr s address = address ∨ (convCsrAddr s address).getLsbD 8 = false := by
  rw [convCsrAddr]
  split
  · exact convertVsAccessCsr_cases address s.v
  · exact Or.inl rfl

/-- The address of `mstatus` is not converted. -/
theorem address_of_mstatus {cfg : Cfg} {s : State cfg} {address : BitVec 12}
    (named : Reg.ofAddress (convCsrAddr s address) = some .mstatus) : address = 0x300#12 := by
  have member := mem_addresses named rfl
  have place : convCsrAddr s address = 0x300#12 := by
    apply BitVec.eq_of_toNat_eq
    simpa [addresses] using member
  obtain same | clear := convCsrAddr_cases s address
  · rw [← same, place]
  · rw [place] at clear
    cases clear

end Cva6Hpd.Csr
