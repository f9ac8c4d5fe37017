import Cva6Hpd.Mmu.Unit

/-!
# The early page number

`lsu_dtlb_ppn_o` is given in the cycle of an access, `lsu_paddr_o` in the next one. The early page
number takes the sizes of the page, and the misaligned exception, from the registers of the answer,
so that both are those of the access before; and it puts the bits of the address for a large page
twelve places too high. The condition of agreement names the bits that this concerns.
-/

namespace Cva6Hpd.Mmu.EarlyPage

open Hw (Machine)
open Common (TcSram)
open Cva6Hpd.Mmu.Unit

/-! ## Accesses and their answers -/

/-- The unit with the last access that hit, in the cycle before. -/
abbrev History (cfg : UnitCfg) : Type := State cfg × Option (State cfg × Input)

variable {cfg : UnitCfg}

/-- An access of the load and store unit hits in the cycle. -/
def accesses (s : State cfg) (i : Input) : Bool := i.lsuReq && lsuDtlbHit cfg s i

/-- The unit that keeps the access of the cycle before. -/
def followed (powerUp : Fin 2 → TcSram (2 ^ cfg.sharedTlbBits) SharedTlb.Row) :
    Machine (History cfg) Input :=
  (machine cfg powerUp).withHistory none fun s i _ =>
    if accesses s i then some (s, i) else none

/-- A misaligned access is answered without its translation. -/
def misaligned (i : Input) : Bool := i.misalignedEx.valid && i.lsuReq

/-- The next cycle answers the access: where it translates, the access hit an entry. -/
def Answered (s : State cfg) (i next : Input) : Prop :=
  lsuTranslated cfg next = true → misaligned i = false → (dtlbHitting cfg s i).isSome = true

instance decidableAnswered (s : State cfg) (i next : Input) : Decidable (Answered s i next) :=
  inferInstanceAs (Decidable (_ → _))

/-- The early page number of the access in the cycle before is that of the address in this one. -/
def Agrees (c : History cfg) (next : Input) : Prop :=
  ∀ access ∈ c.2, Answered access.1 access.2 next →
    lsuDtlbPpn cfg access.1 access.2 = (lsuAnswer cfg c.1 next).lsuPaddr / 2 ^ 12

instance decidableAgrees (c : History cfg) (next : Input) : Decidable (Agrees c next) :=
  inferInstanceAs (Decidable (∀ access ∈ c.2, _))

/-! ## The bits of the two page numbers -/

variable (cfg) in
/-- How many low bits of a page number are those of the address. -/
def pageBits (isPage : Fin 2 → Bool) : Nat :=
  if isPage 0 then ppnwMin cfg - 11
  else if decide (cfg.ptLevels = 3) && isPage 1 then ppnwMin cfg - cfg.vpnWidth - 11
  else 0

/-- The early page number is that of the entry; the misaligned exception is that of the access
before. -/
def earlyTranslated (s : State cfg) (i : Input) : Bool :=
  lsuTranslated cfg i && !s.misalignedExQ.valid

/-- How many bits of the address the early page number gets: the page is that of the access
before. -/
def earlyBits (s : State cfg) (i : Input) : Nat :=
  if earlyTranslated s i then pageBits cfg s.dtlbIsPageQ else 0

/-- A bit of the early page number is one of the address in its own place. -/
def Filled (s : State cfg) (i : Input) (bit : Nat) : Prop :=
  12 ≤ bit ∧ bit < 12 + earlyBits s i

instance decidableFilled (s : State cfg) (i : Input) (bit : Nat) : Decidable (Filled s i bit) :=
  inferInstanceAs (Decidable (_ ∧ _))

variable (powerUp : Fin 2 → TcSram (2 ^ cfg.sharedTlbBits) SharedTlb.Row)

end Cva6Hpd.Mmu.EarlyPage
