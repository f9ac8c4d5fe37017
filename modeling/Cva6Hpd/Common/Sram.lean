import Cva6Hpd.Hw.Bits
import Mathlib.Data.Fin.Basic

/-!
# Single-port memories

`hpdcache_sram`, its write-mask variants and the register banks: one port, one
access a cycle, and a read port that keeps the word of the last read. The
memories are organised in `n` columns with their own chip select; the register
banks also read while they write.
-/

namespace Cva6Hpd.Common

open Cva6Hpd.Hw

universe u

/-- The array and the registered read port of a memory. -/
structure Sram (depth n : Nat) (α : Type u) where
  mem : Fin depth → Fin n → α
  rdata : Fin n → α

/-- One access: the address, and for each column the chip select, the write
enable, the write mask and the data. -/
structure SramAccess (depth n : Nat) (α : Type u) where
  addr : Fin depth
  cs : Bits n
  we : Bits n
  wmask : Bits n
  wdata : Fin n → α

namespace SramAccess

variable {depth n : Nat} {α : Type u}

/-- The access writes column `i` of row `row`. -/
def Writes (access : SramAccess depth n α) (row : Fin depth) (i : Fin n) : Prop :=
  row = access.addr ∧ access.cs i = true ∧ access.we i = true ∧ access.wmask i = true

instance decidableWrites (access : SramAccess depth n α) (row : Fin depth) (i : Fin n) :
    Decidable (access.Writes row i) :=
  inferInstanceAs (Decidable (_ ∧ _))

end SramAccess

namespace Sram

variable {depth n : Nat} {α : Type u}

def step (readOnWrite : Bool) (sram : Sram depth n α) (access : SramAccess depth n α) :
    Sram depth n α where
  mem := fun row i => if access.Writes row i then access.wdata i else sram.mem row i
  rdata := fun i =>
    if access.cs i && (readOnWrite || !access.we i) then sram.mem access.addr i
    else sram.rdata i

/-- Without a write enable the array is unchanged. -/
theorem mem_step_of_read {access : SramAccess depth n α} (readOnWrite : Bool)
    (sram : Sram depth n α) (reads : ∀ i, access.we i = false) :
    (sram.step readOnWrite access).mem = sram.mem := by
  funext row i
  simp [step, SramAccess.Writes, reads i]

theorem rdata_step_of_read {access : SramAccess depth n α} (readOnWrite : Bool)
    (sram : Sram depth n α) {i : Fin n} (selected : access.cs i = true)
    (reads : access.we i = false) :
    (sram.step readOnWrite access).rdata i = sram.mem access.addr i := by
  simp [step, selected, reads]

end Sram

/-! ## Byte enables -/

/-- `hpdcache_sram_wbyteenable`: one chip select and one write enable for the
`ndata` words of a row, which are written byte by byte. -/
structure SramWbyteenable (depth ndata bytes : Nat) where
  mem : Fin depth → Fin ndata → Fin bytes → BitVec 8
  rdata : Fin ndata → Fin bytes → BitVec 8

/-- The port of one cycle. -/
structure ByteAccess (depth ndata bytes : Nat) where
  cs : Bool
  we : Bool
  addr : Fin depth
  wdata : Fin ndata → Fin bytes → BitVec 8
  wbyteenable : Fin ndata → Bits bytes

namespace SramWbyteenable

variable {depth ndata bytes : Nat} (sram : SramWbyteenable depth ndata bytes)
  {access : ByteAccess depth ndata bytes}

def step (access : ByteAccess depth ndata bytes) : SramWbyteenable depth ndata bytes where
  mem := fun row j b =>
    if (access.cs && access.we && decide (row = access.addr) && access.wbyteenable j b) = true then
      access.wdata j b
    else sram.mem row j b
  rdata := if (access.cs && !access.we) = true then sram.mem access.addr else sram.rdata

theorem mem_step_of_kept (kept : (access.cs && access.we) = false) :
    (sram.step access).mem = sram.mem := by
  funext row j b
  simp only [step, kept, Bool.false_and, Bool.false_eq_true, if_false]

theorem rdata_step_of_read (selected : access.cs = true) (reads : access.we = false) :
    (sram.step access).rdata = sram.mem access.addr := by
  simp [step, selected, reads]

end SramWbyteenable

end Cva6Hpd.Common

/-!
## Memories that hold their read address

`tc_sram` with one port and a latency of one cycle. The read port keeps the
address of the last read and is refreshed from it in every cycle, so a write to
that address becomes visible on the read port two edges later, without a new
read. Contents are not reset.
-/

namespace Cva6Hpd.Common

universe u

/-- The array, the address of the last read and the registered read data. -/
structure TcSram (depth : Nat) (α : Type u) where
  sram : Fin depth → α
  rAddrQ : Fin depth
  rdataQ : α

/-- The port of a memory in one cycle. -/
structure TcSramPort (depth : Nat) (α : Type u) where
  req : Bool
  we : Bool
  addr : Fin depth
  wdata : α

namespace TcSram

variable {depth : Nat} {α : Type u}

def step (memory : TcSram depth α) (port : TcSramPort depth α) : TcSram depth α where
  sram := fun row =>
    if port.req && port.we && decide (row = port.addr) then port.wdata else memory.sram row
  rAddrQ := if port.req && !port.we then port.addr else memory.rAddrQ
  rdataQ := if port.req && !port.we then memory.sram port.addr else memory.sram memory.rAddrQ

/-- The read port shows the row of the last read address, as it was in the
cycle before. -/
theorem step_rdataQ (memory : TcSram depth α) (port : TcSramPort depth α) :
    (memory.step port).rdataQ = memory.sram (memory.step port).rAddrQ := by
  cases reads : port.req && !port.we <;> simp [step, reads]

theorem step_rAddrQ (memory : TcSram depth α) (port : TcSramPort depth α) :
    (memory.step port).rAddrQ =
      if port.req = true ∧ port.we = false then port.addr else memory.rAddrQ := by
  simp [step]

theorem step_sram (memory : TcSram depth α) (port : TcSramPort depth α) (row : Fin depth) :
    (memory.step port).sram row =
      if port.req = true ∧ port.we = true ∧ row = port.addr then port.wdata
      else memory.sram row := by
  simp [step, and_assoc]

/-- Two memories that are read and written alike, with related words. -/
structure Related {β : Type u} (relation : α → β → Prop) (first : TcSram depth α)
    (second : TcSram depth β) : Prop where
  rAddrQ : first.rAddrQ = second.rAddrQ
  sram : ∀ row, relation (first.sram row) (second.sram row)
  rdataQ : relation first.rdataQ second.rdataQ

theorem Related.step {β : Type u} {relation : α → β → Prop} {first : TcSram depth α}
    {second : TcSram depth β} (related : Related relation first second)
    (port : TcSramPort depth α) (wdata : β)
    (written : port.we = true → relation port.wdata wdata) :
    Related relation (first.step port)
      (second.step ⟨port.req, port.we, port.addr, wdata⟩) := by
  have same : (first.step port).rAddrQ =
      (second.step ⟨port.req, port.we, port.addr, wdata⟩).rAddrQ := by
    rw [step_rAddrQ, step_rAddrQ, related.rAddrQ]
  refine ⟨same, ?_, ?_⟩
  · intro row
    rw [step_sram, step_sram]
    split
    · rename_i writes
      exact written writes.2.1
    · exact related.sram row
  · rw [step_rdataQ, step_rdataQ, same]
    exact related.sram _

end TcSram

end Cva6Hpd.Common
