import Mathlib.Logic.Function.Basic
import Mathlib.Data.List.Nodup

/-!
# Arrays with several write ports

In one cycle the ports of an array write one after the other, each the entry that it
addresses if it is enabled. An entry that no enabled port addresses is unchanged, and
one that a single enabled port addresses is what that port writes.
-/

namespace Cva6Hpd.Hw

universe u v w

variable {κ : Type u} {α : Type v} {β : Type w} [DecidableEq α]

/-- One port writes; `write` gives the new entry for the old one. -/
def writePort (enabled : κ → Bool) (target : κ → α) (write : κ → β → β) (mem : α → β)
    (port : κ) : α → β :=
  if enabled port then Function.update mem (target port) (write port (mem (target port)))
  else mem

/-- The array after the ports wrote. -/
def writes (enabled : κ → Bool) (target : κ → α) (write : κ → β → β) (ports : List κ)
    (mem : α → β) : α → β :=
  ports.foldl (writePort enabled target write) mem

variable {enabled : κ → Bool} {target : κ → α} {write : κ → β → β} {ports : List κ}
  {mem : α → β} {entry : α}

theorem writePort_of_ne {port : κ} (other : enabled port = true → target port ≠ entry) :
    writePort enabled target write mem port entry = mem entry := by
  rw [writePort]
  split
  · next set => exact Function.update_of_ne (other set).symm _ _
  · rfl

theorem writePort_of_eq {port : κ} (set : enabled port = true) (address : target port = entry) :
    writePort enabled target write mem port entry = write port (mem entry) := by
  rw [writePort, if_pos set, address, Function.update_self]

theorem writes_of_ne
    (other : ∀ port ∈ ports, enabled port = true → target port ≠ entry) :
    writes enabled target write ports mem entry = mem entry := by
  induction ports generalizing mem with
  | nil => rfl
  | cons port ports inductionHypothesis =>
      change writes enabled target write ports _ entry = mem entry
      rw [inductionHypothesis fun later member => other later (List.mem_cons_of_mem _ member),
        writePort_of_ne (other port List.mem_cons_self)]

theorem writes_of_eq (nodup : ports.Nodup) {port : κ} (member : port ∈ ports)
    (set : enabled port = true) (address : target port = entry)
    (alone : ∀ other ∈ ports, enabled other = true → target other = entry → other = port) :
    writes enabled target write ports mem entry = write port (mem entry) := by
  induction ports generalizing mem with
  | nil => contradiction
  | cons first ports inductionHypothesis =>
      rcases List.nodup_cons.mp nodup with ⟨fresh, rest⟩
      change writes enabled target write ports _ entry = write port (mem entry)
      rcases List.mem_cons.mp member with rfl | later
      · rw [writes_of_ne, writePort_of_eq set address]
        intro other inside otherSet same
        have equal := alone other (List.mem_cons_of_mem _ inside) otherSet same
        exact fresh (equal ▸ inside)
      · rw [inductionHypothesis rest later fun other inside =>
          alone other (List.mem_cons_of_mem _ inside), writePort_of_ne]
        intro firstSet same
        have equal := alone first List.mem_cons_self firstSet same
        exact fresh (equal ▸ later)

end Cva6Hpd.Hw
