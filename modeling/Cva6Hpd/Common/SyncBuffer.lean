import Mathlib.Data.Bool.Basic

/-!
# The synchronization buffer

`hpdcache_sync_buffer`: one entry, the form that a register FIFO of depth one
takes. With feedthrough, an element that is written while the buffer is empty is
read at once, and one is written while the old one is read.
-/

namespace Cva6Hpd.Common

universe u

/-- The registers of `hpdcache_sync_buffer`. -/
structure SyncBuffer (α : Type u) where
  validQ : Bool
  bufQ : α

namespace SyncBuffer

variable {α : Type u} (feedthrough : Bool) (buffer : SyncBuffer α)

def reset (initial : α) : SyncBuffer α where
  validQ := false
  bufQ := initial

def rok (w : Bool) : Bool := buffer.validQ || (feedthrough && w)

def wok (r : Bool) : Bool := !buffer.validQ || (feedthrough && r)

def bufWe (w r : Bool) : Bool :=
  w && ((feedthrough && !(buffer.validQ ^^ r)) || (!feedthrough && !buffer.validQ))

def rdata (wdata : α) : α := if feedthrough && !buffer.validQ then wdata else buffer.bufQ

def step (w : Bool) (wdata : α) (r : Bool) : SyncBuffer α where
  validQ := bufWe feedthrough buffer w r || (buffer.validQ && !r)
  bufQ := if bufWe feedthrough buffer w r then wdata else buffer.bufQ

/-- The stored element. -/
def contents : List α := if buffer.validQ then [buffer.bufQ] else []

@[simp]
theorem contents_reset (initial : α) : (reset initial).contents = [] :=
  rfl

/-- No element is lost, duplicated or reordered. -/
theorem contents_conserved (w : Bool) (wdata : α) (r : Bool) :
    buffer.contents ++ (if w && buffer.wok feedthrough r then [wdata] else []) =
      (if r && buffer.rok feedthrough w then [buffer.rdata feedthrough wdata] else []) ++
        (buffer.step feedthrough w wdata r).contents := by
  rcases buffer with ⟨validQ, bufQ⟩
  cases validQ <;> cases feedthrough <;> cases w <;> cases r <;> rfl

end SyncBuffer

end Cva6Hpd.Common
