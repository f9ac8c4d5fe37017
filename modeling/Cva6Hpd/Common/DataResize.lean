import Cva6Hpd.Common.DataUpsize
import Cva6Hpd.Common.DataDownsize

/-!
# The data resizer

`hpdcache_data_resize`: an upsizer, a downsizer or a plain FIFO, as the written
words are narrower than, wider than or as wide as the read words. Whichever it
is, it is a queue of elements: a write appends a word of `wr` elements at its
end, a read removes a word of `rd` elements from its front.
-/

namespace Cva6Hpd.Common

universe u

/-- The buffer that the widths select. -/
inductive DataResize (depth wr rd : Nat) [NeZero depth] (α : Type u) where
  | upsize (narrow : wr < rd) (fifo : DataUpsize depth wr rd α)
  | downsize (narrow : rd < wr) (fifo : DataDownsize depth wr rd α)
  | noresize (same : wr = rd) (fifo : FifoReg depth (Fin wr → α))

namespace DataResize

variable {depth wr rd : Nat} [NeZero depth] {α : Type u}

def reset (initial : α) : DataResize depth wr rd α :=
  if narrow : wr < rd then .upsize narrow (DataUpsize.reset initial)
  else if narrow : rd < wr then .downsize narrow (DataDownsize.reset initial)
  else .noresize (by omega) (FifoReg.reset fun _ => initial)

/-- `wok_o`. -/
def wok : DataResize depth wr rd α → Bool
  | .upsize _ fifo => fifo.wok
  | .downsize _ fifo => fifo.wok
  | .noresize _ fifo => fifo.wok false false

/-- `rok_o`. -/
def rok : DataResize depth wr rd α → Bool
  | .upsize _ fifo => fifo.rok
  | .downsize _ fifo => fifo.rok
  | .noresize _ fifo => fifo.rok false false

/-- `rdata_o`. -/
def rdata [NeZero wr] : DataResize depth wr rd α → Fin rd → α
  | .upsize _ fifo => fifo.rdata rd
  | .downsize _ fifo => fifo.rdata rd
  | .noresize _ fifo => fun i => fifo.fifoMemQ fifo.rptrQ (Fin.ofNat wr i.val)

/-- `rlast_o`. -/
def rlast : DataResize depth wr rd α → Bool
  | .upsize _ _ => true
  | .downsize _ fifo => fifo.rok && fifo.lastWord
  | .noresize _ _ => true

def step (resizer : DataResize depth wr rd α) (w : Bool) (wdata : Fin wr → α)
    (wlast r : Bool) : DataResize depth wr rd α :=
  match resizer with
  | .upsize narrow fifo => .upsize narrow (fifo.step w wdata wlast r)
  | .downsize narrow fifo => .downsize narrow (fifo.step w wdata r)
  | .noresize same fifo => .noresize same (fifo.step false w wdata r)

/-- The elements of the resizer, oldest first. -/
def contents : DataResize depth wr rd α → List α
  | .upsize _ fifo => fifo.contents
  | .downsize _ fifo => fifo.contents
  | .noresize _ fifo => fifo.contents.flatMap List.ofFn

/-- The entries that `count` elements occupy. -/
def entries (wr rd count : Nat) : Nat := (count + (wr - 1)) / max wr rd

@[simp]
theorem contents_reset (initial : α) :
    (reset initial : DataResize depth wr rd α).contents = [] := by
  unfold reset
  split_ifs <;> simp [contents]

/-- Words of one width lie side by side in words of the other. -/
def Fits (wr rd : Nat) : Prop := 0 < wr ∧ 0 < rd ∧ (wr ∣ rd ∨ rd ∣ wr)

theorem Fits.of_lt {wr rd : Nat} (fits : Fits wr rd) (narrow : wr < rd) : wr ∣ rd := by
  rcases fits with ⟨first, _, divides | divides⟩
  · exact divides
  · exact absurd (Nat.le_of_dvd first divides) (by omega)

theorem Fits.of_gt {wr rd : Nat} (fits : Fits wr rd) (narrow : rd < wr) : rd ∣ wr := by
  rcases fits with ⟨_, second, divides | divides⟩
  · exact absurd (Nat.le_of_dvd second divides) (by omega)
  · exact divides

section Widths

variable (fits : Fits wr rd)

include fits

/-- The resizer accepts a word while its elements leave an entry free. -/
theorem wok_eq_decide (resizer : DataResize depth wr rd α) :
    resizer.wok = decide (entries wr rd resizer.contents.length < depth) := by
  cases resizer with
  | upsize narrow fifo =>
      rw [entries, Nat.max_eq_right (Nat.le_of_lt narrow)]
      exact DataUpsize.wok_eq_decide narrow (fits.of_lt narrow) fifo
  | downsize narrow fifo =>
      rw [entries, Nat.max_eq_left (Nat.le_of_lt narrow)]
      exact DataDownsize.wok_eq_decide narrow (fits.of_gt narrow) fifo
  | noresize same fifo =>
      have limit := fifo.length_contents_le
      have positive := fits.1
      have long : (fifo.contents.flatMap List.ofFn).length = fifo.contents.length * wr := by
        simp [List.length_flatMap, List.map_const']
      have count : entries wr rd (fifo.contents.length * wr) = fifo.contents.length := by
        rw [entries, ← same, Nat.max_self, Nat.mul_comm, Nat.mul_add_div positive,
          Nat.div_eq_of_lt (by omega), Nat.add_zero]
      simp only [wok, contents, long, count, FifoRegs.wok, Bool.false_and, Bool.or_false]
      rw [FifoReg.full_eq_decide, Bool.eq_iff_iff, decide_eq_true_eq, Bool.not_eq_true',
        decide_eq_false_iff_not]
      omega

/-- The resizer presents a word while it holds one. -/
theorem rok_eq_decide (resizer : DataResize depth wr rd α) :
    resizer.rok = decide (rd ≤ resizer.contents.length) := by
  cases resizer with
  | upsize narrow fifo => exact DataUpsize.rok_eq_decide narrow (fits.of_lt narrow) fifo
  | downsize narrow fifo => exact DataDownsize.rok_eq_decide narrow (fits.of_gt narrow) fifo
  | noresize same fifo =>
      have positive := fits.2.1
      have long : (fifo.contents.flatMap List.ofFn).length = fifo.contents.length * wr := by
        simp [List.length_flatMap, List.map_const']
      simp only [rok, contents, long, FifoRegs.rok, Bool.false_and, Bool.or_false]
      rw [FifoReg.empty_eq_decide, Bool.eq_iff_iff, decide_eq_true_eq, Bool.not_eq_true',
        decide_eq_false_iff_not, ← same, ← List.length_eq_zero_iff]
      constructor
      · intro filled
        exact Nat.le_mul_of_pos_left wr (Nat.pos_of_ne_zero filled)
      · intro enough none
        rw [none, Nat.zero_mul] at enough
        omega

/-- The oldest elements are on the read port. -/
theorem ofFn_rdata [NeZero wr] {resizer : DataResize depth wr rd α}
    (filled : resizer.rok = true) :
    List.ofFn resizer.rdata = resizer.contents.take rd := by
  cases resizer with
  | upsize narrow fifo => exact DataUpsize.ofFn_rdata (fits.of_lt narrow) filled
  | downsize narrow fifo => exact DataDownsize.ofFn_rdata narrow (fits.of_gt narrow) filled
  | noresize same fifo =>
      have stored : fifo.contents ≠ [] := by
        simpa [rok, FifoRegs.rok, FifoReg.empty_eq_decide] using filled
      rcases List.exists_cons_of_ne_nil stored with ⟨oldest, rest, stored⟩
      have port := FifoReg.rdata_of_cons stored false oldest
      simp only [FifoRegs.rdata, Bool.false_and, Bool.false_eq_true, if_false] at port
      simp only [contents, stored, List.flatMap_cons, rdata, port]
      rw [List.take_left' (by rw [List.length_ofFn, same])]
      apply List.ext_getElem
      · rw [List.length_ofFn, List.length_ofFn, same]
      · intro i _ inside
        rw [List.length_ofFn] at inside
        rw [List.getElem_ofFn, List.getElem_ofFn]
        congr 1
        exact Fin.ext (Nat.mod_eq_of_lt inside)

/-- One clock edge removes a read word when it reads and appends the written
word when it writes. The last word of a burst has to complete a read word. -/
theorem contents_step (resizer : DataResize depth wr rd α) (w : Bool) (wdata : Fin wr → α)
    (wlast r : Bool)
    (aligned : w = true → wlast = true → rd ∣ resizer.contents.length + wr ∨ rd ≤ wr) :
    (resizer.step w wdata wlast r).contents =
      (if r && resizer.rok then resizer.contents.drop rd else resizer.contents) ++
        (if w && resizer.wok then List.ofFn wdata else []) := by
  cases resizer with
  | upsize narrow fifo =>
      refine DataUpsize.contents_step narrow (fits.of_lt narrow) fifo w wdata wlast r ?_
      intro writes last
      rcases aligned writes last with whole | wide
      · exact whole
      · omega
  | downsize narrow fifo =>
      exact DataDownsize.contents_step narrow (fits.of_gt narrow) fifo w wdata r
  | noresize same fifo =>
      have removed (words : List (Fin wr → α)) :
          words.tail.flatMap List.ofFn = (words.flatMap List.ofFn).drop rd := by
        cases words with
        | nil => rw [List.tail_nil, List.flatMap_nil, List.drop_nil]
        | cons oldest rest =>
            rw [List.tail_cons, List.flatMap_cons,
              List.drop_left' (by rw [List.length_ofFn, same])]
      have reads : fifo.rexec r = (r && fifo.rok false false) := by
        simp [FifoRegs.rexec, FifoRegs.rok]
      have writes : fifo.wexec false w r = (w && fifo.wok false false) := by
        simp [FifoRegs.wexec, FifoRegs.wok]
      change (fifo.step false w wdata r).contents.flatMap List.ofFn =
        (if r && fifo.rok false false then (fifo.contents.flatMap List.ofFn).drop rd
          else fifo.contents.flatMap List.ofFn) ++
          (if w && fifo.wok false false then List.ofFn wdata else [])
      rw [FifoReg.contents_step, reads, writes, List.flatMap_append]
      congr 1
      · by_cases reading : (r && fifo.rok false false) = true
        · rw [if_pos reading, if_pos reading]
          exact removed fifo.contents
        · rw [if_neg reading, if_neg reading]
      · by_cases writing : (w && fifo.wok false false) = true
        · rw [if_pos writing, if_pos writing, List.flatMap_singleton]
        · rw [if_neg writing, if_neg writing, List.flatMap_nil]

end Widths

end DataResize

end Cva6Hpd.Common
