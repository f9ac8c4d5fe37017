import Mathlib.Data.List.Induction
import Mathlib.Data.Nat.ModEq

/-!
# Lists dealt out round robin

The elements of a list go to the lanes one after the other. `share` is what one lane gets; the
lanes that are served next have at least as much as those that follow them by less than a turn.
-/

namespace Cva6Hpd.Common.RoundRobin

universe u v

variable {α : Type u} {β : Type v} {n lane start : Nat}

/-- What `lane` of `n` lanes gets of a list whose first element goes to lane `start`. -/
def share (n lane : Nat) : Nat → List α → List α
  | _, [] => []
  | start, x :: xs =>
      if start % n = lane then x :: share n lane (start + 1) xs else share n lane (start + 1) xs

@[simp]
theorem share_nil : share n lane start ([] : List α) = [] :=
  rfl

/-- The lanes go round. -/
theorem share_congr {other : Nat} (same : start % n = other % n) (xs : List α) :
    share n lane start xs = share n lane other xs := by
  induction xs generalizing start other with
  | nil => rfl
  | cons x xs inductionHypothesis =>
    rw [share, share, same, inductionHypothesis (Nat.ModEq.add_right 1 same)]

theorem share_append (xs ys : List α) :
    share n lane start (xs ++ ys) =
      share n lane start xs ++ share n lane (start + xs.length) ys := by
  induction xs generalizing start with
  | nil => rfl
  | cons x xs inductionHypothesis =>
    have shift : start + 1 + xs.length = start + (x :: xs).length := by
      rw [List.length_cons]
      omega
    rw [List.cons_append, share, share, inductionHypothesis, shift]
    split <;> rfl

theorem share_singleton (x : α) :
    share n lane start [x] = if start % n = lane then [x] else [] :=
  rfl

theorem lane_ne {j k : Nat} (first : j < n) (second : k < n) (different : j ≠ k) :
    (start + j) % n ≠ (start + k) % n := by
  intro same
  have period : j % n = k % n := Nat.ModEq.add_left_cancel' start same
  rw [Nat.mod_eq_of_lt first, Nat.mod_eq_of_lt second] at period
  exact different period

/-- Of a turn of elements each lane gets one at most: the one `j` places behind the start goes to
the lane `j` places behind that of the start. -/
theorem share_turn {j : Nat} (bound : j < n) (xs : List α) (short : xs.length ≤ n) :
    share n ((start + j) % n) start xs = xs[j]?.toList := by
  induction xs using List.reverseRecOn with
  | nil => rfl
  | append_singleton xs x inductionHypothesis =>
    rw [List.length_append, List.length_singleton] at short
    rw [share_append, share_singleton, inductionHypothesis (by omega)]
    rcases Nat.lt_trichotomy j xs.length with before | rfl | behind
    · rw [if_neg (lane_ne (by omega) bound (by omega)), List.append_nil,
        List.getElem?_append_left before]
    · simp
    · rw [if_neg (lane_ne (by omega) bound (by omega)), List.append_nil,
        List.getElem?_eq_none behind.le, List.getElem?_eq_none]
      rw [List.length_append, List.length_singleton]
      omega

/-- The lane that is served first has the head of the list, and only that lane changes when the
head is taken. -/
theorem share_tail (xs : List α) :
    share n lane (start + 1) xs.tail =
      if start % n = lane then (share n lane start xs).tail else share n lane start xs := by
  cases xs with
  | nil => simp
  | cons x xs =>
    rw [share, List.tail_cons]
    split <;> rfl

/-- Less than a turn of elements is taken from as many lanes. -/
theorem share_drop {k : Nat} (bound : k ≤ n) (xs : List α) :
    share n lane (start + k) (xs.drop k) =
      if ∃ j < k, (start + j) % n = lane then (share n lane start xs).tail
      else share n lane start xs := by
  induction k with
  | zero => simp
  | succ k inductionHypothesis =>
    have rest := inductionHypothesis (Nat.le_of_succ_le bound)
    rw [← Nat.add_assoc, ← List.tail_drop, share_tail, rest]
    by_cases last : (start + k) % n = lane
    · have others : ¬∃ j < k, (start + j) % n = lane := by
        rintro ⟨j, before, same⟩
        exact lane_ne (by omega) bound before.ne (same.trans last.symm)
      rw [if_pos last, if_neg others, if_pos ⟨k, k.lt_succ_self, last⟩]
    · have same : (∃ j < k, (start + j) % n = lane) ↔ ∃ j < k + 1, (start + j) % n = lane := by
        constructor
        · rintro ⟨j, before, hit⟩
          exact ⟨j, Nat.lt_succ_of_lt before, hit⟩
        · rintro ⟨j, before, hit⟩
          rcases Nat.lt_succ_iff_lt_or_eq.mp before with earlier | rfl
          · exact ⟨j, earlier, hit⟩
          · exact absurd hit last
      rw [if_neg last]
      simp only [same]

/-- The oldest element of the lane `k` places behind the first. -/
theorem head?_share {k : Nat} (bound : k < n) (xs : List α) :
    (share n ((start + k) % n) start xs).head? = xs[k]? := by
  induction k generalizing start xs with
  | zero =>
    cases xs with
    | nil => rfl
    | cons x xs => rw [Nat.add_zero, share, if_pos rfl]; rfl
  | succ k inductionHypothesis =>
    cases xs with
    | nil => rfl
    | cons x xs =>
      have other : start % n ≠ (start + (k + 1)) % n :=
        lane_ne (j := 0) (by omega) bound k.succ_ne_zero.symm
      rw [share, if_neg other, List.getElem?_cons_succ, ← inductionHypothesis (by omega) xs,
        Nat.add_assoc, Nat.add_comm 1 k]

/-- The lane `j` places behind the one that is served next. -/
theorem length_share {j : Nat} (bound : j < n) (xs : List α) :
    (share n ((start + xs.length + j) % n) start xs).length = (xs.length + j) / n := by
  induction xs using List.reverseRecOn generalizing j with
  | nil => simp [Nat.div_eq_of_lt bound]
  | append_singleton xs x inductionHypothesis =>
    rw [share_append, List.length_append, share_singleton, List.length_append,
      List.length_singleton]
    by_cases last : j + 1 < n
    · have lane : start + (xs.length + 1) + j = start + xs.length + (j + 1) := by omega
      have other : (start + xs.length) % n ≠ (start + xs.length + (j + 1)) % n :=
        lane_ne (j := 0) (by omega) last j.succ_ne_zero.symm
      rw [lane, inductionHypothesis last, if_neg other, List.length_nil, Nat.add_zero]
      congr 1
      omega
    · have turn : j + 1 = n := by omega
      have lane : (start + (xs.length + 1) + j) % n = (start + xs.length + 0) % n := by
        rw [show start + (xs.length + 1) + j = start + xs.length + 0 + n by omega,
          Nat.add_mod_right]
      rw [lane, inductionHypothesis (by omega), Nat.add_zero, Nat.add_zero, if_pos rfl,
        List.length_singleton, show xs.length + 1 + j = xs.length + n by omega,
        Nat.add_div_right _ (by omega)]

end Cva6Hpd.Common.RoundRobin
