import Mathlib.Data.List.Nodup
import Mathlib.Data.List.Chain
import Mathlib.Data.List.Perm.Basic

/-!
# Lists threaded through a vector of cells

Linked lists in a pool of cells: a `next` vector gives the successor of a cell,
and a `last` vector marks the cells without one. `Threaded` relates the vectors
to the lists that they represent, and says that the lists are disjoint. The
order of the lists themselves does not matter. The lemmas follow the operations
of a pool of queues: a fresh cell starts a list or is appended to one, and the
first cell of a list is removed. `Keyed` says that a list holds the cells of one
key.
-/

namespace Cva6Hpd.Hw

universe u v

/-- `lists` are the disjoint lists that `next` and `last` represent. -/
structure Threaded {α : Type u} (next : α → α) (last : α → Bool)
    (lists : List (List α)) : Prop where
  nodup : lists.flatten.Nodup
  nonempty : [] ∉ lists
  chained : ∀ list ∈ lists, list.IsChain fun cell successor => next cell = successor
  ends : ∀ list ∈ lists, ∀ cell ∈ list, last cell = true ↔ list.getLast? = some cell

/-- The lists that remain of a list whose first cell is removed. -/
def remainder {α : Type u} (rest : List α) (others : List (List α)) : List (List α) :=
  if rest = [] then others else rest :: others

theorem mem_flatten_remainder {α : Type u} {rest : List α} {others : List (List α)}
    {cell : α} : cell ∈ (remainder rest others).flatten ↔ cell ∈ rest ∨ cell ∈ others.flatten := by
  rw [remainder]
  split
  · rename_i empty
    simp [empty]
  · simp

theorem mem_remainder {α : Type u} {rest : List α} {others : List (List α)}
    {list : List α} (member : list ∈ remainder rest others) :
    (list = rest ∧ rest ≠ []) ∨ list ∈ others := by
  rw [remainder] at member
  split at member
  · exact Or.inr member
  · rename_i nonempty
    rcases List.mem_cons.mp member with same | other
    · exact Or.inl ⟨same, nonempty⟩
    · exact Or.inr other

namespace Threaded

variable {α : Type u} {next next' : α → α} {last last' : α → Bool}
  {lists lists' others : List (List α)} {list rest : List α} {cell first : α}

theorem empty (next : α → α) (last : α → Bool) : Threaded next last [] where
  nodup := List.nodup_nil
  nonempty := List.not_mem_nil
  chained := by simp
  ends := by simp

theorem perm (threaded : Threaded next last lists) (same : lists.Perm lists') :
    Threaded next last lists' where
  nodup := (same.flatten.nodup_iff).mp threaded.nodup
  nonempty := fun member => threaded.nonempty (same.mem_iff.mpr member)
  chained := fun list member => threaded.chained list (same.mem_iff.mpr member)
  ends := fun list member => threaded.ends list (same.mem_iff.mpr member)

theorem congr (threaded : Threaded next last lists)
    (sameNext : ∀ cell ∈ lists.flatten, last cell = false → next' cell = next cell)
    (sameLast : ∀ cell ∈ lists.flatten, last' cell = last cell) :
    Threaded next' last' lists where
  nodup := threaded.nodup
  nonempty := threaded.nonempty
  chained := by
    intro list member
    have chained := threaded.chained list member
    rw [List.isChain_iff_getElem] at chained ⊢
    intro k bound
    have cellMember : list[k] ∈ list := List.getElem_mem _
    have notLast : last list[k] = false := by
      rw [Bool.eq_false_iff]
      intro isLast
      have final := (threaded.ends list member _ cellMember).mp isLast
      have distinct : list.Nodup := (List.nodup_flatten.mp threaded.nodup).1 list member
      rw [List.getLast?_eq_getElem?, List.getElem?_eq_some_iff] at final
      rcases final with ⟨inBounds, same⟩
      have := (distinct.getElem_inj_iff).mp same
      omega
    rw [sameNext _ (List.mem_flatten.mpr ⟨list, member, cellMember⟩) notLast]
    exact chained k bound
  ends := by
    intro list member cell cellMember
    rw [sameLast cell (List.mem_flatten.mpr ⟨list, member, cellMember⟩)]
    exact threaded.ends list member cell cellMember

theorem front (threaded : Threaded next last lists) (member : list ∈ lists) :
    ∃ others, lists.Perm (list :: others) ∧ Threaded next last (list :: others) := by
  rcases List.mem_iff_append.mp member with ⟨before, after, split⟩
  have same : lists.Perm (list :: (before ++ after)) := split ▸ List.perm_middle
  exact ⟨before ++ after, same, threaded.perm same⟩

theorem list_unique (threaded : Threaded next last lists) {list list' : List α}
    (member : list ∈ lists) (member' : list' ∈ lists) (inList : cell ∈ list)
    (inList' : cell ∈ list') : list = list' := by
  rcases threaded.front member with ⟨others, same, fronted⟩
  rcases List.mem_cons.mp (same.mem_iff.mp member') with equal | other
  · exact equal.symm
  · have distinct := fronted.nodup
    rw [List.flatten_cons, List.nodup_append] at distinct
    exact absurd rfl (distinct.2.2 cell inList cell
      (List.mem_flatten.mpr ⟨list', other, inList'⟩))

theorem next_mem (threaded : Threaded next last lists) (member : list ∈ lists)
    (inList : cell ∈ list) (notLast : last cell = false) :
    ∃ before after, list = before ++ cell :: next cell :: after := by
  rcases List.mem_iff_append.mp inList with ⟨before, after, split⟩
  cases after with
  | nil =>
      have isLast : last cell = true := by
        rw [threaded.ends list member cell inList, split]
        simp
      rw [isLast] at notLast
      contradiction
  | cons successor after =>
      have chained := threaded.chained list member
      rw [split, List.isChain_append_cons_cons] at chained
      exact ⟨before, after, by rw [chained.2.1, split]⟩

theorem nodup_list (threaded : Threaded next last lists) (member : list ∈ lists) :
    list.Nodup :=
  (List.nodup_flatten.mp threaded.nodup).1 list member

theorem next_of_first (threaded : Threaded next last lists) (member : cell :: rest ∈ lists)
    (inner : last cell = false) : ∃ after, rest = next cell :: after := by
  rcases threaded.next_mem member List.mem_cons_self inner with ⟨before, after, split⟩
  cases before with
  | nil => exact ⟨after, (List.cons.inj split).2⟩
  | cons first before =>
      have distinct := threaded.nodup_list member
      rw [split, (List.cons.inj split).1] at distinct
      simp at distinct

theorem inner_of_next (threaded : Threaded next last lists)
    (member : cell :: first :: rest ∈ lists) : last cell = false := by
  rw [Bool.eq_false_iff]
  intro isLast
  have final := (threaded.ends _ member cell List.mem_cons_self).mp isLast
  rw [List.getLast?_cons_cons] at final
  exact (List.nodup_cons.mp (threaded.nodup_list member)).1 (List.mem_of_getLast? final)

theorem start (threaded : Threaded next last lists) (fresh : cell ∉ lists.flatten)
    (isLast : last cell = true) : Threaded next last ([cell] :: lists) where
  nodup := by
    rw [List.flatten_cons, List.singleton_append]
    exact List.nodup_cons.mpr ⟨fresh, threaded.nodup⟩
  nonempty := by simpa using threaded.nonempty
  chained := by
    intro list member
    rcases List.mem_cons.mp member with rfl | old
    · exact List.isChain_singleton cell
    · exact threaded.chained list old
  ends := by
    intro list member other inList
    rcases List.mem_cons.mp member with rfl | old
    · rw [List.mem_singleton] at inList
      simp [inList, isLast]
    · exact threaded.ends list old other inList

theorem not_mem_others (threaded : Threaded next last (list :: others))
    (inList : cell ∈ list) : cell ∉ others.flatten := by
  have distinct := threaded.nodup
  rw [List.flatten_cons, List.nodup_append] at distinct
  exact fun inOthers => distinct.2.2 cell inList cell inOthers rfl

/-- A fresh cell is appended: the former last cell points to it. -/
theorem append (threaded : Threaded next last (list :: others)) {tail : α}
    (isTail : list.getLast? = some tail) (fresh : cell ∉ (list :: others).flatten)
    (linked : next' tail = cell) (notLast : last' tail = false)
    (isLast : last' cell = true)
    (sameNext : ∀ a ∈ (list :: others).flatten, a ≠ tail → next' a = next a)
    (sameLast : ∀ a ∈ (list :: others).flatten, a ≠ tail → last' a = last a) :
    Threaded next' last' ((list ++ [cell]) :: others) := by
  have tailMember : tail ∈ list := List.mem_of_getLast? isTail
  have tailLast : last tail = true :=
    (threaded.ends list List.mem_cons_self tail tailMember).mpr isTail
  have relinked : Threaded next' last (list :: others) := by
    refine threaded.congr ?_ fun _ _ => rfl
    intro a member inner
    refine sameNext a member ?_
    rintro rfl
    rw [tailLast] at inner
    contradiction
  constructor
  · have distinct := List.nodup_cons.mpr ⟨fresh, threaded.nodup⟩
    rw [List.flatten_cons] at distinct ⊢
    rw [List.append_assoc, List.singleton_append]
    exact (List.perm_middle.nodup_iff).mpr distinct
  · have nonempty := threaded.nonempty
    simp only [List.mem_cons, not_or] at nonempty ⊢
    exact ⟨by simp, nonempty.2⟩
  · intro list' member
    rcases List.mem_cons.mp member with rfl | other
    · refine List.isChain_append.mpr
        ⟨relinked.chained list List.mem_cons_self, List.isChain_singleton cell, ?_⟩
      simp [isTail, linked]
    · exact relinked.chained list' (List.mem_cons_of_mem _ other)
  · intro list' member a inList
    rcases List.mem_cons.mp member with rfl | other
    · rw [List.getLast?_concat, Option.some.injEq]
      rcases List.mem_append.mp inList with old | new
      · have notCell : cell ≠ a := by
          rintro rfl
          exact fresh (by simp [old])
        have inner : last' a = false := by
          by_cases final : a = tail
          · rw [final, notLast]
          · rw [sameLast a (by simp [old]) final, Bool.eq_false_iff, ne_eq,
              threaded.ends list List.mem_cons_self a old, isTail]
            simpa using Ne.symm final
        simp [inner, notCell]
      · rw [List.mem_singleton.mp new]
        simp [isLast]
    · have inOthers : a ∈ others.flatten := List.mem_flatten.mpr ⟨list', other, inList⟩
      have notTail : a ≠ tail := by
        rintro rfl
        exact threaded.not_mem_others tailMember inOthers
      rw [sameLast a (by simp [List.flatten_cons, inOthers]) notTail]
      exact threaded.ends list' (List.mem_cons_of_mem _ other) a inList

theorem remove (threaded : Threaded next last ((first :: rest) :: others)) :
    Threaded next last (remainder rest others) := by
  have flat : ((first :: rest) :: others).flatten =
      first :: (rest ++ others.flatten) := by simp
  have distinct := threaded.nodup
  rw [flat, List.nodup_cons] at distinct
  have nonempty := threaded.nonempty
  simp only [List.mem_cons, not_or] at nonempty
  constructor
  · rw [remainder]
    split
    · exact (List.nodup_append.mp distinct.2).2.1
    · exact distinct.2
  · intro member
    rcases mem_remainder member with ⟨same, notEmpty⟩ | other
    · exact notEmpty same.symm
    · exact nonempty.2 other
  · intro list' member
    rcases mem_remainder member with ⟨rfl, _⟩ | other
    · exact (threaded.chained _ List.mem_cons_self).of_cons
    · exact threaded.chained list' (List.mem_cons_of_mem _ other)
  · intro list' member a inList
    rcases mem_remainder member with ⟨rfl, notEmpty⟩ | other
    · rw [threaded.ends _ List.mem_cons_self a (List.mem_cons_of_mem _ inList),
        List.getLast?_cons_of_ne_nil notEmpty]
    · exact threaded.ends list' (List.mem_cons_of_mem _ other) a inList

end Threaded

/-- The cells of a list have a key that no cell of another list has. -/
def Keyed {α : Type u} {κ : Type v} (key : α → κ) (lists : List (List α)) : Prop :=
  ∀ list ∈ lists, ∀ list' ∈ lists, ∀ cell ∈ list, ∀ cell' ∈ list',
    key cell = key cell' ↔ list = list'

namespace Keyed

variable {α : Type u} {κ : Type v} {key key' : α → κ} {next : α → α} {last : α → Bool}
  {lists others : List (List α)} {list list' rest : List α} {cell first : α}

theorem congr (keyed : Keyed key lists)
    (same : ∀ cell ∈ lists.flatten, key' cell = key cell) : Keyed key' lists := by
  intro list member list' member' cell inList cell' inList'
  rw [same cell (List.mem_flatten.mpr ⟨list, member, inList⟩),
    same cell' (List.mem_flatten.mpr ⟨list', member', inList'⟩)]
  exact keyed list member list' member' cell inList cell' inList'

theorem perm (keyed : Keyed key lists) (same : lists.Perm others) : Keyed key others :=
  fun list member list' member' =>
    keyed list (same.mem_iff.mpr member) list' (same.mem_iff.mpr member')

theorem tail (keyed : Keyed key (list :: others)) : Keyed key others :=
  fun list member list' member' =>
    keyed list (List.mem_cons_of_mem _ member) list' (List.mem_cons_of_mem _ member')

theorem cons (keyed : Keyed key others) {k : κ} (ofList : ∀ cell ∈ list, key cell = k)
    (apart : ∀ cell ∈ others.flatten, key cell ≠ k) : Keyed key (list :: others) := by
  have other {list' : List α} (member : list' ∈ others) {cell cell' : α} (inList : cell ∈ list)
      (inList' : cell' ∈ list') : key cell ≠ key cell' ∧ list ≠ list' := by
    have differ := apart cell' (List.mem_flatten.mpr ⟨list', member, inList'⟩)
    exact ⟨fun same => differ (same ▸ ofList cell inList),
      fun same => differ (ofList cell' (same ▸ inList'))⟩
  intro a memberA b memberB cell inA cell' inB
  rcases List.mem_cons.mp memberA with rfl | otherA <;>
    rcases List.mem_cons.mp memberB with rfl | otherB
  · simp [ofList cell inA, ofList cell' inB]
  · have differ := other otherB inA inB
    simp [differ]
  · have differ := other otherA inB inA
    simp [differ.1.symm, differ.2.symm]
  · exact keyed a otherA b otherB cell inA cell' inB

theorem replace (keyed : Keyed key (list :: others))
    (threaded : Threaded next last (list :: others)) (inList : cell ∈ list)
    (ofList : ∀ cell' ∈ list', key cell' = key cell) : Keyed key (list' :: others) := by
  refine keyed.tail.cons ofList ?_
  intro other inside same
  rcases List.mem_flatten.mp inside with ⟨otherList, member, inOther⟩
  have equal := (keyed otherList (List.mem_cons_of_mem _ member) list List.mem_cons_self other
    inOther cell inList).mp same
  exact threaded.not_mem_others inList (List.mem_flatten.mpr ⟨list, equal ▸ member, inList⟩)

theorem remove (keyed : Keyed key ((first :: rest) :: others))
    (threaded : Threaded next last ((first :: rest) :: others)) :
    Keyed key (remainder rest others) := by
  rw [remainder]
  split
  · exact keyed.tail
  · refine keyed.replace threaded List.mem_cons_self fun cell inRest => ?_
    exact (keyed _ List.mem_cons_self _ List.mem_cons_self cell
      (List.mem_cons_of_mem _ inRest) first List.mem_cons_self).mpr rfl

end Keyed

end Cva6Hpd.Hw
