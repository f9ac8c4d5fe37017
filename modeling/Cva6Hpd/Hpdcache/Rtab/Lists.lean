import Cva6Hpd.Hpdcache.Rtab.Core
import Cva6Hpd.Hw.Threaded

/-!
# The lists of the replay table

The next pointers and the tail bits of the replay table represent disjoint
lists of requests of one line. The head bit of a list is set unless its first
entry is popped or is the one that the pop state machine presents next.
`Operation` lists what the controller asks for in one cycle, and
`Lists.step_operation` shows how each operation changes the lists.
-/

namespace Cva6Hpd.Hpdcache.Rtab

open Cva6Hpd.Hw
open Cva6Hpd.Common

variable {cfg : Cfg}

/-! ## The represented lists -/

/-- The entry waits for nothing and is not the head of a list. -/
def Quiet (state : State cfg) (i : cfg.RtabPtr) : Prop :=
  state.headQ i = false ∧ state.depsQ i = RtabDeps.none

/-- The request is to be executed in program order: an AMO or an uncacheable
access. -/
def Entry.isFence (entry : Entry cfg) : Bool :=
  entry.req.req.op.isAmo || entry.req.req.pma.uncacheable

def isFence (state : State cfg) (i : cfg.RtabPtr) : Bool := (state.reqQ i).isFence

/-- The key of a list: the line of its requests. A fence is alone in its list. -/
def lineKey (state : State cfg) (i : cfg.RtabPtr) : Nat ⊕ cfg.RtabPtr :=
  if isFence state i then .inr i else .inl (nline state i)

/-- The lists of the table, from their first entry to their tail, while
`popped` is the popped entry that is not committed yet. -/
structure Lists (state : State cfg) (popped : Option cfg.RtabPtr)
    (lists : List (List cfg.RtabPtr)) : Prop where
  threaded : Threaded state.nextQ state.tailQ lists
  valid : ∀ i, state.validQ i = true ↔ i ∈ lists.flatten
  keyed : Keyed (lineKey state) lists
  first : ∀ i rest, i :: rest ∈ lists → state.headQ i = true ∨ popped = some i ∨
    (state.popTryStateQ = .popTryNextWait ∧ state.popTryNextQ = Bits.single i)
  quiet : ∀ i, (∀ rest, i :: rest ∉ lists) → Quiet state i
  poppedFirst : ∀ i, popped = some i → (∃ rest, i :: rest ∈ lists) ∧ Quiet state i
  follows : ∀ i j rest, popped = some i → i :: j :: rest ∈ lists →
    state.popTryStateQ = .popTryNext
  popTryNext : state.popTryStateQ = .popTryNext → ∃ i j rest,
    popped = some i ∧ i :: j :: rest ∈ lists ∧ state.popTryNextQ = Bits.single j
  popTryNextWait : state.popTryStateQ = .popTryNextWait → popped = none ∧
    ∃ i rest, i :: rest ∈ lists ∧ Quiet state i ∧ state.popTryNextQ = Bits.single i
  popHeld : Rrarb.Holds state.popArb fun i => ready state i = true

theorem lists_reset : Lists (reset cfg) none [] where
  threaded := Threaded.empty _ _
  valid := by simp [reset]
  keyed := by simp [Keyed]
  first := by simp
  quiet := fun _ _ => ⟨rfl, rfl⟩
  poppedFirst := by simp
  follows := by simp
  popTryNext := by simp [reset]
  popTryNextWait := by simp [reset]
  popHeld := Rrarb.holds_reset _

/-! ## Operations -/

/-- The operations asked for: allocation of a head, allocation at the tail of a
list, commit and rollback. -/
def Input.operations (input : Input cfg) : Bool × Bool × Bool × Bool :=
  (input.alloc, input.allocAndLink, input.popCommit, input.popRback)

/-- What the controller can ask for in one cycle, by the popped entry. A new
request is put in the table, and a popped one put back, only in cycles without
a pop. A request that is to be linked is no fence, nor is any in the lists. -/
inductive Operation (state : State cfg) (input : Input cfg)
    (lists : List (List cfg.RtabPtr)) : Option cfg.RtabPtr → Prop
  | idle (operations : input.operations = (false, false, false, false)) :
      Operation state input lists none
  | alloc (operations : input.operations = (true, false, false, false))
      (noPop : input.popTry = false) (free : state.validQ.all = false)
      (unlinked : input.allocReq.isFence = false →
        ∀ i ∈ lists.flatten, nline state i ≠ input.allocReq.req.req.nline) :
      Operation state input lists none
  | link (operations : input.operations = (false, true, false, false))
      (noPop : input.popTry = false) (free : state.validQ.all = false)
      (noDeps : input.allocDeps = RtabDeps.none)
      (line : input.allocReq.req.req.nline = input.checkNline)
      (notFence : input.allocReq.isFence = false)
      (known : ∃ i ∈ lists.flatten, nline state i = input.checkNline)
      (noFence : ∀ i ∈ lists.flatten, isFence state i = false) :
      Operation state input lists none
  | commit (i : cfg.RtabPtr) (operations : input.operations = (false, false, true, false))
      (ptr : input.popCommitPtr = i) :
      Operation state input lists (some i)
  | rback (i : cfg.RtabPtr) (operations : input.operations = (false, false, false, true))
      (noPop : input.popTry = false) (ptr : input.popRbackPtr = i)
      (line : input.allocReq.req.req.nline = nline state i)
      (fence : input.allocReq.isFence = isFence state i) :
      Operation state input lists (some i)

theorem Operation.pops {state : State cfg} {input : Input cfg} {lists : List (List cfg.RtabPtr)}
    {popped : Option cfg.RtabPtr} (operation : Operation state input lists popped) :
    (input.popCommit = true → popped = some input.popCommitPtr) ∧
      (input.popRback = true → popped = some input.popRbackPtr ∧ input.popTry = false ∧
        (input.alloc || input.allocAndLink) = false) ∧
      (popped ≠ none → (input.popCommit || input.popRback) = true) := by
  cases operation <;> simp_all [Input.operations]

/-- The popped entry of the next cycle. -/
def poppedNext (state : State cfg) (input : Input cfg) : Option cfg.RtabPtr :=
  if input.popTry then some (popTryPtr state) else none

/-- The entry that an allocation takes. -/
def freePtr (state : State cfg) : cfg.RtabPtr := (freeAlloc state).firstIndex

/-- How an operation changes the lists. -/
inductive Change (state : State cfg) (input : Input cfg) :
    Option cfg.RtabPtr → List (List cfg.RtabPtr) → List (List cfg.RtabPtr) → Prop
  | kept {popped lists} : Change state input popped lists lists
  | started {lists} (puts : allocBv state input (freePtr state) = true) :
      Change state input none lists ([freePtr state] :: lists)
  | appended {lists list others} (puts : allocBv state input (freePtr state) = true)
      (same : lists.Perm (list :: others)) :
      Change state input none lists ((list ++ [freePtr state]) :: others)
  | committed {lists i rest others} (same : lists.Perm ((i :: rest) :: others)) :
      Change state input (some i) lists (remainder rest others)

theorem Change.sorted {state : State cfg} {input : Input cfg} {popped : Option cfg.RtabPtr}
    {lists lists' : List (List cfg.RtabPtr)} {before : cfg.RtabPtr → cfg.RtabPtr → Prop}
    (change : Change state input popped lists lists')
    (sorted : ∀ list ∈ lists, list.Pairwise before)
    (last : allocBv state input (freePtr state) = true →
      ∀ i ∈ lists.flatten, before i (freePtr state)) :
    ∀ list ∈ lists', list.Pairwise before := by
  intro list member
  cases change with
  | kept => exact sorted list member
  | started =>
      rcases List.mem_cons.mp member with rfl | old
      · exact List.pairwise_singleton _ _
      · exact sorted list old
  | @appended _ front _ puts same =>
      rcases List.mem_cons.mp member with rfl | other
      · have inside := same.mem_iff.mpr List.mem_cons_self
        refine List.pairwise_append.mpr
          ⟨sorted front inside, List.pairwise_singleton _ _, fun i inFront j isNew => ?_⟩
        rw [List.mem_singleton.mp isNew]
        exact last puts i (List.mem_flatten.mpr ⟨front, inside, inFront⟩)
      · exact sorted list (same.mem_iff.mpr (List.mem_cons_of_mem _ other))
  | committed same =>
      rcases mem_remainder member with ⟨rfl, _⟩ | other
      · exact (sorted _ (same.mem_iff.mpr List.mem_cons_self)).of_cons
      · exact sorted list (same.mem_iff.mpr (List.mem_cons_of_mem _ other))

/-! ## Dependencies -/

@[simp]
theorem updateDeps_none (set rst : RtabDeps) : updateDeps RtabDeps.none set rst = set := by
  simp [updateDeps, setReset, RtabDeps.none]

theorem eq_none_of_any {deps : RtabDeps} (free : deps.any = false) : deps = RtabDeps.none := by
  cases deps
  simp only [RtabDeps.any, Bool.or_eq_false_iff] at free
  simp [RtabDeps.none, free]

/-! ## The entry that is popped -/

section Pop

variable {state : State cfg} {popped : Option cfg.RtabPtr}
  {lists : List (List cfg.RtabPtr)}

theorem mem_flatten_first {i : cfg.RtabPtr} {rest : List cfg.RtabPtr}
    (member : i :: rest ∈ lists) : i ∈ lists.flatten :=
  List.mem_flatten.mpr ⟨i :: rest, member, List.mem_cons_self⟩

theorem Lists.rest (inv : Lists state popped lists) {i j : cfg.RtabPtr}
    {rest : List cfg.RtabPtr} (member : i :: rest ∈ lists) (inRest : j ∈ rest) :
    Quiet state j := by
  refine inv.quiet j fun rest' member' => ?_
  have equal := inv.threaded.list_unique member member' (List.mem_cons_of_mem _ inRest)
    List.mem_cons_self
  have distinct := inv.threaded.nodup_list member
  rw [(List.cons.inj equal).1] at distinct
  exact (List.nodup_cons.mp distinct).1 inRest

theorem Lists.outside (inv : Lists state popped lists) {i : cfg.RtabPtr}
    (notMember : i ∉ lists.flatten) : Quiet state i :=
  inv.quiet i fun _ member => notMember (mem_flatten_first member)

theorem Lists.first_of_head (inv : Lists state popped lists) {i : cfg.RtabPtr}
    (head : state.headQ i = true) : ∃ rest, i :: rest ∈ lists := by
  by_contra notFirst
  rw [(inv.quiet i (not_exists.mp notFirst)).1] at head
  contradiction

theorem lineKey_of_not {i : cfg.RtabPtr} (notFence : isFence state i = false) :
    lineKey state i = .inl (nline state i) := by
  rw [lineKey, notFence, if_neg Bool.false_ne_true]

theorem lineKey_congr {state' : State cfg} {i : cfg.RtabPtr}
    (fence : isFence state' i = isFence state i) (line : nline state' i = nline state i) :
    lineKey state' i = lineKey state i := by
  rw [lineKey, fence, line, lineKey]

theorem Lists.alone (inv : Lists state popped lists) {i : cfg.RtabPtr}
    (inside : i ∈ lists.flatten) (fence : isFence state i = true) : [i] ∈ lists := by
  rcases List.mem_flatten.mp inside with ⟨list, member, inList⟩
  have single (j : cfg.RtabPtr) (inListJ : j ∈ list) : j = i := by
    have key := (inv.keyed list member list member j inListJ i inList).mpr rfl
    rw [lineKey, lineKey, fence, if_pos rfl] at key
    split at key
    · exact Sum.inr.inj key
    · contradiction
  have distinct := inv.threaded.nodup_list member
  rw [List.eq_replicate_of_mem single] at distinct member
  have short := List.nodup_replicate.mp distinct
  have long := List.length_pos_of_mem inList
  rwa [show list.length = 1 by omega] at member

theorem ready_iff (state : State cfg) (i : cfg.RtabPtr) :
    ready state i = true ↔
      state.validQ i = true ∧ state.headQ i = true ∧ state.depsQ i = RtabDeps.none := by
  simp only [ready, nodeps, Bool.and_eq_true, Bool.not_eq_true', and_assoc]
  constructor
  · rintro ⟨valid, head, free⟩
    exact ⟨valid, head, eq_none_of_any free⟩
  · rintro ⟨valid, head, free⟩
    exact ⟨valid, head, by rw [free]; rfl⟩

/-- What the table presents to be replayed is the first entry of a list, or the
successor of the popped entry. -/
theorem Lists.popSel_single (inv : Lists state popped lists)
    (valid : popTryValid state = true) :
    ∃ i, popSel state = Bits.single i ∧ popTryPtr state = i ∧
      state.depsQ i = RtabDeps.none ∧
      ((popped ≠ some i ∧ ∃ rest, i :: rest ∈ lists) ∨
        ∃ j rest, popped = some j ∧ j :: i :: rest ∈ lists) := by
  cases fsm : state.popTryStateQ with
  | popTryHead =>
      simp only [popTryValid, fsm] at valid
      rcases Rrarb.gnt_oneHot inv.popHeld valid with ⟨i, granted, eligible⟩
      have isReady : ready state i = true := by simpa using eligible
      rcases (ready_iff state i).mp isReady with ⟨_, head, free⟩
      have sel : popSel state = Bits.single i := by
        rw [popSel, fsm]
        exact granted
      refine ⟨i, sel, by rw [popTryPtr, sel, Bits.firstIndex_single], free, Or.inl ⟨?_, ?_⟩⟩
      · intro isPopped
        rw [(inv.poppedFirst i isPopped).2.1] at head
        contradiction
      · exact inv.first_of_head head
  | popTryNext =>
      rcases inv.popTryNext fsm with ⟨i, j, rest, isPopped, member, next⟩
      have sel : popSel state = Bits.single j := by
        rw [popSel, fsm]
        exact next
      have quiet := inv.rest member List.mem_cons_self
      exact ⟨j, sel, by rw [popTryPtr, sel, Bits.firstIndex_single], quiet.2,
        Or.inr ⟨i, rest, isPopped, member⟩⟩
  | popTryNextWait =>
      rcases inv.popTryNextWait fsm with ⟨noPopped, i, rest, member, quiet, next⟩
      have sel : popSel state = Bits.single i := by
        rw [popSel, fsm]
        exact next
      exact ⟨i, sel, by rw [popTryPtr, sel, Bits.firstIndex_single], quiet.2,
        Or.inl ⟨by simp [noPopped], rest, member⟩⟩

theorem followList_cases {i : cfg.RtabPtr}
    (sel : popSel state = Bits.single i) (ptr : popTryPtr state = i) :
    (state.tailQ i = true ∧
        followList state .popTryHead = (.popTryHead, state.popTryNextQ)) ∨
      (state.tailQ i = false ∧
        followList state .popTryHead = (.popTryNext, Bits.single (state.nextQ i))) := by
  cases tail : state.tailQ i with
  | true =>
      have last : popSelNotTail state = false := by
        simp only [popSelNotTail, sel, Bits.any_eq_false_iff]
        intro j
        by_cases same : j = i
        · simp [same, tail]
        · simp [Bits.single, same]
      exact Or.inl ⟨rfl, by simp [followList, last]⟩
  | false =>
      have inner : popSelNotTail state = true := by
        simp only [popSelNotTail, sel, Bits.any_eq_true_iff]
        exact ⟨i, by simp [tail]⟩
      exact Or.inr ⟨rfl, by simp [followList, inner, rtabNext, ptr]⟩

end Pop

/-! ## Cycles without an allocation -/

section Steps

variable (state : State cfg) (input : Input cfg)

/-- The flags after a cycle in which no request is put in the table. -/
structure NoAlloc : Prop where
  reqQ : (step state input).reqQ = state.reqQ
  nextQ : (step state input).nextQ = state.nextQ
  tailQ : (step state input).tailQ = state.tailQ
  validQ : ∀ i, (step state input).validQ i = (state.validQ i && !popCommitBv input i)
  headQ : ∀ i, (step state input).headQ i = (state.headQ i && !popTryBv state input i)
  depsQ : ∀ i, (step state input).depsQ i =
    updateDeps (state.depsQ i) RtabDeps.none (depsRst state input i)

variable {state input}

theorem noAlloc_step (alloc : input.alloc = false) (link : input.allocAndLink = false)
    (rback : input.popRback = false) : NoAlloc state input := by
  constructor
  · simp [step, allocBv, popRbackBv, alloc, link, rback]
  · simp [step, link]
  · simp [step, setReset, allocBv, alloc, link]
  · simp [step, setReset, allocBv, alloc, link]
  · simp [step, setReset, popRbackBv, alloc, link, rback]
  · simp [step, depsSet, allocBv, popRbackBv, alloc, link, rback]

theorem NoAlloc.quiet (same : NoAlloc state input) {i : cfg.RtabPtr} (quiet : Quiet state i) :
    Quiet (step state input) i := by
  rw [Quiet, same.headQ, same.depsQ, quiet.1, quiet.2]
  exact ⟨rfl, updateDeps_none _ _⟩

theorem NoAlloc.ready (same : NoAlloc state input) {i : cfg.RtabPtr}
    (isReady : ready state i = true) (noCommit : popCommitBv input i = false)
    (noPop : popTryBv state input i = false) : ready (step state input) i = true := by
  rcases (ready_iff state i).mp isReady with ⟨valid, head, free⟩
  rw [ready_iff, same.validQ, same.headQ, same.depsQ, valid, head, free, noCommit, noPop]
  exact ⟨rfl, rfl, updateDeps_none _ _⟩

/-- The lists that remain when the popped entry leaves its list. -/
structure Leaves (popped : Option cfg.RtabPtr) (lists lists' : List (List cfg.RtabPtr)) :
    Prop where
  before : ∀ i rest, i :: rest ∈ lists' → (popped ≠ some i ∧ i :: rest ∈ lists) ∨
    ∃ j, popped = some j ∧ j :: i :: rest ∈ lists
  other : ∀ i rest, i :: rest ∈ lists → popped ≠ some i → i :: rest ∈ lists'
  successor : ∀ j i rest, popped = some j → j :: i :: rest ∈ lists → i :: rest ∈ lists'

theorem leaves_none (lists : List (List cfg.RtabPtr)) : Leaves none lists lists where
  before := fun _ _ member => Or.inl ⟨by simp, member⟩
  other := fun _ _ member _ => member
  successor := by simp

theorem leaves_remainder {next : cfg.RtabPtr → cfg.RtabPtr} {last : Bits cfg.rtabEntries}
    {lists others : List (List cfg.RtabPtr)} {j : cfg.RtabPtr} {rest : List cfg.RtabPtr}
    (threaded : Threaded next last lists) (same : lists.Perm ((j :: rest) :: others)) :
    Leaves (some j) lists (remainder rest others) := by
  have fronted := threaded.perm same
  have ofFirst (i : cfg.RtabPtr) (after : List cfg.RtabPtr) (member : j :: i :: after ∈ lists) :
      rest = i :: after := by
    have equal := threaded.list_unique member (same.mem_iff.mpr List.mem_cons_self)
      List.mem_cons_self List.mem_cons_self
    exact (List.cons.inj equal).2.symm
  constructor
  · intro i after member
    rcases mem_remainder member with ⟨equal, _⟩ | other
    · exact Or.inr ⟨j, rfl, same.mem_iff.mpr (by simp [equal])⟩
    · refine Or.inl ⟨?_, same.mem_iff.mpr (List.mem_cons_of_mem _ other)⟩
      intro isPopped
      rw [Option.some.injEq] at isPopped
      exact fronted.not_mem_others (isPopped ▸ List.mem_cons_self)
        (mem_flatten_first other)
  · intro i after member notPopped
    rcases List.mem_cons.mp (same.mem_iff.mp member) with equal | other
    · exact absurd (congrArg some (List.cons.inj equal).1.symm) notPopped
    · rw [remainder]
      split
      · exact other
      · exact List.mem_cons_of_mem _ other
  · intro k i after isPopped member
    rw [Option.some.injEq] at isPopped
    rw [← isPopped] at member
    rw [remainder, ofFirst i after member]
    simp

theorem popTryD_of_pop (noRback : input.popRback = false) (pop : input.popTry = true)
    (valid : popTryValid state = true) :
    popTryD state input = followList state .popTryHead := by
  simp only [popTryD, noRback, pop, valid]
  cases state.popTryStateQ <;> simp

theorem popTryD_of_noPop (noRback : input.popRback = false) (noPop : input.popTry = false) :
    popTryD state input =
      (if state.popTryStateQ = .popTryHead then .popTryHead else .popTryNextWait,
        state.popTryNextQ) := by
  simp only [popTryD, noRback, noPop]
  cases state.popTryStateQ <;> simp

theorem Lists.popped_entry {popped : Option cfg.RtabPtr} {lists lists' : List (List cfg.RtabPtr)}
    (inv : Lists state popped lists) (leaves : Leaves popped lists lists')
    (valid : popTryValid state = true) :
    ∃ i rest, popSel state = Bits.single i ∧ popTryPtr state = i ∧
      state.depsQ i = RtabDeps.none ∧ i :: rest ∈ lists' := by
  rcases inv.popSel_single valid with ⟨i, sel, ptr, free, first | next⟩
  · rcases first with ⟨notPopped, rest, member⟩
    exact ⟨i, rest, sel, ptr, free, leaves.other i rest member notPopped⟩
  · rcases next with ⟨j, rest, isPopped, member⟩
    exact ⟨i, rest, sel, ptr, free, leaves.successor j i rest isPopped member⟩

theorem Lists.step_leaves {popped : Option cfg.RtabPtr} {lists lists' : List (List cfg.RtabPtr)}
    (inv : Lists state popped lists) (same : NoAlloc state input) (noRback : input.popRback = false)
    (pops : input.popTry = true → popTryValid state = true)
    (leaves : Leaves popped lists lists')
    (threaded : Threaded state.nextQ state.tailQ lists') (keyed : Keyed (lineKey state) lists')
    (valid : ∀ i, (state.validQ i && !popCommitBv input i) = true ↔
      i ∈ lists'.flatten)
    (commits : ∀ i, popCommitBv input i = true → popped = some i) :
    Lists (step state input) (poppedNext state input) lists' := by
  have popsOf (i : cfg.RtabPtr) (popped : poppedNext state input = some i) :
      input.popTry = true ∧ popTryPtr state = i := by
    rw [poppedNext] at popped
    cases pop : input.popTry with
    | false => simp [pop] at popped
    | true => simpa [pop] using popped
  have fsm : (step state input).popTryStateQ = (popTryD state input).1 := rfl
  have target : (step state input).popTryNextQ = (popTryD state input).2 := rfl
  constructor
  · rw [same.nextQ, same.tailQ]
    exact threaded
  · intro i
    rw [same.validQ]
    exact valid i
  · refine keyed.congr fun i _ => lineKey_congr ?_ ?_
    · rw [isFence, same.reqQ, isFence]
    · rw [nline, same.reqQ, nline]
  · -- The first entry keeps its head bit, is popped, or is presented next.
    intro i rest member
    have popped (sel : popTryBv state input i = true) : poppedNext state input = some i := by
      simp only [popTryBv, Bool.and_eq_true] at sel
      rcases inv.popped_entry leaves (pops sel.2) with ⟨j, _, isSel, ptr, _, _⟩
      rw [isSel, Bits.single_eq_true_iff] at sel
      simp [poppedNext, sel.2, ptr, sel.1]
    have waits (presented : state.popTryStateQ ≠ .popTryHead)
        (next : state.popTryNextQ = Bits.single i) :
        poppedNext state input = some i ∨
          ((step state input).popTryStateQ = .popTryNextWait ∧
            (step state input).popTryNextQ = Bits.single i) := by
      cases pop : input.popTry with
      | true =>
          have sel : popSel state = Bits.single i := by
            rw [popSel]
            cases held : state.popTryStateQ with
            | popTryHead => exact absurd held presented
            | popTryNext => exact next
            | popTryNextWait => exact next
          exact Or.inl (popped (by simp [popTryBv, sel, pop]))
      | false =>
          rw [fsm, target, popTryD_of_noPop noRback pop, if_neg presented]
          exact Or.inr ⟨rfl, next⟩
    rcases leaves.before i rest member with ⟨notPopped, old⟩ | ⟨j, isPopped, old⟩
    · rcases inv.first i rest old with head | isPopped | ⟨waiting, next⟩
      · rw [same.headQ, head]
        cases sel : popTryBv state input i with
        | true => exact Or.inr (Or.inl (popped sel))
        | false => exact Or.inl rfl
      · exact absurd isPopped notPopped
      · exact Or.inr (waits (by simp [waiting]) next)
    · have following := inv.follows j i rest isPopped old
      rcases inv.popTryNext following with ⟨j', i', rest', isPopped', old', next⟩
      rw [isPopped, Option.some.injEq] at isPopped'
      have equal := inv.threaded.list_unique old old' List.mem_cons_self
        (isPopped' ▸ List.mem_cons_self)
      have sameNext : i = i' := (List.cons.inj (List.cons.inj equal).2).1
      exact Or.inr (waits (by simp [following]) (sameNext ▸ next))
  · intro i notFirst
    by_cases isPopped : popped = some i
    · exact same.quiet (inv.poppedFirst i isPopped).2
    · exact same.quiet (inv.quiet i fun rest member =>
        notFirst rest (leaves.other i rest member isPopped))
  · intro i isPopped
    rcases popsOf i isPopped with ⟨pop, ptr⟩
    rcases inv.popped_entry leaves (pops pop) with ⟨j, rest, sel, ptr', free, member⟩
    rw [ptr] at ptr'
    rw [← ptr'] at sel free member
    refine ⟨⟨rest, member⟩, ?_, ?_⟩
    · simp [same.headQ, popTryBv, sel, pop]
    · rw [same.depsQ, free, updateDeps_none]
  · intro i j rest isPopped member
    rcases popsOf i isPopped with ⟨pop, ptr⟩
    rcases inv.popped_entry leaves (pops pop) with ⟨k, _, sel, ptr', _, _⟩
    rw [ptr] at ptr'
    rw [← ptr'] at sel
    have inner : state.tailQ i = false := threaded.inner_of_next member
    rcases followList_cases sel ptr with ⟨tail, _⟩ | ⟨_, follow⟩
    · rw [inner] at tail
      contradiction
    · rw [fsm, popTryD_of_pop noRback pop (pops pop), follow]
  · intro following
    cases pop : input.popTry with
    | false =>
        rw [fsm, popTryD_of_noPop noRback pop] at following
        split at following <;> contradiction
    | true =>
        rcases inv.popped_entry leaves (pops pop) with ⟨i, rest, sel, ptr, _, member⟩
        rw [fsm, popTryD_of_pop noRback pop (pops pop)] at following
        rcases followList_cases sel ptr with ⟨_, follow⟩ | ⟨inner, follow⟩
        · rw [follow] at following
          contradiction
        · rcases threaded.next_of_first member inner with ⟨after, split⟩
          refine ⟨i, state.nextQ i, after, by simp [poppedNext, pop, ptr], split ▸ member, ?_⟩
          rw [target, popTryD_of_pop noRback pop (pops pop), follow]
  · intro waiting
    cases pop : input.popTry with
    | true =>
        rcases inv.popped_entry leaves (pops pop) with ⟨i, _, sel, ptr, _, _⟩
        rw [fsm, popTryD_of_pop noRback pop (pops pop)] at waiting
        rcases followList_cases sel ptr with ⟨_, follow⟩ | ⟨_, follow⟩ <;>
          rw [follow] at waiting <;> contradiction
    | false =>
        refine ⟨by simp [poppedNext, pop], ?_⟩
        rw [target, popTryD_of_noPop noRback pop]
        cases before : state.popTryStateQ with
        | popTryHead => simp [fsm, popTryD_of_noPop noRback pop, before] at waiting
        | popTryNext =>
            rcases inv.popTryNext before with ⟨j, i, rest, isPopped, member, next⟩
            exact ⟨i, rest, leaves.successor j i rest isPopped member,
              same.quiet (inv.rest member List.mem_cons_self), next⟩
        | popTryNextWait =>
            rcases inv.popTryNextWait before with ⟨noPopped, i, rest, member, quiet, next⟩
            exact ⟨i, rest, leaves.other i rest member (by simp [noPopped]),
              same.quiet quiet, next⟩
  · refine Rrarb.holds_step inv.popHeld ?_ ?_
    all_goals
      intro stalled i isReady
      have head := ((ready_iff state i).mp isReady).2.1
      refine same.ready isReady ?_ ?_
      · rw [Bool.eq_false_iff]
        intro commit
        rw [(inv.poppedFirst i (commits i commit)).2.1] at head
        contradiction
      · rw [Bool.eq_false_iff]
        intro sel
        simp only [popTryBv, Bool.and_eq_true] at sel
        cases before : state.popTryStateQ with
        | popTryHead => simp [popHead, before, noRback, sel.2, pops sel.2] at stalled
        | popTryNext =>
            rcases inv.popTryNext before with ⟨j, k, rest, _, member, next⟩
            rw [popSel, before] at sel
            simp only [next, Bits.single_eq_true_iff] at sel
            rw [sel.1, (inv.rest member List.mem_cons_self).1] at head
            contradiction
        | popTryNextWait =>
            rcases inv.popTryNextWait before with ⟨_, k, rest, _, quiet, next⟩
            rw [popSel, before] at sel
            simp only [next, Bits.single_eq_true_iff] at sel
            rw [sel.1, quiet.1] at head
            contradiction

/-! ## Rollback -/

/-- The flags after a rollback. -/
structure RolledBack (state : State cfg) (input : Input cfg) (i : cfg.RtabPtr) : Prop where
  reqQ : ∀ j, (step state input).reqQ j = if j = i then input.allocReq else state.reqQ j
  nextQ : (step state input).nextQ = state.nextQ
  tailQ : (step state input).tailQ = state.tailQ
  validQ : (step state input).validQ = state.validQ
  headQ : ∀ j, (step state input).headQ j = (state.headQ j || decide (j = i))
  depsQ : ∀ j, (step state input).depsQ j =
    updateDeps (state.depsQ j) (if j = i then input.allocDeps else RtabDeps.none)
      (depsRst state input j)
  fsm : (step state input).popTryStateQ ≠ .popTryNext

theorem rolledBack_step {i : cfg.RtabPtr}
    (operations : input.operations = (false, false, false, true))
    (noPop : input.popTry = false) (ptr : input.popRbackPtr = i) : RolledBack state input i := by
  simp only [Input.operations, Prod.mk.injEq] at operations
  rcases operations with ⟨alloc, link, commit, rback⟩
  constructor
  · simp [step, allocBv, popRbackBv, alloc, link, rback, ptr]
  · simp [step, link]
  · simp [step, setReset, allocBv, alloc, link]
  · simp [step, setReset, allocBv, popCommitBv, alloc, link, commit]
  · intro j
    cases head : state.headQ j <;>
      simp [step, setReset, popRbackBv, popTryBv, alloc, link, rback, ptr, noPop, head]
  · simp [step, depsSet, allocBv, popRbackBv, alloc, link, rback, ptr]
  · simp only [step, popTryD, rback, noPop]
    cases state.popTryStateQ <;> simp

theorem RolledBack.quiet {i j : cfg.RtabPtr} (back : RolledBack state input i) (other : j ≠ i)
    (quiet : Quiet state j) : Quiet (step state input) j := by
  rw [Quiet, back.headQ, back.depsQ, quiet.1, quiet.2, if_neg other]
  exact ⟨by simp [other], updateDeps_none _ _⟩

theorem RolledBack.ready {i j : cfg.RtabPtr} (back : RolledBack state input i) (other : j ≠ i)
    (isReady : ready state j = true) : ready (step state input) j = true := by
  rcases (ready_iff state j).mp isReady with ⟨valid, head, free⟩
  rw [ready_iff, back.validQ, back.headQ, back.depsQ, valid, head, free, if_neg other]
  exact ⟨rfl, rfl, updateDeps_none _ _⟩

theorem Lists.step_rback {i : cfg.RtabPtr} {lists : List (List cfg.RtabPtr)}
    (inv : Lists state (some i) lists)
    (operations : input.operations = (false, false, false, true))
    (noPop : input.popTry = false) (ptr : input.popRbackPtr = i)
    (line : input.allocReq.req.req.nline = nline state i)
    (fence : input.allocReq.isFence = isFence state i) :
    Lists (step state input) none lists := by
  have back : RolledBack state input i := rolledBack_step operations noPop ptr
  rcases inv.poppedFirst i rfl with ⟨⟨after, member⟩, quiet⟩
  have notWaiting : state.popTryStateQ ≠ .popTryNextWait := by
    intro waiting
    simpa using (inv.popTryNextWait waiting).1
  have sameKey (j : cfg.RtabPtr) : lineKey (step state input) j = lineKey state j := by
    apply lineKey_congr
    · rw [isFence, back.reqQ]
      split
      · rename_i isPopped
        rw [isPopped, fence]
      · rfl
    · rw [nline, back.reqQ]
      split
      · rename_i isPopped
        rw [isPopped, line]
      · rfl
  constructor
  · rw [back.nextQ, back.tailQ]
    exact inv.threaded
  · rw [back.validQ]
    exact inv.valid
  · exact inv.keyed.congr fun j _ => sameKey j
  · intro j rest member
    rcases inv.first j rest member with head | isPopped | ⟨waiting, _⟩
    · exact Or.inl (by rw [back.headQ, head, Bool.true_or])
    · rw [Option.some.injEq] at isPopped
      exact Or.inl (by simp [back.headQ, isPopped])
    · exact absurd waiting notWaiting
  · intro j notFirst
    refine back.quiet ?_ (inv.quiet j notFirst)
    rintro rfl
    exact notFirst after member
  · simp
  · simp
  · intro following
    exact absurd following back.fsm
  · intro waiting
    simp only [step, popTryD, noPop] at waiting
    simp only [Input.operations, Prod.mk.injEq] at operations
    rw [operations.2.2.2] at waiting
    cases before : state.popTryStateQ with
    | popTryHead => simp [before] at waiting
    | popTryNext => simp [before] at waiting
    | popTryNextWait => exact absurd before notWaiting
  · refine Rrarb.holds_step inv.popHeld ?_ ?_
    all_goals
      intro _ j isReady
      refine back.ready ?_ isReady
      rintro rfl
      rw [ready_iff, quiet.1] at isReady
      simp at isReady

/-! ## Allocation -/

theorem freeAlloc_single (free : state.validQ.all = false) :
    freeAlloc state = Bits.single (freePtr state) ∧ state.validQ (freePtr state) = false := by
  rw [Bits.all_eq_false_iff] at free
  rcases free with ⟨i, invalid⟩
  have pending : (Bits.any fun i => !state.validQ i) = true :=
    (Bits.any_eq_true_iff _).mpr ⟨i, by simp [invalid]⟩
  rcases Rrarb.prio1hotEncoder_oneHot pending with ⟨j, isSingle, isFree⟩
  have ptr : freePtr state = j := by
    rw [freePtr, freeAlloc, isSingle, Bits.firstIndex_single]
  exact ⟨by rw [ptr, freeAlloc, isSingle], by rw [ptr]; simpa using isFree⟩

/-- The flags after an allocation; `head` tells whether the entry is a head. -/
structure Allocated (state : State cfg) (input : Input cfg) (head : Bool) : Prop where
  free : state.validQ (freePtr state) = false
  reqQ : ∀ j, (step state input).reqQ j =
    if j = freePtr state then input.allocReq else state.reqQ j
  nextQ : ∀ j, (step state input).nextQ j =
    if !head && matchCheckTail state input.checkNline j then freePtr state else state.nextQ j
  tailQ : ∀ j, (step state input).tailQ j =
    (decide (j = freePtr state) ||
      (state.tailQ j && !(!head && matchCheckTail state input.checkNline j)))
  validQ : ∀ j, (step state input).validQ j = (state.validQ j || decide (j = freePtr state))
  headQ : ∀ j, state.headQ (freePtr state) = false →
    (step state input).headQ j = (state.headQ j || (head && decide (j = freePtr state)))
  depsQ : ∀ j, (step state input).depsQ j =
    updateDeps (state.depsQ j)
      (if j = freePtr state then input.allocDeps else RtabDeps.none) (depsRst state input j)
  fsm : (step state input).popTryStateQ =
    if state.popTryStateQ = .popTryHead then .popTryHead else .popTryNextWait
  target : (step state input).popTryNextQ = state.popTryNextQ
  popArb : (step state input).popArb = Rrarb.step state.popArb (ready state) false

theorem allocated_step {head : Bool} (operations : input.operations = (head, !head, false, false))
    (noPop : input.popTry = false) (free : state.validQ.all = false) :
    Allocated state input head := by
  simp only [Input.operations, Prod.mk.injEq] at operations
  rcases operations with ⟨alloc, link, commit, rback⟩
  rcases freeAlloc_single free with ⟨isSingle, invalid⟩
  have allocs (j : cfg.RtabPtr) : allocBv state input j = decide (j = freePtr state) := by
    simp [allocBv, isSingle, Bits.single, alloc, link]
  have notMatched : matchCheckTail state input.checkNline (freePtr state) = false := by
    simp [matchCheckTail, checkHitBv, invalid]
  constructor
  · exact invalid
  · intro j
    simp [step, allocs, popRbackBv, rback]
  · intro j
    simp [step, link, freePtr]
  · intro j
    by_cases isFree : j = freePtr state
    · rw [isFree]
      cases tail : state.tailQ (freePtr state) <;>
        simp [step, setReset, allocs, notMatched, tail]
    · simp [step, setReset, allocs, isFree, link, Bool.and_comm]
  · intro j
    cases valid : state.validQ j <;>
      simp [step, setReset, allocs, popCommitBv, commit, valid]
  · intro j headOff
    by_cases isFree : j = freePtr state
    · rw [isFree]
      simp [step, setReset, isSingle, alloc, popRbackBv, rback, headOff]
    · simp [step, setReset, isSingle, Bits.single, isFree, popRbackBv, rback, popTryBv, noPop]
  · intro j
    simp [step, depsSet, allocs, popRbackBv, rback]
  · rw [show (step state input).popTryStateQ = (popTryD state input).1 from rfl,
      popTryD_of_noPop rback noPop]
  · rw [show (step state input).popTryNextQ = (popTryD state input).2 from rfl,
      popTryD_of_noPop rback noPop]
  · simp [step, popHead, noPop]

section Allocation

variable {lists : List (List cfg.RtabPtr)} {head : Bool}

theorem Lists.free_outside (inv : Lists state none lists)
    (allocated : Allocated state input head) : freePtr state ∉ lists.flatten := by
  rw [← inv.valid, allocated.free]
  exact Bool.false_ne_true

theorem Allocated.quiet (allocated : Allocated state input head) {j : cfg.RtabPtr}
    (freeOff : state.headQ (freePtr state) = false) (other : j ≠ freePtr state)
    (quiet : Quiet state j) : Quiet (step state input) j := by
  rw [Quiet, allocated.headQ j freeOff, allocated.depsQ, quiet.1, quiet.2, if_neg other]
  exact ⟨by simp [other], updateDeps_none _ _⟩

theorem Allocated.lineKey (allocated : Allocated state input head) {j : cfg.RtabPtr}
    (other : j ≠ freePtr state) : lineKey (step state input) j = lineKey state j := by
  apply lineKey_congr
  · rw [isFence, allocated.reqQ, if_neg other, isFence]
  · rw [nline, allocated.reqQ, if_neg other, nline]

theorem Allocated.lineKey_free (allocated : Allocated state input head) :
    Rtab.lineKey (step state input) (freePtr state) =
      if input.allocReq.isFence then .inr (freePtr state)
      else .inl input.allocReq.req.req.nline := by
  rw [Rtab.lineKey, isFence, nline, allocated.reqQ, if_pos rfl]

theorem Lists.fsm_alloc (inv : Lists state none lists)
    (allocated : Allocated state input head) :
    (step state input).popTryStateQ = state.popTryStateQ := by
  rw [allocated.fsm]
  cases before : state.popTryStateQ with
  | popTryHead => rfl
  | popTryNext =>
      rcases inv.popTryNext before with ⟨i, _, _, isPopped, _⟩
      contradiction
  | popTryNextWait => rfl

theorem Lists.popHeld_alloc (inv : Lists state none lists)
    (allocated : Allocated state input head) :
    Rrarb.Holds (step state input).popArb fun i => ready (step state input) i = true := by
  have freeOff := (inv.outside (inv.free_outside allocated)).1
  rw [allocated.popArb]
  refine Rrarb.holds_step inv.popHeld ?_ ?_
  all_goals
    intro _ j isReady
    rcases (ready_iff state j).mp isReady with ⟨valid, isHead, noDeps⟩
    have other : j ≠ freePtr state := by
      rintro rfl
      rw [allocated.free] at valid
      contradiction
    rw [ready_iff, allocated.validQ, allocated.headQ j freeOff, allocated.depsQ, valid, isHead,
      noDeps, if_neg other]
    exact ⟨rfl, rfl, updateDeps_none _ _⟩

theorem Lists.step_alloc (inv : Lists state none lists)
    (operations : input.operations = (true, false, false, false))
    (noPop : input.popTry = false) (free : state.validQ.all = false)
    (unlinked : input.allocReq.isFence = false →
      ∀ i ∈ lists.flatten, nline state i ≠ input.allocReq.req.req.nline) :
    Lists (step state input) none ([freePtr state] :: lists) := by
  have allocated : Allocated state input true := allocated_step operations noPop free
  have fresh := inv.free_outside allocated
  have freeOff := (inv.outside fresh).1
  have fsm := inv.fsm_alloc allocated
  have old {i : cfg.RtabPtr} (member : i ∈ lists.flatten) : i ≠ freePtr state := by
    rintro rfl
    exact fresh member
  constructor
  · refine Threaded.start (inv.threaded.congr ?_ ?_) fresh (by simp [allocated.tailQ])
    · intro i _ _
      simp [allocated.nextQ]
    · intro i member
      simp [allocated.tailQ, old member]
  · intro i
    rw [allocated.validQ, Bool.or_eq_true, inv.valid, decide_eq_true_eq]
    simp only [List.flatten_cons, List.singleton_append, List.mem_cons]
    tauto
  · refine (inv.keyed.congr fun i inside => allocated.lineKey (old inside)).cons
      (fun i inList => by rw [List.mem_singleton.mp inList]) ?_
    intro i inside same
    rw [allocated.lineKey (old inside), allocated.lineKey_free, lineKey] at same
    split at same <;> split at same
    · exact old inside (Sum.inr.inj same)
    · contradiction
    · contradiction
    · rename_i notFence
      exact unlinked (Bool.eq_false_iff.mpr notFence) i inside (Sum.inl.inj same)
  · intro i rest member
    rcases List.mem_cons.mp member with same | inLists
    · refine Or.inl ?_
      rw [allocated.headQ i freeOff, (List.cons.inj same).1]
      simp
    · rcases inv.first i rest inLists with isHead | isPopped | waiting
      · exact Or.inl (by rw [allocated.headQ i freeOff, isHead, Bool.true_or])
      · contradiction
      · rw [fsm, allocated.target]
        exact Or.inr (Or.inr waiting)
  · intro i notFirst
    refine allocated.quiet freeOff ?_ (inv.quiet i fun rest member =>
      notFirst rest (List.mem_cons_of_mem _ member))
    rintro rfl
    exact notFirst [] List.mem_cons_self
  · simp
  · simp
  · rw [fsm]
    intro following
    rcases inv.popTryNext following with ⟨_, _, _, isPopped, _⟩
    contradiction
  · rw [fsm, allocated.target]
    intro waiting
    rcases inv.popTryNextWait waiting with ⟨_, i, rest, member, quiet, next⟩
    exact ⟨rfl, i, rest, List.mem_cons_of_mem _ member,
      allocated.quiet freeOff (old (mem_flatten_first member)) quiet, next⟩
  · exact inv.popHeld_alloc allocated

theorem Lists.matchCheckTail_iff (inv : Lists state none lists) {checkNline : Nat}
    {list : List cfg.RtabPtr} {tail : cfg.RtabPtr} (member : list ∈ lists)
    (isTail : list.getLast? = some tail) (key : lineKey state tail = .inl checkNline)
    (noFence : ∀ i ∈ lists.flatten, isFence state i = false) {j : cfg.RtabPtr}
    (inside : j ∈ lists.flatten) : matchCheckTail state checkNline j = true ↔ j = tail := by
  have inList : tail ∈ list := List.mem_of_getLast? isTail
  simp only [matchCheckTail, checkHitBv, (inv.valid j).mpr inside, Bool.true_and,
    Bool.and_eq_true, decide_eq_true_eq]
  constructor
  · rintro ⟨lineJ, tailJ⟩
    rcases List.mem_flatten.mp inside with ⟨listJ, memberJ, inListJ⟩
    have equal := (inv.keyed listJ memberJ list member j inListJ tail inList).mp
      (by rw [lineKey_of_not (noFence j inside), key, lineJ])
    have lastJ := (inv.threaded.ends listJ memberJ j inListJ).mp tailJ
    rw [equal, isTail, Option.some.injEq] at lastJ
    exact lastJ.symm
  · rintro rfl
    rw [lineKey_of_not (noFence j inside), Sum.inl.injEq] at key
    exact ⟨key.symm, (inv.threaded.ends list member j inList).mpr isTail⟩

theorem Lists.step_append (inv : Lists state none lists)
    {list : List cfg.RtabPtr} {others : List (List cfg.RtabPtr)} {tail : cfg.RtabPtr}
    (allocated : Allocated state input false) (noDeps : input.allocDeps = RtabDeps.none)
    (line : input.allocReq.req.req.nline = input.checkNline)
    (notFence : input.allocReq.isFence = false)
    (noFence : ∀ i ∈ lists.flatten, isFence state i = false)
    (same : lists.Perm (list :: others)) (isTail : list.getLast? = some tail)
    (key : lineKey state tail = .inl input.checkNline) :
    Lists (step state input) none ((list ++ [freePtr state]) :: others) := by
  have fronted := inv.threaded.perm same
  have fresh := inv.free_outside allocated
  have quietFree := inv.outside fresh
  have fsm := inv.fsm_alloc allocated
  have member : list ∈ lists := same.mem_iff.mpr List.mem_cons_self
  have inList : tail ∈ list := List.mem_of_getLast? isTail
  have within {i : cfg.RtabPtr} (inside : i ∈ (list :: others).flatten) : i ∈ lists.flatten :=
    same.flatten.mem_iff.mpr inside
  have old {i : cfg.RtabPtr} (inside : i ∈ (list :: others).flatten) : i ≠ freePtr state := by
    rintro rfl
    exact fresh (within inside)
  have front {i : cfg.RtabPtr} (inListI : i ∈ list) : i ∈ (list :: others).flatten :=
    List.mem_append_left _ inListI
  have matched {i : cfg.RtabPtr} (inside : i ∈ (list :: others).flatten) :
      matchCheckTail state input.checkNline i = true ↔ i = tail :=
    inv.matchCheckTail_iff member isTail key noFence (within inside)
  have unmatched {i : cfg.RtabPtr} (inside : i ∈ (list :: others).flatten) (other : i ≠ tail) :
      matchCheckTail state input.checkNline i = false := by
    rw [Bool.eq_false_iff, ne_eq, matched inside]
    exact other
  have first {i : cfg.RtabPtr} : (∃ rest, i :: rest ∈ lists) ↔
      ∃ rest, i :: rest ∈ (list ++ [freePtr state]) :: others := by
    cases list with
    | nil => exact absurd member inv.threaded.nonempty
    | cons head after => simp [same.mem_iff, exists_or]
  constructor
  · have tailMatched := (matched (front inList)).mpr rfl
    refine fronted.append isTail (fun inside => fresh (within inside)) ?_ ?_ ?_ ?_ ?_
    · simp [allocated.nextQ, tailMatched]
    · simp [allocated.tailQ, tailMatched, old (front inList)]
    · simp [allocated.tailQ]
    · intro i inside other
      simp [allocated.nextQ, unmatched inside other]
    · intro i inside other
      simp [allocated.tailQ, unmatched inside other, old inside]
  · intro i
    have flat : i ∈ lists.flatten ↔ i ∈ list ∨ i ∈ others.flatten := by
      rw [same.flatten.mem_iff, List.flatten_cons, List.mem_append]
    rw [allocated.validQ, Bool.or_eq_true, inv.valid, decide_eq_true_eq, flat]
    simp only [List.flatten_cons, List.mem_append, List.mem_singleton]
    tauto
  · have kept {i : cfg.RtabPtr} (inside : i ∈ (list :: others).flatten) :=
      allocated.lineKey (old inside)
    refine ((inv.keyed.perm same).congr fun i => kept).replace fronted inList ?_
    intro i inside
    rw [kept (front inList), key]
    rcases List.mem_append.mp inside with inOld | isNew
    · rw [kept (front inOld), ← key]
      exact (inv.keyed list member list member i inOld tail inList).mpr rfl
    · rw [List.mem_singleton.mp isNew, allocated.lineKey_free, notFence, line,
        if_neg Bool.false_ne_true]
  · intro i rest memberI
    rcases first.mpr ⟨rest, memberI⟩ with ⟨rest', oldMember⟩
    rw [allocated.headQ i quietFree.1, fsm, allocated.target, Bool.false_and, Bool.or_false]
    exact inv.first i rest' oldMember
  · intro i notFirst
    by_cases isNew : i = freePtr state
    · rw [isNew, Quiet, allocated.headQ _ quietFree.1, allocated.depsQ, quietFree.1, quietFree.2,
        if_pos rfl, noDeps]
      exact ⟨rfl, updateDeps_none _ _⟩
    · refine allocated.quiet quietFree.1 isNew (inv.quiet i fun rest memberI => ?_)
      rcases first.mp ⟨rest, memberI⟩ with ⟨rest', newMember⟩
      exact notFirst rest' newMember
  · simp
  · simp
  · rw [fsm]
    intro following
    rcases inv.popTryNext following with ⟨_, _, _, isPopped, _⟩
    contradiction
  · rw [fsm, allocated.target]
    intro waiting
    rcases inv.popTryNextWait waiting with ⟨_, i, rest, oldMember, quiet, next⟩
    rcases first.mp ⟨rest, oldMember⟩ with ⟨rest', newMember⟩
    have inside := same.flatten.mem_iff.mp (mem_flatten_first oldMember)
    exact ⟨rfl, i, rest', newMember, allocated.quiet quietFree.1 (old inside) quiet, next⟩
  · exact inv.popHeld_alloc allocated

end Allocation

/-! ## One cycle -/

theorem Lists.popped_front {i : cfg.RtabPtr} {lists : List (List cfg.RtabPtr)}
    (inv : Lists state (some i) lists) :
    ∃ rest others, lists.Perm ((i :: rest) :: others) := by
  rcases (inv.poppedFirst i rfl).1 with ⟨rest, member⟩
  rcases inv.threaded.front member with ⟨others, same, _⟩
  exact ⟨rest, others, same⟩

/-- The popped entry is committed: it leaves its list. -/
theorem Lists.step_commit {i : cfg.RtabPtr} {lists others : List (List cfg.RtabPtr)}
    {rest : List cfg.RtabPtr} (inv : Lists state (some i) lists)
    (same : lists.Perm ((i :: rest) :: others))
    (operations : input.operations = (false, false, true, false))
    (ptr : input.popCommitPtr = i) (pops : input.popTry = true → popTryValid state = true) :
    Lists (step state input) (poppedNext state input) (remainder rest others) := by
  simp only [Input.operations, Prod.mk.injEq] at operations
  rcases operations with ⟨noAlloc, noLink, commit, noRback⟩
  have fronted := inv.threaded.perm same
  have notRest : i ∉ (remainder rest others).flatten := by
    rw [mem_flatten_remainder, not_or]
    exact ⟨(List.nodup_cons.mp (fronted.nodup_list List.mem_cons_self)).1,
      fronted.not_mem_others List.mem_cons_self⟩
  have flat (j : cfg.RtabPtr) :
      j ∈ lists.flatten ↔ j = i ∨ j ∈ (remainder rest others).flatten := by
    rw [same.flatten.mem_iff, mem_flatten_remainder]
    simp
  have commits (j : cfg.RtabPtr) : popCommitBv input j = decide (j = i) := by
    simp [popCommitBv, commit, ptr]
  apply inv.step_leaves (noAlloc_step noAlloc noLink noRback) noRback pops
    (leaves_remainder inv.threaded same) fronted.remove ((inv.keyed.perm same).remove fronted)
  · intro j
    rw [Bool.and_eq_true, inv.valid, flat, commits, Bool.not_eq_true', decide_eq_false_iff_not]
    constructor
    · rintro ⟨rfl | inRest, kept⟩
      · exact absurd rfl kept
      · exact inRest
    · intro inRest
      refine ⟨Or.inr inRest, ?_⟩
      rintro rfl
      exact notRest inRest
  · intro j committed
    rw [commits, decide_eq_true_eq] at committed
    rw [committed]

/-- The lists after one cycle. -/
theorem Lists.step_operation {popped : Option cfg.RtabPtr} {lists : List (List cfg.RtabPtr)}
    (inv : Lists state popped lists) (operation : Operation state input lists popped)
    (pops : input.popTry = true → popTryValid state = true) :
    ∃ lists', Change state input popped lists lists' ∧
      Lists (step state input) (poppedNext state input) lists' := by
  have noneNext (noPop : input.popTry = false) : poppedNext state input = none := by
    simp [poppedNext, noPop]
  have puts (free : state.validQ.all = false) (asked : (input.alloc || input.allocAndLink) = true) :
      allocBv state input (freePtr state) = true := by
    rw [allocBv, (freeAlloc_single free).1, Bits.single_self, asked]
    rfl
  cases operation with
  | idle operations =>
      simp only [Input.operations, Prod.mk.injEq] at operations
      rcases operations with ⟨noAlloc, noLink, noCommit, noRback⟩
      refine ⟨lists, .kept, ?_⟩
      apply inv.step_leaves (noAlloc_step noAlloc noLink noRback) noRback pops (leaves_none lists)
        inv.threaded inv.keyed
      · intro i
        simp [popCommitBv, noCommit, inv.valid]
      · intro i committed
        simp [popCommitBv, noCommit] at committed
  | alloc operations noPop free unlinked =>
      rw [noneNext noPop]
      have asked : input.alloc = true := congrArg Prod.fst operations
      exact ⟨_, .started (puts free (by simp [asked])),
        inv.step_alloc operations noPop free unlinked⟩
  | link operations noPop free noDeps line notFence known noFence =>
      rcases known with ⟨i, inside, lineI⟩
      rcases List.mem_flatten.mp inside with ⟨list, member, inList⟩
      rcases inv.threaded.front member with ⟨others, same, _⟩
      rcases List.getLast?_isSome.mpr (List.ne_nil_of_mem inList) |> Option.isSome_iff_exists.mp
        with ⟨tail, isTail⟩
      have key : lineKey state tail = .inl input.checkNline := by
        rw [← lineI, ← lineKey_of_not (noFence i inside)]
        exact (inv.keyed list member list member tail (List.mem_of_getLast? isTail) i inList).mpr
          rfl
      rw [noneNext noPop]
      have asked : input.allocAndLink = true := congrArg (fun o => o.2.1) operations
      exact ⟨_, .appended (puts free (by simp [asked])) same,
        inv.step_append (allocated_step operations noPop free) noDeps line notFence noFence same
          isTail key⟩
  | commit i operations ptr =>
      rcases inv.popped_front with ⟨rest, others, same⟩
      exact ⟨_, .committed same, inv.step_commit same operations ptr pops⟩
  | rback i operations noPop ptr line fence =>
      rw [noneNext noPop]
      exact ⟨lists, .kept, inv.step_rback operations noPop ptr line fence⟩

end Steps

end Cva6Hpd.Hpdcache.Rtab
