import Cva6Hpd.Icache.Lookup

/-!
# The way that a miss replaces

A miss announces a way to the memory. The fill writes the tag, the valid bit
and the line into that way, which was the first invalid way of the set, or the
victim of the replacement policy when all ways were valid. The way that the
fill reports as accessed to the policy is computed again from the read ports,
so it is the announced way only while the read ports still select that way.
-/

namespace Cva6Hpd.Icache

open Cva6Hpd.Hw Cva6Hpd.Common

section Choice

variable {n : Nat}

/-- The way is the first one that is not valid; if all are valid it is the
victim. -/
def IsChoice (valid : Bits n) (victim way : Fin n) : Prop :=
  ((∃ j, valid j = false) → valid way = false ∧ ∀ j, j < way → valid j = true) ∧
    ((∀ j, valid j = true) → way = victim)

theorem IsChoice.unique {valid : Bits n} {victim way way' : Fin n}
    (choice : IsChoice valid victim way) (choice' : IsChoice valid victim way') :
    way = way' := by
  by_cases full : ∀ j, valid j = true
  · rw [choice.2 full, choice'.2 full]
  · have hole : ∃ j, valid j = false := by simpa using full
    rcases choice.1 hole with ⟨free, before⟩
    rcases choice'.1 hole with ⟨free', before'⟩
    rcases lt_trichotomy way way' with less | equal | greater
    · rw [before' way less] at free
      contradiction
    · exact equal
    · rw [before way' greater] at free'
      contradiction

/-- Valid bits that only fell since the choice still select the chosen way
exactly when every way before it is valid, and it is not valid itself unless
all ways are. -/
theorem IsChoice.still_iff {valid later : Bits n} {victim way : Fin n}
    (choice : IsChoice valid victim way)
    (fell : ∀ j, later j = true → valid j = true) :
    IsChoice later victim way ↔
      (∀ j, j < way → later j = true) ∧
        (later way = true → ∀ j, later j = true) := by
  constructor
  · intro still
    by_cases full : ∀ j, later j = true
    · exact ⟨fun j _ => full j, fun _ => full⟩
    · rcases still.1 (by simpa using full) with ⟨free, before⟩
      exact ⟨before, fun taken => by rw [free] at taken; contradiction⟩
  · rintro ⟨before, free⟩
    refine ⟨?_, fun full => choice.2 fun j => fell j (full j)⟩
    rintro ⟨j, hole⟩
    refine ⟨Bool.eq_false_iff.mpr fun taken => ?_, before⟩
    rw [free taken j] at hole
    contradiction

end Choice

section Announcement

variable {cfg : Cfg}

theorem replWay_isChoice (s : State cfg) (i : Input cfg) :
    IsChoice (vldRdata s) (plruReplaceWay s i) (replWay s i) := by
  constructor
  · rintro ⟨j, hole⟩
    have free : (fun way => !vldRdata s way) j = true := by simp [hole]
    have some' : Bits.any (fun way => !vldRdata s way) = true :=
      (Bits.any_eq_true_iff _).mpr ⟨j, free⟩
    rw [replWay, allWaysValid, some', Bool.not_true, if_neg Bool.false_ne_true, invWayIdx,
      lzcCnt, if_pos some']
    rcases (Bits.lowest_eq_true_iff _ _).mp
      (@Bits.lowest_firstIndex _ _ (fun way => !vldRdata s way) j free) with ⟨here, before⟩
    exact ⟨by simpa using here, fun j less => by simpa using before j less⟩
  · intro full
    have none' : Bits.any (fun way => !vldRdata s way) = false := by simp [full]
    rw [replWay, allWaysValid, none', Bool.not_false, if_pos rfl]

/-- A miss that the memory acknowledged: its set, the valid bits of the set and
the victim of the policy at that moment, and the announced way. -/
structure Announcement (cfg : Cfg) where
  set : Fin cfg.numWords
  valid : Bits cfg.ways
  victim : Fin cfg.ways
  way : Fin cfg.ways

/-- The last acknowledged miss. -/
def announce (s : State cfg) (i : Input cfg) (last : Option (Announcement cfg)) :
    Option (Announcement cfg) :=
  if (pFsm s i).memDataReq && i.memDataAck then
    some
      { set := setNow s
        valid := fun way => (tagRow s (setNow s) way).vld
        victim := plruReplaceWay s i
        way := memDataWay s i }
  else last

/-- The cache with its last announcement. -/
def announcing (powerUp : PowerUp cfg) :
    Machine (State cfg × Option (Announcement cfg)) (Input cfg) :=
  (machine powerUp).withHistory none announce

/-- At a fill: the tag, the valid bit and the line are written to the announced
way of the announced set. -/
structure WritesAnnounced (s : State cfg) (i : Input cfg) (a : Announcement cfg) : Prop where
  tagSet : vldAddr s i = a.set
  tagWay : (fun way => vldReq s i way && vldWe s i) = Bits.single a.way
  valid : (pFsm s i).cacheWren = true
  dataSet : clIndex s i = a.set
  dataWay : (fun way => clReq s i way && (pFsm s i).cacheWren) = Bits.single a.way

/-- The ways of a fill agree: the written, the accessed and the announced way
are one, and it was an invalid way if there was one, else the victim. -/
structure WaysAgree (s : State cfg) (i : Input cfg) (a : Announcement cfg) : Prop where
  written : WritesAnnounced s i a
  accessed : (plruInput s i).update = true ∧ (plruInput s i).accessWay = a.way
  invalid : (∃ way, a.valid way = false) → a.valid a.way = false
  victim : (∀ way, a.valid way = true) → a.way = a.victim

/-- The valid bits on the read ports still select the latched way: every way
before it is valid, and it is invalid unless all ways are valid. -/
def ReadPortsSelect (s : State cfg) : Prop :=
  ∀ way, s.replWayOhQ way = true →
    (∀ j, j < way → vldRdata s j = true) ∧
      (vldRdata s way = true → ∀ j, vldRdata s j = true)

/-- What holds of an announcement until its miss is answered. -/
structure Outstanding (s : State cfg) (a : Announcement cfg) : Prop where
  compare : s.cmpEnQ = false
  set : setNow s = a.set
  latched : s.replWayOhQ = Bits.single a.way
  choice : IsChoice a.valid a.victim a.way
  victim : Plru.replaceWay cfg.logWays s.plruTreeQ false = a.victim
  rows : ∀ way, (tagRow s a.set way).vld = true → a.valid way = true
  ports : ∀ way, vldRdata s way = true → a.valid way = true

/-- A miss in flight in an enabled cache was announced. -/
def Announced (state : State cfg × Option (Announcement cfg)) : Prop :=
  state.1.stateQ = .miss → state.1.cacheEnQ = true →
    ∃ a, state.2 = some a ∧ Outstanding state.1 a

theorem vld_of_step {s : State cfg} {i : Input cfg} (noFill : (pFsm s i).cacheWren = false)
    {set : Fin cfg.numWords} {way : Fin cfg.ways}
    (valid : (tagRow (step s i) set way).vld = true) : (tagRow s set way).vld = true := by
  rw [tagRow_step] at valid
  split_ifs at valid with written
  · rw [noFill] at valid
    contradiction
  · exact valid

theorem cmpEnQ_step_of_memDataReq {s : State cfg} {i : Input cfg}
    (request : (pFsm s i).memDataReq = true) : (step s i).cmpEnQ = false := by
  refine Bool.eq_false_iff.mpr fun compare => ?_
  rw [((cmpEnD_iff s i).mp compare).2.2] at request
  contradiction

theorem outstanding_of_ack {s : State cfg} {i : Input cfg} (lookup : Lookup s)
    (request : (pFsm s i).memDataReq = true) (enabled : s.cacheEnQ = true) :
    Outstanding (step s i)
      { set := setNow s
        valid := fun way => (tagRow s (setNow s) way).vld
        victim := plruReplaceWay s i
        way := memDataWay s i } := by
  rcases (memDataReq_iff s i).mp request with ⟨read, _, noFlush, _, _, noInvalidation⟩
  have settled : Settled s := ⟨read, enabled, noInvalidation⟩
  have noFill : (pFsm s i).cacheWren = false := cacheWren_eq_false (by simp [read])
  have noAccept : accepts s i = false := accepts_of_memDataReq request
  have ports : vldRdata s = fun way => (tagRow s (setNow s) way).vld := by
    funext way
    rw [vldRdata, lookup.tagFresh settled way]
  refine ⟨cmpEnQ_step_of_memDataReq request, setNow_step_of_not_accepts noAccept,
    replWayOhQ_step_of_memDataReq lookup request enabled, ?_, ?_, ?_, ?_⟩
  · rw [← ports]
    exact replWay_isChoice s i
  · rw [plruTreeQ_step_of_memDataReq request enabled, plruReplaceWay,
      (Bool.or_eq_false_iff.mp noFlush).2]
  · exact fun way valid => vld_of_step noFill valid
  · intro way valid
    have address : ((step s i).tagSram way).rAddrQ = setNow s := by
      rw [← setNow_step_of_not_accepts noAccept]
      exact tagAddr_step_eq (Or.inr ⟨noAccept, lookup.tagAddr ⟨Or.inl read, enabled⟩ way⟩)
    rwa [vldRdata, tagRdata_step, address] at valid

theorem outstanding_step {s : State cfg} {i : Input cfg} {a : Announcement cfg}
    (lookup : Lookup s) (outstanding : Outstanding s a) (miss : s.stateQ = .miss)
    (enabled : s.cacheEnQ = true) (pending : ifillAck i = false)
    (noFlush : flushPending s i = false) : Outstanding (step s i) a := by
  have noFill : (pFsm s i).cacheWren = false := by
    refine Bool.eq_false_iff.mpr fun fill => ?_
    rw [((cacheWren_iff s i).mp fill).2.1] at pending
    contradiction
  have noAccept : accepts s i = false := accepts_of_miss miss
  have sameSet : setNow (step s i) = a.set :=
    (setNow_step_of_not_accepts noAccept).trans outstanding.set
  refine ⟨?_, sameSet, ?_, outstanding.choice, ?_, ?_, ?_⟩
  · refine Bool.eq_false_iff.mpr fun compare => ?_
    simpa [miss] using ((cmpEnD_iff s i).mp compare).1
  · simp [step, replWayOhD, outstanding.compare, outstanding.latched]
  · rw [← outstanding.victim]
    congr 1
    refine Plru.step_idle _ _ (Bool.or_eq_false_iff.mp noFlush).2 ?_
    simp [plruInput, outstanding.compare, noFill]
  · exact fun way valid => outstanding.rows way (vld_of_step noFill valid)
  · intro way valid
    have address : ((step s i).tagSram way).rAddrQ = a.set := by
      rw [← sameSet]
      exact tagAddr_step_eq (Or.inr ⟨noAccept, lookup.tagAddr ⟨Or.inr miss, enabled⟩ way⟩)
    rw [vldRdata, tagRdata_step, address] at valid
    exact outstanding.rows way valid

theorem announced_step {state : State cfg × Option (Announcement cfg)} {i : Input cfg}
    (powerUp : PowerUp cfg) (lookup : Lookup state.1) (announced : Announced state) :
    Announced ((announcing powerUp).step state i) := by
  intro miss enabled
  have before : state.1.cacheEnQ = true := (inFlight_step ⟨Or.inr miss, enabled⟩).1
  rcases (stateD_miss_iff state.1 i).mp miss with
    ⟨request, ack⟩ | ⟨waiting, pending, _, noFlush⟩
  · refine ⟨_, ?_, outstanding_of_ack lookup request before⟩
    simp [announcing, Machine.withHistory, announce, request, ack]
  · rcases announced waiting before with ⟨a, last, outstanding⟩
    refine ⟨a, ?_, outstanding_step lookup outstanding waiting before pending noFlush⟩
    have noRequest : (pFsm state.1 i).memDataReq = false := by
      refine Bool.eq_false_iff.mpr fun request => ?_
      simpa [waiting] using ((memDataReq_iff state.1 i).mp request).1
    simp [announcing, Machine.withHistory, announce, noRequest, last]

theorem announced_run (powerUp : PowerUp cfg) (inputs : List (Input cfg)) :
    Lookup ((announcing powerUp).run inputs).1 ∧ Announced ((announcing powerUp).run inputs) := by
  refine (announcing powerUp).run_invariant (fun state => Lookup state.1 ∧ Announced state)
    ⟨lookup_reset powerUp, fun miss => ?_⟩ ?_ inputs
  · simp [announcing, Machine.withHistory, machine, reset] at miss
  · intro state i both
    exact ⟨lookup_step both.1 i, announced_step powerUp both.1 both.2⟩

/-- A fill writes what was announced; it reports the announced way to the policy
exactly when the read ports still select it. -/
theorem fill_ways {s : State cfg} {i : Input cfg} {a : Announcement cfg}
    (outstanding : Outstanding s a) (fill : (pFsm s i).cacheWren = true) :
    WritesAnnounced s i a ∧ (WaysAgree s i a ↔ ReadPortsSelect s) := by
  rcases (cacheWren_iff s i).mp fill with ⟨miss, answer, _, noFlush, _⟩
  have noInvalidation : invEn i = false := by
    simp only [ifillAck, Bool.and_eq_true, beq_iff_eq] at answer
    simp [invEn, answer.2]
  have noLookup : (pFsm s i).cacheRden = false := by
    refine Bool.eq_false_iff.mpr fun lookup => ?_
    simpa [miss] using (cacheRden_iff s i).mp lookup
  have noAccept : accepts s i = false := accepts_of_miss miss
  have index : clIndex s i = a.set :=
    (setNow_step_of_not_accepts noAccept).trans outstanding.set
  have writes : vldWe s i = true := by simp [vldWe, fill]
  have written : WritesAnnounced s i a := by
    refine ⟨?_, ?_, fill, index, ?_⟩
    · simp [vldAddr, pFsm_flushEn, pFsm_invEn, miss, noInvalidation, index]
    · funext way
      simp [vldReq, pFsm_flushEn, pFsm_invEn, miss, noInvalidation, noLookup, writes,
        outstanding.latched]
    · funext way
      simp [clReq, noLookup, fill, outstanding.latched]
  have victim : plruReplaceWay s i = a.victim := by
    rw [plruReplaceWay, (Bool.or_eq_false_iff.mp noFlush).2, outstanding.victim]
  have choice := replWay_isChoice s i
  rw [victim] at choice
  have accessed : (plruInput s i).accessWay = replWay s i := by
    simp [plruInput, plruAccessWay, fill]
  have still := outstanding.choice.still_iff outstanding.ports
  have select : ReadPortsSelect s ↔ IsChoice (vldRdata s) a.victim a.way := by
    rw [still, ReadPortsSelect]
    simp [outstanding.latched]
  rw [select]
  refine ⟨written, ?_, ?_⟩
  · intro agree
    rwa [← agree.accessed.2, accessed]
  · intro selected
    refine ⟨written, ⟨by simp [plruInput, fill], ?_⟩, ?_, outstanding.choice.2⟩
    · rw [accessed, choice.unique selected]
    · exact fun hole => (outstanding.choice.1 hole).1

/-- At every fill of every run the written way is the announced way, and the
announced, the written and the accessed way agree, with the right choice,
exactly when the read ports still select the latched way. -/
theorem fillWays_run (powerUp : PowerUp cfg) (inputs : List (Input cfg)) (i : Input cfg)
    (fill : (pFsm ((announcing powerUp).run inputs).1 i).cacheWren = true) :
    ∃ a, ((announcing powerUp).run inputs).2 = some a ∧
      WritesAnnounced ((announcing powerUp).run inputs).1 i a ∧
      (WaysAgree ((announcing powerUp).run inputs).1 i a ↔
        ReadPortsSelect ((announcing powerUp).run inputs).1) := by
  rcases (cacheWren_iff _ i).mp fill with ⟨miss, _, _, _, cacheable⟩
  rcases (announced_run powerUp inputs).2 miss (cacheEnQ_of_cacheable cacheable) with
    ⟨a, last, outstanding⟩
  exact ⟨a, last, fill_ways outstanding fill⟩

end Announcement

/-! ## An invalidation during a miss -/

section Runs

/-- The lookup of an address that the translation leaves as it is, and the
acknowledgement of its miss. -/
def lookupInputs (addr : Nat) : List (Input Cfg.small) :=
  [{ Input.quiet Cfg.small with req := true, vaddr := addr },
    { Input.quiet Cfg.small with fetchValid := true, fetchPaddr := addr, memDataAck := true }]

def fillInput : Input Cfg.small :=
  { Input.quiet Cfg.small with memRtrnVld := true, rtype := .ifillAck }

def invalidateInput (addr : Nat) (way : Fin Cfg.small.ways) : Input Cfg.small :=
  { Input.quiet Cfg.small with
    memRtrnVld := true, rtype := .invReq, invVld := true, invIdx := addr, invWay := way }

/-- Two lines of one set are missed. The second miss announces way 1; before it
is answered, the memory invalidates the first line, in way 0. -/
def disturbedInputs : List (Input Cfg.small) :=
  [Input.quiet Cfg.small, Input.quiet Cfg.small] ++ lookupInputs 0 ++ [fillInput] ++
    lookupInputs 16 ++ [invalidateInput 0 0, Input.quiet Cfg.small]

/-- A fill to an announced way that the read ports still select. -/
theorem fillWays_run_small :
    ∃ a, ((announcing (PowerUp.zero Cfg.small)).run
        ([Input.quiet Cfg.small, Input.quiet Cfg.small] ++ lookupInputs 0)).2 = some a ∧
      WritesAnnounced ((announcing (PowerUp.zero Cfg.small)).run
        ([Input.quiet Cfg.small, Input.quiet Cfg.small] ++ lookupInputs 0)).1 fillInput a ∧
      (WaysAgree ((announcing (PowerUp.zero Cfg.small)).run
          ([Input.quiet Cfg.small, Input.quiet Cfg.small] ++ lookupInputs 0)).1 fillInput a ↔
        ReadPortsSelect ((announcing (PowerUp.zero Cfg.small)).run
          ([Input.quiet Cfg.small, Input.quiet Cfg.small] ++ lookupInputs 0)).1) :=
  fillWays_run (PowerUp.zero Cfg.small) _ fillInput (by decide +kernel)

/-- The fill of the disturbed miss writes way 1 and reports way 0 to the
policy. -/
theorem waysDisagree_disturbed :
    ¬∀ (powerUp : PowerUp Cfg.small) (inputs : List (Input Cfg.small)) (i : Input Cfg.small),
      (pFsm ((announcing powerUp).run inputs).1 i).cacheWren = true →
        ∃ a, ((announcing powerUp).run inputs).2 = some a ∧
          WaysAgree ((announcing powerUp).run inputs).1 i a := by
  intro agree
  rcases agree (PowerUp.zero Cfg.small) disturbedInputs fillInput (by decide +kernel) with
    ⟨a, last, agreed⟩
  have announced : (((announcing (PowerUp.zero Cfg.small)).run disturbedInputs).2.map
      fun a => a.way) = some 1 := by decide +kernel
  have accessed : (plruInput ((announcing (PowerUp.zero Cfg.small)).run disturbedInputs).1
      fillInput).accessWay = 0 := by decide +kernel
  rw [last, Option.map_some, Option.some.injEq] at announced
  rw [agreed.accessed.2, announced] at accessed
  exact absurd accessed (by decide)

end Runs

end Cva6Hpd.Icache
