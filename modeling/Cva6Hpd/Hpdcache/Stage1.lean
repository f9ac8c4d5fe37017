import Cva6Hpd.Hpdcache.CtrlPe
import Mathlib.Tactic.SplitIfs

/-!
# What stage 1 can do

The protocol engine assigns some forty variables in a nest of branches. Its
decisions on a request in stage 1 are classified here once: `Stage1` lists the
effects that a decision can have, each with the checks that lead to it, and
`stage1_effects` shows that every branch of the nest is in the list. The later
modules argue about the cases of `Stage1` and never unfold the nest.
-/

namespace Cva6Hpd.Hpdcache

/-- The effects of a decision: the table, the handlers, stage 2, the write
buffer, and the response. -/
structure Effects where
  hold : Bool
  link : Bool
  commit : Bool
  uc : Bool
  cmo : Bool
  miss : Bool
  flush : Bool
  dirUpdt : Bool
  dirValid : Bool
  dirDirty : Bool
  dirFetch : Bool
  wbufWrite : Bool
  err : Bool
  nop : Bool
  rsp : Bool
  deps : RtabDeps

/-- The effects of an assignment of the variables of the protocol engine. -/
def PeOut.effects (o : PeOut) : Effects where
  hold := o.rtabAlloc
  link := o.rtabAllocAndLink
  commit := o.rtabCommit
  uc := o.ucReqValid
  cmo := o.cmoReqValid
  miss := o.st2MshrAlloc
  flush := o.st2FlushAlloc
  dirUpdt := o.st2DirUpdt
  dirValid := o.st2DirUpdtValid
  dirDirty := o.st2DirUpdtDirty
  dirFetch := o.st2DirUpdtFetch
  wbufWrite := o.wbufWriteValid
  err := o.st1Err
  nop := o.st1Nop
  rsp := o.st1RspValid
  deps := o.deps

namespace PeIn

variable (i : PeIn)

/-- The dependencies of a request before its branch adds one. -/
def baseDeps : RtabDeps := { RtabDeps.none with pendTrans := i.st1Fence }

/-- No effect: the stage-2 fields keep their registers. -/
def noEffects : Effects where
  hold := false
  link := false
  commit := false
  uc := false
  cmo := false
  miss := false
  flush := false
  dirUpdt := false
  dirValid := i.st2DirUpdtValid
  dirDirty := i.st2DirUpdtDirty
  dirFetch := i.st2DirUpdtFetch
  wbufWrite := false
  err := false
  nop := false
  rsp := false
  deps := i.baseDeps

/-- The request that the controller hands to the CMO handler. -/
def isCmoh : Bool := i.st1ReqIsCmoInval || i.st1ReqIsCmoFlush || i.st1ReqIsCmoFence

/-- The request is a load or a prefetch. -/
def isRead : Bool := i.st1ReqIsLoad || i.st1ReqIsCmoPrefetch

/-- The decoded operation is of exactly one kind. -/
inductive Decoded : Prop where
  | cmoh (cmoh : i.isCmoh = true)
  | amo (cmoh : i.isCmoh = false) (amo : i.st1ReqIsAmo = true) (read : i.isRead = false)
      (store : i.st1ReqIsStore = false)
  | read (cmoh : i.isCmoh = false) (amo : i.st1ReqIsAmo = false) (read : i.isRead = true)
      (store : i.st1ReqIsStore = false)
  | store (cmoh : i.isCmoh = false) (amo : i.st1ReqIsAmo = false) (read : i.isRead = false)
      (store : i.st1ReqIsStore = true)

/-- Stage 2 has nothing to do. -/
structure St2Empty : Prop where
  mshrAlloc : i.st2MshrAlloc = false
  flushAlloc : i.st2FlushAlloc = false
  dirUpdt : i.st2DirUpdt = false

/-- The request is not aborted, has no error and hits no list of the table. -/
structure Executes : Prop where
  live : i.st1ReqAbort = true → i.st1ReqRtab = true
  noError : i.st1ReqIsError = false
  unlinked : i.rtabCheck = true → i.rtabCheckHit = false
  notCmoh : i.isCmoh = false

/-- The request is executed as a cacheable one. -/
structure ExecutesCacheable : Prop extends i.Executes where
  cacheable : i.st1ReqIsUncacheable = false

end PeIn

/-- The decisions on the request in stage 1, by their effects. -/
inductive Stage1 (cfg : Cfg) (i : PeIn) : Effects → Prop
  /-- The requester aborts the request it sent in the previous cycle. -/
  | aborted (abort : i.st1ReqAbort = true) (new : i.st1ReqRtab = false) :
      Stage1 cfg i { i.noEffects with rsp := i.st1ReqNeedRsp }
  /-- A replayed request whose line was refilled with an error. -/
  | errored (error : i.st1ReqIsError = true) :
      Stage1 cfg i { i.noEffects with commit := i.st1ReqRtab, rsp := i.st1ReqNeedRsp }
  /-- The request is put behind the requests of its line. -/
  | linked (check : i.rtabCheck = true) (hit : i.rtabCheckHit = true)
      (live : i.st1ReqAbort = false) :
      Stage1 cfg i { i.noEffects with link := true, nop := true }
  | cmoh (cmoh : i.isCmoh = true) :
      Stage1 cfg i { i.noEffects with cmo := true, nop := true }
  /-- The request is put on hold and nothing else happens. -/
  | held (executes : i.Executes) (deps : RtabDeps) (wbufWrite : Bool)
      (pendTrans : deps.pendTrans = i.st1Fence)
      (fenceDeps : i.st1Fence = true → deps = { i.baseDeps with
        flushNotReady := deps.flushNotReady, dirFetch := deps.dirFetch })
      (dirFetch : deps.dirFetch = true → i.cachedirHit = true ∧ i.st1DirHitFetch = true)
      (full : wbufWrite = true →
        i.wbufWriteReady = false ∧ i.st1MshrHit = false ∧ i.ExecutesCacheable) :
      Stage1 cfg i { i.noEffects with
        hold := true, wbufWrite := wbufWrite, nop := true, deps := deps }
  /-- The dirty line of the request is flushed, and the request put on hold. -/
  | heldFlushing (executes : i.Executes) (valid fetch : Bool) (deps : RtabDeps)
      (hit : i.cachedirHit = true) (dirty : i.st1DirHitDirty = true)
      (pendTrans : deps.pendTrans = i.st1Fence)
      (fenceDeps : i.st1Fence = true → deps = i.baseDeps)
      (noDirFetch : deps.dirFetch = false)
      (keepsFetch : fetch = true → valid = true ∧ i.st1DirHitFetch = true)
      (loses : fetch = false → i.st1DirHitFetch = true → valid = false) :
      Stage1 cfg i { i.noEffects with
        hold := true, flush := true, dirUpdt := true, dirValid := valid, dirDirty := false,
        dirFetch := fetch, nop := true, deps := deps }
  /-- The request is handed to the uncacheable handler; nothing is to update. -/
  | uncached (executes : i.Executes) (fence : i.st1Fence = true)
      (miss : i.cachedirHit = false) :
      Stage1 cfg i { i.noEffects with commit := i.st1ReqRtab, uc := true, nop := true }
  /-- The uncacheable request hits a clean line: the line is invalidated, and
  the fetch bit of the update keeps its register. -/
  | uncachedInval (executes : i.Executes) (uncacheable : i.st1ReqIsUncacheable = true)
      (hit : i.cachedirHit = true) (clean : i.st1DirHitDirty = false)
      (fetched : i.st1DirHitFetch = false) :
      Stage1 cfg i { i.noEffects with
        commit := i.st1ReqRtab, uc := true, dirUpdt := true, dirValid := false,
        dirDirty := false, nop := true }
  /-- The cacheable AMO hits a clean line. -/
  | amoHit (executes : i.ExecutesCacheable) (fence : i.st1Fence = true)
      (hit : i.cachedirHit = true) (clean : i.st1DirHitDirty = false) :
      Stage1 cfg i { i.noEffects with
        commit := i.st1ReqRtab, uc := true, dirUpdt := true, dirValid := true,
        dirDirty := false, dirFetch := i.st1DirHitFetch, nop := true }
  /-- An error in the memories: the request is put on hold. -/
  | eccHeld (executes : i.ExecutesCacheable) (ecc : cfg.eccEn = true) :
      Stage1 cfg i { i.noEffects with hold := true, err := true, nop := true }
  /-- An unrecoverable error, with the write-back policy: the request is
  answered with an error, and a replayed request is left in the table. -/
  | eccError (executes : i.ExecutesCacheable) (ecc : cfg.eccEn = true)
      (wb : cfg.wbEn = true)
      (unc : i.st1DirErrUnc = true ∨ i.st1DatErrUncDirty = true) :
      Stage1 cfg i { i.noEffects with err := true, nop := true, rsp := i.st1ReqNeedRsp }
  /-- A miss is allocated; the request is on hold besides when it is a store
  for which no coalesce buffer is free. -/
  | missed (executes : i.ExecutesCacheable) (notFence : i.st1Fence = false) (hold : Bool)
      (deps : RtabDeps) (notHit : i.cachedirHit = false) (mshrHit : i.st1MshrHit = false)
      (mshrFull : i.st1MshrFull = false) (allocReady : i.st1MshrAllocReady = true)
      (victim : i.st1DirVictimUnavailable = false) (wbufHit : i.wbufReadHit = false)
      (flushHit : i.st1FlushCheckHit = false)
      (holds : hold = true → i.st1ReqIsStore = true ∧ i.st1MshrCbufFull = true)
      (noDirFetch : deps.dirFetch = false) (pendTrans : deps.pendTrans = false) :
      Stage1 cfg i { i.noEffects with
        hold := hold, commit := !hold && i.st1ReqRtab, miss := true,
        flush := i.st1DirVictimDirty, dirUpdt := true, dirValid := i.st1DirVictimValid,
        dirDirty := false, dirFetch := true, nop := true, deps := deps }
  /-- The request is served by the cache. -/
  | served (executes : i.ExecutesCacheable) (notFence : i.st1Fence = false)
      (hit : i.cachedirHit = true) (nop : Bool) :
      Stage1 cfg i { i.noEffects with
        commit := i.st1ReqRtab, nop := nop, rsp := i.st1ReqNeedRsp }
  /-- The request is served by the cache and changes its line, which is flushed
  if it becomes clean. -/
  | servedUpdating (executes : i.ExecutesCacheable) (notFence : i.st1Fence = false)
      (hit : i.cachedirHit = true) (fetched : i.st1DirHitFetch = false)
      (dirty flush : Bool) (flushes : flush = true → i.st1DirHitDirty = true) :
      Stage1 cfg i { i.noEffects with
        commit := i.st1ReqRtab, flush := flush, dirUpdt := true, dirValid := true,
        dirDirty := dirty, dirFetch := false, nop := true, rsp := i.st1ReqNeedRsp }
  /-- The store goes to the write buffer. -/
  | buffered (executes : i.ExecutesCacheable) (notFence : i.st1Fence = false) (nop : Bool)
      (mshrHit : i.st1MshrHit = false) (ready : i.wbufWriteReady = true) :
      Stage1 cfg i { i.noEffects with
        commit := i.st1ReqRtab, wbufWrite := true, nop := nop, rsp := i.st1ReqNeedRsp }

namespace Stage1

variable {cfg : Cfg} {i : PeIn}

theorem baseDeps_of_not_fence (notFence : i.st1Fence = false) :
    i.baseDeps = RtabDeps.none := by
  rw [PeIn.baseDeps, notFence]
  rfl

theorem notFence_of_cacheable (executes : i.ExecutesCacheable)
    (notAmo : i.st1ReqIsAmo = false) : i.st1Fence = false := by
  have notCmoh := executes.notCmoh
  simp only [PeIn.isCmoh, Bool.or_eq_false_iff] at notCmoh
  simp [PeIn.st1Fence, notAmo, executes.cacheable, notCmoh]

/-- The variables when stage 2 has taken what was pending: the chip select of
the MSHR and the nop of stage 2 tell whether there was anything. -/
def taken (i : PeIn) (cs nop : Bool) : PeOut :=
  { peDefaults i with
    st2MshrAlloc := false
    st2MshrAllocCs := cs
    st2FlushAlloc := false
    st2DirUpdt := false
    st2Nop := nop }

/-- The variables when the branches on the operation are reached. -/
def checked (i : PeIn) (cs nop : Bool) : PeOut :=
  { taken i cs nop with rtabCheck := i.rtabCheck }

/-- A fence is put on hold until the other transactions are done. -/
theorem held_pend (executes : i.Executes) :
    Stage1 cfg i { i.noEffects with hold := true, nop := true } :=
  held executes i.baseDeps false rfl (fun _ => rfl) (by simp [PeIn.baseDeps, RtabDeps.none])
    (by simp)

/-- A request that is no fence is put on hold for some reason. -/
theorem held_for (executes : i.Executes) (notFence : i.st1Fence = false)
    (deps : RtabDeps) (pendTrans : deps.pendTrans = i.st1Fence)
    (dirFetch : deps.dirFetch = true → i.cachedirHit = true ∧ i.st1DirHitFetch = true) :
    Stage1 cfg i { i.noEffects with hold := true, nop := true, deps := deps } := by
  refine held executes deps false pendTrans ?_ dirFetch (by simp)
  intro fence
  rw [notFence] at fence
  contradiction

/-! ## The branches -/

variable (cs st2Nop : Bool)

theorem of_uncacheable (executes : i.Executes)
    (uncacheable : i.st1ReqIsUncacheable = true) :
    Stage1 cfg i (peUncacheable i (checked i cs st2Nop)).effects := by
  have fence : i.st1Fence = true := by simp [PeIn.st1Fence, uncacheable]
  unfold peUncacheable
  split_ifs with pend miss dirty notReady fetch
  · exact held_pend executes
  · exact uncached executes fence (by simpa using miss)
  · exact held executes { i.baseDeps with flushNotReady := true } false rfl (fun _ => rfl)
      (by simp [PeIn.baseDeps, RtabDeps.none]) (by simp)
  · exact heldFlushing executes false false i.baseDeps (by simpa using miss) dirty rfl
      (fun _ => rfl) rfl (by simp) (by simp)
  · exact held executes { i.baseDeps with dirFetch := true } false rfl (fun _ => rfl)
      (fun _ => ⟨by simpa using miss, fetch⟩) (by simp)
  · exact uncachedInval executes uncacheable (by simpa using miss) (by simpa using dirty)
      (by simpa using fetch)

theorem of_amo (executes : i.ExecutesCacheable) (amo : i.st1ReqIsAmo = true) :
    Stage1 cfg i (peAmo i (checked i cs st2Nop)).effects := by
  have fence : i.st1Fence = true := by simp [PeIn.st1Fence, amo]
  unfold peAmo
  split_ifs with pend hit dirty
  · exact held_pend executes.toExecutes
  · have flushing : Stage1 cfg i _ := heldFlushing executes.toExecutes true i.st1DirHitFetch
      i.baseDeps hit dirty rfl (fun _ => rfl) rfl (fun fetched => ⟨rfl, fetched⟩)
      (fun unfetched fetched => by rw [unfetched] at fetched; contradiction)
    simpa [PeOut.effects, checked, taken, peDefaults, PeIn.noEffects, PeIn.baseDeps, dirty] using
      flushing
  · have served : Stage1 cfg i _ := amoHit executes fence hit (by simpa using dirty)
    simpa [PeOut.effects, checked, taken, peDefaults, PeIn.noEffects, PeIn.baseDeps, dirty] using
      served
  · have handed : Stage1 cfg i _ := uncached executes.toExecutes fence (by simpa using hit)
    simpa [PeOut.effects, checked, taken, peDefaults, PeIn.noEffects, PeIn.baseDeps] using handed

theorem of_loadMiss (executes : i.ExecutesCacheable) (notFence : i.st1Fence = false)
    (notHit : i.cachedirHit = false) :
    Stage1 cfg i (peLoadMiss i (checked i cs st2Nop)).effects := by
  have held (deps : RtabDeps) (pendTrans : deps.pendTrans = i.st1Fence)
      (noDirFetch : deps.dirFetch = false) :
      Stage1 cfg i { i.noEffects with hold := true, nop := true, deps := deps } :=
    held_for executes.toExecutes notFence deps pendTrans (by simp [noDirFetch])
  unfold peLoadMiss
  split_ifs with mshrHit mshrFull victim wbufHit notReady flushHit noFlush
  · exact held { i.baseDeps with mshrHit := true } rfl rfl
  · exact held { i.baseDeps with mshrFull := true } rfl rfl
  · exact held { i.baseDeps with dirUnavailable := true } rfl rfl
  · exact held { i.baseDeps with wbufHit := true } rfl rfl
  · exact held { i.baseDeps with mshrReady := true } rfl rfl
  · exact held { i.baseDeps with flushHit := true } rfl rfl
  · exact held { i.baseDeps with flushNotReady := true } rfl rfl
  · exact missed executes notFence false i.baseDeps notHit (by simpa using mshrHit)
      (by simpa using mshrFull) (by simpa using notReady) (by simpa using victim)
      (by simpa using wbufHit) (by simpa using flushHit) (by simp) rfl
      (by simp [PeIn.baseDeps, notFence])

theorem of_loadHit (lowLatency : Bool) (executes : i.ExecutesCacheable)
    (notFence : i.st1Fence = false) (hit : i.cachedirHit = true) :
    Stage1 cfg i (peLoadHit lowLatency i (checked i cs st2Nop)).effects := by
  unfold peLoadHit
  split_ifs with noFlush unfetched toWt toWb toWb
  · exact held_for executes.toExecutes notFence { i.baseDeps with flushNotReady := true } rfl
      (by simp [PeIn.baseDeps, RtabDeps.none])
  · -- Both policies at once: the second update overrides the first one.
    exact servedUpdating executes notFence hit (by simpa using unfetched) false
      i.st1DirHitDirty id
  · exact servedUpdating executes notFence hit (by simpa using unfetched) false
      i.st1DirHitDirty id
  · exact servedUpdating executes notFence hit (by simpa using unfetched) false false
      (by simp)
  · exact served executes notFence hit _
  · exact served executes notFence hit _

/-- The variables when the branches of a store are reached. -/
def storing (i : PeIn) (cs st2Nop nop merge : Bool) : PeOut :=
  { checked i cs st2Nop with
    st1Nop := nop
    st1ReqCachedataWrite := true
    st1ReqCachedataWriteMerge := merge }

theorem of_storeMissWb (nop merge : Bool) (executes : i.ExecutesCacheable)
    (notFence : i.st1Fence = false) (store : i.st1ReqIsStore = true)
    (notHit : i.cachedirHit = false) (mshrHit : i.st1MshrHit = false)
    (flushHit : i.st1FlushCheckHit = false) :
    Stage1 cfg i (peStoreMissWb i (storing i cs st2Nop nop merge)).effects := by
  have held (deps : RtabDeps) (pendTrans : deps.pendTrans = i.st1Fence)
      (noDirFetch : deps.dirFetch = false) :
      Stage1 cfg i { i.noEffects with hold := true, nop := true, deps := deps } :=
    held_for executes.toExecutes notFence deps pendTrans (by simp [noDirFetch])
  have noPend : i.baseDeps.pendTrans = false := by simp [PeIn.baseDeps, notFence]
  unfold peStoreMissWb
  split_ifs with notReady mshrFull wbufHit victim noFlush cbufFull
  · exact held { i.baseDeps with mshrReady := true } rfl rfl
  · exact held { i.baseDeps with mshrFull := true } rfl rfl
  · exact held { i.baseDeps with wbufHit := true } rfl rfl
  · exact held { i.baseDeps with dirUnavailable := true } rfl rfl
  · exact held { i.baseDeps with flushNotReady := true } rfl rfl
  · exact missed executes notFence true { i.baseDeps with writeMiss := true } notHit mshrHit
      (by simpa using mshrFull) (by simpa using notReady) (by simpa using victim)
      (by simpa using wbufHit) flushHit (fun _ => ⟨store, cbufFull⟩) rfl noPend
  · exact missed executes notFence false i.baseDeps notHit mshrHit
      (by simpa using mshrFull) (by simpa using notReady) (by simpa using victim)
      (by simpa using wbufHit) flushHit (by simp) rfl noPend

theorem of_storeMissWt (nop merge : Bool) (executes : i.ExecutesCacheable)
    (notFence : i.st1Fence = false) (mshrHit : i.st1MshrHit = false) :
    Stage1 cfg i (peStoreMissWt i (storing i cs st2Nop nop merge)).effects := by
  unfold peStoreMissWt
  split_ifs with notReady
  · refine Stage1.held executes.toExecutes { i.baseDeps with wbufNotReady := true } true rfl
      ?_ (by simp [PeIn.baseDeps, RtabDeps.none])
      (fun _ => ⟨by simpa using notReady, mshrHit, executes⟩)
    intro fence
    rw [notFence] at fence
    contradiction
  · exact buffered executes notFence nop mshrHit (by simpa using notReady)

theorem of_storeHitWb (nop merge : Bool) (executes : i.ExecutesCacheable)
    (notFence : i.st1Fence = false) (hit : i.cachedirHit = true)
    (fetched : i.st1DirHitFetch = false) :
    Stage1 cfg i (peStoreHitWb i (storing i cs st2Nop nop merge)).effects := by
  unfold peStoreHitWb
  split_ifs with wbufHit clean
  · exact held_for executes.toExecutes notFence { i.baseDeps with wbufHit := true } rfl
      (by simp [PeIn.baseDeps, RtabDeps.none])
  · exact servedUpdating executes notFence hit fetched true false (by simp)
  · exact served executes notFence hit nop

theorem of_storeHitWt (nop merge : Bool) (executes : i.ExecutesCacheable)
    (notFence : i.st1Fence = false) (hit : i.cachedirHit = true)
    (fetched : i.st1DirHitFetch = false) (mshrHit : i.st1MshrHit = false) :
    Stage1 cfg i (peStoreHitWt i (storing i cs st2Nop nop merge)).effects := by
  have notPended (deps : RtabDeps) : i.st1Fence = true → deps = i.baseDeps := by
    intro fence
    rw [notFence] at fence
    contradiction
  unfold peStoreHitWt
  split_ifs with noFlush dirty notReady
  · have isDirty : i.st1DirHitDirty = true := by simp_all
    have held : Stage1 cfg i _ := held_for executes.toExecutes notFence
      { i.baseDeps with flushNotReady := true } rfl (by simp [PeIn.baseDeps, RtabDeps.none])
    simpa [PeOut.effects, storing, checked, taken, peDefaults, PeIn.noEffects, PeIn.baseDeps,
      isDirty] using held
  · have flushing : Stage1 cfg i _ := heldFlushing executes.toExecutes true false
      { i.baseDeps with flushHit := true } hit dirty rfl (notPended _) rfl (by simp)
      (by simp [fetched])
    simpa [PeOut.effects, storing, checked, taken, peDefaults, PeIn.noEffects, PeIn.baseDeps,
      dirty] using flushing
  · have clean : i.st1DirHitDirty = false := by simpa using dirty
    have full : Stage1 cfg i _ := Stage1.held executes.toExecutes
      { i.baseDeps with wbufNotReady := true } true rfl
      (fun fence => by rw [notFence] at fence; contradiction)
      (by simp [PeIn.baseDeps, RtabDeps.none])
      (fun _ => ⟨by simpa using notReady, mshrHit, executes⟩)
    simpa [PeOut.effects, storing, checked, taken, peDefaults, PeIn.noEffects, PeIn.baseDeps,
      clean] using full
  · have clean : i.st1DirHitDirty = false := by simpa using dirty
    have stored : Stage1 cfg i _ := buffered executes notFence nop mshrHit
      (by simpa using notReady)
    simpa [PeOut.effects, storing, checked, taken, peDefaults, PeIn.noEffects, PeIn.baseDeps,
      clean] using stored

theorem of_store (lowLatency eccEn eccScrubberEn : Bool) (executes : i.ExecutesCacheable)
    (notFence : i.st1Fence = false) (store : i.st1ReqIsStore = true) :
    Stage1 cfg i (peStore lowLatency eccEn eccScrubberEn i (checked i cs st2Nop)).effects := by
  have held (deps : RtabDeps) (pendTrans : deps.pendTrans = i.st1Fence)
      (fetched : deps.dirFetch = true → i.cachedirHit = true ∧ i.st1DirHitFetch = true) :
      Stage1 cfg i { i.noEffects with hold := true, nop := true, deps := deps } :=
    held_for executes.toExecutes notFence deps pendTrans fetched
  unfold peStore
  generalize storeNop lowLatency eccEn eccScrubberEn i = nop
  generalize (if eccEn = true then i.st1ReqIsPartial
    else (checked i cs st2Nop).st1ReqCachedataWriteMerge) = merge
  split_ifs with mshrHit flushHit notHit isWb fetched isWb
  · exact held { i.baseDeps with mshrHit := true } rfl (by simp [PeIn.baseDeps, RtabDeps.none])
  · exact held { i.baseDeps with flushHit := true } rfl (by simp [PeIn.baseDeps, RtabDeps.none])
  · exact of_storeMissWb cs st2Nop nop merge executes notFence store (by simpa using notHit)
      (by simpa using mshrHit) (by simpa using flushHit)
  · exact of_storeMissWt cs st2Nop nop merge executes notFence (by simpa using mshrHit)
  · exact held { i.baseDeps with dirFetch := true } rfl (fun _ => ⟨by simpa using notHit, fetched⟩)
  · exact of_storeHitWb cs st2Nop nop merge executes notFence (by simpa using notHit)
      (by simpa using fetched)
  · exact of_storeHitWt cs st2Nop nop merge executes notFence (by simpa using notHit)
      (by simpa using fetched) (by simpa using mshrHit)

/-- Either the memories are read without errors, or the error decides. -/
theorem of_ecc (executes : i.ExecutesCacheable) :
    peEcc cfg.eccEn cfg.wbEn i (checked i cs st2Nop) = checked i cs st2Nop ∨
      ((peEcc cfg.eccEn cfg.wbEn i (checked i cs st2Nop)).st1Err = true ∧
        Stage1 cfg i (peEcc cfg.eccEn cfg.wbEn i (checked i cs st2Nop)).effects) := by
  unfold peEcc
  split_ifs with unc cor
  · simp only [Bool.and_eq_true, Bool.or_eq_true] at unc
    refine Or.inr ⟨rfl, ?_⟩
    cases wb : cfg.wbEn with
    | false =>
        have held := eccHeld executes unc.1
        simpa [PeOut.effects, checked, taken, peDefaults, PeIn.noEffects, PeIn.baseDeps] using held
    | true =>
        have error := eccError executes unc.1 wb unc.2
        simpa [PeOut.effects, checked, taken, peDefaults, PeIn.noEffects, PeIn.baseDeps] using error
  · simp only [Bool.and_eq_true] at cor
    exact Or.inr ⟨rfl, eccHeld executes cor.1⟩
  · exact Or.inl rfl

theorem of_cacheable (executes : i.ExecutesCacheable) (decoded : i.Decoded) :
    Stage1 cfg i
      (peCacheable cfg.lowLatency cfg.eccEn cfg.eccScrubberEn cfg.wbEn i
        (checked i cs st2Nop)).effects := by
  have notCmoh := executes.notCmoh
  rw [peCacheable]
  rcases of_ecc cs st2Nop executes with errorFree | ⟨error, decided⟩
  · rw [errorFree]
    have noError : (checked i cs st2Nop).st1Err = false := rfl
    cases decoded with
    | cmoh cmoh =>
        rw [notCmoh] at cmoh
        contradiction
    | amo _ amo read store =>
        rw [PeIn.isRead] at read
        simpa [amo, read, store, noError] using of_amo cs st2Nop executes amo
    | read _ amo read store =>
        have notFence := notFence_of_cacheable executes amo
        rw [PeIn.isRead] at read
        cases hit : i.cachedirHit with
        | false =>
            simpa [amo, read, store, noError, hit] using
              of_loadMiss cs st2Nop executes notFence hit
        | true =>
            simpa [amo, read, store, noError, hit] using
              of_loadHit cs st2Nop _ executes notFence hit
    | store _ amo read store =>
        have notFence := notFence_of_cacheable executes amo
        rw [PeIn.isRead] at read
        simpa [amo, read, store, noError] using of_store cs st2Nop _ _ _ executes notFence store
  · simpa [error] using decided

theorem of_stage1 (decoded : i.Decoded) :
    Stage1 cfg i (peStage1 cfg.lowLatency cfg.eccEn cfg.eccScrubberEn cfg.wbEn i
      (taken i cs st2Nop)).effects := by
  unfold peStage1
  split_ifs with abort error link isCmoh uncacheable
  · simp only [Bool.and_eq_true, Bool.not_eq_true'] at abort
    exact aborted abort.1 abort.2
  · exact errored error
  · simp only [Bool.and_eq_true] at link
    refine linked link.1 link.2 ?_
    have new := link.1
    simp only [PeIn.rtabCheck, Bool.and_eq_true, Bool.not_eq_true'] at new
    simpa [new.1] using abort
  · refine Stage1.cmoh ?_
    simpa only [PeIn.isCmoh] using isCmoh
  all_goals
    have executes : i.Executes := {
      live := by simpa using abort
      noError := by simpa using error
      unlinked := by simpa using link
      notCmoh := by simpa only [PeIn.isCmoh, Bool.not_eq_true] using isCmoh }
  · exact of_uncacheable cs st2Nop executes uncacheable
  · exact of_cacheable cs st2Nop
      { executes with cacheable := by simpa using uncacheable } decoded

/-! ## What the cases have in common -/

variable {e : Effects}

/-- A decision that lets a new request in has no other effect than a response,
a commit or a write to the write buffer. -/
theorem quiet_of_no_nop (decision : Stage1 cfg i e) (noNop : e.nop = false) :
    e.hold = false ∧ e.link = false ∧ e.uc = false ∧ e.cmo = false ∧ e.miss = false ∧
      e.flush = false ∧ e.dirUpdt = false ∧ e.err = false := by
  cases decision <;> first | exact ⟨rfl, rfl, rfl, rfl, rfl, rfl, rfl, rfl⟩ | contradiction

theorem pendTrans_deps (decision : Stage1 cfg i e) : e.deps.pendTrans = i.st1Fence := by
  cases decision <;> first | rfl | assumption | simp_all only

/-- What a decision asks of the replay table. -/
inductive Table (cfg : Cfg) (i : PeIn) (e : Effects) : Prop
  /-- The request is done with: it leaves the table if it comes from there. -/
  | done (hold : e.hold = false) (link : e.link = false) (commit : e.commit = i.st1ReqRtab)
  | held (hold : e.hold = true) (link : e.link = false) (commit : e.commit = false)
      (nop : e.nop = true) (executes : i.Executes)
  | linked (hold : e.hold = false) (link : e.link = true) (commit : e.commit = false)
      (nop : e.nop = true) (check : i.rtabCheck = true) (hit : i.rtabCheckHit = true)
      (noDeps : e.deps = RtabDeps.none)
  | cmoh (hold : e.hold = false) (link : e.link = false) (commit : e.commit = false)
      (cmoh : i.isCmoh = true)
  /-- The answer is an error, and nothing is asked of the table. -/
  | lost (hold : e.hold = false) (link : e.link = false) (commit : e.commit = false)
      (ecc : cfg.eccEn = true) (wb : cfg.wbEn = true)
      (unc : i.st1DirErrUnc = true ∨ i.st1DatErrUncDirty = true)

theorem table (decision : Stage1 cfg i e) : Table cfg i e := by
  cases decision with
  | aborted abort new => exact .done rfl rfl new.symm
  | errored error => exact .done rfl rfl rfl
  | linked check hit live =>
      have notFence : i.st1Fence = false := by
        simp only [PeIn.rtabCheck, Bool.and_eq_true, Bool.not_eq_true'] at check
        exact check.2
      exact .linked rfl rfl rfl rfl check hit (baseDeps_of_not_fence notFence)
  | cmoh cmoh => exact .cmoh rfl rfl rfl cmoh
  | held executes => exact .held rfl rfl rfl rfl executes
  | heldFlushing executes => exact .held rfl rfl rfl rfl executes
  | uncached => exact .done rfl rfl rfl
  | uncachedInval => exact .done rfl rfl rfl
  | amoHit => exact .done rfl rfl rfl
  | eccHeld executes => exact .held rfl rfl rfl rfl executes.toExecutes
  | eccError executes ecc wb unc => exact .lost rfl rfl rfl ecc wb unc
  | missed executes _ hold =>
      cases hold with
      | false => exact .done rfl rfl (by simp)
      | true => exact .held rfl rfl (by simp) rfl executes.toExecutes
  | served => exact .done rfl rfl rfl
  | servedUpdating => exact .done rfl rfl rfl
  | buffered => exact .done rfl rfl rfl

end Stage1

end Cva6Hpd.Hpdcache

/-!
## One cycle of the protocol engine

The combinational process of the protocol engine as three cases: the pipeline
is stalled and every register keeps its value; stage 1 is empty; or stage 1
holds a request, with one of the decisions of `Stage1`. In the last two cases
stage 2 is emptied, and a new request or a refill is granted under the
conditions of `NewReq`.
-/

namespace Cva6Hpd.Hpdcache

/-! ## Stage 2 -/

/-- The signals that only stage 2 assigns. -/
def PeOut.stage2 (o : PeOut) : Bool × Bool := (o.st2MshrAllocCs, o.st2Nop)

theorem stage2_ite {condition : Prop} [Decidable condition] {branch o : PeOut}
    (same : branch.stage2 = o.stage2) :
    (if condition then branch else o).stage2 = o.stage2 := by
  split
  · exact same
  · rfl

section Stage2Kept

variable (i : PeIn) (o : PeOut)

theorem stage2_peUncacheable : (peUncacheable i o).stage2 = o.stage2 := by
  unfold peUncacheable
  split_ifs <;> rfl

theorem stage2_peEcc (eccEn wbEn : Bool) : (peEcc eccEn wbEn i o).stage2 = o.stage2 := by
  unfold peEcc
  split_ifs <;> rfl

theorem stage2_peAmo : (peAmo i o).stage2 = o.stage2 := by
  unfold peAmo
  split_ifs <;> rfl

theorem stage2_peLoadMiss : (peLoadMiss i o).stage2 = o.stage2 := by
  unfold peLoadMiss
  split_ifs <;> rfl

theorem stage2_peLoadHit (lowLatency : Bool) :
    (peLoadHit lowLatency i o).stage2 = o.stage2 := by
  unfold peLoadHit
  split_ifs <;> rfl

theorem stage2_peStoreMissWb : (peStoreMissWb i o).stage2 = o.stage2 := by
  unfold peStoreMissWb
  split_ifs <;> rfl

theorem stage2_peStoreMissWt : (peStoreMissWt i o).stage2 = o.stage2 := by
  unfold peStoreMissWt
  split_ifs <;> rfl

theorem stage2_peStoreHitWb : (peStoreHitWb i o).stage2 = o.stage2 := by
  unfold peStoreHitWb
  split_ifs <;> rfl

theorem stage2_peStoreHitWt : (peStoreHitWt i o).stage2 = o.stage2 := by
  unfold peStoreHitWt
  split_ifs <;> rfl

theorem stage2_peStore (lowLatency eccEn eccScrubberEn : Bool) :
    (peStore lowLatency eccEn eccScrubberEn i o).stage2 = o.stage2 := by
  unfold peStore
  generalize storeNop lowLatency eccEn eccScrubberEn i = nop
  generalize (if eccEn = true then i.st1ReqIsPartial else o.st1ReqCachedataWriteMerge) = merge
  split_ifs
  · rfl
  · rfl
  · exact stage2_peStoreMissWb i _
  · exact stage2_peStoreMissWt i _
  · rfl
  · exact stage2_peStoreHitWb i _
  · exact stage2_peStoreHitWt i _

theorem stage2_peCacheable (lowLatency eccEn eccScrubberEn wbEn : Bool) :
    (peCacheable lowLatency eccEn eccScrubberEn wbEn i o).stage2 = o.stage2 := by
  refine (stage2_ite (stage2_peStore i _ _ _ _)).trans ?_
  refine (stage2_ite ?_).trans ((stage2_ite (stage2_peAmo i _)).trans (stage2_peEcc i o _ _))
  split
  · exact stage2_peLoadMiss i _
  · exact stage2_peLoadHit i _ _

theorem stage2_peStage1 (lowLatency eccEn eccScrubberEn wbEn : Bool) :
    (peStage1 lowLatency eccEn eccScrubberEn wbEn i o).stage2 = o.stage2 := by
  unfold peStage1
  split_ifs
  · rfl
  · rfl
  · rfl
  · rfl
  · exact stage2_peUncacheable i _
  · exact stage2_peCacheable i _ lowLatency eccEn eccScrubberEn wbEn

end Stage2Kept

namespace PeIn

variable (i : PeIn)

/-- The pipeline is stalled: the directory is being cleared, a line is being
refilled or a line is being read out by the flush controller. -/
def Blocked : Prop :=
  i.cachedirInitReady = false ∨ i.refillBusy = true ∨ i.flushBusy = true

/-- Stage 2 has something to do. -/
def st2Pending : Bool := i.st2MshrAlloc || i.st2FlushAlloc || i.st2DirUpdt

theorem st2Empty_of_not_pending {i : PeIn} (idle : i.st2Pending = false) : i.St2Empty := by
  simp only [st2Pending, Bool.or_eq_false_iff] at idle
  exact ⟨idle.1.1, idle.1.2, idle.2⟩

end PeIn

theorem peStage2_peDefaults (i : PeIn) :
    peStage2 i (peDefaults i) = Stage1.taken i i.st2MshrAlloc i.st2Pending := by
  unfold peStage2
  cases alloc : i.st2MshrAlloc <;> cases flush : i.st2FlushAlloc <;>
    cases updt : i.st2DirUpdt <;>
    simp [Stage1.taken, peDefaults, PeIn.st2Pending, alloc, flush, updt]

theorem effects_peDefaults {i : PeIn} (empty : i.St2Empty) :
    (peDefaults i).effects = i.noEffects := by
  simp only [PeOut.effects, peDefaults, PeIn.noEffects, PeIn.baseDeps, empty.mshrAlloc,
    empty.flushAlloc, empty.dirUpdt]

/-! ## New requests -/

/-- What holds of the requests granted in a cycle that is not stalled. -/
structure NewReq (cfg : Cfg) (i : PeIn) (o : PeOut) : Prop where
  allocCs : o.st2MshrAllocCs = i.st2MshrAlloc
  valid : o.st1ReqValid = (o.coreReqReady || o.rtabReqReady)
  core : o.coreReqReady = coreReqReady i (o.st1Nop || i.st2Pending)
  scrub : o.scrubReqReady = scrubReqReady i (o.st1Nop || i.st2Pending)
  rtab : o.rtabReqReady = rtabReqReady i (o.st1Nop || i.st2Pending)
  refill : o.refillReqReady = refillReqReady i
  dirRead : o.st0ReqCachedirRead =
    ((o.coreReqReady || o.rtabReqReady || o.scrubReqReady) && !i.st0ReqIsError &&
      (i.st0ReqIsLoad || i.st0ReqIsCmoPrefetch || i.st0ReqIsStore || i.st0ReqIsAmo ||
        (cfg.eccEn && cfg.eccScrubberEn && i.st0ReqIsScrub)))
  mshrCheck : o.st0ReqMshrCheck =
    ((o.coreReqReady || o.rtabReqReady || o.scrubReqReady) && !i.st0ReqIsError &&
      (i.st0ReqIsLoad || i.st0ReqIsCmoPrefetch || i.st0ReqIsStore || i.st0ReqIsAmo) &&
      !i.st0ReqIsUncacheable)

theorem newReq_peNewReq (cfg : Cfg) (i : PeIn) {o : PeOut}
    (stage2 : o.stage2 = (i.st2MshrAlloc, i.st2Pending)) :
    NewReq cfg i (peNewReq cfg.lowLatency cfg.eccEn cfg.eccScrubberEn i o) := by
  simp only [PeOut.stage2, Prod.mk.injEq] at stage2
  rcases stage2 with ⟨allocCs, pending⟩
  constructor
  · exact allocCs
  · rfl
  · simp only [peNewReq, pending]
  · simp only [peNewReq, pending]
  · simp only [peNewReq, pending]
  · rfl
  · rfl
  · rfl

/-- The protocol engine in one cycle. -/
theorem hpdcacheCtrlComb_cases (cfg : Cfg) {i : PeIn}
    (decoded : i.st1ReqValid = true → i.Decoded) :
    (i.Blocked ∧ hpdcacheCtrlComb cfg i = peDefaults i) ∨
      (¬i.Blocked ∧ NewReq cfg i (hpdcacheCtrlComb cfg i) ∧
        ((i.st1ReqValid = false ∧ (hpdcacheCtrlComb cfg i).effects = i.noEffects) ∨
          (i.st1ReqValid = true ∧ Stage1 cfg i (hpdcacheCtrlComb cfg i).effects))) := by
  by_cases stalled : (!i.cachedirInitReady || i.refillBusy || i.flushBusy) = true
  · refine Or.inl ⟨?_, by rw [hpdcacheCtrlComb, if_pos stalled]⟩
    simpa [PeIn.Blocked, or_assoc] using stalled
  · refine Or.inr ⟨by simpa [PeIn.Blocked, or_assoc] using stalled, ?_⟩
    simp only [hpdcacheCtrlComb, if_neg stalled, peStage2_peDefaults]
    cases valid : i.st1ReqValid with
    | false =>
        simp only [Bool.false_eq_true, if_false]
        exact ⟨newReq_peNewReq cfg i rfl, Or.inl ⟨trivial, rfl⟩⟩
    | true =>
        simp only [if_true]
        refine ⟨newReq_peNewReq cfg i (stage2_peStage1 i _ _ _ _ _), Or.inr ⟨trivial, ?_⟩⟩
        exact Stage1.of_stage1 _ _ (decoded valid)

end Cva6Hpd.Hpdcache
