import Cva6Hpd.Hpdcache.Uncached.Core

/-!
# Errors of the memory in the answers to AMOs

An AMO gets a read and a write response, at any time after its address was
accepted. The error of a response that arrives in `UC_MEM_WAIT_RSP` is kept until
the core is answered, and keeps the cached copy as it is; the error of a read
response that arrives while the data still waits to be accepted is lost.
-/

namespace Cva6Hpd.Hpdcache.Uncached

open Cva6Hpd.Hw

variable {cfg : Cfg}

/-! ## What the memory and the core promise -/

/-- The assertions of the handler: when a response may come, and that an atomic
needs an answer. -/
structure Expected (s : State cfg) (i : Input cfg) : Prop where
  write : i.memRespWriteValid = true → s.ucFsmQ = .memWaitRsp
  read : i.memRespReadValid = true →
    s.ucFsmQ = .memWaitRsp ∨ (s.ucFsmQ = .memWdataReq ∧ reqIsAmo s.reqQ.op = true)
  needRsp : i.reqValid = true → i.req.op.isAmo = true → i.req.needRsp = true

instance decidableExpected (s : State cfg) (i : Input cfg) : Decidable (Expected s i) :=
  decidable_of_iff
    ((i.memRespWriteValid = true → s.ucFsmQ = .memWaitRsp) ∧
      (i.memRespReadValid = true →
        s.ucFsmQ = .memWaitRsp ∨ (s.ucFsmQ = .memWdataReq ∧ reqIsAmo s.reqQ.op = true)) ∧
      (i.reqValid = true → i.req.op.isAmo = true → i.req.needRsp = true))
    ⟨fun ⟨write, read, needRsp⟩ => ⟨write, read, needRsp⟩,
      fun expected => ⟨expected.write, expected.read, expected.needRsp⟩⟩

/-! ## The responses to the request in service -/

/-- What happened to the request in service: a response reported an error, in
which of the two states, and the cached copy was written. -/
structure ErrorLog where
  readError : Bool
  writeError : Bool
  early : Bool
  late : Bool
  written : Bool

def ErrorLog.fresh : ErrorLog where
  readError := false
  writeError := false
  early := false
  late := false
  written := false

def recordErrors (s : State cfg) (i : Input cfg) (log : ErrorLog) : ErrorLog :=
  if i.reqValid && reqReady s then ErrorLog.fresh
  else
    { readError := log.readError || rdError i
      writeError := log.writeError || wrError i
      early := log.early || (s.ucFsmQ == .memWdataReq && rdError i)
      late := log.late || (s.ucFsmQ == .memWaitRsp && (rdError i || wrError i))
      written := log.written || dataAmoWrite s }

/-- The answer reports the errors of the responses, and an AMO with an error
left the cached copy as it was. -/
def ErrorsReported (s : State cfg) (log : ErrorLog) : Prop :=
  log.readError = true ∨ log.writeError = true → s.rspErrorQ = true ∧ log.written = false

/-- No read response reported an error while the data waited to be accepted,
unless a later response did too. -/
def ErrorKept (log : ErrorLog) : Prop := log.early = true → log.late = true

/-! ## Operations -/

theorem isLoad_of_reqIsAmo {op : ReqOp} (amo : reqIsAmo op = true) : op.isLoad = false := by
  cases op <;> first | rfl | contradiction

theorem isStore_of_reqIsAmo {op : ReqOp} (amo : reqIsAmo op = true) : op.isStore = false := by
  cases op <;> first | rfl | contradiction

theorem isAmo_of_reqIsAmo {op : ReqOp} (amo : reqIsAmo op = true) : op.isAmo = true := by
  cases op <;> first | rfl | contradiction

theorem ne_amoLr_of_reqIsAmo {op : ReqOp} (amo : reqIsAmo op = true) : op ≠ .amoLr := by
  rintro rfl
  contradiction

theorem ne_amoSc_of_reqIsAmo {op : ReqOp} (amo : reqIsAmo op = true) : op ≠ .amoSc := by
  rintro rfl
  contradiction

theorem memWaitRsp_of_reqIsAmo {s : State cfg} (i : Input cfg)
    (waiting : s.ucFsmQ = .memWaitRsp) (amo : reqIsAmo s.reqQ.op = true) :
    (step s i).ucFsmQ =
      if amoResponded s i then
        if s.reqQ.uc || s.rspErrorQ || rdError i || wrError i || !reqHit s then .coreRsp
        else .amoWriteData
      else .memWaitRsp := by
  simp only [step, fsm, waiting, memWaitRspComb, isLoad_of_reqIsAmo amo, isStore_of_reqIsAmo amo,
    amo, beq_eq_false_iff_ne.mpr (ne_amoLr_of_reqIsAmo amo),
    beq_eq_false_iff_ne.mpr (ne_amoSc_of_reqIsAmo amo), Bool.false_eq_true, if_false, if_true]
  split_ifs
  · rfl
  · rfl
  · exact waiting

/-! ## The invariant -/

/-- What the error register holds in each state. -/
structure Accounts (s : State cfg) (log : ErrorLog) : Prop where
  reported : (log.readError || log.writeError) = (log.early || log.late)
  needs : reqIsAmo s.reqQ.op = true → s.reqQ.needRsp = true
  clean : Clean s
  sending : Sending s → log.late = false ∧ log.written = false
  waiting : s.ucFsmQ = .memWaitRsp →
    s.rspErrorQ = (s.reqQ.needRsp && log.late) ∧ log.written = false
  writing : s.ucFsmQ = .amoWriteData → reqIsAmo s.reqQ.op = true →
    s.rspErrorQ = false ∧ log.late = false
  answering : s.ucFsmQ = .coreRsp → reqIsAmo s.reqQ.op = true →
    (log.early = true ∨ log.late = true → s.rspErrorQ = log.late) ∧
      (log.late = true → log.written = false)

theorem accounts_reset : Accounts (reset cfg) ErrorLog.fresh where
  reported := rfl
  needs := by intro amo; contradiction
  clean := clean_reset
  sending := fun _ => ⟨rfl, rfl⟩
  waiting := by intro waiting; contradiction
  writing := by intro writing; contradiction
  answering := by intro answering; contradiction

section Step

variable {s : State cfg} {log : ErrorLog} {i : Input cfg}

theorem recordErrors_of_accepted (accepted : (i.reqValid && reqReady s) = true) :
    recordErrors s i log = ErrorLog.fresh := by
  rw [recordErrors, if_pos accepted]

theorem reported_step (accounts : Accounts s log) (expected : Expected s i) :
    ((recordErrors s i log).readError || (recordErrors s i log).writeError) =
      ((recordErrors s i log).early || (recordErrors s i log).late) := by
  have before := accounts.reported
  by_cases accepted : (i.reqValid && reqReady s) = true
  · rw [recordErrors_of_accepted accepted]
    rfl
  · simp only [recordErrors, accepted, Bool.false_eq_true, if_false]
    have write : wrError i = true → s.ucFsmQ = .memWaitRsp := fun error =>
      expected.write (Bool.and_eq_true_iff.mp error).1
    have read : rdError i = true → s.ucFsmQ = .memWaitRsp ∨ s.ucFsmQ = .memWdataReq :=
      fun error => (expected.read (Bool.and_eq_true_iff.mp error).1).imp_right And.left
    cases readError : rdError i <;> cases writeError : wrError i <;>
      cases state : s.ucFsmQ <;> simp_all

theorem needs_step (accounts : Accounts s log) (expected : Expected s i) :
    reqIsAmo (step s i).reqQ.op = true → (step s i).reqQ.needRsp = true := by
  simp only [step]
  split_ifs with accepted
  · intro amo
    exact expected.needRsp (Bool.and_eq_true_iff.mp accepted).1 (isAmo_of_reqIsAmo amo)
  · exact accounts.needs

theorem recordErrors_of_busy (busy : s.ucFsmQ ≠ .idle) :
    recordErrors s i log =
      { readError := log.readError || rdError i
        writeError := log.writeError || wrError i
        early := log.early || (s.ucFsmQ == .memWdataReq && rdError i)
        late := log.late || (s.ucFsmQ == .memWaitRsp && (rdError i || wrError i))
        written := log.written || dataAmoWrite s } := by
  rw [recordErrors, if_neg (by simp [reqReady, busy])]

/-- A taken request starts without errors. -/
theorem accounts_of_idle (state : s.ucFsmQ = .idle) (accounts : Accounts s log)
    (expected : Expected s i) : Accounts (step s i) (recordErrors s i log) := by
  have fresh (valid : i.reqValid = true) : recordErrors s i log = ErrorLog.fresh :=
    recordErrors_of_accepted (by simp [valid, reqReady, state])
  have reported := reported_step accounts expected
  have needs := needs_step accounts expected
  have clean := accounts.clean.step i
  rcases next_of_idle i state with ⟨stays, _⟩ | ⟨valid, ⟨sent, _⟩ | answered⟩
  · exact { reported, needs, clean, sending := by simp [Sending, stays],
            waiting := by simp [stays], writing := by simp [stays],
            answering := by simp [stays] }
  · rw [fresh valid]
    exact { reported := rfl, needs, clean, sending := fun _ => ⟨rfl, rfl⟩,
            waiting := by simp [sent], writing := by simp [sent], answering := by simp [sent] }
  · rw [fresh valid]
    exact { reported := rfl, needs, clean, sending := by simp [Sending, answered],
            waiting := by simp [answered], writing := by simp [answered],
            answering := fun _ _ => ⟨by simp [ErrorLog.fresh], by simp [ErrorLog.fresh]⟩ }

theorem accounts_of_sending (sending : Sending s) (accounts : Accounts s log)
    (expected : Expected s i) : Accounts (step s i) (recordErrors s i log) := by
  rcases accounts.sending sending with ⟨late, written⟩
  have busy : s.ucFsmQ ≠ .idle := by
    rcases sending with state | state | state <;> simp [state]
  have notWaiting : (s.ucFsmQ == .memWaitRsp) = false := by
    rcases sending with state | state | state <;> simp [state]
  have notWriting : dataAmoWrite s = false := by
    rcases sending with state | state | state <;> simp [dataAmoWrite, state]
  have reported := reported_step accounts expected
  have needs := needs_step accounts expected
  have clean := accounts.clean.step i
  have late' : (recordErrors s i log).late = false := by
    simp [recordErrors_of_busy busy, late, notWaiting]
  have written' : (recordErrors s i log).written = false := by
    simp [recordErrors_of_busy busy, written, notWriting]
  rcases next_of_sending i sending with ⟨error, still | waiting⟩
  · have elsewhere : (step s i).ucFsmQ ≠ .memWaitRsp ∧
        (step s i).ucFsmQ ≠ .amoWriteData ∧ (step s i).ucFsmQ ≠ .coreRsp := by
      rcases still with state | state | state <;> simp [state]
    exact { reported, needs, clean, sending := fun _ => ⟨late', written'⟩,
            waiting := fun state => absurd state elsewhere.1,
            writing := fun state => absurd state elsewhere.2.1,
            answering := fun state => absurd state elsewhere.2.2 }
  · have quiet := error.trans (accounts.clean.resting (.inr sending))
    exact { reported, needs, clean, sending := by simp [Sending, waiting],
            waiting := fun _ => ⟨by simp [quiet, late'], written'⟩,
            writing := by simp [waiting], answering := by simp [waiting] }

theorem clean_of_writing (state : s.ucFsmQ = .memWaitRsp) (amo : reqIsAmo s.reqQ.op = true)
    (writing : (step s i).ucFsmQ = .amoWriteData) :
    s.rspErrorQ = false ∧ rdError i = false ∧ wrError i = false := by
  rw [memWaitRsp_of_reqIsAmo i state amo] at writing
  split_ifs at writing with responded blocked
  simp only [Bool.or_eq_true, not_or, Bool.not_eq_true] at blocked
  exact ⟨blocked.1.1.1.2, blocked.1.1.2, blocked.1.2⟩

theorem accounts_of_waiting (state : s.ucFsmQ = .memWaitRsp) (accounts : Accounts s log)
    (expected : Expected s i) : Accounts (step s i) (recordErrors s i log) := by
  have clean := accounts.clean.step i
  have before := accounts.waiting state
  have busy : s.ucFsmQ ≠ .idle := by simp [state]
  have same := reqQ_step_of_busy i busy
  have reported := reported_step accounts expected
  have needs := needs_step accounts expected
  have late : (recordErrors s i log).late = (log.late || (rdError i || wrError i)) := by
    simp [recordErrors_of_busy busy, state]
  have written : (recordErrors s i log).written = false := by
    simp [recordErrors_of_busy busy, before.2, dataAmoWrite, state]
  rcases next_of_waiting i state with ⟨error, next⟩
  have error' : (step s i).rspErrorQ = (s.reqQ.needRsp && (recordErrors s i log).late) := by
    rw [error, before.1, late]
    exact (Bool.and_or_distrib_left _ _ _).symm
  rcases next with waiting | answering | writing | ⟨silent, noRsp⟩
  · exact { reported, needs, clean, sending := by simp [Sending, waiting],
            waiting := fun _ => ⟨by rw [error', same], written⟩, writing := by simp [waiting],
            answering := by simp [waiting] }
  · exact { reported, needs, clean,
            sending := by simp [Sending, answering], waiting := by simp [answering],
            writing := by simp [answering],
            answering := fun _ amo => by
              have needRsp := accounts.needs (same ▸ amo)
              exact ⟨fun _ => by rw [error', needRsp, Bool.true_and], fun _ => written⟩ }
  · exact { reported, needs, clean, sending := by simp [Sending, writing],
            waiting := by simp [writing],
            writing := fun _ amo => by
              rw [same] at amo
              have unmarked := clean_of_writing state amo writing
              have noLate : log.late = false := by
                simpa [accounts.needs amo, unmarked.1] using before.1.symm
              exact ⟨by rw [error', late, noLate, unmarked.2.1, unmarked.2.2]; simp,
                by rw [late, noLate, unmarked.2.1, unmarked.2.2]; rfl⟩
            answering := by simp [writing] }
  · exact { reported, needs, clean,
            sending := by simp [Sending, silent], waiting := by simp [silent],
            writing := by simp [silent], answering := by simp [silent] }

theorem accounts_of_writing (state : s.ucFsmQ = .amoWriteData) (accounts : Accounts s log)
    (expected : Expected s i) : Accounts (step s i) (recordErrors s i log) := by
  have before := accounts.writing state
  have busy : s.ucFsmQ ≠ .idle := by simp [state]
  have late : (recordErrors s i log).late = log.late := by
    simp [recordErrors_of_busy busy, state]
  rcases next_of_writing i state with ⟨next, error⟩
  exact { reported := reported_step accounts expected
          needs := needs_step accounts expected
          clean := accounts.clean.step i
          sending := by simp [Sending, next]
          waiting := by simp [next]
          writing := by simp [next]
          answering := fun _ amo => by
            rw [reqQ_step_of_busy i busy] at amo
            rw [late, error, (before amo).1, (before amo).2]
            exact ⟨fun _ => rfl, by simp⟩ }

theorem accounts_of_answering (state : s.ucFsmQ = .coreRsp) (accounts : Accounts s log)
    (expected : Expected s i) : Accounts (step s i) (recordErrors s i log) := by
  have clean := accounts.clean.step i
  have before := accounts.answering state
  have busy : s.ucFsmQ ≠ .idle := by simp [state]
  have same := reqQ_step_of_busy i busy
  have reported := reported_step accounts expected
  have needs := needs_step accounts expected
  have kept : (recordErrors s i log).early = log.early ∧
      (recordErrors s i log).late = log.late ∧
      (recordErrors s i log).written = log.written := by
    simp [recordErrors_of_busy busy, state, dataAmoWrite]
  rcases next_of_answering i state with ⟨next, error⟩ | ⟨next, error⟩
  · exact { reported, needs, clean, sending := by simp [Sending, next],
            waiting := by simp [next], writing := by simp [next],
            answering := fun _ amo => by
              rw [same] at amo
              rw [error, kept.1, kept.2.1, kept.2.2]
              exact before amo }
  · exact { reported, needs, clean, sending := by simp [Sending, next],
            waiting := by simp [next], writing := by simp [next], answering := by simp [next] }

theorem Accounts.step (accounts : Accounts s log) (expected : Expected s i) :
    Accounts (step s i) (recordErrors s i log) := by
  cases state : s.ucFsmQ with
  | idle => exact accounts_of_idle state accounts expected
  | memReq => exact accounts_of_sending (.inl state) accounts expected
  | memWReq => exact accounts_of_sending (.inr (.inl state)) accounts expected
  | memWdataReq => exact accounts_of_sending (.inr (.inr state)) accounts expected
  | memWaitRsp => exact accounts_of_waiting state accounts expected
  | coreRsp => exact accounts_of_answering state accounts expected
  | amoWriteData => exact accounts_of_writing state accounts expected

end Step

/-! ## Runs -/

/-- The handler together with the responses to the request in service. -/
def errorMachine (cfg : Cfg) : Machine (State cfg × ErrorLog) (Input cfg) :=
  (machine cfg).withHistory ErrorLog.fresh recordErrors

theorem accounts_run {inputs : List (Input cfg)}
    (expected : (errorMachine cfg).RunAlong (fun s i => Expected s.1 i) inputs) :
    Accounts ((errorMachine cfg).run inputs).1 ((errorMachine cfg).run inputs).2 :=
  (errorMachine cfg).run_invariant_along (fun s => Accounts s.1 s.2) accounts_reset
    (fun _ _ accounts expected => accounts.step expected) expected

/-- In every run, the answer to an AMO reports the errors of its responses
exactly when no error came early and alone. -/
theorem errorsReported_run (inputs : List (Input cfg))
    (expected : (errorMachine cfg).RunAlong (fun s i => Expected s.1 i) inputs)
    (answering : coreRspValid ((errorMachine cfg).run inputs).1 = true)
    (amo : reqIsAmo ((errorMachine cfg).run inputs).1.reqQ.op = true) :
    ErrorsReported ((errorMachine cfg).run inputs).1 ((errorMachine cfg).run inputs).2 ↔
      ErrorKept ((errorMachine cfg).run inputs).2 := by
  have accounts := accounts_run expected
  have after := accounts.answering (beq_iff_eq.mp answering) amo
  have reported := accounts.reported
  rw [ErrorsReported, ErrorKept, ← Bool.or_eq_true, reported, Bool.or_eq_true]
  constructor
  · intro told early
    rw [← after.1 (.inl early)]
    exact (told (.inl early)).1
  · intro kept error
    have late := error.elim kept id
    exact ⟨(after.1 error).trans late, after.2 late⟩

/-- A swap that hits. -/
def Request.swap (cfg : Cfg) : Request cfg :=
  { Request.zero cfg with op := .amoSwap, needRsp := true, hitWay := fun _ => true }

/-- A swap whose address is accepted before its data, whose read response then
arrives, with or without an error, before its data is accepted, and whose write
response is good. -/
def earlyRead (error : Bool) : List (Input Cfg.small) :=
  [{ Input.quiet Cfg.small with reqValid := true, req := Request.swap Cfg.small },
    { Input.quiet Cfg.small with memReqWriteReady := true },
    { Input.quiet Cfg.small with memRespReadValid := true, memRespRError := error },
    { Input.quiet Cfg.small with memReqWriteDataReady := true },
    { Input.quiet Cfg.small with memRespWriteValid := true },
    Input.quiet Cfg.small]

theorem errorsReported_earlyRead :
    ErrorsReported ((errorMachine Cfg.small).run (earlyRead false)).1
        ((errorMachine Cfg.small).run (earlyRead false)).2 ↔
      ErrorKept ((errorMachine Cfg.small).run (earlyRead false)).2 :=
  errorsReported_run (earlyRead false) (by decide +kernel) (by decide +kernel)
    (by decide +kernel)

/-- The error of the early read response is lost, and the cached copy is
written. -/
theorem error_lost :
    (errorMachine Cfg.small).RunAlong (fun s i => Expected s.1 i) (earlyRead true) ∧
      coreRspValid ((errorMachine Cfg.small).run (earlyRead true)).1 = true ∧
      reqIsAmo ((errorMachine Cfg.small).run (earlyRead true)).1.reqQ.op = true ∧
      ¬ErrorsReported ((errorMachine Cfg.small).run (earlyRead true)).1
        ((errorMachine Cfg.small).run (earlyRead true)).2 := by
  refine ⟨by decide +kernel, by decide +kernel, by decide +kernel, fun told => ?_⟩
  exact absurd (told (.inl (by decide +kernel))).1 (by decide +kernel)

end Cva6Hpd.Hpdcache.Uncached
