import TrustTunnel.Client.LiveConnections

/-!
# Health checks of the multiplexer

The multiplexer checks every child with an open session, and the first one is to give the
result. The others are to report a failure as that of their session. A child forgets which
of the two it is when it has sent its request.
-/

namespace TrustTunnel.Client

open HttpUdpMultiplexer (nonId)
open Transition List

variable {report : ServerEvent}

namespace Http2Upstream

structure HealthCheckInfo where
  streamId : UInt32
  /-- What the scheduled task reports. -/
  timeout : ErrorInfo
  error : Option ErrorInfo := none
  needResult : Bool := true

/-- `do_health_check`, with the stream of the request if it can be sent. -/
def doHealthCheck (needResult : Bool) : Option UInt32 → HealthCheckInfo
  | none =>
    { streamId := 0xFFFFFFFF
      timeout := ⟨.vpn .error, "Failed to send health check request"⟩
      needResult }
  -- here `need_result` is not passed on
  | some streamId => { streamId, timeout := ⟨.vpn .error, "Health check has timed out"⟩ }

/-- What happens to the check of a child; an error of the stream is given as its text. -/
inductive CheckEvent where
  | timeout
  | headers (streamId : UInt32) (statusCode : Nat)
  | streamProcessed (streamId : UInt32) (error : Option String) (closing : Bool)
  /-- The session has processed what was read from the socket. -/
  | dataProcessed
  /-- The handler of a socket event returns. -/
  | handled

/-- What a child's check depends on. -/
structure Child where
  healthCheckInfo : Option HealthCheckInfo
  /-- The session is to be closed with this error when the handler returns. -/
  pendingSessionError : Option ErrorInfo

def reportHealthCheckError (needResult : Bool) (error : ErrorInfo) : ServerEvent :=
  if needResult then .passed .healthCheckError else .error nonId error

def authRequired : ErrorInfo := ⟨.vpn .authRequired, "Authorization Required"⟩

def HealthCheckInfo.onStatus (self : HealthCheckInfo) (streamId : UInt32) (statusCode : Nat) :
    HealthCheckInfo :=
  if self.streamId = streamId ∧ statusCode ≠ 200 then
    { self with error := some ⟨.vpn .error, "Bad response code"⟩ }
  else self

/-- The child afterwards, and what is reported. -/
def onCheckEvent (self : Child) (event : CheckEvent) : Child × Option ServerEvent :=
  match event, self.healthCheckInfo with
  | .headers streamId statusCode, info =>
    -- on any stream
    if statusCode = 407 then ({ self with pendingSessionError := some authRequired }, none)
    else ({ self with healthCheckInfo := info.map (·.onStatus streamId statusCode) }, none)
  | .dataProcessed, _ => ({ self with healthCheckInfo := none }, none)
  | .handled, info =>
    (⟨if self.pendingSessionError.isSome then none else info, none⟩,
      self.pendingSessionError.map (.error nonId))
  | .timeout, none | .streamProcessed .., none => (self, none)
  | .timeout, some info =>
    ({ self with healthCheckInfo := none },
      some (reportHealthCheckError info.needResult info.timeout))
  | .streamProcessed streamId error closing, some info =>
    if info.streamId ≠ streamId then (self, none)
    else if closing then ({ self with healthCheckInfo := none }, none)
    else
      ({ self with healthCheckInfo := none },
        (info.error.or (error.map fun text => ⟨.vpn .error, text⟩)).map
          (reportHealthCheckError info.needResult))

/-- The outcome of a check whose request was sent on a stream is a failure: it has timed out, or
there is a bad status code or an error of the stream. -/
def Fails (stream : UInt32) : CheckEvent → Prop
  | .timeout => True
  | .headers streamId statusCode => streamId = stream ∧ statusCode ≠ 200 ∧ statusCode ≠ 407
  | .streamProcessed streamId error closing => streamId = stream ∧ error ≠ none ∧ closing = false
  | .dataProcessed | .handled => False

variable {child : Child} {event : CheckEvent}

lemma onCheckEvent_keeps {after : HealthCheckInfo}
    (left : after ∈ (onCheckEvent child event).1.healthCheckInfo) :
    ∃ before ∈ child.healthCheckInfo, after.needResult = before.needResult ∧
      after.streamId = before.streamId ∧ (after.error = before.error ∨ Fails before.streamId event) := by
  revert left
  fun_cases onCheckEvent child event with
  | case2 _ _ accepted =>
    intro left
    obtain ⟨before, found, rfl⟩ := Option.map_eq_some_iff.mp left
    refine ⟨before, found, ?_⟩
    rw [HealthCheckInfo.onStatus]
    split
    · rename_i bad
      exact ⟨rfl, rfl, .inr ⟨bad.1.symm, bad.2, accepted⟩⟩
    · exact ⟨rfl, rfl, .inl rfl⟩
  | case4 =>
    intro left
    simp only at left
    split at left
    · cases left
    · exact ⟨after, left, rfl, rfl, .inl rfl⟩
  | case3 | case7 | case9 | case10 => exact nofun
  | case1 | case5 | case6 | case8 => exact fun left => ⟨after, left, rfl, rfl, .inl rfl⟩

/-- A report ends the check. It is the error of the session, or says that the check has failed
and depends on whether it is to give the result. -/
lemma onCheckEvent_reports (reports : report ∈ (onCheckEvent child event).2) :
    (onCheckEvent child event).1.healthCheckInfo = none ∧
      ((∃ error, report = .error nonId error) ∨
        ∃ before ∈ child.healthCheckInfo, (before.error ≠ none ∨ Fails before.streamId event) ∧
          ∃ error, report = reportHealthCheckError before.needResult error) := by
  revert reports
  fun_cases onCheckEvent child event with
  | case4 =>
    intro reports
    obtain ⟨error, pending, same⟩ := Option.map_eq_some_iff.mp reports
    exact ⟨by simp [pending], .inl ⟨error, same.symm⟩⟩
  | case7 info found =>
    rintro ⟨⟩
    exact ⟨rfl, .inr ⟨info, found, .inr trivial, _, rfl⟩⟩
  | case10 streamId error closing info found same running =>
    intro reports
    obtain ⟨failure, cause, report⟩ := Option.map_eq_some_iff.mp reports
    refine ⟨rfl, .inr ⟨info, found, ?_, failure, report.symm⟩⟩
    cases known : info.error with
    | some => exact .inl (Option.some_ne_none _)
    | none =>
      refine .inr ⟨(not_not.mp same).symm, ?_, by simpa using running⟩
      rintro rfl
      simp [known] at cause
  | case1 | case2 | case3 | case5 | case6 | case8 | case9 => exact nofun

end Http2Upstream

open Http2Upstream

/-- The children, and what was reported by which of them. -/
structure HealthChecks where
  children : Int32 → Child
  raised : List (Int32 × ServerEvent)

namespace UpstreamMultiplexer

variable (answers : Answers) (self : UpstreamMultiplexer)

/-- The children with an open session, in the order of the pool. -/
def openChildren : List Int32 := (answers.poolOrder self.upstreamsPool.keys).filter fun id =>
    self.upstreamsPool.lookup id = some .sessionOpened

/-- The child that is to give the result. -/
def resultChild : Option Int32 := (self.openChildren answers).head?

/-- `UpstreamMultiplexer::do_health_check`, with the streams of the requests. -/
def doHealthCheck (sends : Int32 → Option UInt32) : HealthChecks where
  children id :=
    ⟨if id ∈ self.openChildren answers then
      some (Http2Upstream.doHealthCheck (self.resultChild answers = some id) (sends id))
    else none, none⟩
  raised := []

end UpstreamMultiplexer

namespace HealthChecks

def next (self : HealthChecks) (step : Int32 × CheckEvent) : HealthChecks :=
  let result := onCheckEvent (self.children step.1) step.2
  { children := Function.update self.children step.1 result.1
    raised := self.raised ++ result.2.toList.map (step.1, ·) }

variable (sends : Int32 → Option UInt32) (chosen : Option Int32) (self : HealthChecks)

/-- The number of results that were given. -/
def results : Nat := self.raised.countP fun entry => entry.2 = .passed .healthCheckError

/-- There is at most one result, and all that other children have reported is that their
session has failed. -/
def Single : Prop :=
  self.results ≤ 1 ∧
    ∀ entry ∈ self.raised, chosen ≠ some entry.1 → ∃ error, entry.2 = .error nonId error

/-- A check of another child fails only if its request could not be sent. -/
def OthersUnsent (step : Int32 × CheckEvent) : Prop :=
  chosen ≠ some step.1 → (self.children step.1).healthCheckInfo ≠ none →
    ∀ stream ∈ sends step.1, ¬Fails stream step.2

/-- A child that could not send its request knows that it is not to give the result, the check
of one that could has not failed, and the check of the chosen one is over when there is a
result. -/
structure Guarded (state : HealthChecks) : Prop where
  unsent : ∀ id, ∀ info ∈ (state.children id).healthCheckInfo, chosen ≠ some id →
    sends id = none → info.needResult = false
  sent : ∀ id, ∀ info ∈ (state.children id).healthCheckInfo, chosen ≠ some id →
    ∀ stream ∈ sends id, info.streamId = stream ∧ info.error = none
  done : ∀ id ∈ chosen, ∀ _ ∈ (state.children id).healthCheckInfo, state.results = 0
  single : state.Single chosen

variable {sends chosen self}

/-- Another child reports the failure of its session. -/
lemma Guarded.error_of_reports (guarded : Guarded sends chosen self) {id : Int32}
    {event : CheckEvent} (others : OthersUnsent sends chosen self (id, event))
    (other : chosen ≠ some id) (reports : report ∈ (onCheckEvent (self.children id) event).2) :
    ∃ error, report = .error nonId error := by
  obtain ⟨-, session | ⟨before, found, failed, error, same⟩⟩ := onCheckEvent_reports reports
  · exact session
  cases req : sends id with
  | none =>
    rw [guarded.unsent id before found other req] at same
    exact ⟨error, same⟩
  | some stream =>
    obtain ⟨rfl, fine⟩ := guarded.sent id before found other stream req
    have waits : (self.children id).healthCheckInfo ≠ none := Option.ne_none_iff_exists'.mpr ⟨_, found⟩
    exact absurd (failed.resolve_left (not_not.mpr fine)) (others other waits _ req)

lemma Guarded.next (guarded : Guarded sends chosen self) {step : Int32 × CheckEvent}
    (others : OthersUnsent sends chosen self step) : Guarded sends chosen (self.next step) := by
  obtain ⟨id, event⟩ := step
  have kept {other : Int32} {after : HealthCheckInfo}
      (left : after ∈ ((self.next (id, event)).children other).healthCheckInfo) :
      ∃ before ∈ (self.children other).healthCheckInfo, after.needResult = before.needResult ∧
        after.streamId = before.streamId ∧
        (after.error = before.error ∨ other = id ∧ Fails before.streamId event) := by
    simp only [HealthChecks.next, Function.update_apply] at left
    split at left
    · subst other
      obtain ⟨before, found, result, stream, error⟩ := onCheckEvent_keeps left
      exact ⟨before, found, result, stream, error.imp_right fun fails => ⟨rfl, fails⟩⟩
    · exact ⟨after, left, rfl, rfl, .inl rfl⟩
  have unsent : ∀ other, ∀ info ∈ ((self.next (id, event)).children other).healthCheckInfo,
      chosen ≠ some other → sends other = none → info.needResult = false := by
    intro other info left different missing
    obtain ⟨before, found, same, -⟩ := kept left
    exact same.trans (guarded.unsent other before found different missing)
  have sent : ∀ other, ∀ info ∈ ((self.next (id, event)).children other).healthCheckInfo,
      chosen ≠ some other → ∀ stream ∈ sends other, info.streamId = stream ∧ info.error = none := by
    intro other info left different stream req
    obtain ⟨before, found, -, same, error⟩ := kept left
    obtain ⟨rfl, fine⟩ := guarded.sent other before found different stream req
    refine ⟨same, error.elim (fun error => error.trans fine) ?_⟩
    rintro ⟨rfl, fails⟩
    exact absurd fails (others different (Option.ne_none_iff_exists'.mpr ⟨_, found⟩) _ req)
  have done (same : (self.next (id, event)).results = self.results) :
      ∀ other ∈ chosen, ∀ _ ∈ ((self.next (id, event)).children other).healthCheckInfo,
        (self.next (id, event)).results = 0 := by
    intro other isChosen info left
    obtain ⟨before, found, -⟩ := kept left
    exact same.trans (guarded.done other isChosen before found)
  cases reported : (onCheckEvent (self.children id) event).2 with
  | none =>
    have raised : (self.next (id, event)).raised = self.raised := by
      simp [HealthChecks.next, reported]
    refine ⟨unsent, sent, done (by rw [results, results, raised]), ?_⟩
    rw [Single, results, raised]
    exact guarded.single
  | some report =>
    have raised : (self.next (id, event)).raised = self.raised ++ [(id, report)] := by
      simp [HealthChecks.next, reported]
    -- the error of a session is no result
    have harmless (session : ∃ error, report = .error nonId error) :
        Guarded sends chosen (self.next (id, event)) := by
      obtain ⟨error, rfl⟩ := session
      have count : (self.next (id, event)).results = self.results := by
        rw [results, raised, countP_append]
        rfl
      refine ⟨unsent, sent, done count, count.trans_le guarded.single.1, ?_⟩
      rw [raised, forall_mem_append, forall_mem_singleton]
      exact ⟨guarded.single.2, fun _ => ⟨error, rfl⟩⟩
    by_cases result : chosen = some id
    · obtain ⟨ends, session | ⟨before, found, -⟩⟩ := onCheckEvent_reports reported
      · exact harmless session
      -- the chosen child gives the first result
      refine ⟨unsent, sent, fun other isChosen info left => ?_, ?_, ?_⟩
      · cases result.symm.trans isChosen
        simp [HealthChecks.next, ends] at left
      · rw [results, raised, countP_append, ← results, guarded.done id result before found]
        exact (zero_add _).trans_le countP_le_length
      · rw [raised, forall_mem_append, forall_mem_singleton]
        exact ⟨guarded.single.2, fun different => absurd result different⟩
    · exact harmless (guarded.error_of_reports others result reported)

/-- In every run of a health check in which the checks of other children fail only if their
requests could not be sent, there is at most one result, which the first child gives. -/
theorem single_run (answers : UpstreamMultiplexer.Answers) (mux : UpstreamMultiplexer)
    (sends : Int32 → Option UInt32) (steps : List (Int32 × CheckEvent))
    (others : EachStep next (OthersUnsent sends (mux.resultChild answers))
      (mux.doHealthCheck answers sends) steps) :
    Always next (Single (mux.resultChild answers)) (mux.doHealthCheck answers sends) steps := by
  refine Always.of_invariant (Guarded sends (mux.resultChild answers))
    (fun guarded others => guarded.next others) (fun guarded => guarded.single) ?_ others
  refine ⟨fun id info found other missing => ?_, fun id info found other stream req => ?_,
    fun _ _ _ _ => rfl, Nat.zero_le _, ?_⟩
  · simp only [UpstreamMultiplexer.doHealthCheck] at found
    split at found
    · cases found
      rw [missing]
      exact decide_eq_false other
    · cases found
  · simp only [UpstreamMultiplexer.doHealthCheck] at found
    split at found
    · cases found
      rw [Option.mem_def.mp req]
      exact ⟨rfl, rfl⟩
    · cases found
  · exact fun _ listed => absurd listed not_mem_nil

/-- Two children with an open session; child 1 is the first one of the pool. -/
def twoChildren : UpstreamMultiplexer := (UpstreamMultiplexer.new.markOpened 0).markOpened 1

def inOrder : UpstreamMultiplexer.Answers := UpstreamMultiplexer.willing 0 2 fun _ => 0

def bothTimeOut : List (Int32 × CheckEvent) := [(0, .timeout), (1, .timeout)]

/-- Child 0 cannot send its request. -/
theorem single_bothTimeOut :
    Always next (Single (twoChildren.resultChild inOrder))
      (twoChildren.doHealthCheck inOrder fun id => if id = 1 then some 1 else none)
      bothTimeOut := by
  have chosen : twoChildren.resultChild inOrder = some 1 := by decide +kernel
  refine single_run inOrder twoChildren _ bothTimeOut
    ⟨fun _ _ stream req => ?_, fun other => absurd chosen other, trivial⟩
  cases req

/-- If both requests are sent and time out, there are two results, and child 0 gives one. -/
theorem not_single_bothTimeOut :
    twoChildren.resultChild inOrder = some 1 ∧
      (bothTimeOut.foldl next (twoChildren.doHealthCheck inOrder fun _ => some 1)).raised =
        [(0, .passed .healthCheckError), (1, .passed .healthCheckError)] ∧
      ¬Always next (Single (twoChildren.resultChild inOrder))
        (twoChildren.doHealthCheck inOrder fun _ => some 1) bothTimeOut := by
  refine ⟨by decide +kernel, by decide +kernel, fun always => ?_⟩
  exact absurd always.last.1 (by decide +kernel)

end HealthChecks

end TrustTunnel.Client
