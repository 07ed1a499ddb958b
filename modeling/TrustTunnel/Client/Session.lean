import TrustTunnel.Client.Vpn

/-!
# What a session does with requests and attempts

The part of a session that decides about connection requests and connect attempts, with what
each action of the transition table does to it. Everything else a session keeps only decides
which row of the table is taken.
-/

namespace TrustTunnel.Client

open Transition List

namespace Call

/-- A request is handed to the client, which routes or rejects the connection. -/
def isHandover : Call → Bool
  | completeConnectRequest _ _ => true
  | rejectConnectRequest _ => true
  | _ => false

end Call

/-- What a session knows about requests and attempts. -/
structure Session where
  state : SessionState
  connectRetryInfo : ConnectRetryInfo
  killSwitchOn : Bool
  timer : Bool
  postponed : List ConnectRequestResult
  bypassed : List UInt64
  /-- The requests handed to the client so far. -/
  handovers : List Call

namespace Session

/-- One attempt less; `size_t` wraps around. -/
def spendAttempt : ConnectRetryInfo → ConnectRetryInfo
  | .severalAttempts attemptsLeft => .severalAttempts (attemptsLeft - 1)
  | .fallIntoRecovery => .fallIntoRecovery

def completeRequest (self : Session) (req : ConnectRequestResult) : Session :=
  { self with
    handovers := self.handovers ++ [.completeConnectRequest req.id req.action] }

def postponeRequest (self : Session) (req : ConnectRequestResult) : Session :=
  { self with postponed := self.postponed ++ [req] }

def rejectRequest (self : Session) (req : ConnectRequestResult) : Session :=
  { self with handovers := self.handovers ++ [.rejectConnectRequest req.id] }

def bypassUntilConnected (self : Session) (req : ConnectRequestResult) : Session :=
  { self with
    bypassed := self.bypassed ++ [req.id]
    handovers := self.handovers ++ [.completeConnectRequest req.id (some .forceBypass)] }

/-- Everything that was postponed is completed, and nothing is left of the recovery. -/
def finalizeRecovery (self : Session) : Session :=
  { self with
    timer := false
    postponed := []
    bypassed := []
    handovers := self.handovers ++ self.postponed.map fun req =>
      .completeConnectRequest req.id req.action }

def withRequest (self : Session) (data : Data)
    (action : Session → ConnectRequestResult → Session) : Session :=
  match data with
  | .request req => action self req
  | _ => self

/-- What an action does; `timer` says whether there is a timer after recovery was prepared. -/
def act (action : Vpn.Action) (data : Data) (timer : Bool) (self : Session) : Session :=
  match action with
  | .retryConnect => { self with connectRetryInfo := spendAttempt self.connectRetryInfo }
  | .prepareForRecovery => { self with timer := timer }
  | .prepareForRecoveryNc => { self with timer := timer }
  | .finalizeRecovery => self.finalizeRecovery
  | .completeRequest => self.withRequest data completeRequest
  | .postponeRequest => self.withRequest data postponeRequest
  | .rejectRequest => self.withRequest data rejectRequest
  | .bypassUntilConnected => self.withRequest data bypassUntilConnected
  | _ => self

lemma withRequest_field {β : Type} (field : Session → β) {self : Session} {data : Data}
    {action : Session → ConnectRequestResult → Session}
    (same : ∀ req, field (action self req) = field self) :
    field (self.withRequest data action) = field self := by
  cases data with
  | request req => exact same req
  | null | error | network => rfl

lemma state_act (action : Vpn.Action) (data : Data) (timer : Bool) (self : Session) :
    (act action data timer self).state = self.state := by
  cases action with
  | completeRequest | postponeRequest | rejectRequest
  | bypassUntilConnected => exact withRequest_field _ fun _ => rfl
  | _ => rfl

lemma connectRetryInfo_act (action : Vpn.Action) (data : Data) (timer : Bool) (self : Session) :
    (act action data timer self).connectRetryInfo =
      if action = .retryConnect then spendAttempt self.connectRetryInfo
      else self.connectRetryInfo := by
  cases action with
  | completeRequest | postponeRequest | rejectRequest
  | bypassUntilConnected => exact withRequest_field _ fun _ => rfl
  | _ => rfl

/-- The timer expires: what was postponed is rejected or bypassed. -/
def expire (self : Session) : Session :=
  { self with
    timer := false
    postponed := []
    bypassed := self.bypassed ++
      if self.killSwitchOn then [] else self.postponed.map ConnectRequestResult.id
    handovers := self.handovers ++ self.postponed.map fun req =>
      if self.killSwitchOn then .rejectConnectRequest req.id
      else .completeConnectRequest req.id (some .forceBypass) }

def stop (self : Session) : Session :=
  { self with state := .disconnected, timer := false, postponed := [], bypassed := [] }

/-- What an event does before the machine is told. -/
def prepare (self : Session) : Vpn.Event → Session
  | .connect policy _ => { self with connectRetryInfo := policy.retryInfo }
  | .postponementTimer => if self.timer then self.expire else self
  | .stop => self.stop
  | _ => self

/-- Only `vpn_stop` changes the state without telling the machine. -/
lemma state_prepare (self : Session) {event : Vpn.Event}
    (runs : (self.prepare event).state ≠ .disconnected) :
    (self.prepare event).state = self.state := by
  cases event with
  | stop => exact absurd rfl runs
  | postponementTimer =>
    rw [prepare]
    split
    · rfl
    · rfl
  | _ => rfl

def moveTo (self : Session) (target : Option SessionState) : Session :=
  { self with state := target.getD self.state }

end Session

namespace Vpn

def session (self : Vpn) : Session where
  state := self.state
  connectRetryInfo := self.connectRetryInfo
  killSwitchOn := self.killSwitchOn
  timer := self.postponementWindowTimer
  postponed := self.postponedRequests
  bypassed := self.bypassedConnectionIds
  handovers := self.calls.filter Call.isHandover

variable (self : Vpn)

/-! ## Parts of actions that leave the session alone -/

lemma session_call {other : Call} (silent : other.isHandover = false) :
    (self.call other).session = self.session := by
  simp [session, call, silent]

@[simp] lemma session_stopPinging : self.stopPinging.session = self.session := by
  rw [stopPinging]
  cases self.pinger with
  | false => rfl
  | true => exact session_call self rfl

@[simp] lemma session_disconnectClient : self.disconnectClient.session = self.session := by
  rw [disconnectClient]
  split
  · rfl
  · exact session_call self rfl
  · exact session_call self rfl

@[simp] lemma session_disconnect : self.disconnect.session = self.session := by
  rw [disconnect, session_disconnectClient, session_stopPinging]

@[simp] lemma session_runClientConnect (error : VpnError) (timeout : Option Nat) :
    (self.runClientConnect error timeout).session = self.session := by
  rw [runClientConnect]
  split
  · exact session_call self rfl
  · exact (session_call _ rfl).trans (session_call self rfl)

@[simp] lemma session_runPing (now : Nat) : (self.runPing now).session = self.session := by
  have started : (self.stopPinging.call .startPinging).session = self.session :=
    (session_call _ rfl).trans self.session_stopPinging
  rw [runPing]
  split
  · exact started
  · exact started

variable (error : Option VpnError)

lemma session_failConnect : (self.failConnect error).session = self.session := by
  rw [failConnect]
  split
  · exact self.session_disconnect
  · rfl

lemma session_markNoAttempts : (self.markNoAttempts error).session = self.session := by
  rw [markNoAttempts]
  split
  · rfl
  · rfl

@[simp] lemma session_completeConnect : (self.completeConnect error).session = self.session := by
  have marked : ((self.failConnect error).markNoAttempts error).session = self.session :=
    (session_markNoAttempts _ error).trans (self.session_failConnect error)
  rw [completeConnect]
  split
  · exact (session_call _ rfl).trans marked
  · exact marked

@[simp] lemma session_startListening (error : VpnError) :
    (self.startListening error).session = self.session := by
  rw [startListening]
  split
  · exact (session_call _ rfl).trans (session_call self rfl)
  · exact session_call self rfl

@[simp] lemma session_raiseState : self.raiseState.session = self.session := by
  rw [raiseState]
  split
  · exact session_call self rfl
  · exact session_call self rfl
  · exact session_call self rfl
  · exact session_call self rfl

/-! ## Parts of actions that change it -/

@[simp] lemma session_retryConnect :
    self.retryConnect.session =
      { self.session with connectRetryInfo := Session.spendAttempt self.connectRetryInfo } := by
  rw [retryConnect, session_call _ rfl, session_disconnect]
  cases spent : self.connectRetryInfo with
  | severalAttempts => simp [session, Session.spendAttempt]
  | fallIntoRecovery => simp [session, Session.spendAttempt, spent]

lemma session_initiateRecovery (now : Nat) :
    ∃ timer, (timer = true ∨ timer = self.postponementWindowTimer) ∧
      (self.initiateRecovery now).session = { self.session with timer := timer } := by
  have scheduled : ∀ (vpn : Vpn) (elapsed : Nat),
      (vpn.scheduleRecovery now elapsed).session = vpn.session := fun vpn elapsed =>
    session_call vpn rfl
  rw [initiateRecovery]
  split
  · exact ⟨_, .inr rfl, session_call self rfl⟩
  · simp only [startRecovery]
    split
    · exact ⟨_, .inr rfl, scheduled _ _⟩
    · exact ⟨true, .inl rfl, scheduled _ _⟩

lemma session_prepareForRecovery (now : Nat) (error : Option VpnError) :
    ∃ timer, (timer = true ∨ timer = self.postponementWindowTimer) ∧
      (self.prepareForRecovery now error).session = { self.session with timer := timer } := by
  obtain ⟨timer, started, initiated⟩ := self.disconnect.session_initiateRecovery now
  have same : self.disconnect.postponementWindowTimer = self.postponementWindowTimer :=
    congrArg Session.timer self.session_disconnect
  rw [same] at started
  rw [session_disconnect] at initiated
  refine ⟨timer, started, ?_⟩
  rw [prepareForRecovery]
  split
  · exact initiated
  · exact initiated

lemma session_completePostponedRequests :
    self.completePostponedRequests.session =
      { self.session with
        postponed := []
        handovers := self.session.handovers ++ self.postponedRequests.map fun req =>
          .completeConnectRequest req.id req.action } := by
  have all : (self.postponedRequests.map fun req =>
      Call.completeConnectRequest req.id req.action).filter Call.isHandover =
      self.postponedRequests.map fun req => .completeConnectRequest req.id req.action :=
    filter_eq_self.mpr (forall_mem_map.mpr fun _ _ => rfl)
  simp [session, completePostponedRequests, all]

lemma session_resetBypassedConnections :
    self.resetBypassedConnections.session = { self.session with bypassed := [] } := by
  have none : (self.bypassedConnectionIds.map Call.resetConnection).filter Call.isHandover = [] :=
    filter_eq_nil_iff.mpr (forall_mem_map.mpr fun _ _ => Bool.false_ne_true)
  simp [session, resetBypassedConnections, none]

lemma session_finalizeRecovery : self.finalizeRecovery.session = self.session.finalizeRecovery := by
  let quiet : Vpn :=
    { { self.call .updateBypassIpAvailability with recovery := .initial }.stopPinging with
      postponementWindowTimer := false }
  have stopped : quiet.session = { self.session with timer := false } := by
    have kept := (session_stopPinging
      { self.call .updateBypassIpAvailability with recovery := .initial }).trans
      (session_call self rfl)
    exact congrArg (fun session => { session with timer := false }) kept
  have postponed : quiet.postponedRequests = self.postponedRequests :=
    congrArg Session.postponed stopped
  have whole : self.finalizeRecovery = quiet.completePostponedRequests.resetBypassedConnections :=
    rfl
  rw [whole, session_resetBypassedConnections, session_completePostponedRequests, stopped,
    postponed]
  rfl

lemma session_withRequest {concrete : Vpn → ConnectRequestResult → Vpn}
    {abstract : Session → ConnectRequestResult → Session} (input : Input)
    (same : ∀ req, (concrete self req).session = abstract self.session req) :
    (self.withRequest input concrete).session = self.session.withRequest input.data abstract := by
  unfold withRequest Session.withRequest
  cases input.data with
  | request req => exact same req
  | null | error | network => rfl

/-- Every action of the table does to the session what it is said to do; preparing for
recovery may start the timer. -/
lemma session_act (action : Action) (input : Input) :
    ∃ timer, (timer = true ∨ timer = self.postponementWindowTimer) ∧
      (act action self input).session = Session.act action input.data timer self.session := by
  have quiet : (act action self input).session =
      Session.act action input.data self.postponementWindowTimer self.session →
      ∃ timer, (timer = true ∨ timer = self.postponementWindowTimer) ∧
        (act action self input).session = Session.act action input.data timer self.session :=
    fun same => ⟨_, .inr rfl, same⟩
  cases action with
  | doNothing | onWrongListenState => exact quiet rfl
  | runPing => exact quiet (self.session_runPing _)
  | connectClient => exact quiet (self.session_runClientConnect _ _)
  | completeConnect | failConnectWithNoAttempts => exact quiet (self.session_completeConnect _)
  | retryConnect => exact quiet self.session_retryConnect
  | prepareForRecovery | prepareForRecoveryNc => exact self.session_prepareForRecovery _ _
  | reconnectClient =>
    exact quiet ((session_runClientConnect _ _ _).trans self.session_disconnectClient)
  | finalizeRecovery => exact quiet self.session_finalizeRecovery
  | doDisconnect => exact quiet (session_disconnect _)
  | startListening => exact quiet (self.session_startListening _)
  | onWrongConnectState => exact quiet self.session_disconnect
  | raiseState => exact quiet self.session_raiseState
  | completeRequest => exact quiet (self.session_withRequest input fun _ => by
    simp [session, completeRequest, Session.completeRequest, call, Call.isHandover])
  | postponeRequest => exact quiet (self.session_withRequest input fun _ => rfl)
  | rejectRequest => exact quiet (self.session_withRequest input fun _ => by
    simp [session, rejectRequest, Session.rejectRequest, call, Call.isHandover])
  | bypassUntilConnected => exact quiet (self.session_withRequest input fun _ => by
    simp [session, bypassUntilConnected, Session.bypassUntilConnected, call, Call.isHandover])

/-! ## Events -/

lemma session_postponementWindowTimerCb :
    self.postponementWindowTimerCb.session = self.session.expire := by
  have all : ((self.postponedRequests.map ConnectRequestResult.id).map fun id =>
      if self.killSwitchOn then Call.rejectConnectRequest id
      else .completeConnectRequest id (some .forceBypass)).filter Call.isHandover =
      self.postponedRequests.map fun req =>
        if self.killSwitchOn then Call.rejectConnectRequest req.id
        else .completeConnectRequest req.id (some .forceBypass) := by
    rw [map_map]
    refine filter_eq_self.mpr (forall_mem_map.mpr fun req _ => ?_)
    cases self.killSwitchOn with
    | true | false => rfl
  simp only [session, postponementWindowTimerCb, Session.expire, filter_append, all]
  rfl

variable (result : Option VpnEndpoint)

lemma session_pingerHandler : (self.pingerHandler result).1.session = self.session := by
  unfold pingerHandler
  cases result with
  | none => rfl
  | some =>
    simp only
    split
    · rfl
    · exact session_call _ rfl

lemma session_abandonEndpoint (endpoint : VpnEndpoint) :
    (self.abandonEndpoint endpoint).1.session = self.session := by
  rw [abandonEndpoint]
  split
  · rfl
  · split
    · rfl
    · rfl

lemma session_prepare (occ : Occurrence) :
    (self.prepare occ).1.session = self.session.prepare occ.event := by
  rw [prepare]
  cases occ.event with
  | connect | retryConnect | clientConnected | clientDisconnected | connectFailed | recoveryDue
  | forceReconnect | recoveryFailed | shutdown | startListening | completeRequest => rfl
  | pinged result => exact self.session_pingerHandler result
  | networkChange => exact session_call self rfl
  | abandonEndpoint endpoint => exact self.session_abandonEndpoint _
  | postponementTimer =>
    have expires := self.session_postponementWindowTimerCb
    cases armed : self.postponementWindowTimer with
    | true => simpa [Session.prepare, session, armed] using expires
    | false => simp [Session.prepare, session, armed]
  | stop =>
    have kept := session_stopPinging { self with
      state := .disconnected
      pendingError := none
      clientState := .disconnected }
    exact congrArg (fun session : Session =>
      { session with timer := false, postponed := [], bypassed := [] }) kept

/-- What the machine can be told because of an event. -/
def Event.tells : Event → List ConnectEvent
  | .connect _ _ => [.doConnect]
  | .retryConnect => [.retryConnect]
  | .pinged _ => [.pingFail, .pingReady]
  | .clientConnected => [.clientReady]
  | .clientDisconnected _ => [.clientDisconnected]
  | .connectFailed => [.clientDisconnected]
  | .recoveryDue => [.doRecovery]
  | .forceReconnect => [.doRecovery]
  | .recoveryFailed => [.shutdown]
  | .shutdown _ => [.shutdown]
  | .networkChange _ => [.networkChange]
  | .startListening => [.startListening]
  | .abandonEndpoint _ => [.abandonEndpoint]
  | .completeRequest _ => [.completeRequest]
  | .postponementTimer => []
  | .stop => []

lemma pingerHandler_event :
    (self.pingerHandler result).2.1 ∈ [ConnectEvent.pingFail, .pingReady] := by
  unfold pingerHandler
  cases result with
  | none => exact mem_cons_self
  | some =>
    simp only
    split
    · exact mem_cons_self
    · exact mem_cons_of_mem _ mem_cons_self

lemma mem_tells {occ : Occurrence} {event : ConnectEvent} {data : Data}
    (told : (self.prepare occ).2 = some (event, data)) : event ∈ occ.event.tells := by
  unfold prepare at told
  cases kind : occ.event with
  | pinged result =>
    rw [kind] at told
    cases told
    exact self.pingerHandler_event result
  | abandonEndpoint =>
    simp only [kind] at told
    split at told
    · cases told
      exact mem_cons_self
    · cases told
  | postponementTimer | stop =>
    rw [kind] at told
    cases told
  | _ =>
    rw [kind] at told
    cases told
    exact mem_cons_self

/-- The row of the table that an event takes. -/
def taken (occ : Occurrence) : Option Row := (self.prepare occ).2.bind fun told =>
    fsm.select (self.prepare occ).1 told.1 (occ.input told.2)

/-- The data that an event comes with. -/
def data (occ : Occurrence) : Data := (self.prepare occ).2.elim .null Prod.snd

variable {self} {occ : Occurrence} {row : Row}

lemma session_next_of_none (none : self.taken occ = none) :
    (self.next occ).session = self.session.prepare occ.event := by
  rw [← session_prepare, next]
  rw [taken] at none
  cases told : (self.prepare occ).2 with
  | none => rfl
  | some =>
    rw [told] at none
    rw [Option.elim_some, performTransition, Fsm.performTransition_of_select_none none]

/-- The machine tells the application about a state or does nothing after a transition. -/
lemma session_after (listed : row ∈ transitionTable) (input : Input) :
    (act row.after self input).session = self.session := by
  have quiet : ∀ row ∈ transitionTable, row.after = .doNothing ∨ row.after = .raiseState := by
    decide
  rcases quiet row listed with nothing | raises
  · rw [nothing]
    rfl
  · rw [raises]
    exact self.session_raiseState

variable (self) in
lemma session_fire (listed : row ∈ transitionTable) (input : Input) :
    ∃ timer, (timer = true ∨ timer = self.postponementWindowTimer) ∧
      (fsm.fire self input row).session =
        (Session.act row.before input.data timer self.session).moveTo row.target := by
  obtain ⟨timer, started, acted⟩ := self.session_act _ input
  refine ⟨timer, started, (session_after listed input).trans ?_⟩
  rw [← acted]
  cases row.target with
  | none | some => rfl

/-- A row that is taken, with what the machine was told and in which state. -/
structure Taken (vpn : Vpn) (occ : Occurrence) (row : Row) : Prop where
  told : (vpn.prepare occ).2 = some (row.event, vpn.data occ)
  selected : fsm.select (vpn.prepare occ).1 row.event (occ.input (vpn.data occ)) = some row
  listed : row ∈ transitionTable
  state : (vpn.prepare occ).1.state = vpn.state
  source : row.source = none ∨ row.source = some vpn.state

lemma Taken.state_eq (taken : Taken self occ row) {state : SessionState}
    (source : row.source = some state) : self.state = state := by
  rcases taken.source with none | here
  · cases none.symm.trans source
  · exact Option.some.inj (here.symm.trans source)

lemma state_prepare_of_told {told : ConnectEvent × Data}
    (tells : (self.prepare occ).2 = some told) : (self.prepare occ).1.state = self.state := by
  have event := self.mem_tells tells
  refine (congrArg Session.state (self.session_prepare _)).trans ?_
  cases kind : occ.event with
  | postponementTimer | stop =>
    rw [kind] at event
    cases event
  | _ => rfl

section

variable (taken : self.taken occ = some row)

include taken

lemma taken_of_eq : Taken self occ row := by
  rw [Vpn.taken, Option.bind_eq_some_iff] at taken
  obtain ⟨⟨event, data⟩, told, selected⟩ := taken
  have same : self.data occ = data := by
    rw [Vpn.data, told]
    rfl
  obtain ⟨listed, applies⟩ := mem_filter.mp (mem_of_find?_eq_some selected)
  obtain ⟨source, rfl⟩ := of_decide_eq_true applies
  have state := state_prepare_of_told told
  refine ⟨same ▸ told, same ▸ selected, listed, state, ?_⟩
  rw [← state]
  exact source

lemma session_next_of_some :
    ∃ timer, (timer = true ∨ timer = (self.session.prepare occ.event).timer) ∧
      (self.next occ).session =
        (Session.act row.before (self.data occ) timer
          (self.session.prepare occ.event)).moveTo row.target := by
  have row := taken_of_eq taken
  obtain ⟨timer, started, fired⟩ := (self.prepare _).1.session_fire row.listed _
  rw [← session_prepare]
  refine ⟨timer, started, ?_⟩
  rw [next, row.told, Option.elim_some, performTransition,
    Fsm.performTransition_of_select row.selected]
  exact fired

lemma state_next_of_some : (self.next occ).state = row.target.getD self.state := by
  obtain ⟨timer, -, moved⟩ := session_next_of_some taken
  refine (congrArg Session.state moved).trans (congrArg row.target.getD ?_)
  rw [Session.state_act, ← session_prepare]
  exact (taken_of_eq taken).state

end

end Vpn

end TrustTunnel.Client
