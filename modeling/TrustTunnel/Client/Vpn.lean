import TrustTunnel.Net.Address
import TrustTunnel.Transition.Fsm

/-!
# The VPN session of the client

The session is a state machine driven by a transition table. The HTTP client, the pinger
and the application are outside of it: what the session asks them to do is recorded in the
order of the calls, and what they report arrives as events.
-/

namespace TrustTunnel.Client

open Transition

/-! ## Data -/

/-- `VpnSessionState`. -/
inductive SessionState where
  | disconnected
  | connecting
  | connected
  | waitingRecovery
  | recovering
  | waitingForNetwork
  deriving DecidableEq

inductive ConnectEvent where
  | doConnect
  | retryConnect
  | pingReady
  | pingFail
  | clientReady
  | clientDisconnected
  | doRecovery
  | shutdown
  | networkChange
  | startListening
  | abandonEndpoint
  | completeRequest
  deriving DecidableEq

inductive VpnErrorCode where
  | noError
  | error
  | invalidSettings
  | addrInUse
  | invalidState
  | authRequired
  | locationUnavailable
  | certificateVerificationFailed
  | eventLoopFailure
  | initialConnectFailed
  | fatalConnectivityError
  deriving DecidableEq

structure VpnError where
  code : VpnErrorCode
  text : String
  deriving DecidableEq

inductive VpnNetworkState where
  | connected
  | notConnected
  deriving DecidableEq

inductive VpnConnectAction where
  | default
  | forceBypass
  | forceRedirect
  | reject
  deriving DecidableEq

/-- A connection request for which the application has chosen an action. -/
structure ConnectRequestResult where
  id : UInt64
  action : Option VpnConnectAction
  appname : String
  uid : Int
  deriving DecidableEq

inductive ConnectRetryInfo where
  | severalAttempts (attemptsLeft : UInt64)
  | fallIntoRecovery
  deriving DecidableEq

inductive ClientConnectionState where
  | disconnected
  | connecting
  | connected
  deriving DecidableEq

/-- A VPN endpoint; it may have no address if it is the only one of its location. -/
structure VpnEndpoint where
  name : String
  address : Option SocketAddr
  remoteId : Option String
  deriving DecidableEq

inductive AddressFamily where
  | unspec
  | inet
  | inet6
  deriving DecidableEq

def VpnEndpoint.family (self : VpnEndpoint) : AddressFamily :=
  match self.address with
  | none => .unspec
  | some ⟨.v4 _, _⟩ => .inet
  | some ⟨.v6 _, _⟩ => .inet6

/-- What the session uses of the configuration, with defaults filled in. -/
structure UpstreamConfig where
  endpoints : List VpnEndpoint
  timeoutMs : Nat
  recoveryAttempts : Nat
  locationUpdatePeriodMs : Nat
  /-- The interval between attempts times the backoff rate, rounded. -/
  backoff : Nat → Nat

/-- Time stamps in milliseconds; 0 is the one of no time. -/
structure RecoveryTime where
  startTs : Nat
  attemptStartTs : Nat
  betweenAttempts : Nat
  toNext : Nat

structure RecoveryInfo where
  time : RecoveryTime
  attempts : Nat
  /-- Whether an attempt is scheduled. -/
  task : Bool

def vpnDefaultInitialRecoveryIntervalMs : Nat := 1000

def vpnDefaultConnectAttemptsNum : UInt64 := 5

def RecoveryTime.initial : RecoveryTime := ⟨0, 0, vpnDefaultInitialRecoveryIntervalMs, 0⟩

def RecoveryInfo.initial : RecoveryInfo := ⟨.initial, 0, false⟩

/-- What the session asks others to do. -/
inductive Call where
  | completeConnectRequest (id : UInt64) (action : Option VpnConnectAction)
  | rejectConnectRequest (id : UInt64)
  | resetConnection (id : UInt64)
  | connectClient (timeout : Option Nat)
  | disconnectClient
  | doHealthCheck
  | onNetworkChange
  | updateBypassIpAvailability
  | listen
  | startPinging
  | stopPinging
  /-- A task that feeds an event to the machine is given to the event loop. -/
  | submit (event : ConnectEvent)
  | schedule (event : ConnectEvent) (delay : Nat)
  | stateChanged (state : SessionState) (error : VpnError)
  deriving DecidableEq

structure Vpn where
  state : SessionState
  pendingError : Option VpnError
  recovery : RecoveryInfo
  upstreamConfig : UpstreamConfig
  selectedEndpoint : Option VpnEndpoint
  networkChangedBeforeRecovery : Bool
  connectedOnce : Bool
  pinger : Bool
  pingFailureInducesLocationUnavailable : Bool
  clientState : ClientConnectionState
  killSwitchOn : Bool
  connectRetryInfo : ConnectRetryInfo
  /-- Connections bypassed during recovery. -/
  bypassedConnectionIds : List UInt64
  /-- Requests whose processing is postponed until the VPN is connected. -/
  postponedRequests : List ConnectRequestResult
  /-- Whether there is a timer for the time in which requests are postponed. -/
  postponementWindowTimer : Bool
  /-- What the session has asked others to do so far. -/
  calls : List Call

/-- The data of an event. -/
inductive Data where
  | null
  | error (error : VpnError)
  | network (state : VpnNetworkState)
  | request (req : ConnectRequestResult)

/-- The data of an event and what others answer while it is processed: the time, the result of
connecting or listening, and whether the tunnel wants a request to be completed at once. -/
structure Input where
  data : Data
  now : Nat
  clientError : VpnError
  shouldCompleteImmediately : Bool

/-- The data as an error. One row takes a network state for an error; it is `connected` there,
whose number is that of no error. -/
def Input.error? (self : Input) : Option VpnError :=
  match self.data with
  | .error error => some error
  | _ => none

namespace Vpn

def noError : VpnError := ⟨.noError, ""⟩

def call (self : Vpn) (call : Call) : Vpn := { self with calls := self.calls ++ [call] }

/-! ## Conditions -/

def isFatalErrorCode (code : VpnErrorCode) : Bool :=
  code == .authRequired || code == .locationUnavailable || code == .certificateVerificationFailed

def isFatalError (self : Vpn) (error : Option VpnError) : Bool :=
  error.any (fun error => isFatalErrorCode error.code) ||
    isFatalErrorCode (self.pendingError.getD noError).code

def needToPingOnRecovery (self : Vpn) (now : Nat) : Bool :=
  if self.selectedEndpoint.isNone then true
  else if self.networkChangedBeforeRecovery then true
  else decide (self.upstreamConfig.locationUpdatePeriodMs ≤ now - self.recovery.time.startTs)

def fallIntoRecovery (self : Vpn) : Bool := self.connectRetryInfo == .fallIntoRecovery

def noConnectAttempts (self : Vpn) : Bool := self.connectRetryInfo == .severalAttempts 0

def networkLost (data : Data) : Bool :=
  match data with
  | .network state => state == .notConnected
  | _ => false

def canComplete (self : Vpn) (input : Input) : Bool :=
  match input.data with
  | .request req =>
    req.action == some .forceBypass || self.state == .connected ||
      self.state == .connecting || self.state == .disconnected ||
      self.state == .waitingForNetwork || input.shouldCompleteImmediately
  | _ => false

/-! ## Actions -/

def stopPinging (self : Vpn) : Vpn :=
  let self := if self.pinger then { self.call .stopPinging with pinger := false } else self
  { self with pingFailureInducesLocationUnavailable := false }

def disconnectClient (self : Vpn) : Vpn :=
  match self.clientState with
  | .disconnected => self
  | .connected => { self.call .disconnectClient with clientState := .disconnected }
  | .connecting => { self.call .disconnectClient with clientState := .disconnected }

def disconnect (self : Vpn) : Vpn := self.stopPinging.disconnectClient

def completePostponedRequests (self : Vpn) : Vpn :=
  { self with
    calls := self.calls ++ self.postponedRequests.map fun req =>
      .completeConnectRequest req.id req.action
    postponedRequests := [] }

def resetBypassedConnections (self : Vpn) : Vpn :=
  { self with
    calls := self.calls ++ self.bypassedConnectionIds.map .resetConnection
    bypassedConnectionIds := [] }

/-- Start the timer when recovery starts, and tell how long the last attempt has taken. -/
def startRecovery (self : Vpn) (now : Nat) : Vpn × Nat :=
  if self.recovery.time.startTs ≠ 0 then (self, now - self.recovery.time.attemptStartTs)
  else
    ({ self with
        recovery := { self.recovery with time := { self.recovery.time with startTs := now } }
        postponementWindowTimer := true }, 0)

/-- Schedule the next attempt. -/
def scheduleRecovery (self : Vpn) (now elapsed : Nat) : Vpn :=
  let timeToNext := self.recovery.time.betweenAttempts - elapsed
  let self := self.call (.schedule .doRecovery timeToNext)
  let time := { self.recovery.time with
    betweenAttempts := self.upstreamConfig.backoff self.recovery.time.betweenAttempts }
  let time :=
    if self.upstreamConfig.locationUpdatePeriodMs ≤ now + timeToNext - time.startTs then .initial
    else time
  { self with
    recovery := ⟨{ time with toNext := timeToNext }, self.recovery.attempts + 1, true⟩ }

def initiateRecovery (self : Vpn) (now : Nat) : Vpn :=
  if self.upstreamConfig.recoveryAttempts ≤ self.recovery.attempts then
    self.call (.submit .shutdown)
  else
    let (self, elapsed) := self.startRecovery now
    self.scheduleRecovery now elapsed

def runClientConnect (self : Vpn) (error : VpnError) (timeout : Option Nat) : Vpn :=
  let self := self.call (.connectClient timeout)
  if error.code = .noError then { self with clientState := .connecting, pendingError := none }
  else { self.call (.submit .clientDisconnected) with pendingError := some error }

def runPing (self : Vpn) (now : Nat) : Vpn :=
  let self := { self.stopPinging.call .startPinging with
    pinger := true
    pendingError := none
    selectedEndpoint := none }
  -- the network may have changed while an attempt was scheduled
  if self.recovery.task then
    { self with
      recovery := { self.recovery with
        task := false
        time := { self.recovery.time with attemptStartTs := now } } }
  else self

def connectClient (self : Vpn) (error : VpnError) : Vpn := self.runClientConnect error none

/-- The error of an event, unless it is none or there is one already. -/
def newError (self : Vpn) (error : Option VpnError) : Option VpnError :=
  if self.pendingError.isSome then none else error.filter (·.code ≠ .noError)

/-- Give up connecting because of the error of an event. -/
def failConnect (self : Vpn) (error : Option VpnError) : Vpn :=
  match self.newError error with
  | some error => { self.disconnect with pendingError := some error }
  | none => self

/-- An error that is not fatal is reported as the lack of attempts, if none is left. -/
def markNoAttempts (self : Vpn) (error : Option VpnError) : Vpn :=
  if self.pendingError.isSome && !self.isFatalError error && self.noConnectAttempts then
    { self with
      pendingError := some ⟨.initialConnectFailed, "Number of connection attempts exceeded"⟩ }
  else self

def completeConnect (self : Vpn) (error : Option VpnError) : Vpn :=
  let self := { (self.failConnect error).markNoAttempts error with recovery := .initial }
  if self.pendingError.isNone then self.call .doHealthCheck else self

def failConnectWithNoAttempts (self : Vpn) : Vpn :=
  self.completeConnect (some ⟨.initialConnectFailed, "Number of connection attempts exceeded"⟩)

/-- `attempts_left` is a `size_t`; without attempts there is an assertion, which does nothing in
a release build. -/
def retryConnect (self : Vpn) : Vpn :=
  let self :=
    match self.connectRetryInfo with
    | .severalAttempts attemptsLeft =>
      { self with connectRetryInfo := .severalAttempts (attemptsLeft - 1) }
    | .fallIntoRecovery => self
  self.disconnect.call (.submit .retryConnect)

def prepareForRecovery (self : Vpn) (now : Nat) (error : Option VpnError) : Vpn :=
  let self := self.disconnect.initiateRecovery now
  match self.newError error with
  | some error => { self with pendingError := some error }
  | none => self

def reconnectClient (self : Vpn) (error : VpnError) : Vpn :=
  self.disconnectClient.runClientConnect error
    (some (min self.recovery.time.betweenAttempts self.upstreamConfig.timeoutMs))

def finalizeRecovery (self : Vpn) : Vpn :=
  let self := { self.call .updateBypassIpAvailability with recovery := .initial }
  let self := { self.stopPinging with postponementWindowTimer := false }
  self.completePostponedRequests.resetBypassedConnections

def doDisconnect (self : Vpn) : Vpn := { self with recovery := .initial }.disconnect

def startListening (self : Vpn) (error : VpnError) : Vpn :=
  let self := self.call .listen
  if error.code ≠ VpnErrorCode.noError then self.call (.submit .shutdown) else self

def onWrongConnectState (self : Vpn) : Vpn :=
  { self.disconnect with pendingError := some ⟨.invalidState, "Invalid state for connecting"⟩ }

/-- Tell the application about the state; most states take the pending error along. -/
def raiseState (self : Vpn) : Vpn :=
  match self.state with
  | .connected => { self.call (.stateChanged .connected noError) with connectedOnce := true }
  | .waitingRecovery =>
    { self.call (.stateChanged .waitingRecovery (self.pendingError.getD noError)) with
      pendingError := none }
  | .waitingForNetwork =>
    { self.call (.stateChanged .waitingForNetwork (self.pendingError.getD noError)) with
      pendingError := none }
  | state =>
    { self.call (.stateChanged state (self.pendingError.getD noError)) with
      networkChangedBeforeRecovery := false
      pendingError := none }

def completeRequest (self : Vpn) (req : ConnectRequestResult) : Vpn :=
  self.call (.completeConnectRequest req.id req.action)

def postponeRequest (self : Vpn) (req : ConnectRequestResult) : Vpn :=
  { self with postponedRequests := self.postponedRequests ++ [req] }

def rejectRequest (self : Vpn) (req : ConnectRequestResult) : Vpn :=
  self.call (.rejectConnectRequest req.id)

def bypassUntilConnected (self : Vpn) (req : ConnectRequestResult) : Vpn :=
  { self with bypassedConnectionIds := self.bypassedConnectionIds ++ [req.id] }.call
    (.completeConnectRequest req.id (some .forceBypass))

/-! ## The transition table -/

/-- The conditions of the table; `anyway` and `otherwise` always hold. -/
inductive Condition where
  | anyway
  | otherwise
  | isFatalError
  | needToPingOnRecovery
  | fallIntoRecovery
  | noConnectAttempts
  | networkLost
  | connectedOnce
  | canComplete
  | shouldPostpone
  | isKillSwitchOn
  deriving DecidableEq

inductive Action where
  | doNothing
  | runPing
  | connectClient
  | completeConnect
  | failConnectWithNoAttempts
  | retryConnect
  | prepareForRecovery
  | prepareForRecoveryNc
  | reconnectClient
  | finalizeRecovery
  | doDisconnect
  | startListening
  | onWrongConnectState
  | onWrongListenState
  | raiseState
  | completeRequest
  | postponeRequest
  | rejectRequest
  | bypassUntilConnected
  deriving DecidableEq

def holds (condition : Condition) (self : Vpn) (input : Input) : Bool :=
  match condition with
  | .anyway => true
  | .otherwise => true
  | .isFatalError => self.isFatalError input.error?
  | .needToPingOnRecovery => self.needToPingOnRecovery input.now
  | .fallIntoRecovery => self.fallIntoRecovery
  | .noConnectAttempts => self.noConnectAttempts
  | .networkLost => networkLost input.data
  | .connectedOnce => self.connectedOnce
  | .canComplete => self.canComplete input
  | .shouldPostpone => self.postponementWindowTimer
  | .isKillSwitchOn => self.killSwitchOn

/-- Do something with the request that is the data of the event. -/
def withRequest (self : Vpn) (input : Input) (action : Vpn → ConnectRequestResult → Vpn) : Vpn :=
  match input.data with
  | .request req => action self req
  | _ => self

def act (action : Action) (self : Vpn) (input : Input) : Vpn :=
  match action with
  | .doNothing => self
  | .runPing => self.runPing input.now
  | .connectClient => self.connectClient input.clientError
  | .completeConnect => self.completeConnect input.error?
  | .failConnectWithNoAttempts => self.failConnectWithNoAttempts
  | .retryConnect => self.retryConnect
  | .prepareForRecovery => self.prepareForRecovery input.now input.error?
  | .prepareForRecoveryNc => self.prepareForRecovery input.now none
  | .reconnectClient => self.reconnectClient input.clientError
  | .finalizeRecovery => self.finalizeRecovery
  | .doDisconnect => self.doDisconnect
  | .startListening => self.startListening input.clientError
  | .onWrongConnectState => self.onWrongConnectState
  -- only logs
  | .onWrongListenState => self
  | .raiseState => self.raiseState
  | .completeRequest => self.withRequest input completeRequest
  | .postponeRequest => self.withRequest input postponeRequest
  | .rejectRequest => self.withRequest input rejectRequest
  | .bypassUntilConnected => self.withRequest input bypassUntilConnected

abbrev Row := Entry SessionState ConnectEvent Condition Action

/-- A row that stays in its state and reports nothing. -/
def stay (source : Option SessionState) (event : ConnectEvent) (condition : Condition)
    (before : Action) : Row :=
  ⟨source, event, condition, before, none, .doNothing⟩

/-- A row that reports the state it goes to. -/
def go (source : Option SessionState) (event : ConnectEvent) (condition : Condition)
    (before : Action) (target : SessionState) : Row :=
  ⟨source, event, condition, before, some target, .raiseState⟩

def transitionTable : List Row :=
  [go (some .disconnected) .doConnect .anyway .runPing .connecting,
    stay (some .disconnected) .clientDisconnected .anyway .doNothing,
    stay (some .disconnected) .shutdown .anyway .doDisconnect,
    stay (some .disconnected) .startListening .anyway .onWrongListenState,
    stay (some .disconnected) .networkChange .anyway .doNothing,

    stay (some .connecting) .retryConnect .anyway .runPing,
    stay (some .connecting) .pingReady .anyway .connectClient,
    go (some .connecting) .pingFail .isFatalError .completeConnect .disconnected,
    go (some .connecting) .pingFail .fallIntoRecovery .prepareForRecovery .waitingRecovery,
    go (some .connecting) .pingFail .noConnectAttempts .completeConnect .disconnected,
    stay (some .connecting) .pingFail .otherwise .retryConnect,
    go (some .connecting) .clientReady .anyway .completeConnect .connected,
    go (some .connecting) .clientDisconnected .isFatalError .completeConnect .disconnected,
    go (some .connecting) .clientDisconnected .fallIntoRecovery .prepareForRecovery .waitingRecovery,
    go (some .connecting) .clientDisconnected .noConnectAttempts .completeConnect .disconnected,
    stay (some .connecting) .clientDisconnected .otherwise .retryConnect,
    go (some .connecting) .abandonEndpoint .isFatalError .completeConnect .disconnected,
    stay (some .connecting) .abandonEndpoint .otherwise .retryConnect,
    go (some .connecting) .networkChange .noConnectAttempts .failConnectWithNoAttempts .disconnected,
    go (some .connecting) .networkChange .networkLost .doDisconnect .waitingForNetwork,
    go (some .connecting) .networkChange .fallIntoRecovery .prepareForRecovery .waitingRecovery,
    stay (some .connecting) .networkChange .otherwise .retryConnect,

    go (some .connected) .networkChange .networkLost .doDisconnect .waitingForNetwork,
    go (some .connected) .networkChange .otherwise .prepareForRecoveryNc .waitingRecovery,
    go (some .connected) .abandonEndpoint .isFatalError .doDisconnect .disconnected,
    go (some .connected) .abandonEndpoint .otherwise .prepareForRecovery .waitingRecovery,

    go (some .waitingRecovery) .networkChange .networkLost .doDisconnect .waitingForNetwork,
    go (some .waitingRecovery) .networkChange .otherwise .runPing .recovering,
    go (some .waitingRecovery) .doRecovery .needToPingOnRecovery .runPing .recovering,
    go (some .waitingRecovery) .doRecovery .otherwise .connectClient .recovering,
    go (some .waitingRecovery) .clientDisconnected .isFatalError .doDisconnect .disconnected,
    stay (some .waitingRecovery) .clientDisconnected .otherwise .doNothing,
    go (some .waitingRecovery) .abandonEndpoint .isFatalError .doDisconnect .disconnected,

    go (some .recovering) .networkChange .networkLost .doDisconnect .waitingForNetwork,
    go (some .recovering) .networkChange .otherwise .prepareForRecoveryNc .waitingRecovery,
    stay (some .recovering) .pingReady .anyway .reconnectClient,
    go (some .recovering) .pingFail .isFatalError .doDisconnect .disconnected,
    go (some .recovering) .pingFail .otherwise .prepareForRecovery .waitingRecovery,
    go (some .recovering) .clientReady .anyway .finalizeRecovery .connected,
    go (some .recovering) .abandonEndpoint .isFatalError .doDisconnect .disconnected,
    go (some .recovering) .abandonEndpoint .otherwise .prepareForRecovery .waitingRecovery,

    stay (some .waitingForNetwork) .networkChange .networkLost .doNothing,
    go (some .waitingForNetwork) .networkChange .connectedOnce .prepareForRecoveryNc .waitingRecovery,
    go (some .waitingForNetwork) .networkChange .noConnectAttempts .failConnectWithNoAttempts
      .disconnected,
    go (some .waitingForNetwork) .networkChange .otherwise .retryConnect .connecting,

    go none .clientDisconnected .isFatalError .doDisconnect .disconnected,
    go none .clientDisconnected .otherwise .prepareForRecovery .waitingRecovery,
    go none .shutdown .anyway .doDisconnect .disconnected,
    go none .doConnect .anyway .onWrongConnectState .disconnected,
    stay none .startListening .anyway .startListening,

    stay none .completeRequest .canComplete .completeRequest,
    stay none .completeRequest .shouldPostpone .postponeRequest,
    stay none .completeRequest .isKillSwitchOn .rejectRequest,
    stay none .completeRequest .otherwise .bypassUntilConnected]

def fsm : Fsm SessionState ConnectEvent Condition Action Vpn Input where
  table := transitionTable
  holds := holds
  act := act
  state := Vpn.state
  moveTo self state := { self with state := state }

def performTransition (self : Vpn) (event : ConnectEvent) (input : Input) : Vpn :=
  fsm.performTransition self event input

/-! ## What happens to the session -/

/-- `VpnConnectRetryInfo`. -/
inductive RetryPolicy where
  | severalAttempts (attemptsNum : Int32)
  | fallIntoRecovery

/-- The number of attempts of a connect. -/
def attemptsOf (attemptsNum : Int32) : UInt64 :=
  if attemptsNum ≤ 0 then vpnDefaultConnectAttemptsNum else .ofNat attemptsNum.toInt.toNat

/-- What is left of the attempts when the first one begins. -/
def RetryPolicy.retryInfo : RetryPolicy → ConnectRetryInfo
  | .severalAttempts attemptsNum => .severalAttempts (attemptsOf attemptsNum - 1)
  | .fallIntoRecovery => .fallIntoRecovery

/-- The task of `vpn_connect`, without the transition. -/
def connect (self : Vpn) (policy : RetryPolicy) (cfg : UpstreamConfig) : Vpn :=
  { self with
    upstreamConfig := cfg
    connectRetryInfo := policy.retryInfo }

/-- What the pinger reports: the endpoint it prefers, or that none answered. -/
def pingerHandler (self : Vpn) (result : Option VpnEndpoint) : Vpn × ConnectEvent × Data :=
  let induces := self.pingFailureInducesLocationUnavailable
  let self := { self with
    selectedEndpoint := none
    pingFailureInducesLocationUnavailable := false }
  match result with
  | none =>
    let error : VpnError :=
      if induces then ⟨.locationUnavailable, "None of the endpoints were pinged successfully"⟩
      else ⟨.error, "Failed to ping location"⟩
    (self, .pingFail, .error error)
  | some endpoint =>
    if endpoint ∉ self.upstreamConfig.endpoints then
      ({ self with pingFailureInducesLocationUnavailable := induces }, .pingFail,
        .error ⟨.error, "Best available endpoint wasn't found in location"⟩)
    else
      ({ self with selectedEndpoint := some endpoint }.call .updateBypassIpAvailability,
        .pingReady, .null)

/-- The error if no endpoint of a family is left. -/
def exhausted (family : AddressFamily) (endpoints : List VpnEndpoint) : VpnError :=
  if endpoints.isEmpty then ⟨.locationUnavailable, "Exhausted all endpoints in location"⟩
  else if family = .inet then
    ⟨.locationUnavailable, "Exhausted all IPv4 endpoints in location"⟩
  else ⟨.locationUnavailable, "Exhausted all IPv6 endpoints in location"⟩

/-- The task of `vpn_abandon_endpoint`; the flag says whether the machine is told. -/
def abandonEndpoint (self : Vpn) (endpoint : VpnEndpoint) : Vpn × Bool :=
  let endpoints := self.upstreamConfig.endpoints.filter (· ≠ endpoint)
  let selected := decide (self.selectedEndpoint = some endpoint)
  let self := { self with
    selectedEndpoint := if selected then none else self.selectedEndpoint
    upstreamConfig := { self.upstreamConfig with endpoints := endpoints } }
  if endpoints.all (·.family ≠ endpoint.family) then
    ({ self with
        pendingError := some (exhausted endpoint.family endpoints)
        upstreamConfig := { self.upstreamConfig with endpoints := [] } }, true)
  else if selected = false then (self, false)
  else
    ({ self with
        pendingError := some ⟨.error, "Current endpoint is abandoned"⟩
        pingFailureInducesLocationUnavailable := true }, true)

/-- `postponement_window_timer_cb`. -/
def postponementWindowTimerCb (self : Vpn) : Vpn :=
  let ids := self.postponedRequests.map ConnectRequestResult.id
  { self with
    postponementWindowTimer := false
    postponedRequests := []
    bypassedConnectionIds := self.bypassedConnectionIds ++ if self.killSwitchOn then [] else ids
    calls := self.calls ++ ids.map fun id =>
      if self.killSwitchOn then .rejectConnectRequest id
      else .completeConnectRequest id (some .forceBypass) }

/-- `vpn_stop`, after the event loop has been stopped. -/
def stop (self : Vpn) : Vpn :=
  let self := { self with
    state := .disconnected
    pendingError := none
    clientState := .disconnected }
  { self.stopPinging with
    postponementWindowTimer := false
    recovery := .initial
    selectedEndpoint := none
    postponedRequests := []
    bypassedConnectionIds := [] }

/-- Everything that can happen to the session: calls of the application, reports of the client
and the pinger, and tasks of the event loop. They may happen in any order. -/
inductive Event where
  | connect (policy : RetryPolicy) (cfg : UpstreamConfig)
  | retryConnect
  | pinged (result : Option VpnEndpoint)
  | clientConnected
  | clientDisconnected (error : Option VpnError)
  /-- The task that `run_client_connect` submits if the client fails to start. -/
  | connectFailed
  /-- The scheduled task of a recovery attempt. -/
  | recoveryDue
  | forceReconnect
  /-- The task that is submitted after the last recovery attempt. -/
  | recoveryFailed
  | shutdown (error : Option VpnError)
  | networkChange (state : VpnNetworkState)
  | startListening
  | abandonEndpoint (endpoint : VpnEndpoint)
  | completeRequest (req : ConnectRequestResult)
  | postponementTimer
  | stop

/-- An event, and what others answer while it is processed. -/
structure Occurrence where
  event : Event
  now : Nat
  clientError : VpnError
  shouldCompleteImmediately : Bool

/-- The input of a transition with the given data. -/
def Occurrence.input (self : Occurrence) (data : Data) : Input :=
  ⟨data, self.now, self.clientError, self.shouldCompleteImmediately⟩

def errorData (error : Option VpnError) : Data := error.elim .null .error

/-- What is done before the machine is told, and what it is told, if anything. -/
def prepare (self : Vpn) (occ : Occurrence) : Vpn × Option (ConnectEvent × Data) :=
  match occ.event with
  | .connect policy cfg => (self.connect policy cfg, some (.doConnect, .null))
  | .retryConnect => (self, some (.retryConnect, .null))
  | .pinged result =>
    let (self, event, data) := self.pingerHandler result
    (self, some (event, data))
  | .clientConnected => ({ self with clientState := .connected }, some (.clientReady, .null))
  | .clientDisconnected error =>
    ({ self with clientState := .disconnected }, some (.clientDisconnected, errorData error))
  | .connectFailed => (self, some (.clientDisconnected, .null))
  | .recoveryDue =>
    ({ self with
        recovery := { self.recovery with
          task := false
          time := { self.recovery.time with attemptStartTs := occ.now } } },
      some (.doRecovery, .null))
  | .forceReconnect => (self, some (.doRecovery, .null))
  | .recoveryFailed =>
    ({ self with
        recovery := .initial
        pendingError := some
          ⟨.locationUnavailable, "Maximum number of recovery attempts has been made"⟩ },
      some (.shutdown, .null))
  | .shutdown error =>
    ({ self with pendingError := error.elim self.pendingError some }, some (.shutdown, .null))
  | .networkChange state =>
    ({ self.call .onNetworkChange with networkChangedBeforeRecovery := true },
      some (.networkChange, .network state))
  | .startListening => (self, some (.startListening, .null))
  | .abandonEndpoint endpoint =>
    let (self, told) := self.abandonEndpoint endpoint
    (self, if told then some (.abandonEndpoint, .null) else none)
  | .completeRequest req => (self, some (.completeRequest, .request req))
  | .postponementTimer =>
    (if self.postponementWindowTimer then self.postponementWindowTimerCb else self, none)
  | .stop => (self.stop, none)

/-- The session after an event. -/
def next (self : Vpn) (occ : Occurrence) : Vpn :=
  (self.prepare occ).2.elim (self.prepare occ).1 fun told =>
    (self.prepare occ).1.performTransition told.1 (occ.input told.2)

/-- A session that has not been connected. -/
def new (killSwitchOn : Bool) (retryInfo : ConnectRetryInfo) : Vpn where
  state := .disconnected
  pendingError := none
  recovery := .initial
  upstreamConfig := ⟨[], 0, 0, 0, id⟩
  selectedEndpoint := none
  networkChangedBeforeRecovery := false
  connectedOnce := false
  pinger := false
  pingFailureInducesLocationUnavailable := false
  clientState := .disconnected
  killSwitchOn := killSwitchOn
  connectRetryInfo := retryInfo
  bypassedConnectionIds := []
  postponedRequests := []
  postponementWindowTimer := false
  calls := []

end Vpn

end TrustTunnel.Client
