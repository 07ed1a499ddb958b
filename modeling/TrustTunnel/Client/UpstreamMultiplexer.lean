import Mathlib.Data.List.AList
import TrustTunnel.Client.UdpMultiplexer
import TrustTunnel.Client.Vpn

/-!
# The upstream multiplexer of the client

The multiplexer spreads connections over several sessions with the endpoint, its child
upstreams. A connection waits in one table until the session of its upstream is open, and is
then kept in another one. What the children and the generator of ids answer is a parameter;
a child that is told to close its session reports the end of each of its connections at once.
-/

namespace TrustTunnel.Client

open HttpUdpMultiplexer (nonId)

inductive UpstreamState where
  | openingSession
  | sessionOpened
  deriving DecidableEq

/-- Codes of `VpnError`, which are those of the library or of the system. -/
inductive ErrorCode where
  | vpn (code : VpnErrorCode)
  | econnreset
  | econnrefused
  deriving DecidableEq

structure ErrorInfo where
  code : ErrorCode
  text : String
  deriving DecidableEq

/-- The other events of a child, which are passed on as they are. -/
inductive PassedEvent where
  | read
  | connectionOpened
  | dataSent
  | getAvailableToSend
  | echoReply
  | healthCheckError
  deriving DecidableEq

/-- An error with the id `nonId` concerns the whole session. -/
inductive ServerEvent where
  | sessionOpened
  | sessionClosed
  | connectionClosed (id : UInt64)
  | error (id : UInt64) (error : ErrorInfo)
  | passed (event : PassedEvent)
  deriving DecidableEq

inductive TunnelAddress where
  | address (address : SocketAddr)
  | name (name : String) (port : UInt16)

/-- What a connection is opened with. -/
structure ConnectionTarget where
  src : SocketAddr
  dst : TunnelAddress
  proto : Int32
  appName : String

structure PendingConnection where
  upstreamId : Int32
  target : ConnectionTarget

/-- Ids returned to the owner of the multiplexer, and events raised for it. -/
inductive MuxRecord where
  | returned (id : UInt64)
  | raised (event : ServerEvent)
  deriving DecidableEq

structure UpstreamMultiplexer where
  /-- The upstream of each connection. -/
  connections : AList fun _ : UInt64 => Int32
  upstreamsPool : AList fun _ : Int32 => UpstreamState
  pendingConnections : AList fun _ : UInt64 => PendingConnection
  pendingError : Option ErrorInfo
  /-- True if session has been opened at least once. -/
  sessionOpen : Bool
  log : List MuxRecord
  /-- The connections that children were asked to open. -/
  asked : List UInt64

namespace UpstreamMultiplexer

def defaultUpstreamsNum : Nat := 8

def newUpstreamConnectionsNumThreshold : Nat := 5

/-- What the generators of ids and the children answer while a call or an event is processed,
and the orders in which the tables are iterated over. -/
structure Answers where
  connId : UInt64
  newUpstreamId : Int32
  /-- Whether a new child begins to open its session. -/
  opensSession : Bool
  /-- Whether a child opens a connection. -/
  opens : Int32 → UInt64 → ConnectionTarget → Bool
  /-- Whether a child opens a connection that another one has refused. -/
  fallsBack : Int32 → UInt64 → ConnectionTarget → Bool
  connectionsNum : Int32 → Nat
  /-- Whether a child that is told to close a connection reports its end at once. -/
  closesAtOnce : Bool
  /-- The error with which a connection ends when its child closes the session, if any. -/
  endsWith : UInt64 → Option ErrorInfo
  connectionOrder : List UInt64 → List UInt64
  poolOrder : List Int32 → List Int32
  connectionOrder_perm : ∀ ids, (connectionOrder ids).Perm ids
  poolOrder_perm : ∀ ids, (poolOrder ids).Perm ids

def new : UpstreamMultiplexer where
  connections := ∅
  upstreamsPool := ∅
  pendingConnections := ∅
  pendingError := none
  sessionOpen := false
  log := []
  asked := []

variable (answers : Answers) (self : UpstreamMultiplexer)

def raise (event : ServerEvent) : UpstreamMultiplexer :=
  { self with log := self.log ++ [.raised event] }

def returnId (id : UInt64) : UpstreamMultiplexer := { self with log := self.log ++ [.returned id] }

/-- `std::unordered_map::emplace`. -/
def emplace {κ ν : Type} [DecidableEq κ] (map : AList fun _ : κ => ν) (key : κ) (value : ν) :
    AList fun _ : κ => ν :=
  if key ∈ map then map else map.insert key value

/-! ## Selection of an upstream -/

def connectionsNumByUpstream (id : Int32) : Nat :=
  answers.connectionsNum id +
    self.pendingConnections.entries.countP fun entry => entry.2.upstreamId = id

/-- The first of the upstreams with the fewest connections. -/
def leastLoaded (ids : List Int32) : Option Int32 :=
  ids.foldl (fun least id =>
    match least with
    | none => some id
    | some other =>
      if answers.connectionsNum id < answers.connectionsNum other then some id else some other)
    none

def selectExistingUpstream (ignoredUpstream : Option Int32) (allowUnderflow : Bool) :
    Option Int32 :=
  let ids := (answers.poolOrder self.upstreamsPool.keys).filter fun id => ignoredUpstream ≠ some id
  -- for the first try to pick underloaded upstream
  match ids.find? fun id =>
      self.connectionsNumByUpstream answers id < newUpstreamConnectionsNumThreshold with
  | some id => some id
  | none =>
    if allowUnderflow = true ∨ self.upstreamsPool.keys.length = defaultUpstreamsNum then
      leastLoaded answers ids
    else none

def selectUpstreamForConnection : Int32 :=
  (self.selectExistingUpstream answers none false).getD answers.newUpstreamId

/-! ## Calls -/

/-- A new upstream is in the pool only if it has begun to open its session. -/
def openNewUpstream (id : Int32) : UpstreamMultiplexer × Bool :=
  if answers.opensSession then
    ({ self with upstreamsPool := self.upstreamsPool.insert id .openingSession }, true)
  else (self, false)

def openSession : UpstreamMultiplexer × Bool :=
  if self.upstreamsPool.keys.isEmpty = false then (self, false)
  else self.openNewUpstream answers (self.selectUpstreamForConnection answers)

/-- `open_connection` on an upstream; `opens` is what the child answers. -/
def openConnectionOn (opens : Int32 → UInt64 → ConnectionTarget → Bool) (upstreamId : Int32)
    (connId : UInt64) (target : ConnectionTarget) : UpstreamMultiplexer × Bool :=
  match self.upstreamsPool.lookup upstreamId with
  | none => (self, false)
  | some .openingSession =>
    ({ self with
        pendingConnections := emplace self.pendingConnections connId ⟨upstreamId, target⟩ }, true)
  | some .sessionOpened =>
    let self := { self with asked := self.asked ++ [connId] }
    if opens upstreamId connId target then
      ({ self with connections := emplace self.connections connId upstreamId }, true)
    else (self, false)

/-- The connection is opened on an upstream of the pool, or on a new one, or, if that cannot
be created, on an existing one after all. -/
def tryOpenConnection (target : ConnectionTarget) : UpstreamMultiplexer × Bool :=
  let upstreamId := self.selectUpstreamForConnection answers
  if upstreamId ∈ self.upstreamsPool then
    self.openConnectionOn answers.opens upstreamId answers.connId target
  else
    match self.openNewUpstream answers upstreamId with
    | (self, true) =>
      ({ self with
          pendingConnections :=
            emplace self.pendingConnections answers.connId ⟨upstreamId, target⟩ }, true)
    | (self, false) =>
      match self.selectExistingUpstream answers (some upstreamId) true with
      | some reserveId => self.openConnectionOn answers.opens reserveId answers.connId target
      | none => (self, false)

/-- `UpstreamMultiplexer::open_connection`; without success it returns `nonId`. -/
def openConnection (target : ConnectionTarget) : UpstreamMultiplexer :=
  if self.upstreamsPool.keys.isEmpty then self.returnId nonId
  else
    let (self, successful) := self.tryOpenConnection answers target
    self.returnId (if successful then answers.connId else nonId)

/-! ## Events of the children -/

def connectionClosed (id : UInt64) : UpstreamMultiplexer :=
  { self with connections := self.connections.erase id }.raise (.connectionClosed id)

def connectionError (id : UInt64) (error : ErrorInfo) : UpstreamMultiplexer :=
  { self with connections := self.connections.erase id }.raise (.error id error)

/-- A child reports the end of a connection. -/
def connectionEnds (id : UInt64) : UpstreamMultiplexer :=
  match answers.endsWith id with
  | none => self.connectionClosed id
  | some error => self.connectionError id error

/-- The connections of an upstream. -/
def connectionsOf (upstreamId : Int32) : List UInt64 :=
  answers.connectionOrder
    (self.connections.keys.filter fun id => self.connections.lookup id = some upstreamId)

/-- `close_session` of a child. -/
def closeChild (upstreamId : Int32) : UpstreamMultiplexer :=
  (self.connectionsOf answers upstreamId).foldl (connectionEnds answers) self

def closeConnection (id : UInt64) : UpstreamMultiplexer :=
  match self.connections.lookup id with
  | none => self
  | some upstreamId =>
    if upstreamId ∈ self.upstreamsPool ∧ answers.closesAtOnce = true then
      self.connectionEnds answers id
    else self

def closeSession : UpstreamMultiplexer :=
  let self := (answers.poolOrder self.upstreamsPool.keys).foldl (closeChild answers) self
  let ids := answers.connectionOrder self.pendingConnections.keys
  let self := { self with upstreamsPool := ∅, connections := ∅, pendingConnections := ∅ }
  let self := ids.foldl (fun self id => self.raise (.error id ⟨.econnreset, "Session closed"⟩)) self
  { self with pendingError := none }

def closeUpstream (upstreamId : Int32) : UpstreamMultiplexer :=
  if upstreamId ∉ self.upstreamsPool then self
  else
    let self := { self with upstreamsPool := self.upstreamsPool.erase upstreamId }
    if self.upstreamsPool.keys.isEmpty = false then self
    else
      let self := { self with sessionOpen := false }
      match self.pendingError with
      | some error => { self with pendingError := none }.raise (.error nonId error)
      | none => self.raise .sessionClosed

def proceedPendingConnection (upstreamId : Int32) (connId : UInt64) (target : ConnectionTarget) :
    UpstreamMultiplexer :=
  match self.openConnectionOn answers.opens upstreamId connId target with
  | (self, true) => self
  | (self, false) =>
    match answers.poolOrder self.upstreamsPool.keys with
    | [] => self
    | fallbackUpstreamId :: _ =>
      match self.openConnectionOn answers.fallsBack fallbackUpstreamId connId target with
      | (self, true) => self
      | (self, false) => self.raise (.error connId ⟨.econnrefused, "Failed to connect"⟩)

/-- The pending connections of an upstream. -/
def pendingOn (upstreamId : Int32) : List UInt64 :=
  (answers.connectionOrder self.pendingConnections.keys).filter fun id =>
    (self.pendingConnections.lookup id).any fun conn => conn.upstreamId = upstreamId

/-- One round of the loop when a session is opened. -/
def proceedPending (upstreamId : Int32) (self : UpstreamMultiplexer) (id : UInt64) :
    UpstreamMultiplexer :=
  match self.pendingConnections.lookup id with
  | none => self
  | some conn =>
    let self := self.proceedPendingConnection answers upstreamId id conn.target
    { self with pendingConnections := self.pendingConnections.erase id }

/-- The first session that is opened is announced. -/
def announceSession : UpstreamMultiplexer :=
  if self.sessionOpen then self else { self with sessionOpen := true }.raise .sessionOpened

def markOpened (upstreamId : Int32) : UpstreamMultiplexer :=
  { self with upstreamsPool := self.upstreamsPool.insert upstreamId .sessionOpened }

def onSessionOpened (upstreamId : Int32) : UpstreamMultiplexer :=
  let self := self.announceSession.markOpened upstreamId
  (self.pendingOn answers upstreamId).foldl (proceedPending answers upstreamId) self

/-- One round of the loop when a session is closed. -/
def refusePending (self : UpstreamMultiplexer) (id : UInt64) : UpstreamMultiplexer :=
  let self := self.raise (.error id ⟨.econnrefused, "Session closed"⟩)
  { self with pendingConnections := self.pendingConnections.erase id }

def onSessionClosed (upstreamId : Int32) : UpstreamMultiplexer :=
  ((self.pendingOn answers upstreamId).foldl refusePending self).closeUpstream upstreamId

def isFatalError (error : ErrorInfo) : Bool :=
  error.code == .vpn .authRequired || error.code == .vpn .certificateVerificationFailed

/-- The session of a child is closed, and the child is removed. -/
def dropChild (self : UpstreamMultiplexer) (upstreamId : Int32) : UpstreamMultiplexer :=
  (self.closeChild answers upstreamId).closeUpstream upstreamId

def onSessionError (upstreamId : Int32) (error : ErrorInfo) : UpstreamMultiplexer :=
  if isFatalError error then
    let self := if error.code = .vpn .noError then self else { self with pendingError := some error }
    (answers.poolOrder self.upstreamsPool.keys).foldl (dropChild answers) self
  else self.dropChild answers upstreamId

def childUpstreamHandler (upstreamId : Int32) (event : ServerEvent) : UpstreamMultiplexer :=
  if upstreamId ∉ self.upstreamsPool then self
  else
    match event with
    | .sessionOpened => self.onSessionOpened answers upstreamId
    | .sessionClosed => self.onSessionClosed answers upstreamId
    | .connectionClosed id => self.connectionClosed id
    | .passed event => self.raise (.passed event)
    | .error id error =>
      if id ≠ nonId then self.connectionError id error
      else self.onSessionError answers upstreamId error

/-- Calls of the owner and events of the children, in any order. -/
inductive MuxEvent where
  | openSession
  | closeSession
  | openConnection (target : ConnectionTarget)
  | closeConnection (id : UInt64)
  | child (upstreamId : Int32) (event : ServerEvent)

structure Occurrence where
  event : MuxEvent
  answers : Answers

def next (self : UpstreamMultiplexer) (occ : Occurrence) : UpstreamMultiplexer :=
  match occ.event with
  | .openSession => (self.openSession occ.answers).1
  | .closeSession => self.closeSession occ.answers
  | .openConnection target => self.openConnection occ.answers target
  | .closeConnection id => self.closeConnection occ.answers id
  | .child upstreamId event => self.childUpstreamHandler occ.answers upstreamId event

end UpstreamMultiplexer

end TrustTunnel.Client
