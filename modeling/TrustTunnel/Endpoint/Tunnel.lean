import TrustTunnel.Endpoint.ConnectionLimiter

/-!
# Tunnels and their requests

A connection of a client becomes a tunnel unless its SNI credentials are refused. The
tunnel listens for requests and hands each of them to a task of its own, which
authenticates the request and promotes or fails it. The first request with credentials
that pass takes a slot of the limiter for the tunnel. The model interleaves any number
of connections, requests and tasks; tunnels share the limiter only.
-/

namespace TrustTunnel.Endpoint

open Authentication ReverseProxy List

inductive AuthenticationPolicy where
  /-- Perform the regular authentication procedure through the configured authenticator. -/
  | default
  /-- The whole connection is authenticated. -/
  | authenticated (source : Source)

inductive ConnectionError where
  | io (error : IoError)
  | authentication (msg : String)
  | timeout
  | hostUnreachable
  | dnsNonroutable
  | dnsLoopback
  | other (msg : String)

structure Tunnel where
  protocol : Protocol
  authenticationPolicy : AuthenticationPolicy
  /-- The slot acquired for this tunnel: at construction time for SNI-authenticated
  connections, or on the first authenticated request. -/
  connectionGuard : Option ConnectionGuard

/-- What waiting for a request comes to. -/
inductive Listened where
  | request (req : PendingRequest)
  | closed
  | error (error : IoError)
  | elapsed

/-- How a round of `listen_inner` goes on. -/
inductive Round where
  /-- The request is handed to a task. -/
  | spawn (tunnel : Tunnel) (limiter : Option ConnectionLimiter) (req : PendingRequest)
  /-- The tunnel is dropped, after failing the request if there is one. -/
  | finish (result : Except IoError Unit) (failed : Option (PendingRequest × ConnectionError))

namespace Tunnel

/-- The slot is acquired lazily; without a slot the tunnel cannot go on. -/
def acquireSlot (self : Tunnel) (authenticator : Option Authenticator)
    (limiter : Option ConnectionLimiter) (req : PendingRequest) :
    Option (Tunnel × Option ConnectionLimiter) :=
  match self.connectionGuard, limiter, req.authInfo with
  | none, some limiter, .ok (some source) =>
    if authenticator.any (·.authenticate source = .pass) then
      (limiter.tryAcquire source.creds self.protocol).map fun acquired =>
        ({ self with connectionGuard := some acquired.1 }, some acquired.2)
    else some (self, some limiter)
  | _, _, _ => some (self, limiter)

/-- One round of the loop. -/
def listenInner (self : Tunnel) (authenticator : Option Authenticator)
    (limiter : Option ConnectionLimiter) : Listened → Round
  | .closed => .finish (.ok ()) none
  | .error error =>
    if error.kind = .unexpectedEof then .finish (.ok ()) none
    else .finish (.error error) none
  | .elapsed => .finish (.error (.ofKind .timedOut)) none
  | .request req =>
    match self.acquireSlot authenticator limiter req with
    | some (tunnel, limiter) => .spawn tunnel limiter req
    | none =>
      .finish (.error ⟨.permissionDenied, "Connection limit exceeded"⟩)
        (some (req, .authentication "Connection limit exceeded"))

/-- The part of the task up to `promote_to_next_state`: whom the request is forwarded for. -/
def forwarderAuth (authenticator : Option Authenticator) (policy : AuthenticationPolicy)
    (req : PendingRequest) : Except ConnectionError (Option Source) :=
  match req.authInfo, policy, authenticator with
  | .ok (some source), _, some authenticator =>
    match authenticator.authenticate source with
    | .pass => .ok (some source)
    | .reject => .error (.authentication "Authentication failed")
  | .ok none, .authenticated source, some _ => .ok (some source)
  | .ok info, .default, none => .ok info
  | .ok info, .authenticated source, none => .ok (info.or (some source))
  | .ok none, .default, some _ =>
    .error (.authentication
      "Got request without authentication info on non-authenticated connection")
  | .error error, _, _ => .error (.io error)

variable {req : PendingRequest}

section

variable {self after : Tunnel} {authenticator : Option Authenticator}
  {limiter next : Option ConnectionLimiter}
  (slotted : self.acquireSlot authenticator limiter req = some (after, next))

include slotted

/-- A tunnel keeps its slot, or takes one for the credentials of the request. -/
lemma acquireSlot_eq_some :
    (after = self ∧ next = limiter ∧
      (self.connectionGuard = none → limiter ≠ none → ∀ source,
        req.authInfo = .ok (some source) →
          ¬authenticator.any (·.authenticate source = .pass) = true)) ∨
    ∃ source before guard later, self.connectionGuard = none ∧ limiter = some before ∧
      req.authInfo = .ok (some source) ∧
      before.tryAcquire source.creds self.protocol = some (guard, later) ∧
      after = { self with connectionGuard := some guard } ∧ next = some later := by
  unfold acquireSlot at slotted
  split at slotted
  · rename_i before source free info
    split at slotted
    · obtain ⟨⟨guard, later⟩, acquired, same⟩ := Option.map_eq_some_iff.mp slotted
      cases same
      exact .inr ⟨source, before, guard, later, free, rfl, info, acquired, rfl, rfl⟩
    · rename_i passed
      cases slotted
      refine .inl ⟨rfl, rfl, ?_⟩
      intro _ _ other presented
      cases info.symm.trans presented
      exact passed
  · rename_i otherwise
    cases slotted
    refine .inl ⟨rfl, rfl, ?_⟩
    intro free limited source presented
    obtain ⟨before, same⟩ := Option.ne_none_iff_exists'.mp limited
    exact absurd presented (otherwise before source free same)

lemma policy_acquireSlot : after.authenticationPolicy = self.authenticationPolicy := by
  cases acquireSlot_eq_some slotted with
  | inl kept => rw [kept.1]
  | inr taken =>
    obtain ⟨source, before, guard, later, -, -, -, -, same, -⟩ := taken
    rw [same]

end

/-- A request is promoted for a source that passed, or for the one of the connection. -/
lemma forwarderAuth_eq_ok {authenticator : Authenticator} {policy : AuthenticationPolicy}
    {auth : Option Source} (promoted : forwarderAuth (some authenticator) policy req = .ok auth) :
    ∃ source, auth = some source ∧
      (req.authInfo = .ok (some source) ∧ authenticator.authenticate source = .pass ∨
        req.authInfo = .ok none ∧ policy = .authenticated source) := by
  generalize given : some _ = chosen at promoted
  revert promoted
  fun_cases forwarderAuth chosen policy req with
  | case1 _ source _ info passed =>
    cases given
    rintro ⟨⟩
    exact ⟨source, rfl, .inl ⟨info, passed⟩⟩
  | case3 source _ info =>
    rintro ⟨⟩
    exact ⟨source, rfl, .inr ⟨info, rfl⟩⟩
  | case4 | case5 => cases given
  | case2 | case6 | case7 => exact nofun

end Tunnel

/-! ## The endpoint -/

namespace Core

/-- Open a tunnel for a connection, if it is not dropped at once. -/
def onTunnelRequest (authenticator : Option Authenticator) (limiter : Option ConnectionLimiter)
    (protocol : Protocol) (sniAuthCreds : Option Bytes) :
    Option Tunnel × Option ConnectionLimiter :=
  match authenticator, sniAuthCreds with
  | some authenticator, some credentials =>
    match authenticator.authenticate (.sni credentials), limiter with
    | .pass, none => (some ⟨protocol, .authenticated (.sni credentials), none⟩, none)
    | .pass, some limiter =>
      match limiter.tryAcquire credentials protocol with
      | some (guard, limiter) =>
        (some ⟨protocol, .authenticated (.sni credentials), some guard⟩, some limiter)
      | none => (none, some limiter)
    | .reject, limiter => (none, limiter)
  | _, _ => (some ⟨protocol, .default, none⟩, limiter)

/-- How a connection is opened when there is an authenticator. -/
inductive Opening (authenticator : Authenticator) (protocol : Protocol) :
    Option ConnectionLimiter → Option Bytes → Option Tunnel × Option ConnectionLimiter → Prop
    where
  | plain (limiter : Option ConnectionLimiter) :
      Opening authenticator protocol limiter none (some ⟨protocol, .default, none⟩, limiter)
  | dropped (limiter : Option ConnectionLimiter) (creds : Bytes) :
      Opening authenticator protocol limiter (some creds) (none, limiter)
  | unlimited {creds : Bytes} (passed : authenticator.authenticate (.sni creds) = .pass) :
      Opening authenticator protocol none (some creds)
        (some ⟨protocol, .authenticated (.sni creds), none⟩, none)
  | slotted {creds : Bytes} (passed : authenticator.authenticate (.sni creds) = .pass)
      {limiter later : ConnectionLimiter} {guard : ConnectionGuard}
      (acquired : limiter.tryAcquire creds protocol = some (guard, later)) :
      Opening authenticator protocol (some limiter) (some creds)
        (some ⟨protocol, .authenticated (.sni creds), some guard⟩, some later)

lemma opening_onTunnelRequest (authenticator : Authenticator)
    (limiter : Option ConnectionLimiter) (protocol : Protocol) (sniAuthCreds : Option Bytes) :
    Opening authenticator protocol limiter sniAuthCreds
      (onTunnelRequest (some authenticator) limiter protocol sniAuthCreds) := by
  cases sniAuthCreds with
  | none => exact .plain limiter
  | some creds =>
    unfold onTunnelRequest
    cases status : authenticator.authenticate (.sni creds) with
    | reject =>
      simp only [status]
      exact .dropped limiter creds
    | pass =>
      simp only [status]
      cases limiter with
      | none => exact .unlimited status
      | some limiter =>
        cases acquired : limiter.tryAcquire creds protocol with
        | none =>
          simp only [acquired]
          exact .dropped _ creds
        | some =>
          simp only [acquired]
          exact .slotted status acquired

/-- A connection, by the number of its tunnel. -/
structure Connection where
  sniAuthCreds : Option Bytes
  /-- The tunnel, until it is dropped. -/
  tunnel : Option Tunnel

inductive Stage where
  /-- The task of the request has not authenticated it yet. -/
  | spawned
  | failed (error : ConnectionError)
  | promoted (forwarderAuth : Option Source)

/-- A request that a tunnel has received. -/
structure Received where
  tunnel : Nat
  request : PendingRequest
  authenticationPolicy : AuthenticationPolicy
  stage : Stage

/-- Let the task of the request run. -/
def Received.run (authenticator : Option Authenticator) (self : Received) : Received :=
  match self.stage with
  | .spawned =>
    match Tunnel.forwarderAuth authenticator self.authenticationPolicy self.request with
    | .ok auth => { self with stage := .promoted auth }
    | .error error => { self with stage := .failed error }
  | _ => self

/-- A task changes nothing but the stage of its request. -/
lemma Received.run_eq (authenticator : Option Authenticator) (self : Received) :
    ∃ stage, self.run authenticator = { self with stage } ∧
      ∀ auth, stage = .promoted auth → self.stage = .promoted auth ∨
        Tunnel.forwarderAuth authenticator self.authenticationPolicy self.request = .ok auth := by
  unfold run
  cases spawned : self.stage with
  | spawned =>
    cases outcome : Tunnel.forwarderAuth _ _ _ with
    | ok auth =>
      refine ⟨.promoted auth, rfl, ?_⟩
      intro other same
      cases same
      exact .inr rfl
    | error error =>
      refine ⟨.failed error, rfl, ?_⟩
      intro other same
      cases same
  | failed =>
    refine ⟨self.stage, rfl, ?_⟩
    intro auth same
    exact .inl (spawned.symm.trans same)
  | promoted =>
    refine ⟨self.stage, rfl, ?_⟩
    intro other same
    exact .inl (spawned.symm.trans same)

structure World where
  authenticator : Option Authenticator
  connectionLimiter : Option ConnectionLimiter
  connections : List Connection
  requests : List Received

inductive Event where
  | connect (protocol : Protocol) (sniAuthCreds : Option Bytes)
  | listen (id : Nat) (listened : Listened)
  | shutdown (id : Nat)
  | run (index : Nat)

namespace World

def tunnel (self : World) (id : Nat) : Option Tunnel := self.connections[id]?.bind (·.tunnel)

def setTunnel (self : World) (id : Nat) (tunnel : Option Tunnel) : World :=
  { self with connections := self.connections.modify id fun conn => { conn with tunnel } }

def connect (self : World) (protocol : Protocol) (sniAuthCreds : Option Bytes) : World :=
  let opened := onTunnelRequest self.authenticator self.connectionLimiter protocol sniAuthCreds
  { self with
    connectionLimiter := opened.2
    connections := self.connections ++ [⟨sniAuthCreds, opened.1⟩] }

def receive (self : World) (received : Received) : World :=
  { self with requests := self.requests ++ [received] }

def spawn (self : World) (id : Nat) (tunnel : Tunnel) (limiter : Option ConnectionLimiter)
    (req : PendingRequest) : World :=
  { (self.setTunnel id (some tunnel)).receive
      ⟨id, req, tunnel.authenticationPolicy, .spawned⟩ with
    connectionLimiter := limiter }

/-- Drop the tunnel and with it its guard. -/
def drop (self : World) (id : Nat) (tunnel : Tunnel) : World :=
  { self.setTunnel id none with
    connectionLimiter :=
      match tunnel.connectionGuard with
      | some guard => self.connectionLimiter.map (·.release guard)
      | none => self.connectionLimiter }

def step (self : World) : Event → World
  | .connect protocol sniAuthCreds => self.connect protocol sniAuthCreds
  | .listen id listened =>
    match self.tunnel id with
    | none => self
    | some tunnel =>
      match tunnel.listenInner self.authenticator self.connectionLimiter listened with
      | .spawn tunnel limiter req => self.spawn id tunnel limiter req
      | .finish _ none => self.drop id tunnel
      | .finish _ (some (req, error)) =>
        (self.drop id tunnel).receive ⟨id, req, tunnel.authenticationPolicy, .failed error⟩
  | .shutdown id =>
    match self.tunnel id with
    | none => self
    | some tunnel => self.drop id tunnel
  | .run index => { self with requests := self.requests.modify index (·.run self.authenticator) }

/-! ## What an event can do -/

/-- The kinds of steps. -/
inductive Change (before : World) : Event → World → Prop where
  | idle (event : Event) : Change before event before
  | connect (protocol : Protocol) (sniAuthCreds : Option Bytes) :
      Change before (.connect protocol sniAuthCreds) (before.connect protocol sniAuthCreds)
  | spawn {id : Nat} {tunnel after : Tunnel} {limiter : Option ConnectionLimiter}
      {req : PendingRequest} (opened : before.tunnel id = some tunnel)
      (slotted : tunnel.acquireSlot before.authenticator before.connectionLimiter req =
        some (after, limiter)) :
      Change before (.listen id (.request req)) (before.spawn id after limiter req)
  | drop (event : Event) {id : Nat} {tunnel : Tunnel}
      (opened : before.tunnel id = some tunnel) : Change before event (before.drop id tunnel)
  | refuse {id : Nat} {tunnel : Tunnel} (req : PendingRequest) (error : ConnectionError)
      (opened : before.tunnel id = some tunnel) :
      Change before (.listen id (.request req)) ((before.drop id tunnel).receive
        ⟨id, req, tunnel.authenticationPolicy, .failed error⟩)
  | run (index : Nat) : Change before (.run index)
      { before with requests := before.requests.modify index (·.run before.authenticator) }

lemma change_step (self : World) (event : Event) : Change self event (self.step event) := by
  cases event with
  | connect protocol => exact .connect _ _
  | run index => exact .run index
  | shutdown id =>
    rw [step]
    cases opened : self.tunnel id with
    | none => exact .idle _
    | some => exact .drop _ opened
  | listen id listened =>
    rw [step]
    cases opened : self.tunnel id with
    | none => exact .idle _
    | some tunnel =>
      cases listened with
      | closed | elapsed => exact .drop _ opened
      | error error =>
        dsimp only [Tunnel.listenInner]
        by_cases eof : error.kind = .unexpectedEof
        · rw [if_pos eof]
          exact .drop _ opened
        · rw [if_neg eof]
          exact .drop _ opened
      | request req =>
        dsimp only [Tunnel.listenInner]
        cases slotted : tunnel.acquireSlot _ _ req with
        | none => exact .refuse req _ opened
        | some => exact .spawn opened slotted

variable {before : World} {event : Event} {after : World} {received : Received}

lemma Change.authenticator (change : Change before event after) :
    after.authenticator = before.authenticator := by
  cases change <;> rfl

lemma mem_modify_run {reqs : List Received} {authenticator : Option Authenticator}
    {index : Nat} (mem : received ∈ reqs.modify index (·.run authenticator)) :
    received ∈ reqs ∨ ∃ earlier ∈ reqs, received = earlier.run authenticator := by
  obtain ⟨place, present⟩ := getElem?_of_mem mem
  rw [getElem?_modify] at present
  obtain ⟨earlier, there, same⟩ := Option.map_eq_some_iff.mp present
  have known := mem_of_getElem? there
  split at same
  · exact .inr ⟨earlier, known, same.symm⟩
  · exact .inl (same ▸ known)

/-- Where the requests after a step come from: they were there, their task has run, or they
were received on an open tunnel. -/
lemma mem_requests (change : Change before event after) (mem : received ∈ after.requests) :
    received ∈ before.requests ∨
      (∃ earlier ∈ before.requests, received = earlier.run before.authenticator) ∨
      ∃ tunnel, before.tunnel received.tunnel = some tunnel ∧
        received.authenticationPolicy = tunnel.authenticationPolicy ∧
        ∀ auth, received.stage ≠ .promoted auth := by
  cases change with
  | idle | connect | drop => exact .inl mem
  | run =>
    cases mem_modify_run mem with
    | inl earlier => exact .inl earlier
    | inr ran => exact .inr (.inl ran)
  | spawn opened slotted =>
    cases mem_append.mp mem with
    | inl earlier => exact .inl earlier
    | inr new =>
      cases mem_singleton.mp new
      refine .inr (.inr ⟨_, opened, ?_, ?_⟩)
      · exact Tunnel.policy_acquireSlot slotted
      · intro auth promoted
        cases promoted
  | refuse _ _ opened =>
    cases mem_append.mp mem with
    | inl earlier => exact .inl earlier
    | inr new =>
      cases mem_singleton.mp new
      refine .inr (.inr ⟨_, opened, rfl, ?_⟩)
      intro auth promoted
      cases promoted

/-! ## Looking up tunnels -/

variable {id : Nat} {tunnel : Tunnel} {self : World}

lemma tunnel_eq_some (opened : self.tunnel id = some tunnel) :
    ∃ conn, self.connections[id]? = some conn ∧ conn.tunnel = some tunnel :=
  Option.bind_eq_some_iff.mp opened

/-- After a connection there is at most one more tunnel. -/
lemma tunnel_connect {protocol : Protocol} {sniAuthCreds : Option Bytes}
    (opened : (self.connect protocol sniAuthCreds).tunnel id = some tunnel) :
    self.tunnel id = some tunnel ∨ id = self.connections.length ∧
      (onTunnelRequest self.authenticator self.connectionLimiter protocol sniAuthCreds).1 =
        some tunnel := by
  obtain ⟨conn, present, same⟩ := tunnel_eq_some opened
  rw [connect, getElem?_append] at present
  split at present
  · exact .inl (Option.bind_eq_some_iff.mpr ⟨conn, present, same⟩)
  · have bound := (List.getElem?_eq_some_iff.mp present).1
    rw [length_singleton] at bound
    cases mem_singleton.mp (mem_of_getElem? present)
    exact .inr ⟨by omega, same⟩

lemma tunnel_setTunnel {other : Nat} {written : Option Tunnel}
    (opened : (self.setTunnel id written).tunnel other = some tunnel) :
    other = id ∧ written = some tunnel ∨ other ≠ id ∧ self.tunnel other = some tunnel := by
  obtain ⟨conn, present, same⟩ := tunnel_eq_some opened
  rw [setTunnel, getElem?_modify] at present
  obtain ⟨earlier, there, rfl⟩ := Option.map_eq_some_iff.mp present
  split at same
  · rename_i here
    exact .inl ⟨here.symm, same⟩
  · rename_i here
    exact .inr ⟨Ne.symm here, Option.bind_eq_some_iff.mpr ⟨earlier, there, same⟩⟩

lemma sniAuthCreds_change (change : Change before event after) {conn : Connection}
    (present : before.connections[id]? = some conn) :
    ∃ later, after.connections[id]? = some later ∧ later.sniAuthCreds = conn.sniAuthCreds := by
  have written : ∀ (place : Nat) (tunnel : Option Tunnel),
      ∃ later, (before.setTunnel place tunnel).connections[id]? = some later ∧
        later.sniAuthCreds = conn.sniAuthCreds := by
    intro place tunnel
    rw [setTunnel, getElem?_modify, present]
    refine ⟨_, rfl, ?_⟩
    dsimp only
    split
    · rfl
    · rfl
  cases change with
  | idle | run => exact ⟨conn, present, rfl⟩
  | connect =>
    have bound := (List.getElem?_eq_some_iff.mp present).1
    exact ⟨conn, (getElem?_append_left bound).trans present, rfl⟩
  | spawn | drop | refuse => exact written _ _

end World

end Core

end TrustTunnel.Endpoint
