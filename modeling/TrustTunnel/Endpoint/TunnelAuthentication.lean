import TrustTunnel.Endpoint.Tunnel
import TrustTunnel.Transition.Trace

/-!
# Which requests a tunnel promotes

A request is entitled when it carries the credentials of a configured client, or carries
none on a connection that was opened with such credentials. Along every run of an
endpoint with a registry only entitled requests are promoted.
-/

namespace TrustTunnel.Endpoint.Core

open Authentication ReverseProxy Transition

namespace World

/-- The endpoint before its first connection. -/
def start (authenticator : Option Authenticator) (limiter : Option ConnectionLimiter) : World :=
  ⟨authenticator, limiter, [], []⟩

/-- The request carries the credentials of a client, or none where the connection was opened
with the credentials of a client. -/
def Entitled (self : World) (clients : List Authentication.Client) (received : Received) :
    Prop :=
  ∃ client ∈ clients,
    received.request.proxyAuthorization = some (PendingRequest.basic ++ client.creds) ∨
      received.request.proxyAuthorization = none ∧
        ∃ conn, self.connections[received.tunnel]? = some conn ∧
          conn.sniAuthCreds = some client.creds

/-- Only entitled requests have been promoted, the task of any other request fails it, and
a connection with wrong credentials has no tunnel and no request. -/
structure Sound (clients : List Authentication.Client) (world : World) : Prop where
  promoted : ∀ received ∈ world.requests, ∀ auth, received.stage = .promoted auth →
    world.Entitled clients received
  failed : ∀ (index : Nat) received, world.requests[index]? = some received →
    ¬world.Entitled clients received →
    ∃ error, (world.step (.run index)).requests[index]?.map (·.stage) = some (.failed error)
  dropped : ∀ (id : Nat) conn creds, world.connections[id]? = some conn →
    conn.sniAuthCreds = some creds → creds ∉ clients.map (·.creds) →
    conn.tunnel = none ∧ ∀ received ∈ world.requests, received.tunnel ≠ id

/-! ## What the policy of a tunnel rests on -/

section

variable {authenticator : Authenticator}

/-- The credentials that the connection was opened with passed, and the policy is about
them. -/
def Backed (authenticator : Authenticator) (self : World) (id : Nat)
    (policy : AuthenticationPolicy) : Prop :=
  ∃ conn, self.connections[id]? = some conn ∧
    (∀ creds, conn.sniAuthCreds = some creds → authenticator.authenticate (.sni creds) = .pass) ∧
    ∀ source, policy = .authenticated source → ∃ creds, source = .sni creds ∧
      conn.sniAuthCreds = some creds

variable {before after : World} {event : Event} {tunnel : Tunnel} {id : Nat}

lemma Backed.change {policy : AuthenticationPolicy}
    (backed : Backed authenticator before id policy) (change : Change before event after) :
    Backed authenticator after id policy := by
  obtain ⟨conn, present, passed, named⟩ := backed
  obtain ⟨later, there, same⟩ := sniAuthCreds_change change present
  rw [← same] at passed named
  exact ⟨later, there, passed, named⟩

lemma policy_of_opening {limiter next : Option ConnectionLimiter} {protocol : Protocol}
    {sniAuthCreds : Option Bytes}
    (opening : Opening authenticator protocol limiter sniAuthCreds (some tunnel, next)) :
    (∀ creds, sniAuthCreds = some creds → authenticator.authenticate (.sni creds) = .pass) ∧
      ∀ source, tunnel.authenticationPolicy = .authenticated source → ∃ creds,
        source = .sni creds ∧ sniAuthCreds = some creds := by
  cases opening with
  | plain =>
    constructor
    · intro creds opened
      cases opened
    · intro source policy
      cases policy
  | unlimited passed =>
    constructor
    · intro creds opened
      cases opened
      exact passed
    · intro source policy
      cases policy
      exact ⟨_, rfl, rfl⟩
  | slotted passed =>
    constructor
    · intro creds opened
      cases opened
      exact passed
    · intro source policy
      cases policy
      exact ⟨_, rfl, rfl⟩

/-- The policies rest on the connections, and a promoted request was authenticated. -/
structure Vouched (authenticator : Authenticator) (world : World) : Prop where
  configured : world.authenticator = some authenticator
  opened : ∀ id tunnel, world.tunnel id = some tunnel →
    Backed authenticator world id tunnel.authenticationPolicy
  received : ∀ received ∈ world.requests,
    Backed authenticator world received.tunnel received.authenticationPolicy
  promoted : ∀ received ∈ world.requests, ∀ auth, received.stage = .promoted auth →
    Tunnel.forwarderAuth (some authenticator) received.authenticationPolicy
      received.request = .ok auth

lemma vouched_start (authenticator : Authenticator) (limiter : Option ConnectionLimiter) :
    Vouched authenticator (start (some authenticator) limiter) where
  configured := rfl
  opened := by
    intro id tunnel opened
    cases opened
  received := by
    intro received mem
    cases mem
  promoted := by
    intro received mem
    cases mem

/-- The tunnels that a step opens or leaves open are backed. -/
lemma Vouched.opened_change (vouched : Vouched authenticator before)
    (change : Change before event after) (opened : after.tunnel id = some tunnel) :
    Backed authenticator after id tunnel.authenticationPolicy := by
  cases change with
  | idle | run => exact vouched.opened id tunnel opened
  | connect protocol sniAuthCreds =>
    cases tunnel_connect opened with
    | inl earlier => exact (vouched.opened id tunnel earlier).change (.connect _ _)
    | inr new =>
      obtain ⟨rfl, new⟩ := new
      have opening := opening_onTunnelRequest authenticator before.connectionLimiter
        protocol sniAuthCreds
      rw [← vouched.configured, ← Prod.eta (onTunnelRequest _ _ _ _), new] at opening
      exact ⟨_, List.getElem?_concat_length, policy_of_opening opening⟩
  | drop event closed =>
    cases tunnel_setTunnel opened with
    | inl here => cases here.2
    | inr other => exact (vouched.opened id tunnel other.2).change (.drop event closed)
  | refuse req error closed =>
    cases tunnel_setTunnel opened with
    | inl here => cases here.2
    | inr other => exact (vouched.opened id tunnel other.2).change (.refuse req error closed)
  | spawn isOpen slotted =>
    cases tunnel_setTunnel opened with
    | inl here =>
      obtain ⟨rfl, same⟩ := here
      cases same
      have backed := (vouched.opened _ _ isOpen).change (.spawn isOpen slotted)
      rwa [Tunnel.policy_acquireSlot slotted]
    | inr other => exact (vouched.opened id tunnel other.2).change (.spawn isOpen slotted)

lemma Vouched.change (vouched : Vouched authenticator before)
    (change : Change before event after) : Vouched authenticator after where
  configured := change.authenticator.trans vouched.configured
  opened := by
    intro id tunnel opened
    exact vouched.opened_change change opened
  received := by
    intro received mem
    rcases mem_requests change mem with earlier | ran | new
    · exact (vouched.received _ earlier).change change
    · obtain ⟨earlier, known, rfl⟩ := ran
      obtain ⟨stage, same, -⟩ := earlier.run_eq _
      rw [same]
      exact (vouched.received earlier known).change change
    · obtain ⟨tunnel, opened, policy, -⟩ := new
      rw [policy]
      exact (vouched.opened _ tunnel opened).change change
  promoted := by
    intro received mem auth promoted
    rcases mem_requests change mem with earlier | ran | new
    · exact vouched.promoted _ earlier auth promoted
    · obtain ⟨earlier, known, rfl⟩ := ran
      obtain ⟨stage, same, outcome⟩ := earlier.run_eq _
      rw [same] at promoted ⊢
      rw [vouched.configured] at outcome
      cases outcome auth promoted with
      | inl already => exact vouched.promoted earlier known auth already
      | inr authenticated => exact authenticated
    · obtain ⟨tunnel, -, -, unpromoted⟩ := new
      exact absurd promoted (unpromoted auth)

end

/-! ## Soundness -/

section

variable {clients : List Authentication.Client} {world : World}
  (vouched : Vouched (RegistryBasedAuthenticator.new clients).toAuthenticator world)

include vouched

variable {received : Received}

lemma entitled_of_forwarderAuth (mem : received ∈ world.requests) {auth : Option Source}
    (promoted : Tunnel.forwarderAuth (some (RegistryBasedAuthenticator.new clients).toAuthenticator)
      received.authenticationPolicy received.request = .ok auth) :
    world.Entitled clients received := by
  obtain ⟨source, -, carried | backed⟩ := Tunnel.forwarderAuth_eq_ok promoted
  · obtain ⟨info, passed⟩ := carried
    obtain ⟨client, configured, same⟩ := authenticate_new.mp passed
    refine ⟨client, configured, .inl ?_⟩
    rw [same]
    exact PendingRequest.authInfo_eq_ok_some info
  · obtain ⟨info, policy⟩ := backed
    obtain ⟨conn, present, passed, named⟩ := vouched.received _ mem
    obtain ⟨creds, -, opened⟩ := named source policy
    obtain ⟨client, configured, same⟩ := authenticate_new.mp (passed creds opened)
    refine ⟨client, configured, .inr ⟨PendingRequest.authInfo_eq_ok_none info, conn, present, ?_⟩⟩
    rw [opened, same]
    rfl

lemma failed_of_not_entitled (mem : received ∈ world.requests)
    (stranger : ¬world.Entitled clients received) :
    ∃ error, (received.run world.authenticator).stage = .failed error := by
  rw [vouched.configured]
  unfold Received.run
  cases spawned : received.stage with
  | failed error => exact ⟨error, spawned⟩
  | promoted auth =>
    have authenticated := vouched.promoted _ mem auth spawned
    exact absurd (entitled_of_forwarderAuth vouched mem authenticated) stranger
  | spawned =>
    cases outcome : Tunnel.forwarderAuth _
        _ _ with
    | ok auth => exact absurd (entitled_of_forwarderAuth vouched mem outcome) stranger
    | error error => exact ⟨error, rfl⟩

lemma sound_of_vouched : Sound clients world where
  promoted := by
    intro received mem auth promoted
    exact entitled_of_forwarderAuth vouched mem (vouched.promoted _ mem auth promoted)
  failed := by
    intro index received present stranger
    obtain ⟨error, failed⟩ := failed_of_not_entitled vouched (List.mem_of_getElem? present) stranger
    refine ⟨error, ?_⟩
    rw [step, List.getElem?_modify_eq, present]
    exact congrArg some failed
  dropped := by
    intro id conn creds present opened unknown
    have rejected : ∀ policy, ¬Backed
        (RegistryBasedAuthenticator.new clients).toAuthenticator world id policy := by
      intro policy backed
      obtain ⟨other, there, passed, -⟩ := backed
      cases present.symm.trans there
      obtain ⟨client, configured, same⟩ := authenticate_new.mp (passed creds opened)
      exact unknown (List.mem_map.mpr ⟨client, configured, same⟩)
    constructor
    · cases held : conn.tunnel with
      | none => rfl
      | some tunnel =>
        have isOpen : world.tunnel id = some tunnel :=
          Option.bind_eq_some_iff.mpr ⟨conn, present, held⟩
        exact absurd (vouched.opened id tunnel isOpen) (rejected _)
    · intro received mem same
      exact rejected _ (same ▸ vouched.received _ mem)

end

end World

open World

/-- On an endpoint with a registry, whatever the connections, requests and tasks do, only
entitled requests are promoted, every other request is failed, and a connection with wrong
SNI credentials never serves a request. -/
theorem always_sound (clients : List Authentication.Client)
    (limiter : Option ConnectionLimiter) (events : List Event) :
    Always World.step (Sound clients)
      (start (some (RegistryBasedAuthenticator.new clients).toAuthenticator) limiter) events := by
  apply Always.of_invariant (Vouched _) _ sound_of_vouched
    (vouched_start _ limiter) (eachStep_true _ events)
  intro world event vouched _
  exact vouched.change (change_step world event)

end TrustTunnel.Endpoint.Core
