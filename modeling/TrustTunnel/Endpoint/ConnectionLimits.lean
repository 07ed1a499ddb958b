import TrustTunnel.Endpoint.TunnelAuthentication
import TrustTunnel.Table.Tally

/-!
# How many tunnels a client has

The slot of a tunnel is taken for the first credentials that pass, while every request is
authenticated by its own credentials. When the requests of each tunnel stay with the
client that its slot was taken for, no client has admitted requests on more tunnels than
its limit allows.
-/

namespace TrustTunnel.Endpoint.Core

open Authentication ReverseProxy Transition Table List ConnectionLimiter

/-! ## Settings -/

structure Settings where
  clients : List Authentication.Client
  defaultMaxHttp2ConnsPerClient : Option UInt32
  defaultMaxHttp3ConnsPerClient : Option UInt32

namespace Settings

/-- The limit of a client: its own, or else the default. -/
def limit (self : Settings) (client : Authentication.Client) : LimitClass → Option UInt32
  | .http2 => client.maxHttp2Conns.or self.defaultMaxHttp2ConnsPerClient
  | .http3 => client.maxHttp3Conns.or self.defaultMaxHttp3ConnsPerClient

/-- There is a registry when there are clients. -/
def authenticator (self : Settings) : Option Authenticator :=
  if self.clients.isEmpty then none
  else some (RegistryBasedAuthenticator.new self.clients).toAuthenticator

/-- There is a limiter when a limit is set. -/
def connectionLimiter (self : Settings) : Option ConnectionLimiter :=
  if self.defaultMaxHttp2ConnsPerClient.isSome || self.defaultMaxHttp3ConnsPerClient.isSome ||
      self.clients.any fun client => client.maxHttp2Conns.isSome || client.maxHttp3Conns.isSome
  then
    some (.new self.clients self.defaultMaxHttp2ConnsPerClient self.defaultMaxHttp3ConnsPerClient)
  else none

/-- Clients with the same credentials have the same limits. -/
def Agree (self : Settings) : Prop :=
  ∀ client ∈ self.clients, ∀ other ∈ self.clients, client.creds = other.creds →
    self.limit client .http2 = self.limit other .http2 ∧
      self.limit client .http3 = self.limit other .http3

instance (self : Settings) : Decidable self.Agree :=
  inferInstanceAs (Decidable (∀ _ ∈ _, ∀ _ ∈ _, _ → _))

end Settings

/-! ## The tunnels of a client -/

/-- The request was promoted for the credentials. -/
def Stage.admits (creds : Bytes) : Stage → Bool
  | promoted (some source) => source.creds = creds
  | _ => false

variable {creds : Bytes}

lemma Stage.admits_eq_true {stage : Stage} (admitted : stage.admits creds = true) :
    ∃ source, stage = .promoted (some source) ∧ source.creds = creds := by
  cases stage with
  | spawned | failed => cases admitted
  | promoted auth =>
    cases auth with
    | none => cases admitted
    | some source => exact ⟨source, rfl, of_decide_eq_true admitted⟩

namespace World

/-- The endpoint with the authenticator and the limiter that its settings call for. -/
def boot (settings : Settings) : World := start settings.authenticator settings.connectionLimiter

/-- A request on the tunnel was admitted for the credentials. -/
def admits (self : World) (id : Nat) (creds : Bytes) : Bool :=
  self.requests.any fun received => received.tunnel == id && received.stage.admits creds

/-- The number of open tunnels of a class on which a request was admitted for the
credentials. -/
def tunnelsOf (self : World) (creds : Bytes) (kind : LimitClass) : Nat :=
  self.connections.zipIdx.countP fun entry =>
    entry.1.tunnel.any (limitClass ·.protocol = kind) && self.admits entry.2 creds

/-- No client has more tunnels than its limit allows. -/
def WithinLimits (settings : Settings) (self : World) : Prop :=
  ∀ client ∈ settings.clients, ∀ kind, ∀ limit ∈ settings.limit client kind,
    self.tunnelsOf client.creds kind ≤ limit.toNat

/-- A request on a tunnel with a slot carries the credentials that the slot was taken for,
or credentials without a limit, unless it carries none. -/
def KeepsSlot (settings : Settings) (self : World) : Event → Prop
  | .listen id (.request req) =>
    ∀ tunnel ∈ self.tunnel id, ∀ guard ∈ tunnel.connectionGuard,
      ∀ source ∈ req.authInfo.toOption.join,
        guard.creds = source.creds ∨ ∀ client ∈ settings.clients,
          client.creds = source.creds → settings.limit client (limitClass tunnel.protocol) = none
  | _ => True

instance (settings : Settings) (self : World) :
    (event : Event) → Decidable (self.KeepsSlot settings event)
  | .listen _ (.request _) =>
    inferInstanceAs (Decidable (∀ _ ∈ _, ∀ _ ∈ _, ∀ _ ∈ _, _ ∨ ∀ _ ∈ _, _ → _))
  | .listen _ .closed => .isTrue trivial
  | .listen _ (.error _) => .isTrue trivial
  | .listen _ .elapsed => .isTrue trivial
  | .connect _ _ => .isTrue trivial
  | .shutdown _ => .isTrue trivial
  | .run _ => .isTrue trivial

/-! ## Slots and tunnels -/

/-- The slots that an open tunnel holds for the credentials and the class. -/
def slots (creds : Bytes) (kind : LimitClass) (conn : Connection) : Nat :=
  ((conn.tunnel.bind (·.connectionGuard)).map (ConnectionLimiter.slot · creds kind)).getD 0

def held (self : World) (creds : Bytes) (kind : LimitClass) : Nat :=
  Tally.total (slots creds kind) self.connections

variable {id : Nat} {tunnel : Tunnel}

/-- Writing a tunnel exchanges the slots of the one before. -/
lemma held_setTunnel {self : World} (opened : self.tunnel id = some tunnel)
    (written : Option Tunnel) (creds : Bytes) (kind : LimitClass) :
    (self.setTunnel id written).held creds kind + slots creds kind ⟨none, some tunnel⟩ =
      self.held creds kind + slots creds kind ⟨none, written⟩ := by
  obtain ⟨conn, present, same⟩ := tunnel_eq_some opened
  have exchanged := Tally.total_modify (slots creds kind)
    (fun conn => { conn with tunnel := written }) present
  rw [show slots creds kind conn = slots creds kind ⟨none, some tunnel⟩ by
    rw [slots, same, slots]] at exchanged
  exact exchanged

/-- The guard of a tunnel is of its protocol, and an authenticated connection has a slot for
its client. -/
structure Slotted (tunnel : Tunnel) : Prop where
  protocol : ∀ guard ∈ tunnel.connectionGuard, guard.protocol = tunnel.protocol
  policy : ∀ source, tunnel.authenticationPolicy = .authenticated source →
    ∃ guard ∈ tunnel.connectionGuard, guard.creds = source.creds

/-- The credentials have no limit, or the slot of the tunnel is theirs. -/
def Covered (limits : Bytes → LimitClass → Option UInt32) (tunnel : Tunnel) (creds : Bytes) :
    Prop :=
  limits creds (limitClass tunnel.protocol) = none ∨
    ∃ guard ∈ tunnel.connectionGuard, guard.creds = creds

/-- The limiter counts the slots of the open tunnels, and a request that is or will be
promoted is covered while its tunnel is open. -/
structure Accounted (limits : Bytes → LimitClass → Option UInt32) (world : World) : Prop where
  limiter : ∃ limiter, world.connectionLimiter = some limiter ∧
    (∀ creds kind, limiter.limitOf creds kind = limits creds kind) ∧ limiter.Accounts world.held
  slotted : ∀ id tunnel, world.tunnel id = some tunnel → Slotted tunnel
  covered : ∀ received ∈ world.requests, ∀ tunnel,
    world.tunnel received.tunnel = some tunnel → ∀ source,
      Tunnel.forwarderAuth world.authenticator received.authenticationPolicy
        received.request = .ok (some source) → Covered limits tunnel source.creds

variable {world : World} {req : PendingRequest} {kind : LimitClass}

section

variable {authenticator : Authenticator} {limits : Bytes → LimitClass → Option UInt32}

variable {limiter : ConnectionLimiter} {next : Option ConnectionLimiter}

lemma slotted_of_opening {protocol : Protocol} {sniAuthCreds : Option Bytes}
    {opened : Option Tunnel}
    (opening : Opening authenticator protocol (some limiter) sniAuthCreds (opened, next)) :
    (∀ tunnel ∈ opened, Slotted tunnel) ∧
      (opened.bind (·.connectionGuard) = none ∧ next = some limiter ∨
        ∃ guard later, opened.bind (·.connectionGuard) = some guard ∧ next = some later ∧
          limiter.Acquires guard later) := by
  cases opening with
  | plain =>
    refine ⟨?_, .inl ⟨rfl, rfl⟩⟩
    intro tunnel same
    cases same
    constructor
    · intro guard empty
      cases empty
    · intro source policy
      cases policy
  | dropped =>
    refine ⟨?_, .inl ⟨rfl, rfl⟩⟩
    intro tunnel empty
    cases empty
  | slotted _ acquired =>
    obtain ⟨rfl, acquires⟩ := tryAcquire_eq_some acquired
    refine ⟨?_, .inr ⟨_, _, rfl, rfl, acquires⟩⟩
    intro tunnel same
    cases same
    constructor
    · intro guard same
      cases same
      rfl
    · intro source policy
      cases policy
      exact ⟨_, rfl, rfl⟩

section

variable (accounted : Accounted limits world)

include accounted

lemma Accounted.connect (vouched : Vouched authenticator world) (protocol : Protocol)
    (sniAuthCreds : Option Bytes) : Accounted limits (world.connect protocol sniAuthCreds) := by
  obtain ⟨limiter, present, same, accounts⟩ := accounted.limiter
  cases result : onTunnelRequest _ _ _ _ with
  | mk opened next =>
    have connected : world.connect protocol sniAuthCreds =
        { world with
          connectionLimiter := next
          connections := world.connections ++ [⟨sniAuthCreds, opened⟩] } := by
      rw [World.connect, result]
    have more := fun creds kind => Tally.total_concat (slots creds kind) world.connections
      ⟨sniAuthCreds, opened⟩
    have opening := opening_onTunnelRequest authenticator (some limiter) protocol sniAuthCreds
    rw [← vouched.configured, ← present, result, present] at opening
    obtain ⟨slotted, taken⟩ := slotted_of_opening opening
    constructor
    · rw [connected]
      rcases taken with ⟨free, kept⟩ | ⟨guard, later, took, stored, acquires⟩
      · refine ⟨limiter, kept, same, ?_⟩
        intro creds kind limit inForce
        rw [held, more, slots, free]
        exact accounts creds kind limit inForce
      · refine ⟨later, stored, ?_, ?_⟩
        · intro creds kind
          rw [acquires.limitOf, same]
        · apply accounts.acquire acquires
          intro creds kind
          rw [held, more, slots, took]
          rfl
    · intro id tunnel isOpen
      cases tunnel_connect isOpen with
      | inl earlier => exact accounted.slotted id tunnel earlier
      | inr new =>
        rw [result] at new
        exact slotted tunnel new.2
    · intro received mem tunnel isOpen source promoted
      cases tunnel_connect isOpen with
      | inl earlier => exact accounted.covered _ mem tunnel earlier source promoted
      | inr =>
        obtain ⟨conn, known, -⟩ := vouched.received _ mem
        have bound := (List.getElem?_eq_some_iff.mp known).1
        omega

/-- Writing a tunnel that covers what the one before covered. -/
lemma Accounted.setTunnel (opened : world.tunnel id = some tunnel) {written : Option Tunnel}
    (same : ∀ creds kind, limiter.limitOf creds kind = limits creds kind)
    (accounts : limiter.Accounts (world.setTunnel id written).held)
    (slotted : ∀ tunnel ∈ written, Slotted tunnel)
    (covers : ∀ later ∈ written, ∀ creds, Covered limits tunnel creds →
      Covered limits later creds) :
    Accounted limits { world.setTunnel id written with connectionLimiter := some limiter } := by
  refine ⟨⟨limiter, rfl, same, accounts⟩, ?_, ?_⟩
  · intro other later isOpen
    cases tunnel_setTunnel isOpen with
    | inl here => exact slotted later here.2
    | inr there => exact accounted.slotted other later there.2
  · intro received mem later isOpen source promoted
    cases tunnel_setTunnel isOpen with
    | inl here =>
      apply covers later here.2
      rw [← here.1] at opened
      exact accounted.covered _ mem tunnel opened source promoted
    | inr there => exact accounted.covered _ mem later there.2 source promoted

lemma Accounted.receive (received : Received)
    (covers : ∀ tunnel, world.tunnel received.tunnel = some tunnel → ∀ source,
      Tunnel.forwarderAuth world.authenticator received.authenticationPolicy
        received.request = .ok (some source) → Covered limits tunnel source.creds) :
    Accounted limits (world.receive received) := by
  refine ⟨accounted.limiter, accounted.slotted, ?_⟩
  intro other mem
  cases mem_append.mp mem with
  | inl earlier => exact accounted.covered other earlier
  | inr new =>
    cases mem_singleton.mp new
    exact covers

lemma Accounted.drop (opened : world.tunnel id = some tunnel) :
    Accounted limits (world.drop id tunnel) := by
  obtain ⟨limiter, present, same, accounts⟩ := accounted.limiter
  have exchanged := held_setTunnel opened none
  have nothing : ∀ later ∈ (none : Option Tunnel), Slotted later := by
    intro later empty
    cases empty
  have closed : ∀ later ∈ (none : Option Tunnel), ∀ creds, Covered limits tunnel creds →
      Covered limits later creds := by
    intro later empty
    cases empty
  rw [World.drop, present]
  cases guarded : tunnel.connectionGuard with
  | none =>
    refine accounted.setTunnel opened same ?_ nothing closed
    intro creds kind limit inForce
    have unchanged := exchanged creds kind
    simp only [slots, Option.bind_some, guarded, Option.bind_none, Option.map_none,
      Option.getD_none, add_zero] at unchanged
    rw [unchanged]
    exact accounts creds kind limit inForce
  | some guard =>
    have releases := releases_release limiter guard
    refine accounted.setTunnel opened ?_ ?_ nothing closed
    · intro creds kind
      rw [releases.limitOf, same]
    · apply accounts.release releases
      intro creds kind
      have less := exchanged creds kind
      simp only [slots, Option.bind_some, guarded, Option.map_some, Option.getD_some,
        Option.bind_none, Option.map_none, Option.getD_none, add_zero] at less
      exact less.symm

end

section

variable {after : Tunnel}
  (taking : tunnel.acquireSlot (some authenticator) (some limiter) req = some (after, next))

include taking

/-- What a tunnel covers it still covers after a request, and the slot of a request that
passes is its own unless the tunnel had one before. -/
lemma covered_acquireSlot (slotted : Slotted tunnel) :
    Slotted after ∧ (∀ creds, Covered limits tunnel creds → Covered limits after creds) ∧
      (tunnel.connectionGuard = none → ∀ source, req.authInfo = .ok (some source) →
        authenticator.authenticate source = .pass → Covered limits after source.creds) := by
  rcases Tunnel.acquireSlot_eq_some taking with ⟨rfl, rfl, refused⟩ |
    ⟨presented, before, guard, later, free, same, info, acquired, rfl, rfl⟩
  · refine ⟨slotted, fun _ covered => covered, ?_⟩
    intro free source info passed
    have rejected := refused free (Option.some_ne_none _) source info
    exact absurd (decide_eq_true passed) rejected
  · obtain ⟨rfl, -⟩ := tryAcquire_eq_some acquired
    refine ⟨⟨?_, ?_⟩, ?_, ?_⟩
    · intro guard same
      cases same
      rfl
    · intro source authenticated
      obtain ⟨guard, held, -⟩ := slotted.policy source authenticated
      cases free.symm.trans held
    · intro creds covered
      cases covered with
      | inl unlimited => exact .inl unlimited
      | inr own =>
        obtain ⟨guard, held, -⟩ := own
        cases free.symm.trans held
    · intro _ source same passed
      cases info.symm.trans same
      exact .inr ⟨_, rfl, rfl⟩

/-- The limiter counts the slot that a tunnel takes for a request. -/
lemma Accounted.acquireSlot (accounted : Accounted limits world)
    (opened : world.tunnel id = some tunnel) (present : world.connectionLimiter = some limiter) :
    Accounted limits { world.setTunnel id (some after) with connectionLimiter := next } := by
  obtain ⟨_, counting, same, accounts⟩ := accounted.limiter
  cases present.symm.trans counting
  obtain ⟨slotted, covers, -⟩ :=
    @covered_acquireSlot _ _ _ limits _ _ _ taking (accounted.slotted id tunnel opened)
  have exchanged := held_setTunnel opened (some after)
  have nowSlotted : ∀ later ∈ some after, Slotted later := by
    intro later same
    cases same
    exact slotted
  have nowCovers : ∀ later ∈ some after, ∀ creds, Covered limits tunnel creds →
      Covered limits later creds := by
    intro later same
    cases same
    exact covers
  rcases Tunnel.acquireSlot_eq_some taking with ⟨rfl, rfl, -⟩ |
    ⟨presented, before, guard, later, free, origin, -, acquired, rfl, rfl⟩
  · refine accounted.setTunnel opened same ?_ nowSlotted nowCovers
    intro creds kind limit inForce
    rw [Nat.add_right_cancel (exchanged creds kind)]
    exact accounts creds kind limit inForce
  · cases origin
    have acquires := (tryAcquire_eq_some acquired).2
    refine accounted.setTunnel opened ?_ ?_ nowSlotted nowCovers
    · intro creds kind
      rw [acquires.limitOf, same]
    · apply accounts.acquire acquires
      intro creds kind
      have more := exchanged creds kind
      simp only [slots, Option.bind_some, free, Option.map_none, Option.getD_none,
        Option.map_some, Option.getD_some, add_zero] at more
      exact more

end

lemma Accounted.spawn (accounted : Accounted limits world)
    (vouched : Vouched authenticator world) {after : Tunnel}
    (opened : world.tunnel id = some tunnel)
    (taking : tunnel.acquireSlot world.authenticator world.connectionLimiter req =
      some (after, next))
    (keeps : ∀ guard ∈ tunnel.connectionGuard, ∀ source,
      req.authInfo = .ok (some source) → Covered limits tunnel source.creds) :
    Accounted limits (world.spawn id after next req) := by
  obtain ⟨limiter, present, -, -⟩ := accounted.limiter
  rw [vouched.configured, present] at taking
  have written := accounted.acquireSlot taking opened present
  obtain ⟨slotted, covers, takes⟩ :=
    @covered_acquireSlot _ _ _ limits _ _ _ taking (accounted.slotted id tunnel opened)
  refine written.receive ⟨id, req, after.authenticationPolicy, .spawned⟩ ?_
  intro later isOpen source promoted
  have current : later = after := by
    cases tunnel_setTunnel isOpen with
    | inl here => exact (Option.some.inj here.2).symm
    | inr other => exact absurd rfl other.1
  subst current
  have authenticated : Tunnel.forwarderAuth (some authenticator) later.authenticationPolicy
      req = .ok (some source) := vouched.configured ▸ promoted
  obtain ⟨_, equal, carried | backed⟩ := Tunnel.forwarderAuth_eq_ok authenticated
  · cases equal
    obtain ⟨info, passed⟩ := carried
    cases guarded : tunnel.connectionGuard with
    | none => exact takes guarded source info passed
    | some guard => exact covers _ (keeps guard guarded source info)
  · cases equal
    exact .inr (slotted.policy source backed.2)

lemma Accounted.run (accounted : Accounted limits world) (index : Nat) :
    Accounted limits
      { world with requests := world.requests.modify index (·.run world.authenticator) } := by
  refine ⟨accounted.limiter, accounted.slotted, ?_⟩
  intro received mem
  cases mem_modify_run mem with
  | inl earlier => exact accounted.covered _ earlier
  | inr ran =>
    obtain ⟨earlier, known, rfl⟩ := ran
    obtain ⟨stage, same, -⟩ := earlier.run_eq _
    rw [same]
    exact accounted.covered earlier known

/-- A step keeps the accounts when a request on a tunnel with a slot is covered by it. -/
lemma Accounted.change {before after : World} {event : Event}
    (accounted : Accounted limits before) (vouched : Vouched authenticator before)
    (change : Change before event after)
    (keeps : ∀ id req, event = .listen id (.request req) → ∀ tunnel,
      before.tunnel id = some tunnel → ∀ guard ∈ tunnel.connectionGuard, ∀ source,
        req.authInfo = .ok (some source) → Covered limits tunnel source.creds) :
    Accounted limits after := by
  cases change with
  | idle => exact accounted
  | connect protocol => exact accounted.connect vouched _ _
  | spawn opened taking => exact accounted.spawn vouched opened taking (keeps _ _ rfl _ opened)
  | drop _ opened => exact accounted.drop opened
  | run index => exact accounted.run index
  | refuse _ _ opened =>
    refine (accounted.drop opened).receive _ ?_
    intro tunnel isOpen
    cases tunnel_setTunnel isOpen with
    | inl here => cases here.2
    | inr other => exact absurd rfl other.1

/-- Every tunnel on which a client with a limit was admitted holds a slot of the client. -/
lemma tunnelsOf_le_held (accounted : Accounted limits world)
    (vouched : Vouched authenticator world) (limited : limits creds kind ≠ none) :
    world.tunnelsOf creds kind ≤ world.held creds kind := by
  have numbered : Tally.total (fun entry => slots creds kind entry.1)
      world.connections.zipIdx = world.held creds kind := by
    rw [← Tally.total_map (slots creds kind) Prod.fst, zipIdx_map_fst, held]
  rw [← numbered]
  apply Tally.countP_le_total
  intro entry mem counted
  obtain ⟨isOpen, admitted⟩ := Bool.and_eq_true_iff.mp counted
  obtain ⟨tunnel, here, sameClass⟩ := (Option.any_eq_true _ _).mp isOpen
  have sameClass := of_decide_eq_true sameClass
  obtain ⟨received, known, req⟩ := any_eq_true.mp admitted
  obtain ⟨same, admitted⟩ := Bool.and_eq_true_iff.mp req
  obtain ⟨source, promoted, rfl⟩ := Stage.admits_eq_true admitted
  have opened : world.tunnel received.tunnel = some tunnel := by
    rw [eq_of_beq same]
    exact Option.bind_eq_some_iff.mpr ⟨entry.1, mk_mem_zipIdx_iff_getElem?.mp mem, here⟩
  have authenticated := vouched.promoted _ known _ promoted
  rw [← vouched.configured] at authenticated
  cases accounted.covered _ known tunnel opened source authenticated with
  | inl unlimited =>
    rw [sameClass] at unlimited
    exact absurd unlimited limited
  | inr own =>
    obtain ⟨guard, guarded, creds⟩ := own
    have protocol := (accounted.slotted _ tunnel opened).protocol guard guarded
    have whole : source.creds = guard.creds ∧ kind = limitClass guard.protocol := by
      rw [protocol, sameClass]
      exact ⟨creds.symm, rfl⟩
    rw [slots, here, Option.bind_some, Option.mem_def.mp guarded, Option.map_some,
      Option.getD_some, slot, if_pos whole]

end

/-! ## Limits from the settings -/

/-- The limiter of the settings. -/
def limiterOf (settings : Settings) : ConnectionLimiter :=
  .new settings.clients settings.defaultMaxHttp2ConnsPerClient
    settings.defaultMaxHttp3ConnsPerClient

variable {settings : Settings}

/-- A limit in force is the one of a client with the credentials. -/
lemma limitOf_limiterOf {entry : ClientEntry}
    (found : (limiterOf settings).clients.lookup creds = some entry) :
    ∃ client ∈ settings.clients, client.creds = creds ∧
      (limiterOf settings).limitOf creds kind = settings.limit client kind := by
  obtain ⟨client, mem, same, rfl⟩ := lookup_collect_eq_some found
  refine ⟨client, mem, same, ?_⟩
  rw [limitOf, found]
  cases kind <;> rfl

/-- Credentials whose clients have no limit are not limited. -/
lemma limitOf_eq_none
    (unlimited : ∀ client ∈ settings.clients, client.creds = creds →
      settings.limit client kind = none) :
    (limiterOf settings).limitOf creds kind = none := by
  cases found : (limiterOf settings).clients.lookup creds with
  | none =>
    rw [limitOf, found]
    rfl
  | some =>
    obtain ⟨client, mem, same, inForce⟩ := @limitOf_limiterOf _ kind _ _ found
    rw [inForce]
    exact unlimited client mem same

variable {client : Authentication.Client}

section

variable (mem : client ∈ settings.clients)

include mem

/-- When the limits agree, the one of a client is in force. -/
lemma limitOf_eq_limit (agree : settings.Agree) (kind : LimitClass) :
    (limiterOf settings).limitOf client.creds kind = settings.limit client kind := by
  have known : client.creds ∈ (limiterOf settings).clients := mem_collect mem
  obtain ⟨entry, found⟩ := Option.isSome_iff_exists.mp (AList.lookup_isSome.mpr known)
  obtain ⟨other, there, same, inForce⟩ := @limitOf_limiterOf _ kind _ _ found
  obtain ⟨http2, http3⟩ := agree other there client mem same
  rw [inForce]
  cases kind with
  | http2 => exact http2
  | http3 => exact http3

lemma connectionLimiter_eq_some (limited : settings.limit client kind ≠ none) :
    settings.connectionLimiter = some (limiterOf settings) := by
  apply if_pos
  rw [Bool.or_eq_true, Bool.or_eq_true, any_eq_true]
  cases kind with
  | http2 =>
    cases own : client.maxHttp2Conns with
    | some => exact .inr ⟨client, mem, by rw [own]; rfl⟩
    | none =>
      rw [Settings.limit, own] at limited
      exact .inl (.inl (Option.isSome_iff_ne_none.mpr limited))
  | http3 =>
    cases own : client.maxHttp3Conns with
    | some => exact .inr ⟨client, mem, by rw [own, Bool.or_comm]; rfl⟩
    | none =>
      rw [Settings.limit, own, Option.none_or] at limited
      exact .inl (.inr (Option.isSome_iff_ne_none.mpr limited))

lemma authenticator_eq_some :
    settings.authenticator =
      some (RegistryBasedAuthenticator.new settings.clients).toAuthenticator := by
  apply if_neg
  rw [List.isEmpty_iff]
  exact ne_nil_of_mem mem

end

lemma accounted_boot (present : settings.connectionLimiter = some (limiterOf settings)) :
    Accounted (limiterOf settings).limitOf (boot settings) where
  limiter := ⟨limiterOf settings, present, fun _ _ => rfl, accounts_new _ _ _⟩
  slotted := by
    intro id tunnel opened
    cases opened
  covered := by
    intro received mem
    cases mem

end World

open World

/-- When the requests of every tunnel keep to its slot, no client ever has admitted requests
on more open tunnels than its limit allows. -/
theorem always_withinLimits (settings : Settings) (agree : settings.Agree) (events : List Event)
    (keeps : EachStep World.step (KeepsSlot settings) (boot settings) events) :
    Always World.step (WithinLimits settings) (boot settings) events := by
  by_cases limited : ∃ client ∈ settings.clients, ∃ kind, settings.limit client kind ≠ none
  · obtain ⟨client, mem, kind, limited⟩ := limited
    have present := connectionLimiter_eq_some mem limited
    have configured := authenticator_eq_some mem
    apply Always.of_invariant (fun world =>
      Vouched (RegistryBasedAuthenticator.new settings.clients).toAuthenticator world ∧
        Accounted (limiterOf settings).limitOf world) _ _ _ keeps
    · intro world event invariant keeps
      have change := change_step world event
      refine ⟨invariant.1.change change, invariant.2.change invariant.1 change ?_⟩
      intro id req listened tunnel opened guard guarded source info
      subst listened
      have presented : source ∈ req.authInfo.toOption.join := by
        rw [info]
        rfl
      cases keeps tunnel opened guard guarded source presented with
      | inl own => exact .inr ⟨guard, guarded, own⟩
      | inr unlimited => exact .inl (limitOf_eq_none unlimited)
    · intro world invariant client mem kind limit inForce
      have counted := limitOf_eq_limit mem agree kind
      rw [Option.mem_def.mp inForce] at counted
      obtain ⟨limiter, -, same, accounts⟩ := invariant.2.limiter
      have bound := accounts _ kind limit ((same _ _).trans counted)
      have limited : (limiterOf settings).limitOf client.creds kind ≠ none := by
        rw [counted]
        exact Option.some_ne_none limit
      exact (tunnelsOf_le_held invariant.2 invariant.1 limited).trans bound.2
    · refine ⟨?_, accounted_boot present⟩
      rw [boot, configured]
      exact vouched_start _ _
  · apply Always.of_invariant (fun _ => True) _ _ trivial keeps
    · intro world event _ _
      trivial
    · intro world _ client mem kind limit inForce
      refine absurd ⟨client, mem, kind, ?_⟩ limited
      rw [Option.mem_def.mp inForce]
      exact Option.some_ne_none limit

/-! ## Runs with two clients -/

/-- A `CONNECT` request with the value of its `Proxy-Authorization` header. -/
def connectRequest (authorization : HeaderValue) : PendingRequest where
  request :=
    ⟨⟨.ofString "CONNECT", by decide +kernel⟩, ⟨none, none⟩, .http2,
      [⟨⟨ForwardedStreamSource.proxyAuthorization, by decide +kernel, by decide +kernel⟩,
        authorization⟩]⟩
  scrubbed := ""

def alice : Authentication.Client := ⟨"alice", "a", none, none⟩

def bob : Authentication.Client := ⟨"bob", "b", some 1, none⟩

def aliceRequest : PendingRequest :=
  connectRequest ⟨PendingRequest.basic ++ alice.creds, by decide +kernel⟩

def bobRequest : PendingRequest :=
  connectRequest ⟨PendingRequest.basic ++ bob.creds, by decide +kernel⟩

def sharedEndpoint : Settings := ⟨[alice, bob], none, none⟩

/-- Each client on a tunnel of its own, and a second tunnel of the limited one. -/
def separateTunnels : List Event :=
  [.connect .http2 none, .connect .http2 none, .connect .http2 none,
    .listen 0 (.request aliceRequest), .run 0, .listen 1 (.request bobRequest), .run 1,
    .listen 2 (.request bobRequest)]

theorem withinLimits_separateTunnels :
    sharedEndpoint.Agree ∧
      EachStep World.step (KeepsSlot sharedEndpoint) (boot sharedEndpoint) separateTunnels ∧
      Always World.step (WithinLimits sharedEndpoint) (boot sharedEndpoint) separateTunnels := by
  have agree : sharedEndpoint.Agree := by decide +kernel
  have keeps : EachStep World.step (KeepsSlot sharedEndpoint) (boot sharedEndpoint)
      separateTunnels := by decide +kernel
  exact ⟨agree, keeps, always_withinLimits sharedEndpoint agree separateTunnels keeps⟩

/-- Two tunnels with slots of the client without a limit serve the limited one. -/
def mixedTunnels : List Event :=
  [.connect .http2 none, .listen 0 (.request aliceRequest), .listen 0 (.request bobRequest),
    .run 1, .connect .http2 none, .listen 1 (.request aliceRequest),
    .listen 1 (.request bobRequest), .run 3]

/-- The credentials of one client, listed a second time without a limit. -/
def repeatedEndpoint : Settings := ⟨[bob, { bob with maxHttp2Conns := none }], none, none⟩

def repeatedTunnels : List Event :=
  [.connect .http2 none, .listen 0 (.request bobRequest), .run 0, .connect .http2 none,
    .listen 1 (.request bobRequest), .run 1]

theorem not_withinLimits_runs :
    ¬Always World.step (WithinLimits sharedEndpoint) (boot sharedEndpoint) mixedTunnels ∧
      ¬Always World.step (WithinLimits repeatedEndpoint) (boot repeatedEndpoint)
        repeatedTunnels := by
  constructor
  · intro always
    have within := always.last bob (mem_cons_of_mem _ mem_cons_self) .http2 1 rfl
    exact absurd within (by decide +kernel)
  · intro always
    have within := always.last bob mem_cons_self .http2 1 rfl
    exact absurd within (by decide +kernel)

end TrustTunnel.Endpoint.Core
