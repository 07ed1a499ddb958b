import TrustTunnel.Endpoint.IcmpForwarder
import TrustTunnel.Transition.Trace

/-!
# Whom the ICMP forwarder hands a message to

All clients share one table of waiting requests. A run interleaves the requests of
any number of multiplexers with incoming messages and with runs of the maintenance
task. Next to the forwarder it keeps the requests that were sent and not yet taken
off the deadlines, with their multiplexer and peer.
-/

namespace TrustTunnel.Endpoint.IcmpForwarder

open IcmpUtils Table Transition List LooseMap Deadlines

/-- An echo request that was sent for a multiplexer. -/
structure Request where
  tx : Nat
  peer : IpAddr
  echo : Echo
  deadline : Nat
  deriving DecidableEq

structure World where
  forwarder : ForwarderShared
  listening : Bool
  now : Nat
  pending : List Request

inductive Event where
  /-- The forwarder opens its sockets and begins to listen. -/
  | listen
  | write (tx : Nat) (dgram : Downstream.IcmpDatagram) (sendTo : Except IoError Unit) (layout : Nat)
  | receive (source : IpAddr) (msg : Message) (trySend : TrySend) (layout : Nat)
  | maintain (layout : Nat → Nat)
  | elapse (time : Nat)

namespace World

def start (settings : Settings) : World := ⟨new settings, false, 0, []⟩

/-- The request that a datagram of the multiplexer becomes. -/
def request (self : World) (tx : Nat) (dgram : Downstream.IcmpDatagram) (echo : Echo) :
    Request :=
  ⟨tx, dgram.metadata.peer, echo, self.now + self.forwarder.coreSettings.requestTimeout⟩

/-- The requests that a write adds to the pending ones. -/
def sends (self : World) (tx : Nat) (dgram : Downstream.IcmpDatagram) :
    Except IoError Unit → List Request
  | .error _ => []
  | .ok () => ((admitted self.forwarder dgram).map (self.request tx dgram)).toList

/-- The channel that a message is handed to. -/
def handed (self : World) (msg : Message) (trySend : TrySend) (layout : Nat) : Option Nat :=
  if self.listening then
    match onMessage self.forwarder msg trySend layout with
    | .ok (_, handed) => handed
    | .error _ => none
  else none

def step (self : World) : Event → World
  | .listen => { self with forwarder := initSockets self.forwarder, listening := true }
  | .write tx dgram sendTo layout =>
    { self with
      forwarder := (write self.forwarder self.now tx dgram sendTo layout).1
      pending := self.pending ++ self.sends tx dgram sendTo }
  | .receive _ msg trySend layout =>
    if self.listening then
      match onMessage self.forwarder msg trySend layout with
      | .ok (forwarder, _) => { self with forwarder }
      | .error _ => { self with listening := false }
    else self
  | .maintain layout =>
    if self.listening then
      { self with
        forwarder.listeners := self.forwarder.listeners.maintain self.now layout
        pending := self.pending.filter fun request => self.now < request.deadline }
    else self
  | .elapse time => { self with now := self.now + time }

/-- A message that quotes the request goes to the multiplexer, whatever the layout. -/
def Awaits (self : World) (tx : Nat) (quoted : Echo) : Prop :=
  (∃ entry ∈ self.forwarder.listeners.replyWaiters, quoted.eq entry.1 = true) ∧
    ∀ entry ∈ self.forwarder.listeners.replyWaiters, quoted.eq entry.1 = true → entry.2.wakerTx = tx

instance (self : World) (tx : Nat) (quoted : Echo) : Decidable (self.Awaits tx quoted) :=
  inferInstanceAs (Decidable (_ ∧ _))

end World

namespace Request

/-- The message responds to the request: it quotes its identifier, sequence number and
payload, and a reply comes from the peer. An error may quote the beginning of the payload. -/
def AnsweredBy (self : Request) (source : IpAddr) (msg : Message) : Prop :=
  ∃ quoted ∈ msg.quoted, quoted.SameIds self.echo ∧ quoted.data <+: self.echo.data ∧
    (msg.echoReply ≠ none → quoted.data = self.echo.data ∧ source = self.peer)

instance (self : Request) (source : IpAddr) (msg : Message) :
    Decidable (self.AnsweredBy source msg) :=
  inferInstanceAs (Decidable (∃ _ ∈ _, _))

end Request

/-- A message is handed to a multiplexer only for an unexpired request of its own. -/
def HandsOwn (world : World) (source : IpAddr) (msg : Message) (trySend : TrySend)
    (layout : Nat) : Prop :=
  ∀ tx ∈ world.handed msg trySend layout,
    ∃ request ∈ world.pending, request.tx = tx ∧ world.now ≤ request.deadline ∧
      request.AnsweredBy source msg

instance (world : World) (source : IpAddr) (msg : Message) (trySend : TrySend)
    (layout : Nat) : Decidable (HandsOwn world source msg trySend layout) :=
  inferInstanceAs (Decidable (∀ _ ∈ _, ∃ _ ∈ _, _))

/-- A message is handed to a multiplexer only for an unexpired request of its own, and a
write of a multiplexer takes no message away from another one. -/
def Isolated (world : World) : Event → Prop
  | .receive source msg trySend layout => HandsOwn world source msg trySend layout
  | .write tx dgram sendTo layout =>
    ∀ other, other ≠ tx → ∀ quoted, world.Awaits other quoted →
      (world.step (.write tx dgram sendTo layout)).Awaits other quoted
  | _ => True

/-- No multiplexer sends a request with the identifier and sequence number of a pending
request of another one. A message that matches a pending request comes before its deadline
and does not quote more than its payload; a reply comes from its peer with all of it. -/
def Undisturbed (world : World) : Event → Prop
  | .receive source msg _ _ =>
    ∀ quoted ∈ msg.quoted, ∀ request ∈ world.pending,
      quoted.eq request.echo = true →
        world.now ≤ request.deadline ∧
          quoted.data.length ≤ request.echo.data.length ∧
          (msg.echoReply ≠ none →
            quoted.data.length = request.echo.data.length ∧ source = request.peer)
  | .write tx dgram _ _ =>
    ∀ echo ∈ outgoingEchoRequest dgram.message, ∀ request ∈ world.pending,
      request.echo.SameIds echo → request.tx = tx
  | _ => True

instance (world : World) : (event : Event) → Decidable (Undisturbed world event)
  | .listen => .isTrue trivial
  | .write _ _ _ _ | .receive _ _ _ _ => inferInstanceAs (Decidable (∀ _ ∈ _, ∀ _ ∈ _, _ → _))
  | .maintain _ | .elapse _ => .isTrue trivial

/-! ## What an event does -/

variable {echo : Echo} {tx : Nat} {trySend : TrySend} {msg : Message} {layout : Nat} {ν : Type}

namespace World

/-- The world after the multiplexer has sent the request. -/
def registered (self : World) (tx : Nat) (dgram : Downstream.IcmpDatagram) (echo : Echo)
    (layout : Nat) : World :=
  { self with
    forwarder.listeners := self.forwarder.listeners.register echo
      ⟨dgram.metadata.peer, tx⟩ (self.request tx dgram echo).deadline layout
    pending := self.pending ++ [self.request tx dgram echo] }

lemma outgoing_of_admitted {self : ForwarderShared} {dgram : Downstream.IcmpDatagram}
    (sends : admitted self dgram = some echo) : outgoingEchoRequest dgram.message = some echo := by
  rw [admitted] at sends
  split at sends
  · cases sends
  · split at sends
    · cases sends
    · rename_i outgoing
      split at sends
      · cases sends
        exact outgoing
      · cases sends

variable (self : World)

lemma step_write (tx : Nat) (dgram : Downstream.IcmpDatagram) (sendTo : Except IoError Unit)
    (layout : Nat) :
    self.step (.write tx dgram sendTo layout) = self ∧ self.sends tx dgram sendTo = [] ∨
      ∃ echo ∈ outgoingEchoRequest dgram.message,
        self.step (.write tx dgram sendTo layout) = self.registered tx dgram echo layout ∧
          self.sends tx dgram sendTo = [self.request tx dgram echo] := by
  cases sendTo with
  | error error =>
    have kept : (write self.forwarder self.now tx dgram (.error error) layout).1 =
        self.forwarder := by
      rw [write]
      split <;> rfl
    exact .inl ⟨by simp [step, kept, sends], rfl⟩
  | ok =>
    cases admits : admitted self.forwarder dgram with
    | none => simp [step, write, sends, admits]
    | some echo =>
      refine .inr ⟨echo, outgoing_of_admitted admits, ?_, by simp [sends, admits]⟩
      simp only [step, write, sends, admits, Option.map_some, Option.toList_some]
      rfl

/-- A message is handed to the multiplexer of an entry that it matches. -/
lemma handed_eq_some {self : World} (handed : tx ∈ self.handed msg trySend layout) :
    ∃ quoted ∈ msg.quoted, ∃ entry ∈ self.forwarder.listeners.replyWaiters,
      quoted.eq entry.1 = true ∧ entry.2.wakerTx = tx := by
  rw [Message.quoted]
  rw [World.handed] at handed
  split at handed
  · rw [onMessage] at handed
    cases responded : msg.respondedEchoRequest with
    | error =>
      rw [responded] at handed
      cases handed
    | ok request =>
      rw [responded] at handed
      cases request with
      | none => cases handed
      | some quoted =>
        refine ⟨quoted, rfl, ?_⟩
        change (self.forwarder.listeners.wake quoted trySend layout).2 = some tx at handed
        rw [Listeners.wake] at handed
        cases found : self.forwarder.listeners.replyWaiters.get Echo.eq quoted layout with
        | none =>
          rw [found] at handed
          cases handed
        | some entry =>
          rw [found] at handed
          obtain ⟨mem, matched⟩ := get_eq_some found
          cases trySend with
          | ok =>
            cases handed
            exact ⟨entry, mem, matched, rfl⟩
          | closed | full => cases handed
  · cases handed

/-- What a message does to the table: the waiter that cannot be woken is removed. -/
def woken {ν : Type} (self : World) (msg : Message) (trySend : TrySend) (layout : Nat)
    (table : LooseMap Echo ν) : LooseMap Echo ν :=
  if self.listening = true ∧ trySend ≠ .ok then
    msg.quoted.elim table fun request => table.remove Echo.eq request layout
  else table

lemma step_receive (source : IpAddr) (msg : Message) (trySend : TrySend) (layout : Nat) :
    ∃ listening, self.step (.receive source msg trySend layout) =
      { self with
        forwarder.listeners.replyWaiters :=
          self.woken msg trySend layout self.forwarder.listeners.replyWaiters
        listening } := by
  rw [step, woken]
  by_cases listening : self.listening = true
  · rw [if_pos listening, onMessage, Message.quoted]
    cases msg.respondedEchoRequest with
    | error =>
      rw [Option.elim_none, ite_self]
      exact ⟨false, rfl⟩
    | ok request =>
      refine ⟨self.listening, ?_⟩
      cases request with
      | none =>
        rw [Option.elim_none, ite_self]
        rfl
      | some quoted =>
        simp only [ok_bind, Listeners.wake, Option.elim_some]
        cases found : self.forwarder.listeners.replyWaiters.get Echo.eq quoted layout with
        | none =>
          rw [remove_of_get_eq_none found, ite_self]
          rfl
        | some =>
          cases trySend with
          | ok =>
            rw [if_neg fun both => both.2 rfl]
            rfl
          | closed | full =>
            rw [if_pos ⟨listening, by decide⟩]
            rfl
  · rw [if_neg listening, if_neg (fun both => listening both.1)]
    exact ⟨self.listening, rfl⟩

lemma woken_apart (msg : Message) (trySend : TrySend) (layout : Nat)
    {table : LooseMap Echo ν} (apart : table.Apart Echo.eq) :
    (self.woken msg trySend layout table).Apart Echo.eq ∧
      ∀ entry ∈ self.woken msg trySend layout table, entry ∈ table := by
  rw [woken]
  split
  · cases msg.quoted with
    | none => exact ⟨apart, fun _ => id⟩
    | some => exact ⟨apart.remove, fun _ => mem_of_mem_remove⟩
  · exact ⟨apart, fun _ => id⟩

end World

/-- An entry that is left by the maintenance has not expired. -/
lemma Deadlines.lt_of_mem_removeAll {deadlines : Deadlines} {deadline now : Nat}
    {map : LooseMap Echo ν} {entry : Echo × ν} {layout : Nat → Nat} (apart : map.Apart Echo.eq)
    (mem : entry ∈ map.removeAll Echo.eq
      ((deadlines.expired now).mapIdx fun index request => (request, layout index)))
    (listed : deadlines.Lists deadline entry.1) : now < deadline := by
  by_contra due
  obtain ⟨index, present⟩ :=
    getElem?_of_mem (mem_expired.mpr ⟨deadline, Nat.le_of_not_lt due, listed⟩)
  have removed : (entry.1, layout index) ∈
      (deadlines.expired now).mapIdx fun index request => (request, layout index) := by
    apply mem_of_getElem?
    rw [getElem?_mapIdx, present]
    rfl
  exact ne_of_mem_removeAll apart Echo.eq_refl Echo.eq_comm mem removed rfl

/-! ## Every entry has its request -/

/-- Every entry of the table goes back to a pending request of the same multiplexer, and every
pending request is listed under its deadline. -/
structure Consistent (world : World) : Prop where
  apart : world.forwarder.listeners.replyWaiters.Apart Echo.eq
  owned : ∀ entry ∈ world.forwarder.listeners.replyWaiters,
    ∃ request ∈ world.pending, request.tx = entry.2.wakerTx ∧ request.echo = entry.1
  listed : ∀ request ∈ world.pending,
    world.forwarder.listeners.deadlines.Lists request.deadline request.echo

lemma consistent_start (settings : Settings) : Consistent (.start settings) where
  apart := List.Pairwise.nil
  owned := by
    intro entry mem
    cases mem
  listed := by
    intro request mem
    cases mem

namespace Consistent

variable {world : World}

variable (consistent : Consistent world)

include consistent

variable (dgram : Downstream.IcmpDatagram)

/-- A request whose identifier and sequence number no other multiplexer waits for. -/
lemma registered (own : ∀ request ∈ world.pending, request.echo.SameIds echo → request.tx = tx)
    (layout : Nat) : Consistent (world.registered tx dgram echo layout) where
  apart := consistent.apart.insert
  owned := by
    intro entry mem
    rcases mem_insert mem with old | new | ⟨other, present, matched, new⟩
    · obtain ⟨request, pending, owner⟩ := consistent.owned entry old
      exact ⟨request, mem_append_left _ pending, owner⟩
    · refine ⟨_, mem_append_right _ (mem_singleton_self _), ?_⟩
      rw [new]
      exact ⟨rfl, rfl⟩
    · obtain ⟨request, pending, -, key⟩ := consistent.owned other present
      refine ⟨request, mem_append_left _ pending, ?_, ?_⟩
      · rw [new]
        apply own request pending
        rw [key]
        rw [Echo.eq_comm] at matched
        exact Echo.sameIds_of_eq matched
      · rw [new, key]
  listed := by
    intro request mem
    cases mem_append.mp mem with
    | inl pending => exact lists_push.mpr (.inl (consistent.listed request pending))
    | inr new =>
      cases mem_singleton.mp new
      exact lists_push.mpr (.inr ⟨rfl, rfl⟩)

lemma receive (source : IpAddr) (msg : Message) (trySend : TrySend) (layout : Nat) :
    Consistent (world.step (.receive source msg trySend layout)) := by
  obtain ⟨listening, stepped⟩ := world.step_receive source msg trySend layout
  rw [stepped]
  obtain ⟨apart, fewer⟩ := World.woken_apart world msg trySend layout consistent.apart
  exact ⟨apart, fun entry mem => consistent.owned entry (fewer entry mem), consistent.listed⟩

/-- The entry of an expired request is gone after the maintenance. -/
lemma maintain (layout : Nat → Nat) : Consistent (world.step (.maintain layout)) := by
  rw [World.step]
  split
  · refine ⟨consistent.apart.removeAll, ?_, ?_⟩
    · intro entry mem
      obtain ⟨request, pending, owner, key⟩ := consistent.owned entry (mem_of_mem_removeAll mem)
      refine ⟨request, mem_filter.mpr ⟨pending, ?_⟩, owner, key⟩
      have listed := consistent.listed request pending
      exact decide_eq_true (lt_of_mem_removeAll consistent.apart mem (key ▸ listed))
    · intro request mem
      obtain ⟨pending, ahead⟩ := mem_filter.mp mem
      exact lists_later.mpr ⟨consistent.listed request pending, of_decide_eq_true ahead⟩
  · exact consistent

variable {event : Event}

/-- An undisturbed event keeps the table consistent. -/
lemma step (undisturbed : Undisturbed world event) : Consistent (world.step event) := by
  cases event with
  | listen | elapse => exact ⟨consistent.apart, consistent.owned, consistent.listed⟩
  | write tx dgram sendTo layout =>
    rcases world.step_write tx _ sendTo layout with ⟨same, -⟩ | ⟨echo, outgoing, sent, -⟩
    · rw [same]
      exact consistent
    · rw [sent]
      exact consistent.registered _ (undisturbed echo outgoing) layout
  | receive source msg trySend layout => exact consistent.receive source msg trySend layout
  | maintain layout => exact consistent.maintain layout

/-! ## Isolation -/

/-- A message is handed over for a pending request that it matches. -/
lemma handed {source : IpAddr}
    (undisturbed : Undisturbed world (.receive source msg trySend layout))
    (handed : tx ∈ world.handed msg trySend layout) :
    ∃ request ∈ world.pending, request.tx = tx ∧ world.now ≤ request.deadline ∧
      request.AnsweredBy source msg := by
  obtain ⟨quoted, responded, entry, mem, matched, owner⟩ := World.handed_eq_some handed
  obtain ⟨request, pending, same, key⟩ := consistent.owned entry mem
  rw [← key] at matched
  obtain ⟨intime, shorter, reply⟩ := undisturbed quoted responded request pending matched
  obtain ⟨ids, shared⟩ := Echo.eq_iff.mp matched
  have beginning : quoted.data <+: request.echo.data := by
    cases shared with
    | inl beginning => exact beginning
    | inr longer =>
      have equal := longer.eq_of_length_le shorter
      exact equal ▸ prefix_refl _
  refine ⟨request, pending, same.trans owner, intime, quoted, responded, ids, beginning, ?_⟩
  intro replies
  obtain ⟨whole, origin⟩ := reply replies
  exact ⟨beginning.eq_of_length whole, origin⟩

/-- A request leaves alone what other multiplexers wait for. -/
lemma awaits_registered
    (own : ∀ request ∈ world.pending, request.echo.SameIds echo → request.tx = tx) (layout : Nat)
    {other : Nat} (different : other ≠ tx) {quoted : Echo} (awaits : world.Awaits other quoted) :
    (world.registered tx dgram echo layout).Awaits other quoted := by
  obtain ⟨⟨found, mem, matched⟩, owner⟩ := awaits
  obtain ⟨request, pending, same, key⟩ := consistent.owned found mem
  have apart : ¬quoted.SameIds echo := by
    intro ids
    apply different
    rw [← owner found mem matched, ← same]
    apply own request pending
    have both := Echo.sameIds_of_eq matched
    rw [key]
    exact ⟨both.1.symm.trans ids.1, both.2.symm.trans ids.2⟩
  have unmatched : ∀ key : Echo, echo.eq key = true → quoted.eq key = false := by
    intro key equal
    rw [← Bool.not_eq_true]
    intro matched
    have left := Echo.sameIds_of_eq matched
    have right := Echo.sameIds_of_eq equal
    exact apart ⟨left.1.trans right.1.symm, left.2.trans right.2.symm⟩
  refine ⟨⟨found, mem_insert_of_mem mem ?_, matched⟩, ?_⟩
  · rw [← Bool.not_eq_true]
    intro equal
    rw [unmatched found.1 equal] at matched
    cases matched
  · intro entry present matching
    rcases mem_insert present with old | new | ⟨changed, -, equal, new⟩
    · exact owner entry old matching
    · rw [new, unmatched echo echo.eq_refl] at matching
      cases matching
    · rw [new, unmatched _ equal] at matching
      cases matching

lemma isolated (undisturbed : Undisturbed world event) : Isolated world event := by
  cases event with
  | listen | maintain | elapse => trivial
  | write tx dgram sendTo layout =>
    intro other different quoted awaits
    rcases world.step_write tx _ sendTo layout with ⟨same, -⟩ | ⟨echo, outgoing, sent, -⟩
    · rw [same]
      exact awaits
    · rw [sent]
      exact consistent.awaits_registered _ (undisturbed echo outgoing) layout different awaits
  | receive =>
    intro tx handed
    exact consistent.handed undisturbed handed

end Consistent

/-- Every event of an undisturbed run is isolated. -/
theorem isolated_of_undisturbed (settings : Settings) (events : List Event)
    (undisturbed : EachStep World.step Undisturbed (.start settings) events) :
    EachStep World.step Isolated (.start settings) events :=
  EachStep.of_invariant (fun consistent undisturbed => consistent.step undisturbed)
    (fun consistent undisturbed => consistent.isolated undisturbed)
    (consistent_start settings) undisturbed

/-! ## Runs that are isolated and runs that are not -/

def pingSettings : Settings where
  allowPrivateNetworkConnections := false
  ipv6Available := false
  requestTimeout := 10

def pingedPeer : IpAddr := .v4 (.new 1 1 1 1)

def otherPeer : IpAddr := .v4 (.new 8 8 8 8)

def pingEcho (identifier : UInt16) (data : Bytes) : Echo := ⟨0, identifier, 1, data⟩

def ping (peer : IpAddr) (identifier : UInt16) : Downstream.IcmpDatagram :=
  ⟨⟨peer⟩, .v4 (.echo (pingEcho identifier [97, 98])), 64⟩

def pong (identifier : UInt16) (data : Bytes) : Message :=
  .v4 (.echoReply (pingEcho identifier data))

/-- Two multiplexers ping two peers and get their replies. -/
def separateRun : List Event :=
  [.listen, .write 1 (ping pingedPeer 1) (.ok ()) 0, .write 2 (ping otherPeer 2) (.ok ()) 0,
    .receive otherPeer (pong 2 [97, 98]) .ok 0, .elapse 4,
    .receive pingedPeer (pong 1 [97, 98]) .ok 0]

/-- The second multiplexer takes the identifier and sequence number of the first. -/
def overwritingRun : List Event :=
  [.listen, .write 1 (ping pingedPeer 1) (.ok ()) 0, .write 2 (ping otherPeer 1) (.ok ()) 0]

/-- The reply comes from an address that no one has sent a request to. -/
def spoofedRun : List Event :=
  [.listen, .write 1 (ping pingedPeer 1) (.ok ()) 0, .receive otherPeer (pong 1 [97, 98]) .ok 0]

/-- The reply has none of the payload of the request. -/
def emptiedRun : List Event :=
  [.listen, .write 1 (ping pingedPeer 1) (.ok ()) 0, .receive pingedPeer (pong 1 []) .ok 0]

theorem isolated_separateRun :
    EachStep World.step Undisturbed (.start pingSettings) separateRun ∧
      EachStep World.step Isolated (.start pingSettings) separateRun := by
  have undisturbed : EachStep World.step Undisturbed (.start pingSettings) separateRun := by
    decide
  exact ⟨undisturbed, isolated_of_undisturbed pingSettings separateRun undisturbed⟩

theorem not_isolated_runs :
    ¬EachStep World.step Isolated (.start pingSettings) overwritingRun ∧
      ¬EachStep World.step Isolated (.start pingSettings) spoofedRun ∧
      ¬EachStep World.step Isolated (.start pingSettings) emptiedRun := by
  refine ⟨?_, ?_, ?_⟩
  · intro steps
    have awaits := steps.2.2.1 1 (by decide) (pingEcho 1 [97, 98]) (by decide)
    exact absurd awaits (by decide)
  · intro steps
    have own : HandsOwn _ _ _ _ _ := steps.2.2.1
    exact absurd own (by decide)
  · intro steps
    have own : HandsOwn _ _ _ _ _ := steps.2.2.1
    exact absurd own (by decide)

/-!
## When the ICMP forwarder gives up a request

The deadlines are listed apart from the table of waiting requests. A request that equals one
that still waits takes over its entry, but the deadline of the first one stays listed.
-/

/-- A run of the forwarder in which it is remembered which request registered an entry. -/
structure Watched where
  world : World
  /-- The table, with the deadline of the request that registered each entry. -/
  owners : LooseMap Echo Nat

namespace Watched

def start (settings : Settings) : Watched := ⟨.start settings, []⟩

def deadlines (self : Watched) : Deadlines := self.world.forwarder.listeners.deadlines

/-- What an event does to the table. -/
def follow (self : Watched) : Event → LooseMap Echo Nat
  | .write tx dgram sendTo layout =>
    (self.world.sends tx dgram sendTo).foldl
      (fun owners request => owners.insert Echo.eq request.echo request.deadline layout) self.owners
  | .receive _ msg trySend layout => self.world.woken msg trySend layout self.owners
  | .maintain layout =>
    if self.world.listening then
      self.owners.removeAll Echo.eq
        ((self.deadlines.expired self.world.now).mapIdx fun index request => (request, layout index))
    else self.owners
  | _ => self.owners

def next (self : Watched) (event : Event) : Watched := ⟨self.world.step event, self.follow event⟩

/-- The owners are those of the entries of the table. -/
def SameKeys (self : Watched) : Prop :=
  self.owners.map Prod.fst = self.world.forwarder.listeners.replyWaiters.map Prod.fst

/-- An entry expires only when the deadline of the request that registered it has come. -/
def Punctual (self : Watched) : Event → Prop
  | .maintain layout =>
    ∀ entry ∈ self.owners, entry ∉ self.follow (.maintain layout) → entry.2 ≤ self.world.now
  | _ => True

/-- No request is sent while an equal one is listed under its deadline. -/
def Unlisted (self : Watched) : Event → Prop
  | .write tx dgram sendTo _ =>
    ∀ request ∈ self.world.sends tx dgram sendTo,
      ∀ slot ∈ self.deadlines, ∀ listed ∈ slot.2, request.echo.eq listed = false
  | _ => True

instance (self : Watched) : (event : Event) → Decidable (self.Unlisted event)
  | .write _ _ _ _ => inferInstanceAs (Decidable (∀ _ ∈ _, ∀ _ ∈ _, ∀ _ ∈ _, _ = _))
  | .listen | .receive _ _ _ _ | .maintain _ | .elapse _ => .isTrue trivial

instance (self : Watched) : (event : Event) → Decidable (self.Punctual event)
  | .maintain _ => inferInstanceAs (Decidable (∀ _ ∈ _, _ → _))
  | .listen | .write _ _ _ _ | .receive _ _ _ _ | .elapse _ => .isTrue trivial

/-- Every entry is listed under the deadline of its owner, and no listed request equals
another one. -/
structure Sound (watched : Watched) : Prop where
  sameKeys : watched.SameKeys
  apart : watched.owners.Apart Echo.eq
  listed : ∀ entry ∈ watched.owners, watched.deadlines.Lists entry.2 entry.1
  single : ∀ {first second : Nat} {echo other : Echo}, watched.deadlines.Lists first echo →
    watched.deadlines.Lists second other → echo.eq other = true → first = second

namespace Sound

variable {self : Watched} (sound : self.Sound)

include sound

lemma punctual (event : Event) : self.Punctual event := by
  cases event with
  | maintain =>
    intro entry mem gone
    rw [follow] at gone
    split at gone
    · obtain ⟨key, removed, matched⟩ := exists_of_not_mem_removeAll mem gone
      obtain ⟨index, inside, rfl⟩ := mem_mapIdx.mp removed
      obtain ⟨deadline, due, listed⟩ := mem_expired.mp (getElem_mem _)
      exact sound.single listed (sound.listed entry mem) matched ▸ due
    · exact absurd mem gone
  | listen | write | receive | elapse => trivial

/-- A request that equals no listed one gets an entry of its own. -/
lemma registered (tx : Nat) (dgram : Downstream.IcmpDatagram) (echo : Echo) (layout : Nat)
    (unlisted : ∀ slot ∈ self.deadlines, ∀ listed ∈ slot.2, echo.eq listed = false) :
    Sound ⟨self.world.registered tx dgram echo layout, self.owners.insert Echo.eq echo
      (self.world.request tx dgram echo).deadline layout⟩ := by
  have new : ∀ {deadline : Nat} {other : Echo}, self.deadlines.Lists deadline other →
      echo.eq other = false := by
    rintro deadline other ⟨slot, mem, -, listed⟩
    exact unlisted slot mem other listed
  refine ⟨keys_insert_congr sound.sameKeys, sound.apart.insert, ?_, ?_⟩
  · intro entry mem
    rcases mem_insert mem with old | rfl | ⟨other, present, matched, -⟩
    · exact lists_push.mpr (.inl (sound.listed entry old))
    · exact lists_push.mpr (.inr ⟨rfl, rfl⟩)
    · cases matched.symm.trans (new (sound.listed other present))
  · intro first second one other left right equal
    rcases lists_push.mp left with old | ⟨rfl, rfl⟩
    · rcases lists_push.mp right with older | ⟨rfl, rfl⟩
      · exact sound.single old older equal
      · rw [Echo.eq_comm, new old] at equal
        cases equal
    · rcases lists_push.mp right with older | ⟨rfl, -⟩
      · cases equal.symm.trans (new older)
      · rfl

lemma step {event : Event} (unlisted : self.Unlisted event) : (self.next event).Sound := by
  cases event with
  | listen | elapse => exact ⟨sound.sameKeys, sound.apart, sound.listed, sound.single⟩
  | write tx dgram sendTo layout =>
    rw [next, follow]
    rw [Unlisted] at unlisted
    rcases self.world.step_write tx _ sendTo layout with ⟨same, sends⟩ | ⟨echo, -, sent, sends⟩
    · rw [same, sends]
      exact sound
    · rw [sends, forall_mem_singleton] at unlisted
      rw [sent, sends]
      exact sound.registered tx _ echo layout unlisted
  | receive source msg trySend layout =>
    obtain ⟨listening, stepped⟩ := self.world.step_receive source msg trySend layout
    obtain ⟨apart, fewer⟩ := self.world.woken_apart msg trySend layout sound.apart
    rw [next, stepped, follow]
    refine ⟨?_, apart, fun entry mem => sound.listed entry (fewer entry mem), sound.single⟩
    rw [World.woken, World.woken]
    split
    · cases msg.quoted with
      | none => exact sound.sameKeys
      | some => exact keys_remove_congr sound.sameKeys
    · exact sound.sameKeys
  | maintain =>
    rw [next, World.step, follow]
    split
    · refine ⟨keys_removeAll_congr sound.sameKeys, sound.apart.removeAll, ?_, ?_⟩
      · intro entry mem
        have listed := sound.listed entry (mem_of_mem_removeAll mem)
        exact lists_later.mpr ⟨listed, lt_of_mem_removeAll sound.apart mem listed⟩
      · intro first second echo other left right
        exact sound.single (lists_later.mp left).1 (lists_later.mp right).1
    · exact sound

end Sound

/-- In every run in which no request is sent while an equal one is listed, an entry expires
only when the deadline of the request that registered it has come. -/
theorem punctual_run (settings : Settings) (events : List Event)
    (unlisted : EachStep next Unlisted (start settings) events) :
    EachStep next Punctual (start settings) events ∧
      Always next SameKeys (start settings) events := by
  have start : Sound (start settings) :=
    ⟨rfl, .nil, forall_mem_nil _, fun ⟨_, absent, _⟩ => by cases absent⟩
  exact ⟨.of_invariant (fun sound unlisted => sound.step unlisted)
    (fun sound _ => sound.punctual _) start unlisted,
    .of_invariant Sound (fun sound unlisted => sound.step unlisted) Sound.sameKeys start unlisted⟩

/-- Two requests expire one after the other. -/
def expiringRun : List Event :=
  [.listen, .write 1 (ping pingedPeer 1) (.ok ()) 0, .elapse 5,
    .write 1 (ping pingedPeer 2) (.ok ()) 0, .elapse 5, .maintain id, .elapse 5, .maintain id]

theorem punctual_expiringRun : EachStep next Unlisted (start pingSettings) expiringRun ∧
    EachStep next Punctual (start pingSettings) expiringRun := by
  have unlisted : EachStep next Unlisted (start pingSettings) expiringRun := by decide +kernel
  exact ⟨unlisted, (punctual_run pingSettings expiringRun unlisted).1⟩

/-- The request is repeated after five of its ten seconds. -/
def repeatingRun : List Event :=
  [.listen, .write 1 (ping pingedPeer 1) (.ok ()) 0, .elapse 5,
    .write 1 (ping pingedPeer 1) (.ok ()) 0, .elapse 5, .maintain id]

/-- When the deadline of the first request has come, the entry of the second one is removed,
five seconds before its own. -/
theorem not_punctual_repeatingRun :
    ¬EachStep next Punctual (start pingSettings) repeatingRun := by decide +kernel

end Watched

end TrustTunnel.Endpoint.IcmpForwarder
