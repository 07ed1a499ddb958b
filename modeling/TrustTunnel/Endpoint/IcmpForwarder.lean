import TrustTunnel.Endpoint.IcmpUtils
import TrustTunnel.Endpoint.IoError
import TrustTunnel.Table.LooseMap

/-!
# The ICMP forwarder

One forwarder serves the multiplexers of all clients. It keeps a table of the echo
requests that wait for a reply, keyed by the request, and a list of their deadlines.
A multiplexer is known by the number of its channel; sockets and the wakers of the
maintenance task are left out.
-/

namespace TrustTunnel.Endpoint

open List

namespace Downstream

structure IcmpDatagramMeta where
  peer : IpAddr
  deriving DecidableEq

structure IcmpDatagram where
  metadata : IcmpDatagramMeta
  message : IcmpUtils.Message
  ttl : UInt8
  deriving DecidableEq

end Downstream

/-- `datagram_pipe::SendStatus`. -/
inductive SendStatus where
  | sent
  | dropped
  deriving DecidableEq

namespace IcmpForwarder

open IcmpUtils Table

structure Settings where
  allowPrivateNetworkConnections : Bool
  ipv6Available : Bool
  requestTimeout : Nat

structure ReplyWaiter where
  originalPeer : IpAddr
  wakerTx : Nat
  deriving DecidableEq

/-- The requests that expire at a time, by that time in increasing order. -/
abbrev Deadlines := List (Nat × List Echo)

structure Listeners where
  replyWaiters : LooseMap Echo ReplyWaiter
  deadlines : Deadlines

/-- Which of the raw sockets are open. -/
structure Sockets where
  v4 : Bool
  v6 : Bool

/-- There is a socket for the address family of the peer. -/
def Sockets.reaches (self : Sockets) : IpAddr → Bool
  | .v4 _ => self.v4
  | .v6 _ => self.v6

structure ForwarderShared where
  coreSettings : Settings
  sockets : Sockets
  listeners : Listeners

/-- `mpsc::Sender::try_send`, as the receiving side lets it end. -/
inductive TrySend where
  | ok
  | closed
  | full
  deriving DecidableEq

def outgoingEchoRequest : Message → Option Echo
  | .v4 (.echo echo) => some echo
  | .v6 (.echoRequest echo) => some echo
  | _ => none

def new (coreSettings : Settings) : ForwarderShared where
  coreSettings
  sockets := ⟨false, false⟩
  listeners := ⟨[], []⟩

def initSockets (self : ForwarderShared) : ForwarderShared :=
  { self with sockets := ⟨true, self.coreSettings.ipv6Available⟩ }

namespace Deadlines

/-- The entry of the deadline gets one more request. -/
def push (deadline : Nat) (echo : Echo) : Deadlines → Deadlines
  | [] => [(deadline, [echo])]
  | (key, echoes) :: rest =>
    if deadline < key then (deadline, [echo]) :: (key, echoes) :: rest
    else if deadline = key then (key, echoes ++ [echo]) :: rest
    else (key, echoes) :: push deadline echo rest

/-- The requests whose deadline has come. -/
def expired (now : Nat) (deadlines : Deadlines) : List Echo :=
  (deadlines.filter (·.1 ≤ now)).flatMap Prod.snd

/-- The deadlines that are still to come. -/
def later (now : Nat) (deadlines : Deadlines) : Deadlines := deadlines.filter (now < ·.1)

/-- The request is listed under the deadline. -/
def Lists (deadlines : Deadlines) (deadline : Nat) (echo : Echo) : Prop :=
  ∃ slot ∈ deadlines, slot.1 = deadline ∧ echo ∈ slot.2

variable {deadlines : Deadlines} {deadline now : Nat} {echo : Echo}

lemma lists_cons {slot : Nat × List Echo} :
    Lists (slot :: deadlines) deadline echo ↔
      slot.1 = deadline ∧ echo ∈ slot.2 ∨ deadlines.Lists deadline echo := by
  simp [Lists]

lemma lists_push {newDeadline : Nat} {newEcho : Echo} :
    (deadlines.push newDeadline newEcho).Lists deadline echo ↔
      deadlines.Lists deadline echo ∨ deadline = newDeadline ∧ echo = newEcho := by
  induction deadlines with
  | nil => simp [push, Lists, eq_comm]
  | cons _ _ ih =>
    rw [push]
    split_ifs with before same
    · rw [lists_cons, mem_singleton, or_comm, eq_comm]
    · subst same
      rw [lists_cons, lists_cons, mem_append, mem_singleton, and_or_left, or_right_comm,
        @eq_comm _ deadline]
    · rw [lists_cons, lists_cons, ih, or_assoc]

lemma mem_expired :
    echo ∈ deadlines.expired now ↔ ∃ deadline ≤ now, deadlines.Lists deadline echo := by
  simp only [expired, Lists, mem_flatMap, mem_filter, decide_eq_true_eq]
  constructor
  · rintro ⟨slot, ⟨mem, due⟩, listed⟩
    exact ⟨slot.1, due, slot, mem, rfl, listed⟩
  · rintro ⟨deadline, due, slot, mem, rfl, listed⟩
    exact ⟨slot, ⟨mem, due⟩, listed⟩

lemma lists_later :
    (deadlines.later now).Lists deadline echo ↔ deadlines.Lists deadline echo ∧ now < deadline := by
  simp only [later, Lists, mem_filter, decide_eq_true_eq]
  constructor
  · rintro ⟨slot, ⟨mem, ahead⟩, rfl, listed⟩
    exact ⟨⟨slot, mem, rfl, listed⟩, ahead⟩
  · rintro ⟨⟨slot, mem, rfl, listed⟩, ahead⟩
    exact ⟨slot, ⟨mem, ahead⟩, rfl, listed⟩

end Deadlines

namespace Listeners

/-- What `IcmpSink::write` does to the tables once the request is sent. -/
def register (self : Listeners) (echo : Echo) (waiter : ReplyWaiter) (deadline layout : Nat) :
    Listeners where
  replyWaiters := self.replyWaiters.insert Echo.eq echo waiter layout
  deadlines := self.deadlines.push deadline echo

/-- What `listen` does with the request that a message responds to: the channel that the
message is handed to, if any. -/
def wake (self : Listeners) (req : Echo) (trySend : TrySend) (layout : Nat) :
    Listeners × Option Nat :=
  match self.replyWaiters.get Echo.eq req layout with
  | none => (self, none)
  | some (_, waiter) =>
    match trySend with
    | .ok => (self, some waiter.wakerTx)
    | .closed | .full =>
      ({ self with replyWaiters := self.replyWaiters.remove Echo.eq req layout }, none)

/-- One run of the loop of `maintain_listeners`. -/
def maintain (self : Listeners) (now : Nat) (layout : Nat → Nat) : Listeners where
  replyWaiters := self.replyWaiters.removeAll Echo.eq
    ((self.deadlines.expired now).mapIdx fun index req => (req, layout index))
  deadlines := self.deadlines.later now

end Listeners

/-- The request that `IcmpSink::write` sends and registers, unless it drops the datagram. -/
def admitted (self : ForwarderShared) (dgram : Downstream.IcmpDatagram) : Option Echo :=
  let peerIp := dgram.metadata.peer
  if !self.coreSettings.allowPrivateNetworkConnections && !NetUtils.isGlobalIp peerIp then none
  else
    match outgoingEchoRequest dgram.message with
    | none => none
    | some echo => if self.sockets.reaches peerIp then some echo else none

/-- `IcmpSink::write` of the multiplexer with channel `tx`; `sendTo` is what the socket
returns. -/
def write (self : ForwarderShared) (now tx : Nat) (dgram : Downstream.IcmpDatagram)
    (sendTo : Except IoError Unit) (layout : Nat) : ForwarderShared × Except IoError SendStatus :=
  match admitted self dgram with
  | none => (self, .ok .dropped)
  | some echo =>
    match sendTo with
    | .error error => (self, .error error)
    | .ok () =>
      let waiter : ReplyWaiter := ⟨dgram.metadata.peer, tx⟩
      let deadline := now + self.coreSettings.requestTimeout
      ({ self with listeners := self.listeners.register echo waiter deadline layout },
        .ok .sent)

/-- One round of the loop of `listen`, for a message from one of the sockets. -/
def onMessage (self : ForwarderShared) (reply : Message) (trySend : TrySend) (layout : Nat) :
    Except Fault (ForwarderShared × Option Nat) := do
  match ← reply.respondedEchoRequest with
  | none => return (self, none)
  | some req =>
    let (listeners, handed) := self.listeners.wake req trySend layout
    return ({ self with listeners }, handed)

end IcmpForwarder

end TrustTunnel.Endpoint
