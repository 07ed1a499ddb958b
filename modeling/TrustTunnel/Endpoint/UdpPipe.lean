import TrustTunnel.Endpoint.UdpForwarder
import TrustTunnel.Transition.Trace

/-!
# The UDP pipe of a client

The pipe tracks the address pairs of a client and tells the forwarder about new
and closed ones. Its two directions run in one task: each is either waiting for
its next datagram or for a write to complete, and both are dropped and started
anew at every timer tick.
-/

namespace TrustTunnel.Endpoint.UdpPipe

open Forwarder UdpForwarder

def plainDnsPortNumber : UInt16 := 53

structure PlainDnsInfo where
  pendingQueries : Nat
  deriving DecidableEq

structure UdpConnection where
  lastActivity : Int
  plainDnsInfo : Option PlainDnsInfo
  deriving DecidableEq

inductive UdpConnectionStatus where
  | continue
  | done
  deriving DecidableEq

namespace UdpConnection

/-- The connection that `LeftPipe::on_udp_packet` makes for a new address pair. -/
def new (metadata : Downstream.UdpDatagramMeta) (now : Int) : UdpConnection where
  lastActivity := now
  plainDnsInfo := if metadata.destination.port = plainDnsPortNumber then some ⟨0⟩ else none

def registerOutgoingPacket (self : UdpConnection) (now : Int) : UdpConnection where
  lastActivity := now
  plainDnsInfo := self.plainDnsInfo.map fun info => ⟨info.pendingQueries + 1⟩

def registerIncomingPacket (self : UdpConnection) (now : Int) :
    UdpConnection × UdpConnectionStatus :=
  match self.plainDnsInfo with
  | none => ({ self with lastActivity := now }, .continue)
  | some info =>
    let pendingQueries := info.pendingQueries - 1
    (⟨now, some ⟨pendingQueries⟩⟩, if pendingQueries = 0 then .done else .continue)

end UdpConnection

/-- The pipe, with the table of its forwarder. -/
structure DuplexPipe where
  settings : Settings
  timeout : Nat
  udpConnections : AList fun _ : UdpDatagramMeta => UdpConnection
  connections : Connections
  /-- The address pair of the datagram the left pipe is sending to its peer. -/
  sending : Option UdpDatagramMeta
  /-- The address pair of the datagram the right pipe is writing to the client. -/
  delivering : Option UdpDatagramMeta
  /-- The error that ended the exchange. -/
  failed : Option IoError

/-- What can happen between two steps of the pipe. -/
inductive Event where
  /-- A datagram of the client was read; `socket` is the outcome of making a socket. -/
  | clientDatagram (metadata : Downstream.UdpDatagramMeta) (now : Int)
      (socket : Except IoError Unit)
  /-- Sending to the peer completed. -/
  | sent (result : Except IoError Unit)
  /-- A reply was read from the socket of an address pair. -/
  | peerDatagram (metadata : UdpDatagramMeta)
  /-- Writing a reply to the client completed. -/
  | delivered (now : Int) (result : Except IoError Unit)
  /-- The socket of an address pair failed. -/
  | socketError (metadata : UdpDatagramMeta)
  /-- The timer of the exchange fired. -/
  | timerTick (now : Int)

namespace DuplexPipe

/-- `DuplexPipe::new` over a new forwarder. -/
def new (settings : Settings) (timeout : Nat) : DuplexPipe where
  settings := settings
  timeout := timeout
  udpConnections := ∅
  connections := ∅
  sending := none
  delivering := none
  failed := none

/-- `LeftPipe::on_udp_packet`. -/
def onUdpPacket (self : DuplexPipe) (metadata : Downstream.UdpDatagramMeta) (now : Int)
    (socket : Except IoError Unit) : Except IoError DuplexPipe :=
  match self.udpConnections.lookup (.ofDownstream metadata) with
  | some conn =>
    let conn := conn.registerOutgoingPacket now
    .ok { self with
      udpConnections := self.udpConnections.insert (.ofDownstream metadata) conn }
  | none => do
      let connections ← onNewUdpConnection self.settings self.connections metadata socket
      let conn := (UdpConnection.new metadata now).registerOutgoingPacket now
      return { self with
        udpConnections := self.udpConnections.insert (.ofDownstream metadata) conn
        connections }

/-- `LeftPipe::exchange` up to the write to the peer. -/
def onClientDatagram (self : DuplexPipe) (metadata : Downstream.UdpDatagramMeta) (now : Int)
    (socket : Except IoError Unit) : DuplexPipe :=
  match self.onUdpPacket metadata now socket with
  | .error _ => self
  | .ok self =>
    if .ofDownstream metadata ∈ self.connections then
      { self with sending := some (.ofDownstream metadata) }
    else { self with failed := some (.ofKind .notFound) }

/-- The rest of the write to the peer, in `MultiplexerSink::write`. -/
def onSent (self : DuplexPipe) (metadata : UdpDatagramMeta) : Except IoError Unit → DuplexPipe
  | .error error => { self with failed := some error }
  | .ok _ =>
    if metadata ∈ self.connections then
      { self with
        sending := none
        connections := self.connections.insert metadata ⟨true⟩ }
    else { self with sending := none }

/-- `RightPipe::exchange` behind the write to the client; `metadata` is that of the
reply. -/
def onDelivered (self : DuplexPipe) (metadata : UdpDatagramMeta) (now : Int) :
    Except IoError Unit → DuplexPipe
  | .error error => { self with failed := some error }
  | .ok _ =>
    let self := { self with delivering := none }
    match self.udpConnections.lookup metadata.reversed with
    | none => self
    | some conn =>
      match conn.registerIncomingPacket now with
      | (conn, .continue) =>
        { self with
          udpConnections := self.udpConnections.insert metadata.reversed conn }
      | (conn, .done) =>
        { self with
          udpConnections := (self.udpConnections.insert metadata.reversed
            conn).erase metadata.reversed
          connections := onConnectionClosed self.connections metadata }

/-- `MultiplexerSource::on_socket_error`, and `RightPipe::exchange` on the `UdpClose` it
leads to. -/
def onSocketError (self : DuplexPipe) (metadata : UdpDatagramMeta) : DuplexPipe :=
  if metadata ∈ self.connections then
    { self with
      connections := self.connections.erase metadata
      udpConnections := self.udpConnections.erase metadata }
  else self

/-- The address pairs that were inactive for longer than the timeout. -/
def expired (self : DuplexPipe) (now : Int) : List UdpDatagramMeta :=
  (self.udpConnections.entries.filter fun entry =>
    entry.2.lastActivity < now - self.timeout).map Sigma.fst

/-- Drop one expired address pair. -/
def expire (self : DuplexPipe) (metadata : UdpDatagramMeta) : DuplexPipe :=
  { self with
    udpConnections := self.udpConnections.erase metadata
    connections := onConnectionClosed self.connections metadata }

/-- `on_timer_tick`, after the exchange in progress was dropped. -/
def onTimerTick (self : DuplexPipe) (now : Int) : DuplexPipe :=
  (self.expired now).foldl expire { self with sending := none, delivering := none }

/-- The effect of an event on a running exchange. An event that cannot happen in a state
changes nothing. -/
def handle (self : DuplexPipe) (event : Event) : DuplexPipe :=
  match event, self.sending, self.delivering with
  | .clientDatagram metadata now socket, none, _ => self.onClientDatagram metadata now socket
  | .sent result, some metadata, _ => self.onSent metadata result
  | .peerDatagram metadata, _, none =>
    if metadata ∈ self.connections then { self with delivering := some metadata.reversed }
    else self
  | .delivered now result, _, some metadata => self.onDelivered metadata now result
  | .socketError metadata, _, none => self.onSocketError metadata
  | .timerTick now, _, _ => self.onTimerTick now
  | _, _, _ => self

lemma failed_expire (flows : List UdpDatagramMeta) (pipe : DuplexPipe) :
    (flows.foldl expire pipe).failed = pipe.failed := by
  induction flows generalizing pipe with
  | nil => rfl
  | cons _ _ ih => exact ih _

lemma failed_handle_of_quiet (pipe : DuplexPipe) {event : Event}
    (quiet : match event with
      | .clientDatagram _ _ _ | .sent _ | .delivered _ (.error _) => False
      | _ => True) : (pipe.handle event).failed = pipe.failed := by
  fun_cases pipe.handle event with
  | case1 | case2 => exact quiet.elim
  | case3 | case4 | case8 => rfl
  | case5 now result metadata =>
    revert quiet
    fun_cases pipe.onDelivered _ now result with
    | case1 => exact fun quiet => quiet.elim
    | case2 | case3 | case4 => exact fun _ => rfl
  | case6 =>
    rw [onSocketError]
    split
    · rfl
    · rfl
  | case7 => exact failed_expire _ _

/-- One step of the pipe; a failed exchange is over. -/
def step (self : DuplexPipe) (event : Event) : DuplexPipe :=
  if self.failed = none then self.handle event else self

end DuplexPipe

/-!
## The two tables of UDP flows

The pipe and the forwarder each keep a table of the flows of a client. Every event
but a timer tick keeps the two in step. A tick does so only when every flow that
expires is accompanied by the flow in the opposite direction.
-/

open Transition AList

variable {metadata : Downstream.UdpDatagramMeta}

namespace DuplexPipe

/-- Both tables have the same keys. -/
def InStep (self : DuplexPipe) : Prop :=
  ∀ metadata, metadata ∈ self.udpConnections ↔ metadata ∈ self.connections

/-- An admitted flow that the pipe does not track can be opened by its next datagram. -/
def Reopens (self : DuplexPipe) : Prop :=
  ∀ (metadata : Downstream.UdpDatagramMeta) (now : Int), self.settings.Admits metadata →
    .ofDownstream metadata ∉ self.udpConnections →
    ∃ after, self.onUdpPacket metadata now (.ok ()) = .ok after ∧
      .ofDownstream metadata ∈ after.udpConnections ∧ .ofDownstream metadata ∈ after.connections

/-- If the event is a timer tick, it expires a flow only together with its reverse. -/
def ExpiresBothWays (self : DuplexPipe) : Event → Prop
  | .timerTick now =>
    self.failed = none → ∀ metadata ∈ self.expired now, metadata.reversed ∈ self.expired now
  | _ => True

variable {self : DuplexPipe} {now : Int}

lemma inStep_new (settings : Settings) (timeout : Nat) : (new settings timeout).InStep := by
  intro metadata
  exact iff_of_false (notMem_empty _) (notMem_empty _)

section

variable (inStep : self.InStep)

include inStep

lemma InStep.reopens : self.Reopens := by
  intro metadata now admitted untracked
  have absent : .ofDownstream metadata ∉ self.connections := (inStep _).not.mp untracked
  let conn := (UdpConnection.new metadata now).registerOutgoingPacket now
  refine ⟨{ self with
    udpConnections := self.udpConnections.insert (.ofDownstream metadata) conn
    connections := self.connections.insert (.ofDownstream metadata) ⟨false⟩ }, ?_, ?_, ?_⟩
  · simp only [onUdpPacket, lookup_eq_none.mpr untracked, onNewUdpConnection, admitted, absent,
      not_true_eq_false, if_false, ok_bind]
    rfl
  · exact (mem_insert _).mpr (.inl rfl)
  · exact (mem_insert _).mpr (.inl rfl)

/-! ## Client datagrams and replies -/

/-- The outcome of a successful `on_udp_packet` tracks the flow; the forwarder's table is
untouched unless the flow is new. -/
lemma InStep.onUdpPacket {after : DuplexPipe} {socket : Except IoError Unit}
    (accepted : self.onUdpPacket metadata now socket = .ok after) : after.InStep := by
  revert accepted
  fun_cases self.onUdpPacket _ now socket with
  | case1 _ known =>
    rintro ⟨⟩ key
    have tracked : .ofDownstream metadata ∈ self.udpConnections := lookup_isSome.mp (known ▸ rfl)
    rw [mem_insert, ← inStep key]
    exact or_iff_right_of_imp fun same => same ▸ tracked
  | case2 =>
    intro accepted
    obtain ⟨connections, opened, accepted⟩ := bind_eq_ok.mp accepted
    cases accepted
    intro key
    rw [onNewUdpConnection_ok opened, mem_insert, mem_insert, inStep key]

lemma InStep.onClientDatagram (metadata : Downstream.UdpDatagramMeta) (now : Int)
    (socket : Except IoError Unit) : (self.onClientDatagram metadata now socket).InStep := by
  rw [DuplexPipe.onClientDatagram]
  cases accepted : self.onUdpPacket metadata now socket with
  | error => exact inStep
  | ok =>
    have afterInStep := inStep.onUdpPacket accepted
    dsimp only
    split
    · exact afterInStep
    · exact afterInStep

variable (metadata : UdpDatagramMeta)

lemma InStep.onSent (result : Except IoError Unit) : (self.onSent metadata result).InStep := by
  cases result with
  | error => exact inStep
  | ok =>
    by_cases present : metadata ∈ self.connections
    · rw [DuplexPipe.onSent, if_pos present]
      intro key
      rw [mem_insert, ← inStep key]
      have known : key = metadata → key ∈ self.udpConnections := fun same =>
        (inStep key).mpr (same ▸ present)
      exact (or_iff_right_of_imp known).symm
    · rw [DuplexPipe.onSent, if_neg present]
      exact inStep

lemma InStep.onDelivered (now : Int) (result : Except IoError Unit) :
    (self.onDelivered metadata now result).InStep := by
  cases result with
  | error => exact inStep
  | ok =>
    rw [DuplexPipe.onDelivered]
    cases known : self.udpConnections.lookup metadata.reversed with
    | none => exact inStep
    | some conn =>
      dsimp only
      obtain ⟨updated, status⟩ := conn.registerIncomingPacket now
      cases status with
      | «continue» =>
        have tracked : metadata.reversed ∈ self.udpConnections := lookup_isSome.mp (known ▸ rfl)
        intro key
        rw [mem_insert, ← inStep key]
        exact or_iff_right_of_imp fun same => same ▸ tracked
      | done =>
        intro key
        rw [onConnectionClosed, mem_erase, mem_erase, mem_insert, inStep key]
        constructor
        · rintro ⟨different, rfl | mem⟩
          · exact absurd rfl different
          · exact ⟨different, mem⟩
        · rintro ⟨different, mem⟩
          exact ⟨different, .inr mem⟩

lemma InStep.onSocketError : (self.onSocketError metadata).InStep := by
  by_cases present : metadata ∈ self.connections
  · rw [DuplexPipe.onSocketError, if_pos present]
    intro key
    rw [mem_erase, mem_erase, inStep key]
  · rw [DuplexPipe.onSocketError, if_neg present]
    exact inStep

end

/-! ## Timer ticks -/

variable (flows : List UdpDatagramMeta)

lemma mem_udpConnections_expire (metadata : UdpDatagramMeta) :
    metadata ∈ (flows.foldl expire self).udpConnections ↔
      metadata ∉ flows ∧ metadata ∈ self.udpConnections := by
  induction flows generalizing self with
  | nil => simp
  | cons _ _ ih =>
    rw [List.foldl_cons, ih, expire, mem_erase, List.mem_cons, not_or, and_left_comm, and_assoc]

/-- The forwarder is told the address pair in the wrong direction. -/
lemma mem_connections_expire (metadata : UdpDatagramMeta) :
    metadata ∈ (flows.foldl expire self).connections ↔
      metadata.reversed ∉ flows ∧ metadata ∈ self.connections := by
  induction flows generalizing self with
  | nil => simp
  | cons flow _ ih =>
    have turned : metadata = flow.reversed ↔ metadata.reversed = flow := by
      constructor
      · rintro rfl
        rfl
      · rintro rfl
        rfl
    rw [List.foldl_cons, ih, expire, onConnectionClosed, mem_erase, List.mem_cons,
      not_or, ne_eq, turned, and_left_comm, and_assoc]

lemma mem_udpConnections_of_mem_expired {metadata : UdpDatagramMeta}
    (expired : metadata ∈ self.expired now) : metadata ∈ self.udpConnections := by
  obtain ⟨entry, mem, rfl⟩ := List.mem_map.mp expired
  exact List.mem_keys_of_mem (List.mem_filter.mp mem).1

/-- A tick keeps the tables in step exactly if the expired flows come in pairs. -/
lemma InStep.onTimerTick_iff (inStep : self.InStep) (now : Int) :
    (self.onTimerTick now).InStep ↔
      ∀ metadata ∈ self.expired now, metadata.reversed ∈ self.expired now := by
  have keys (metadata : UdpDatagramMeta) :
      (metadata ∈ (self.onTimerTick now).udpConnections ↔
        metadata ∈ (self.onTimerTick now).connections) ↔
      (metadata ∈ self.udpConnections →
        (metadata ∈ self.expired now ↔ metadata.reversed ∈ self.expired now)) := by
    rw [onTimerTick, mem_udpConnections_expire, mem_connections_expire, ← inStep metadata,
      and_congr_left_iff, not_iff_not]
  rw [InStep, forall_congr' keys]
  constructor
  · intro paired metadata expired
    exact (paired _ (mem_udpConnections_of_mem_expired expired)).mp expired
  · intro closed metadata tracked
    exact ⟨closed _, closed _⟩

/-! ## Runs -/

lemma InStep.handle_iff (inStep : self.InStep) (running : self.failed = none)
    (event : Event) : (self.handle event).InStep ↔ self.ExpiresBothWays event := by
  fun_cases self.handle event with
  | case1 metadata now socket => exact iff_of_true (inStep.onClientDatagram _ now socket) trivial
  | case2 result metadata => exact iff_of_true (inStep.onSent _ result) trivial
  | case3 | case4 => exact iff_of_true inStep trivial
  | case5 now result metadata => exact iff_of_true (inStep.onDelivered _ now result) trivial
  | case6 metadata => exact iff_of_true (inStep.onSocketError _) trivial
  | case7 now =>
    refine (inStep.onTimerTick_iff now).trans ?_
    exact ⟨fun paired _ => paired, fun paired => paired running⟩
  | case8 _ notTick =>
    refine iff_of_true inStep ?_
    cases event with
    | timerTick now => exact absurd rfl (notTick now)
    | _ => trivial

lemma InStep.step_iff (inStep : self.InStep) (event : Event) :
    (self.step event).InStep ↔ self.ExpiresBothWays event := by
  rw [step]
  split
  · rename_i running
    exact inStep.handle_iff running event
  · rename_i running
    refine iff_of_true inStep ?_
    cases event with
    | timerTick =>
      intro unfailed
      exact absurd unfailed running
    | _ => trivial

/-- From empty tables, the tables stay in step, and untracked flows can be opened,
throughout a run if and only if each of its ticks expires flows only together with
their reverse. -/
theorem always_inStep_iff (settings : Settings) (timeout : Nat) (events : List Event) :
    Always step (fun state => state.InStep ∧ state.Reopens) (new settings timeout) events ↔
      EachStep step ExpiresBothWays (new settings timeout) events := by
  have initial := inStep_new settings timeout
  apply always_iff_eachStep
  · intro state event holds
    rw [← holds.1.step_iff event]
    constructor
    · intro next
      exact next.1
    · intro next
      exact ⟨next, next.reopens⟩
  · exact ⟨initial, initial.reopens⟩

def idleFlow : Downstream.UdpDatagramMeta where
  source := ⟨.v4 (.new 10 0 0 2), 40000⟩
  destination := ⟨.v4 (.new 8 8 8 8), 443⟩
  appName := none

/-- One datagram is sent, and the flow is idle until it expires. -/
def idleRun : List Event := [.clientDatagram idleFlow 0 (.ok ()), .sent (.ok ()), .timerTick 31]

/-- An expired flow stays in the table of the forwarder and cannot be opened again. -/
theorem not_always_inStep_idleRun :
    ¬Always step (fun state => state.InStep ∧ state.Reopens) (new ⟨false⟩ 30) idleRun ∧
      Settings.Admits ⟨false⟩ idleFlow ∧
      (idleRun.foldl step (new ⟨false⟩ 30)).udpConnections.keys = [] ∧
      (idleRun.foldl step (new ⟨false⟩ 30)).connections.keys = [.ofDownstream idleFlow] ∧
      (idleRun.foldl step (new ⟨false⟩ 30)).onUdpPacket idleFlow 32 (.ok ()) =
        .error (.other "Already present") := by
  refine ⟨?_, by decide, by decide, by decide, rfl⟩
  intro always
  have inStep : (idleRun.foldl step (new ⟨false⟩ 30)).InStep := always.2.2.2.1
  exact absurd (inStep (.ofDownstream idleFlow)) (by decide)

end DuplexPipe

/-!
## Isolation of the UDP flows of a client

All flows of a client share one loop. A pipe that isolates them would give up a datagram that
cannot be sent and go on. `LeftPipe::exchange` returns the error instead, and the flows of the
client are forwarded as they should be as long as no datagram fails to be written.
-/

/-- The pipe of a client, with the datagrams that it forwards. -/
structure Exchange where
  pipe : DuplexPipe
  /-- The datagram that was taken last. -/
  datagram : Option Downstream.UdpDatagram
  /-- The datagrams that were sent to their peers. -/
  sent : List Downstream.UdpDatagram

inductive ExchangeEvent where
  /-- A datagram was read from the stream of the client. -/
  | read (dgram : Downstream.UdpDatagram) (now : Int) (socket : Except IoError Unit)
  /-- The stream of the client failed or ended. -/
  | clientFailed (error : IoError)
  | sent (result : Except IoError Unit)
  | peerDatagram (metadata : UdpDatagramMeta)
  /-- Writing a reply to the stream of the client completed. -/
  | delivered (now : Int) (result : Except IoError Unit)
  | socketError (metadata : UdpDatagramMeta)
  | timerTick (now : Int)

/-- The stream of the client fails with the event. -/
def ExchangeEvent.failsClient : ExchangeEvent → Bool
  | clientFailed _ => true
  | delivered _ (.error _) => true
  | _ => false

namespace Exchange

def new (settings : Settings) (timeout : Nat) : Exchange where
  pipe := .new settings timeout
  datagram := none
  sent := []

variable (self : Exchange)

/-- The event is for the pipe alone. -/
def pass (event : Event) : Exchange := { self with pipe := self.pipe.handle event }

/-- `LeftPipe::exchange` and `RightPipe::exchange`, as long as neither has failed. -/
def handle : ExchangeEvent → Exchange
  | .read dgram now socket =>
    if self.pipe.sending = none then
      { self.pass (.clientDatagram dgram.metadata now socket) with datagram := some dgram }
    else self
  | .clientFailed error =>
    if self.pipe.sending = none then { self with pipe := { self.pipe with failed := some error } }
    else self
  | .sent result =>
    match self.pipe.sending, result with
    | some _, .ok _ => { self.pass (.sent result) with sent := self.sent ++ self.datagram.toList }
    | _, _ => self.pass (.sent result)
  | .peerDatagram metadata => self.pass (.peerDatagram metadata)
  | .delivered now result => self.pass (.delivered now result)
  | .socketError metadata => self.pass (.socketError metadata)
  | .timerTick now => self.pass (.timerTick now)

/-- One step of the exchange, which is over once it has failed. -/
def next (event : ExchangeEvent) : Exchange :=
  if self.pipe.failed = none then self.handle event else self

/-! ## What is required -/

/-- The error is ignored, and the left pipe waits for the next datagram. -/
def recover : Exchange :=
  if self.pipe.failed = none then self
  else { self with pipe := { self.pipe with failed := none, sending := none } }

/-- A pipe that fails together with the stream of the client only. -/
def isolatedNext (event : ExchangeEvent) : Exchange :=
  if self.pipe.failed = none then
    if event.failsClient then self.handle event else (self.handle event).recover
  else self

/-- The datagram may be sent: its flow is tracked or can be opened, and has a socket. -/
def Admits (dgram : Downstream.UdpDatagram) (now : Int) (socket : Except IoError Unit) : Prop :=
  ∃ pipe, self.pipe.onUdpPacket dgram.metadata now socket = .ok pipe ∧
    .ofDownstream dgram.metadata ∈ pipe.connections

/-- The step of a running pipe from which nobody but the flow of its event suffers. -/
structure Isolates (current : Exchange) (event : ExchangeEvent) (after : Exchange) : Prop where
  goesOn : event.failsClient = false → after.pipe.failed = none
  takes : ∀ dgram now socket, event = .read dgram now socket →
    current.pipe.sending = none → current.Admits dgram now socket →
    after.datagram = some dgram ∧ after.pipe.sending = some (.ofDownstream dgram.metadata)
  sends : ∀ result, event = .sent result → current.pipe.sending ≠ none →
    after.pipe.sending = none ∧
      after.sent = current.sent ++ if result.isOk then current.datagram.toList else []

/-- What was sent is what a pipe that isolates the flows would have sent, and the exchange has
failed only if that one has. -/
def Agree (pair : Exchange × Exchange) : Prop :=
  pair.1.sent = pair.2.sent ∧ (pair.2.pipe.failed = none → pair.1.pipe.failed = none)

/-- No datagram fails to be written: a flow that is known has a socket, and sending succeeds. -/
def Writes (event : ExchangeEvent) : Prop :=
  self.pipe.failed = none →
    match event with
    | .read dgram _ _ =>
      self.pipe.sending = none → .ofDownstream dgram.metadata ∈ self.pipe.udpConnections →
        .ofDownstream dgram.metadata ∈ self.pipe.connections
    | .sent (.error _) => self.pipe.sending = none
    | _ => True

/-- The pipe and one that isolates the flows, side by side. -/
def bothNext (pair : Exchange × Exchange) (event : ExchangeEvent) : Exchange × Exchange :=
  (pair.1.next event, pair.2.isolatedNext event)

variable {self} {event : ExchangeEvent} {socket : Except IoError Unit} {pipe : DuplexPipe}
  {now : Int}

/-! ## When the exchange fails -/

/-- A flow that is known keeps what it has, and a new one gets a socket. -/
lemma onUdpPacket_spec {pipe after : DuplexPipe}
    (accepted : pipe.onUdpPacket metadata now socket = .ok after) :
    after.failed = pipe.failed ∧ (.ofDownstream metadata ∈ after.connections ↔
      (.ofDownstream metadata ∈ pipe.udpConnections →
        .ofDownstream metadata ∈ pipe.connections)) := by
  revert accepted
  fun_cases pipe.onUdpPacket _ now socket with
  | case1 _ found =>
    rintro ⟨⟩
    have known := AList.lookup_isSome.mp (Option.isSome_iff_exists.mpr ⟨_, found⟩)
    exact ⟨rfl, fun present _ => present, fun keeps => keeps known⟩
  | case2 unknown =>
    intro accepted
    obtain ⟨connections, opened, accepted⟩ := bind_eq_ok.mp accepted
    cases accepted
    refine ⟨rfl, iff_of_true ?_ fun known => absurd known (AList.lookup_eq_none.mp unknown)⟩
    rw [onNewUdpConnection_ok opened]
    exact (AList.mem_insert _).mpr (.inl rfl)

lemma unknown_of_onUdpPacket {error : IoError}
    (refused : pipe.onUdpPacket metadata now socket = .error error) :
    .ofDownstream metadata ∉ pipe.udpConnections := by
  revert refused
  fun_cases pipe.onUdpPacket _ now socket with
  | case1 => exact fun refused => by cases refused
  | case2 unknown => exact fun _ => AList.lookup_eq_none.mp unknown

/-- What becomes of a datagram of the client when the left pipe is ready for it. -/
lemma handle_clientDatagram (ready : pipe.sending = none) (metadata : Downstream.UdpDatagramMeta)
    (now : Int) (socket : Except IoError Unit) :
    pipe.handle (.clientDatagram metadata now socket) =
      pipe.onClientDatagram metadata now socket := by
  simp [DuplexPipe.handle, ready]

lemma handle_sent {metadata : UdpDatagramMeta} (sending : pipe.sending = some metadata)
    (result : Except IoError Unit) : pipe.handle (.sent result) = pipe.onSent metadata result := by
  simp [DuplexPipe.handle, sending]

open DuplexPipe

/-- An exchange fails by itself exactly if a datagram fails to be written. -/
lemma failed_handle_iff (running : self.pipe.failed = none) (intact : event.failsClient = false) :
    (self.handle event).pipe.failed = none ↔ self.Writes event := by
  cases event with
  | read dgram now socket =>
    simp only [handle, Writes, running, forall_const]
    by_cases ready : self.pipe.sending = none
    · simp only [ready, if_true, forall_const, pass, handle_clientDatagram ready, onClientDatagram]
      cases accepted : self.pipe.onUdpPacket dgram.metadata now socket with
      | error => simp [running, unknown_of_onUdpPacket accepted]
      | ok pipe =>
        obtain ⟨still, known⟩ := onUdpPacket_spec accepted
        rw [← known]
        by_cases present : .ofDownstream dgram.metadata ∈ pipe.connections
        · simp [present, still, running]
        · simp [present]
    · simp [ready, running]
  | clientFailed => cases intact
  | sent result =>
    cases sending : self.pipe.sending with
    | none => cases result <;> simp [handle, Writes, sending, pass, DuplexPipe.handle, running]
    | some =>
      cases result with
      | error => simp [handle, Writes, sending, pass, handle_sent sending, onSent, running]
      | ok =>
        simp only [handle, Writes, sending, pass, handle_sent sending, onSent,
          implies_true, iff_true]
        split
        · exact running
        · exact running
  | peerDatagram | socketError | timerTick =>
    exact iff_of_true ((self.pipe.failed_handle_of_quiet trivial).trans running) fun _ => trivial
  | delivered _ result =>
    cases result with
    | error => cases intact
    | ok => exact iff_of_true ((self.pipe.failed_handle_of_quiet trivial).trans running) fun _ => trivial

/-! ## A pipe that isolates the flows -/

section

variable (running : self.pipe.failed = none)

include running

lemma recover_of_running : self.recover = self := by
  rw [recover, if_pos running]

lemma isolatedNext_of_running (intact : event.failsClient = false) :
    self.isolatedNext event = (self.handle event).recover := by
  rw [isolatedNext, if_pos running, intact]
  rfl

lemma handle_read {dgram : Downstream.UdpDatagram} (ready : self.pipe.sending = none)
    (admitted : self.Admits dgram now socket) :
    (self.handle (.read dgram now socket)).recover.datagram = some dgram ∧
      (self.handle (.read dgram now socket)).recover.pipe.sending =
        some (.ofDownstream dgram.metadata) := by
  obtain ⟨pipe, accepted, present⟩ := admitted
  have taken : self.handle (.read dgram now socket) =
      { self with
        pipe := { pipe with sending := some (.ofDownstream dgram.metadata) }
        datagram := some dgram } := by
    simp only [handle, ready, if_true, pass, handle_clientDatagram ready,
      onClientDatagram, accepted, present]
  have still := (onUdpPacket_spec accepted).1.trans running
  rw [taken, recover_of_running still]
  exact ⟨rfl, rfl⟩

/-- When a send completes, the left pipe is ready again. -/
lemma handle_sent_recover (sending : self.pipe.sending ≠ none) (result : Except IoError Unit) :
    (self.handle (.sent result)).recover.pipe.sending = none ∧
      (self.handle (.sent result)).recover.sent =
        self.sent ++ if result.isOk then self.datagram.toList else [] := by
  obtain ⟨metadata, sending⟩ := Option.ne_none_iff_exists'.mp sending
  cases result with
  | error fault =>
    have failed : self.handle (.sent (.error fault)) =
        { self with pipe := { self.pipe with failed := some fault } } := by
      simp only [handle, sending, pass, handle_sent sending, onSent]
    rw [failed, recover]
    exact ⟨rfl, (List.append_nil _).symm⟩
  | ok =>
    have done : (self.handle (.sent (.ok ()))).pipe.sending = none ∧
        (self.handle (.sent (.ok ()))).pipe.failed = none := by
      simp only [handle, sending, pass, handle_sent sending, onSent]
      split
      · exact ⟨rfl, running⟩
      · exact ⟨rfl, running⟩
    rw [recover_of_running done.2]
    refine ⟨done.1, ?_⟩
    simp only [handle, sending]
    rfl

lemma isolates_isolatedNext : Isolates self event (self.isolatedNext event) where
  goesOn intact := by
    rw [isolatedNext_of_running running intact]
    rw [recover]
    split
    case isTrue running => exact running
    case isFalse => rfl
  takes dgram now socket isRead ready admitted := by
    rw [isRead, isolatedNext_of_running running rfl]
    exact handle_read running ready admitted
  sends result isSent sending := by
    rw [isSent, isolatedNext_of_running running rfl]
    exact handle_sent_recover running sending result

end

/-- The step of the pipe is that of one that isolates the flows if no datagram fails to be
written. -/
lemma next_eq_isolatedNext (writes : self.Writes event) :
    self.next event = self.isolatedNext event := by
  rw [next, isolatedNext]
  split
  case isFalse => rfl
  case isTrue running =>
    cases intact : event.failsClient with
    | true => rfl
    | false =>
      rw [if_neg Bool.false_ne_true,
        recover_of_running ((failed_handle_iff running intact).mpr writes)]

lemma writes_of_agree (agree : Agree (bothNext (self, self) event)) : self.Writes event := by
  intro running
  cases intact : event.failsClient with
  | true =>
    cases event with
    | clientFailed | delivered => trivial
    | read | sent | peerDatagram | socketError | timerTick => cases intact
  | false =>
    have isolates : Isolates self event (self.isolatedNext event) := isolates_isolatedNext running
    have goesOn := isolates.goesOn intact
    have still := agree.2 goesOn
    rw [bothNext, next, if_pos running] at still
    exact (failed_handle_iff running intact).mp still running

lemma always_agree_iff (events : List ExchangeEvent) :
    Always bothNext Agree (self, self) events ↔ EachStep next Writes self events := by
  induction events generalizing self with
  | nil => exact iff_of_true ⟨rfl, fun running => running⟩ trivial
  | cons event _ ih =>
    have same (writes : self.Writes event) :
        bothNext (self, self) event = (self.next event, self.next event) := by
      rw [bothNext, ← next_eq_isolatedNext writes]
    constructor
    · rintro ⟨-, rest⟩
      have writes := writes_of_agree rest.head
      rw [same writes] at rest
      exact ⟨writes, ih.mp rest⟩
    · rintro ⟨writes, rest⟩
      refine ⟨⟨rfl, fun running => running⟩, ?_⟩
      rw [same writes]
      exact ih.mpr rest

/-- A pipe that isolates the flows fails with the stream of the client only, and the pipe is one
throughout a run if and only if no datagram of the run fails to be written. -/
theorem flows_isolated_iff (settings : Settings) (timeout : Nat) (events : List ExchangeEvent) :
    EachStep isolatedNext
        (fun current event => current.pipe.failed = none →
          Isolates current event (current.isolatedNext event)) (new settings timeout) events ∧
      (Always bothNext Agree (new settings timeout, new settings timeout) events ↔
        EachStep next Writes (new settings timeout) events) := by
  refine ⟨?_, always_agree_iff events⟩
  exact (eachStep_true _ events).imp fun _ _ _ => isolates_isolatedNext

/-- A datagram from one address and port to another. -/
def datagramOf (source dest : SocketAddr) : Downstream.UdpDatagram where
  metadata := ⟨source, dest, none⟩
  payload := [1]

def near : SocketAddr := ⟨.v4 (.new 8 8 4 4), 40000⟩

def far : SocketAddr := ⟨.v4 (.new 8 8 8 8), 443⟩

def distant : SocketAddr := ⟨.v4 (.new 1 1 1 1), 443⟩

/-- The peer of the first flow is unreachable; then there is a datagram of a second flow. -/
def refusedRun : List ExchangeEvent :=
  [.read (datagramOf near far) 0 (.ok ()), .sent (.error (.other "Connection refused")),
    .read (datagramOf near distant) 1 (.ok ()), .sent (.ok ())]

/-- A flow expires while the opposite one is in use: the forwarder drops the wrong one. -/
def crossedRun : List ExchangeEvent :=
  [.read (datagramOf near far) 0 (.ok ()), .sent (.ok ()),
    .read (datagramOf far near) 25 (.ok ()), .sent (.ok ()), .timerTick 31,
    .read (datagramOf far near) 32 (.ok ()),
    .read (datagramOf near distant) 33 (.ok ()), .sent (.ok ())]

/-- One datagram that fails to be written ends the exchange for all flows. -/
theorem not_flows_isolated :
    let start := new ⟨false⟩ 30
    (¬Always bothNext Agree (start, start) refusedRun ∧
        (refusedRun.foldl next start).pipe.failed = some (.other "Connection refused") ∧
        (refusedRun.foldl next start).sent = [] ∧
        (refusedRun.foldl isolatedNext start).sent = [datagramOf near distant]) ∧
      ¬Always bothNext Agree (start, start) crossedRun ∧
      (crossedRun.foldl next start).pipe.failed = some (.ofKind .notFound) ∧
      (crossedRun.foldl next start).sent = [datagramOf near far, datagramOf far near] ∧
      (crossedRun.foldl isolatedNext start).sent =
        [datagramOf near far, datagramOf far near, datagramOf near distant] := by
  refine ⟨⟨?_, by decide, by decide, by decide⟩, ?_, by decide, by decide, by decide⟩
  · intro always
    exact absurd always.last.1 (by decide)
  · intro always
    exact absurd always.last.1 (by decide)

end Exchange

end TrustTunnel.Endpoint.UdpPipe
