import Mathlib.Data.List.AList
import TrustTunnel.Endpoint.ForwardedStream
import TrustTunnel.Transition.Trace

/-!
# HTTP/3 streams

The codec keeps a table of the streams of a session. The halves of a stream are owned by
other tasks, which drop them at any time; they send messages to the codec through one
channel, and the codec notifies each half through a channel of its own. The events of the
QUIC socket and the messages of the halves arrive in any order.
-/

namespace TrustTunnel.Endpoint

open Transition

namespace Http3Codec

/-- `quiche::Shutdown`. -/
inductive Shutdown where
  | read
  | write
  deriving DecidableEq

inductive QuicSocketEvent where
  | request (streamId : UInt64) (req : RequestHeaders)
  | readable (streamId : UInt64)
  | writable (streamIds : List UInt64)
  | close (streamId : UInt64)

/-- Calls to the socket that return nothing. -/
inductive SocketCall where
  | shutdownStream (streamId : UInt64) (direction : Shutdown)
  | notifyStreamWaitingWritable (streamId : UInt64)
  deriving DecidableEq

inductive StreamMessage where
  | waitingWritable (streamId : UInt64)
  /-- No direction means both directions. -/
  | shutdown (streamId : UInt64) (direction : Option Shutdown)

def StreamMessage.streamId : StreamMessage → UInt64
  | waitingWritable streamId => streamId
  | shutdown streamId _ => streamId

/-- The codec's end of a stream, with the numbers of the channels to its halves. -/
structure Stream where
  readableEventTx : Nat
  writableEventTx : Nat
  readShutdown : Bool
  writeShutdown : Bool

structure StreamSource where
  streamId : UInt64
  request : RequestHeaders
  readableEventRx : Nat

structure StreamSink where
  streamId : UInt64
  writableEventRx : Nat

/-- The result of `try_send`. -/
inductive TrySend where
  | sent
  | full
  | closed

/-- What one round of the loop in `listen` leads to. -/
inductive Outcome where
  | continues
  | returned (source : StreamSource) (sink : StreamSink)
  | failed (error : IoError)

/-- Room for the type and the length of a data frame and one byte of data. -/
def minUsableQuicStreamCapacity : Nat := 1 + 1 + 1

end Http3Codec

/-- The codec together with the halves of streams that have not been dropped, and the
channels between them. -/
structure Http3Codec where
  streams : AList fun _ : UInt64 => Http3Codec.Stream
  /-- Messages of the halves that the codec has not received yet. -/
  streamRx : List Http3Codec.StreamMessage
  sources : List Http3Codec.StreamSource
  sinks : List Http3Codec.StreamSink
  /-- The channels to halves that hold a notification; each has room for one. -/
  notified : List Nat
  nextChannel : Nat
  socketCalls : List Http3Codec.SocketCall

namespace Http3Codec

def new : Http3Codec := ⟨∅, [], [], [], [], 0, []⟩

/-! ## Stream messages -/

def call (self : Http3Codec) (socketCall : SocketCall) : Http3Codec :=
  { self with socketCalls := self.socketCalls ++ [socketCall] }

def onStreamShutdown (self : Http3Codec) (streamId : UInt64) (direction : Option Shutdown) :
    Except IoError Http3Codec :=
  match self.streams.lookup streamId with
  | none => .error (.ofKind .notFound)
  | some stream =>
    let closeRead := decide (direction ≠ some .write)
    let closeWrite := decide (direction ≠ some .read)
    let self :=
      if closeRead && !stream.readShutdown then self.call (.shutdownStream streamId .read)
      else self
    let self :=
      if closeWrite && !stream.writeShutdown then self.call (.shutdownStream streamId .write)
      else self
    let stream := { stream with
      readShutdown := stream.readShutdown || closeRead
      writeShutdown := stream.writeShutdown || closeWrite }
    .ok { self with
      streams :=
        if stream.readShutdown && stream.writeShutdown then self.streams.erase streamId
        else self.streams.insert streamId stream }

def onStreamMessage (self : Http3Codec) : StreamMessage → Except IoError Http3Codec
  | .waitingWritable streamId => .ok (self.call (.notifyStreamWaitingWritable streamId))
  | .shutdown streamId direction => self.onStreamShutdown streamId direction

/-! ## Socket events -/

/-- Send a notification through a channel; `received` says whether the half at its other end
still exists. -/
def trySend (self : Http3Codec) (channel : Nat) (got : Bool) : Http3Codec × TrySend :=
  if got = false then (self, .closed)
  else if channel ∈ self.notified then (self, .full)
  else ({ self with notified := channel :: self.notified }, .sent)

def sourceExists (self : Http3Codec) (channel : Nat) : Bool :=
  self.sources.any (·.readableEventRx == channel)

def sinkExists (self : Http3Codec) (channel : Nat) : Bool :=
  self.sinks.any (·.writableEventRx == channel)

def onStreamReadable (self : Http3Codec) (streamId : UInt64) : Except IoError Http3Codec :=
  match self.streams.lookup streamId with
  | none => .error (.ofKind .notFound)
  | some stream =>
    match self.trySend stream.readableEventTx (self.sourceExists stream.readableEventTx) with
    | (self, .sent) => .ok self
    | (self, .full) => .ok self
    | (_, .closed) => .error (.other ("Failed to send stream readable event: " ++ "channel closed"))

/-- One round of `notify_writable_streams`; errors are only logged. -/
def notifyWritableStream (capacity : UInt64 → Except IoError Nat) (self : Http3Codec)
    (streamId : UInt64) : Http3Codec :=
  match self.streams.lookup streamId with
  | none => self
  | some stream =>
    match capacity streamId with
    | .error _ => self
    | .ok capacity =>
      if capacity < minUsableQuicStreamCapacity then
        self.call (.notifyStreamWaitingWritable streamId)
      else
        (self.trySend stream.writableEventTx (self.sinkExists stream.writableEventTx)).1

def notifyWritableStreams (capacity : UInt64 → Except IoError Nat) (self : Http3Codec)
    (streamIds : List UInt64) : Http3Codec :=
  streamIds.foldl (notifyWritableStream capacity) self

def onRequest (self : Http3Codec) (streamId : UInt64) (req : RequestHeaders) :
    Http3Codec × StreamSource × StreamSink :=
  let source : StreamSource := ⟨streamId, req, self.nextChannel⟩
  let sink : StreamSink := ⟨streamId, self.nextChannel + 1⟩
  let stream : Stream := ⟨self.nextChannel, self.nextChannel + 1, false, false⟩
  ({ self with
      streams := self.streams.insert streamId stream
      sources := source :: self.sources
      sinks := sink :: self.sinks
      nextChannel := self.nextChannel + 2 }, source, sink)

def onSocketEvent (capacity : UInt64 → Except IoError Nat) (self : Http3Codec) :
    QuicSocketEvent → Except IoError (Http3Codec × Option (StreamSource × StreamSink))
  | .request streamId req =>
    let (self, stream) := self.onRequest streamId req
    .ok (self, some stream)
  | .readable streamId => do
      let self ← self.onStreamReadable streamId
      return (self, none)
  | .writable streamIds => .ok (self.notifyWritableStreams capacity streamIds, none)
  | .close streamId =>
    -- the client finished the request body; an error is dropped
    match self.onStreamShutdown streamId (some .read) with
    | .ok self => .ok (self, none)
    | .error _ => .ok (self, none)

/-! ## The loop of `listen` -/

/-- The senders of stream messages: that of the codec itself and one in each half. -/
def senders (self : Http3Codec) : Nat := 1 + self.sources.length + self.sinks.length

/-- What is received of the stream messages: nothing yet, a message, or the end. -/
inductive Received where
  | pending
  | message (msg : StreamMessage) (rest : List StreamMessage)
  | ended

def recv (self : Http3Codec) : Received :=
  match self.streamRx with
  | msg :: rest => .message msg rest
  | [] => if self.senders = 0 then .ended else .pending

/-- A round in which the socket is ready, with an event or a failure. -/
def onSocketReady (capacity : UInt64 → Except IoError Nat) (self : Http3Codec) :
    Except IoError QuicSocketEvent → Http3Codec × Outcome
  | .error error => (self, .failed error)
  | .ok event =>
    match self.onSocketEvent capacity event with
    | .error error => (self, .failed error)
    | .ok (self, none) => (self, .continues)
    | .ok (self, some (source, sink)) => (self, .returned source sink)

/-- A round in which a stream message is waited for, which is only done while there are
streams. -/
def onMessageReady (self : Http3Codec) : Http3Codec × Outcome :=
  if self.streams.keys.isEmpty then (self, .continues)
  else
    match self.recv with
    | .pending => (self, .continues)
    | .ended => (self, .failed (.other "Inconsistent state: All stream event senders are closed"))
    | .message msg rest =>
      let self := { self with streamRx := rest }
      match self.onStreamMessage msg with
      | .ok self => (self, .continues)
      | .error _ =>
        match self.onStreamShutdown msg.streamId none with
        | .ok self => (self, .continues)
        | .error _ => (self, .continues)

/-! ## Runs -/

/-- A round of `listen`, or something one of the halves does. -/
inductive Event where
  /-- The socket is ready; `capacity` is the capacity of each stream at that time. -/
  | socket (result : Except IoError QuicSocketEvent) (capacity : UInt64 → Except IoError Nat)
  | message
  | sourceDropped (channel : Nat)
  | sinkDropped (channel : Nat)
  /-- A half takes the notification out of its channel. -/
  | notificationTaken (channel : Nat)
  /-- A sink waits for capacity, or for room for its response. -/
  | sinkWaits (channel : Nat)
  /-- A sink has sent a response that ends the stream. -/
  | sinkResponded (channel : Nat)

def send (self : Http3Codec) (msgs : List StreamMessage) : Http3Codec :=
  { self with streamRx := self.streamRx ++ msgs }

/-- The sources with a channel; there is at most one. -/
def sourcesAt (self : Http3Codec) (channel : Nat) : List StreamSource :=
  self.sources.filter (·.readableEventRx == channel)

def sinksAt (self : Http3Codec) (channel : Nat) : List StreamSink :=
  self.sinks.filter (·.writableEventRx == channel)

def step (self : Http3Codec) : Event → Http3Codec × Outcome
  | .socket result capacity => self.onSocketReady capacity result
  | .message => self.onMessageReady
  | .sourceDropped channel =>
    (send { self with sources := self.sources.filter (·.readableEventRx != channel) }
      ((self.sourcesAt channel).map fun source => .shutdown source.streamId (some .read)),
      .continues)
  | .sinkDropped channel =>
    (send { self with sinks := self.sinks.filter (·.writableEventRx != channel) }
      ((self.sinksAt channel).map fun sink => .shutdown sink.streamId (some .write)), .continues)
  | .notificationTaken channel =>
    ({ self with notified := self.notified.filter (· ≠ channel) }, .continues)
  | .sinkWaits channel =>
    (self.send ((self.sinksAt channel).map fun sink => .waitingWritable sink.streamId), .continues)
  | .sinkResponded channel =>
    (self.send ((self.sinksAt channel).map fun sink => .shutdown sink.streamId none), .continues)

/-- The session after an event. -/
def next (self : Http3Codec) (event : Event) : Http3Codec := (self.step event).1

/-! ## Isolation of streams -/

/-- The stream an event of the session is about; a writable event is about none in particular,
and messages are received in the order they were sent. -/
def concerned (self : Http3Codec) : Event → Option UInt64
  | .socket (.ok (.request streamId _)) _ => some streamId
  | .socket (.ok (.readable streamId)) _ => some streamId
  | .socket (.ok (.close streamId)) _ => some streamId
  | .message => self.streamRx.head?.map StreamMessage.streamId
  | _ => none

/-- Only a failure of the socket ends the session, and an event about one stream leaves the
others as they are. -/
structure Isolates (codec : Http3Codec) (event : Event) : Prop where
  session : ∀ error, (codec.step event).2 = .failed error →
    ∃ capacity, event = .socket (.error error) capacity
  others : ∀ streamId, codec.concerned event ≠ some streamId →
    (codec.next event).streams.lookup streamId = codec.streams.lookup streamId

/-- The stream is in the table, and its source has not been dropped. -/
def HasSource (self : Http3Codec) (streamId : UInt64) : Prop :=
  ∃ stream, self.streams.lookup streamId = some stream ∧
    self.sourceExists stream.readableEventTx = true

instance (self : Http3Codec) (streamId : UInt64) : Decidable (self.HasSource streamId) :=
  decidable_of_iff ((self.streams.lookup streamId).any
    fun stream => self.sourceExists stream.readableEventTx) (Option.any_eq_true _ _)

/-- A stream that becomes readable has a source. -/
def ReadableHasSource (self : Http3Codec) : Event → Prop
  | .socket (.ok (.readable streamId)) _ => self.HasSource streamId
  | _ => True

instance (self : Http3Codec) : DecidablePred self.ReadableHasSource
  | .socket (.ok (.readable streamId)) _ => inferInstanceAs (Decidable (self.HasSource streamId))
  | .socket (.ok (.request _ _)) _ | .socket (.ok (.writable _)) _ | .socket (.ok (.close _)) _
  | .socket (.error _) _ | .message | .sourceDropped _ | .sinkDropped _ | .notificationTaken _
  | .sinkWaits _ | .sinkResponded _ => instDecidableTrue

variable {self codec : Http3Codec} {streamId other : UInt64} {msg : StreamMessage}

@[simp] lemma streams_trySend (self : Http3Codec) (channel : Nat) (got : Bool) :
    (self.trySend channel got).1.streams = self.streams := by
  rw [trySend]
  split
  · rfl
  · split
    · rfl
    · rfl

lemma lookup_onStreamShutdown {direction : Option Shutdown} (different : other ≠ streamId)
    (done : self.onStreamShutdown streamId direction = .ok codec) :
    codec.streams.lookup other = self.streams.lookup other := by
  rw [onStreamShutdown] at done
  cases found : self.streams.lookup streamId with
  | none =>
    rw [found] at done
    cases done
  | some =>
    rw [found] at done
    cases done
    split
    · rw [AList.lookup_erase_ne different]
      split <;> split <;> rfl
    · rw [AList.lookup_insert_ne different]
      split <;> split <;> rfl

lemma lookup_onStreamMessage (different : other ≠ msg.streamId)
    (done : self.onStreamMessage msg = .ok codec) :
    codec.streams.lookup other = self.streams.lookup other := by
  cases msg with
  | waitingWritable =>
    cases done
    rfl
  | shutdown => exact lookup_onStreamShutdown different done

/-- A stream with a source is notified, or has been before. -/
lemma onStreamReadable_of_hasSource (live : self.HasSource streamId) :
    ∃ codec, self.onStreamReadable streamId = .ok codec ∧ codec.streams = self.streams := by
  obtain ⟨stream, found, got⟩ := live
  rw [onStreamReadable, found]
  simp only [trySend, got]
  by_cases full : stream.readableEventTx ∈ self.notified
  · exact ⟨self, by simp [full], rfl⟩
  · simp [full]

lemma onStreamReadable_of_not_hasSource (dead : ¬self.HasSource streamId) :
    ∃ error, self.onStreamReadable streamId = .error error := by
  rw [onStreamReadable]
  cases found : self.streams.lookup streamId with
  | none => exact ⟨_, rfl⟩
  | some stream =>
    have dropped : self.sourceExists stream.readableEventTx = false :=
      Bool.eq_false_iff.mpr fun got => dead ⟨stream, found, got⟩
    simp only [trySend, dropped]
    exact ⟨_, rfl⟩

variable (capacity : UInt64 → Except IoError Nat)

lemma streams_notifyWritableStream (self : Http3Codec) (streamId : UInt64) :
    (self.notifyWritableStream capacity streamId).streams = self.streams := by
  fun_cases self.notifyWritableStream _ _ with
  | case1 | case2 | case3 => rfl
  | case4 => exact streams_trySend _ _ _

lemma streams_notifyWritableStreams (self : Http3Codec) (streamIds : List UInt64) :
    (self.notifyWritableStreams capacity streamIds).streams = self.streams := by
  induction streamIds generalizing self with
  | nil => rfl
  | cons streamId _ ih => exact (ih _).trans (streams_notifyWritableStream _ self _)

/-- The codec itself keeps a sender, so the channel of the messages does not end. -/
lemma recv_ne_ended (self : Http3Codec) : self.recv ≠ .ended := by
  have positive : self.senders ≠ 0 := by
    rw [senders]
    omega
  rw [recv]
  split
  · intro same
    cases same
  · rw [if_neg positive]
    intro same
    cases same

lemma streamRx_of_recv {rest : List StreamMessage} (got : self.recv = .message msg rest) :
    self.streamRx = msg :: rest := by
  rw [recv] at got
  split at got
  · rename_i queued
    cases got
    exact queued
  · split at got
    · cases got
    · cases got

lemma isolates_message (self : Http3Codec) : self.Isolates .message := by
  have round : self.onMessageReady.2 = .continues ∧
      ∀ other, self.concerned .message ≠ some other →
        self.onMessageReady.1.streams.lookup other = self.streams.lookup other := by
    rw [onMessageReady]
    split
    · exact ⟨rfl, fun _ _ => rfl⟩
    · cases got : self.recv with
      | pending => exact ⟨rfl, fun _ _ => rfl⟩
      | ended => exact absurd got self.recv_ne_ended
      | message msg rest =>
        have different : ∀ {other}, self.concerned .message ≠ some other →
            other ≠ msg.streamId := by
          rintro other apart rfl
          apply apart
          rw [concerned, streamRx_of_recv got]
          rfl
        simp only
        cases done : onStreamMessage { self with streamRx := rest } msg with
        | ok =>
          refine ⟨rfl, fun other apart => ?_⟩
          have kept := lookup_onStreamMessage (different apart) done
          exact kept
        | error error =>
          cases closed : onStreamShutdown { self with streamRx := rest } _ none with
          | ok =>
            refine ⟨rfl, fun other apart => ?_⟩
            have kept := lookup_onStreamShutdown (different apart) closed
            exact kept
          | error => exact ⟨rfl, fun _ _ => rfl⟩
  refine ⟨fun error failed => ?_, round.2⟩
  cases round.1.symm.trans failed

/-- What a socket event leads to if the codec accepts it. -/
lemma isolates_of_onSocketEvent {event : QuicSocketEvent}
    {capacity : UInt64 → Except IoError Nat} {result : Option (StreamSource × StreamSink)}
    (accepted : self.onSocketEvent capacity event = .ok (codec, result))
    (others : ∀ other, self.concerned (.socket (.ok event) capacity) ≠ some other →
      codec.streams.lookup other = self.streams.lookup other) :
    self.Isolates (.socket (.ok event) capacity) := by
  have stays : ∃ outcome, self.step (.socket (.ok event) capacity) = (codec, outcome) ∧
      ∀ error, outcome ≠ .failed error := by
    rw [step, onSocketReady, accepted]
    cases result with
    | none | some =>
      refine ⟨_, rfl, ?_⟩
      rintro error ⟨⟩
  obtain ⟨outcome, taken, goes⟩ := stays
  constructor
  · intro error failed
    rw [taken] at failed
    exact absurd failed (goes error)
  · intro other apart
    rw [next, taken]
    exact others other apart

/-- A socket event is accepted and leaves the other streams, unless it is about a readable
stream without a source. -/
lemma isolates_socketEvent_iff (self : Http3Codec) (event : QuicSocketEvent)
    (capacity : UInt64 → Except IoError Nat) :
    self.Isolates (.socket (.ok event) capacity) ↔
      self.ReadableHasSource (.socket (.ok event) capacity) := by
  cases event with
  | request =>
    refine iff_of_true (isolates_of_onSocketEvent rfl ?_) trivial
    intro other apart
    exact AList.lookup_insert_ne fun same => apart (congrArg some same.symm)
  | readable streamId =>
    by_cases live : self.HasSource streamId
    · obtain ⟨codec, done, same⟩ := onStreamReadable_of_hasSource live
      have accepted : self.onSocketEvent capacity (.readable streamId) = .ok (codec, none) := by
        rw [onSocketEvent, done]
        rfl
      refine iff_of_true (isolates_of_onSocketEvent accepted ?_) live
      intro other apart
      rw [same]
    · refine iff_of_false (fun isolates => ?_) live
      obtain ⟨error, failed⟩ := onStreamReadable_of_not_hasSource live
      obtain ⟨_, same⟩ := isolates.session error (by
        rw [step, onSocketReady, onSocketEvent, failed]
        rfl)
      cases same
  | writable =>
    refine iff_of_true (isolates_of_onSocketEvent rfl ?_) trivial
    intro other apart
    rw [streams_notifyWritableStreams]
  | close streamId =>
    refine iff_of_true ?_ trivial
    cases closed : self.onStreamShutdown _ _ with
    | ok =>
      refine isolates_of_onSocketEvent (by rw [onSocketEvent, closed]) ?_
      intro other apart
      exact lookup_onStreamShutdown (fun same => apart (congrArg some same.symm)) closed
    | error => exact isolates_of_onSocketEvent (by rw [onSocketEvent, closed]) fun _ _ => rfl

/-- One event keeps streams apart exactly when it is not about a readable stream without a
source. -/
lemma isolates_iff (self : Http3Codec) (event : Event) :
    self.Isolates event ↔ self.ReadableHasSource event := by
  have quiet : ∀ {event : Event}, (self.step event).2 = .continues →
      (self.next event).streams = self.streams → self.Isolates event := by
    intro event continues same
    refine ⟨fun error failed => ?_, fun other _ => by rw [same]⟩
    cases continues.symm.trans failed
  cases event with
  | socket result capacity =>
    cases result with
    | ok event => exact isolates_socketEvent_iff self event _
    | error =>
      refine iff_of_true ⟨fun own failed => ?_, fun _ _ => rfl⟩ trivial
      cases failed
      exact ⟨capacity, rfl⟩
  | message => exact iff_of_true self.isolates_message trivial
  | sourceDropped | sinkDropped | notificationTaken | sinkWaits
  | sinkResponded => exact iff_of_true (quiet rfl rfl) trivial

/-- In every run of a session, in whatever order its events arrive, only a failure of the
socket ends it and streams do not disturb each other, exactly when every stream that becomes
readable is still in the table and has its source. -/
theorem eachStep_isolates_iff (events : List Event) :
    EachStep next Isolates new events ↔ EachStep next ReadableHasSource new events :=
  eachStep_congr isolates_iff

/-- The client opens stream 0 with a request, and the halves of the stream are dropped. -/
def openedAndDropped : List Event :=
  [.socket (.ok (.request 0 ⟨⟨[71, 69, 84], rfl⟩, ⟨none, none⟩, .http11, []⟩)) fun _ => .ok 0,
    .sourceDropped 0, .sinkDropped 1]

/-- A stream becomes readable after its source was dropped, or after both halves were and it
has been removed: either ends the session. -/
theorem not_eachStep_isolates_dropped :
    (¬EachStep next Isolates new
      (openedAndDropped ++ [.socket (.ok (.readable 0)) fun _ => .ok 0])) ∧
      ¬EachStep next Isolates new
        (openedAndDropped ++ [.message, .message, .socket (.ok (.readable 0)) fun _ => .ok 0]) := by
  rw [eachStep_congr isolates_iff, eachStep_congr isolates_iff]
  exact ⟨by decide +kernel, by decide +kernel⟩

end Http3Codec

end TrustTunnel.Endpoint
