import TrustTunnel.Endpoint.RequestCodec
import TrustTunnel.Net.Address
import TrustTunnel.Transition.Channel

/-!
# The tunnel of an HTTP/1 connection

`Http1Codec::listen` waits for the head of a request, returns its stream, and then carries
bytes between the transport and the two ends of that stream, until one of them ends. The codec
goes on from one point where it waits to the next; in between, the client, the sink and the
source of the stream do what they like.
-/

namespace TrustTunnel.Endpoint

open Wire Http Http1Codec Transition

namespace Http1Tunnel

inductive State where
  | waitingRequest (buffer : Bytes)
  | requestInProgress (buffer : Bytes)

/-- How far the future `wait_read` of one round of the loop is. The buffer of the state is
taken when it is polled for the first time, and lost with the future. -/
inductive WaitRead where
  | unpolled
  /-- In `upload_tx.reserve`, with an empty buffer. -/
  | reserving
  | reading (buffer : Bytes)

/-- The points of `graceful_shutdown` where it waits. -/
inductive Closing where
  | writing (rest : Bytes)
  | flushing
  | reserving
  | shuttingDown

/-- The points of `listen` where it waits, and those between its calls. -/
inductive Control where
  /-- Not called yet, or called and returned with the stream. -/
  | idle
  | selecting (waitRead : WaitRead)
  /-- Writing the response to a request that is refused. -/
  | responding (rest : Bytes)
  | sending (bytes : Bytes)
  | writing (rest : Bytes)
  | closing (point : Closing)
  /-- Returned for the last time: `Ok(None)` or an error. -/
  | returned (result : Except Failure Unit)
  /-- Returned, and the codec was dropped. -/
  | dropped

/-- Who has one of the two halves of the stream. -/
inductive Handle where
  | codec
  | stream
  | dropped
  deriving DecidableEq

/-- The connection to the client. -/
structure Transport where
  /-- The bytes that the client sends and that are not read yet. -/
  incoming : Bytes
  /-- The client has closed its side. -/
  closed : Bool
  written : Bytes
  isShutdown : Bool

/-- The first call of `eof`: what the sink had accepted by then, and whether the side of the
client was open. -/
structure EofCall where
  accepted : List Bytes
  clientOpen : Bool

end Http1Tunnel

open Http1Tunnel

/-- A connection with its codec and the stream of its request. -/
structure Http1Tunnel where
  state : State
  control : Control
  upload : BoundedChannel Bytes 1
  download : BoundedChannel Bytes 1
  /-- `download_eof` keeps a notification. -/
  notified : Bool
  sink : Handle
  source : Handle
  transport : Transport
  /-- The head of the request, when there is one. -/
  head : Option Bytes
  eofCall : Option EofCall
  /-- An operation of the transport has failed. -/
  failed : Bool

namespace Http1Tunnel

def State.buffer : State → Bytes
  | waitingRequest buffer => buffer
  | requestInProgress buffer => buffer

def State.setBuffer : State → Bytes → State
  | waitingRequest _, buffer => waitingRequest buffer
  | requestInProgress _, buffer => requestInProgress buffer

/-- `Http1Codec::new`, for a client that sends some bytes. -/
def new (input : Bytes) : Http1Tunnel where
  state := .waitingRequest []
  control := .idle
  upload := .empty
  download := .empty
  notified := false
  sink := .codec
  source := .codec
  transport := ⟨input, false, [], false⟩
  head := none
  eofCall := none
  failed := false

/-- The errors of `listen` that it makes itself. -/
def unexpectedEof : Except Failure Unit := .error (.io (.ofKind .unexpectedEof))

/-! ## Writing -/

/-- One write of `write_all_buf`: the transport takes a number of bytes. The rest is `none`
when there is nothing left to write. -/
def writeSome (self : Http1Tunnel) (rest : Bytes) (count : Nat) : Http1Tunnel × Option Bytes :=
  ({ self with
      transport := { self.transport with written := self.transport.written ++ rest.take count } },
    if rest.length ≤ count then none else some (rest.drop count))

/-- `graceful_shutdown`, up to the first point where it waits. -/
def gracefulShutdown (self : Http1Tunnel) : Http1Tunnel :=
  match self.download.recv with
  | some (chunk, download) => { self with download, control := .closing (.writing chunk) }
  | none => { self with control := .closing .flushing }

/-! ## Reading -/

/-- `encode_response` of the response that refuses a tunnel. -/
def expectationFailed (version : Version) : Except Fault Bytes := do
  let digit ← versionMinorDigit version
  return Bytes.ofString "HTTP/1." ++ [48 + digit] ++
    Bytes.ofString " 417 Expectation Failed\x0d\x0aconnection: close\x0d\x0a\x0d\x0a"

section Steps

variable (crates : RequestCrates) (peerAddr : Except IoError IpAddr)

/-- A `CONNECT` that expects something. -/
def isRefused (req : RequestHeaders) : Bool :=
  req.method.text = Bytes.ofString "CONNECT" &&
    req.headers.any (·.name.text = Bytes.ofString "expect")

def onRequestHeadersChunk (self : Http1Tunnel) (buffer : Bytes) : Http1Tunnel :=
  match decodeRequest crates buffer maxHeadersNum maxRawHeadersSize with
  | .error error => { self with control := .returned (.error (.io error)) }
  | .ok (.incomplete bytes) =>
    { self with state := .waitingRequest bytes, control := .selecting .unpolled }
  | .ok (.complete req tail) =>
    if isRefused req then
      match expectationFailed req.version with
      | .ok resp => { self with control := .responding resp }
      | .error fault => { self with control := .returned (.error (.panic fault)) }
    else
      match peerAddr with
      | .error error =>
        { self with
          state := .requestInProgress tail
          head := some (buffer.take (buffer.length - tail.length))
          control := .returned (.error (.io error)) }
      | .ok _ =>
        { self with
          state := .requestInProgress tail
          head := some (buffer.take (buffer.length - tail.length))
          sink := .stream
          source := .stream
          control := .idle }

/-- The branch of `select!` for `wait_read`. -/
def onRead (self : Http1Tunnel) (bytes : Bytes) : Http1Tunnel :=
  if bytes = [] then self.gracefulShutdown
  else
    match self.state with
    | .waitingRequest _ => self.onRequestHeadersChunk crates peerAddr bytes
    | .requestInProgress _ =>
      { self with state := .requestInProgress [], control := .sending bytes }

/-- The first poll of `wait_read`. -/
def pollRead (self : Http1Tunnel) : Http1Tunnel :=
  match self.control with
  | .selecting .unpolled =>
    let buffer := self.state.buffer
    let self := { self with state := self.state.setBuffer [] }
    match self.state with
    | .waitingRequest _ => { self with control := .selecting (.reading buffer) }
    | .requestInProgress _ =>
      if buffer = [] then { self with control := .selecting .reserving }
      else self.onRead crates peerAddr buffer
  | _ => self

/-- `read_buf` returns a number of bytes of the client: none of them only at the end. -/
def read (self : Http1Tunnel) (count : Nat) : Http1Tunnel :=
  match self.control with
  | .selecting (.reading buffer) =>
    if self.transport.incoming = [] then
      if self.transport.closed then self.onRead crates peerAddr [] else self
    else if count = 0 then self
    else
      { self with
        transport := { self.transport with
          incoming := self.transport.incoming.drop count } }.onRead crates peerAddr
        (buffer ++ self.transport.incoming.take count)
  | _ => self

end Steps

/-! ## The other steps of the codec -/

/-- `upload_tx` can be reserved, or the source is gone. -/
def uploadReady (self : Http1Tunnel) : Bool := self.upload.hasRoom || self.source = .dropped

def reserve (self : Http1Tunnel) : Http1Tunnel :=
  match self.control with
  | .selecting .reserving =>
    if self.uploadReady then { self with control := .selecting (.reading []) } else self
  | .closing .reserving =>
    if self.uploadReady then { self with control := .closing .shuttingDown } else self
  | _ => self

/-- The branch of `select!` for `download_rx.recv`. -/
def recv (self : Http1Tunnel) : Http1Tunnel :=
  match self.control with
  | .selecting _ =>
    match self.download.recv with
    | some (chunk, download) => { self with download, control := .writing chunk }
    | none =>
      if self.sink = .dropped then
        if self.notified then { self with notified := false }.gracefulShutdown
        else { self with control := .returned unexpectedEof }
      else self
  | _ => self

/-- The branch of `select!` for `download_eof.notified`. -/
def onNotified (self : Http1Tunnel) : Http1Tunnel :=
  match self.control with
  | .selecting _ => if self.notified then { self with notified := false }.gracefulShutdown else self
  | _ => self

/-- `upload_tx.send` returns. -/
def send (self : Http1Tunnel) : Http1Tunnel :=
  match self.control with
  | .sending bytes =>
    if self.source = .dropped then { self with control := .returned unexpectedEof }
    else if self.upload.hasRoom then
      { self with upload := self.upload.send bytes, control := .selecting .unpolled }
    else self
  | _ => self

/-- The transport takes some of the bytes that are being written. -/
def write (self : Http1Tunnel) (count : Nat) : Http1Tunnel :=
  match self.control with
  | .responding rest =>
    match self.writeSome rest count with
    | (self, some rest) => { self with control := .responding rest }
    | (self, none) => { self with control := .returned (.ok ()) }
  | .writing rest =>
    match self.writeSome rest count with
    | (self, some rest) => { self with control := .writing rest }
    | (self, none) => { self with control := .selecting .unpolled }
  | .closing (.writing rest) =>
    match self.writeSome rest count with
    | (self, some rest) => { self with control := .closing (.writing rest) }
    | (self, none) => { self with control := .closing .flushing }
  | _ => self

def flush (self : Http1Tunnel) : Http1Tunnel :=
  match self.control with
  | .closing .flushing => { self with control := .closing .reserving }
  | _ => self

def shutdown (self : Http1Tunnel) : Http1Tunnel :=
  match self.control with
  | .closing .shuttingDown =>
    { self with
      transport := { self.transport with isShutdown := true }
      control := .returned (.ok ()) }
  | _ => self

/-- The codec waits for the transport. -/
def Control.onTransport : Control → Bool
  | selecting (.reading _) | responding _ | writing _ => true
  | closing (.writing _) | closing .flushing | closing .shuttingDown => true
  | _ => false

/-- The operation of the transport that the codec waits for fails. -/
def fail (self : Http1Tunnel) (error : IoError) : Http1Tunnel :=
  if self.control.onTransport then
    { self with failed := true, control := .returned (.error (.io error)) }
  else self

/-- The next call of `listen`. -/
def listen (self : Http1Tunnel) : Http1Tunnel :=
  match self.control with
  | .idle => { self with control := .selecting .unpolled }
  | _ => self

def drop (self : Http1Tunnel) : Http1Tunnel :=
  match self.control with
  | .returned _ => { self with control := .dropped }
  | _ => self

/-! ## The stream and the client -/

/-- `StreamSink::write`; a chunk that does not fit is given back, and after the codec was
dropped there is an error. -/
def sinkWrite (self : Http1Tunnel) (chunk : Bytes) : Http1Tunnel :=
  match self.sink, self.control with
  | .stream, .dropped => self
  | .stream, _ => { self with download := self.download.send chunk }
  | _, _ => self

/-- `StreamSink::eof`. -/
def sinkEof (self : Http1Tunnel) : Http1Tunnel :=
  match self.sink with
  | .stream =>
    { self with
      notified := true
      eofCall := self.eofCall <|> some ⟨self.download.sent, !self.transport.closed⟩ }
  | _ => self

def sinkDrop (self : Http1Tunnel) : Http1Tunnel :=
  match self.sink with
  | .stream => { self with sink := .dropped }
  | _ => self

/-- `StreamSource::read`, when there is a chunk. -/
def sourceRead (self : Http1Tunnel) : Http1Tunnel :=
  match self.source, self.upload.recv with
  | .stream, some (_, upload) => { self with upload }
  | _, _ => self

def sourceDrop (self : Http1Tunnel) : Http1Tunnel :=
  match self.source with
  | .stream => { self with source := .dropped }
  | _ => self

def clientCloses (self : Http1Tunnel) : Http1Tunnel :=
  { self with transport := { self.transport with closed := true } }

/-- What happens next. -/
inductive Event where
  | listen
  | pollRead
  | read (count : Nat)
  | reserve
  | recv
  | notified
  | send
  | write (count : Nat)
  | flush
  | shutdown
  | fail (error : IoError)
  | drop
  | sinkWrite (chunk : Bytes)
  | sinkEof
  | sinkDrop
  | sourceRead
  | sourceDrop
  | clientCloses

/-- A step of the codec, with a transport that does not fail. -/
def Event.isOwn : Event → Bool
  | listen | pollRead | read _ | reserve | recv | notified | send | write _ | flush
  | shutdown => true
  | _ => false

def next (crates : RequestCrates) (peerAddr : Except IoError IpAddr) (self : Http1Tunnel) :
    Event → Http1Tunnel
  | .listen => self.listen
  | .pollRead => self.pollRead crates peerAddr
  | .read count => self.read crates peerAddr count
  | .reserve => self.reserve
  | .recv => self.recv
  | .notified => self.onNotified
  | .send => self.send
  | .write count => self.write count
  | .flush => self.flush
  | .shutdown => self.shutdown
  | .fail error => self.fail error
  | .drop => self.drop
  | .sinkWrite chunk => self.sinkWrite chunk
  | .sinkEof => self.sinkEof
  | .sinkDrop => self.sinkDrop
  | .sourceRead => self.sourceRead
  | .sourceDrop => self.sourceDrop
  | .clientCloses => self.clientCloses

end Http1Tunnel

end TrustTunnel.Endpoint
