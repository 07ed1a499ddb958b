import TrustTunnel.Chunked.StepMachine
import TrustTunnel.Endpoint.UdpForwarder

/-!
# The `_udp2` codec of the endpoint

`Decoder` is the state machine that cuts the byte stream of a client into UDP
datagrams, `Encoder` writes the datagrams sent back. The logging identifiers of
the source are left out; assertions, checked subtractions and slice bounds are
faults of the model.
-/

namespace TrustTunnel.Endpoint

namespace HttpUdpCodec

open NetUtils Chunked

def udppktLengthSize : Nat := 4
def udppktAddrSize : Nat := 16
def udppktPortSize : Nat := 2
def udppktApplenSize : Nat := 1

def udppktInFixedHeaderSize : Nat :=
  udppktLengthSize + 2 * (udppktAddrSize + udppktPortSize) + udppktApplenSize
def udppktInFixedHeaderNoLengthSize : Nat := udppktInFixedHeaderSize - udppktLengthSize
def udppktOutFixedHeaderSize : Nat := udppktLengthSize + 2 * (udppktAddrSize + udppktPortSize)
def udppktOutFixedHeaderNoLengthSize : Nat := udppktOutFixedHeaderSize - udppktLengthSize

def maxUdpInPayloadSize : Nat := maxUdpPayloadSize - udppktInFixedHeaderNoLengthSize

inductive RecvState where
  /-- Waiting for the `Length` field. -/
  | length
  /-- Waiting for the header (without app name) completion. -/
  | fixedHeader
  /-- Waiting for the `App name` field. -/
  | appName (length : Nat)
  /-- Waiting for the payload completion. -/
  | payload (length : Nat)
  /-- Dropping the packet for some reason. -/
  | dropping (remainingLength : Nat)
  deriving DecidableEq, Repr

structure Decoder where
  state : RecvState
  totalLength : Nat
  buffer : Bytes
  source : Option SocketAddr
  destination : Option SocketAddr
  appName : Option String
  deriving DecidableEq

namespace Decoder

/-- `Decoder::new`. -/
def new : Decoder where
  state := .length
  totalLength := 0
  buffer := []
  source := none
  destination := none
  appName := none

/-- Collect up to `cap` bytes in the shared buffer; the collected bytes are
handed out once there are `cap` of them. -/
def bufferedRead (self : Decoder) (input : Bytes) (cap : Nat) :
    Except Fault (Decoder × Option (Bytes × Bytes)) := do
  if ¬(self.buffer.length < cap ∨ cap = 0) then throw .assertion
  let room ← usizeSub cap self.buffer.length
  let toDrain := min input.length room
  let buffer := self.buffer ++ input.take toDrain
  let input := input.drop toDrain
  if buffer.length < cap then
    if ¬input.isEmpty then throw .assertion
    return ({ self with buffer }, none)
  return ({ self with buffer := [] }, some (buffer, input))

/-- Wait for a field of `size` bytes, then act on it. Every header state of the
decoder has this shape: `Bytes::new()` is returned while bytes are missing. -/
def withField (self : Decoder) (data : Bytes) (size : Nat)
    (act : Decoder → Bytes → Except Fault Decoder) : Except Fault (Decoder × Bytes) := do
  match ← self.bufferedRead data size with
  | (self, none) => return (self, [])
  | (self, some (field, tail)) => return (← act self field, tail)

def onLength (self : Decoder) (rawLength : Bytes) : Except Fault Decoder := do
  let (totalLength, _) ← rawLength.getU32
  let self := { self with totalLength := totalLength.toNat }
  if udppktInFixedHeaderNoLengthSize ≤ self.totalLength then
    return { self with state := .fixedHeader }
  else
    return { self with state := .dropping self.totalLength }

def processClientLength (self : Decoder) (data : Bytes) : Except Fault (Decoder × Bytes) :=
  self.withField data udppktLengthSize onLength

/-- The address pair and the app name length of a fixed header. -/
def readFixedHeader (header : Bytes) : Except Fault (SocketAddr × SocketAddr × Nat) := do
  let (sourceIp, header) ← getFixedSizeIp header
  let (sourcePort, header) ← header.getU16
  let (destinationIp, header) ← getFixedSizeIp header
  let (destinationPort, header) ← header.getU16
  let (appNameLength, _) ← header.getU8
  return (⟨sourceIp, sourcePort⟩, ⟨destinationIp, destinationPort⟩, appNameLength.toNat)

def onFixedHeader (self : Decoder) (header : Bytes) : Except Fault Decoder := do
  let (source, dest, appNameLength) ← readFixedHeader header
  let self := { self with source := some source, destination := some dest }
  let limit ← usizeSub maxUdpInPayloadSize appNameLength
  if limit < self.totalLength then
    let rest ← usizeSub self.totalLength udppktInFixedHeaderNoLengthSize
    return { self with state := .dropping rest }
  else if udppktInFixedHeaderNoLengthSize + appNameLength ≤ self.totalLength then
    return { self with state := .appName appNameLength }
  else
    let rest ← usizeSub self.totalLength udppktInFixedHeaderNoLengthSize
    return { self with state := .dropping rest }

def processClientFixedHeader (self : Decoder) (data : Bytes) : Except Fault (Decoder × Bytes) :=
  self.withField data udppktInFixedHeaderNoLengthSize onFixedHeader

def onAppName (length : Nat) (self : Decoder) (name : Bytes) : Except Fault Decoder := do
  let afterHeader ← usizeSub self.totalLength udppktInFixedHeaderNoLengthSize
  let payloadLength ← usizeSub afterHeader length
  match name.fromUtf8 with
  | some name => return { self with appName := some name, state := .payload payloadLength }
  | none => return { self with state := .dropping payloadLength }

def processClientAppName (self : Decoder) (length : Nat) (data : Bytes) :
    Except Fault (Decoder × Bytes) :=
  self.withField data length (onAppName length)

/-- `Option::unwrap`. -/
def unwrap {α : Type} : Option α → Except Fault α
  | some value => .ok value
  | none => .error .unwrap

/-- Hand the completed payload out. -/
def completePayload (self : Decoder) (toSend tail : Bytes) :
    Except Fault (Turn Decoder Downstream.UdpDatagram UInt8) := do
  let source ← unwrap self.source
  let dest ← unwrap self.destination
  let metadata : Downstream.UdpDatagramMeta := ⟨source, dest, self.appName⟩
  return ⟨{ self with state := .length, appName := none }, some ⟨metadata, toSend⟩, tail⟩

def processClientPayload (self : Decoder) (length : Nat) (data : Bytes) :
    Except Fault (Turn Decoder Downstream.UdpDatagram UInt8) := do
  if self.buffer.isEmpty ∧ length ≤ data.length then
    -- The whole payload is in the chunk: it is passed on without buffering.
    self.completePayload (data.take length) (data.drop length)
  else
    let missing ← usizeSub length self.buffer.length
    let toDrain := min data.length missing
    let buffer := self.buffer ++ data.take toDrain
    let data := data.drop toDrain
    if buffer.length < length then
      return ⟨{ self with buffer }, none, data⟩
    { self with buffer := [] }.completePayload buffer data

def decodeChunkOnce (self : Decoder) (data : Bytes) :
    Except Fault (Turn Decoder Downstream.UdpDatagram UInt8) := do
  match self.state with
  | .length =>
    let (self, tail) ← self.processClientLength data
    return ⟨self, none, tail⟩
  | .fixedHeader =>
    let (self, tail) ← self.processClientFixedHeader data
    return ⟨self, none, tail⟩
  | .appName length =>
    let (self, tail) ← self.processClientAppName length data
    return ⟨self, none, tail⟩
  | .payload length => self.processClientPayload length data
  | .dropping remainingLength =>
    let toDrop := min remainingLength data.length
    let state : RecvState :=
      if remainingLength ≤ toDrop then .length
      else .dropping (remainingLength - toDrop)
    -- `split_to` returns the bytes it cuts off, so they become the next data.
    let (tail, _) ← Bytes.splitTo data toDrop
    return ⟨{ self with state }, none, tail⟩

end Decoder

namespace Encoder

def encodePacket (dgram : Forwarder.UdpDatagram) : Option Bytes :=
  let totalLength := udppktOutFixedHeaderNoLengthSize + dgram.payload.length
  let encoded := Wire.beBytes 4 (UInt32.ofNat totalLength).toNat
  let encoded := encoded ++ putFixedSizeIp dgram.metadata.source.ip
  let encoded := encoded ++ Wire.beBytes 2 dgram.metadata.source.port.toNat
  let encoded := encoded ++ putFixedSizeIp dgram.metadata.destination.ip
  let encoded := encoded ++ Wire.beBytes 2 dgram.metadata.destination.port.toNat
  some (encoded ++ dgram.payload)

end Encoder

end HttpUdpCodec

end TrustTunnel.Endpoint
