import Mathlib.Logic.Function.Basic
import TrustTunnel.Chunked.RecordReader
import TrustTunnel.Client.WireUtils

/-!
# UDP packets composed by the client

`compose_udp_packet` sizes its buffer and its length field by the whole app name
and then writes at most 255 bytes of the name.
-/

namespace TrustTunnel.Client.HttpUdpMultiplexer

open WireUtils List

def udppktLengthSize : Nat := 4
def udppktAddrSize : Nat := 16
def udppktPortSize : Nat := 2
def udppktInPrefixSize : Nat := udppktLengthSize + 2 * (udppktAddrSize + udppktPortSize)
def udppktApplenSize : Nat := 1
def uint8Max : Nat := 255

def composeUdpPacket (src dst : SocketAddr) (appName data : Bytes) : Except Fault Bytes := do
  let fullLength := udppktInPrefixSize + udppktApplenSize + appName.length + data.length
  let writer := Writer.new fullLength
  let writer ← writer.putU32 (.ofNat (fullLength - udppktLengthSize))
  let writer ← writer.putIpPadded src.ip
  let writer ← writer.putU16 src.port
  let writer ← writer.putIpPadded dst.ip
  let writer ← writer.putU16 dst.port
  let appName := appName.take uint8Max
  let writer ← writer.putU8 (.ofNat appName.length)
  let writer ← writer.putData appName
  let writer ← writer.putData data
  return writer.buffer

/-- The address pair and the length of the app name that is sent. -/
def packetHeader (src dst : SocketAddr) (appName : Bytes) : Bytes :=
  src.toFixedSize ++ (dst.toFixedSize ++ [.ofNat (appName.take uint8Max).length])

variable (src dst : SocketAddr)

@[simp] lemma length_packetHeader (appName : Bytes) :
    (packetHeader src dst appName).length = 37 := by
  simp [packetHeader]

/-- What follows the header: the name cut to 255 bytes, the data, and a zero byte
for each byte of the name that was cut off. -/
def packetBody (appName data : Bytes) : Bytes :=
  appName.take uint8Max ++ (data ++ List.replicate (appName.length - uint8Max) 0)

variable (appName data : Bytes)

lemma length_packetBody : (packetBody appName data).length = appName.length + data.length := by
  simp only [packetBody, length_append, length_take, length_replicate]
  omega

/-- What follows the length field. -/
def packetContents (src dst : SocketAddr) (appName data : Bytes) : Bytes :=
  packetHeader src dst appName ++ packetBody appName data

lemma length_packetContents :
    (packetContents src dst appName data).length = 37 + appName.length + data.length := by
  rw [packetContents, length_append, length_packetHeader, length_packetBody, add_assoc]

/-- No assertion of the writer fires, and this is what is sent. -/
lemma composeUdpPacket_eq :
    composeUdpPacket src dst appName data =
      .ok (Wire.beBytes udppktLengthSize (packetContents src dst appName data).length ++
        packetContents src dst appName data) := by
  have rawLength (value : Nat) :
      Wire.beBytes 4 (UInt32.ofNat value).toNat = Wire.beBytes 4 value := by
    rw [UInt32.toNat_ofNat']
    exact Wire.beBytes_mod 4 value
  have room : udppktInPrefixSize + udppktApplenSize + appName.length + data.length =
      (Wire.beBytes 4 (37 + appName.length + data.length)).length + (paddedIpSize +
        ((Wire.beBytes 2 src.port.toNat).length + (paddedIpSize +
          ((Wire.beBytes 2 dst.port.toNat).length +
            (([UInt8.ofNat (appName.take uint8Max).length] : Bytes).length +
              ((appName.take uint8Max).length +
                (data.length + (appName.length - uint8Max)))))))) := by
    simp only [Wire.length_beBytes, length_take, length_singleton,
      udppktInPrefixSize, udppktLengthSize, udppktAddrSize, udppktPortSize,
      udppktApplenSize, paddedIpSize, ipv6AddrSize]
    omega
  have written : udppktInPrefixSize + udppktApplenSize + appName.length + data.length -
      udppktLengthSize = 37 + appName.length + data.length := by
    simp only [udppktInPrefixSize, udppktLengthSize, udppktAddrSize, udppktPortSize,
      udppktApplenSize]
    omega
  rw [length_packetContents, composeUdpPacket]
  simp only [Writer.new, Writer.putU32, Writer.putU16, Writer.putU8, written, rawLength]
  rw [room]
  simp only [Writer.putData_append, Writer.putIpPadded_append, ok_bind]
  simp [Writer.buffer, packetContents, packetHeader, packetBody, SocketAddr.toFixedSize,
    pure, Except.pure, udppktLengthSize]

/-!
## Receiving UDP packets on the client

`process_read_event` cuts the stream from the endpoint into packets and raises a
read event for each packet of a connection with reads enabled. Every payload
turn refreshes the timeout of its connection, so the state carries a clock; seen
without timeouts the loop is a reader of records, whose header is the 40-byte
prefix of a packet.
-/

open Chunked

def maxUdpPayloadSize : Nat := 65535 - 8
def maxUdpInPacketLength : Nat := maxUdpPayloadSize + udppktInPrefixSize - udppktLengthSize
def vpnDefaultUdpTimeoutMs : Nat := 5 * 60 * 1000

/-- The reserved id that stands for no connection. -/
def nonId : UInt64 := .ofNat (2 ^ 64 - 1)

/-- Ids of connections; a missing id is `NON_ID`. -/
abbrev ConnectionId := { id : UInt64 // id ≠ nonId }

structure TunnelAddressPair where
  src : SocketAddr
  dst : SocketAddr
  deriving DecidableEq

inductive MultiplexerState where
  | idle
  | established
  deriving DecidableEq

inductive RecvConnectionState where
  | idle
  /-- Receiving payload. -/
  | payload
  /-- Dropping data of invalid packet. -/
  | dropping
  deriving DecidableEq

structure Connection where
  readEnabled : Bool
  timeout : Nat

structure RecvConnection where
  state : RecvConnectionState := .idle
  id : Option ConnectionId := none
  bytesLeft : Nat := 0
  buffer : Bytes := []
  deriving DecidableEq

structure PacketInfo where
  id : Option ConnectionId
  payloadLength : Nat

/-- `SERVER_EVENT_READ`. -/
structure ServerReadEvent where
  id : ConnectionId
  data : Bytes
  deriving DecidableEq

/-- The part of the multiplexer that receiving uses; `clockReads` counts the readings
of the clock. -/
structure Multiplexer where
  state : MultiplexerState
  recvConnection : RecvConnection
  addrToId : TunnelAddressPair → Option ConnectionId
  connections : ConnectionId → Option Connection
  clockReads : Nat

/-- `std::optional::value`. -/
def value {α : Type} : Option α → Except Fault α
  | some value => .ok value
  | none => .error .unwrap

namespace Multiplexer

def readPrefix (self : Multiplexer) (data : Bytes) : Except Fault PacketInfo := do
  if data.length ≠ udppktInPrefixSize then throw .assertion
  let (length, reader) ← value (Reader.getU32 data)
  if length.toNat < udppktInPrefixSize - udppktLengthSize then return ⟨none, 0⟩
  let (srcIp, reader) ← value (Reader.getIpPadded reader)
  let (srcPort, reader) ← value (Reader.getU16 reader)
  let (dstIp, reader) ← value (Reader.getIpPadded reader)
  let (dstPort, _) ← value (Reader.getU16 reader)
  if maxUdpInPacketLength < length.toNat then return ⟨none, 0⟩
  let payloadLength := length.toNat - (udppktInPrefixSize - udppktLengthSize)
  return ⟨self.addrToId ⟨⟨dstIp, dstPort⟩, ⟨srcIp, srcPort⟩⟩, payloadLength⟩

/-- The connection with this id may raise read events. -/
def readable (self : Multiplexer) (id : ConnectionId) : Bool :=
  match self.connections id with
  | none => false
  | some conn => conn.readEnabled

/-- The body of the loop in `process_read_event`; `clock n` is what the `n`-th reading
of the clock returns. -/
def readOnce (clock : Nat → Nat) (self : Multiplexer) (data : Bytes) :
    Except Fault (Turn Multiplexer ServerReadEvent UInt8) := do
  let rconn := self.recvConnection
  match rconn.state with
  | .idle =>
    if ¬rconn.buffer.length < udppktInPrefixSize then throw .assertion
    let toRead := min (udppktInPrefixSize - rconn.buffer.length) data.length
    let buffer := rconn.buffer ++ data.take toRead
    if buffer.length < udppktInPrefixSize then
      return ⟨{ self with recvConnection := { rconn with buffer } }, none, data.drop toRead⟩
    if buffer.length ≠ udppktInPrefixSize then throw .assertion
    let info ← self.readPrefix buffer
    let dropPacket : Bool := match info.id with
      | none => true
      | some id => !self.readable id
    let rconn := if dropPacket then { rconn with state := .dropping }
      else { rconn with state := .payload, id := info.id }
    let rconn := { rconn with bytesLeft := info.payloadLength, buffer := [] }
    return ⟨{ self with recvConnection := rconn }, none, data.drop toRead⟩
  | .payload =>
    match rconn.id with
    | none => throw .assertion
    | some id =>
      match self.connections id with
      | none => throw .assertion
      | some conn =>
        let timeout := clock self.clockReads + vpnDefaultUdpTimeoutMs
        let connections := Function.update self.connections id (some { conn with timeout })
        let self := { self with connections, clockReads := self.clockReads + 1 }
        let toRead := min rconn.bytesLeft data.length
        let buffer := rconn.buffer ++ data.take toRead
        let data := data.drop toRead
        let bytesLeft ← usizeSub rconn.bytesLeft toRead
        if bytesLeft = 0 then
          return ⟨{ self with recvConnection := {} }, some ⟨id, buffer⟩, data⟩
        let rconn := { rconn with buffer, bytesLeft }
        return ⟨{ self with recvConnection := rconn }, none, data⟩
  | .dropping =>
    let toDrop := min rconn.bytesLeft data.length
    let data := data.drop toDrop
    let bytesLeft ← usizeSub rconn.bytesLeft toDrop
    if bytesLeft = 0 then
      return ⟨{ self with recvConnection := {} }, none, data⟩
    let rconn := { rconn with bytesLeft }
    return ⟨{ self with recvConnection := rconn }, none, data⟩

/-! ## What each state does with a chunk -/

variable {self : Multiplexer} {data : Bytes} {clock : Nat → Nat}

/-- Behind a complete prefix: receive the payload of the packet, or drop it. -/
def received (self : Multiplexer) (info : PacketInfo) : Multiplexer :=
  let rconn := self.recvConnection
  let rconn := match info.id.filter self.readable with
    | none => { rconn with state := .dropping }
    | some id => { rconn with state := .payload, id := some id }
  { self with recvConnection := { rconn with bytesLeft := info.payloadLength, buffer := [] } }

lemma readOnce_idle_wait (state : self.recvConnection.state = .idle)
    (short : self.recvConnection.buffer.length + data.length < udppktInPrefixSize) :
    self.readOnce clock data =
      .ok ⟨{ self with recvConnection :=
        { self.recvConnection with buffer := self.recvConnection.buffer ++ data } }, none, []⟩ := by
  have room : self.recvConnection.buffer.length < udppktInPrefixSize := by omega
  have all : min (udppktInPrefixSize - self.recvConnection.buffer.length) data.length =
      data.length := by omega
  rw [readOnce]
  simp only [state, room, not_true_eq_false, if_false, all, take_length,
    drop_length, length_append, short, if_true, bind, Except.bind]
  rfl

lemma readOnce_idle_full (self : Multiplexer) (clock : Nat → Nat)
    (state : self.recvConnection.state = .idle)
    (room : self.recvConnection.buffer.length < udppktInPrefixSize)
    (long : udppktInPrefixSize ≤ self.recvConnection.buffer.length + data.length) :
    self.readOnce clock data =
      (self.readPrefix (self.recvConnection.buffer ++
        data.take (udppktInPrefixSize - self.recvConnection.buffer.length))).map
        fun info => ⟨self.received info, none,
          data.drop (udppktInPrefixSize - self.recvConnection.buffer.length)⟩ := by
  have missing : min (udppktInPrefixSize - self.recvConnection.buffer.length) data.length =
      udppktInPrefixSize - self.recvConnection.buffer.length := by omega
  have complete : (self.recvConnection.buffer ++
      data.take (udppktInPrefixSize - self.recvConnection.buffer.length)).length =
        udppktInPrefixSize := by
    rw [length_append, length_take]
    omega
  rw [readOnce]
  simp only [state, room, not_true_eq_false, if_false, missing, complete, lt_irrefl,
    ne_eq, bind, Except.bind]
  cases self.readPrefix _ with
  | error => rfl
  | ok info =>
    obtain ⟨id, payloadLength⟩ := info
    cases id with
    | none => rfl
    | some id =>
      cases readable : self.readable id with
      | false =>
        have unwanted : (some id).filter self.readable = none := by
          simp [Option.filter, readable]
        simp only [received, unwanted, readable, Except.map]
        rfl
      | true =>
        have wanted : (some id).filter self.readable = some id := by
          simp [Option.filter, readable]
        simp only [received, wanted, readable, Except.map]
        rfl

/-- The multiplexer with the timeout of a connection refreshed. -/
def refreshed (clock : Nat → Nat) (self : Multiplexer) (id : ConnectionId)
    (conn : Connection) : Multiplexer :=
  { self with
    connections := Function.update self.connections id
      (some { conn with timeout := clock self.clockReads + vpnDefaultUdpTimeoutMs })
    clockReads := self.clockReads + 1 }

lemma readOnce_payload {id : ConnectionId} {conn : Connection}
    (state : self.recvConnection.state = .payload) (hasId : self.recvConnection.id = some id)
    (present : self.connections id = some conn) :
    self.readOnce clock data =
      .ok (if data.length < self.recvConnection.bytesLeft then
        ⟨{ self.refreshed clock id conn with recvConnection :=
          { self.recvConnection with
            buffer := self.recvConnection.buffer ++ data
            bytesLeft := self.recvConnection.bytesLeft - data.length } }, none, []⟩
      else
        ⟨{ self.refreshed clock id conn with recvConnection := {} },
          some ⟨id, self.recvConnection.buffer ++ data.take self.recvConnection.bytesLeft⟩,
          data.drop self.recvConnection.bytesLeft⟩) := by
  rw [readOnce]
  simp only [state, hasId, present, usizeSub_of_le (min_le_left _ _), ok_bind]
  by_cases short : data.length < self.recvConnection.bytesLeft
  · rw [min_eq_right (le_of_lt short), if_neg (Nat.sub_ne_zero_of_lt short),
      if_pos short, take_length, drop_length]
    rfl
  · rw [min_eq_left (Nat.le_of_not_lt short), if_pos (Nat.sub_self _), if_neg short]
    rfl

lemma readOnce_dropping (state : self.recvConnection.state = .dropping) :
    self.readOnce clock data =
      .ok (if data.length < self.recvConnection.bytesLeft then
        ⟨{ self with recvConnection :=
          { self.recvConnection with
            bytesLeft := self.recvConnection.bytesLeft - data.length } }, none, []⟩
      else
        ⟨{ self with recvConnection := {} }, none, data.drop self.recvConnection.bytesLeft⟩) := by
  rw [readOnce]
  simp only [state, usizeSub_of_le (min_le_left _ _), ok_bind]
  by_cases short : data.length < self.recvConnection.bytesLeft
  · rw [min_eq_right (le_of_lt short), if_neg (Nat.sub_ne_zero_of_lt short),
      if_pos short, drop_length]
    rfl
  · rw [min_eq_left (Nat.le_of_not_lt short), if_pos (Nat.sub_self _), if_neg short]
    rfl

/-! ## The loop -/

/-- How many turns a state can take without reading a byte. -/
def rank (self : Multiplexer) : Nat :=
  match self.recvConnection.state with
  | .idle => 0
  | .payload => 1
  | .dropping => 1

lemma readOnce_progress {turn : Turn Multiplexer ServerReadEvent UInt8}
    (nonempty : data ≠ []) (taken : self.readOnce clock data = .ok turn) :
    turn.tail.length < data.length ∨
      turn.tail.length = data.length ∧ turn.state.rank < self.rank := by
  have positive := length_pos_of_ne_nil nonempty
  cases state : self.recvConnection.state with
  | idle =>
    left
    by_cases room : self.recvConnection.buffer.length < udppktInPrefixSize
    · by_cases short : self.recvConnection.buffer.length + data.length < udppktInPrefixSize
      · rw [readOnce_idle_wait state short] at taken
        cases taken
        exact positive
      · rw [self.readOnce_idle_full clock state room (by omega)] at taken
        cases read : self.readPrefix _ with
        | error =>
          rw [read] at taken
          cases taken
        | ok =>
          rw [read] at taken
          cases taken
          rw [length_drop]
          omega
    · rw [readOnce] at taken
      simp [state, room, bind, Except.bind] at taken
  | payload =>
    cases hasId : self.recvConnection.id with
    | none => simp [readOnce, state, hasId] at taken
    | some id =>
      cases present : self.connections id with
      | none => simp [readOnce, state, hasId, present] at taken
      | some =>
        rw [readOnce_payload state hasId present] at taken
        cases taken
        split
        · exact .inl positive
        · simp only [rank, state, length_drop]
          omega
  | dropping =>
    rw [readOnce_dropping state] at taken
    cases taken
    split
    · exact .inl positive
    · simp only [rank, state, length_drop]
      omega

/-- The loop of `process_read_event`. -/
def machine (clock : Nat → Nat) : StepMachine Multiplexer UInt8 ServerReadEvent Fault where
  step := readOnce clock
  rank := rank
  progress := readOnce_progress

/-- `process_read_event`: the events it raises, in order. -/
def processReadEvent (clock : Nat → Nat) (self : Multiplexer) (data : Bytes) :
    Except Fault (Multiplexer × List ServerReadEvent) := do
  if self.state ≠ .established then throw .assertion
  (machine clock).drain self data

/-- The chunks of a stream, one `process_read_event` for each. -/
def processReadEvents (clock : Nat → Nat) (self : Multiplexer) :
    List Bytes → Except Fault (Multiplexer × List ServerReadEvent)
  | [] => .ok (self, [])
  | chunk :: chunks => do
      let (self, before) ← self.processReadEvent clock chunk
      let (self, after) ← self.processReadEvents clock chunks
      return (self, before ++ after)

/-!
## The client's packet reader as a reader of records

Through a view that forgets timeouts, the loop of `process_read_event` is the
reader of records for a header of 40 bytes. The header selects a connection and
a payload length, by tables that the loop leaves alone.
-/

variable {start : Multiplexer} {info : PacketInfo}

/-! ## The prefix of a packet -/

/-- A packet length the client accepts. -/
def LengthInRange (length : Nat) : Prop :=
  udppktInPrefixSize - udppktLengthSize ≤ length ∧ length ≤ maxUdpInPacketLength

instance (length : Nat) : Decidable (LengthInRange length) := inferInstanceAs (Decidable (_ ∧ _))

open Wire

lemma readPrefix_append (self : Multiplexer) {rawLength srcPort dstPort : Bytes}
    (srcIp dstIp : Ipv6Addr) (lengthSize : rawLength.length = 4)
    (srcPortSize : srcPort.length = 2) (dstPortSize : dstPort.length = 2) :
    self.readPrefix (rawLength ++ (srcIp.toList ++ (srcPort ++ (dstIp.toList ++ dstPort)))) =
      .ok (if LengthInRange (beNat rawLength) then
        ⟨self.addrToId
          ⟨⟨Reader.ipOfPadded dstIp, .ofNat (beNat dstPort)⟩,
            ⟨Reader.ipOfPadded srcIp, .ofNat (beNat srcPort)⟩⟩,
          beNat rawLength - (udppktInPrefixSize - udppktLengthSize)⟩
        else ⟨none, 0⟩) := by
  have size : (rawLength ++ (srcIp.toList ++ (srcPort ++ (dstIp.toList ++ dstPort)))).length =
      udppktInPrefixSize := by
    simp only [List.length_append, lengthSize, srcPortSize, dstPortSize, List.Vector.toList_length]
    rfl
  have bound := beNat_lt rawLength
  rw [lengthSize] at bound
  have word : (UInt32.ofNat (beNat rawLength)).toNat = beNat rawLength := by
    rw [UInt32.toNat_ofNat']
    exact Nat.mod_eq_of_lt bound
  have lastPort := Reader.getU16_append [] dstPortSize
  rw [List.append_nil] at lastPort
  rw [readPrefix]
  simp only [size, ne_eq, not_true_eq_false, if_false, Reader.getU32_append _ lengthSize,
    Reader.getIpPadded_append, Reader.getU16_append _ srcPortSize, lastPort, value, bind,
    Except.bind, word]
  by_cases short : beNat rawLength < udppktInPrefixSize - udppktLengthSize
  · have outside : ¬LengthInRange (beNat rawLength) := fun inRange => Nat.not_le.mpr short inRange.1
    rw [if_pos short, if_neg outside]
    rfl
  · by_cases long : maxUdpInPacketLength < beNat rawLength
    · have outside : ¬LengthInRange (beNat rawLength) :=
        fun inRange => Nat.not_le.mpr long inRange.2
      rw [if_neg short, if_pos long, if_neg outside]
      rfl
    · have inside : LengthInRange (beNat rawLength) :=
        ⟨Nat.le_of_not_lt short, Nat.le_of_not_lt long⟩
      rw [if_neg short, if_neg long, if_pos inside]
      rfl

lemma exists_prefix_fields {data : Bytes} (size : data.length = udppktInPrefixSize) :
    ∃ (rawLength srcPort dstPort : Bytes) (srcIp dstIp : Ipv6Addr),
      data = rawLength ++ (srcIp.toList ++ (srcPort ++ (dstIp.toList ++ dstPort))) ∧
        rawLength.length = 4 ∧ srcPort.length = 2 ∧ dstPort.length = 2 := by
  change data.length = 40 at size
  obtain ⟨rawLength, data, rfl, lengthSize, restSize⟩ := Bytes.exists_append data 4 (by omega)
  obtain ⟨srcIp, data, rfl, srcIpSize, restSize⟩ := Bytes.exists_append data 16 (by omega)
  obtain ⟨srcPort, data, rfl, srcPortSize, restSize⟩ := Bytes.exists_append data 2 (by omega)
  obtain ⟨dstIp, dstPort, rfl, dstIpSize, restSize⟩ := Bytes.exists_append data 16 (by omega)
  exact ⟨rawLength, srcPort, dstPort, ⟨srcIp, srcIpSize⟩, ⟨dstIp, dstIpSize⟩, rfl,
    lengthSize, srcPortSize, by omega⟩

lemma readPrefix_total (self : Multiplexer) (size : data.length = udppktInPrefixSize) :
    ∃ info, self.readPrefix data = .ok info := by
  obtain ⟨rawLength, srcPort, dstPort, srcIp, dstIp, rfl, lengthSize, srcPortSize,
    dstPortSize⟩ := exists_prefix_fields size
  exact ⟨_, self.readPrefix_append srcIp dstIp lengthSize srcPortSize dstPortSize⟩

/-! ## Packets as records -/

/-- The packets for the tables of a multiplexer: only packets of readable connections are
wanted. -/
def format (self : Multiplexer) : Format UInt8 ConnectionId where
  headerSize := udppktInPrefixSize
  headerSize_pos := Nat.succ_pos 39
  parse header :=
    match self.readPrefix header with
    | .ok info => (info.id.filter self.readable, info.payloadLength)
    | .error _ => (none, 0)

lemma opened_eq (read : self.readPrefix data = .ok info) :
    self.format.opened data =
      match info.id.filter self.readable with
      | some id => .body id [] info.payloadLength
      | none => .skip info.payloadLength := by
  have parsed : self.format.parse data = (info.id.filter self.readable, info.payloadLength) := by
    simp only [format, read]
  rw [Format.opened, parsed]
  cases info.id.filter _ <;> rfl

/-- The reader of records inside the multiplexer. -/
def view (self : Multiplexer) : RecordReader UInt8 ConnectionId :=
  match self.recvConnection.state, self.recvConnection.id with
  | .idle, _ => .header self.recvConnection.buffer
  | .payload, some id => .body id self.recvConnection.buffer self.recvConnection.bytesLeft
  | .payload, none => .skip self.recvConnection.bytesLeft
  | .dropping, _ => .skip self.recvConnection.bytesLeft

/-- The multiplexer still has the tables it started with, up to timeouts, and a packet
being received belongs to a connection. -/
structure Serves (start mux : Multiplexer) : Prop where
  state : mux.state = start.state
  addrToId : mux.addrToId = start.addrToId
  readable : mux.readable = start.readable
  fresh : mux.recvConnection.state = .idle →
    mux.recvConnection.id = none ∧ mux.recvConnection.bytesLeft = 0
  attached : mux.recvConnection.state = .payload →
    ∃ id conn, mux.recvConnection.id = some id ∧ mux.connections id = some conn

lemma Serves.format_eq (serves : Serves start self) : self.format = start.format := by
  simp [format, readPrefix, serves.addrToId, serves.readable]

/-- Changing what is being received leaves the tables alone. -/
lemma Serves.withRecv (serves : Serves start self) (rconn : RecvConnection)
    (fresh : rconn.state = .idle → rconn.id = none ∧ rconn.bytesLeft = 0)
    (attached : rconn.state = .payload → ∃ id conn, rconn.id = some id ∧
      self.connections id = some conn) :
    Serves start { self with recvConnection := rconn } where
  state := serves.state
  addrToId := serves.addrToId
  readable := serves.readable
  fresh := fresh
  attached := attached

section

variable {id : ConnectionId} {conn : Connection} (present : self.connections id = some conn)

include present

lemma readable_refreshed : (self.refreshed clock id conn).readable = self.readable := by
  funext other
  by_cases same : other = id
  · subst same
    simp [readable, refreshed, present]
  · simp [readable, refreshed, Function.update_of_ne same]

/-- Refreshing a timeout leaves what packets are wanted alone. -/
lemma Serves.refreshed (serves : Serves start self) (clock : Nat → Nat) :
    Serves start (self.refreshed clock id conn) where
  state := serves.state
  addrToId := serves.addrToId
  readable := (readable_refreshed present).trans serves.readable
  fresh := serves.fresh
  attached := by
    intro state
    obtain ⟨other, otherConnection, hasId, otherPresent⟩ := serves.attached state
    by_cases same : other = id
    · subst same
      exact ⟨other, _, hasId, Function.update_self _ _ _⟩
    · exact ⟨other, otherConnection, hasId, (Function.update_of_ne same _ _).trans otherPresent⟩

end

lemma Serves.received (serves : Serves start self) (read : self.readPrefix data = .ok info) :
    Serves start (self.received info) ∧ (self.received info).view = self.format.opened data := by
  rw [opened_eq read]
  cases wanted : info.id.filter self.readable with
  | none =>
    constructor
    · simp only [Multiplexer.received, wanted]
      exact serves.withRecv _ (by simp) (by simp)
    · simp [Multiplexer.received, wanted, view]
  | some id =>
    constructor
    · simp only [Multiplexer.received, wanted]
      refine serves.withRecv _ (by simp) fun _ => ?_
      have isReadable : self.readable id = true := (Option.filter_eq_some_iff.mp wanted).2
      cases present : self.connections id with
      | none => simp [Multiplexer.readable, present] at isReadable
      | some conn => exact ⟨id, conn, rfl, present⟩
    · simp [Multiplexer.received, wanted, view]

/-! ## Simulation -/

/-- The event raised for a record. -/
def render (output : ConnectionId × Bytes) : ServerReadEvent := ⟨output.1, output.2⟩

lemma simulates (clock : Nat → Nat) (start : Multiplexer) :
    StepMachine.Simulates (machine clock) start.format.machine start.format.Good
      (Serves start) view render where
  step := by
    intro self data turn serves isGood nonempty taken
    cases taken
    change ∃ next, self.readOnce clock data = _ ∧ _
    rw [← serves.format_eq] at isGood ⊢
    cases state : self.recvConnection.state with
    | idle =>
      have seen : self.view = .header self.recvConnection.buffer := by
        simp only [view, state]
      rw [seen] at isGood ⊢
      change self.recvConnection.buffer.length < udppktInPrefixSize at isGood
      rw [Format.turn]
      by_cases short : self.recvConnection.buffer.length + data.length < udppktInPrefixSize
      · rw [if_pos (show _ < self.format.headerSize from short)]
        refine ⟨_, readOnce_idle_wait state short, ?_, ?_⟩
        · exact serves.withRecv _ (fun _ => serves.fresh state) (by simp [state])
        · simp [view, state]
      · rw [if_neg (show ¬_ < self.format.headerSize from short)]
        have size : (self.recvConnection.buffer ++ data.take
            (udppktInPrefixSize - self.recvConnection.buffer.length)).length =
              udppktInPrefixSize := by
          rw [List.length_append, List.length_take]
          omega
        obtain ⟨info, read⟩ := self.readPrefix_total size
        have full := self.readOnce_idle_full clock state isGood (Nat.le_of_not_lt short)
        rw [read] at full
        obtain ⟨nextServes, nextSeen⟩ := serves.received read
        exact ⟨self.received info, full, nextServes, nextSeen⟩
    | payload =>
      obtain ⟨id, conn, hasId, present⟩ := serves.attached state
      have seen : self.view =
          .body id self.recvConnection.buffer self.recvConnection.bytesLeft := by
        simp only [view, state, hasId]
      rw [seen, Format.turn, readOnce_payload state hasId present]
      have refreshed := serves.refreshed present clock
      split
      · refine ⟨_, rfl, ?_, ?_⟩
        · exact refreshed.withRecv _ (by simp [state]) fun _ => refreshed.attached state
        · simp [view, state, hasId]
      · exact ⟨_, rfl, refreshed.withRecv {} (fun _ => ⟨rfl, rfl⟩) (by simp), rfl⟩
    | dropping =>
      have seen : self.view = .skip self.recvConnection.bytesLeft := by
        simp only [view, state]
      rw [seen, Format.turn, readOnce_dropping state]
      split
      · refine ⟨_, rfl, serves.withRecv _ (by simp [state]) (by simp [state]), ?_⟩
        simp [view, state]
      · exact ⟨_, rfl, serves.withRecv {} (fun _ => ⟨rfl, rfl⟩) (by simp), rfl⟩

/-- A run of the record reader over chunks is a run of `process_read_event` over them. -/
lemma processReadEvents_of_chunkRun (clock : Nat → Nat)
    (established : start.state = .established) {reader final : RecordReader UInt8 ConnectionId}
    {chunks : List Bytes} {outputs : List (ConnectionId × Bytes)}
    (run : StepMachine.ChunkRun start.format.machine start.format.Good reader chunks final
      outputs) :
    ∀ {self : Multiplexer}, Serves start self → self.view = reader →
      ∃ last, self.processReadEvents clock chunks = .ok (last, outputs.map render) ∧
        Serves start last ∧ last.view = final := by
  induction run with
  | done =>
    intro self serves seen
    exact ⟨self, rfl, serves, seen⟩
  | chunk run _ ih =>
    intro self serves seen
    obtain ⟨middle, first, middleServes, middleSeen⟩ := (simulates clock start).run run serves seen
    obtain ⟨last, rest, lastServes, lastSeen⟩ := ih middleServes middleSeen
    have ready : ¬self.state ≠ .established := not_not.mpr (serves.state.trans established)
    refine ⟨last, ?_, lastServes, lastSeen⟩
    rw [processReadEvents, processReadEvent]
    simp only [ready, if_false, first.drain_eq, rest, ok_bind, List.map_append]
    rfl

lemma serves_self (boundary : start.recvConnection = {}) : Serves start start where
  state := rfl
  addrToId := rfl
  readable := rfl
  fresh := by
    intro _
    rw [boundary]
    exact ⟨rfl, rfl⟩
  attached := by
    intro state
    rw [boundary] at state
    cases state

lemma view_of_boundary (boundary : start.recvConnection = {}) : start.view = .header [] := by
  simp [view, boundary]

/-- A multiplexer whose reader is at a boundary has nothing of a packet left. -/
lemma Serves.boundary (serves : Serves start self) (seen : self.view = .header []) :
    self.recvConnection = {} := by
  rcases shape : self.recvConnection with ⟨state, id, bytesLeft, buffer⟩
  have fresh := serves.fresh
  simp only [view, shape] at seen
  simp only [shape] at fresh
  cases state with
  | idle =>
    obtain ⟨rfl, rfl⟩ := fresh rfl
    cases seen
    rfl
  | payload => cases id <;> cases seen
  | dropping => cases seen

/-- Whatever a stream holds, what it delivers does not depend on how it is cut. -/
theorem exists_events (clock : Nat → Nat) (mux : Multiplexer) :
    ∃ events : Bytes → List ServerReadEvent, ∀ chunks, ∃ final,
      { mux with state := .established, recvConnection := {} }.processReadEvents clock chunks =
        .ok (final, events chunks.flatten) := by
  let start : Multiplexer := { mux with state := .established, recvConnection := {} }
  have runs (stream : Bytes) := StepMachine.Run.exists_of_closed start.format.machine_closed
    (.header []) stream start.format.headerSize_pos
  choose final outputs run _ using runs
  refine ⟨fun stream => (outputs stream).map render, fun chunks => ?_⟩
  have cut := (run chunks.flatten).chunks start.format.machine_local
  obtain ⟨last, processed, -⟩ := processReadEvents_of_chunkRun clock rfl cut (serves_self rfl) rfl
  exact ⟨last, processed⟩

end Multiplexer

end TrustTunnel.Client.HttpUdpMultiplexer
