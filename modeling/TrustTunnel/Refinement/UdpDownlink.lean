import TrustTunnel.Client.UdpMultiplexer
import TrustTunnel.Endpoint.UdpCodec

/-!
# UDP from the endpoint to the client

What the endpoint encodes are records for the client's reader. So the read
events of the client do not depend on how the stream is cut, and a datagram
that no connection wants is skipped by its length.
-/

namespace TrustTunnel.Refinement.UdpDownlink

open Chunked Endpoint Endpoint.HttpUdpCodec Client.WireUtils Client.HttpUdpMultiplexer List

/-- A datagram the client can receive: its payload is a UDP payload, and the client reads
its addresses as the endpoint wrote them. -/
structure Sendable (dgram : Forwarder.UdpDatagram) : Prop where
  nonempty : dgram.payload ≠ []
  bounded : dgram.payload.length ≤ 65527
  source : SafelyPadded dgram.metadata.source.ip
  destination : SafelyPadded dgram.metadata.destination.ip

/-- The bytes the endpoint sends for the datagrams. -/
def encodedStream (dgrams : List Forwarder.UdpDatagram) : Bytes :=
  (dgrams.filterMap Encoder.encodePacket).flatten

/-- The event for a datagram: the reversed address pair is mapped to a connection with
reads enabled. -/
def expectedEvent (mux : Multiplexer) (dgram : Forwarder.UdpDatagram) : Option ServerReadEvent :=
  ((mux.addrToId ⟨dgram.metadata.destination, dgram.metadata.source⟩).filter
    mux.readable).map fun id => ⟨id, dgram.payload⟩

variable {mux : Multiplexer} {dgram : Forwarder.UdpDatagram}

/-- The first 40 bytes of an encoded datagram. -/
def encodedHeader (dgram : Forwarder.UdpDatagram) : Bytes :=
  Wire.beBytes 4 (36 + dgram.payload.length) ++
    (dgram.metadata.source.ip.toFixedSize.toList ++
      (Wire.beBytes 2 dgram.metadata.source.port.toNat ++
        (dgram.metadata.destination.ip.toFixedSize.toList ++
          Wire.beBytes 2 dgram.metadata.destination.port.toNat)))

lemma encodePacket_eq (dgram : Forwarder.UdpDatagram) :
    Encoder.encodePacket dgram = some (encodedHeader dgram ++ dgram.payload) := by
  have lengthField : Wire.beBytes 4 (UInt32.ofNat (36 + dgram.payload.length)).toNat =
      Wire.beBytes 4 (36 + dgram.payload.length) := by
    rw [UInt32.toNat_ofNat']
    exact Wire.beBytes_mod 4 _
  rw [Encoder.encodePacket]
  simp only [NetUtils.putFixedSizeIp_eq, encodedHeader, append_assoc]
  rw [show udppktOutFixedHeaderNoLengthSize = 36 from rfl, lengthField]

lemma readPrefix_encodedHeader (mux : Multiplexer) (sendable : Sendable dgram) :
    mux.readPrefix (encodedHeader dgram) =
      .ok ⟨mux.addrToId ⟨dgram.metadata.destination, dgram.metadata.source⟩,
        dgram.payload.length⟩ := by
  have bounded := sendable.bounded
  have announced : Wire.beNat (Wire.beBytes 4 (36 + dgram.payload.length)) =
      36 + dgram.payload.length := by
    rw [Wire.beNat_beBytes]
    exact Nat.mod_eq_of_lt (by omega)
  have inRange : Multiplexer.LengthInRange (36 + dgram.payload.length) := by
    constructor
    · exact Nat.le_add_right 36 _
    · change _ ≤ 65563
      omega
  have payloadLength : 36 + dgram.payload.length -
      (udppktInPrefixSize - Client.HttpUdpMultiplexer.udppktLengthSize) =
        dgram.payload.length := Nat.add_sub_cancel_left 36 _
  rw [encodedHeader, mux.readPrefix_append _ _ (Wire.length_beBytes 4 _)
    (Wire.length_beBytes 2 _) (Wire.length_beBytes 2 _), announced, if_pos inRange,
    payloadLength, ipOfPadded_toFixedSize sendable.source,
    ipOfPadded_toFixedSize sendable.destination, port_of_wire, port_of_wire]

/-- An encoded datagram is a record for the client. -/
def record (mux : Multiplexer) (dgram : Forwarder.UdpDatagram)
    (sendable : Sendable dgram) : mux.format.Record where
  header := encodedHeader dgram
  body := dgram.payload
  header_length := by
    simp only [encodedHeader, List.length_append, Wire.length_beBytes, List.Vector.toList_length]
    rfl
  body_length := by
    simp only [Multiplexer.format, readPrefix_encodedHeader mux sendable]

lemma output_record (mux : Multiplexer) (sendable : Sendable dgram) :
    (record mux dgram sendable).output.map Multiplexer.render = expectedEvent mux dgram := by
  simp only [Format.Record.output, record, Multiplexer.format,
    readPrefix_encodedHeader mux sendable, expectedEvent, Option.map_map]
  rfl

lemma encodedStream_cons (dgram : Forwarder.UdpDatagram) (dgrams : List Forwarder.UdpDatagram) :
    encodedStream (dgram :: dgrams) =
      encodedHeader dgram ++ dgram.payload ++ encodedStream dgrams := by
  rw [encodedStream, filterMap_cons_some (encodePacket_eq _)]
  rfl

/-- The stream of the endpoint as a stream of records. -/
lemma exists_records (mux : Multiplexer) {dgrams : List Forwarder.UdpDatagram}
    (sendable : ∀ dgram ∈ dgrams, Sendable dgram) :
    ∃ records : List mux.format.Record, Format.Record.stream records = encodedStream dgrams ∧
      (records.filterMap Format.Record.output).map Multiplexer.render =
        dgrams.filterMap (expectedEvent mux) ∧
      ∀ record ∈ records, record.body ≠ [] := by
  induction dgrams with
  | nil => exact ⟨[], rfl, rfl, forall_mem_nil _⟩
  | cons dgram _ ih =>
    obtain ⟨first, others⟩ := forall_mem_cons.mp sendable
    obtain ⟨records, stream, events, bodies⟩ := ih others
    refine ⟨record mux _ first :: records, ?_, ?_, ?_⟩
    · rw [Format.Record.stream_cons, stream, encodedStream_cons]
      rfl
    · have output := output_record mux first
      cases wanted : (record mux dgram first).output with
      | none =>
        rw [wanted] at output
        rw [filterMap_cons_none wanted, events, filterMap_cons_none output.symm]
      | some =>
        rw [wanted] at output
        rw [filterMap_cons_some wanted, map_cons, events, filterMap_cons_some output.symm]
    · exact forall_mem_cons.mpr ⟨first.nonempty, bodies⟩

/-- Whatever way the stream of the endpoint is cut, the client raises one read event for
each datagram of a connection with reads enabled, in order and with its payload, drops
the others, and is at a packet boundary again. -/
theorem processReadEvents_encodedStream (clock : Nat → Nat) (mux : Multiplexer)
    (established : mux.state = .established) (boundary : mux.recvConnection = {})
    {dgrams : List Forwarder.UdpDatagram} (sendable : ∀ dgram ∈ dgrams, Sendable dgram)
    (chunks : List Bytes) (split : chunks.flatten = encodedStream dgrams) :
    ∃ final, mux.processReadEvents clock chunks =
        .ok (final, dgrams.filterMap (expectedEvent mux)) ∧
      mux.Serves final ∧ final.recvConnection = {} := by
  obtain ⟨records, stream, events, bodies⟩ := exists_records mux sendable
  have run := Format.Record.run_stream records fun last isLast =>
    bodies last (mem_of_getLast? isLast)
  rw [stream, ← split] at run
  obtain ⟨final, processed, serves, seen⟩ :=
    Multiplexer.processReadEvents_of_chunkRun clock established
      (run.chunks mux.format.machine_local) (Multiplexer.serves_self boundary)
      (Multiplexer.view_of_boundary boundary)
  rw [events] at processed
  exact ⟨final, processed, serves, serves.boundary seen⟩

def onlyConnection : ConnectionId := ⟨1, by decide⟩

/-- A client with one connection, between 10.0.0.1:5000 and 8.8.8.8:53. -/
def client : Multiplexer where
  state := .established
  recvConnection := {}
  addrToId pair :=
    if pair = ⟨⟨.v4 (.new 10 0 0 1), 5000⟩, ⟨.v4 (.new 8 8 8 8), 53⟩⟩ then
      some onlyConnection
    else none
  connections id := if id = onlyConnection then some ⟨true, 0⟩ else none
  clockReads := 0

/-- An answer to the connection of the client. -/
def answer : Forwarder.UdpDatagram :=
  ⟨⟨⟨.v4 (.new 8 8 8 8), 53⟩, ⟨.v4 (.new 10 0 0 1), 5000⟩⟩, [1, 2, 3]⟩

/-- A datagram of no connection. -/
def stray : Forwarder.UdpDatagram := ⟨⟨⟨.v4 (.new 1 1 1 1), 53⟩, ⟨.v4 (.new 10 0 0 1), 5000⟩⟩, [9]⟩

lemma sendable_answer : Sendable answer where
  nonempty := cons_ne_nil _ _
  bounded := by decide
  source := by decide
  destination := by decide

lemma sendable_stray : Sendable stray where
  nonempty := cons_ne_nil _ _
  bounded := by decide
  source := by decide
  destination := by decide

/-- The stray datagram is dropped, the answer behind it is delivered. -/
theorem processReadEvents_stray_answer :
    ∃ final, client.processReadEvents (fun _ => 0)
        [(encodedStream [stray, answer]).take 20, (encodedStream [stray, answer]).drop 20] =
      .ok (final, [⟨onlyConnection, [1, 2, 3]⟩]) := by
  have sendable : ∀ dgram ∈ [stray, answer], Sendable dgram := by
    simp [sendable_answer, sendable_stray]
  obtain ⟨final, processed, -, -⟩ := processReadEvents_encodedStream (fun _ => 0) client rfl rfl
    sendable [(encodedStream [stray, answer]).take 20, (encodedStream [stray, answer]).drop 20]
    (by simp)
  refine ⟨final, processed.trans ?_⟩
  have events : [stray, answer].filterMap (expectedEvent client) =
      [⟨onlyConnection, [1, 2, 3]⟩] := by decide +kernel
  rw [events]

end TrustTunnel.Refinement.UdpDownlink
