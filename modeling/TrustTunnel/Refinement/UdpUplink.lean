import TrustTunnel.Client.UdpMultiplexer
import TrustTunnel.Endpoint.UdpResync

/-!
# UDP from the client to the endpoint

The packets composed by the client are frames for the decoder of the endpoint.
The two ends agree as long as the app name needs no truncation and the frame
stays within the limit of the endpoint, which counts the app name twice. A
truncated name makes the length field announce bytes that belong to no field.
-/

namespace TrustTunnel.Refinement.UdpUplink

open Chunked Client.HttpUdpMultiplexer Endpoint Endpoint.HttpUdpCodec Endpoint.HttpDownstream List

/-- The packet composed by the client reaches the endpoint: however it is cut, the
decoder emits one datagram with the same addresses and payload and a beginning of
the app name, and is ready for the next frame. -/
def Delivered (source dest : SocketAddr) (appName : String) (payload : Bytes) :
    Prop :=
  ∃ packet, composeUdpPacket source dest (.ofString appName) payload = .ok packet ∧
    ∀ chunks : List Bytes, chunks.flatten = packet →
      ∃ dgram final,
        DatagramDecoder.Reads Decoder.machine (.start .new chunks) [dgram]
          (.start final []) ∧ final.Ready ∧
        dgram.metadata.source = source ∧
        dgram.metadata.destination = dest ∧
        dgram.payload = payload ∧
        ∃ name rest, dgram.metadata.appName = some name ∧ name ++ rest = appName

/-! ## The frame a packet announces -/

/-- The frame that the 32-bit length in front of `contents` announces. -/
def announced (contents : Bytes) : Frame where
  contents := contents.take (contents.length % 2 ^ 32)
  bounded := by
    rw [List.length_take]
    omega

lemma length_announced (contents : Bytes) :
    (announced contents).contents.length = contents.length % 2 ^ 32 := by
  change (contents.take _).length = _
  rw [length_take]
  exact min_eq_left (Nat.mod_le _ _)

/-- A packet is the frame its length announces, and what is left behind it. -/
lemma announced_bytes (contents : Bytes) :
    Wire.beBytes Client.HttpUdpMultiplexer.udppktLengthSize contents.length ++ contents =
      (announced contents).bytes ++ contents.drop (contents.length % 2 ^ 32) := by
  have lengthField := Wire.beBytes_mod 4 contents.length
  change Wire.beBytes 4 contents.length ++ contents =
    Wire.beBytes 4 (announced contents).contents.length ++ contents.take _ ++ _
  rw [length_announced, append_assoc, take_append_drop, ← lengthField]
  rfl

variable {source dest : SocketAddr} {appName : Bytes} {payload : Bytes}

section

variable (sourceUnambiguous : source.ip.Unambiguous) (destinationUnambiguous : dest.ip.Unambiguous)

include sourceUnambiguous destinationUnambiguous

lemma readFixedHeader_packetHeader (appName : Bytes) :
    Decoder.readFixedHeader (packetHeader source dest appName) =
      .ok (source, dest, (appName.take uint8Max).length) := by
  have read := Decoder.readFixedHeader_append source.ip.toFixedSize
    dest.ip.toFixedSize (.ofNat (appName.take uint8Max).length) []
    (Wire.length_beBytes 2 source.port.toNat) (Wire.length_beBytes 2 dest.port.toNat)
  have small : (appName.take uint8Max).length < 256 := by
    rw [length_take, uint8Max]
    omega
  have byte : (UInt8.ofNat (appName.take uint8Max).length).toNat =
      (appName.take uint8Max).length := by
    rw [UInt8.toNat_ofNat']
    exact Nat.mod_eq_of_lt small
  rw [byte, port_of_wire, port_of_wire, IpAddr.ofFixedSize_toFixedSize sourceUnambiguous,
    IpAddr.ofFixedSize_toFixedSize destinationUnambiguous] at read
  rw [← read, packetHeader, SocketAddr.toFixedSize, SocketAddr.toFixedSize]
  simp only [append_assoc]

/-- The announced frame starts with the header, if it is long enough. -/
lemma announced_parts (appName payload : Bytes)
    (long : 37 ≤ (packetContents source dest appName payload).length % 2 ^ 32) :
    (announced (packetContents source dest appName payload)).Parts
      (packetHeader source dest appName)
      ((packetBody appName payload).take
        ((packetContents source dest appName payload).length % 2 ^ 32 - 37))
      source dest (appName.take uint8Max).length where
  contents := by
    change (packetContents source dest appName payload).take _ = _
    have headerLength := length_packetHeader source dest appName
    generalize (packetContents source _ appName payload).length % 2 ^ 32 = count at long ⊢
    rw [packetContents, take_append, take_of_length_le (by omega), headerLength]
  header_length := length_packetHeader source dest appName
  header_read := readFixedHeader_packetHeader sourceUnambiguous destinationUnambiguous appName
  small := by
    rw [length_take, uint8Max]
    omega

/-! ## Packets that are delivered -/

section

variable {name : String} (short : (Bytes.ofString name).length ≤ 255)
  (fits : 37 + 2 * (Bytes.ofString name).length + payload.length ≤ 65471)

include short fits

/-- A short name and a frame within the limit of the endpoint make an accepted
frame. -/
lemma announced_accepted :
    (announced (packetContents source dest (.ofString name) payload)).datagram? =
      some ⟨⟨source, dest, some name⟩, payload⟩ := by
  have length := length_packetContents source dest (.ofString name) payload
  have bodyLength := length_packetBody (.ofString name) payload
  have parts := announced_parts sourceUnambiguous destinationUnambiguous (.ofString name)
    payload (by omega)
  have nameWhole : (Bytes.ofString name).take uint8Max = Bytes.ofString name :=
    take_of_length_le short
  have noPadding : (Bytes.ofString name).length - uint8Max = 0 := Nat.sub_eq_zero_of_le short
  have body : packetBody (.ofString name) payload = .ofString name ++ payload := by
    rw [packetBody, nameWhole, noPadding, replicate_zero, append_nil]
  rw [nameWhole, take_of_length_le (by omega), body] at parts
  have lengthFrame := length_announced (packetContents source dest (.ofString name) payload)
  rw [parts.datagram?_eq, take_left, drop_left, Bytes.fromUtf8_ofString, if_neg, if_neg]
  · rfl
  · change ¬_ < 37 + _
    omega
  · change ¬65471 - _ < _
    omega

lemma delivered_of_fits (nonempty : payload ≠ []) : Delivered source dest name payload := by
  refine ⟨_, composeUdpPacket_eq source _ _ payload, ?_⟩
  intro chunks split
  have accepted := announced_accepted sourceUnambiguous destinationUnambiguous short fits
  have length := length_packetContents source dest (.ofString name) payload
  have whole : (packetContents source dest (.ofString name) payload).length % 2 ^ 32 =
      (packetContents source dest (.ofString name) payload).length :=
    Nat.mod_eq_of_lt (by omega)
  rw [announced_bytes, whole, drop_length, append_nil] at split
  have run := Frame.run_accepted_stream [announced _]
    [⟨⟨source, dest, some name⟩, payload⟩] (by simpa using accepted) (by simpa using nonempty)
  obtain ⟨final, ready, run⟩ := run
  rw [Frame.stream, flatMap_singleton, ← split] at run
  exact ⟨_, final, DatagramDecoder.reads_of_run Decoder.machine_local run, ready, rfl, rfl,
    rfl, name, "", rfl, String.append_empty⟩

end

/-! ## Packets that are not delivered -/

/-- What an accepted packet looks like to the endpoint. -/
lemma announced_payload {dgram : Downstream.UdpDatagram}
    (accepted : (announced (packetContents source dest appName payload)).datagram? = some dgram) :
    (packetContents source dest appName payload).length % 2 ^ 32 =
        37 + (appName.take uint8Max).length + dgram.payload.length ∧
      37 + 2 * (appName.take uint8Max).length + dgram.payload.length ≤ 65471 := by
  obtain ⟨header, name, source', destination', decoded, parts, inLimit, -, -⟩ :=
    Frame.datagram?_eq_some accepted
  have length := parts.length
  rw [length_announced, length_append] at length
  change _ = 37 + _ at length
  have known := announced_parts sourceUnambiguous destinationUnambiguous appName payload (by omega)
  have sameHeader := (append_inj (parts.contents.symm.trans known.contents)
    (parts.header_length.trans known.header_length.symm)).1
  have sameRead := parts.header_read
  rw [sameHeader, known.header_read] at sameRead
  simp only [Except.ok.injEq, Prod.mk.injEq] at sameRead
  rw [length_announced] at inLimit
  change _ ≤ 65471 - _ at inLimit
  omega

end

/-- What is left behind a truncated packet that was accepted with its own payload. -/
lemma drop_packetContents (source dest : SocketAddr) {appName : Bytes}
    (payload : Bytes) (long : uint8Max < appName.length) :
    (packetContents source dest appName payload).drop (37 + uint8Max + payload.length) =
      List.replicate (appName.length - uint8Max) 0 := by
  have front : (packetHeader source dest appName ++
      (appName.take uint8Max ++ payload)).length = 37 + uint8Max + payload.length := by
    rw [length_append, length_append, length_packetHeader, length_take]
    omega
  have shape : packetContents source dest appName payload =
      packetHeader source dest appName ++ (appName.take uint8Max ++ payload) ++
        List.replicate (appName.length - uint8Max) 0 := by
    rw [packetContents, packetBody]
    simp only [append_assoc]
  rw [← front, shape, drop_left]

/-- Bytes that are read as one datagram with this payload, however they are cut. -/
def ReadAs (payload bytes : Bytes) : Prop :=
  ∀ chunks : List Bytes, chunks.flatten = bytes →
    ∃ dgram final,
      DatagramDecoder.Reads Decoder.machine (.start .new chunks) [dgram]
        (.start final []) ∧ final.Ready ∧ dgram.payload = payload

lemma ReadAs.ready {bytes : Bytes} (reads : ReadAs payload bytes) {chunks : List Bytes}
    {dgrams : List Downstream.UdpDatagram} {final : Decoder} (split : chunks.flatten = bytes)
    (other : DatagramDecoder.Reads Decoder.machine (.start .new chunks) dgrams (.start final [])) :
    final.Ready ∧ dgrams.map (·.payload) = [payload] := by
  obtain ⟨dgram, final', reads, ready, samePayload⟩ := reads chunks split
  obtain ⟨same, sameFinal⟩ := other.deterministic reads
  cases sameFinal
  rw [same, ← samePayload]
  exact ⟨ready, rfl⟩

/-- A frame in front of other bytes is read as one datagram only if it is accepted, and
then, unless nothing follows its name, with this payload. -/
lemma ReadAs.accepted {frame : Frame} {leftover : Bytes}
    (enough : leftover = [] ∨ 2 ≤ leftover.length)
    (reads : ReadAs payload (frame.bytes ++ leftover)) :
    ∃ dgram, frame.datagram? = some dgram ∧
      (dgram.payload ++ leftover ≠ [] → dgram.payload = payload) := by
  cases verdict : frame.datagram? with
  | none =>
    obtain ⟨chunks, dgrams, final, split, rejects, notReady⟩ :=
      Frame.reads_rejected _ verdict enough
    exact absurd (reads.ready split rejects).1 notReady
  | some dgram =>
    refine ⟨dgram, rfl, fun more => ?_⟩
    have sound : (frame.idle dgram).Sound := Nat.succ_pos 3
    obtain ⟨final, outputs, run, -⟩ := sound.run _
    have whole := Frame.run_accepted (fun _ _ => trivial) Decoder.ready_new verdict more
      (run.mono fun _ _ => trivial)
    have all := DatagramDecoder.reads_of_chunkRun
      (.start _ [frame.bytes ++ leftover]) (.chunk whole (.done _))
    have payloads := (reads.ready (by simp) all).2
    simp only [cons_append, map_cons, List.cons.injEq] at payloads
    exact payloads.1

section

variable (sourceUnambiguous : source.ip.Unambiguous)
  (destinationUnambiguous : dest.ip.Unambiguous) (nonempty : payload ≠ [])
  (bounded : payload.length ≤ 65507)

include sourceUnambiguous destinationUnambiguous nonempty bounded

lemma fits_of_readAs
    (reads : ReadAs payload
      (Wire.beBytes Client.HttpUdpMultiplexer.udppktLengthSize
          (packetContents source dest appName payload).length ++
        packetContents source dest appName payload)) :
    appName.length ≤ 255 ∧ 37 + 2 * appName.length + payload.length ≤ 65471 := by
  have length := length_packetContents source dest appName payload
  rw [announced_bytes] at reads
  generalize leftover : (packetContents source _ appName payload).drop _ = rest at reads
  have restLength := congrArg List.length leftover
  rw [length_drop] at restLength
  have enough : rest = [] ∨ 2 ≤ rest.length := by
    rw [← length_eq_zero_iff]
    omega
  obtain ⟨dgram, accepted, samePayload⟩ := reads.accepted enough
  obtain ⟨total, inLimit⟩ := announced_payload sourceUnambiguous destinationUnambiguous accepted
  have size : uint8Max = 255 := rfl
  by_cases short : appName.length ≤ 255
  · have whole : (appName.take uint8Max).length = appName.length := by
      rw [length_take]
      exact min_eq_right short
    omega
  -- The name was truncated: the length field and the fields behind it disagree.
  exfalso
  have cut : (appName.take uint8Max).length = uint8Max := by
    rw [length_take]
    exact min_eq_left (by omega)
  have equal := samePayload fun empty => by
    have noBytes := congrArg List.length empty
    rw [length_append, length_nil] at noBytes
    omega
  have zeros := drop_packetContents source dest payload (show uint8Max < appName.length by omega)
  rw [equal, cut] at total
  rw [total, zeros] at leftover
  obtain ⟨chunks, dgrams, final, split, others, notReady⟩ :=
    Frame.reads_zeros (appName.length - uint8Max) accepted (by rwa [equal]) (by omega)
  rw [leftover] at split
  exact notReady (reads.ready split others).1

/-- A packet is delivered only if its name is not truncated and its frame is within the
limit of the endpoint. -/
lemma fits_of_delivered {name : String} (delivered : Delivered source dest name payload) :
    (Bytes.ofString name).length ≤ 255 ∧
      37 + 2 * (Bytes.ofString name).length + payload.length ≤ 65471 := by
  obtain ⟨packet, composed, reads⟩ := delivered
  rw [composeUdpPacket_eq] at composed
  cases composed
  refine fits_of_readAs sourceUnambiguous destinationUnambiguous nonempty bounded ?_
  intro chunks split
  obtain ⟨dgram, final, reads, ready, -, -, samePayload, -⟩ := reads chunks split
  exact ⟨dgram, final, reads, ready, samePayload⟩

end

/-! ## Exact condition -/

/-- The endpoint receives what the client sends exactly when the app name is not
truncated and the frame is within the limit of the endpoint. -/
theorem delivered_iff (source dest : SocketAddr) (sourceUnambiguous : source.ip.Unambiguous)
    (destinationUnambiguous : dest.ip.Unambiguous) (name : String) (payload : Bytes)
    (nonempty : payload ≠ []) (bounded : payload.length ≤ 65507) :
    Delivered source dest name payload ↔
      (Bytes.ofString name).length ≤ 255 ∧
        37 + 2 * (Bytes.ofString name).length + payload.length ≤ 65471 := by
  constructor
  · intro delivered
    exact fits_of_delivered sourceUnambiguous destinationUnambiguous nonempty bounded delivered
  · intro fits
    exact delivered_of_fits sourceUnambiguous destinationUnambiguous fits.1 fits.2 nonempty

def clientAddress : SocketAddr := ⟨.v4 (.new 10 0 0 1), 5000⟩

def resolverAddress : SocketAddr := ⟨.v4 (.new 8 8 8 8), 53⟩

theorem delivered_browser : Delivered clientAddress resolverAddress "browser" [1, 2, 3] :=
  (delivered_iff clientAddress resolverAddress trivial trivial "browser" [1, 2, 3]
    (cons_ne_nil _ _) (by decide)).mpr (by decide +kernel)

/-- A name of 256 bytes. -/
def longName : String := String.ofList (List.replicate 256 'a')

theorem not_delivered_longName : ¬Delivered clientAddress resolverAddress longName [1] := by
  intro delivered
  have sourceUnambiguous : clientAddress.ip.Unambiguous := trivial
  have destinationUnambiguous : resolverAddress.ip.Unambiguous := trivial
  have fits := fits_of_delivered sourceUnambiguous destinationUnambiguous
    (cons_ne_nil _ _) (by decide) delivered
  revert fits
  decide +kernel

end TrustTunnel.Refinement.UdpUplink
