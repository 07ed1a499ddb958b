import TrustTunnel.Chunked.Delivery
import TrustTunnel.Endpoint.UdpResync
import TrustTunnel.Refinement.UdpDownlink

/-!
# When datagrams are delivered

The loops of both sides stop with the data. A frame with an empty payload that ends a chunk
is complete, and its datagram waits for the next chunk.
-/

namespace TrustTunnel.Refinement.PromptDatagrams

open Chunked Endpoint.HttpUdpCodec Endpoint.HttpDownstream Client.HttpUdpMultiplexer List

/-- A frame that the endpoint accepts. -/
structure AcceptedFrame where
  frame : Frame
  datagram : Endpoint.Downstream.UdpDatagram
  accepted : frame.datagram? = some datagram

/-- What the endpoint reads. -/
def frames : Items AcceptedFrame UInt8 Endpoint.Downstream.UdpDatagram where
  bytes sent := sent.frame.bytes
  output sent := some sent.datagram
  Late sent := sent.datagram.payload = []

/-- What the client reads: 40 bytes and a payload of the length they tell. -/
def packets (mux : Multiplexer) : Items mux.format.Record UInt8 (ConnectionId × Bytes) where
  bytes := Format.Record.bytes
  output := Format.Record.output
  Late packet := packet.body = []

/-- The datagrams that a decoder of the endpoint returns for the chunks. -/
def Returns (fed : List Bytes) (dgrams : List Endpoint.Downstream.UdpDatagram) : Prop :=
  ∃ final, DatagramDecoder.Reads Decoder.machine (.start .new fed) dgrams final

/-- The read events that the client raises for the chunks. -/
def Raises (clock : Nat → Nat) (mux : Multiplexer) (fed : List Bytes)
    (events : List (ConnectionId × Bytes)) : Prop :=
  ∃ final, mux.processReadEvents clock fed = .ok (final, events.map Multiplexer.render)

lemma readBy_frames : frames.ReadBy Decoder.machine Decoder.Reading Decoder.Ready where
  isLocal := Decoder.machine_local
  nonempty sent := append_ne_nil_of_left_ne_nil sent.frame.lengthPrefix_ne_nil _
  reads {_ sent} rest ready more := by
    refine ⟨_, sent.frame.ready_idle sent.datagram, fun run => ?_⟩
    refine Frame.run_accepted (fun _ reading => reading) ready sent.accepted (fun empty => ?_) run
    obtain ⟨late, nothing⟩ := append_eq_nil_iff.mp empty
    exact more late nothing
  waits {_ sent} ready late := Frame.run_empty_payload ready sent.accepted late

lemma readBy_packets (mux : Multiplexer) :
    (packets mux).ReadBy mux.format.machine mux.format.Good (· = .header []) where
  isLocal := mux.format.machine_local
  nonempty packet := packet.bytes_ne_nil
  reads {_ packet} rest ready more := by
    subst ready
    refine ⟨_, rfl, fun run => packet.run_record (fun empty => ?_) run⟩
    obtain ⟨late, nothing⟩ := append_eq_nil_iff.mp empty
    exact more late nothing
  waits {_ packet} ready late := by
    subst ready
    have turn : mux.format.machine.step (.header []) packet.header =
        .ok ⟨mux.format.opened packet.header, none, []⟩ := by
      have read := packet.header_turn []
      rw [append_nil] at read
      exact congrArg Except.ok read
    refine ⟨mux.format.opened packet.header, ?_⟩
    change mux.format.machine.Run _ _ (packet.header ++ packet.body) _ _
    rw [show packet.body = [] from late, append_nil]
    refine .silent (fun empty => ?_) mux.format.headerSize_pos turn (.done _)
    have header := packet.header_length
    rw [empty] at header
    exact absurd mux.format.headerSize_pos (by simp [← header])

lemma prompt_frames_iff {sent : List AcceptedFrame} {chunks : List Bytes}
    (split : chunks.flatten = frames.stream sent) :
    frames.Prompt Returns sent chunks ↔ frames.Followed sent chunks := by
  refine readBy_frames.prompt_iff Decoder.ready_new (fun run => ?_) ?_ split
  · exact ⟨_, DatagramDecoder.reads_of_run Decoder.machine_local run⟩
  · rintro fed outputs outputs' ⟨_, reads⟩ ⟨_, reads'⟩
    rw [(reads.deterministic reads').1]

lemma prompt_packets_iff (clock : Nat → Nat) {mux : Multiplexer}
    (established : mux.state = .established) (boundary : mux.recvConnection = {})
    {got : List mux.format.Record} {pieces : List Bytes}
    (cut : pieces.flatten = (packets mux).stream got) :
    (packets mux).Prompt (Raises clock mux) got pieces ↔ (packets mux).Followed got pieces := by
  refine (readBy_packets mux).prompt_iff rfl (fun run => ?_) ?_ cut
  · obtain ⟨final, processed, -, -⟩ := Multiplexer.processReadEvents_of_chunkRun clock established
      (run.chunks mux.format.machine_local) (Multiplexer.serves_self boundary)
      (Multiplexer.view_of_boundary boundary)
    exact ⟨final, processed⟩
  · rintro fed outputs outputs' ⟨_, raised⟩ ⟨_, raised'⟩
    rw [raised] at raised'
    have same := congrArg List.length (Prod.mk.inj (Except.ok.inj raised')).2
    rwa [length_map, length_map] at same

/-- Every datagram is delivered with the last byte of its frame, by the endpoint and by the client,
if and only if no frame with an empty payload ends a chunk. -/
theorem prompt_iff_followed (sent : List AcceptedFrame) {chunks : List Bytes}
    (split : chunks.flatten = frames.stream sent) (clock : Nat → Nat) {mux : Multiplexer}
    (established : mux.state = .established) (boundary : mux.recvConnection = {})
    (got : List mux.format.Record) {pieces : List Bytes}
    (cut : pieces.flatten = (packets mux).stream got) :
    frames.Prompt Returns sent chunks ∧ (packets mux).Prompt (Raises clock mux) got pieces ↔
      frames.Followed sent chunks ∧ (packets mux).Followed got pieces :=
  and_congr (prompt_frames_iff split) (prompt_packets_iff clock established boundary cut)

lemma datagram?_ping : Frame.ping.datagram? =
    some ⟨⟨⟨.v4 (.new 10 0 0 1), 5000⟩, ⟨.v4 (.new 8 8 8 8), 53⟩, some ""⟩, [42]⟩ := by
  decide +kernel

/-- A frame of the endpoint and a packet of the client that arrive with their payloads. -/
theorem prompt_ping_answer :
    frames.Prompt Returns [⟨_, _, datagram?_ping⟩] [Frame.ping.bytes] ∧
      (packets UdpDownlink.client).Prompt (Raises (fun _ => 0) UdpDownlink.client)
        [UdpDownlink.record _ _ UdpDownlink.sendable_answer]
        [(UdpDownlink.record UdpDownlink.client _ UdpDownlink.sendable_answer).bytes] := by
  refine (prompt_iff_followed _ rfl (fun _ => 0) rfl rfl _ rfl).mpr
    ⟨Items.followed_of_not_late ?_, Items.followed_of_not_late ?_⟩
  · exact forall_mem_singleton.mpr (cons_ne_nil _ _)
  · exact forall_mem_singleton.mpr (cons_ne_nil _ _)

/-- A frame with an empty payload. -/
def silence : Frame where
  contents := Frame.ping.contents.dropLast
  bounded := lt_of_le_of_lt (by simp) Frame.ping.bounded

lemma datagram?_silence : silence.datagram? =
    some ⟨⟨⟨.v4 (.new 10 0 0 1), 5000⟩, ⟨.v4 (.new 8 8 8 8), 53⟩, some ""⟩, []⟩ := by
  decide +kernel

/-- A packet with an empty payload. -/
def emptyPacket : UdpDownlink.client.format.Record where
  header := UdpDownlink.encodedHeader ⟨UdpDownlink.answer.metadata, []⟩
  body := []
  header_length := rfl
  body_length := by decide +kernel

/-- Neither side delivers a datagram with an empty payload when its frame ends the chunk. -/
theorem not_prompt_empty :
    ¬frames.Prompt Returns [⟨_, _, datagram?_silence⟩] [silence.bytes] ∧
      ¬(packets UdpDownlink.client).Prompt (Raises (fun _ => 0) UdpDownlink.client) [emptyPacket]
        [emptyPacket.bytes] := by
  have handed : emptyPacket.output.isSome := by decide +kernel
  constructor
  · intro prompt
    exact (prompt_frames_iff rfl).mp prompt _ [] rfl [] _ [] rfl rfl rfl rfl
  · intro prompt
    exact (prompt_packets_iff (fun _ => 0) rfl rfl rfl).mp prompt _ [] rfl [] _ [] rfl rfl handed rfl

end TrustTunnel.Refinement.PromptDatagrams
