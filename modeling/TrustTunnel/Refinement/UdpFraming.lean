import TrustTunnel.Endpoint.UdpResync
import TrustTunnel.Refinement.UdpDownlink

/-!
# Packets of bad length on the client

The client judges the length of a packet after it has taken a prefix of 40 bytes,
and then drops no byte of a packet whose length is out of range. A shorter packet
has lost the beginning of the next one by then, and the rest of a longer packet is
read as new packets: a packet of bad length is never skipped by its length.
-/

namespace TrustTunnel.Refinement.UdpFraming

open Chunked Endpoint.HttpUdpCodec Client.HttpUdpMultiplexer List UdpDownlink
open Client.HttpUdpMultiplexer.Multiplexer (LengthInRange)

/-- The length of the frame is at least that of the address header and at most the
maximum the client accepts. -/
def WellFormed (frame : Frame) : Prop := LengthInRange frame.contents.length

instance (frame : Frame) : Decidable (WellFormed frame) :=
  inferInstanceAs (Decidable (LengthInRange _))

/-- Nothing of a packet is held or left to drop. -/
def AtBoundary (mux : Multiplexer) : Prop :=
  (mux.recvConnection.state = .idle ∧ mux.recvConnection.buffer = []) ∨
    (mux.recvConnection.state = .dropping ∧ mux.recvConnection.bytesLeft = 0)

/-- The frame is skipped by exactly its declared length: wherever the stream is cut inside
the frame, the client is back at a boundary behind the last byte and not before. -/
def SkipsExactly (clock : Nat → Nat) (mux : Multiplexer) (frame : Frame) : Prop :=
  ∀ (chunks : List Bytes) (rest : Bytes), chunks.flatten ++ rest = frame.bytes →
    chunks.flatten ≠ [] →
      ∃ final events, mux.processReadEvents clock chunks = .ok (final, events) ∧
        (AtBoundary final ↔ rest = [])

/-- Frames of bad length are skipped exactly, and the events are those of the stream
without them, however both are cut. -/
def Resynchronises (clock : Nat → Nat) (mux : Multiplexer) (frames : List Frame) : Prop :=
  (∀ frame ∈ frames, ¬WellFormed frame → SkipsExactly clock mux frame) ∧
  ∀ chunks others : List Bytes, chunks.flatten = Frame.stream frames →
    others.flatten = Frame.stream (frames.filter fun frame => WellFormed frame) →
      ∃ final final' events, mux.processReadEvents clock chunks = .ok (final, events) ∧
        mux.processReadEvents clock others = .ok (final', events)

variable {mux self : Multiplexer} {frame : Frame} {clock : Nat → Nat}

open Multiplexer

lemma atBoundary_iff (serves : mux.Serves self) :
    AtBoundary self ↔ self.view = .header [] ∨ self.view = .skip 0 := by
  have attached := serves.attached
  rw [AtBoundary, view]
  cases state : self.recvConnection.state with
  | idle | dropping => simp
  | payload =>
    obtain ⟨id, conn, hasId, -⟩ := attached state
    simp [hasId]

lemma processReadEvents_single (clock : Nat → Nat) (established : mux.state = .established)
    (boundary : mux.recvConnection = {}) {chunk : Bytes}
    {final : RecordReader UInt8 ConnectionId} {outputs : List (ConnectionId × Bytes)}
    (run : mux.format.machine.Run mux.format.Good (.header []) chunk final outputs) :
    ∃ last, mux.processReadEvents clock [chunk] = .ok (last, outputs.map render) ∧
      mux.Serves last ∧ last.view = final := by
  have single := StepMachine.ChunkRun.chunk run (.done final)
  rw [append_nil] at single
  exact processReadEvents_of_chunkRun clock established single
    (serves_self boundary) (view_of_boundary boundary)

/-! ## Frames of bad length -/

lemma length_bytes (frame : Frame) : frame.bytes.length = 4 + frame.contents.length := by
  rw [Frame.bytes, length_append]
  rfl

lemma bytes_ne_nil (frame : Frame) : frame.bytes ≠ [] := by
  rw [← length_pos_iff, length_bytes]
  omega

/-- A frame that is too short is held as the beginning of a longer one. -/
lemma run_short (mux : Multiplexer) (short : frame.contents.length < 36) :
    mux.format.machine.Run mux.format.Good (.header []) frame.bytes (.header frame.bytes) [] := by
  have turn : mux.format.turn (.header []) frame.bytes = ⟨.header frame.bytes, none, []⟩ := by
    have waiting : ([] : Bytes).length + frame.bytes.length < mux.format.headerSize := by
      change 0 + _ < 40
      rw [length_bytes]
      omega
    rw [Format.turn, if_pos waiting, nil_append]
  have taken : mux.format.machine.step (.header []) frame.bytes =
      .ok ⟨.header frame.bytes, none, []⟩ := congrArg _ turn
  exact .silent (bytes_ne_nil frame) mux.format.headerSize_pos taken (.done _)

/-- Of a packet whose length is out of range no byte is dropped behind the prefix. -/
lemma opened_bad_length (mux : Multiplexer) {header : Bytes}
    (size : header.length = udppktInPrefixSize)
    (bad : ¬LengthInRange (Wire.beNat (header.take 4))) : mux.format.opened header = .skip 0 := by
  obtain ⟨rawLength, srcPort, dstPort, srcIp, dstIp, rfl, lengthSize, srcPortSize,
    dstPortSize⟩ := exists_prefix_fields size
  rw [take_left' lengthSize] at bad
  have read := mux.readPrefix_append srcIp dstIp lengthSize srcPortSize dstPortSize
  rw [if_neg bad] at read
  rw [opened_eq read]
  rfl

/-- A frame that is too long is forgotten behind its first 40 bytes. -/
lemma run_long (mux : Multiplexer) (long : maxUdpInPacketLength < frame.contents.length) :
    mux.format.machine.Run mux.format.Good (.header []) (frame.bytes.take 40) (.skip 0) [] := by
  change 65563 < _ at long
  have length := length_bytes frame
  have size : (frame.bytes.take 40).length = 40 := by
    rw [length_take]
    omega
  have announced : Wire.beNat ((frame.bytes.take 40).take 4) = frame.contents.length := by
    rw [take_take, min_eq_left (by decide)]
    change Wire.beNat ((Wire.beBytes 4 _ ++ frame.contents).take 4) = _
    rw [take_left' (Wire.length_beBytes _ _), Wire.beNat_beBytes]
    exact Nat.mod_eq_of_lt frame.bounded
  have bad : ¬LengthInRange (Wire.beNat ((frame.bytes.take 40).take 4)) := by
    rw [announced]
    intro inRange
    exact Nat.not_lt.mpr inRange.2 long
  have nonempty : frame.bytes.take 40 ≠ [] := by
    intro empty
    rw [empty] at size
    cases size
  have turn : mux.format.turn (.header []) (frame.bytes.take 40) = ⟨.skip 0, none, []⟩ := by
    have complete : ¬([] : Bytes).length + (frame.bytes.take 40).length <
        mux.format.headerSize := by
      rw [size]
      exact lt_irrefl 40
    have opened := opened_bad_length mux size bad
    rw [Format.turn, if_neg complete]
    change (⟨mux.format.opened ([] ++ (frame.bytes.take 40).take 40), none,
      (frame.bytes.take 40).drop 40⟩ : Turn _ _ _) = _
    rw [nil_append, take_of_length_le (le_of_eq size), drop_of_length_le (le_of_eq size), opened]
  have taken : mux.format.machine.step (.header []) (frame.bytes.take 40) =
      .ok ⟨.skip 0, none, []⟩ := congrArg _ turn
  exact .silent nonempty mux.format.headerSize_pos taken (.done _)

/-- No frame of bad length is skipped by its length. -/
lemma not_skipsExactly (established : mux.state = .established)
    (boundary : mux.recvConnection = {}) (bad : ¬WellFormed frame) :
    ¬SkipsExactly clock mux frame := by
  intro skips
  by_cases short : frame.contents.length < 36
  · obtain ⟨last, processed, serves, seen⟩ :=
      processReadEvents_single clock established boundary (run_short mux short)
    obtain ⟨final, events, processed', back⟩ := skips [frame.bytes] [] (by simp)
      (by simp [bytes_ne_nil])
    rw [processed] at processed'
    cases processed'
    have atBoundary := back.mpr rfl
    rw [atBoundary_iff serves, seen] at atBoundary
    simp [bytes_ne_nil] at atBoundary
  · have long : maxUdpInPacketLength < frame.contents.length := by
      by_contra notLong
      exact bad ⟨Nat.le_of_not_lt short, Nat.le_of_not_lt notLong⟩
    obtain ⟨last, processed, serves, seen⟩ :=
      processReadEvents_single clock established boundary (run_long mux long)
    have length := length_bytes frame
    change 65563 < _ at long
    have someTaken : frame.bytes.take 40 ≠ [] := by
      intro empty
      have size := congrArg List.length empty
      rw [length_take, length_nil] at size
      omega
    obtain ⟨final, events, processed', back⟩ :=
      skips [frame.bytes.take 40] (frame.bytes.drop 40) (by simp) (by simpa using someTaken)
    rw [processed] at processed'
    cases processed'
    have noneLeft := back.mp ((atBoundary_iff serves).mpr (.inr seen))
    have size := congrArg List.length noneLeft
    rw [length_drop, length_nil] at size
    omega

/-! ## Exact condition -/

/-- The events do not depend on how a stream is cut. -/
lemma same_events (clock : Nat → Nat) (established : mux.state = .established)
    (boundary : mux.recvConnection = {}) {chunks others : List Bytes}
    (same : chunks.flatten = others.flatten) :
    ∃ final final' events, mux.processReadEvents clock chunks = .ok (final, events) ∧
      mux.processReadEvents clock others = .ok (final', events) := by
  obtain ⟨reader, outputs, run, -⟩ := StepMachine.Run.exists_of_closed
    mux.format.machine_closed (.header []) _ mux.format.headerSize_pos
  have serves := serves_self boundary
  have seen := view_of_boundary boundary
  obtain ⟨final, processed, -, -⟩ := processReadEvents_of_chunkRun clock
    established (run.chunks mux.format.machine_local) serves seen
  rw [same] at run
  obtain ⟨final', processed', -, -⟩ := processReadEvents_of_chunkRun clock
    established (run.chunks mux.format.machine_local) serves seen
  exact ⟨final, final', _, processed, processed'⟩

/-- The client resynchronises exactly over the streams without frames of bad length. -/
theorem resynchronises_iff_wellFormed (clock : Nat → Nat) (mux : Multiplexer)
    (established : mux.state = .established) (boundary : mux.recvConnection = {})
    (frames : List Frame) :
    Resynchronises clock mux frames ↔ ∀ frame ∈ frames, WellFormed frame := by
  constructor
  · rintro ⟨skips, -⟩ frame mem
    by_contra bad
    exact not_skipsExactly established boundary bad (skips frame mem bad)
  · intro wellFormed
    constructor
    · intro frame mem bad
      exact absurd (wellFormed frame mem) bad
    · intro chunks others split othersSplit
      have all : (frames.filter fun frame => WellFormed frame) = frames :=
        filter_eq_self.mpr fun frame mem => decide_eq_true (wellFormed frame mem)
      rw [all] at othersSplit
      exact same_events clock established boundary (split.trans othersSplit.symm)

/-- The frame of an answer to the client. -/
def answerFrame : Frame :=
  ⟨(UdpDownlink.encodedHeader UdpDownlink.answer).drop 4 ++ UdpDownlink.answer.payload,
    by decide +kernel⟩

theorem resynchronises_answer : Resynchronises (fun _ => 0) client [answerFrame] :=
  (resynchronises_iff_wellFormed (fun _ => 0) client rfl rfl [answerFrame]).mpr (by decide +kernel)

/-- What is left of the answer when the empty frame has swallowed its first 36 bytes. -/
def answerRest : Bytes := (Frame.stream [.empty, answerFrame]).drop 40

lemma run_empty_answer :
    client.format.machine.Run client.format.Good (.header [])
      (Frame.stream [.empty, answerFrame]) (.header answerRest) [] := by
  have positive := client.format.headerSize_pos
  have swallowed : client.format.machine.step (.header [])
      (Frame.stream [.empty, answerFrame]) = .ok ⟨.skip 0, none, answerRest⟩ := rfl
  have skipped : client.format.machine.step (.skip 0) answerRest =
      .ok ⟨.header [], none, answerRest⟩ := rfl
  have waiting : client.format.machine.step (.header []) answerRest =
      .ok ⟨.header answerRest, none, []⟩ := rfl
  exact .silent (by decide +kernel) positive swallowed
    (.silent (by decide +kernel) trivial skipped
      (.silent (by decide +kernel) positive waiting (.done _)))

/-- Behind an empty frame the answer, which alone would be delivered, is lost. -/
theorem not_resynchronises_empty_answer :
    (∃ final, client.processReadEvents (fun _ => 0)
        [Frame.stream [answerFrame]] = .ok (final, [⟨onlyConnection, [1, 2, 3]⟩])) ∧
      (∃ final, client.processReadEvents (fun _ => 0)
        [Frame.stream [.empty, answerFrame]] = .ok (final, [])) ∧
      ¬Resynchronises (fun _ => 0) client [.empty, answerFrame] := by
  have alone := Format.Record.run_stream [record client answer sendable_answer]
    (by simp [record, answer])
  obtain ⟨final, delivered, -, -⟩ := processReadEvents_single (fun _ => 0) rfl rfl alone
  obtain ⟨final', lost, -, -⟩ := processReadEvents_single (fun _ => 0) rfl rfl run_empty_answer
  refine ⟨⟨final, delivered⟩, ⟨final', lost⟩, ?_⟩
  rintro ⟨skips, -⟩
  have bad : ¬WellFormed .empty := by decide
  exact not_skipsExactly rfl rfl bad (skips .empty (mem_cons_self) bad)

end TrustTunnel.Refinement.UdpFraming
