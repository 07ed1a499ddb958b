import TrustTunnel.Endpoint.HttpDownstream
import TrustTunnel.Endpoint.UdpDecoder

/-!
# Frames of the `_udp2` stream

A client stream is a concatenation of length-prefixed frames. `Frame.datagram?`
says, without any state, which frames carry a datagram the endpoint accepts and
which datagram that is; the decoder is compared with it over every way of
cutting the stream into chunks.
-/

namespace TrustTunnel.Endpoint.HttpUdpCodec

open NetUtils Chunked HttpDownstream List Wire

/-- The contents behind a 4-byte length prefix. -/
structure Frame where
  contents : Bytes
  bounded : contents.length < 2 ^ 32
  deriving DecidableEq

namespace Frame

/-- The frame on the wire. -/
def bytes (self : Frame) : Bytes :=
  Wire.beBytes udppktLengthSize self.contents.length ++ self.contents

/-- The frames one after the other. -/
def stream (frames : List Frame) : Bytes := frames.flatMap bytes

lemma stream_cons (frame : Frame) (frames : List Frame) :
    stream (frame :: frames) = frame.bytes ++ stream frames := flatMap_cons

lemma stream_concat (frames : List Frame) (frame : Frame) :
    stream (frames ++ [frame]) = stream frames ++ frame.bytes := by
  rw [stream, flatMap_append, flatMap_singleton]
  rfl

/-- The datagram of a frame, if the frame is neither too short for its header
and app name, nor over the size limit, nor has a name that is not UTF-8. -/
def datagram? (self : Frame) : Option Downstream.UdpDatagram :=
  if self.contents.length < udppktInFixedHeaderNoLengthSize then none
  else
    match Decoder.readFixedHeader (self.contents.take udppktInFixedHeaderNoLengthSize) with
    | .error _ => none
    | .ok (source, dest, appNameLength) =>
      let body := self.contents.drop udppktInFixedHeaderNoLengthSize
      if maxUdpInPayloadSize - appNameLength < self.contents.length then none
      else if self.contents.length < udppktInFixedHeaderNoLengthSize + appNameLength then
        none
      else
        (Bytes.fromUtf8 (body.take appNameLength)).map fun appName =>
          ⟨⟨source, dest, some appName⟩, body.drop appNameLength⟩

/-- The parts of the contents of a frame that reaches its header. -/
structure Parts (frame : Frame) (header body : Bytes) (source dest : SocketAddr)
    (appNameLength : Nat) : Prop where
  contents : frame.contents = header ++ body
  header_length : header.length = udppktInFixedHeaderNoLengthSize
  header_read : Decoder.readFixedHeader header = .ok (source, dest, appNameLength)
  small : appNameLength < 256

namespace Parts

variable {self : Frame} {header body : Bytes} {source dest : SocketAddr}
variable {appNameLength : Nat}

lemma length (parts : self.Parts header body source dest appNameLength) :
    self.contents.length = udppktInFixedHeaderNoLengthSize + body.length := by
  rw [parts.contents, length_append, parts.header_length]

lemma take_contents (parts : self.Parts header body source dest appNameLength) :
    self.contents.take udppktInFixedHeaderNoLengthSize = header := by
  rw [parts.contents, ← parts.header_length, take_left]

lemma drop_contents (parts : self.Parts header body source dest appNameLength) :
    self.contents.drop udppktInFixedHeaderNoLengthSize = body := by
  rw [parts.contents, ← parts.header_length, drop_left]

lemma datagram?_eq (parts : self.Parts header body source dest appNameLength) :
    self.datagram? =
      if maxUdpInPayloadSize - appNameLength < self.contents.length then none
      else if self.contents.length < udppktInFixedHeaderNoLengthSize + appNameLength then
        none
      else
        (Bytes.fromUtf8 (body.take appNameLength)).map fun appName =>
          ⟨⟨source, dest, some appName⟩, body.drop appNameLength⟩ := by
  have long : ¬self.contents.length < udppktInFixedHeaderNoLengthSize := by
    rw [parts.length]
    omega
  rw [datagram?, if_neg long, parts.take_contents, parts.drop_contents, parts.header_read]

end Parts

variable {self : Frame}

lemma exists_parts (long : udppktInFixedHeaderNoLengthSize ≤ self.contents.length) :
    ∃ header body source dest appNameLength, self.Parts header body source dest appNameLength := by
  obtain ⟨header, body, split, headerLength, -⟩ := Bytes.exists_append _ _ long
  obtain ⟨source, dest, appNameLength, read, small⟩ :=
    Decoder.readFixedHeader_of_length headerLength
  exact ⟨header, body, source, dest, appNameLength, split, headerLength, read, small⟩

lemma datagram?_eq_some {dgram : Downstream.UdpDatagram} (accepted : self.datagram? = some dgram) :
    ∃ header name source dest appName,
      self.Parts header (name ++ dgram.payload) source dest name.length ∧
      self.contents.length ≤ maxUdpInPayloadSize - name.length ∧
      Bytes.fromUtf8 name = some appName ∧ dgram.metadata = ⟨source, dest, some appName⟩ := by
  by_cases long : udppktInFixedHeaderNoLengthSize ≤ self.contents.length
  · obtain ⟨header, body, source, dest, appNameLength, parts⟩ := exists_parts long
    rw [parts.datagram?_eq] at accepted
    split at accepted
    · cases accepted
    next inLimit =>
      split at accepted
      · cases accepted
      next enough =>
        rw [Option.map_eq_some_iff] at accepted
        obtain ⟨appName, decoded, rfl⟩ := accepted
        have lengths := parts.length
        have nameLength : (body.take appNameLength).length = appNameLength := by
          rw [length_take]
          omega
        refine ⟨header, body.take _, source, dest, appName, ?_, ?_, decoded, rfl⟩
        · rw [nameLength, take_append_drop]
          exact parts
        · omega
  · rw [datagram?, if_pos (by omega)] at accepted
    cases accepted

lemma datagram?_eq_none (rejected : self.datagram? = none) :
    self.contents.length < udppktInFixedHeaderNoLengthSize ∨
      (∃ header body source dest appNameLength, self.Parts header body source dest appNameLength ∧
        (maxUdpInPayloadSize - appNameLength < self.contents.length ∨
          self.contents.length < udppktInFixedHeaderNoLengthSize + appNameLength)) ∨
      ∃ header name payload source dest,
        self.Parts header (name ++ payload) source dest name.length ∧
        self.contents.length ≤ maxUdpInPayloadSize - name.length ∧ Bytes.fromUtf8 name = none := by
  by_cases long : udppktInFixedHeaderNoLengthSize ≤ self.contents.length
  · right
    obtain ⟨header, body, source, dest, appNameLength, parts⟩ := exists_parts long
    rw [parts.datagram?_eq] at rejected
    split at rejected
    next overLimit => exact .inl ⟨header, body, source, dest, appNameLength, parts, .inl overLimit⟩
    next inLimit =>
      split at rejected
      next tooShort => exact .inl ⟨header, body, source, dest, appNameLength, parts, .inr tooShort⟩
      next enough =>
        rw [Option.map_eq_none_iff] at rejected
        have lengths := parts.length
        have nameLength : (body.take appNameLength).length = appNameLength := by
          rw [length_take]
          omega
        refine .inr ⟨header, body.take _, body.drop appNameLength, source, dest, ?_, ?_, rejected⟩
        · rw [nameLength, take_append_drop]
          exact parts
        · omega
  · exact .inl (by omega)

end Frame

/-! ## Whole streams

From a decoder that waits for a length, an accepted frame runs through the
header states to its datagram and back, so a stream of accepted frames is decoded
frame by frame, independently of the chunks it arrives in. -/

variable {header : Bytes} {source dest : SocketAddr} {appNameLength : Nat}

namespace Decoder

variable {self : Decoder}

/-- The decoder is at a frame boundary. -/
def Ready (self : Decoder) : Prop := self.state = .length ∧ self.buffer = []

lemma ready_new : Ready new := ⟨rfl, rfl⟩

lemma Ready.reading (ready : self.Ready) : self.Reading := by
  simp [Reading, ready.1, ready.2, udppktLengthSize]

/-! ## Turns over complete fields -/

lemma length_turn {rawLength : Bytes} (ready : self.Ready)
    (length : rawLength.length = udppktLengthSize) (rest : Bytes) :
    machine.step self (rawLength ++ rest) =
      .ok ⟨{ self with
          totalLength := beNat rawLength
          state := if udppktInFixedHeaderNoLengthSize ≤ beNat rawLength
            then .fixedHeader else .dropping (beNat rawLength) }, none, rest⟩ := by
  have bound := beNat_lt rawLength
  rw [length] at bound
  have word : (UInt32.ofNat (beNat rawLength)).toNat = beNat rawLength := by
    rw [UInt32.toNat_ofNat']
    exact Nat.mod_eq_of_lt bound
  have read := Bytes.getU32_append [] length
  rw [append_nil] at read
  have full : self.buffer.length + rawLength.length = udppktLengthSize := by
    rw [ready.2, length]
    rfl
  change self.decodeChunkOnce _ = _
  rw [decodeChunkOnce_length ready.1,
    withField_full (.inl (by rw [ready.2]; exact Nat.succ_pos 3)) full, ready.2,
    nil_append, onLength, read]
  simp only [ok_bind, word]
  split <;> rfl

lemma fixedHeader_turn (self : Decoder) (state : self.state = .fixedHeader)
    (clear : self.buffer = []) (length : header.length = udppktInFixedHeaderNoLengthSize)
    (read : readFixedHeader header = .ok (source, dest, appNameLength))
    (small : appNameLength < 256) (long : udppktInFixedHeaderNoLengthSize ≤ self.totalLength)
    (rest : Bytes) :
    machine.step self (header ++ rest) =
      .ok ⟨{ self with
          source := some source
          destination := some dest
          state :=
            if maxUdpInPayloadSize - appNameLength < self.totalLength ∨
                self.totalLength < udppktInFixedHeaderNoLengthSize + appNameLength
            then .dropping (self.totalLength - udppktInFixedHeaderNoLengthSize)
            else .appName appNameLength }, none, rest⟩ := by
  have full : self.buffer.length + header.length = udppktInFixedHeaderNoLengthSize := by
    rw [clear, length]
    exact zero_add _
  have limit : appNameLength ≤ maxUdpInPayloadSize := by
    change appNameLength ≤ 65471
    omega
  change self.decodeChunkOnce _ = _
  rw [decodeChunkOnce_fixedHeader state,
    withField_full (.inl (by rw [clear]; exact Nat.succ_pos 36)) full, clear,
    nil_append, onFixedHeader, read]
  simp only [ok_bind, usizeSub_of_le limit, usizeSub_of_le long]
  by_cases oversized : maxUdpInPayloadSize - appNameLength < self.totalLength
  · rw [if_pos oversized, if_pos (.inl oversized)]
    rfl
  · by_cases enough : udppktInFixedHeaderNoLengthSize + appNameLength ≤ self.totalLength
    · rw [if_neg oversized, if_pos enough, if_neg (by omega)]
      rfl
    · rw [if_neg oversized, if_neg enough, if_pos (by omega)]
      rfl

lemma appName_turn (self : Decoder) {name : Bytes} (state : self.state = .appName name.length)
    (clear : self.buffer = [])
    (long : udppktInFixedHeaderNoLengthSize + name.length ≤ self.totalLength) (rest : Bytes) :
    machine.step self (name ++ rest) =
      .ok ⟨match Bytes.fromUtf8 name with
        | some appName =>
            { self with
              appName := some appName
              state := .payload
                (self.totalLength - udppktInFixedHeaderNoLengthSize - name.length) }
        | none =>
            { self with
              state := .dropping
                (self.totalLength - udppktInFixedHeaderNoLengthSize - name.length) },
        none, rest⟩ := by
  have full : self.buffer.length + name.length = name.length := by simp [clear]
  have room : self.buffer.length < name.length ∨ name.length = 0 := by
    rw [clear, length_nil]
    omega
  change self.decodeChunkOnce _ = _
  rw [decodeChunkOnce_appName state, withField_full room full, clear, nil_append, onAppName]
  simp only [ok_bind,
    usizeSub_of_le (show udppktInFixedHeaderNoLengthSize ≤ self.totalLength by omega),
    usizeSub_of_le (show name.length ≤ self.totalLength - udppktInFixedHeaderNoLengthSize by omega)]
  cases Bytes.fromUtf8 name <;> rfl

lemma payload_turn {payload : Bytes} (state : self.state = .payload payload.length)
    (clear : self.buffer = []) (hasSource : self.source = some source)
    (hasDestination : self.destination = some dest) (rest : Bytes) :
    machine.step self (payload ++ rest) =
      .ok ⟨self.finished, some ⟨⟨source, dest, self.appName⟩, payload⟩, rest⟩ := by
  change self.decodeChunkOnce _ = _
  rw [decodeChunkOnce_payload state, processClientPayload_full (by simp [clear]),
    completePayload_eq _ _ hasSource hasDestination, clear, nil_append]

end Decoder

/-! ## Accepted frames -/

namespace Frame

variable {self : Decoder} {frame : Frame} {good : Decoder → Prop} {body : Bytes}

lemma beNat_lengthPrefix (frame : Frame) :
    beNat (beBytes udppktLengthSize frame.contents.length) = frame.contents.length := by
  rw [beNat_beBytes]
  exact Nat.mod_eq_of_lt frame.bounded

/-- The length prefix of a frame. -/
abbrev lengthPrefix (frame : Frame) : Bytes := Wire.beBytes udppktLengthSize frame.contents.length

lemma lengthPrefix_ne_nil (frame : Frame) : frame.lengthPrefix ≠ [] := by
  simp [lengthPrefix, udppktLengthSize, beBytes]

lemma Parts.bytes_eq (parts : frame.Parts header body source dest appNameLength) :
    frame.bytes = frame.lengthPrefix ++ (header ++ body) :=
  congrArg (frame.lengthPrefix ++ ·) parts.contents

/-- The decoder behind the length prefix of a frame that reaches its header. -/
abbrev afterLength (self : Decoder) (frame : Frame) : Decoder :=
  { self with totalLength := frame.contents.length, state := .fixedHeader }

/-- The decoder behind the fixed header of a frame. -/
abbrev afterHeader (self : Decoder) (frame : Frame) (source dest : SocketAddr)
    (state : RecvState) : Decoder :=
  { self with
    totalLength := frame.contents.length
    source := some source
    destination := some dest
    state }

variable {final : Decoder} {outputs : List Downstream.UdpDatagram}

/-- The length prefix and the fixed header of a frame are read in two turns. -/
lemma Parts.run_header (rest : Bytes)
    (weaker : ∀ decoder : Decoder, decoder.Reading → good decoder) (ready : self.Ready)
    (parts : frame.Parts header body source dest appNameLength)
    (run : Decoder.machine.Run good
      (frame.afterHeader self source dest
        (if maxUdpInPayloadSize - appNameLength < frame.contents.length ∨
            frame.contents.length < udppktInFixedHeaderNoLengthSize + appNameLength
          then .dropping (frame.contents.length - udppktInFixedHeaderNoLengthSize)
          else .appName appNameLength)) rest final outputs) :
    Decoder.machine.Run good self (frame.lengthPrefix ++ (header ++ rest)) final outputs := by
  have long : udppktInFixedHeaderNoLengthSize ≤ frame.contents.length := by
    rw [parts.length]
    omega
  have lengthTurn := Decoder.length_turn ready
    (length_beBytes _ frame.contents.length) (header ++ rest)
  rw [beNat_lengthPrefix, if_pos long] at lengthTurn
  have headerTurn := (frame.afterLength self).fixedHeader_turn rfl ready.2
    parts.header_length parts.header_read parts.small long rest
  have headerNonempty : header ≠ [] := by
    intro empty
    have length := parts.header_length
    rw [empty] at length
    cases length
  refine .silent (append_ne_nil_of_left_ne_nil frame.lengthPrefix_ne_nil _)
    (weaker _ ready.reading) lengthTurn
    (.silent (append_ne_nil_of_left_ne_nil headerNonempty _) (weaker _ ?_) headerTurn run)
  simp only [Decoder.Reading, ready.2]
  exact ⟨by decide, long⟩

/-- The decoder once the datagram of an accepted frame is out: nothing of the
state before the frame is left. -/
def idle (frame : Frame) (dgram : Downstream.UdpDatagram) : Decoder where
  state := .length
  totalLength := frame.contents.length
  buffer := []
  source := some dgram.metadata.source
  destination := some dgram.metadata.destination
  appName := none

lemma ready_idle (frame : Frame) (dgram : Downstream.UdpDatagram) :
    (frame.idle dgram).Ready := ⟨rfl, rfl⟩

section

variable {dgram : Downstream.UdpDatagram} {rest : Bytes}
  (weaker : ∀ decoder : Decoder, decoder.Reading → good decoder) (ready : self.Ready)
  (accepted : frame.datagram? = some dgram) (more : dgram.payload ++ rest ≠ [])

include weaker ready accepted more

/-- Up to its payload an accepted frame is read without stopping, as long as
anything follows the header. -/
lemma run_header
    (run : ∀ waiting : Decoder, waiting.state = .payload dgram.payload.length →
      waiting.buffer = [] → waiting.source = some dgram.metadata.source →
      waiting.destination = some dgram.metadata.destination →
      waiting.appName = dgram.metadata.appName →
      waiting.totalLength = frame.contents.length →
      Decoder.machine.Run good waiting (dgram.payload ++ rest) final outputs) :
    Decoder.machine.Run good self (frame.bytes ++ rest) final outputs := by
  obtain ⟨header, name, source, dest, appName, parts, inLimit, decoded, metadata⟩ :=
    datagram?_eq_some accepted
  have lengths := parts.length
  rw [length_append] at lengths
  have nonempty : name ++ dgram.payload ++ rest ≠ [] := by
    rw [append_assoc]
    exact append_ne_nil_of_right_ne_nil _ more
  have shape : frame.bytes ++ rest =
      frame.lengthPrefix ++ (header ++ (name ++ dgram.payload ++ rest)) := by
    rw [parts.bytes_eq]
    simp only [append_assoc]
  rw [shape]
  refine parts.run_header _ weaker ready ?_
  rw [if_neg (by omega)]
  have nameTurn :=
    (frame.afterHeader self source dest (.appName name.length)).appName_turn
      rfl ready.2 (by change _ ≤ frame.contents.length; omega) (dgram.payload ++ rest)
  rw [decoded, ← append_assoc] at nameTurn
  refine .silent nonempty (weaker _ ?_) nameTurn (run _ ?_ ready.2 ?_ ?_ ?_ rfl)
  · simp only [Decoder.Reading, ready.2, length_nil]
    refine ⟨?_, by omega⟩
    cases name with
    | nil => exact .inr ⟨rfl, trivial⟩
    | cons => exact .inl (Nat.succ_pos _)
  · change RecvState.payload (frame.contents.length - _ - _) = _
    congr 1
    omega
  · rw [metadata]
  · rw [metadata]
  · rw [metadata]

/-- An accepted frame yields its datagram, as soon as anything follows its app
name. -/
lemma run_accepted (run : Decoder.machine.Run good (frame.idle dgram) rest final outputs) :
    Decoder.machine.Run good self (frame.bytes ++ rest) final (dgram :: outputs) := by
  refine run_header weaker ready accepted more fun waiting state clear source dest
    appName totalLength => ?_
  have turn := Decoder.payload_turn state clear source dest rest
  have finished : waiting.finished = frame.idle dgram := by
    simp only [Decoder.finished, idle, source, dest, totalLength]
  rw [finished, appName] at turn
  refine .turn more (weaker _ ?_) turn run
  simp only [Decoder.Reading, state, clear, source, dest, Option.isSome_some, length_nil, and_true]
  cases dgram.payload with
  | nil => exact .inr rfl
  | cons => exact .inl (Nat.succ_pos _)

end

section

variable {frames : List Frame} {dgrams : List Downstream.UdpDatagram}

/-- A stream of accepted frames is decoded frame by frame. Only a last frame
with an empty payload needs something behind it. -/
lemma run_stream
    (accepted : List.Forall₂ (fun frame dgram => frame.datagram? = some dgram) frames dgrams) :
    ∀ {self : Decoder} (rest : Bytes), self.Ready →
      (rest ≠ [] ∨ ∀ last, dgrams.getLast? = some last → last.payload ≠ []) →
      ∃ next : Decoder, next.Ready ∧
        ∀ {final : Decoder} {outputs : List Downstream.UdpDatagram},
          Decoder.machine.Run Decoder.Reading next rest final outputs →
          Decoder.machine.Run Decoder.Reading self (stream frames ++ rest) final
            (dgrams ++ outputs) := by
  induction accepted with
  | nil =>
    intro self rest ready more
    exact ⟨self, ready, fun run => run⟩
  | @cons frame dgram frames dgrams accepted others ih =>
    intro self rest ready more
    have moreAfter : rest ≠ [] ∨ ∀ last, dgrams.getLast? = some last → last.payload ≠ [] := by
      refine more.imp_right fun nonempty last isLast => nonempty last ?_
      rw [getLast?_cons, isLast]
      rfl
    obtain ⟨next, nextReady, continues⟩ := ih rest (frame.ready_idle _) moreAfter
    refine ⟨next, nextReady, fun run => ?_⟩
    have follows : dgram.payload ++ (stream frames ++ rest) ≠ [] := by
      intro empty
      simp only [append_eq_nil_iff] at empty
      obtain ⟨noPayload, noFrames, noRest⟩ := empty
      rcases more with more | more
      · exact more noRest
      · cases others with
        | nil => exact more _ rfl noPayload
        | cons => simp [stream, bytes, udppktLengthSize, beBytes] at noFrames
    rw [stream_cons, append_assoc]
    exact run_accepted (fun _ reading => reading) ready accepted follows (continues run)

lemma forall₂_of_map_eq (accepted : frames.map datagram? = dgrams.map some) :
    List.Forall₂ (fun frame dgram => frame.datagram? = some dgram) frames dgrams := by
  have equal : List.Forall₂ (· = ·) (frames.map datagram?) (dgrams.map some) := by
    rw [List.forall₂_eq_eq_eq]
    exact accepted
  rwa [List.forall₂_map_left_iff, List.forall₂_map_right_iff] at equal

end

/-- A stream of accepted frames that ends in a payload is read to its end. -/
lemma run_accepted_stream (frames : List Frame) (dgrams : List Downstream.UdpDatagram)
    (accepted : frames.map datagram? = dgrams.map some)
    (lastNonempty : ∀ last, dgrams.getLast? = some last → last.payload ≠ []) :
    ∃ final : Decoder, final.Ready ∧
      Decoder.machine.Run Decoder.Reading .new (stream frames) final dgrams := by
  obtain ⟨next, ready, continues⟩ :=
    run_stream (forall₂_of_map_eq accepted) [] Decoder.ready_new (.inr lastNonempty)
  have run := continues (.done next)
  rw [append_nil, append_nil] at run
  exact ⟨next, ready, run⟩

/-- A frame with an empty app name and a payload of one byte. -/
def ping : Frame where
  contents :=
    SocketAddr.toFixedSize ⟨.v4 (.new 10 0 0 1), 5000⟩ ++
      (SocketAddr.toFixedSize ⟨.v4 (.new 8 8 8 8), 53⟩ ++ [0, 42])
  bounded := by decide

end Frame

end TrustTunnel.Endpoint.HttpUdpCodec
