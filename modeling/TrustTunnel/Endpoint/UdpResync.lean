import TrustTunnel.Endpoint.UdpStream

/-!
# The `_udp2` decoder never panics

`Sound` relates the state of the decoder to its buffer, its length and its
addresses. A fresh decoder is sound and every turn keeps it so, whatever the
data; none of the assertions, subtractions and `unwrap`s of the decoder can
fail in a sound state.
-/

namespace TrustTunnel.Endpoint.HttpUdpCodec

open NetUtils Chunked HttpDownstream

namespace Decoder

variable {self after : Decoder} {data : Bytes} {length : Nat}

/-- The buffer holds less than the field the decoder waits for, subtractions stay
within the frame length, and the addresses are known once the header was read. -/
def Sound (self : Decoder) : Prop :=
  match self.state with
  | .length => self.buffer.length < udppktLengthSize
  | .fixedHeader =>
    self.buffer.length < udppktInFixedHeaderNoLengthSize ∧
      udppktInFixedHeaderNoLengthSize ≤ self.totalLength
  | .appName length =>
    (self.buffer.length < length ∨ length = 0 ∧ self.buffer = []) ∧
      udppktInFixedHeaderNoLengthSize + length ≤ self.totalLength ∧
      self.source.isSome = true ∧ self.destination.isSome = true
  | .payload length =>
    (self.buffer.length < length ∨ length = 0 ∧ self.buffer = []) ∧
      self.source.isSome = true ∧ self.destination.isSome = true
  | .dropping _ => self.buffer = []

lemma Sound.reading (sound : self.Sound)
    (notDropping : ∀ length, self.state ≠ .dropping length) : self.Reading := by
  cases state : self.state with
  | length | fixedHeader | payload => simpa only [Sound, Reading, state] using sound
  | appName =>
    simp only [Sound, state] at sound
    simp only [Reading, state]
    exact ⟨sound.1, sound.2.1⟩
  | dropping length => exact absurd state (notDropping length)

/-! ## Each field keeps the decoder sound -/

lemma onLength_sound {rawLength : Bytes} (clear : self.buffer = [])
    (acted : onLength self rawLength = .ok after) : after.Sound := by
  rw [onLength, bind_eq_ok] at acted
  obtain ⟨⟨totalLength, rest⟩, -, acted⟩ := acted
  by_cases long : udppktInFixedHeaderNoLengthSize ≤ totalLength.toNat
  · simp only [if_pos long] at acted
    cases acted
    simp only [Sound, clear]
    exact ⟨by decide, long⟩
  · simp only [if_neg long] at acted
    cases acted
    exact clear

lemma onFixedHeader_sound {header : Bytes} (clear : self.buffer = [])
    (acted : onFixedHeader self header = .ok after) : after.Sound := by
  rw [onFixedHeader, bind_eq_ok] at acted
  obtain ⟨⟨source, dest, appNameLength⟩, -, acted⟩ := acted
  simp only [bind_eq_ok] at acted
  obtain ⟨limit, -, acted⟩ := acted
  split at acted
  · rw [bind_eq_ok] at acted
    obtain ⟨rest, -, acted⟩ := acted
    cases acted
    exact clear
  · split at acted
    next enough =>
      cases acted
      simp only [Sound, clear, List.length_nil, Option.isSome_some, and_true]
      exact ⟨by omega, enough⟩
    next =>
      rw [bind_eq_ok] at acted
      obtain ⟨rest, -, acted⟩ := acted
      cases acted
      exact clear

lemma onAppName_sound {name : Bytes} (clear : self.buffer = [])
    (hasSource : self.source.isSome = true) (hasDestination : self.destination.isSome = true)
    (acted : onAppName length self name = .ok after) : after.Sound := by
  rw [onAppName, bind_eq_ok] at acted
  obtain ⟨afterHeader, -, acted⟩ := acted
  rw [bind_eq_ok] at acted
  obtain ⟨payloadLength, -, acted⟩ := acted
  split at acted
  · cases acted
    simp only [Sound, clear, List.length_nil, and_true]
    exact ⟨by omega, hasSource, hasDestination⟩
  · cases acted
    exact clear

variable {turn : Turn Decoder Downstream.UdpDatagram UInt8}

lemma completePayload_sound {toSend tail : Bytes} (clear : self.buffer = [])
    (taken : self.completePayload toSend tail = .ok turn) : turn.state.Sound := by
  obtain ⟨state, buffer, -⟩ := completePayload_cases taken
  simp only [Sound, state, buffer, clear]
  decide

/-- Waiting for a field keeps the decoder sound when acting on the field does. -/
lemma fieldTurn_sound {size : Nat} {act : Decoder → Bytes → Except Fault Decoder}
    (still : ∀ buffer : Bytes, buffer.length < size → Sound { self with buffer := buffer })
    (acts : ∀ {field : Bytes} {after : Decoder},
      act { self with buffer := [] } field = .ok after → after.Sound)
    (taken : (self.withField data size act).map fieldTurn = .ok turn) :
    turn.state.Sound := by
  obtain ⟨read, -⟩ := map_fieldTurn_eq_ok taken
  rcases withField_cases read with ⟨-, waited, short⟩ | ⟨front, -, acted, -, -⟩
  · rw [waited]
    apply still
    rwa [List.length_append]
  · exact acts acted

/-! ## Every turn keeps the decoder sound -/

lemma decodeChunkOnce_sound (sound : self.Sound) (taken : self.decodeChunkOnce data = .ok turn) :
    turn.state.Sound := by
  cases state : self.state with
  | length =>
    rw [decodeChunkOnce_length state] at taken
    refine fieldTurn_sound ?_ (onLength_sound rfl) taken
    intro buffer short
    simpa only [Sound, state] using short
  | fixedHeader =>
    simp only [Sound, state] at sound
    rw [decodeChunkOnce_fixedHeader state] at taken
    refine fieldTurn_sound ?_ (onFixedHeader_sound rfl) taken
    intro buffer short
    simp only [Sound, state]
    exact ⟨short, sound.2⟩
  | appName =>
    simp only [Sound, state] at sound
    rw [decodeChunkOnce_appName state] at taken
    refine fieldTurn_sound ?_ (onAppName_sound rfl sound.2.2.1 sound.2.2.2) taken
    intro buffer short
    simp only [Sound, state]
    exact ⟨.inl short, sound.2⟩
  | payload =>
    simp only [Sound, state] at sound
    rw [decodeChunkOnce_payload state] at taken
    rcases processClientPayload_cases taken with ⟨rfl, short⟩ | ⟨front, -, -, complete⟩
    · simp only [Sound, state, List.length_append]
      exact ⟨.inl short, sound.2⟩
    · exact completePayload_sound rfl complete
  | dropping length =>
    simp only [Sound, state] at sound
    rw [decodeChunkOnce_dropping state] at taken
    cases taken
    by_cases last : length ≤ data.length
    · simp only [Sound, if_pos last, sound]
      decide
    · simp [Sound, if_neg last, sound]

lemma sound_closed {self : Decoder} {data : Bytes} (sound : self.Sound) (_ : data ≠ []) :
    ∃ turn, machine.step self data = .ok turn ∧ turn.state.Sound := by
  have total : ∃ turn, self.decodeChunkOnce data = .ok turn := by
    by_cases dropping : ∃ length, self.state = .dropping length
    · obtain ⟨length, state⟩ := dropping
      exact ⟨_, decodeChunkOnce_dropping state⟩
    · exact decodeChunkOnce_total (sound.reading fun length state => dropping ⟨length, state⟩) data
  obtain ⟨turn, taken⟩ := total
  exact ⟨turn, taken, decodeChunkOnce_sound sound taken⟩

/-- Whatever the client sends, the decoder runs through it and stays sound. -/
lemma Sound.run (sound : self.Sound) (data : Bytes) :
    ∃ final outputs, machine.Run Sound self data final outputs ∧ final.Sound :=
  StepMachine.Run.exists_of_closed sound_closed self data sound

/-- Whatever a client sends and however it arrives, all of it is read without a panic. -/
theorem exists_reads (chunks : List Bytes) :
    ∃ dgrams final, DatagramDecoder.Reads machine (.start new chunks) dgrams (.start final []) := by
  have runs : ∀ {self : Decoder}, self.Sound →
      ∃ final outputs, StepMachine.ChunkRun machine Sound self chunks final outputs := by
    induction chunks with
    | nil => exact fun _ => ⟨_, _, .done _⟩
    | cons chunk _ ih =>
      intro self sound
      obtain ⟨middle, before, run, still⟩ := sound.run chunk
      obtain ⟨final, after, rest⟩ := ih still
      exact ⟨final, _, .chunk run rest⟩
  have fresh : new.Sound := Nat.succ_pos 3
  obtain ⟨final, dgrams, run⟩ := runs fresh
  exact ⟨dgrams, final, DatagramDecoder.reads_of_chunkRun _ run⟩

end Decoder

/-!
## Rejected frames of the `_udp2` stream

A rejected frame takes the decoder to the dropping state, whose turn feeds the
bytes it should drop back into the loop and loses what follows them in the
chunk. So a rejected frame is skipped only if it ends where it is rejected and
nothing comes behind it.
-/

open List Decoder

namespace Frame

variable {self : Decoder} {frame : Frame} {frames : List Frame} {source dest : SocketAddr}
  {before : List Frame}

/-! ## Dropping -/

/-- Any run of the decoder, dropping included. -/
abbrev AnyRun := Decoder.machine.Run fun _ => True

abbrev AnyChunkRun := StepMachine.ChunkRun Decoder.machine fun _ => True

lemma length_wait (self : Decoder) (bytes : Bytes) (state : self.state = .length)
    (short : self.buffer.length + bytes.length < udppktLengthSize) (nonempty : bytes ≠ []) :
    AnyRun self bytes { self with buffer := self.buffer ++ bytes } [] := by
  refine .silent nonempty trivial ?_ (.done _)
  change self.decodeChunkOnce bytes = _
  rw [decodeChunkOnce_length state, withField_wait short]
  rfl

section

variable (self : Decoder) {remainingLength : Nat} (data : Bytes)
  (state : self.state = .dropping remainingLength)

include state

/-- Dropping as many bytes as the chunk has feeds all of them back. -/
lemma dropping_turn_long (long : data.length < remainingLength) :
    machine.step self data =
      .ok ⟨{ self with state := .dropping (remainingLength - data.length) }, none, data⟩ := by
  change self.decodeChunkOnce data = _
  rw [decodeChunkOnce_dropping state, if_neg (by omega), min_eq_right (by omega), take_length]

/-- The last bytes to drop are fed back, and what follows them is lost. -/
lemma dropping_turn_last (last : remainingLength ≤ data.length) :
    machine.step self data =
      .ok ⟨{ self with state := .length }, none, data.take remainingLength⟩ := by
  change self.decodeChunkOnce data = _
  rw [decodeChunkOnce_dropping state, if_pos last, min_eq_left last]

end

/-- With nothing to drop, all of the next chunk is lost. -/
lemma dropping_lost (self : Decoder) {data : Bytes} (state : self.state = .dropping 0)
    (nonempty : data ≠ []) : AnyRun self data { self with state := .length } [] :=
  .silent nonempty trivial (dropping_turn_last self data state (Nat.zero_le _)) (.done _)

/-- Whatever is left of a rejected frame, some way of cutting it leaves bytes of it in the
decoder. -/
lemma dropping_leaves {remaining : Bytes}
    (state : self.state = .dropping remaining.length) (clear : self.buffer = [])
    (nonempty : remaining ≠ []) :
    ∃ chunks final, chunks.flatten = remaining ∧ AnyChunkRun self chunks final [] ∧
      final.buffer ≠ [] := by
  have resumed (bytes : Bytes) (short : bytes.length < udppktLengthSize) (nonempty : bytes ≠ []) :
      AnyRun { self with state := .length } bytes
        { self with state := .length, buffer := bytes } [] := by
    have run := length_wait { self with state := .length } bytes rfl
      (by rw [clear, length_nil, zero_add]; exact short) nonempty
    simpa only [clear, nil_append] using run
  rcases eq_nil_or_concat remaining with rfl | ⟨front, last, rfl⟩
  · exact absurd rfl nonempty
  · cases front with
    | nil =>
      refine ⟨[[last]], { self with state := .length, buffer := [last] }, rfl, ?_, cons_ne_nil _ _⟩
      have turn := dropping_turn_last self [last] state (le_refl 1)
      exact .chunk (.silent (cons_ne_nil _ _) trivial turn
        (resumed [last] (by simp [udppktLengthSize]) (cons_ne_nil _ _))) (.done _)
    | cons first front =>
      have size : ((first :: front) ++ [last]).length = front.length + 2 := by simp
      simp only [concat_eq_append] at state ⊢
      rw [size] at state
      refine ⟨[first :: front, [last]],
        { self with state := .length, buffer := [first, last] }, by simp, ?_, cons_ne_nil _ _⟩
      have firstTurn := dropping_turn_long self (first :: front) state (by simp)
      have secondTurn := dropping_turn_last { self with state := .dropping 1 }
        (first :: front) rfl (by simp)
      have one : front.length + 2 - (first :: front).length = 1 := by simp
      rw [one] at firstTurn
      have firstRun : AnyRun self (first :: front)
          { self with state := .length, buffer := [first] } [] :=
        .silent (cons_ne_nil _ _) trivial firstTurn
          (.silent (cons_ne_nil _ _) trivial secondTurn
            (resumed [first] (by simp [udppktLengthSize]) (cons_ne_nil _ _)))
      have secondRun := length_wait { self with state := .length, buffer := [first] }
        [last] rfl (by simp [udppktLengthSize]) (cons_ne_nil _ _)
      exact .chunk firstRun (.chunk secondRun (.done _))

/-- When other bytes follow, a single chunk and a chunk that holds back the last byte
decode the same bytes again, and cannot both end at a boundary. -/
lemma dropping_not_ready_append {remaining front : Bytes} {last : UInt8}
    (state : self.state = .dropping remaining.length) (clear : self.buffer = [])
    (nonempty : remaining ++ front ≠ []) :
    ∃ chunks final outputs, chunks.flatten = remaining ++ (front ++ [last]) ∧
      AnyChunkRun self chunks final outputs ∧ ¬final.Ready := by
  have sound : Decoder.Sound { self with state := .length } := by
    simp only [Decoder.Sound, clear]
    decide
  obtain ⟨middle, outputs, again, -⟩ := sound.run _
  have chunk (back : Bytes) (some_data : remaining ++ back ≠ []) :
      AnyRun self (remaining ++ back) middle outputs := by
    have turn := dropping_turn_last self (remaining ++ back) state
      (by rw [length_append]; exact Nat.le_add_right _ _)
    rw [take_left] at turn
    exact .silent some_data trivial turn (again.mono fun _ _ => trivial)
  by_cases ready : middle.Ready
  · have one := length_wait middle [last] ready.1
      (by rw [ready.2]; simp [udppktLengthSize]) (cons_ne_nil _ _)
    refine ⟨[remaining ++ front, [last]], _, _, by simp,
      .chunk (chunk front nonempty) (.chunk one (.done _)), ?_⟩
    exact fun notClear => by simpa using notClear.2
  · exact ⟨[remaining ++ (front ++ [last])], middle, _, by simp,
      .chunk (chunk _ (by simp)) (.done _), ready⟩

lemma Parts.run_name {header name payload : Bytes}
    (parts : frame.Parts header (name ++ payload) source dest name.length) (ready : self.Ready)
    (inLimit : frame.contents.length ≤ maxUdpInPayloadSize - name.length) (nonempty : name ≠ []) :
    machine.Run Decoder.Reading self (frame.lengthPrefix ++ (header ++ name))
      (match Bytes.fromUtf8 name with
        | some appName =>
            { frame.afterHeader self source dest (.payload payload.length) with
              appName := some appName }
        | none => frame.afterHeader self source dest (.dropping payload.length))
      [] := by
  have lengths := parts.length
  rw [length_append] at lengths
  have turn :=
    (frame.afterHeader self source dest (.appName name.length)).appName_turn
      rfl ready.2 (by change _ ≤ frame.contents.length; omega) []
  have left : frame.contents.length - udppktInFixedHeaderNoLengthSize - name.length =
      payload.length := by omega
  simp only [append_nil, left] at turn
  refine parts.run_header name (fun _ reading => reading) ready ?_
  rw [if_neg (by omega)]
  refine .silent nonempty ?_ turn (.done _)
  simp only [Decoder.Reading, ready.2, length_nil]
  exact ⟨.inl (length_pos_of_ne_nil nonempty), by omega⟩

/-- What is left of a rejected frame where it is rejected: behind its length, its header or
its app name. -/
def unread (frame : Frame) : Bytes :=
  if frame.contents.length < udppktInFixedHeaderNoLengthSize then frame.contents
  else
    let body := frame.contents.drop udppktInFixedHeaderNoLengthSize
    match readFixedHeader (frame.contents.take udppktInFixedHeaderNoLengthSize) with
    | .error _ => body
    | .ok (_, _, appNameLength) =>
      if maxUdpInPayloadSize - appNameLength < frame.contents.length ∨
          frame.contents.length < udppktInFixedHeaderNoLengthSize + appNameLength then body
      else body.drop appNameLength

lemma Parts.unread_eq {header body : Bytes} {appNameLength : Nat}
    (parts : frame.Parts header body source dest appNameLength) :
    frame.unread =
      if maxUdpInPayloadSize - appNameLength < frame.contents.length ∨
          frame.contents.length < udppktInFixedHeaderNoLengthSize + appNameLength then body
      else body.drop appNameLength := by
  have lengths := parts.length
  rw [unread, if_neg (by omega), parts.take_contents, parts.drop_contents, parts.header_read]

/-- A rejected frame takes the decoder to the dropping state, with the bytes to
drop still unread. -/
lemma run_rejected (rejected : frame.datagram? = none) :
    ∃ read, frame.bytes = read ++ frame.unread ∧ read ≠ [] ∧
      ∀ {self : Decoder}, self.Ready → ∃ dropping,
        machine.Run Decoder.Reading self read dropping [] ∧
        dropping.state = .dropping frame.unread.length ∧ dropping.buffer = [] := by
  have readNonempty (header : Bytes) : frame.lengthPrefix ++ header ≠ [] :=
    append_ne_nil_of_left_ne_nil frame.lengthPrefix_ne_nil header
  rcases datagram?_eq_none rejected with
    short | ⟨header, body, source, dest, appNameLength, parts, misfit⟩ |
      ⟨header, name, payload, source, dest, parts, inLimit, undecodable⟩
  · rw [unread, if_pos short]
    refine ⟨frame.lengthPrefix, rfl, frame.lengthPrefix_ne_nil, fun {self} ready => ?_⟩
    have turn := length_turn ready (Wire.length_beBytes _ frame.contents.length) []
    rw [beNat_lengthPrefix, if_neg (by omega)] at turn
    exact ⟨_, .silent frame.lengthPrefix_ne_nil ready.reading turn (.done _), rfl, ready.2⟩
  · rw [parts.unread_eq, if_pos misfit]
    refine ⟨frame.lengthPrefix ++ header, ?_, readNonempty _, fun {self} ready => ?_⟩
    · rw [parts.bytes_eq, append_assoc]
    have lengths := parts.length
    have run := parts.run_header [] (fun _ reading => reading) ready (.done _)
    rw [if_pos misfit, append_nil] at run
    refine ⟨_, run, ?_, ready.2⟩
    change RecvState.dropping (frame.contents.length - _) = _
    congr 1
    omega
  · have lengths := parts.length
    rw [length_append] at lengths
    rw [parts.unread_eq, if_neg (by omega), drop_left]
    refine ⟨frame.lengthPrefix ++ (header ++ name), ?_, readNonempty _, fun {self} ready => ?_⟩
    · rw [parts.bytes_eq]
      simp only [append_assoc]
    have nameNonempty : name ≠ [] := by
      intro empty
      rw [empty] at undecodable
      cases undecodable
    have run := parts.run_name ready inLimit nameNonempty
    rw [undecodable] at run
    exact ⟨_, run, rfl, ready.2⟩

/-! ## Resynchronisation -/

/-- Nothing of a frame is held or left to drop. -/
def AtBoundary (decoder : Decoder) : Prop :=
  decoder.buffer = [] ∧ (decoder.state = .length ∨ decoder.state = .dropping 0)

/-- Over the stream of `frames`, however it is cut, a rejected frame is skipped by
exactly its declared length, which leaves the decoder at a frame boundary, and the
datagrams read are those of the accepted frames, in order. -/
def Resynchronises (frames : List Frame) : Prop :=
  (∀ before frame after, frames = before ++ frame :: after → frame.datagram? = none →
    ∀ chunks : List Bytes, chunks.flatten = stream (before ++ [frame]) →
      ∃ dgrams final,
        DatagramDecoder.Reads Decoder.machine (.start .new chunks) dgrams
          (.start final []) ∧ AtBoundary final) ∧
  ∀ chunks : List Bytes, chunks.flatten = stream frames →
    ∃ final, DatagramDecoder.Reads Decoder.machine (.start .new chunks)
      (frames.filterMap datagram?) (.start final [])

lemma map_eq_map_some (accepted : ∀ frame ∈ frames, frame.datagram?.isSome) :
    frames.map datagram? = (frames.filterMap datagram?).map some := by
  induction frames with
  | nil => rfl
  | cons _ _ ih =>
    obtain ⟨first, others⟩ := forall_mem_cons.mp accepted
    obtain ⟨dgram, isFirst⟩ := Option.isSome_iff_exists.mp first
    rw [filterMap_cons_some isFirst, map_cons, map_cons, isFirst, ih others]

lemma exists_first_rejected (some_rejected : ¬∀ frame ∈ frames, frame.datagram?.isSome) :
    ∃ before frame after, frames = before ++ frame :: after ∧
      frame.datagram? = none ∧ ∀ frame ∈ before, frame.datagram?.isSome := by
  have found : (frames.find? fun frame => frame.datagram?.isNone).isSome := by
    rw [find?_isSome]
    simpa using some_rejected
  obtain ⟨frame, found⟩ := Option.isSome_iff_exists.mp found
  obtain ⟨rejected, before, after, shape, accepted⟩ := find?_eq_some_iff_append.mp found
  refine ⟨before, frame, after, shape, by simpa using rejected, ?_⟩
  simpa using accepted

/-- The way to the place where the first rejected frame of a stream is rejected. -/
lemma exists_dropping (rejected : frame.datagram? = none)
    (accepted : ∀ frame ∈ before, frame.datagram?.isSome) :
    ∃ front dropping, stream (before ++ [frame]) = front ++ frame.unread ∧
      machine.Run Decoder.Reading .new front dropping (before.filterMap datagram?) ∧
      dropping.state = .dropping frame.unread.length ∧ dropping.buffer = [] := by
  obtain ⟨read, split, readNonempty, drops⟩ := run_rejected rejected
  obtain ⟨next, ready, continues⟩ :=
    run_stream (forall₂_of_map_eq (map_eq_map_some accepted)) read ready_new (.inl readNonempty)
  obtain ⟨dropping, toDropping, state, clear⟩ := drops ready
  have run := continues toDropping
  rw [append_nil] at run
  refine ⟨stream before ++ read, dropping, ?_, run, state, clear⟩
  rw [stream_concat, split, append_assoc]

/-- What is read when the rest of a stream is cut in some way. -/
lemma reads_front {front : Bytes} {dropping final : Decoder}
    {dgrams outputs : List Downstream.UdpDatagram} {chunks : List Bytes}
    (toDropping : machine.Run Decoder.Reading .new front dropping dgrams)
    (run : AnyChunkRun dropping chunks final outputs) :
    DatagramDecoder.Reads machine (.start .new (front :: chunks)) (dgrams ++ outputs)
      (.start final []) :=
  DatagramDecoder.reads_of_chunkRun _ (.chunk (toDropping.mono fun _ _ => trivial) run)

/-- Some way of cutting a rejected frame that is followed by nothing, or by at least two
bytes, leaves the decoder without a new frame to wait for. -/
lemma reads_rejected (leftover : Bytes) (rejected : frame.datagram? = none)
    (enough : leftover = [] ∨ 2 ≤ leftover.length) :
    ∃ chunks dgrams final, chunks.flatten = frame.bytes ++ leftover ∧
      DatagramDecoder.Reads machine (.start .new chunks) dgrams
        (.start final []) ∧ ¬final.Ready := by
  obtain ⟨front, dropping, split, toDropping, state, clear⟩ :=
    exists_dropping rejected (forall_mem_nil _)
  rw [nil_append, stream, flatMap_singleton] at split
  have fromDropping : ∃ chunks final outputs, chunks.flatten = frame.unread ++ leftover ∧
      AnyChunkRun dropping chunks final outputs ∧ ¬final.Ready := by
    rcases eq_nil_or_concat leftover with rfl | ⟨front, last, rfl⟩
    · by_cases whole : frame.unread = []
      · rw [whole] at state ⊢
        refine ⟨[], dropping, [], rfl, .done _, fun ready => ?_⟩
        rw [ready.1] at state
        cases state
      · obtain ⟨chunks, final, shape, run, held⟩ := dropping_leaves state clear whole
        exact ⟨chunks, final, [], by rw [shape, append_nil], run, fun ready => held ready.2⟩
    · rw [concat_eq_append] at enough ⊢
      refine dropping_not_ready_append state clear (append_ne_nil_of_right_ne_nil _ fun empty => ?_)
      rw [empty] at enough
      simp at enough
  obtain ⟨chunks, final, outputs, rest, run, notReady⟩ := fromDropping
  refine ⟨_, _, final, ?_, reads_front toDropping run, notReady⟩
  rw [flatten_cons, rest, split, append_assoc]

variable {dgram : Downstream.UdpDatagram} {before after : List Frame}

/-- An accepted frame with an empty payload at the end of the data yields nothing. -/
lemma run_empty_payload (ready : self.Ready) (accepted : frame.datagram? = some dgram)
    (empty : dgram.payload = []) :
    ∃ final, machine.Run Decoder.Reading self frame.bytes final [] := by
  obtain ⟨header, name, source, dest, appName, parts, inLimit, -, -⟩ := datagram?_eq_some accepted
  rw [parts.bytes_eq, empty, append_nil]
  cases name with
  | nil => exact ⟨_, parts.run_header [] (fun _ reading => reading) ready (.done _)⟩
  | cons => exact ⟨_, parts.run_name ready inLimit (cons_ne_nil _ _)⟩

/-- A stream of accepted frames whose last payload is empty loses its last
datagram. -/
lemma reads_empty_payload (accepted : ∀ frame ∈ before, frame.datagram?.isSome)
    (last : frame.datagram? = some dgram) (empty : dgram.payload = []) :
    ∃ final, DatagramDecoder.Reads machine
      (.start .new [stream (before ++ [frame])]) (before.filterMap datagram?)
      (.start final []) := by
  have bytesNonempty : frame.bytes ≠ [] := append_ne_nil_of_left_ne_nil frame.lengthPrefix_ne_nil _
  obtain ⟨next, ready, continues⟩ :=
    run_stream (forall₂_of_map_eq (map_eq_map_some accepted)) _ ready_new (.inl bytesNonempty)
  obtain ⟨final, run⟩ := run_empty_payload ready last empty
  have whole := continues run
  rw [append_nil] at whole
  refine ⟨final, DatagramDecoder.reads_of_run machine_local ?_⟩
  rw [flatten_singleton, stream_concat]
  exact whole

/-- A rejected frame is skipped only if it ends where it is rejected. -/
lemma unread_of_skips (resynchronises : Resynchronises (before ++ frame :: after))
    (rejected : frame.datagram? = none) (accepted : ∀ frame ∈ before, frame.datagram?.isSome) :
    frame.unread = [] := by
  by_contra left
  obtain ⟨front, dropping, split, toDropping, state, clear⟩ := exists_dropping rejected accepted
  obtain ⟨chunks, final, shape, run, held⟩ := dropping_leaves state clear left
  obtain ⟨_, _, reads, boundary⟩ := resynchronises.1 _ _ _ rfl rejected (front :: chunks)
    (by rw [flatten_cons, shape, split])
  obtain ⟨-, same⟩ := (reads_front toDropping run).deterministic reads
  cases same
  exact held boundary.1

/-- Nothing may come behind a rejected frame: an accepted frame that comes in one chunk is
lost, and of a rejected one the last byte is kept. -/
lemma last_of_skips (resynchronises : Resynchronises (before ++ frame :: after))
    (rejected : frame.datagram? = none) (accepted : ∀ frame ∈ before, frame.datagram?.isSome) :
    after = [] := by
  cases after with
  | nil => rfl
  | cons next after =>
    exfalso
    obtain ⟨front, dropping, split, toDropping, state, clear⟩ := exists_dropping rejected accepted
    rw [unread_of_skips resynchronises rejected accepted] at split state
    rw [append_nil] at split
    have nextNonempty : next.bytes ≠ [] := append_ne_nil_of_left_ne_nil next.lengthPrefix_ne_nil _
    cases verdict : next.datagram? with
    | some dgram =>
      have lost := reads_front toDropping (.chunk (dropping_lost dropping state
        (append_ne_nil_of_left_ne_nil nextNonempty (stream after))) (.done _))
      obtain ⟨_, reads⟩ := resynchronises.2 [front, next.bytes ++ stream after] (by
        rw [← split]
        simp [stream])
      have lengths := congrArg List.length (lost.deterministic reads).1
      simp [rejected, verdict] at lengths
    | none =>
      obtain ⟨start, last, shape⟩ := (eq_nil_or_concat next.bytes).resolve_left nextNonempty
      have more : start ≠ [] := by
        intro empty
        have size := congrArg List.length shape
        simp [empty, bytes, udppktLengthSize, Wire.length_beBytes] at size
        omega
      have kept := length_wait { dropping with state := .length } [last] rfl
        (by simp [clear, udppktLengthSize]) (cons_ne_nil _ _)
      have reads := reads_front toDropping
        (.chunk (dropping_lost dropping state more) (.chunk kept (.done _)))
      obtain ⟨_, _, reads', boundary⟩ := resynchronises.1 (before ++ [frame]) next after (by simp)
        verdict [front, start, [last]] (by
          rw [stream_concat, shape, concat_eq_append, split]
          simp)
      obtain ⟨-, same⟩ := reads.deterministic reads'
      cases same
      exact absurd boundary.1 (by simp)

/-- All frames but the last one are accepted. The last one has a payload, or is rejected at
its end. -/
def NothingToSkip (frames : List Frame) : Prop :=
  (∀ frame ∈ frames.dropLast, frame.datagram?.isSome) ∧
    ∀ last ∈ frames.getLast?,
      (∀ dgram ∈ last.datagram?, dgram.payload ≠ []) ∧ (last.datagram? = none → last.unread = [])

/-- The decoder resynchronises exactly over the streams that have nothing to be skipped. -/
theorem resynchronises_iff (frames : List Frame) : Resynchronises frames ↔ NothingToSkip frames := by
  rcases eq_nil_or_concat frames with rfl | ⟨before, frame, rfl⟩
  · refine iff_of_true ⟨fun _ _ _ shape => by simp at shape, fun chunks split => ⟨.new, ?_⟩⟩ ?_
    · exact DatagramDecoder.reads_of_run machine_local (split ▸ .done _)
    · exact ⟨by simp, by simp⟩
  rw [concat_eq_append, NothingToSkip, dropLast_concat, getLast?_concat]
  constructor
  · intro resynchronises
    have accepted : ∀ frame ∈ before, frame.datagram?.isSome := by
      by_contra someRejected
      obtain ⟨front, first, after, rfl, rejected, accepted⟩ := exists_first_rejected someRejected
      rw [append_assoc, cons_append] at resynchronises
      have none := last_of_skips resynchronises rejected accepted
      simp at none
    refine ⟨accepted, ?_⟩
    rintro last ⟨⟩
    refine ⟨fun dgram found empty => ?_, fun rejected =>
      unread_of_skips resynchronises rejected accepted⟩
    obtain ⟨final, reads⟩ := reads_empty_payload accepted found empty
    obtain ⟨final', reads'⟩ := resynchronises.2 [stream (before ++ [frame])] (by simp)
    have lengths := congrArg List.length (reads.deterministic reads').1
    rw [filterMap_append, filterMap_cons_some found, filterMap_nil, length_append,
      length_singleton] at lengths
    omega
  · intro ⟨accepted, last⟩
    obtain ⟨nonempty, whole⟩ := last frame rfl
    cases verdict : frame.datagram? with
    | some dgram =>
      have all : ∀ other ∈ before ++ [frame], other.datagram?.isSome := by
        rw [forall_mem_append, forall_mem_singleton, verdict]
        exact ⟨accepted, rfl⟩
      obtain ⟨final, -, run⟩ := run_accepted_stream _ _ (map_eq_map_some all) (by
        rw [filterMap_append, filterMap_cons_some verdict, filterMap_nil, getLast?_concat]
        rintro last ⟨⟩
        exact nonempty dgram verdict)
      refine ⟨fun before frame after shape rejected => ?_, fun chunks split => ?_⟩
      · have isAccepted := all frame (by simp [shape])
        rw [rejected] at isAccepted
        cases isAccepted
      · rw [← split] at run
        exact ⟨final, DatagramDecoder.reads_of_run machine_local run⟩
    | none =>
      obtain ⟨front, dropping, split, run, state, clear⟩ := exists_dropping verdict accepted
      rw [whole verdict] at split state
      rw [append_nil] at split
      have reads {chunks : List Bytes} (cut : chunks.flatten = stream (before ++ [frame])) :
          DatagramDecoder.Reads Decoder.machine (.start .new chunks)
            (before.filterMap datagram?) (.start dropping []) := by
        rw [← cut.trans split] at run
        exact DatagramDecoder.reads_of_run machine_local run
      refine ⟨fun others other after shape rejected chunks cut => ?_, fun chunks cut => ?_⟩
      · rcases eq_nil_or_concat after with rfl | ⟨middle, end', rfl⟩
        · obtain ⟨rfl, same⟩ := append_inj' shape rfl
          cases same
          exact ⟨_, _, reads cut, clear, .inr state⟩
        · rw [concat_eq_append, ← cons_append, ← append_assoc] at shape
          obtain ⟨rfl, -⟩ := append_inj' shape rfl
          have isAccepted := accepted other (by simp)
          rw [rejected] at isAccepted
          cases isAccepted
      · rw [filterMap_append, filterMap_cons_none verdict, filterMap_nil, append_nil]
        exact ⟨_, reads cut⟩

/-- Behind a frame of length zero the rest of the chunk is lost, whatever it is. -/
lemma run_zero_length {rest : Bytes} (ready : self.Ready) (zero : frame.contents = [])
    (nonempty : rest ≠ []) :
    AnyRun self (frame.bytes ++ rest) { self with totalLength := 0 } [] := by
  have lengthTurn := length_turn ready (Wire.length_beBytes _ frame.contents.length) rest
  have dropTurn := dropping_turn_last
    { self with totalLength := 0, state := .dropping 0 } rest rfl (Nat.zero_le _)
  have restored : { self with totalLength := 0, state := .length } =
      { self with totalLength := 0 } := by
    rw [← ready.1]
  rw [beNat_lengthPrefix, zero] at lengthTurn
  rw [bytes, zero]
  refine .silent (append_ne_nil_of_right_ne_nil _ nonempty) trivial lengthTurn
    (.silent nonempty trivial dropTurn ?_)
  rw [restored]
  exact .done _

/-- A frame of length zero, which the decoder rejects. -/
def empty : Frame := ⟨[], by decide⟩

/-- Zero bytes behind an accepted frame: some way of cutting them leaves the decoder
away from a frame boundary. -/
lemma reads_zeros (count : Nat) (accepted : frame.datagram? = some dgram)
    (nonempty : dgram.payload ≠ []) (many : 6 ≤ count) :
    ∃ chunks dgrams final, chunks.flatten = frame.bytes ++ List.replicate count 0 ∧
      DatagramDecoder.Reads machine (.start .new chunks) dgrams
        (.start final []) ∧ ¬final.Ready := by
  obtain ⟨rest, rfl⟩ := Nat.exists_eq_add_of_le many
  have first := run_accepted (fun _ _ => trivial) ready_new accepted (by rwa [append_nil]) (.done _)
  rw [append_nil] at first
  have ready := frame.ready_idle dgram
  have lost : AnyRun (frame.idle dgram) (empty.bytes ++ List.replicate (rest + 1) 0) _ [] :=
    run_zero_length ready rfl (by simp)
  have last := length_wait { frame.idle dgram with totalLength := 0 } [0] rfl
    (by simp [idle, udppktLengthSize]) (cons_ne_nil _ _)
  refine ⟨[frame.bytes, empty.bytes ++ List.replicate _ 0, [0]], _, _, ?_,
    DatagramDecoder.reads_of_chunkRun _
      (.chunk first (.chunk lost (.chunk last (.done _)))), fun boundary => ?_⟩
  · have zeros : List.replicate (6 + rest) 0 =
        empty.bytes ++ (List.replicate (rest + 1) 0 ++ [0]) := by
      rw [← replicate_succ', show 6 + rest = 4 + (rest + 1 + 1) by omega, replicate_add]
      rfl
    rw [zeros]
    simp
  · exact cons_ne_nil _ _ boundary.2

/-- The frame after the rejected one never comes out when both arrive in one
chunk. -/
theorem not_resynchronises_empty_ping :
    ([empty, ping].filterMap datagram?).length = 1 ∧
      (∃ final, DatagramDecoder.Reads machine
        (.start .new [stream [empty, ping]]) [] (.start final [])) ∧
      ¬Resynchronises [empty, ping] := by
  have expected : ([empty, ping].filterMap datagram?).length = 1 := by decide +kernel
  have run : AnyRun .new (stream [empty, ping]) _ [] := run_zero_length ready_new rfl (by decide)
  have reads := DatagramDecoder.reads_of_chunkRun (.start new [stream [empty, ping]])
    (.chunk run (.done _))
  refine ⟨expected, ⟨_, reads⟩, ?_⟩
  rintro ⟨-, delivers⟩
  obtain ⟨final, reads'⟩ := delivers [stream [empty, ping]] (by simp)
  have same := (reads.deterministic reads').1
  rw [← same] at expected
  cases expected

end Frame

end TrustTunnel.Endpoint.HttpUdpCodec
