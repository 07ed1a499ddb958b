import TrustTunnel.Endpoint.UdpCodec

/-!
# Turns of the `_udp2` decoder

What each state of the decoder does with a chunk, the measure that ends its
loop, and the states in which the arrival of more data never changes a turn
already taken. The states that drop a frame are not among them.
-/

namespace TrustTunnel.Endpoint.HttpUdpCodec

open NetUtils Chunked List

namespace Decoder

variable {self after : Decoder} {input data front rest : Bytes} {cap size length : Nat}

/-! ## The shared buffer -/

lemma bufferedRead_wait (short : self.buffer.length + input.length < cap) :
    self.bufferedRead input cap = .ok ({ self with buffer := self.buffer ++ input }, none) := by
  have room : self.buffer.length < cap ∨ cap = 0 := by omega
  have all : min input.length (cap - self.buffer.length) = input.length := by omega
  rw [bufferedRead, usizeSub_of_le (by omega)]
  simp only [room, not_true_eq_false, if_false, all, take_length,
    drop_length, length_append, short, if_true, ok_bind, isEmpty_nil]
  rfl

/-- Enough bytes: the field is handed out with what follows it. -/
lemma bufferedRead_full (room : self.buffer.length < cap ∨ cap = 0)
    (full : self.buffer.length + front.length = cap) :
    self.bufferedRead (front ++ rest) cap =
      .ok ({ self with buffer := [] }, some (self.buffer ++ front, rest)) := by
  have missing : cap - self.buffer.length = front.length := by omega
  have enough : min (front ++ rest).length front.length = front.length := by
    rw [length_append]
    omega
  have complete : ¬(self.buffer ++ front).length < cap := by
    rw [length_append]
    omega
  rw [bufferedRead, usizeSub_of_le (by omega)]
  simp only [room, not_true_eq_false, if_false, missing, enough,
    take_left, drop_left, complete, ok_bind]
  rfl

/-- A buffered read that succeeds either waits or hands the field out. -/
lemma bufferedRead_cases {result : Option (Bytes × Bytes)}
    (read : self.bufferedRead input cap = .ok (after, result)) :
    (result = none ∧ after = { self with buffer := self.buffer ++ input } ∧
        self.buffer.length + input.length < cap) ∨
      ∃ front rest, input = front ++ rest ∧ result = some (self.buffer ++ front, rest) ∧
        after = { self with buffer := [] } ∧
        self.buffer.length + front.length = cap ∧ (self.buffer.length < cap ∨ cap = 0) := by
  by_cases room : self.buffer.length < cap ∨ cap = 0
  · by_cases fits : self.buffer.length ≤ cap
    · by_cases short : self.buffer.length + input.length < cap
      · rw [bufferedRead_wait short] at read
        cases read
        exact .inl ⟨rfl, rfl, short⟩
      · have full : self.buffer.length + (input.take (cap - self.buffer.length)).length = cap := by
          rw [length_take]
          omega
        have split := take_append_drop (cap - self.buffer.length) input
        rw [← split, bufferedRead_full room full] at read
        cases read
        exact .inr ⟨_, _, split.symm, rfl, rfl, full, room⟩
    · rw [bufferedRead, usizeSub, if_neg fits] at read
      simp [room, bind, Except.bind] at read
  · simp [bufferedRead, room, bind, Except.bind] at read

/-! ## Waiting for a header field -/

variable {act : Decoder → Bytes → Except Fault Decoder}

lemma withField_wait (short : self.buffer.length + data.length < size) :
    self.withField data size act = .ok ({ self with buffer := self.buffer ++ data }, []) := by
  rw [withField, bufferedRead_wait short]
  rfl

lemma withField_full (room : self.buffer.length < size ∨ size = 0)
    (full : self.buffer.length + front.length = size) :
    self.withField (front ++ rest) size act =
      (act { self with buffer := [] } (self.buffer ++ front)).map (·, rest) := by
  rw [withField, bufferedRead_full room full]
  simp only [ok_bind, Except.map]
  cases act { self with buffer := [] } _ <;> rfl

variable {tail : Bytes} {turn : Turn Decoder Downstream.UdpDatagram UInt8}

section

variable (read : self.withField data size act = .ok (after, tail))

include read

lemma withField_cases :
    (tail = [] ∧ after = { self with buffer := self.buffer ++ data } ∧
        self.buffer.length + data.length < size) ∨
      ∃ front, data = front ++ tail ∧
        act { self with buffer := [] } (self.buffer ++ front) = .ok after ∧
        self.buffer.length + front.length = size ∧ (self.buffer.length < size ∨ size = 0) := by
  rw [withField, bind_eq_ok] at read
  obtain ⟨⟨middle, result⟩, buffered, continued⟩ := read
  rcases bufferedRead_cases buffered with
    ⟨rfl, rfl, short⟩ | ⟨front, rest, rfl, rfl, rfl, full, room⟩
  · cases continued
    exact .inl ⟨rfl, rfl, short⟩
  · rw [bind_eq_ok] at continued
    obtain ⟨acted, taken, returned⟩ := continued
    cases returned
    exact .inr ⟨front, rfl, taken, full, room⟩

/-- Waiting for a field shortens the data, unless the field is empty. -/
lemma withField_shorter (nonempty : data ≠ []) :
    tail.length < data.length ∨
      (size = 0 ∧ tail = data ∧ self.buffer = [] ∧ act self [] = .ok after) := by
  rcases withField_cases read with ⟨rfl, -, -⟩ | ⟨front, rfl, taken, full, room⟩
  · exact .inl (length_pos_of_ne_nil nonempty)
  · cases front with
    | cons =>
      simp only [cons_append, length_cons, length_append]
      omega
    | nil =>
      have empty : size = 0 := by
        rw [length_nil, add_zero] at full
        omega
      have clear : self.buffer = [] := by
        rw [← length_eq_zero_iff]
        simpa [empty] using full
      refine .inr ⟨empty, rfl, clear, ?_⟩
      have unchanged : { self with buffer := [] } = self := by
        cases self
        cases clear
        rfl
      rwa [unchanged, clear] at taken

/-- Data behind a field that is still waited for resumes the wait; data behind
a complete field is left unread. -/
lemma withField_split (back : Bytes) :
    self.withField (data ++ back) size act = .ok (after, tail ++ back) ∨
      (tail = [] ∧ after = { self with buffer := self.buffer ++ data } ∧
        self.buffer.length + data.length < size ∧
        self.withField (data ++ back) size act = after.withField back size act) := by
  rcases withField_cases read with ⟨rfl, rfl, short⟩ | ⟨front, rfl, taken, full, room⟩
  · refine .inr ⟨rfl, rfl, short, ?_⟩
    by_cases still : self.buffer.length + (data ++ back).length < size
    · rw [withField_wait still, withField_wait (by
        simpa [length_append, add_assoc] using still)]
      simp
    · let missing := size - (self.buffer.length + data.length)
      have missingLe : missing ≤ back.length := by
        rw [length_append] at still
        omega
      have split := take_append_drop missing back
      have taken : (back.take missing).length = missing := by
        rw [length_take]
        omega
      rw [← split, ← append_assoc,
        withField_full (.inl (by omega)) (by
          rw [length_append]
          omega),
        withField_full (.inl (by simpa using short)) (by
          rw [length_append, taken]
          omega)]
      simp
  · refine .inl ?_
    rw [append_assoc, withField_full room full, taken]
    rfl

end

/-! ## The payload -/

/-- The decoder with a completed payload taken out of it. -/
abbrev finished (self : Decoder) : Decoder :=
  { self with state := .length, buffer := [], appName := none }

lemma completePayload_eq {source dest : SocketAddr} (toSend tail : Bytes)
    (hasSource : self.source = some source) (hasDestination : self.destination = some dest) :
    { self with buffer := [] }.completePayload toSend tail =
      .ok ⟨self.finished, some ⟨⟨source, dest, self.appName⟩, toSend⟩, tail⟩ := by
  simp only [completePayload, finished, hasSource, hasDestination, unwrap]
  rfl

lemma completePayload_cases {toSend : Bytes} (taken : self.completePayload toSend tail = .ok turn) :
    turn.state.state = .length ∧ turn.state.buffer = self.buffer ∧ turn.tail = tail := by
  rw [completePayload, bind_eq_ok] at taken
  obtain ⟨source, -, taken⟩ := taken
  rw [bind_eq_ok] at taken
  obtain ⟨dest, -, taken⟩ := taken
  cases taken
  exact ⟨rfl, rfl, rfl⟩

lemma processClientPayload_wait (short : self.buffer.length + data.length < length) :
    self.processClientPayload length data =
      .ok ⟨{ self with buffer := self.buffer ++ data }, none, []⟩ := by
  have slow : ¬(self.buffer.isEmpty = true ∧ length ≤ data.length) := by omega
  have all : min data.length (length - self.buffer.length) = data.length := by omega
  rw [processClientPayload, usizeSub_of_le (by omega)]
  simp only [slow, if_false, all, take_length, drop_length, length_append, short, if_true, ok_bind]
  rfl

lemma processClientPayload_full (full : self.buffer.length + front.length = length) :
    self.processClientPayload length (front ++ rest) =
      { self with buffer := [] }.completePayload (self.buffer ++ front) rest := by
  cases buffered : self.buffer with
  | nil =>
    have exact : front.length = length := by simpa [buffered] using full
    have unchanged : { self with buffer := [] } = self := by
      cases self
      cases buffered
      rfl
    rw [unchanged, processClientPayload]
    simp [buffered, ← exact]
  | cons =>
    rw [← buffered]
    have missing : length - self.buffer.length = front.length := by omega
    have enough : min (front ++ rest).length front.length = front.length := by
      rw [length_append]
      omega
    have complete : ¬(self.buffer ++ front).length < length := by
      rw [length_append]
      omega
    have slow : ¬(self.buffer.isEmpty = true ∧ length ≤ (front ++ rest).length) := by
      simp [buffered]
    rw [processClientPayload, usizeSub_of_le (by omega)]
    simp only [slow, if_false, missing, enough, take_left, drop_left, complete, ok_bind]

lemma processClientPayload_cases (taken : self.processClientPayload length data = .ok turn) :
    (turn = ⟨{ self with buffer := self.buffer ++ data }, none, []⟩ ∧
        self.buffer.length + data.length < length) ∨
      ∃ front, data = front ++ turn.tail ∧ self.buffer.length + front.length = length ∧
        { self with buffer := [] }.completePayload (self.buffer ++ front) turn.tail = .ok turn := by
  by_cases fits : self.buffer.length ≤ length
  · by_cases short : self.buffer.length + data.length < length
    · rw [processClientPayload_wait short] at taken
      cases taken
      exact .inl ⟨rfl, short⟩
    · let missing := length - self.buffer.length
      have full : self.buffer.length + (data.take missing).length = length := by
        rw [length_take]
        omega
      have split := take_append_drop missing data
      rw [← split, processClientPayload_full full] at taken
      have tail : turn.tail = data.drop missing := (completePayload_cases taken).2.2
      refine .inr ⟨data.take missing, ?_, full, ?_⟩
      · rw [tail, split]
      · rw [tail, taken]
  · rw [processClientPayload, usizeSub, if_neg fits] at taken
    have buffered : self.buffer ≠ [] := by
      intro empty
      simp [empty] at fits
    simp [buffered, bind, Except.bind] at taken

/-! ## Whole turns -/

variable {turn : Turn Decoder Downstream.UdpDatagram UInt8} {header : Bytes} {back : Bytes}

/-- A turn in a state that waits for a header field. -/
def fieldTurn (result : Decoder × Bytes) : Turn Decoder Downstream.UdpDatagram UInt8 :=
  ⟨result.1, none, result.2⟩

lemma decodeChunkOnce_length (state : self.state = .length) :
    self.decodeChunkOnce data = (self.withField data udppktLengthSize onLength).map fieldTurn := by
  rw [decodeChunkOnce, state]
  rfl

lemma decodeChunkOnce_fixedHeader (state : self.state = .fixedHeader) :
    self.decodeChunkOnce data =
      (self.withField data udppktInFixedHeaderNoLengthSize onFixedHeader).map
        fieldTurn := by
  rw [decodeChunkOnce, state]
  rfl

lemma decodeChunkOnce_appName (state : self.state = .appName length) :
    self.decodeChunkOnce data = (self.withField data length (onAppName length)).map fieldTurn := by
  rw [decodeChunkOnce, state]
  rfl

lemma decodeChunkOnce_payload (state : self.state = .payload length) :
    self.decodeChunkOnce data = self.processClientPayload length data := by
  rw [decodeChunkOnce, state]

open Bytes

/-- The bytes that should have been dropped are the ones decoded next; what
follows them in the chunk is lost. -/
lemma decodeChunkOnce_dropping (state : self.state = .dropping length) :
    self.decodeChunkOnce data =
      .ok ⟨{ self with
          state := if length ≤ data.length then .length
            else .dropping (length - data.length) },
        none, data.take (min length data.length)⟩ := by
  have inside : min length data.length ≤ data.length := min_le_right _ _
  rw [decodeChunkOnce, state]
  simp only [splitTo_of_le inside, ok_bind]
  by_cases last : length ≤ data.length
  · rw [if_pos last, if_pos (by omega)]
    rfl
  · rw [if_neg last, if_neg (by omega), min_eq_right (by omega)]
    rfl

lemma map_fieldTurn_eq_ok {result : Except Fault (Decoder × Bytes)}
    (mapped : result.map fieldTurn = .ok turn) :
    result = .ok (turn.state, turn.tail) ∧ turn.output = none := by
  cases result with
  | error => cases mapped
  | ok =>
    cases mapped
    exact ⟨rfl, rfl⟩

/-- How many turns a state can take without reading a byte. -/
def rank (self : Decoder) : Nat :=
  match self.state with
  | .length | .fixedHeader => 0
  | .appName _ => self.totalLength + 2
  | .payload _ => 1
  | .dropping remainingLength => remainingLength + 1

lemma rank_onAppName {name : Bytes} (acted : onAppName length self name = .ok after) :
    after.rank < self.totalLength + 2 := by
  rw [onAppName, bind_eq_ok] at acted
  obtain ⟨afterHeader, subtracted, acted⟩ := acted
  rw [bind_eq_ok] at acted
  obtain ⟨payloadLength, subtracted', acted⟩ := acted
  rw [usizeSub] at subtracted subtracted'
  split at subtracted <;> cases subtracted
  split at subtracted' <;> cases subtracted'
  split at acted <;> cases acted
  · simp [rank]
  · simp only [rank]
    omega

lemma decodeChunkOnce_progress (nonempty : data ≠ [])
    (taken : self.decodeChunkOnce data = .ok turn) :
    turn.tail.length < data.length ∨
      turn.tail.length = data.length ∧ turn.state.rank < self.rank := by
  cases state : self.state with
  | length =>
    rw [decodeChunkOnce_length state] at taken
    obtain ⟨read, -⟩ := map_fieldTurn_eq_ok taken
    rcases withField_shorter read nonempty with shorter | ⟨size, -⟩
    · exact .inl shorter
    · cases size
  | fixedHeader =>
    rw [decodeChunkOnce_fixedHeader state] at taken
    obtain ⟨read, -⟩ := map_fieldTurn_eq_ok taken
    rcases withField_shorter read nonempty with shorter | ⟨size, -⟩
    · exact .inl shorter
    · cases size
  | appName =>
    rw [decodeChunkOnce_appName state] at taken
    obtain ⟨read, -⟩ := map_fieldTurn_eq_ok taken
    rcases withField_shorter read nonempty with shorter | ⟨-, tail, -, acted⟩
    · exact .inl shorter
    · refine .inr ⟨by rw [tail], ?_⟩
      have bound := rank_onAppName acted
      simpa [rank, state] using bound
  | payload =>
    rw [decodeChunkOnce_payload state] at taken
    rcases processClientPayload_cases taken with ⟨rfl, -⟩ | ⟨front, split, -, complete⟩
    · exact .inl (length_pos_of_ne_nil nonempty)
    · have stateAfter := (completePayload_cases complete).1
      have lower : turn.state.rank < self.rank := by simp [rank, state, stateAfter]
      rw [split, length_append]
      omega
  | dropping length =>
    rw [decodeChunkOnce_dropping state] at taken
    cases taken
    have positive := length_pos_of_ne_nil nonempty
    by_cases inside : length ≤ data.length
    · by_cases whole : length = data.length
      · simp [rank, state, whole]
      · rw [length_take]
        omega
    · simp only [rank, state, if_neg inside, length_take]
      omega

/-- The body of the loop in `decode_chunk`. -/
def machine : StepMachine Decoder UInt8 Downstream.UdpDatagram Fault where
  step := decodeChunkOnce
  rank := rank
  progress := decodeChunkOnce_progress

/-! ## Locality -/

lemma readFixedHeader_append (sourceIp destinationIp : Ipv6Addr)
    {sourcePort destinationPort : Bytes} (appNameLength : UInt8) (rest : Bytes)
    (sourcePortLength : sourcePort.length = 2)
    (destinationPortLength : destinationPort.length = 2) :
    readFixedHeader (sourceIp.toList ++ (sourcePort ++ (destinationIp.toList ++
        (destinationPort ++ appNameLength :: rest)))) =
      .ok (⟨.ofFixedSize sourceIp, .ofNat (Wire.beNat sourcePort)⟩,
        ⟨.ofFixedSize destinationIp, .ofNat (Wire.beNat destinationPort)⟩,
        appNameLength.toNat) := by
  simp only [readFixedHeader, getFixedSizeIp_append, getU16_append _ sourcePortLength,
    getU16_append _ destinationPortLength, getU8, ok_bind]
  rfl

lemma readFixedHeader_of_length (length : header.length = udppktInFixedHeaderNoLengthSize) :
    ∃ source dest appNameLength,
      readFixedHeader header = .ok (source, dest, appNameLength) ∧ appNameLength < 256 := by
  change header.length = 37 at length
  obtain ⟨sourceIp, header, rfl, sourceIpLength, restLength⟩ := exists_append header 16 (by omega)
  obtain ⟨sourcePort, header, rfl, sourcePortLength, restLength⟩ :=
    exists_append header 2 (by omega)
  obtain ⟨destinationIp, header, rfl, destinationIpLength, restLength⟩ :=
    exists_append header 16 (by omega)
  obtain ⟨destinationPort, header, rfl, destinationPortLength, restLength⟩ :=
    exists_append header 2 (by omega)
  cases header with
  | nil =>
    simp only [length_append, length_nil] at length
    omega
  | cons appNameLength rest =>
    exact ⟨_, _, appNameLength.toNat,
      readFixedHeader_append ⟨sourceIp, sourceIpLength⟩ ⟨destinationIp, destinationIpLength⟩ _ rest
        sourcePortLength destinationPortLength, appNameLength.toNat_lt⟩

/-- The decoder is inside a frame it has not rejected, and its buffer holds less
than the field it waits for. -/
def Reading (self : Decoder) : Prop :=
  match self.state with
  | .length => self.buffer.length < udppktLengthSize
  | .fixedHeader =>
    self.buffer.length < udppktInFixedHeaderNoLengthSize ∧
      udppktInFixedHeaderNoLengthSize ≤ self.totalLength
  | .appName length =>
    (self.buffer.length < length ∨ length = 0 ∧ self.buffer = []) ∧
      udppktInFixedHeaderNoLengthSize + length ≤ self.totalLength
  | .payload length =>
    (self.buffer.length < length ∨ length = 0 ∧ self.buffer = []) ∧
      self.source.isSome = true ∧ self.destination.isSome = true
  | .dropping _ => False

lemma onLength_total {rawLength : Bytes} (length : rawLength.length = 4) :
    ∃ after, onLength self rawLength = .ok after := by
  have read := getU32_append [] length
  rw [append_nil] at read
  rw [onLength, read]
  simp only [ok_bind]
  split
  · exact ⟨_, rfl⟩
  · exact ⟨_, rfl⟩

lemma onFixedHeader_total (length : header.length = udppktInFixedHeaderNoLengthSize)
    (fits : udppktInFixedHeaderNoLengthSize ≤ self.totalLength) :
    ∃ after, onFixedHeader self header = .ok after := by
  obtain ⟨source, dest, appNameLength, read, small⟩ := readFixedHeader_of_length length
  have limit : appNameLength ≤ maxUdpInPayloadSize := by
    change appNameLength ≤ 65471
    omega
  simp only [onFixedHeader, read, usizeSub_of_le limit, usizeSub_of_le fits, ok_bind]
  split
  · exact ⟨_, rfl⟩
  · split
    · exact ⟨_, rfl⟩
    · exact ⟨_, rfl⟩

lemma onAppName_total (name : Bytes)
    (fits : udppktInFixedHeaderNoLengthSize + length ≤ self.totalLength) :
    ∃ after, onAppName length self name = .ok after := by
  simp only [onAppName,
    usizeSub_of_le (show udppktInFixedHeaderNoLengthSize ≤ self.totalLength by omega),
    usizeSub_of_le (show length ≤ self.totalLength - udppktInFixedHeaderNoLengthSize by omega),
    ok_bind]
  split
  · exact ⟨_, rfl⟩
  · exact ⟨_, rfl⟩

/-- A field that fits into the buffer can be waited for. -/
lemma withField_total (room : self.buffer.length < size ∨ size = 0 ∧ self.buffer = [])
    (acts : ∀ field : Bytes, field.length = size →
      ∃ after, act { self with buffer := [] } field = .ok after) (data : Bytes) :
    ∃ result, self.withField data size act = .ok result := by
  by_cases short : self.buffer.length + data.length < size
  · exact ⟨_, withField_wait short⟩
  · have fits : self.buffer.length ≤ size := by
      rcases room with room | ⟨rfl, clear⟩
      · omega
      · simp [clear]
    obtain ⟨front, rest, rfl, frontLength, -⟩ :=
      exists_append data (size - self.buffer.length) (by omega)
    have full : self.buffer.length + front.length = size := by omega
    obtain ⟨after, acted⟩ := acts _ (by
      rw [length_append]
      exact full)
    rw [withField_full (room.imp_right And.left) full, acted]
    exact ⟨_, rfl⟩

lemma processClientPayload_total
    (room : self.buffer.length < length ∨ length = 0 ∧ self.buffer = [])
    (hasSource : self.source.isSome = true)
    (hasDestination : self.destination.isSome = true) (data : Bytes) :
    ∃ turn, self.processClientPayload length data = .ok turn := by
  obtain ⟨source, hasSource⟩ := Option.isSome_iff_exists.mp hasSource
  obtain ⟨dest, hasDestination⟩ := Option.isSome_iff_exists.mp hasDestination
  by_cases short : self.buffer.length + data.length < length
  · exact ⟨_, processClientPayload_wait short⟩
  · have fits : self.buffer.length ≤ length := by
      rcases room with room | ⟨rfl, clear⟩
      · omega
      · simp [clear]
    obtain ⟨front, rest, rfl, frontLength, -⟩ :=
      exists_append data (length - self.buffer.length) (by omega)
    rw [processClientPayload_full (by omega), completePayload_eq _ _ hasSource hasDestination]
    exact ⟨_, rfl⟩

lemma decodeChunkOnce_total (reading : self.Reading) (data : Bytes) :
    ∃ turn, self.decodeChunkOnce data = .ok turn := by
  cases state : self.state with
  | length =>
    simp only [Reading, state] at reading
    obtain ⟨result, read⟩ := withField_total (.inl reading)
      (fun field length => onLength_total length) data
    exact ⟨fieldTurn result, by rw [decodeChunkOnce_length state, read]; rfl⟩
  | fixedHeader =>
    simp only [Reading, state] at reading
    obtain ⟨result, read⟩ := withField_total (.inl reading.1)
      (fun field length => onFixedHeader_total length reading.2) data
    exact ⟨fieldTurn result, by rw [decodeChunkOnce_fixedHeader state, read]; rfl⟩
  | appName =>
    simp only [Reading, state] at reading
    obtain ⟨result, read⟩ := withField_total reading.1
      (fun field _ => onAppName_total field reading.2) data
    exact ⟨fieldTurn result, by rw [decodeChunkOnce_appName state, read]; rfl⟩
  | payload =>
    simp only [Reading, state] at reading
    rw [decodeChunkOnce_payload state]
    exact processClientPayload_total reading.1 reading.2.1 reading.2.2 data
  | dropping => simp [Reading, state] at reading

/-- Locality of a header state follows from locality of its field. -/
lemma fieldTurn_split
    (step : ∀ (decoder : Decoder) (data : Bytes), decoder.state = self.state →
      decoder.decodeChunkOnce data = (decoder.withField data size act).map fieldTurn)
    (still : ∀ buffer : Bytes, buffer.length < size → Reading { self with buffer := buffer })
    (taken : self.decodeChunkOnce front = .ok turn) :
    self.decodeChunkOnce (front ++ back) = .ok ⟨turn.state, turn.output, turn.tail ++ back⟩ ∨
      (turn.output = none ∧ turn.tail = [] ∧ turn.state.Reading ∧
        self.decodeChunkOnce (front ++ back) = turn.state.decodeChunkOnce back) := by
  rw [step self front rfl] at taken
  obtain ⟨read, quiet⟩ := map_fieldTurn_eq_ok taken
  rcases withField_split read back with kept | ⟨used, waited, short, resumed⟩
  · left
    rw [step self _ rfl, kept, quiet]
    rfl
  · right
    have same : turn.state.state = self.state := by rw [waited]
    refine ⟨quiet, used, ?_, ?_⟩
    · rw [waited]
      exact still _ (by rwa [length_append])
    · rw [step self _ rfl, resumed, step _ back same]

lemma processClientPayload_split (state : self.state = .payload length) (reading : self.Reading)
    (taken : self.decodeChunkOnce front = .ok turn) :
    self.decodeChunkOnce (front ++ back) = .ok ⟨turn.state, turn.output, turn.tail ++ back⟩ ∨
      (turn.output = none ∧ turn.tail = [] ∧ turn.state.Reading ∧
        self.decodeChunkOnce (front ++ back) = turn.state.decodeChunkOnce back) := by
  simp only [Reading, state] at reading
  obtain ⟨-, hasSource, hasDestination⟩ := reading
  obtain ⟨source, sourceEq⟩ := Option.isSome_iff_exists.mp hasSource
  obtain ⟨dest, destinationEq⟩ := Option.isSome_iff_exists.mp hasDestination
  rw [decodeChunkOnce_payload state] at taken
  rw [decodeChunkOnce_payload state]
  rcases processClientPayload_cases taken with ⟨rfl, short⟩ | ⟨last, split, full, complete⟩
  · right
    refine ⟨rfl, rfl, ?_, ?_⟩
    · simp only [Reading, state, length_append]
      exact ⟨.inl short, hasSource, hasDestination⟩
    · have resumed : decodeChunkOnce { self with buffer := self.buffer ++ front } back =
          processClientPayload _ length back := decodeChunkOnce_payload state
      rw [resumed]
      by_cases still : self.buffer.length + (front ++ back).length < length
      · rw [processClientPayload_wait still, processClientPayload_wait (by
          simpa [length_append, add_assoc] using still)]
        simp
      · rw [length_append] at still
        obtain ⟨missing, rest, rfl, missingLength, -⟩ :=
          exists_append back (length - (self.buffer.length + front.length)) (by omega)
        rw [← append_assoc, processClientPayload_full (by rw [length_append]; omega),
          processClientPayload_full (by
            rw [length_append]
            omega)]
        simp
  · left
    rw [completePayload_eq _ _ sourceEq destinationEq] at complete
    rw [split, append_assoc, processClientPayload_full full,
      completePayload_eq _ _ sourceEq destinationEq]
    have result := Except.ok.inj complete
    rw [← result]

/-- Data that arrives later does not disturb a decoder that is reading. -/
lemma machine_local : machine.Local Reading where
  total reading _ := decodeChunkOnce_total reading _
  split := by
    intro self front turn back reading _ _ taken
    cases state : self.state with
    | length =>
      refine fieldTurn_split
        (fun _ _ same => decodeChunkOnce_length (same.trans state)) (fun buffer short => ?_) taken
      simpa [Reading, state] using short
    | fixedHeader =>
      simp only [Reading, state] at reading
      refine fieldTurn_split
        (fun _ _ same => decodeChunkOnce_fixedHeader (same.trans state)) (fun buffer short => ?_) taken
      simpa [Reading, state] using ⟨short, reading.2⟩
    | appName =>
      simp only [Reading, state] at reading
      refine fieldTurn_split
        (fun _ _ same => decodeChunkOnce_appName (same.trans state)) (fun buffer short => ?_) taken
      simpa [Reading, state] using ⟨.inl short, reading.2⟩
    | payload => exact processClientPayload_split state reading taken
    | dropping => simp [Reading, state] at reading

end Decoder

end TrustTunnel.Endpoint.HttpUdpCodec
