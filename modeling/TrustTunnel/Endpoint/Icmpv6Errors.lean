import TrustTunnel.Endpoint.IcmpUtils

/-!
# ICMPv6 messages from the network

An ICMPv6 error quotes the packet it is about, with whatever extension headers that packet
has. Every length of an extension header is taken from the packet; the loop over the
headers trusts it.
-/

namespace TrustTunnel.Endpoint

open List Bytes

/-! ## Extension headers -/

variable {packet : Bytes}

namespace NetUtils

/-- The headers whose second byte is taken for their length. -/
def HasLength (protocol : UInt8) : Prop :=
  protocol = ipprotoHopopts ∨ protocol = ipprotoRouting ∨ protocol = ipprotoDstopts

instance (protocol : UInt8) : Decidable (HasLength protocol) :=
  inferInstanceAs (Decidable (_ ∨ _ ∨ _))

/-- Among the headers that follow one another from `protocol` on, there is one that claims
more bytes than the packet has left. -/
inductive Overruns : (protocol : UInt8) → (packet : Bytes) → Prop where
  | here {protocol next length : UInt8} {rest : Bytes} (sized : HasLength protocol)
      (short : rest.length < length.toNat) : Overruns protocol (next :: length :: rest)
  | sized {protocol next length : UInt8} {body rest : Bytes} (sized : HasLength protocol)
      (exactly : body.length = length.toNat) (later : Overruns next rest) :
      Overruns protocol (next :: length :: (body ++ rest))
  | fragment {next : UInt8} {body rest : Bytes}
      (exactly : body.length = ipv6FragmentExtLength - 1) (later : Overruns next rest) :
      Overruns ipprotoFragment (next :: (body ++ rest))

variable {protocol : UInt8}

/-- A fault of the loop is due to a header that claims more than is left. -/
lemma overruns_of_eq_error {fault : Fault}
    (faulted : skipExtensionHeaders protocol packet = .error fault) : Overruns protocol packet := by
  fun_induction skipExtensionHeaders protocol packet with
  | case1 _ sized _ _ rest fits ih =>
    rw [← take_append_drop _ rest]
    exact .sized sized (length_take_of_le fits) (ih faulted)
  | case2 _ sized _ _ _ exceeds => exact .here sized (Nat.lt_of_not_le exceeds)
  | case3 | case5 | case6 | case7 => cases faulted
  | case4 _ rest fits _ ih =>
    rw [← take_append_drop _ rest]
    exact .fragment (length_take_of_le fits) (ih faulted)

variable {next : UInt8} {body rest : Bytes}

lemma skipExtensionHeaders_sized {protocol length : UInt8} (sized : HasLength protocol)
    (exactly : body.length = length.toNat) :
    skipExtensionHeaders protocol (next :: length :: (body ++ rest)) =
      skipExtensionHeaders next rest := by
  rw [HasLength] at sized
  rw [skipExtensionHeaders, if_pos sized, ← exactly]
  simp

lemma skipExtensionHeaders_fragment (exactly : body.length = ipv6FragmentExtLength - 1) :
    skipExtensionHeaders ipprotoFragment (next :: (body ++ rest)) =
      skipExtensionHeaders next rest := by
  rw [skipExtensionHeaders.eq_def, if_neg (by decide), ← exactly]
  simp

lemma skipExtensionHeaders_payload (unsized : ¬HasLength protocol)
    (unfragmented : protocol ≠ ipprotoFragment) :
    skipExtensionHeaders protocol packet = .ok (some (protocol, packet)) := by
  rw [HasLength] at unsized
  rw [skipExtensionHeaders.eq_def, if_neg unsized, if_neg unfragmented]

lemma skipExtensionHeaders_of_overruns (overruns : Overruns protocol packet) :
    skipExtensionHeaders protocol packet = .error .outOfRange := by
  induction overruns with
  | @here protocol next length rest sized short =>
    rw [HasLength] at sized
    rw [skipExtensionHeaders, if_pos sized]
    exact if_neg (Nat.not_le_of_lt short)
  | @sized protocol next length body rest sized exactly later ih =>
    rw [skipExtensionHeaders_sized sized exactly, ih]
  | @fragment next body rest exactly later ih => rw [skipExtensionHeaders_fragment exactly, ih]

/-- The fixed header has its protocol at offset 6 and is 40 bytes long. -/
lemma skipIpv6Header_append {front middle : Bytes} (next : UInt8) (rest : Bytes)
    (frontLength : front.length = 6) (middleLength : middle.length = 33) :
    skipIpv6Header (front ++ next :: (middle ++ rest)) = skipExtensionHeaders next rest := by
  have enough : ¬(front ++ next :: (middle ++ rest)).length < minIpv6HeaderSize := by
    rw [length_append, length_cons, length_append, frontLength, middleLength, minIpv6HeaderSize]
    omega
  have first : (front ++ next :: (middle ++ rest)).advance (4 + 2) =
      .ok (next :: (middle ++ rest)) := by
    simp [advance, ← frontLength]
  have second : (middle ++ rest).advance (1 + 16 + 16) = .ok rest := by
    simp [advance, ← middleLength]
  rw [skipIpv6Header, if_neg enough, first]
  simp [ok_bind, getU8, second]

/-- A packet that is long enough has a fixed header in front. -/
lemma exists_fixed_header (enough : minIpv6HeaderSize ≤ packet.length) :
    ∃ front next middle rest, packet = front ++ next :: (middle ++ rest) ∧
      front.length = 6 ∧ middle.length = 33 := by
  rw [minIpv6HeaderSize] at enough
  obtain ⟨front, behind, split, frontLength, behindLength⟩ := exists_append packet 6 (by omega)
  cases behind with
  | nil => exact absurd behindLength (by simp only [length_nil]; omega)
  | cons next behind =>
    rw [length_cons] at behindLength
    obtain ⟨middle, rest, behindSplit, middleLength, -⟩ := exists_append behind 33 (by omega)
    exact ⟨front, next, middle, rest, by rw [split, behindSplit], frontLength, middleLength⟩

end NetUtils

/-! ## Reading a message -/

namespace IcmpUtils

variable {α : Type} {func : UInt8 → Bytes → Except Fault (DeserializeResult α)} {bound : Nat}

lemma deserializePacket_cons {code first second : UInt8} {rest : Bytes}
    (enough : bound ≤ 4 + rest.length) :
    deserializePacket func (code :: first :: second :: rest) (.lowerBound bound) =
      func code rest := by
  have passes : ¬1 + (code :: first :: second :: rest).length < bound := by
    simp only [length_cons]
    omega
  have checksum : splitTo (first :: second :: rest) checksumSize =
      .ok ([first, second], rest) := splitTo_append [first, second] rest
  simp only [deserializePacket, LengthCheck.violation, if_neg passes, getU8, bind,
    Except.bind, checksum]

variable (func bound) in
/-- A packet is refused, or has a code and a checksum in front of what is parsed. -/
lemma deserializePacket_cases (header : 4 ≤ bound) (packet : Bytes) :
    (∃ error, deserializePacket func packet (.lowerBound bound) = .ok (.error error)) ∨
      ∃ code first second rest, packet = code :: first :: second :: rest ∧ bound ≤ 4 + rest.length ∧
        deserializePacket func packet (.lowerBound bound) = func code rest := by
  by_cases short : 1 + packet.length < bound
  · simp only [deserializePacket, LengthCheck.violation, if_pos short]
    exact .inl ⟨_, rfl⟩
  · obtain ⟨front, rest, rfl, frontLength, restLength⟩ := packet.exists_append 3 (by omega)
    obtain ⟨code, first, second, rfl⟩ := length_eq_three.mp frontLength
    have enough : bound ≤ 4 + rest.length := by omega
    exact .inr ⟨code, first, second, rest, rfl, enough, deserializePacket_cons enough⟩

lemma parseEcho_append {identifier sequenceNumber : Bytes} (code : UInt8) (data : Bytes)
    (identifierLength : identifier.length = 2) (sequenceLength : sequenceNumber.length = 2) :
    parseEcho code (identifier ++ (sequenceNumber ++ data)) =
      .ok (.ok ⟨code, .ofNat (Wire.beNat identifier), .ofNat (Wire.beNat sequenceNumber), data⟩) := by
  simp only [parseEcho, getU16_append _ identifierLength, ok_bind, getU16_append _ sequenceLength]
  rfl

lemma exists_parseEcho (code : UInt8) (packet : Bytes)
    (enough : icmpMinCommonHeaderSize ≤ 4 + packet.length) :
    ∃ echo, parseEcho code packet = .ok (.ok echo) := by
  rw [show icmpMinCommonHeaderSize = 8 from rfl] at enough
  obtain ⟨identifier, behind, rfl, identifierLength, _⟩ := packet.exists_append 2 (by omega)
  obtain ⟨sequenceNumber, data, rfl, sequenceLength, -⟩ := behind.exists_append 2 (by omega)
  exact ⟨_, parseEcho_append code data identifierLength sequenceLength⟩

/-- Reading the echo request at the start of a payload never faults. -/
lemma exists_quotedEcho (proto typeId : UInt8) (skipped : Option (UInt8 × Bytes)) :
    ∃ echo, quotedEcho proto typeId (.lowerBound icmpMinCommonHeaderSize) skipped = .ok echo := by
  fun_cases quotedEcho with
  | case1 | case3 => exact ⟨none, rfl⟩
  | case2 _ _ payload =>
    rcases deserializePacket_cases _ icmpMinCommonHeaderSize (by decide) payload with
      ⟨error, read⟩ | ⟨code, _, _, rest, -, enough, read⟩
    · rw [read]
      exact ⟨none, rfl⟩
    · obtain ⟨echo, parsed⟩ := exists_parseEcho code rest enough
      rw [read, parsed]
      exact ⟨echo, rfl⟩

namespace V6

def TypeId.destinationUnreachable : UInt8 := 1
def TypeId.packetTooBig : UInt8 := 2
def TypeId.timeExceeded : UInt8 := 3
def TypeId.parameterProblem : UInt8 := 4
def TypeId.echoReply : UInt8 := 129

/-- `DestinationUnreachableCode`: from `NO_ROUTE` to `REJECT_ROUTE`. -/
def destinationUnreachableCodes : List UInt8 := [0, 1, 2, 3, 4, 5, 6]

/-- `TimeExceededCode`: `HOP_LIMIT` and `FRAGMENT_REASSEMBLY`. -/
def timeExceededCodes : List UInt8 := [0, 1]

namespace Message

/-- An error with a code out of a list and four unused bytes. -/
def parseCoded (codes : List UInt8) (refusal : UInt8 → DeserializeError)
    (msg : UInt8 → Bytes → Message) (code : UInt8) (packet : Bytes) :
    Except Fault (DeserializeResult Message) := do
  if code ∉ codes then
    return .error (refusal code)
  let (_, data) ← packet.splitTo 4
  return .ok (msg code data)

/-- An error with a 32-bit field of its own. -/
def parseField (msg : UInt8 → UInt32 → Bytes → Message) (code : UInt8) (packet : Bytes) :
    Except Fault (DeserializeResult Message) := do
  let (field, data) ← packet.getU32
  return .ok (msg code field data)

def parseDestinationUnreachable : UInt8 → Bytes → Except Fault (DeserializeResult Message) :=
  parseCoded destinationUnreachableCodes .destinationUnreachableCode .destinationUnreachable

def parsePacketTooBig : UInt8 → Bytes → Except Fault (DeserializeResult Message) :=
  parseField .packetTooBig

def parseTimeExceeded : UInt8 → Bytes → Except Fault (DeserializeResult Message) :=
  parseCoded timeExceededCodes .timeExceededCode .timeExceeded

def parseParameterProblem : UInt8 → Bytes → Except Fault (DeserializeResult Message) :=
  parseField .parameterProblem

/-- `parse_echo`, as a message of the given kind. -/
def parseEchoAs (msg : Echo → Message) (code : UInt8) (packet : Bytes) :
    Except Fault (DeserializeResult Message) := do
  let result ← parseEcho code packet
  return result.map msg

/-- The least length of an error: it quotes an IPv6 header at least. -/
def minErrorSize : Nat := icmpMinCommonHeaderSize + NetUtils.minIpv6HeaderSize

def deserialize (packet : Bytes) : Except Fault (DeserializeResult Message) :=
  match packet with
  | [] => .ok (.error (.invalidLength "Empty packet"))
  | typeId :: packet =>
    if typeId = TypeId.destinationUnreachable then
      deserializePacket parseDestinationUnreachable packet (.lowerBound minErrorSize)
    else if typeId = TypeId.packetTooBig then
      deserializePacket parsePacketTooBig packet (.lowerBound minErrorSize)
    else if typeId = TypeId.timeExceeded then
      deserializePacket parseTimeExceeded packet (.lowerBound minErrorSize)
    else if typeId = TypeId.parameterProblem then
      deserializePacket parseParameterProblem packet (.lowerBound minErrorSize)
    else if typeId = TypeId.echoRequest then
      deserializePacket (parseEchoAs .echoRequest) packet (.lowerBound icmpMinCommonHeaderSize)
    else if typeId = TypeId.echoReply then
      deserializePacket (parseEchoAs .echoReply) packet (.lowerBound icmpMinCommonHeaderSize)
    else .ok (.error (.messageType typeId))

/-- The types and codes of the errors that are read. -/
def IsError (typeId code : UInt8) : Prop :=
  typeId = TypeId.destinationUnreachable ∧ code ∈ destinationUnreachableCodes ∨
    typeId = TypeId.packetTooBig ∨
    typeId = TypeId.timeExceeded ∧ code ∈ timeExceededCodes ∨ typeId = TypeId.parameterProblem

/-- The packet is an error that is read, and quotes the given data. -/
def Quotes (packet data : Bytes) : Prop :=
  ∃ typeId code header, packet = typeId :: code :: (header ++ data) ∧ header.length = 6 ∧
    IsError typeId code ∧ NetUtils.minIpv6HeaderSize ≤ data.length

/-- Reading the message and looking for the echo request it responds to returns. -/
def Survives (packet : Bytes) : Prop :=
  ∃ result, deserialize packet = .ok result ∧
    ∀ msg, result = .ok msg → ∃ req, msg.respondedEchoRequest = .ok req

/-- The packet is read without a fault, and quotes what the message is said to quote. -/
def ReadsAs (packet : Bytes) (read : Except Fault (DeserializeResult Message)) : Prop :=
  ∃ result, read = .ok result ∧
    ∀ msg, result = .ok msg → ∀ data, msg.icmpData = some data → Quotes packet data

/-! ## What the parsers of errors do -/

/-- The parser keeps the data behind four bytes, for the codes that are admitted. -/
structure ReadsError (func : UInt8 → Bytes → Except Fault (DeserializeResult Message))
    (admits : UInt8 → Prop) : Prop where
  accepts {code : UInt8} {field : Bytes} (data : Bytes) (fieldLength : field.length = 4)
    (admitted : admits code) :
    ∃ msg, func code (field ++ data) = .ok (.ok msg) ∧ msg.icmpData = some data
  refuses {code : UInt8} (packet : Bytes) (refused : ¬admits code) :
    ∃ error, func code packet = .ok (.error error)

lemma readsError_parseCoded {codes : List UInt8} {refusal : UInt8 → DeserializeError}
    {msg : UInt8 → Bytes → Message} (quotes : ∀ code data, (msg code data).icmpData = some data) :
    ReadsError (parseCoded codes refusal msg) (· ∈ codes) where
  accepts {code field} data fieldLength admitted := by
    refine ⟨msg code data, ?_, quotes code data⟩
    rw [parseCoded, if_neg (not_not.mpr admitted), splitTo_append' data fieldLength]
    rfl
  refuses {code} packet refused := by
    refine ⟨refusal code, ?_⟩
    rw [parseCoded, if_pos refused]
    rfl

lemma readsError_parseField {msg : UInt8 → UInt32 → Bytes → Message}
    (quotes : ∀ code field data, (msg code field data).icmpData = some data) :
    ReadsError (parseField msg) fun _ => True where
  accepts {code field} data fieldLength _ := by
    refine ⟨_, ?_, quotes code (UInt32.ofNat (Wire.beNat field)) data⟩
    rw [parseField, getU32_append data fieldLength]
    rfl
  refuses _ refused := absurd trivial refused

variable {data : Bytes}

section ReadsError

variable {func : UInt8 → Bytes → Except Fault (DeserializeResult Message)}
  {admits : UInt8 → Prop} (reads : ReadsError func admits)

include reads

lemma ReadsError.deserializePacket_accepts {code : UInt8} {header : Bytes}
    (headerLength : header.length = 6) (admitted : admits code)
    (enough : NetUtils.minIpv6HeaderSize ≤ data.length) :
    ∃ msg, deserializePacket func (code :: (header ++ data)) (.lowerBound minErrorSize) =
      .ok (.ok msg) ∧ msg.icmpData = some data := by
  obtain ⟨first, second, field, rfl⟩ : ∃ first second field, header = first :: second :: field := by
    obtain ⟨first, header, rfl⟩ := exists_cons_of_length_eq_add_one headerLength
    obtain ⟨second, field, rfl⟩ := exists_cons_of_length_eq_add_one (Nat.succ.inj headerLength)
    exact ⟨first, second, field, rfl⟩
  have fieldLength : field.length = 4 := by
    simpa using headerLength
  obtain ⟨msg, read, quoted⟩ := reads.accepts data fieldLength admitted
  refine ⟨msg, ?_, quoted⟩
  rw [cons_append, cons_append, deserializePacket_cons, read]
  rw [length_append, minErrorSize, show icmpMinCommonHeaderSize = 8 from rfl]
  omega

lemma ReadsError.readsAs {typeId : UInt8} (kind : ∀ code, admits code → IsError typeId code)
    (packet : Bytes) :
    ReadsAs (typeId :: packet) (deserializePacket func packet (.lowerBound minErrorSize)) := by
  rcases deserializePacket_cases func minErrorSize (by decide) packet with
    ⟨error, refused⟩ | ⟨code, first, second, rest, rfl, enough, parses⟩
  · exact ⟨_, refused, nofun⟩
  · rw [parses]
    rw [minErrorSize, show icmpMinCommonHeaderSize = 8 from rfl] at enough
    by_cases admitted : admits code
    · obtain ⟨field, data, rfl, fieldLength, dataLength⟩ := exists_append rest 4 (by omega)
      obtain ⟨msg, read, quoted⟩ := reads.accepts data fieldLength admitted
      refine ⟨_, read, ?_⟩
      intro same accepted other quotes
      cases accepted
      rw [quoted] at quotes
      cases quotes
      exact ⟨typeId, code, first :: second :: field, rfl, by simp [fieldLength],
        kind code admitted, by omega⟩
    · obtain ⟨error, refused⟩ := reads.refuses rest admitted
      exact ⟨_, refused, nofun⟩

end ReadsError

lemma readsAs_parseEchoAs {msg : Echo → Message}
    (silent : ∀ echo, (msg echo).icmpData = none) (typeId : UInt8) (packet : Bytes) :
    ReadsAs (typeId :: packet) (deserializePacket (parseEchoAs msg) packet
      (.lowerBound icmpMinCommonHeaderSize)) := by
  rcases deserializePacket_cases _ icmpMinCommonHeaderSize (by decide) packet
    with ⟨error, refused⟩ | ⟨code, _, _, rest, -, enough, parses⟩
  · exact ⟨_, refused, nofun⟩
  · obtain ⟨echo, parsed⟩ := exists_parseEcho code rest enough
    refine ⟨.ok (msg echo), ?_, ?_⟩
    · rw [parses, parseEchoAs, parsed]
      rfl
    · intro other accepted data quoted
      cases accepted
      cases (silent echo).symm.trans quoted

lemma readsAs_error (packet : Bytes) (error : DeserializeError) :
    ReadsAs packet (.ok (.error error)) := ⟨.error error, rfl, nofun⟩

/-! ## Reading a packet -/

lemma readsError_destinationUnreachable :
    ReadsError parseDestinationUnreachable (· ∈ destinationUnreachableCodes) :=
  readsError_parseCoded fun _ _ => rfl

lemma readsError_packetTooBig : ReadsError parsePacketTooBig fun _ => True :=
  readsError_parseField fun _ _ _ => rfl

lemma readsError_timeExceeded : ReadsError parseTimeExceeded (· ∈ timeExceededCodes) :=
  readsError_parseCoded fun _ _ => rfl

lemma readsError_parameterProblem : ReadsError parseParameterProblem fun _ => True :=
  readsError_parseField fun _ _ _ => rfl

lemma deserialize_of_quotes (quotes : Quotes packet data) :
    ∃ msg, deserialize packet = .ok (.ok msg) ∧ msg.icmpData = some data := by
  obtain ⟨typeId, code, header, rfl, headerLength, kind, enough⟩ := quotes
  rcases kind with ⟨rfl, coded⟩ | rfl | ⟨rfl, coded⟩ | rfl
  · exact readsError_destinationUnreachable.deserializePacket_accepts headerLength coded enough
  · exact readsError_packetTooBig.deserializePacket_accepts headerLength trivial enough
  · exact readsError_timeExceeded.deserializePacket_accepts headerLength coded enough
  · exact readsError_parameterProblem.deserializePacket_accepts headerLength trivial enough

/-- Reading a message never faults, and what it quotes is what stands in the packet. -/
lemma readsAs_deserialize (packet : Bytes) : ReadsAs packet (deserialize packet) := by
  cases packet with
  | nil => exact readsAs_error [] _
  | cons typeId packet =>
    rw [deserialize]
    split_ifs with unreachable tooBig exceeded problem req reply
    · exact readsError_destinationUnreachable.readsAs
        (fun code coded => .inl ⟨unreachable, coded⟩) packet
    · exact readsError_packetTooBig.readsAs (fun _ _ => .inr (.inl tooBig)) packet
    · exact readsError_timeExceeded.readsAs
        (fun code coded => .inr (.inr (.inl ⟨exceeded, coded⟩))) packet
    · exact readsError_parameterProblem.readsAs (fun _ _ => .inr (.inr (.inr problem))) packet
    · exact readsAs_parseEchoAs (fun _ => rfl) typeId packet
    · exact readsAs_parseEchoAs (fun _ => rfl) typeId packet
    · exact readsAs_error _ _

lemma respondedEchoRequest_of_icmpData {msg : Message} (quoted : msg.icmpData = some data) :
    msg.respondedEchoRequest = (do
      let skipped ← NetUtils.skipIpv6Header data
      quotedEcho NetUtils.ipprotoIcmpv6 TypeId.echoRequest (.lowerBound icmpMinCommonHeaderSize)
        skipped) := by
  cases msg with
  | destinationUnreachable | packetTooBig | timeExceeded | parameterProblem => cases quoted; rfl
  | echoRequest | echoReply => cases quoted

/-- The quoted packet is skipped up to an extension header that claims more than is left. -/
def QuotesOverrun (packet : Bytes) : Prop :=
  ∃ front next middle rest, Quotes packet (front ++ next :: (middle ++ rest)) ∧
    front.length = 6 ∧ middle.length = 33 ∧ NetUtils.Overruns next rest

/-- A packet from the network is survived unless it is an error that quotes a packet with an
extension header that claims more bytes than are left. -/
theorem survives_iff (packet : Bytes) : Survives packet ↔ ¬QuotesOverrun packet := by
  constructor
  · rintro ⟨result, read, returns⟩ ⟨front, next, middle, rest, quotes, frontLength,
      middleLength, overruns⟩
    obtain ⟨msg, accepted, quoted⟩ := deserialize_of_quotes quotes
    rw [accepted] at read
    cases read
    obtain ⟨req, responded⟩ := returns msg rfl
    rw [respondedEchoRequest_of_icmpData quoted,
      NetUtils.skipIpv6Header_append next rest frontLength middleLength,
      NetUtils.skipExtensionHeaders_of_overruns overruns] at responded
    cases responded
  · intro short
    obtain ⟨result, read, quotes⟩ := readsAs_deserialize packet
    refine ⟨result, read, ?_⟩
    intro msg accepted
    cases quoted : msg.icmpData with
    | none =>
      cases msg with
      | destinationUnreachable | packetTooBig | timeExceeded | parameterProblem => cases quoted
      | echoRequest => exact ⟨none, rfl⟩
      | echoReply echo => exact ⟨some echo, rfl⟩
    | some data =>
      have inside := quotes msg accepted data quoted
      have enough : NetUtils.minIpv6HeaderSize ≤ data.length := by
        obtain ⟨_, _, _, _, _, _, enough⟩ := inside
        exact enough
      obtain ⟨front, next, middle, rest, rfl, frontLength, middleLength⟩ :=
        NetUtils.exists_fixed_header enough
      rw [respondedEchoRequest_of_icmpData quoted,
        NetUtils.skipIpv6Header_append next rest frontLength middleLength]
      cases skipped : NetUtils.skipExtensionHeaders next rest with
      | error =>
        have overruns := NetUtils.overruns_of_eq_error skipped
        exact absurd ⟨front, next, middle, rest, inside, frontLength, middleLength, overruns⟩ short
      | ok payload => exact exists_quotedEcho _ _ payload

/-- A time exceeded error that quotes a packet with a hop-by-hop header of 255 bytes, of
which two are there. -/
theorem not_survives_hopByHop :
    ¬Survives ([3, 0, 0, 0, 0, 0, 0, 0] ++ ([96, 0, 0, 0, 0, 0] ++ 0 ::
      (64 :: List.replicate 32 0 ++ [58, 255, 0, 0]))) := by
  rintro ⟨result, read, returns⟩
  have accepted : deserialize ([3, 0, 0, 0, 0, 0, 0, 0] ++ ([96, 0, 0, 0, 0, 0] ++ 0 ::
      (64 :: List.replicate 32 0 ++ [58, 255, 0, 0]))) =
      .ok (.ok (.timeExceeded 0 ([96, 0, 0, 0, 0, 0] ++ 0 ::
        (64 :: List.replicate 32 0 ++ [58, 255, 0, 0])))) := by
    decide +kernel
  rw [accepted] at read
  cases read
  obtain ⟨req, responded⟩ := returns _ rfl
  have overruns : NetUtils.Overruns 0 [58, 255, 0, 0] := .here (.inl rfl) (by decide)
  rw [respondedEchoRequest_of_icmpData rfl, NetUtils.skipIpv6Header_append 0 _ rfl rfl,
    NetUtils.skipExtensionHeaders_of_overruns overruns] at responded
  cases responded

end Message

end V6

end IcmpUtils

end TrustTunnel.Endpoint
