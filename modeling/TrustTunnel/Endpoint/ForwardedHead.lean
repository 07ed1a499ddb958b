import TrustTunnel.Endpoint.ForwardedStream

/-!
# Receiving the head of a forwarded response

Whatever way a response head is split into writes, the sink gathers it, answers the
client and goes over to the body. How it then finds the end of the body depends on
the headers, on the request and on the number of headers.
-/

namespace TrustTunnel.Endpoint

open Wire Http Chunked SimplexPipe List

/-- `httparse` knows the head: it asks for more bytes before the end of it, and parses
it when it is complete and there are enough slots for its headers. -/
structure Crates.ParsesHead (crates : Crates) (head : Bytes) (resp : Response) : Prop where
  nonempty : head ≠ []
  unfinished : ∀ {front back : Bytes} (slots : Nat), front ++ back = head → back ≠ [] →
    crates.parseResponse slots front = .ok none ∨
      slots < resp.headers.length ∧ crates.parseResponse slots front = .error .tooManyHeaders
  complete : ∀ {slots : Nat} (rest : Bytes), resp.headers.length ≤ slots →
    crates.parseResponse slots (head ++ rest) = .ok (some (head.length, resp))
  overflows : ∀ {slots : Nat} (rest : Bytes), slots < resp.headers.length →
    crates.parseResponse slots (head ++ rest) = .error .tooManyHeaders

/-- `http` builds a response from any of the headers of the origin's. -/
def Crates.Builds (crates : Crates) (resp : Response) : Prop :=
  ∀ headers, headers.Sublist (resp.headers.map Field.withTrimmedName) →
    crates.buildResponse resp.code headers = .ok ()

variable {crates : Crates} {head : Bytes} {resp : Response}

namespace Crates

/-- The size in front of a chunk: hexadecimal digits up to a CRLF. -/
def hexChunkSize (size pos : Nat) : Bytes → Except Unit (Option (Nat × Nat))
  | [] => .ok none
  | [13] => .ok none
  | 13 :: 10 :: _ => .ok (some (pos + 2, size))
  | digit :: rest =>
    if isDigit digit then
      hexChunkSize (size * 16 + (digit.toNat - 48)) (pos + 1) rest
    else if 97 ≤ digit ∧ digit ≤ 102 then
      hexChunkSize (size * 16 + (digit.toNat - 87)) (pos + 1) rest
    else .error ()

/-- Crates that know a single response head, and chunk sizes without extensions. -/
def knowing (head : Bytes) (resp : Response) : Crates where
  parseResponse slots bytes :=
    if head <+: bytes then
      if resp.headers.length ≤ slots then .ok (some (head.length, resp))
      else .error .tooManyHeaders
    else if bytes <+: head then .ok none
    else .error (.invalid "invalid token")
  parseChunkSize := hexChunkSize 0 0
  buildResponse _ _ := .ok ()

lemma parsesHead_knowing (resp : Response) (nonempty : head ≠ []) :
    (knowing head resp).ParsesHead head resp where
  nonempty := nonempty
  unfinished := by
    rintro front back slots rfl behind
    have short : ¬front ++ back <+: front := by
      intro longer
      have lengths := longer.length_le
      have positive := length_pos_iff.mpr behind
      rw [length_append] at lengths
      omega
    exact .inl (by simp [knowing, short])
  complete := by
    intro slots rest fits
    simp [knowing, fits]
  overflows := by
    intro slots rest small
    simp [knowing, Nat.not_le_of_lt small]

lemma builds_knowing (head : Bytes) (resp : Response) : (knowing head resp).Builds resp :=
  fun _ _ => rfl

end Crates

/-! ## Parsing -/

variable {front : Bytes} {dropped : List String} {data : Bytes}

namespace SinkWaitingResponse

lemma parseHead_cases {parsed : Option (Nat × Response)} {count : Nat}
    (answers : ∀ size, crates.parseResponse size data = .ok parsed ∨
      size < count ∧ crates.parseResponse size data = .error .tooManyHeaders)
    (sizes : List Nat) :
    parseHead crates data sizes = .ok parsed ∨
      (∀ size ∈ sizes, size < count) ∧ ∃ error, parseHead crates data sizes = .error error := by
  induction sizes with
  | nil => exact .inr ⟨forall_mem_nil _, _, rfl⟩
  | cons size _ ih =>
    rw [parseHead]
    rcases answers size with answer | ⟨small, answer⟩
    · rw [answer]
      exact .inl rfl
    · rw [answer]
      exact ih.imp_right fun ⟨all, fails⟩ => ⟨forall_mem_cons.mpr ⟨small, all⟩, fails⟩

section

variable (parses : crates.ParsesHead head resp)

include parses

lemma parseHead_complete (rest : Bytes) (few : resp.headers.length ≤ maxResponseHeadersNum) :
    parseHead crates (head ++ rest) headersBufferSizes = .ok (some (head.length, resp)) := by
  refine (parseHead_cases (fun size => ?_) _).resolve_right fun ⟨large, _⟩ =>
    absurd (large _ (by decide)) (Nat.not_lt_of_ge few)
  rcases lt_or_ge size _ with small | large
  · exact .inr ⟨small, parses.overflows rest small⟩
  · exact .inl (parses.complete rest large)

/-- With the front of a head the sink waits, or there are too many headers. -/
lemma parseHead_unfinished {back : Bytes} (splits : front ++ back = head) (unfinished : back ≠ []) :
    parseHead crates front headersBufferSizes = .ok none ∨
      maxResponseHeadersNum < resp.headers.length ∧
        ∃ error, parseHead crates front headersBufferSizes = .error error :=
  (parseHead_cases (fun size => parses.unfinished size splits unfinished) _).imp_right
    fun ⟨large, fails⟩ => ⟨large _ (by decide), fails⟩

lemma parseHead_overflow (rest : Bytes) (many : maxResponseHeadersNum < resp.headers.length) :
    ∃ error, parseHead crates (head ++ rest) headersBufferSizes = .error error := by
  have overflows (size : Nat) (le : size ≤ maxResponseHeadersNum) :
      crates.parseResponse size (head ++ rest) = .error .tooManyHeaders :=
    parses.overflows rest (lt_of_le_of_lt le many)
  refine ⟨.other "Failed to parse response: too many headers", ?_⟩
  rw [headersBufferSizes, parseHead, overflows _ (by decide)]
  rw [parseHead, overflows _ (by decide)]
  rw [parseHead, overflows _ (le_refl _)]
  rfl

end

/-! ## Converting -/

/-- Reading the headers takes the names to drop and the body length from one value to
another, and keeps some of the headers. -/
def Converts (version : Version) (headers : List Field) (dropped : List String)
    (length : Option BodyLength) (droppedAfter : List String)
    (lengthAfter : Option BodyLength) : Prop :=
  ∀ sofar, ∃ kept, kept.Sublist (headers.map Field.withTrimmedName) ∧
    headers.foldlM (convertHeader version) ⟨dropped, length, sofar⟩ =
      .ok ⟨droppedAfter, lengthAfter, sofar ++ kept⟩

variable {version : Version} {length : Option BodyLength} {headers : List Field} {header : Field}
  {name : String}

lemma Converts.append {more : List Field} {middle droppedAfter : List String}
    {middleLength lengthAfter : Option BodyLength}
    (first : Converts version headers dropped length middle middleLength)
    (second : Converts version more middle middleLength droppedAfter lengthAfter) :
    Converts version (headers ++ more) dropped length droppedAfter lengthAfter := by
  intro sofar
  obtain ⟨kept, keptFirst, folded⟩ := first sofar
  obtain ⟨later, keptLater, foldedLater⟩ := second _
  refine ⟨kept ++ later, ?_, ?_⟩
  · rw [map_append]
    exact keptFirst.append keptLater
  · rw [foldlM_append, folded, ← append_assoc]
    exact foldedLater

lemma converts_singleton {droppedAfter : List String} {length lengthAfter : Option BodyLength}
    (converts : ∀ sofar, ∃ kept, kept.Sublist [Field.withTrimmedName header] ∧
      convertHeader version ⟨dropped, length, sofar⟩ header =
        .ok ⟨droppedAfter, lengthAfter, sofar ++ kept⟩) :
    Converts version [header] dropped length droppedAfter lengthAfter := by
  intro sofar
  obtain ⟨kept, sublist, converted⟩ := converts sofar
  refine ⟨kept, sublist, ?_⟩
  rw [foldlM_cons, converted]
  rfl

/-- The header leaves the length of the body alone. -/
def Quiet (dropped : List String) (length : Option BodyLength) (header : Field) : Prop :=
  header.lowerName ∈ dropped ∨
    header.lowerName ≠ "transfer-encoding" ∧ (header.lowerName = "content-length" → length ≠ none)

/-- The names to drop, once a header was read that is not about the length. -/
def dropHeadersAfter (dropped : List String) (header : Field) : List String :=
  if header.lowerName ∉ dropped ∧ header.lowerName = "connection" then
    dropped ++ connectionOptions header.value
  else dropped

lemma subset_dropHeadersAfter (dropped : List String) (header : Field) :
    dropped ⊆ dropHeadersAfter dropped header := by
  rw [dropHeadersAfter]
  split
  · exact subset_append_left _ _
  · exact List.Subset.refl _

lemma converts_quiet_header (quiet : Quiet dropped length header) :
    Converts version [header] dropped length (dropHeadersAfter dropped header) length := by
  apply converts_singleton
  intro sofar
  rw [convertHeader, dropHeadersAfter]
  by_cases drops : header.lowerName ∈ dropped
  · exact ⟨[], nil_sublist _, by simp [drops]⟩
  · obtain ⟨notTransferEncoding, contentLength⟩ := quiet.resolve_left drops
    by_cases conn : header.lowerName = "connection"
    · exact ⟨[], nil_sublist _, by simp_all⟩
    · have plain : ¬(length = none ∧ header.lowerName = "content-length") := by
        rintro ⟨missing, named⟩
        exact contentLength named missing
      simp [drops, conn, notTransferEncoding, plain]

lemma converts_quiet (quiet : ∀ header ∈ headers, Quiet dropped length header) :
    Converts version headers dropped length (headers.foldl dropHeadersAfter dropped) length := by
  induction headers generalizing dropped with
  | nil =>
    intro sofar
    refine ⟨[], List.Sublist.refl _, ?_⟩
    rw [append_nil]
    rfl
  | cons header _ ih =>
    refine (converts_quiet_header (quiet header mem_cons_self)).append (ih ?_)
    intro other mem
    rcases quiet other (mem_cons_of_mem _ mem) with drops | plain
    · exact .inl (subset_dropHeadersAfter _ _ drops)
    · exact .inr plain

/-- No connection option drops the first header of a name before it is read. -/
def Read (name : String) (headers : List Field) : Prop :=
  name ∉ (headers.takeWhile (·.lowerName ≠ name)).foldl dropHeadersAfter hopByHop

instance (name : String) (headers : List Field) : Decidable (Read name headers) :=
  inferInstanceAs (Decidable ¬_)

lemma exists_first (present : ∃ header ∈ headers, header.lowerName = name) :
    ∃ before header after, headers = before ++ header :: after ∧ header.lowerName = name ∧
      (∀ other ∈ before, other.lowerName ≠ name) ∧
      (Read name headers ↔ name ∉ before.foldl dropHeadersAfter hopByHop) := by
  have first : ∃ before header after, headers = before ++ header :: after ∧
      header.lowerName = name ∧ (∀ other ∈ before, other.lowerName ≠ name) ∧
      headers.takeWhile (·.lowerName ≠ name) = before := by
    induction headers with
    | nil =>
      obtain ⟨header, mem, -⟩ := present
      cases mem
    | cons header headers ih =>
      by_cases named : header.lowerName = name
      · exact ⟨[], header, headers, rfl, named, by simp, by simp [named]⟩
      · obtain ⟨before, first, after, rfl, firstNamed, others, taken⟩ := ih (by
          obtain ⟨other, mem, otherNamed⟩ := present
          cases mem with
          | head => exact absurd otherNamed named
          | tail _ mem => exact ⟨other, mem, otherNamed⟩)
        refine ⟨header :: before, first, after, rfl, firstNamed, ?_, ?_⟩
        · exact forall_mem_cons.mpr ⟨named, others⟩
        · rw [takeWhile_cons_of_pos (by simpa using named), taken]
  obtain ⟨before, header, after, splits, named, others, taken⟩ := first
  exact ⟨before, header, after, splits, named, others, by rw [Read, taken]⟩

/-- The first header of a name determines the length if it is read and the others are quiet. -/
lemma converts_first {length : Option BodyLength} (appended : List String)
    (present : ∃ header ∈ headers, header.lowerName = name)
    (quiet : ∀ other ∈ headers, other.lowerName ≠ name → ∀ dropped length, Quiet dropped length other)
    (later : ∀ other ∈ headers, other.lowerName = name → ∀ dropped, Quiet (dropped ++ appended) length other)
    (converts : ∀ header, headers.find? (·.lowerName = name) = some header → Read name headers → ∀ dropped, name ∉ dropped → Converts version [header] dropped none (dropped ++ appended) length) :
    ∃ droppedAfter, Converts version headers hopByHop none droppedAfter
      (if Read name headers then length else none) := by
  obtain ⟨before, header, after, rfl, named, others, reads⟩ := exists_first present
  have quietBefore : ∀ other ∈ before, Quiet hopByHop none other := by
    intro other mem
    exact quiet other (mem_append_left _ mem) (others other mem) _ _
  by_cases drops : name ∈ before.foldl dropHeadersAfter hopByHop
  · rw [if_neg (reads.not.mpr (not_not_intro drops))]
    refine ⟨_, (converts_quiet quietBefore).append (converts_quiet ?_)⟩
    intro other mem
    by_cases otherNamed : other.lowerName = name
    · exact .inl (otherNamed ▸ drops)
    · exact quiet other (mem_append_right _ mem) otherNamed _ _
  · rw [if_pos (reads.mpr drops)]
    have isFirst : (before ++ header :: after).find? (·.lowerName = name) = some header :=
      find?_eq_some_iff_append.mpr ⟨by simpa using named, before, after, rfl, by simpa using others⟩
    have first := converts header isFirst (reads.mpr drops) _ drops
    refine ⟨_, (converts_quiet quietBefore).append (first.append (converts_quiet ?_))⟩
    intro other mem
    have mem : other ∈ before ++ header :: after := by simp [mem]
    by_cases otherNamed : other.lowerName = name
    · exact later other mem otherNamed _
    · exact quiet other mem otherNamed _ _

/-- The response says that its body is chunked, in letters of any case, and nothing else about
its length. -/
structure ChunkedHeaders (headers : List Field) : Prop where
  present : ∃ header ∈ headers, header.lowerName = "transfer-encoding"
  chunked : ∀ header ∈ headers, header.lowerName = "transfer-encoding" →
    header.value.map Rfc9112.toLower = Rfc9112.chunked
  undetermined : ∀ header ∈ headers, header.lowerName ≠ "content-length"

/-- The response says how long its body is, and that it is not encoded. -/
structure FixedHeaders (headers : List Field) (length : Nat) : Prop where
  present : ∃ header ∈ headers, header.lowerName = "content-length"
  decimal : ∀ header ∈ headers, header.lowerName = "content-length" → Decimal header.value length
  plain : ∀ header ∈ headers, header.lowerName ≠ "transfer-encoding"

/-- The encoding is read, and it is in lower case. -/
abbrev ReadChunked (headers : List Field) : Prop :=
  Read "transfer-encoding" headers ∧
    (headers.find? (·.lowerName = "transfer-encoding")).map Field.value = some Rfc9112.chunked

lemma converts_chunked (fields : ChunkedHeaders headers)
    (recent : version = .http2 ∨ version = .http3) :
    ∃ droppedAfter, Converts version headers hopByHop none droppedAfter
      (if ReadChunked headers then some .chunked else none) := by
  rw [ite_and]
  refine converts_first ["content-length", "transfer-encoding"] fields.present ?_ ?_ ?_
  · intro other mem plain _ _
    exact .inr ⟨plain, fun length => absurd length (fields.undetermined other mem)⟩
  · intro other _ named dropped
    exact .inl (by simp [named])
  · intro header first _ dropped kept
    have named : header.lowerName = "transfer-encoding" := by simpa using find?_some first
    apply converts_singleton
    intro sofar
    refine ⟨[], nil_sublist _, ?_⟩
    rw [convertHeader, named, if_neg kept, if_neg (by decide), if_pos ⟨rfl, recent⟩, first,
      append_nil]
    simp only [Option.map_some, Option.some.injEq, Rfc9112.chunked]

lemma converts_fixed {length : Nat} (fields : FixedHeaders headers length)
    (small : Read "content-length" headers → length < 2 ^ 64) :
    ∃ droppedAfter, Converts version headers hopByHop none droppedAfter
      (if Read "content-length" headers then some (.determined length) else none) := by
  refine converts_first [] fields.present ?_ ?_ ?_
  · intro other mem undetermined _ _
    exact .inr ⟨fields.plain other mem, fun length => absurd length undetermined⟩
  · intro other mem _ _
    exact .inr ⟨fields.plain other mem, fun _ => by simp⟩
  · intro header first read dropped kept
    have named : header.lowerName = "content-length" := by simpa using find?_some first
    rw [append_nil]
    apply converts_singleton
    intro sofar
    refine ⟨_, List.Sublist.refl _, ?_⟩
    rw [convertHeader, named, if_neg kept, if_neg (by decide), if_neg (by simp),
      if_pos ⟨rfl, rfl⟩, (fields.decimal header (mem_of_find?_eq_some first) named).parseU64_eq,
      if_pos (small read)]

/-- A length that does not fit in 64 bits is refused, if it is read. -/
lemma foldlM_convertHeader_large {length : Nat}
    (fields : FixedHeaders headers length) (large : 2 ^ 64 ≤ length)
    (read : Read "content-length" headers) :
    ∃ error, headers.foldlM (convertHeader version) ⟨hopByHop, none, []⟩ = .error error := by
  obtain ⟨before, header, after, rfl, named, others, reads⟩ := exists_first fields.present
  have drops := reads.mp read
  have quietBefore : ∀ other ∈ before, Quiet hopByHop none other := by
    intro other mem
    have plain := fields.plain other (mem_append_left _ mem)
    exact .inr ⟨plain, fun length => absurd length (others other mem)⟩
  obtain ⟨kept, -, folded⟩ := @converts_quiet _ version _ _ quietBefore []
  have decimal := fields.decimal header (by simp) named
  have fails : convertHeader version
      ⟨before.foldl dropHeadersAfter hopByHop, none, [] ++ kept⟩ header =
      .error (.other "Invalid Content-Length header value") := by
    rw [convertHeader, named, if_neg drops, if_neg (by decide), if_neg (by simp),
      if_pos ⟨rfl, rfl⟩, decimal.parseU64_eq, if_neg (by omega)]
  refine ⟨.other "Invalid Content-Length header value", ?_⟩
  rw [foldlM_append, folded]
  change List.foldlM _ _ _ = _
  rw [foldlM_cons, fails]
  rfl

/-- A response with a body is converted as its headers say. -/
lemma convertResponse_of_converts {method : String} (builds : crates.Builds resp)
    (converts : Converts version resp.headers hopByHop none dropped length)
    (bodied : ¬Bodiless method resp.code) :
    ∃ headers, ∀ front, convertResponse crates ⟨front, method, version⟩ resp =
      .ok (⟨version, resp.code, headers⟩, length) := by
  obtain ⟨kept, sublist, folded⟩ := converts []
  refine ⟨kept, fun front => ?_⟩
  rw [convertResponse, folded]
  simp only [ok_bind, nil_append, builds kept sublist, if_neg bodied]
  rfl

end SinkWaitingResponse

/-! ## The head in pieces -/

namespace ForwardedStreamSink

open SinkWaitingResponse

variable {method : String} {version : Version} {limits : List Nat} {rest : Bytes}
  {writes : List Bytes} {client : Client} {error : IoError}

/-- The sink has gathered the front of a head. -/
def awaiting (method : String) (version : Version) (front : Bytes) (client : Client) :
    ForwardedStreamSink :=
  ⟨.waitingResponse ⟨front, method, version⟩, false, client⟩

lemma write_awaiting_none
    (partly : parseHead crates (front ++ data) headersBufferSizes = .ok none) :
    (ops crates).write (awaiting method version front client) data =
      (.ok [], awaiting method version (front ++ data) client) := by
  simp only [ops, write, awaiting, onResponseHeadersChunk, parseResponse, partly]
  rfl

lemma write_awaiting_error
    (fails : parseResponse crates ⟨front, method, version⟩ data = .error error) :
    (ops crates).write (awaiting method version front client) data =
      (.error (.io error), ⟨.idle, false, (client.respond version (.bad 502)).getD client⟩) := by
  simp [ops, write, awaiting, onResponseHeadersChunk, fails]

lemma received_respond {answer : Answer} :
    ((client.respond version answer).getD client).received = client.received := by
  fun_cases client.respond version answer with
  | case1 | case2 | case3 | case4 => rfl

lemma parseResponse_of_error
    (fails : parseHead crates (front ++ data) headersBufferSizes = .error error) :
    parseResponse crates ⟨front, method, version⟩ data = .error error := by
  rw [parseResponse, fails]
  rfl

/-- The sink has answered the client and is going to receive the body. -/
def Responded (length : Option BodyLength) (limits : List Nat)
    (sink : ForwardedStreamSink) : Prop :=
  ∃ fakeUnsent answers, sink = ⟨bodyState length, fakeUnsent, ⟨limits, answers, []⟩⟩

variable (parses : crates.ParsesHead head resp)

include parses

section

variable (few : resp.headers.length ≤ maxResponseHeadersNum) {length : Option BodyLength}

include few

lemma gathers_head {headers : ResponseHeaders}
    (converted : ∀ front, convertResponse crates ⟨front, method, version⟩ resp =
      .ok (headers, length))
    (final : ¬(100 ≤ headers.status ∧ headers.status < 200)) :
    Gathers (ops crates) head rest
      (fun front sink => sink = awaiting method version front ⟨limits, [], []⟩)
      (Responded length limits) where
  waits := by
    rintro front data back sink splits unfinished rfl
    have partly := (parseHead_unfinished parses splits unfinished).resolve_right
      fun many => absurd few (Nat.not_le_of_lt many.1)
    exact ⟨_, write_awaiting_none partly, rfl⟩
  completes := by
    rintro front data tail sink - joined - rfl
    have parsed : parseResponse crates ⟨front, method, version⟩ data =
        .ok (some (headers, length), tail, ⟨[], method, version⟩) := by
      rw [parseResponse, joined, parseHead_complete parses tail few]
      simp only [ok_bind, converted, drop_left]
      rfl
    let answer := Answer.final headers (length = some (.determined 0))
    have written : write crates (awaiting method version front ⟨limits, [], []⟩) data =
        (.ok tail, ⟨bodyState length, !tail.isEmpty, ⟨limits, [answer], []⟩⟩) := by
      simp only [write, awaiting, onResponseHeadersChunk, parsed, if_neg final, Client.respond,
        or_true, if_true, Client.answer, nil_append, answer]
    refine ⟨_, written, ⟨_, _, rfl⟩, ?_⟩
    intro unsent
    refine ⟨⟨bodyState length, false, ⟨limits, [answer], []⟩⟩, ?_, false, _, rfl⟩
    have fake : (!tail.isEmpty) = true := by simpa using unsent
    simp [ops, waitWritable, fake]

/-- However the head is split, the client is answered and the body is received next. -/
lemma drive_of_converts (builds : crates.Builds resp) (bodied : ¬Bodiless method resp.code)
    (converts : Converts version resp.headers hopByHop none dropped length)
    (limits : List Nat) (arrives : writes.flatten = head ++ rest) :
    ∃ sink left, Responded length limits sink ∧ Remains writes left rest ∧
      drive (ops crates) (new method version limits) writes = drive (ops crates) sink left := by
  obtain ⟨headers, converted⟩ := convertResponse_of_converts builds converts bodied
  have gathers := @gathers_head _ _ _ _ _ limits rest parses few _ _ converted
    fun informational => bodied (.inr (.inl informational))
  exact gathers.drive_eq rfl (length_pos_iff.mpr parses.nonempty) arrives

end

variable {final : SimplexPipe ForwardedStreamSink}

/-- When the head is refused, the client never sees the end of a body. -/
lemma eof_not_mem_of_refused
    (refuses : ∀ {front data : Bytes} (tail : Bytes), front ++ data = head ++ tail →
      ∃ error, parseResponse crates ⟨front, method, version⟩ data = .error error)
    (arrives : front ++ writes.flatten = head ++ rest) (unended : .eof ∉ client.received)
    (ends : final ∈ drive (ops crates) (awaiting method version front client) writes) :
    .eof ∉ final.sink.client.received := by
  induction writes generalizing front with
  | nil =>
    rw [drive_nil, Part.mem_some_iff] at ends
    rw [ends]
    exact unended
  | cons data _ ih =>
    have refused (error : IoError)
        (fails : parseResponse crates ⟨front, method, version⟩ data = .error error) :
        .eof ∉ final.sink.client.received := by
      rw [drive_cons_error (write_awaiting_error fails), Part.mem_some_iff] at ends
      rw [ends]
      rw [← @received_respond version client (.bad 502)] at unended
      exact unended
    rw [flatten_cons, ← append_assoc] at arrives
    rcases append_eq_append_iff.mp arrives with ⟨back, splits, -⟩ | ⟨tail, joined, -⟩
    · cases back with
      | nil =>
        obtain ⟨error, fails⟩ := refuses [] (by simpa using splits.symm)
        exact refused error fails
      | cons =>
        rcases parseHead_unfinished parses splits.symm (cons_ne_nil _ _) with
          waits | ⟨-, error, fails⟩
        · rw [drive_cons_nil (write_awaiting_none waits)] at ends
          exact ih arrives ends
        · exact refused error (parseResponse_of_error fails)
    · obtain ⟨error, fails⟩ := refuses tail joined
      exact refused error fails

section

variable (arrives : writes.flatten = head ++ rest)
  (ends : final ∈ drive (ops crates) (new method version limits) writes)

include arrives ends

lemma eof_not_mem_of_overflow (many : ¬resp.headers.length ≤ maxResponseHeadersNum) :
    .eof ∉ final.sink.client.received := by
  refine eof_not_mem_of_refused parses ?_ arrives not_mem_nil ends
  intro front data tail joined
  obtain ⟨error, fails⟩ := parseHead_overflow parses tail (Nat.lt_of_not_le many)
  exact ⟨error, parseResponse_of_error (joined ▸ fails)⟩

lemma eof_not_mem_of_unconverted (few : resp.headers.length ≤ maxResponseHeadersNum)
    (fails : ∃ error, resp.headers.foldlM (convertHeader version) ⟨hopByHop, none, []⟩ =
      .error error) :
    .eof ∉ final.sink.client.received := by
  refine eof_not_mem_of_refused parses ?_ arrives not_mem_nil ends
  intro front data tail joined
  obtain ⟨error, fails⟩ := fails
  refine ⟨error, ?_⟩
  rw [parseResponse, joined, parseHead_complete parses tail few]
  simp [bind, Except.bind, convertResponse, fails]

end

end ForwardedStreamSink

end TrustTunnel.Endpoint
