import TrustTunnel.Endpoint.ForwardedReads

/-!
# Forwarding a request without smuggling

The origin delimits a forwarded request by its fields, while the endpoint sends what it
took for the body. The two agree exactly on the requests of `FramedRight`.
-/

namespace TrustTunnel.Endpoint

open Wire Http List Rfc9112

namespace ForwardedStreamSource

/-! ## The serialized head -/

/-- The fields that are sent for a header. -/
def forwardedHeader (targetHost : Bytes) (header : Header) : List Rfc9112.Field :=
  if header.name.text = proxyAuthorization ∨ header.name.text = proxyConnection then []
  else if header.name.text = host then [⟨host, targetHost⟩]
  else [⟨header.name.text, header.value.bytes⟩]

/-- The fields that are sent for the headers of a request. -/
def forwarded (targetHost : Bytes) (headers : List Header) : List Rfc9112.Field :=
  headers.flatMap (forwardedHeader targetHost)

variable {targetHost : Bytes} {self after : Serialization} {header : Header}

lemma serializeHeader_ok (serializes : serializeHeader targetHost self header = .ok after) :
    after.serialized = self.serialized ++ (forwardedHeader targetHost header).flatMap renderField ∧
      (if header.name.text = proxyAuthorization ∨ header.name.text = proxyConnection ∨
          header.name.text = host then after.bodyLength = self.bodyLength
        else bodyLengthAfter self.bodyLength header = .ok after.bodyLength) := by
  revert serializes
  fun_cases serializeHeader _ self header with
  | case1 proxy =>
    rintro ⟨⟩
    rw [if_pos (by tauto)]
    simp [forwardedHeader, proxy]
  | case2 => exact nofun
  | case3 _ hosts =>
    rintro ⟨⟩
    have different : ¬(host = proxyAuthorization ∨ host = proxyConnection) := by decide
    simp [forwardedHeader, hosts, different, headerLine, renderField]
  | case4 proxy hosts =>
    intro serializes
    obtain ⟨bodyLength, determined, returned⟩ := bind_eq_ok.mp serializes
    cases returned
    simp [forwardedHeader, proxy, hosts, determined, headerLine, renderField]

variable {headers : List Header}

lemma serializeHeaders_ok
    (serializes : headers.foldlM (serializeHeader targetHost) self = .ok after) :
    after.serialized = self.serialized ++ (forwarded targetHost headers).flatMap renderField := by
  induction headers generalizing self with
  | nil =>
    cases serializes
    simp [forwarded]
  | cons header headers ih =>
    obtain ⟨middle, first, later⟩ := bind_eq_ok.mp serializes
    have split : forwarded targetHost (header :: headers) =
        forwardedHeader targetHost header ++ forwarded targetHost headers := rfl
    rw [ih later, (serializeHeader_ok first).1, split, flatMap_append, append_assoc]

variable {name : Bytes}

lemma values_cons_of_ne (headers : List Header) (different : header.name.text ≠ name) :
    Header.values name (header :: headers) = Header.values name headers := by
  rw [Header.values, Header.values, filter_cons_of_neg (by simpa using different)]

lemma values_cons_of_eq (headers : List Header) (named : header.name.text = name) :
    Header.values name (header :: headers) = header.value.bytes :: Header.values name headers := by
  rw [Header.values, Header.values, filter_cons_of_pos (by simpa using named), map_cons]

/-- What a header does to the body length, by its name. -/
lemma bodyLength_cases (serializes : serializeHeader targetHost self header = .ok after) :
    (header.name.text = contentLength ∧
        bodyLengthAfter self.bodyLength header = .ok after.bodyLength) ∨
      (header.name.text = transferEncoding ∧
        after.bodyLength = if header.value.bytes = chunked then some .chunked
          else self.bodyLength) ∨
      (header.name.text ≠ contentLength ∧
        header.name.text ≠ transferEncoding ∧ after.bodyLength = self.bodyLength) := by
  have effect := (serializeHeader_ok serializes).2
  have lengthKept : ¬(contentLength = proxyAuthorization ∨
      contentLength = proxyConnection ∨ contentLength = host) := by decide
  have encodingKept : ¬(transferEncoding = proxyAuthorization ∨
      transferEncoding = proxyConnection ∨ transferEncoding = host) := by
    decide
  by_cases length : header.name.text = contentLength
  · rw [length] at effect
    exact .inl ⟨length, effect⟩
  · by_cases encoding : header.name.text = transferEncoding
    · rw [encoding, if_neg encodingKept, bodyLengthAfter.eq_def, if_neg length] at effect
      refine .inr (.inl ⟨encoding, ?_⟩)
      by_cases chunked : header.value.bytes = chunked
      · rw [if_pos ⟨encoding, chunked⟩] at effect
        rw [if_pos chunked]
        exact (Except.ok.inj effect).symm
      · rw [if_neg fun both => chunked both.2] at effect
        rw [if_neg chunked]
        exact (Except.ok.inj effect).symm
    · refine .inr (.inr ⟨length, encoding, ?_⟩)
      split at effect
      · exact effect
      · rw [bodyLengthAfter.eq_def, if_neg length, if_neg fun both => encoding both.1] at effect
        exact (Except.ok.inj effect).symm

/-- Without a transfer encoding, there is at most one length, and it is a number. -/
lemma bodyLength_of_plain (unchunked : self.bodyLength ≠ some .chunked)
    (plain : Header.values transferEncoding headers = [])
    (serializes : headers.foldlM (serializeHeader targetHost) self = .ok after) :
    (Header.values contentLength headers = [] ∧ after.bodyLength = self.bodyLength) ∨
      self.bodyLength = none ∧ ∃ value length, Header.values contentLength headers = [value] ∧
        parseU64 value = some length ∧ after.bodyLength = some (.determined length) := by
  induction headers generalizing self with
  | nil =>
    cases serializes
    exact .inl ⟨rfl, rfl⟩
  | cons _ headers ih =>
    obtain ⟨middle, first, later⟩ := bind_eq_ok.mp serializes
    rcases bodyLength_cases first with ⟨named, effect⟩ | ⟨named, -⟩ | ⟨other, encoding, same⟩
    · rw [values_cons_of_ne headers (by rw [named]; decide)] at plain
      rw [bodyLengthAfter.eq_def, if_pos named] at effect
      split at effect
      case h_1 undetermined =>
        split at effect
        case h_1 length parsed =>
          have determined := (Except.ok.inj effect).symm
          -- a second length would have been refused
          rcases ih (by simp [determined]) plain later with ⟨single, kept⟩ | ⟨unknown, -⟩
          · refine .inr ⟨undetermined, _, length, ?_, parsed, kept.trans determined⟩
            rw [values_cons_of_eq headers named, single]
          · cases determined.symm.trans unknown
        case h_2 => cases effect
      case h_2 => cases effect
      case h_3 chunked => exact absurd chunked unchunked
    · rw [values_cons_of_eq headers named] at plain
      cases plain
    · rw [values_cons_of_ne headers encoding] at plain
      rw [values_cons_of_ne headers other, ← same]
      exact ih (same ▸ unchunked) plain later

/-- Without a length, the body is chunked if an encoding is exactly that. -/
lemma bodyLength_of_encoded (unmeasured : Header.values contentLength headers = [])
    (serializes : headers.foldlM (serializeHeader targetHost) self = .ok after) :
    after.bodyLength =
      if chunked ∈ Header.values transferEncoding headers then some .chunked
      else self.bodyLength := by
  induction headers generalizing self with
  | nil =>
    cases serializes
    rfl
  | cons header headers ih =>
    obtain ⟨middle, first, later⟩ := bind_eq_ok.mp serializes
    rcases bodyLength_cases first with ⟨named, -⟩ | ⟨named, effect⟩ | ⟨other, encoding, same⟩
    · rw [values_cons_of_eq headers named] at unmeasured
      cases unmeasured
    · have notLength : header.name.text ≠ contentLength := by
        rw [named]
        decide
      rw [values_cons_of_ne headers notLength] at unmeasured
      rw [ih unmeasured later, effect, values_cons_of_eq headers named]
      by_cases chunked : header.value.bytes = chunked
      · simp [chunked]
      · simp [chunked, Ne.symm chunked]
    · rw [values_cons_of_ne headers other] at unmeasured
      rw [ih unmeasured later, same, values_cons_of_ne headers encoding]

section

variable (targetHost : Bytes)
  (kept : name ≠ proxyAuthorization ∧ name ≠ proxyConnection ∧ name ≠ host)

include kept

lemma values_forwardedHeader (header : Header) :
    values name ((forwardedHeader targetHost header).map Rfc9112.Field.read) =
      (Header.values name [header]).map trimOws := by
  have hostLower : host.map toLower = host := by decide
  rw [forwardedHeader]
  by_cases proxy : header.name.text = proxyAuthorization ∨ header.name.text = proxyConnection
  · have different : header.name.text ≠ name := by
      rintro rfl
      exact proxy.elim kept.1 kept.2.1
    rw [if_pos proxy, values_cons_of_ne [] different]
    rfl
  · rw [if_neg proxy]
    by_cases hosts : header.name.text = host
    · have different : header.name.text ≠ name := by
        rintro rfl
        exact kept.2.2 hosts
      rw [if_pos hosts, values_cons_of_ne [] different]
      simp [values, Rfc9112.Field.read, hostLower, Header.values, Ne.symm kept.2.2]
    · rw [if_neg hosts]
      by_cases named : header.name.text = name
      · subst named
        simp [values, Rfc9112.Field.read, header.name.lowercase, Header.values]
      · simp [values, Rfc9112.Field.read, header.name.lowercase, named, Header.values]

lemma values_forwarded (headers : List Header) :
    values name ((forwarded targetHost headers).map Rfc9112.Field.read) =
      (Header.values name headers).map trimOws := by
  induction headers with
  | nil => rfl
  | cons header headers ih =>
    have split : Header.values name (header :: headers) =
        Header.values name [header] ++ Header.values name headers := by
      rw [Header.values, ← singleton_append, filter_append, map_append]
      rfl
    have first := values_forwardedHeader targetHost kept header
    rw [forwarded] at ih ⊢
    rw [flatMap_cons, map_append, values_append, first, ih, split, map_append]

end

/-- The recipient gets the request right: the rules by which it delimits a request take
exactly what is sent. -/
def FramedRight (req : RequestHeaders) (body : Bytes) : Prop :=
  (req.method.text = options ∨ req.uri.pathAndQuery ≠ none) ∧
    match Header.values Rfc9112.contentLength req.headers,
      Header.values Rfc9112.transferEncoding req.headers with
    | [], [] => req.method.text = head ∨ ¬(req.version = .http2 ∨ req.version = .http3) ∨ body = []
    | [value], [] =>
      value.all isDigit = true ∧
        if req.method.text = head then decimalValue value = 0
        else decimalValue value ≤ body.length
    | [], codings =>
      Rfc9112.finalCoding (codings.map Rfc9112.trimOws) = some Rfc9112.chunked ∧
        req.method.text ≠ head ∧
        (Rfc9112.chunked ∈ codings ∨ req.version = .http2 ∨ req.version = .http3) ∧
        ∃ data, Rfc9112.parseChunked body.length body = .done data []
    | _, _ => False

lemma isToken_host : isToken host = true := by decide

lemma wellFormed_forwarded (unbroken : 13 ∉ targetHost) (headers : List Header) :
    ∀ field ∈ forwarded targetHost headers, isToken field.name = true ∧ 13 ∉ field.value := by
  intro field mem
  obtain ⟨header, -, sent⟩ := mem_flatMap.mp mem
  rw [forwardedHeader] at sent
  split at sent
  · cases sent
  · split at sent
    · rw [mem_singleton.mp sent]
      exact ⟨isToken_host, unbroken⟩
    · rw [mem_singleton.mp sent]
      refine ⟨header.name.token, fun mem => ?_⟩
      have visible := all_eq_true.mp header.value.visible 13 mem
      cases visible

variable {req : RequestHeaders} {length : BodyLength}

lemma serializeRequest_ok {serialized : Bytes}
    (accepted : serializeRequest req = .ok (serialized, length)) :
    ∃ targetHost after, req.headers.foldlM (serializeHeader targetHost)
        ⟨requestLine req ++ [13, 10], false, none⟩ = .ok after ∧
      length = finalBodyLength req after.bodyLength ∧
      ∃ fields : List Rfc9112.Field,
        (∀ field ∈ fields, isToken field.name = true ∧ 13 ∉ field.value) ∧
        (∀ name, name ≠ proxyAuthorization ∧ name ≠ proxyConnection ∧ name ≠ host →
          values name (fields.map Rfc9112.Field.read) =
            (Header.values name req.headers).map trimOws) ∧
        serialized = requestLine req ++ 13 :: 10 :: (fields.flatMap renderField ++ [13, 10]) := by
  rw [serializeRequest] at accepted
  cases authority : req.uri.authority with
  | none =>
    rw [authority] at accepted
    cases accepted
  | some targetHost =>
    rw [authority] at accepted
    obtain ⟨after, serializes, returned⟩ := bind_eq_ok.mp accepted
    cases returned
    refine ⟨targetHost.text, after, serializes, rfl, ?_⟩
    have rendered := serializeHeaders_ok serializes
    have unbrokenHost : 13 ∉ targetHost.text := by
      intro mem
      have visible := all_eq_true.mp targetHost.visible 13 mem
      cases visible
    have wellFormed := wellFormed_forwarded unbrokenHost req.headers
    by_cases inserted : after.hostInserted = true
    · refine ⟨forwarded _ _, wellFormed, ?_, ?_⟩
      · intro name kept
        exact values_forwarded _ kept _
      · simp [inserted, rendered]
    · refine ⟨forwarded targetHost.text req.headers ++ [⟨host, targetHost.text⟩], ?_, ?_, ?_⟩
      · intro field mem
        rcases mem_append.mp mem with mem | mem
        · exact wellFormed field mem
        · rw [mem_singleton.mp mem]
          exact ⟨isToken_host, unbrokenHost⟩
      · intro name kept
        have hostLower : host.map toLower = host := by decide
        rw [map_append, values_append, values_forwarded _ kept _]
        simp [values, Rfc9112.Field.read, hostLower, Ne.symm kept.2.2]
      · simp [inserted, rendered, headerLine, renderField]

lemma solid_target (req : RequestHeaders) : ∀ byte ∈ target req, 32 < byte := by
  rw [target]
  split
  · cases req.uri.pathAndQuery with
    | none => simp
    | some part =>
      intro byte mem
      simpa using all_eq_true.mp part.val.visible byte mem
  · simp

lemma target_ne_nil_iff (req : RequestHeaders) :
    target req ≠ [] ↔ req.method.text = options ∨ req.uri.pathAndQuery ≠ none := by
  rw [target]
  by_cases star : req.method.text = options
  · simp [star]
  · cases path : req.uri.pathAndQuery with
    | none => simp
    | some part => simp [star, part.property]

lemma isDigit_versionMajorDigit (version : Version) :
    isDigit (versionMajorDigit version) = true := by
  cases version with
  | _ => rfl

lemma isDigit_versionMinorDigit (version : Version) :
    isDigit (versionMinorDigit version) = true := by
  cases version with
  | _ => rfl

lemma isRequestLine_requestLine (req : RequestHeaders) :
    isRequestLine (requestLine req) = !(target req).isEmpty := by
  have solid : 32 ∉ target req := fun mem => absurd (solid_target req 32 mem) (by decide)
  exact isRequestLine_render req.method.token solid
    (isDigit_versionMajorDigit _) (isDigit_versionMinorDigit _)

lemma unbroken_requestLine (req : RequestHeaders) : 13 ∉ requestLine req := by
  have unbrokenMethod : 13 ∉ req.method.text := notMem_of_isToken req.method.token rfl
  have unbrokenTarget : 13 ∉ target req := fun mem => absurd (solid_target req 13 mem) (by decide)
  have different {digit : UInt8} (decimal : isDigit digit = true) : 13 ≠ digit := by
    rintro rfl
    cases decimal
  simp [requestLine, unbrokenMethod, unbrokenTarget, different (isDigit_versionMajorDigit _),
    different (isDigit_versionMinorDigit _)]

/-- What is sent for a body is parsed as exactly one request, which does not carry both a
length and a transfer encoding. -/
def ForwardsOneRequest (serialized : Bytes) (length : BodyLength) (source : List Bytes) :
    Prop :=
  ∃ reads bytes fields, drain reads (new serialized length source) = some bytes ∧
    Rfc9112.parseRequest bytes = .done fields [] ∧
    ¬(Rfc9112.values Rfc9112.contentLength fields ≠ [] ∧
      Rfc9112.values Rfc9112.transferEncoding fields ≠ [])

variable {fields : List Rfc9112.Field}

/-- The recipient reads the head back and delimits what was sent of the body. -/
lemma forwardsOneRequest_iff_parseBody (source : List Bytes)
    (wellFormed : ∀ field ∈ fields, isToken field.name = true ∧ 13 ∉ field.value) :
    ForwardsOneRequest (requestLine req ++ 13 :: 10 ::
        (fields.flatMap renderField ++ [13, 10])) length source ↔
      target req ≠ [] ∧
        ¬(values contentLength (fields.map Rfc9112.Field.read) ≠ [] ∧
          values transferEncoding (fields.map Rfc9112.Field.read) ≠ []) ∧
        parseBody (fields.map Rfc9112.Field.read)
          (sentBody length source.flatten) = .done (fields.map Rfc9112.Field.read) [] := by
  have parsed : parseRequest (requestLine req ++ 13 :: 10 ::
      (fields.flatMap renderField ++ [13, 10]) ++ sentBody length source.flatten) =
      if target req ≠ [] then parseBody (fields.map Rfc9112.Field.read)
        (sentBody length source.flatten) else .invalid := by
    have joined := @parseRequest_render _ _ (sentBody length source.flatten)
      (unbroken_requestLine req) wellFormed
    rw [isRequestLine_requestLine] at joined
    simpa using joined
  constructor
  · rintro ⟨reads, bytes, found, drained, complete, separate⟩
    rw [eq_unread_of_drain drained] at complete
    replace complete := parsed.symm.trans complete
    split at complete
    · obtain rfl := parseBody_fields complete
      exact ⟨‹_›, separate, complete⟩
    · cases complete
  · rintro ⟨targeted, separate, complete⟩
    exact ⟨_, _, _, drain_of_readsLeft_le (le_refl _),
      parsed.trans (by rw [if_pos targeted, complete]), separate⟩

variable {body : Bytes}

/-- A request that says nothing about its length is delimited right away. -/
lemma parseBody_unmeasured_iff (unmeasured : values contentLength fields = [])
    (plain : values transferEncoding fields = []) :
    parseBody fields (sentBody (finalBodyLength req none) body) = .done fields [] ↔
      req.method.text = head ∨ ¬(req.version = .http2 ∨ req.version = .http3) ∨ body = [] := by
  have framed : framing fields = some (.length 0) := by
    simp [framing, unmeasured, plain]
  rw [parseBody_length_iff framed, finalBodyLength]
  by_cases isHead : req.method.text = head
  · simp [isHead, sentBody]
  · by_cases recent : req.version = .http2 ∨ req.version = .http3
    · simp [isHead, recent, sentBody]
    · simp [recent, sentBody]

/-- A request with a length is delimited by it, if it is a plain number. -/
lemma parseBody_measured_iff {value : Bytes} {length : Nat} (parsed : parseU64 value = some length)
    (measured : values contentLength fields = [value].map trimOws)
    (plain : values transferEncoding fields = []) :
    parseBody fields (sentBody (finalBodyLength req (some (.determined length))) body) =
        .done fields [] ↔
      value.all isDigit = true ∧
        if req.method.text = head then decimalValue value = 0
        else decimalValue value ≤ body.length := by
  obtain ⟨nonempty, bytes, denotes⟩ := parseU64_eq_some parsed
  have solid : ∀ byte ∈ value, byte ≠ 32 ∧ byte ≠ 9 := by
    intro byte mem
    constructor
    all_goals
      rintro rfl
      rcases bytes _ mem with digit | plus
      · cases digit
      · cases plus
  have single : 44 ∉ value := by
    intro mem
    rcases bytes _ mem with digit | plus
    · cases digit
    · cases plus
  have framed : framing fields =
      if value.all isDigit then some (.length (decimalValue value)) else none := by
    rw [framing, if_neg (not_not_intro plain), measured, map_singleton,
      trimOws_of_solid solid, if_pos (cons_ne_nil _ _),
      agreedLength_singleton nonempty solid single]
    split
    · rfl
    · rfl
  split at framed
  · rename_i digits
    rw [parseBody_length_iff framed, finalBodyLength, ← denotes digits]
    by_cases isHead : req.method.text = head
    · simp [isHead, sentBody, digits, eq_comm]
    · simp [isHead, sentBody, digits]
  · rename_i digits
    exact iff_of_false (parseBody_ne_done framed) fun holds => digits holds.1

/-- A request with a transfer encoding is delimited by its chunks, which must be sent. -/
lemma parseBody_encoded_iff {codings : List Bytes} (some_coding : codings ≠ [])
    (encoded : values transferEncoding fields = codings.map trimOws) :
    parseBody fields (sentBody (finalBodyLength req
        (if chunked ∈ codings then some .chunked else none)) body) = .done fields [] ↔
      finalCoding (codings.map trimOws) = some chunked ∧ req.method.text ≠ head ∧
        (chunked ∈ codings ∨ req.version = .http2 ∨ req.version = .http3) ∧
        ∃ data, parseChunked body.length body = .done data [] := by
  have framed : framing fields =
      if finalCoding (codings.map trimOws) = some chunked then
        some .chunked else none := by
    rw [framing, encoded, if_pos (by simpa using some_coding)]
  split at framed
  · rename_i final
    rw [parseBody_chunked_iff framed, finalBodyLength]
    by_cases isHead : req.method.text = head
    · simp [isHead, sentBody, parseChunked]
    · by_cases exactly : chunked ∈ codings
      · simp [isHead, exactly, final, sentBody]
      · by_cases recent : req.version = .http2 ∨ req.version = .http3
        · simp [isHead, exactly, recent, final, sentBody]
        · simp [exactly, recent, sentBody, parseChunked]
  · rename_i final
    exact iff_of_false (parseBody_ne_done framed) fun holds => final holds.1

/-- A request is forwarded as exactly one request if and only if its framing is right. -/
theorem forwardsOneRequest_iff {req : RequestHeaders} {serialized : Bytes}
    {length : BodyLength} (accepted : serializeRequest req = .ok (serialized, length))
    (source : List Bytes) :
    ForwardsOneRequest serialized length source ↔ FramedRight req source.flatten := by
  obtain ⟨targetHost, after, serializes, rfl, fields, wellFormed, values, rfl⟩ :=
    serializeRequest_ok accepted
  have lengths := values contentLength (by decide)
  have codings := values transferEncoding (by decide)
  rw [forwardsOneRequest_iff_parseBody source wellFormed, target_ne_nil_iff, lengths, codings]
  refine and_congr_right fun _ => ?_
  cases encodings : Header.values transferEncoding req.headers with
  | nil =>
    rw [encodings] at codings
    have separate (first : Prop) : ¬(first ∧ ([] : List Bytes).map trimOws ≠ []) :=
      fun both => both.2 rfl
    rw [and_iff_right (separate _)]
    rcases bodyLength_of_plain (by simp) encodings serializes with
      ⟨unmeasured, unknown⟩ | ⟨-, value, length, measured, parsed, known⟩
    · rw [unmeasured] at lengths
      rw [unmeasured, unknown]
      exact parseBody_unmeasured_iff lengths codings
    · rw [measured] at lengths
      rw [measured, known]
      exact parseBody_measured_iff parsed lengths codings
  | cons =>
    cases measures : Header.values _ _ with
    | cons _ more =>
      apply iff_of_false
      · rintro ⟨separate, -⟩
        exact separate ⟨by simp, by simp⟩
      · cases more with
        | nil | cons => exact id
    | nil =>
      rw [encodings] at codings
      have separate (second : Prop) :
          ¬(([] : List Bytes).map trimOws ≠ [] ∧ second) := fun both => both.1 rfl
      rw [and_iff_right (separate _), bodyLength_of_encoded measures serializes, encodings]
      exact parseBody_encoded_iff (cons_ne_nil _ _) codings

/-- A request for `/` of `example.com`. -/
def exampleRequest (method : Method) (version : Version) (headers : List Header) :
    RequestHeaders where
  method := method
  uri := ⟨some ⟨.ofString "example.com", by decide⟩, some ⟨⟨[47], by decide⟩, by decide⟩⟩
  version := version
  headers := headers

def post : Method := ⟨.ofString "POST", by decide⟩

/-- A header that announces five bytes. -/
def fiveBytes : Header := ⟨⟨Rfc9112.contentLength, by decide, by decide⟩, ⟨[53], by decide⟩⟩

lemma serializeRequest_fiveBytes :
    serializeRequest (exampleRequest post .http11 [fiveBytes]) =
      .ok (.ofString "POST / HTTP/1.1\r\ncontent-length: 5\r\nhost: example.com\r\n\r\n",
        .determined 5) := by
  decide +kernel

/-- A request with the length of its body arrives as one request. -/
theorem forwardsOneRequest_hello :
    ForwardsOneRequest
      (.ofString "POST / HTTP/1.1\r\ncontent-length: 5\r\nhost: example.com\r\n\r\n")
      (.determined 5) [.ofString "he", .ofString "llo"] := by
  refine (forwardsOneRequest_iff serializeRequest_fiveBytes _).mpr ⟨?_, ?_⟩
  · decide
  · have measured : List.all [53] isDigit = true ∧
        if post.text = head then decimalValue [53] = 0 else decimalValue [53] ≤ 5 := by
      decide
    exact measured

def smuggled : Bytes := .ofString "GET /admin HTTP/1.1\r\nhost: example.com\r\n\r\n"

/-- The body of an HTTP/2 request without a length arrives as a second request. -/
theorem not_forwardsOneRequest_smuggled :
    ∃ serialized, serializeRequest (exampleRequest post .http2 []) = .ok (serialized, .chunked) ∧
      ¬ForwardsOneRequest serialized .chunked [smuggled] := by
  refine ⟨.ofString "POST / HTTP/1.1\r\nhost: example.com\r\n\r\n", by decide +kernel, ?_⟩
  rintro ⟨reads, bytes, fields, drained, parsed, -⟩
  have twice : parseRequest (.ofString "POST / HTTP/1.1\r\nhost: example.com\r\n\r\n" ++ smuggled) =
      .done [⟨host, .ofString "example.com"⟩] smuggled := by
    decide +kernel
  rw [eq_unread_of_drain drained] at parsed
  have whole : [smuggled].flatten = smuggled := append_nil _
  have found := twice.symm.trans (whole ▸ parsed)
  cases found

end ForwardedStreamSource

end TrustTunnel.Endpoint
