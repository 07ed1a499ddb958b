import TrustTunnel.Endpoint.HttpFields
import TrustTunnel.Endpoint.SimplexPipe
import TrustTunnel.Rfc9112.Messages

/-!
# The sink of a forwarded plain-HTTP stream

The endpoint receives the response of the origin as HTTP/1.1 bytes, translates its
head for the client and passes the body on, decoding chunks for clients of HTTP/2
and HTTP/3. The parsers and the response builder come from the crates `httparse`
and `http`, and are parameters.
-/

namespace TrustTunnel.Endpoint

open Http

/-- `httparse::Response`, when it is complete. -/
structure Response where
  code : Nat
  headers : List Field
  deriving DecidableEq

inductive ParseError where
  | tooManyHeaders
  | invalid (description : String)
  deriving DecidableEq

/-- The functions of other crates. Each parser returns `none` on partial data, and the
number of bytes parsed otherwise. -/
structure Crates where
  /-- `httparse::Response::parse` with a number of header slots. -/
  parseResponse : Nat → Bytes → Except ParseError (Option (Nat × Response))
  /-- `httparse::parse_chunk_size`; the only error is `InvalidChunkSize`. -/
  parseChunkSize : Bytes → Except Unit (Option (Nat × Nat))
  /-- `http::response::Builder::body`, for a status code and headers. -/
  buildResponse : Nat → List Field → Except String Unit

/-- `http_codec::ResponseHeaders`. -/
structure ResponseHeaders where
  version : Version
  status : Nat
  headers : List Field
  deriving DecidableEq

inductive BodyLength where
  | determined (length : Nat)
  | chunked
  deriving DecidableEq

/-! ## The client -/

/-- A response sent to the client. -/
inductive Answer where
  | intermediate (headers : ResponseHeaders)
  | final (headers : ResponseHeaders) (eof : Bool)
  | bad (status : Nat)
  deriving DecidableEq

/-- What arrives in the sink for the body. -/
inductive BodyEvent where
  | byte (byte : UInt8)
  | eof
  deriving DecidableEq

/-- The client. Of each of the next writes to its sink it accepts the given number of
bytes at most, and then everything. -/
structure Client where
  acceptances : List Nat
  answers : List Answer
  received : List BodyEvent
  deriving DecidableEq

namespace Client

def answer (self : Client) (answer : Answer) : Client :=
  { self with answers := self.answers ++ [answer] }

/-- A response is sent if there is room for it. The queue of an HTTP/1 client has room for the
first one, and for another one if it would accept a write. -/
def respond (self : Client) (version : Version) (answer : Answer) : Option Client :=
  if version = .http2 ∨ version = .http3 ∨ self.answers = [] then some (self.answer answer)
  else
    match self.acceptances with
    | [] => some (self.answer answer)
    | 0 :: _ => none
    | _ :: limits => some { self.answer answer with acceptances := limits }

/-- Only an HTTP/1 client is sent a response with a code below 200. -/
def respondIntermediate (self : Client) (resp : ResponseHeaders) : Option Client :=
  if resp.version = .http2 ∨ resp.version = .http3 then some self
  else self.respond resp.version (.intermediate resp)

/-- `write`: the unsent portion of the data. -/
def write (self : Client) (data : Bytes) : Bytes × Client :=
  match self.acceptances with
  | [] => ([], { self with received := self.received ++ data.map .byte })
  | count :: limits =>
    (data.drop count,
      { self with acceptances := limits, received := self.received ++ (data.take count).map .byte })

def eof (self : Client) : Client := { self with received := self.received ++ [.eof] }

end Client

/-! ## The states of the sink -/

structure SinkWaitingResponse where
  headersBuffer : Bytes
  requestMethod : String
  requestVersion : Version
  deriving DecidableEq

inductive SinkState where
  | idle
  | waitingResponse (waiting : SinkWaitingResponse)
  | transferringBodyNonEncoded (bodyLength : Option Nat) (sentBytes : Nat)
  | waitingChunkPrefix (buffer : Bytes)
  | transferringBodyChunked (remainingChunkSize : Nat)
  | waitingChunkSuffix (buffer : Bytes) (terminatingChunk : Bool)
  deriving DecidableEq

structure ForwardedStreamSink where
  state : SinkState
  fakeUnsent : Bool
  client : Client
  deriving DecidableEq

/-! ## The head of the response -/

def initialResponseHeadersBufferSize : Nat := 32

def maxResponseHeadersNum : Nat := 128

/-- The sizes the header buffer can take: it is doubled up to the maximum. -/
def headersBufferSizes : List Nat :=
  [initialResponseHeadersBufferSize, 2 * initialResponseHeadersBufferSize, maxResponseHeadersNum]

/-- What `convert_response` has gathered from the headers so far. -/
structure Conversion where
  dropHeaders : List String
  bodyLength : Option BodyLength
  headers : List Field

/-- The headers that are dropped in any case. -/
def hopByHop : List String := ["proxy-connection", "keep-alive", "upgrade"]

def Field.withTrimmedName (header : Field) : Field :=
  { header with name := .ofList (trimEnd header.name.toList) }

/-- One round of the loop over the headers. -/
def convertHeader (version : Version) (self : Conversion) (header : Field) :
    Except IoError Conversion :=
  if header.lowerName ∈ self.dropHeaders then .ok self
  else if header.lowerName = "connection" then
    .ok { self with dropHeaders := self.dropHeaders ++ connectionOptions header.value }
  else if header.lowerName = "transfer-encoding" ∧ (version = .http2 ∨ version = .http3) then
    .ok { self with
      bodyLength := if header.value = .ofString "chunked" then some .chunked
        else self.bodyLength
      dropHeaders := self.dropHeaders ++ ["content-length", "transfer-encoding"] }
  else
    let headers := self.headers ++ [Field.withTrimmedName header]
    if self.bodyLength = none ∧ header.lowerName = "content-length" then
      match parseU64 header.value with
      | some length => .ok { self with bodyLength := some (.determined length), headers }
      | none => .error (.other "Invalid Content-Length header value")
    else .ok { self with headers }

/-- A response without a body, whatever its headers say. -/
def Bodiless (method : String) (code : Nat) : Prop :=
  method = "HEAD" ∨ (100 ≤ code ∧ code < 200) ∨ code = 204 ∨ code = 304

instance (method : String) (code : Nat) : Decidable (Bodiless method code) :=
  inferInstanceAs (Decidable (_ ∨ _))

namespace SinkWaitingResponse

def convertResponse (crates : Crates) (self : SinkWaitingResponse) (resp : Response) :
    Except IoError (ResponseHeaders × Option BodyLength) := do
  let converted ← resp.headers.foldlM (convertHeader self.requestVersion)
    ⟨hopByHop, none, []⟩
  let bodyLength := if Bodiless self.requestMethod resp.code then some (.determined 0)
    else converted.bodyLength
  match crates.buildResponse resp.code converted.headers with
  | .error description => throw (.other ("Invalid response: " ++ description))
  | .ok _ => return (⟨self.requestVersion, resp.code, converted.headers⟩, bodyLength)

/-- The loop of `parse_response` over the sizes of the header buffer. -/
def parseHead (crates : Crates) (data : Bytes) : List Nat → Except IoError (Option (Nat × Response))
  | [] => .error (.other "Failed to parse response: too many headers")
  | size :: larger =>
    match crates.parseResponse size data with
    | .ok parsed => .ok parsed
    | .error .tooManyHeaders => parseHead crates data larger
    | .error (.invalid description) => .error (.other ("Failed to parse response: " ++ description))

/-- `parse_response`: the response, if it is complete, the bytes behind it, and the new
state of the buffer. -/
def parseResponse (crates : Crates) (self : SinkWaitingResponse) (data : Bytes) :
    Except IoError
      (Option (ResponseHeaders × Option BodyLength) × Bytes × SinkWaitingResponse) := do
  let data := self.headersBuffer ++ data
  match ← parseHead crates data headersBufferSizes with
  | none => return (none, [], { self with headersBuffer := data })
  | some (pos, resp) =>
    let converted ← self.convertResponse crates resp
    return (some converted, data.drop pos, { self with headersBuffer := [] })

end SinkWaitingResponse

/-! ## Writing -/

namespace ForwardedStreamSink

/-- `into_forwarded`, the sink half. -/
def new (method : String) (version : Version) (limits : List Nat) : ForwardedStreamSink where
  state := .waitingResponse ⟨[], method, version⟩
  fakeUnsent := false
  client := ⟨limits, [], []⟩

/-- The state that the body of a response is received in. -/
def bodyState : Option BodyLength → SinkState
  | some .chunked => .waitingChunkPrefix []
  | some (.determined length) => .transferringBodyNonEncoded (some length) 0
  | none => .transferringBodyNonEncoded none 0

def queueFull : Failure := .io (.other "Failed to put response in queue: no available capacity")

/-- `on_response_headers_chunk`, with the answer that `write` gives on an error. When the queue
is full there is no room for that one either. -/
def onResponseHeadersChunk (crates : Crates) (self : ForwardedStreamSink)
    (waiting : SinkWaitingResponse) (data : Bytes) : Except Failure Bytes × ForwardedStreamSink :=
  match waiting.parseResponse crates data with
  | .error error =>
    (.error (.io error),
      { self with
        state := .idle
        client := (self.client.respond waiting.requestVersion (.bad 502)).getD self.client })
  | .ok (none, tail, waiting) => (.ok tail, { self with state := .waitingResponse waiting })
  | .ok (some (resp, bodyLength), tail, waiting) =>
    if 100 ≤ resp.status ∧ resp.status < 200 then
      match self.client.respondIntermediate resp with
      | some client => (.ok tail, { self with state := .waitingResponse waiting, client })
      | none => (.error queueFull, { self with state := .idle })
    else
      match self.client.respond resp.version (.final resp (bodyLength = some (.determined 0))) with
      | some client =>
        (.ok tail, { state := bodyState bodyLength, fakeUnsent := !tail.isEmpty, client })
      | none => (.error queueFull, { self with state := .idle })

/-- `on_non_encoded_chunk`, behind the check of the body length. -/
def sendNonEncoded (self : ForwardedStreamSink) (bodyLength : Option Nat) (sentBytes : Nat)
    (data : Bytes) (toSend : Nat) : Except Failure Bytes × ForwardedStreamSink :=
  if toSend = 0 then (.ok data, self)
  else
    let (unsent, client) := self.client.write (data.take toSend)
    -- the whole of the data is counted, not only the part that was offered
    let sentBytes := sentBytes + (data.length - unsent.length)
    let self := { self with state := .transferringBodyNonEncoded bodyLength sentBytes, client }
    if some sentBytes = bodyLength then
      if unsent = [] ∧ data.length = toSend then
        (.ok (data.drop (toSend - unsent.length)), { self with client := client.eof })
      else (.error (.panic .assertion), self)
    else (.ok (data.drop (toSend - unsent.length)), self)

def onNonEncodedChunk (self : ForwardedStreamSink) (bodyLength : Option Nat)
    (sentBytes : Nat) (data : Bytes) : Except Failure Bytes × ForwardedStreamSink :=
  match bodyLength with
  | none => self.sendNonEncoded none sentBytes data data.length
  | some length =>
    if length ≤ sentBytes then (.error (.io (.ofKind .unexpectedEof)), self)
    else self.sendNonEncoded (some length) sentBytes data (min data.length (length - sentBytes))

def onEncodedChunkPrefix (crates : Crates) (self : ForwardedStreamSink) (buffer : Bytes)
    (data : Bytes) : Except Failure Bytes × ForwardedStreamSink :=
  let data := buffer ++ data
  match crates.parseChunkSize data with
  | .error _ =>
    (.error (.io (.other "Invalid encoded chunk size")),
      { self with state := .waitingChunkPrefix [] })
  | .ok none => (.ok [], { self with state := .waitingChunkPrefix data })
  | .ok (some (pos, chunkSize)) =>
    let tail := data.drop pos
    (.ok tail,
      { self with
        state := if chunkSize = 0 then .waitingChunkSuffix [] true
          else .transferringBodyChunked chunkSize
        fakeUnsent := !tail.isEmpty })

/-- `on_encoded_chunk`: when a part of the chunk remains, the state stays idle. -/
def onEncodedChunk (self : ForwardedStreamSink) (remainingChunkSize : Nat) (data : Bytes) :
    Except Failure Bytes × ForwardedStreamSink :=
  let toSend := min data.length remainingChunkSize
  let (unsent, client) := self.client.write (data.take toSend)
  let remaining := remainingChunkSize - toSend
  (.ok (data.drop (toSend - unsent.length)),
    { state := if 0 < remaining then .idle else .waitingChunkSuffix [] false
      fakeUnsent := !data.isEmpty
      client })

def encodedChunkSuffix : Bytes := [13, 10]

def onEncodedChunkSuffix (self : ForwardedStreamSink) (buffer : Bytes)
    (terminatingChunk : Bool) (data : Bytes) : Except Failure Bytes × ForwardedStreamSink :=
  let toRead := min data.length (encodedChunkSuffix.length - buffer.length)
  let suffix := buffer ++ data.take toRead
  let data := data.drop toRead
  if ¬suffix <+: encodedChunkSuffix then
    (.error (.io (.other "Invalid encoded chunk suffix")), { self with state := .idle })
  else if suffix.length < encodedChunkSuffix.length then
    (.ok data, { self with state := .waitingChunkSuffix suffix terminatingChunk })
  else if terminatingChunk then
    (.ok [], { self with state := .idle, client := self.client.eof })
  else (.ok data, { self with state := .waitingChunkPrefix [] })

def write (crates : Crates) (self : ForwardedStreamSink) (data : Bytes) :
    Except Failure Bytes × ForwardedStreamSink :=
  match self.state with
  | .idle => (.error (.io (.other "Invalid state")), self)
  | .waitingResponse waiting => self.onResponseHeadersChunk crates waiting data
  | .transferringBodyNonEncoded bodyLength sentBytes =>
    self.onNonEncodedChunk bodyLength sentBytes data
  | .waitingChunkPrefix buffer => self.onEncodedChunkPrefix crates buffer data
  | .transferringBodyChunked remainingChunkSize => self.onEncodedChunk remainingChunkSize data
  | .waitingChunkSuffix buffer terminatingChunk =>
    self.onEncodedChunkSuffix buffer terminatingChunk data

/-- `wait_writable`, for a client that becomes writable. -/
def waitWritable (self : ForwardedStreamSink) : Except Failure Unit × ForwardedStreamSink :=
  if self.fakeUnsent then (.ok (), { self with fakeUnsent := false })
  else
    match self.state with
    | .idle | .waitingResponse _ => (.error (.io (.other "Invalid state")), self)
    | _ => (.ok (), self)

def eof (self : ForwardedStreamSink) : Except Failure Unit × ForwardedStreamSink :=
  match self.state with
  | .idle => (.ok (), self)
  | .waitingResponse waiting =>
    match self.client.respond waiting.requestVersion (.bad 502) with
    | some client => (.ok (), { self with state := .idle, client })
    | none => (.error queueFull, { self with state := .idle })
  | _ => (.ok (), { self with state := .idle, client := self.client.eof })

/-- The sink, as the pipe uses it. -/
def ops (crates : Crates) : Sink ForwardedStreamSink where
  write := write crates
  waitWritable := waitWritable

end ForwardedStreamSink

/-!
## The source of a forwarded plain-HTTP stream

A request of a client, of any HTTP version, is serialized as an HTTP/1 request for the
origin. The source yields the serialized head and then the body of the client.
-/

open Wire

/-! ## Requests -/

/-- `http::Method`. -/
structure Method where
  text : Bytes
  token : Rfc9112.isToken text = true

/-- `http::HeaderName`: a token in lower case. -/
structure HeaderName where
  text : Bytes
  token : Rfc9112.isToken text = true
  lowercase : text.map Rfc9112.toLower = text

/-- `http::HeaderValue`: no control character but the tab. -/
structure HeaderValue where
  bytes : Bytes
  visible : bytes.all (fun byte => byte == 9 || (32 ≤ byte && byte != 127)) = true

structure Header where
  name : HeaderName
  value : HeaderValue

/-- A part of `http::Uri`: no space and no control character. -/
structure UriPart where
  text : Bytes
  visible : text.all (32 < ·) = true

/-- `http::Uri`, as far as it is forwarded. A path with a query is never empty; there is
none when the URI is only an authority. -/
structure Uri where
  authority : Option UriPart
  pathAndQuery : Option { part : UriPart // part.text ≠ [] }

/-- `http_codec::RequestHeaders`. -/
structure RequestHeaders where
  method : Method
  uri : Uri
  version : Version
  headers : List Header

/-- The values of the headers of a name. -/
def Header.values (name : Bytes) (headers : List Header) : List Bytes :=
  (headers.filter (·.name.text = name)).map (·.value.bytes)

/-! ## Serializing -/

namespace ForwardedStreamSource

def head : Bytes := .ofString "HEAD"

def options : Bytes := .ofString "OPTIONS"

def host : Bytes := .ofString "host"

def proxyAuthorization : Bytes := .ofString "proxy-authorization"

def proxyConnection : Bytes := .ofString "proxy-connection"

/-- `version_major_digit`, as a character. -/
def versionMajorDigit : Version → UInt8
  | .http09 => 48
  | _ => 49

/-- `version_minor_digit`, as a character. -/
def versionMinorDigit : Version → UInt8
  | .http09 => 48
  | .http10 => 48
  | .http11 => 49
  | .http2 => 49
  | .http3 => 49

/-- The request target: the path and query, or else an empty path. -/
def target (req : RequestHeaders) : Bytes :=
  if req.method.text ≠ options then
    match req.uri.pathAndQuery with
    | some part => part.val.text
    | none => []
  else [42]

def requestLine (req : RequestHeaders) : Bytes :=
  req.method.text ++ 32 :: (target req ++ 32 :: [72, 84, 84, 80, 47,
    versionMajorDigit req.version, 46, versionMinorDigit req.version])

/-- A header, with its line end. -/
def headerLine (name value : Bytes) : Bytes := name ++ 58 :: 32 :: (value ++ [13, 10])

/-- What the loop over the headers has gathered. -/
structure Serialization where
  serialized : Bytes
  hostInserted : Bool
  bodyLength : Option BodyLength

/-- The body length after a header that is not dropped. -/
def bodyLengthAfter (bodyLength : Option BodyLength) (header : Header) :
    Except IoError (Option BodyLength) :=
  if header.name.text = Rfc9112.contentLength then
    match bodyLength with
    | none =>
      match parseU64 header.value.bytes with
      | some length => .ok (some (.determined length))
      | none => .error (.other "Invalid Content-Length header value")
    | some (.determined _) => .error (.other "Request has multiple Content-Length headers")
    | some .chunked => .ok bodyLength
  else if header.name.text = Rfc9112.transferEncoding ∧
      header.value.bytes = Rfc9112.chunked then .ok (some .chunked)
  else .ok bodyLength

/-- One round of the loop over the headers. -/
def serializeHeader (targetHost : Bytes) (self : Serialization) (header : Header) :
    Except IoError Serialization :=
  if header.name.text = proxyAuthorization ∨ header.name.text = proxyConnection then .ok self
  else if header.name.text = host then
    if self.hostInserted then .error (.other "Request has multiple Host headers")
    else .ok { self with
      serialized := self.serialized ++ headerLine host targetHost
      hostInserted := true }
  else do
    let bodyLength ← bodyLengthAfter self.bodyLength header
    return { self with
      serialized := self.serialized ++ headerLine header.name.text header.value.bytes
      bodyLength }

/-- The body length, once all headers were read. -/
def finalBodyLength (req : RequestHeaders) (bodyLength : Option BodyLength) : BodyLength :=
  if req.method.text = head then .determined 0
  else bodyLength.getD
    (if req.version = .http2 ∨ req.version = .http3 then .chunked else .determined 0)

/-- `Debug for Uri`, without an authority. -/
def debugUri (uri : Uri) : String :=
  match uri.pathAndQuery with
  | some part => part.val.text.fromUtf8.getD ""
  | none => ""

def serializeRequest (req : RequestHeaders) : Except IoError (Bytes × BodyLength) :=
  match req.uri.authority with
  | none => .error (.other ("Request URI lacks host name: " ++ debugUri req.uri))
  | some targetHost => do
      let self ← req.headers.foldlM (serializeHeader targetHost.text)
        ⟨requestLine req ++ [13, 10], false, none⟩
      let serialized := if self.hostInserted then self.serialized
        else self.serialized ++ headerLine host targetHost.text
      return (serialized ++ [13, 10], finalBodyLength req self.bodyLength)

end ForwardedStreamSource

/-! ## Reading -/

/-- `pipe::Data`. -/
inductive Data where
  | chunk (bytes : Bytes)
  | eof

inductive SourceState where
  | wantSendRequest (serializedRequest : Bytes) (bodyLength : BodyLength)
  | transferringBody (bodyLength : BodyLength) (sentBytes : Nat)
  | done

/-- The source, with the chunks that the client is going to deliver before its end. -/
structure ForwardedStreamSource where
  state : SourceState
  source : List Bytes

namespace ForwardedStreamSource

/-- `into_forwarded`, the source half. -/
def new (serializedRequest : Bytes) (bodyLength : BodyLength) (source : List Bytes) :
    ForwardedStreamSource where
  state := .wantSendRequest serializedRequest bodyLength
  source := source

def onReadRequest (self : ForwardedStreamSource) (serializedRequest : Bytes)
    (bodyLength : BodyLength) : Data × ForwardedStreamSource :=
  (.chunk serializedRequest,
    { self with
      state := if bodyLength = .determined 0 then .done
        else .transferringBody bodyLength 0 })

def readBody (self : ForwardedStreamSource) (bodyLength : BodyLength) (sentBytes : Nat) :
    Data × ForwardedStreamSource :=
  match self.source, bodyLength with
  | bytes :: source, .determined length =>
    if sentBytes < length then
      let toSend := min bytes.length (length - sentBytes)
      (.chunk (bytes.take toSend), ⟨.transferringBody bodyLength (sentBytes + toSend), source⟩)
    else (.eof, ⟨.done, source⟩)
  | [], .determined _ => (.eof, ⟨.done, []⟩)
  | bytes :: source, .chunked =>
    (.chunk bytes, ⟨.transferringBody bodyLength (sentBytes + bytes.length), source⟩)
  | [], .chunked => (.eof, ⟨.done, []⟩)

def read (self : ForwardedStreamSource) : Data × ForwardedStreamSource :=
  match self.state with
  | .wantSendRequest serializedRequest bodyLength => self.onReadRequest serializedRequest bodyLength
  | .transferringBody bodyLength sentBytes => self.readBody bodyLength sentBytes
  | .done => (.eof, self)

/-- Everything that is read up to the end, if it comes within a number of reads. -/
def drain : (reads : Nat) → ForwardedStreamSource → Option Bytes
  | 0, _ => none
  | reads + 1, self =>
    match self.read with
    | (.eof, _) => some []
    | (.chunk bytes, self) => (drain reads self).map (bytes ++ ·)

end ForwardedStreamSource

end TrustTunnel.Endpoint
