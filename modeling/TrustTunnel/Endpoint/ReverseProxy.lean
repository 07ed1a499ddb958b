import TrustTunnel.Endpoint.ForwardedStream

/-!
# The reverse proxy

A request that is not for the tunnel is handed to an origin as an HTTP/1.1 request, and
the response of the origin is translated for the client. The model begins when the
request has been sent, and goes up to the end of the response or up to the place where
the two connections are joined by a pipe.
-/

namespace TrustTunnel.Endpoint

open Chunked Http

/-! ## Response heads -/

/-- `httparse::Error` as a text. -/
def ParseError.description : ParseError → String
  | tooManyHeaders => "too many headers"
  | invalid description => description

namespace Http1Codec

def maxRawHeadersSize : Nat := 1024

def maxHeadersNum : Nat := 32

/-- `decode_response`: the response and the bytes behind its head, or nothing while the
head is not complete. -/
def decodeResponse (crates : Crates) (buffer : Bytes) (headersNumCap rawBufferCap : Nat) :
    Except IoError (Option (Response × Bytes)) :=
  match crates.parseResponse headersNumCap buffer with
  | .ok (some (pos, resp)) =>
    match crates.buildResponse resp.code resp.headers with
    | .ok _ => .ok (some (resp, buffer.drop pos))
    | .error description => .error (.other ("Invalid response: " ++ description))
  | .ok none =>
    if buffer.length < rawBufferCap then .ok none
    else .error (.other "Too long HTTP response headers")
  | .error error => .error (.other error.description)

end Http1Codec

/-- The place of the first window that is equal to a pattern. -/
def windowPosition (pattern : Bytes) : Bytes → Option Nat
  | [] => none
  | byte :: rest =>
    if pattern <+: byte :: rest then some 0
    else (windowPosition pattern rest).map (· + 1)

lemma le_of_windowPosition {pattern bytes : Bytes} {pos : Nat}
    (found : windowPosition pattern bytes = some pos) : pos + pattern.length ≤ bytes.length := by
  fun_induction windowPosition pattern bytes generalizing pos with
  | case1 => cases found
  | case2 _ _ begins =>
    cases found
    rw [zero_add]
    exact begins.length_le
  | case3 _ _ _ ih =>
    obtain ⟨later, behind, rfl⟩ := Option.map_eq_some_iff.mp found
    have le := ih behind
    rw [List.length_cons]
    omega

namespace ReverseProxy

/-! ## Header fields -/

/-- `HeaderMap::get`: the first value of a name. -/
def getHeader (name : String) (headers : List Field) : Option Bytes :=
  (headers.find? (·.lowerName = name)).map Field.value

/-- `HeaderMap::insert`: the only value of a name. -/
def insertHeader (name : String) (value : Bytes) (headers : List Field) : List Field :=
  headers.filter (·.lowerName ≠ name) ++ [⟨name, value⟩]

/-- `HeaderValue::to_str`: only visible characters, spaces and tabs. -/
def toStr (value : Bytes) : Option Bytes :=
  if value.all fun byte => byte == 9 || (32 ≤ byte && byte < 127) then some value else none

def isChunked (headers : List Field) : Bool :=
  match (getHeader "transfer-encoding" headers).bind toStr with
  | some value => (windowPosition (.ofString "chunked") (value.map Rfc9112.toLower)).isSome
  | none => false

def contentLength (headers : List Field) : Option Nat :=
  ((getHeader "content-length" headers).bind toStr).bind parseU64

/-- The headers that are not valid in HTTP/2 and HTTP/3. -/
def hopByHop : List String :=
  ["connection", "transfer-encoding", "upgrade", "te", "trailer", "keep-alive", "proxy-connection"]

/-! ## The two sides -/

/-- `tls_demultiplexer::Protocol`. -/
inductive Protocol where
  | http1
  | http2
  | http3
  deriving DecidableEq

/-- What the origin does when everything it sends has been read. -/
inductive Ending where
  | keepsOpen
  | closes
  | fails (error : IoError)

/-- The connection to the origin. -/
structure Origin where
  reads : List Bytes
  ending : Ending

/-- How far `handle_stream` comes. -/
inductive Outcome where
  | finished
  | failed (failure : Failure)
  /-- It waits for the origin, which sends nothing more. -/
  | waiting
  /-- It joins the two connections by a pipe. -/
  | exchanging
  deriving DecidableEq

/-- A read when there is nothing more to read. -/
def Ending.read (ending : Ending) (client : Client) (atEof : Outcome × Client) : Outcome × Client :=
  match ending with
  | .keepsOpen => (.waiting, client)
  | .closes => atEof
  | .fails error => (.failed (.io error), client)

/-- `write_all`, for a client that becomes writable. -/
def writeAll (client : Client) (data : Bytes) : Client :=
  if data = [] then client
  else writeAll (client.write data).2 (client.write data).1
termination_by (client.acceptances.length, data.length)
decreasing_by
  rename_i nonempty
  cases limits : client.acceptances with
  | nil =>
    simp only [Client.write, limits, List.length_nil]
    exact .right _ (List.length_pos_iff.mpr nonempty)
  | cons =>
    simp only [Client.write, limits]
    exact .left _ _ (Nat.lt_succ_self _)

/-- `send_bad_gateway`. -/
def sendBadGateway (client : Client) (version : Version) : Client :=
  client.answer (.final ⟨version, 502, []⟩ true)

/-! ## Chunked bodies -/

def h3BufferedBodyLimit : Nat := 2 * 1024 * 1024

def crlf : Bytes := [13, 10]

/-- `char::to_digit(16)`. -/
def hexDigit (char : Char) : Option Nat :=
  if '0' ≤ char ∧ char ≤ '9' then some (char.toNat - 48)
  else if 'a' ≤ char ∧ char ≤ 'f' then some (char.toNat - 87)
  else if 'A' ≤ char ∧ char ≤ 'F' then some (char.toNat - 55)
  else none

/-- The loop of `usize::from_str_radix(_, 16)`; the error is a text. -/
def parseHexDigits (value : Nat) : List Char → Except String Nat
  | [] => .ok value
  | char :: rest =>
    match hexDigit char with
    | none => .error "invalid digit found in string"
    | some digit =>
      if value * 16 + digit < 2 ^ 64 then parseHexDigits (value * 16 + digit) rest
      else .error "number too large to fit in target type"

/-- `usize::from_str_radix(_, 16)`, which takes a plus sign as well. -/
def parseHex : List Char → Except String Nat
  | [] => .error "cannot parse integer from empty string"
  | ['+'] => .error "invalid digit found in string"
  | '+' :: digits => parseHexDigits 0 digits
  | digits => parseHexDigits 0 digits

/-- The size in a chunk size line. The text of an error in the encoding leaves out where
it is. -/
def chunkSize (line : Bytes) : Except IoError Nat :=
  match line.fromUtf8 with
  | none => .error ⟨.invalidData, "invalid utf-8 sequence"⟩
  | some text =>
    match parseHex (trim (text.toList.takeWhile (· ≠ ';'))) with
    | .error description => .error ⟨.invalidData, description⟩
    | .ok size => .ok size

/-- What becomes of the decoded data: it is buffered in order to learn its length, or
streamed once there is too much of it. The response is sent in between. -/
inductive Delivery where
  | buffering (resp : ResponseHeaders) (bufferedBody : Bytes)
  | streaming
  deriving DecidableEq

/-- The state of the loop over the chunks. -/
structure Dechunker where
  buffer : Bytes
  reads : List Bytes
  delivery : Delivery
  client : Client
  deriving DecidableEq

variable {ending : Ending} {self next : Dechunker}

namespace Dechunker

/-- Pass the data of a chunk on. -/
def deliver (self : Dechunker) (data : Bytes) : Dechunker :=
  match self.delivery with
  | .buffering resp bufferedBody =>
    if h3BufferedBodyLimit < (bufferedBody ++ data).length then
      { self with
        delivery := .streaming
        client := writeAll (self.client.answer (.final resp false))
          (bufferedBody ++ data) }
    else { self with delivery := .buffering resp (bufferedBody ++ data) }
  | .streaming => { self with client := writeAll self.client data }

/-- The client, when the end of the body is passed on. -/
def close (self : Dechunker) : Client :=
  match self.delivery with
  | .buffering resp bufferedBody =>
    let headers := insertHeader "content-length"
      (.ofString (toString bufferedBody.length)) resp.headers
    (writeAll (self.client.answer (.final { resp with headers } false)) bufferedBody).eof
  | .streaming => self.client.eof

/-- Behind the size line of the last chunk. -/
def finish (ending : Ending) (self : Dechunker) : Outcome × Client :=
  if crlf <+: self.buffer then (.finished, self.close)
  else
    match refill (fun buffer => (windowPosition (crlf ++ crlf) buffer).map fun _ => ())
        self.buffer self.reads with
    | .ready _ _ _ => (.finished, self.close)
    | .starved _ => ending.read self.client (.finished, self.close)

/-- A chunk that is not the last one, behind its size line. -/
def readChunk (ending : Ending) (self : Dechunker) (size : Nat) : Dechunker ⊕ (Outcome × Client) :=
  match usizeAdd size 2 with
  | .error fault => .inr (.failed (.panic fault), self.client)
  | .ok needed =>
    match refill (fun buffer => if needed ≤ buffer.length then some () else none)
        self.buffer self.reads with
    | .starved _ =>
      .inr (ending.read self.client (.failed (.io (.ofKind .unexpectedEof)), self.client))
    | .ready _ buffer reads =>
      .inl (deliver { self with buffer := buffer.drop needed, reads } (buffer.take size))

/-- A chunk behind its size line. -/
def onSizeLine (ending : Ending) (self : Dechunker) (line : Bytes) :
    Dechunker ⊕ (Outcome × Client) :=
  match chunkSize line with
  | .error error => .inr (.failed (.io error), self.client)
  | .ok size => if size = 0 then .inr (self.finish ending) else self.readChunk ending size

/-- One round of the loop over the chunks: the next state, or the end. -/
def round (ending : Ending) (self : Dechunker) : Dechunker ⊕ (Outcome × Client) :=
  match refill (fun buffer => (windowPosition crlf buffer).map (· + 2)) self.buffer self.reads with
  | .starved _ =>
    .inr (ending.read self.client (.failed (.io (.ofKind .unexpectedEof)), self.client))
  | .ready lineEnd buffer reads =>
    onSizeLine ending { self with buffer := buffer.drop lineEnd, reads } (buffer.take (lineEnd - 2))

lemma deliver_buffer (self : Dechunker) (data : Bytes) :
    (self.deliver data).buffer = self.buffer := by
  rw [deliver]
  split
  · split
    · rfl
    · rfl
  · rfl

lemma deliver_reads (self : Dechunker) (data : Bytes) : (self.deliver data).reads = self.reads := by
  rw [deliver]
  split
  · split
    · rfl
    · rfl
  · rfl

/-- The bytes that are not decoded yet. -/
def encoded (self : Dechunker) : Bytes := self.buffer ++ self.reads.flatten

lemma encoded_length_le {size : Nat} (steps : self.readChunk ending size = .inl next) :
    next.encoded.length ≤ self.encoded.length := by
  revert steps
  fun_cases self.readChunk ending size with
  | case1 | case2 => exact nofun
  | case3 _ _ _ _ _ filled =>
    rintro ⟨⟩
    have lengths := congrArg List.length (refill_ready filled).2
    rw [encoded, encoded, deliver_buffer, deliver_reads]
    simp only [List.length_append, List.length_drop] at lengths ⊢
    omega

/-- A round takes a size line off the bytes, at least. -/
lemma encoded_length_lt (steps : self.round ending = .inl next) :
    next.encoded.length < self.encoded.length := by
  rw [round] at steps
  split at steps
  · cases steps
  · rename_i lineEnd buffer reads filled
    obtain ⟨found, kept⟩ := refill_ready filled
    obtain ⟨pos, window, rfl⟩ := Option.map_eq_some_iff.mp found
    have inside : pos + 2 ≤ buffer.length := le_of_windowPosition window
    rw [onSizeLine] at steps
    split at steps
    · cases steps
    · split at steps
      · cases steps
      · have le := encoded_length_le steps
        have lengths := congrArg List.length kept
        simp only [encoded, List.length_append, List.length_drop] at le lengths ⊢
        omega

end Dechunker

/-- The loop over the chunks. -/
def dechunk (ending : Ending) (self : Dechunker) : Outcome × Client :=
  match _ : self.round ending with
  | .inl next => dechunk ending next
  | .inr result => result
termination_by self.encoded.length
decreasing_by exact Dechunker.encoded_length_lt ‹_›

lemma dechunk_of_inl (steps : self.round ending = .inl next) :
    dechunk ending self = dechunk ending next := by
  rw [dechunk]
  split
  · rename_i steps'
    rw [steps] at steps'
    cases steps'
    rfl
  · rename_i steps'
    rw [steps] at steps'
    cases steps'

lemma dechunk_of_inr {result : Outcome × Client} (stops : self.round ending = .inr result) :
    dechunk ending self = result := by
  rw [dechunk]
  split
  · rename_i steps
    rw [stops] at steps
    cases steps
  · rename_i stops'
    rw [stops] at stops'
    cases stops'
    rfl

/-! ## Bodies of a known length -/

/-- The loop that buffers the rest of a body; there is no result when the reads are used
up before. -/
def bufferBody (remaining : Nat) (body : Bytes) (reads : List Bytes) : Option Bytes :=
  if remaining = 0 then some body
  else
    match reads with
    | [] => none
    | chunk :: reads =>
      let toTake := min chunk.length remaining
      bufferBody (remaining - toTake) (body ++ chunk.take toTake) reads

/-- The loop that passes the rest of a body on, and whether it was complete. -/
def streamBody (remaining : Nat) (client : Client) (reads : List Bytes) : Bool × Client :=
  if remaining = 0 then (true, client)
  else
    match reads with
    | [] => (false, client)
    | chunk :: reads =>
      let toSend := min chunk.length remaining
      streamBody (remaining - toSend) (writeAll client (chunk.take toSend)) reads

/-- The body of an HTTP/3 response that is short enough to be buffered. -/
def sendBuffered (ending : Ending) (resp : ResponseHeaders) (total : Nat) (chunk : Bytes)
    (reads : List Bytes) (client : Client) : Outcome × Client :=
  match bufferBody (total - chunk.length) chunk reads with
  | some body => (.finished, (writeAll (client.answer (.final resp false)) body).eof)
  | none => ending.read client (.failed (.io (.ofKind .unexpectedEof)), client)

/-- A body that is neither decoded nor buffered. -/
def sendStreamed (ending : Ending) (resp : ResponseHeaders) (contentLength : Option Nat)
    (chunk : Bytes) (reads : List Bytes) (client : Client) : Outcome × Client :=
  let client := writeAll (client.answer (.final resp false)) chunk
  match contentLength.filter (chunk.length ≤ ·) with
  | none => (.exchanging, client)
  | some total =>
    match streamBody (total - chunk.length) client reads with
    | (true, client) => (.finished, client.eof)
    | (false, client) => ending.read client (.finished, client.eof)

/-! ## Responses -/

/-- `handle_stream`, once the head of the response is there. -/
def handleResponse (protocol : Protocol) (version : Version) (ending : Ending)
    (resp : Response) (chunk : Bytes) (reads : List Bytes) (client : Client) : Outcome × Client :=
  let headers := if protocol = .http1 then resp.headers
    else resp.headers.filter (·.lowerName ∉ hopByHop)
  let head : ResponseHeaders := ⟨version, resp.code, headers⟩
  match (contentLength headers).filter (protocol = .http3 ∧ · ≤ h3BufferedBodyLimit) with
  | some total => sendBuffered ending head total chunk reads client
  | none =>
    if isChunked resp.headers ∧ protocol ≠ .http1 then
      dechunk ending ⟨chunk, reads, .buffering head [], client⟩
    else sendStreamed ending head (contentLength headers) chunk reads client

/-- The head of the response, or an error, as soon as the buffer holds it. -/
def probeHead (crates : Crates) (buffer : Bytes) : Option (Except IoError (Response × Bytes)) :=
  match Http1Codec.decodeResponse crates buffer Http1Codec.maxHeadersNum
      Http1Codec.maxRawHeadersSize with
  | .ok none => none
  | .ok (some decoded) => some (.ok decoded)
  | .error error => some (.error error)

/-- `handle_stream`, once the request was sent: `version` is the one of the request. -/
def handleStream (crates : Crates) (protocol : Protocol) (version : Version) (origin : Origin)
    (client : Client) : Outcome × Client :=
  let badGateway := origin.ending.read client (.finished, sendBadGateway client version)
  match origin.reads with
  | [] => badGateway
  | buffer :: reads =>
    match refill (probeHead crates) buffer reads with
    | .starved _ => badGateway
    | .ready (.error error) _ _ => (.failed (.io error), client)
    | .ready (.ok (resp, tail)) _ reads =>
      handleResponse protocol version origin.ending resp tail reads client

end ReverseProxy

end TrustTunnel.Endpoint
