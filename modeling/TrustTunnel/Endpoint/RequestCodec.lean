import TrustTunnel.Endpoint.ReverseProxy
import TrustTunnel.Table.MultiMap

/-!
# Decoding and encoding request heads of HTTP/1

The head of a request is parsed by `httparse` and put into the types of `http`; the first
`Host` field becomes the authority of the URI unless the request target has one. A request
is encoded with a `Host` line for the authority and a line for each of its headers. The
parsers of the two crates are parameters, with the laws that they follow.
-/

namespace TrustTunnel.Endpoint

open Wire Http Rfc9112

/-! ## Names and values of `http` -/

deriving instance DecidableEq for HeaderName, HeaderValue

lemma toLower_toLower : ∀ byte : UInt8, toLower (toLower byte) = toLower byte :=
  forall_byte (by decide +kernel)

lemma isToken_map_toLower (text : Bytes) : isToken (text.map toLower) = isToken text := by
  have same : isTchar ∘ toLower = isTchar :=  funext (forall_byte (by decide +kernel))
  simp [isToken, List.all_map, same]

/-- `HeaderName::from_bytes`. -/
def HeaderName.fromBytes (text : Bytes) : Except String HeaderName :=
  if valid : Rfc9112.isToken text = true ∧ text.length ≤ 65535 then
    .ok {
      text := text.map Rfc9112.toLower
      token := (isToken_map_toLower text).trans valid.1
      lowercase := by
        rw [List.map_map]
        exact List.map_congr_left fun byte _ => toLower_toLower byte }
  else .error "invalid HTTP header name"

/-- `HeaderValue::from_bytes`. -/
def HeaderValue.fromBytes (bytes : Bytes) : Except String HeaderValue :=
  if visible : bytes.all (fun byte => byte == 9 || (32 ≤ byte && byte != 127)) = true then
    .ok ⟨bytes, visible⟩
  else .error "failed to parse header value"

/-- `HeaderMap`. -/
abbrev HeaderMap := Table.MultiMap HeaderName HeaderValue

/-- The headers of a map, as its iterator yields them. -/
def HeaderMap.headers (map : HeaderMap) : List Header :=
  map.toList.map fun (name, value) => ⟨name, value⟩

namespace Http1Codec

/-! ## The parsers -/

/-- `httparse::Header`: the name as it is written, the value without blanks around it. -/
structure ParsedHeader where
  name : Bytes
  value : Bytes
  token : Rfc9112.isToken name = true
  visible : value.all Rfc9112.isFieldByte = true
  trimmed : Rfc9112.trimOws value = value

/-- The minor version of HTTP/1. -/
inductive MinorVersion where
  | zero
  | one
  deriving DecidableEq

/-- `httparse::Request`, when it is complete. -/
structure ParsedRequest where
  method : Method
  path : Bytes
  version : MinorVersion
  headers : List ParsedHeader

def ParsedHeader.field (header : ParsedHeader) : Rfc9112.Field := ⟨header.name, header.value⟩

def MinorVersion.digit : MinorVersion → UInt8
  | zero => 48
  | one => 49

/-- The request line. -/
def ParsedRequest.line (req : ParsedRequest) : Bytes :=
  req.method.text ++ 32 :: (req.path ++ 32 :: [72, 84, 84, 80, 47, 49, 46, req.version.digit])

/-- The request as it is usually written. -/
def ParsedRequest.render (req : ParsedRequest) : Bytes :=
  req.line ++ 13 :: 10 ::
    ((req.headers.map ParsedHeader.field).flatMap Rfc9112.renderField ++ [13, 10])

lemma unbroken_line {req : ParsedRequest} (path : 13 ∉ req.path) : 13 ∉ req.line := by
  have method : 13 ∉ req.method.text := notMem_of_isToken req.method.token rfl
  have digit : 13 ≠ req.version.digit := by cases req.version <;> decide
  simp [ParsedRequest.line, method, path, digit]

lemma unbroken_value (header : ParsedHeader) : 13 ∉ header.value := by
  intro mem
  exact absurd (List.all_eq_true.mp header.visible 13 mem) (by decide)

/-- The request parser of the crate `httparse`, with a number of header slots. It returns
`none` on partial data, and the number of bytes parsed otherwise. -/
structure Httparse where
  parseRequest : Nat → Bytes → Except ParseError (Option (Nat × ParsedRequest))
  /-- The bytes of a path. -/
  isUriByte : UInt8 → Bool
  isUriByte_slash : isUriByte 47 = true
  path_bytes : ∀ {slots : Nat} {bytes : Bytes} {pos : Nat} {req : ParsedRequest},
    parseRequest slots bytes = .ok (some (pos, req)) → ∀ byte ∈ req.path, isUriByte byte = true
  headers_length : ∀ {slots : Nat} {bytes : Bytes} {pos : Nat} {req : ParsedRequest},
    parseRequest slots bytes = .ok (some (pos, req)) → req.headers.length ≤ slots
  /-- A request as it is usually written is read back, if there are slots for its headers. -/
  parse_render : ∀ {req : ParsedRequest}, req.path ≠ [] →
    (∀ byte ∈ req.path, isUriByte byte = true) → ∀ (slots : Nat) (rest : Bytes),
      parseRequest slots (req.render ++ rest) =
        if req.headers.length ≤ slots then .ok (some (req.render.length, req))
        else .error .tooManyHeaders

abbrev PathAndQuery := { part : UriPart // part.text ≠ [] }

/-- The parsers of the crate `http` for a URI and its parts. -/
structure HttpUri where
  fromStr : Bytes → Except String Uri
  authorityFromBytes : Bytes → Except String UriPart
  pathAndQueryFromStr : Bytes → Except String PathAndQuery
  /-- A text without an authority is a path with a query, of which a fragment may have been
  dropped, and what is left is read in the same way. -/
  relative : ∀ {text : Bytes} {uri : Uri}, fromStr text = .ok uri → uri.authority = none →
    ∃ path, uri.pathAndQuery = some path ∧ pathAndQueryFromStr text = .ok path ∧
      fromStr path.val.text = .ok uri
  /-- The path behind an authority begins with a slash, or there is only a query. -/
  absolute : ∀ {text : Bytes} {uri : Uri} {path : PathAndQuery}, fromStr text = .ok uri →
    uri.authority ≠ none → uri.pathAndQuery = some path →
      path.val.text.head? = some 63 ∨ fromStr path.val.text = .ok ⟨none, some path⟩
  /-- A query alone is no URI. -/
  query_alone : ∀ {text : Bytes} {uri : Uri}, text.head? = some 63 → fromStr text ≠ .ok uri
  authority_text : ∀ {bytes : Bytes} {authority : UriPart},
    authorityFromBytes bytes = .ok authority →
      authority.text = bytes ∧ bytes.all Rfc9112.isVisible = true
  authority_again : ∀ {text : Bytes} {uri : Uri} {authority : UriPart}, fromStr text = .ok uri →
    uri.authority = some authority → authorityFromBytes authority.text = .ok authority
  path_bytes : ∀ {text : Bytes} {uri : Uri} {path : PathAndQuery}, fromStr text = .ok uri →
    uri.pathAndQuery = some path → ∀ byte ∈ path.val.text, byte ∈ text ∨ byte = 47

structure RequestCrates where
  httparse : Httparse
  uri : HttpUri
  /-- `{:?}` of a text. -/
  debugText : Bytes → String

/-! ## Encoding -/

def versionMinorDigit : Version → Except Fault UInt8
  | .http10 => .ok 0
  | .http11 => .ok 1
  -- `unreachable!`
  | _ => .error .assertion

def encodeHeaders (buffer : Bytes) (headers : List Header) : Bytes :=
  headers.foldl (fun buffer header =>
    buffer ++ header.name.text ++ [58, 32] ++ header.value.bytes ++ [13, 10]) buffer ++ [13, 10]

def encodeRequest (req : RequestHeaders) : Except Fault Bytes := do
  let digit ← versionMinorDigit req.version
  let encoded := req.method.text ++ [32] ++
    (match req.uri.pathAndQuery with
      | some path => path.val.text
      | none => [47]) ++
    Bytes.ofString " HTTP/1." ++ [48 + digit] ++ [13, 10]
  let encoded :=
    match req.uri.authority with
    | some host => encoded ++ Bytes.ofString "Host: " ++ host.text ++ [13, 10]
    | none => encoded
  return encodeHeaders encoded req.headers

/-! ## Decoding -/

inductive DecodeStatus (α : Type) where
  | incomplete (buffer : Bytes)
  | complete (headers : α) (rest : Bytes)

def httparseToHttpVersion : MinorVersion → Version
  | .zero => .http10
  | .one => .http11

/-- `utils::hex_dump`. -/
def hexDump (bytes : Bytes) : String :=
  String.join (bytes.map fun byte =>
    let digits := Nat.toDigits 16 byte.toNat
    .ofList (if digits.length < 2 then '0' :: digits else digits))

/-- The name is `Host`, in any spelling. -/
def ParsedHeader.isHost (header : ParsedHeader) : Bool :=
  header.name.map Rfc9112.toLower = Rfc9112.hostName

/-- The builder of a request: the headers so far, or its first error. -/
abbrev RequestBuilder := Except String HeaderMap

/-- `request_builder.header`. -/
def RequestBuilder.header (builder : RequestBuilder) (header : ParsedHeader) : RequestBuilder := do
  let map ← builder
  let name ← HeaderName.fromBytes header.name
  let value ← HeaderValue.fromBytes header.value
  return map.append name value

section Decode

variable (crates : RequestCrates)

/-- The builder of a URI with the scheme `https`. -/
def buildUri (authority path : Bytes) : Except String Uri := do
  let authority ← crates.uri.authorityFromBytes authority
  let path ← crates.uri.pathAndQueryFromStr path
  return ⟨some authority, some path⟩

/-- One round of the loop over the headers. -/
def decodeHeader (path : Bytes) (state : Uri × RequestBuilder) (header : ParsedHeader) :
    Except IoError (Uri × RequestBuilder) :=
  if header.isHost && state.1.authority.isNone then
    match buildUri crates header.value path with
    | .ok uri => .ok (uri, state.2)
    | .error error => .error (.other ("Unexpected URI: error=" ++ error ++ ", authority=" ++
        hexDump header.value ++ ", path=Some(" ++ crates.debugText path ++ ")"))
  else .ok (state.1, state.2.header header)

def decodeRequest (buffer : Bytes) (headersNumCap rawBufferCap : Nat) :
    Except IoError (DecodeStatus RequestHeaders) :=
  match crates.httparse.parseRequest headersNumCap buffer with
  | .ok (some (pos, req)) =>
    match crates.uri.fromStr req.path with
    | .error error => .error (.other ("Invalid path: path=Some(" ++
        crates.debugText req.path ++ "), error=" ++ error))
    | .ok uri =>
      match req.headers.foldlM (decodeHeader crates req.path) (uri, .ok .empty) with
      | .error error => .error error
      | .ok (_, .error error) => .error (.other ("Invalid request: " ++ error))
      | .ok (uri, .ok map) =>
        .ok (.complete ⟨req.method, uri, httparseToHttpVersion req.version, map.headers⟩
          (buffer.drop pos))
  | .ok none =>
    if buffer.length < rawBufferCap then .ok (.incomplete buffer)
    else .error (.other "Too long HTTP request headers")
  | .error error => .error (.other error.description)

end Decode

end Http1Codec

end TrustTunnel.Endpoint
