import TrustTunnel.Endpoint.StrictRequests

/-!
# Decoding a request that was encoded

A request that was decoded is encoded with one line for its authority and one for each of
its headers, the names in lower case and the headers of a name next to each other. Decoding
this head gives the same request, if there are slots for the headers and the path does not
consist of a query only. A `Host` field is among the headers if there was another one
before it or if the request target had an authority, so that the head has two `Host` lines.
-/

namespace TrustTunnel.Endpoint.Http1Codec

open Wire Http List ParsedHeader Rfc9112

/-! ## Headers -/

/-- What `http` makes of a header. -/
def ParsedHeader.read (header : ParsedHeader) : HeaderName × HeaderValue where
  fst := {
    text := header.name.map Rfc9112.toLower
    token := (isToken_map_toLower header.name).trans header.token
    lowercase := by
      rw [List.map_map]
      exact List.map_congr_left fun byte _ => toLower_toLower byte }
  snd := {
    bytes := header.value
    visible := by
      have visible := header.visible
      simpa [Rfc9112.isFieldByte] using visible }

/-- The name is not too long for `http`. -/
def ParsedHeader.Short (header : ParsedHeader) : Prop := header.name.length ≤ 65535

variable {header : ParsedHeader}

lemma fromBytes_name (short : header.Short) :
    HeaderName.fromBytes header.name = .ok header.read.1 :=
  dif_pos ⟨header.token, short⟩

lemma fromBytes_value (header : ParsedHeader) :
    HeaderValue.fromBytes header.value = .ok header.read.2 :=
  dif_pos header.read.2.visible

lemma header_of_short (short : header.Short) (map : HeaderMap) :
    RequestBuilder.header (.ok map) header = .ok (map.append header.read.1 header.read.2) := by
  simp [RequestBuilder.header, fromBytes_name short, fromBytes_value, ok_bind, pure, Except.pure]

variable {map : HeaderMap} {headers : List ParsedHeader} {builder : RequestBuilder}

lemma header_eq_ok (added : builder.header header = .ok map) :
    header.Short ∧ ∃ before, builder = .ok before := by
  rw [RequestBuilder.header, bind_eq_ok] at added
  obtain ⟨before, found, added⟩ := added
  rw [bind_eq_ok] at added
  obtain ⟨name, named, -⟩ := added
  refine ⟨?_, before, found⟩
  rw [HeaderName.fromBytes] at named
  split at named
  case isTrue valid => exact valid.2
  case isFalse invalid => cases named

lemma foldl_header_of_short (short : ∀ header ∈ headers, header.Short) (map : HeaderMap) :
    headers.foldl RequestBuilder.header (.ok map) = .ok (map.appendAll (headers.map read)) := by
  induction headers generalizing map with
  | nil => rfl
  | cons _ _ ih =>
    rw [forall_mem_cons] at short
    rw [foldl_cons, header_of_short short.1, ih short.2]
    rfl

lemma foldl_header_eq_ok (added : headers.foldl RequestBuilder.header builder = .ok map) :
    (∀ header ∈ headers, header.Short) ∧ ∃ before, builder = .ok before := by
  induction headers generalizing builder with
  | nil => exact ⟨by simp, map, added⟩
  | cons _ _ ih =>
    obtain ⟨short, between, first⟩ := ih added
    obtain ⟨shortFirst, before⟩ := header_eq_ok first
    exact ⟨forall_mem_cons.mpr ⟨shortFirst, short⟩, before⟩

/-! ## The loop over the headers -/

section Loop

variable {crates : RequestCrates} {path : Bytes} {uri : Uri} {builder : RequestBuilder}
  {headers : List ParsedHeader} {built : Uri}

lemma foldlM_of_kept (kept : ∀ header ∈ headers, (header.isHost && uri.authority.isNone) = false) :
    headers.foldlM (decodeHeader crates path) (uri, builder) =
      .ok (uri, headers.foldl RequestBuilder.header builder) := by
  induction headers generalizing builder with
  | nil => rfl
  | cons _ _ ih =>
    rw [forall_mem_cons] at kept
    rw [foldlM_cons, decodeHeader, kept.1]
    exact ih kept.2

lemma foldlM_of_authority {authority : UriPart} (has : uri.authority = some authority) :
    headers.foldlM (decodeHeader crates path) (uri, builder) =
      .ok (uri, headers.foldl RequestBuilder.header builder) :=
  foldlM_of_kept (by simp [has])

lemma foldlM_of_no_host (none_host : ∀ header ∈ headers, header.isHost = false) :
    headers.foldlM (decodeHeader crates path) (uri, builder) =
      .ok (uri, headers.foldl RequestBuilder.header builder) :=
  foldlM_of_kept fun header mem => by rw [none_host header mem, Bool.false_and]

lemma decodeHeader_of_host (host : header.isHost = true) (relative : uri.authority = none)
    (builds : buildUri crates header.value path = .ok built) :
    decodeHeader crates path (uri, builder) header = .ok (built, builder) := by
  simp [decodeHeader, host, relative, builds]

lemma buildUri_eq_ok {authority : Bytes} (builds : buildUri crates authority path = .ok built) :
    ∃ part query, crates.uri.authorityFromBytes authority = .ok part ∧
      crates.uri.pathAndQueryFromStr path = .ok query ∧ built = ⟨some part, some query⟩ := by
  rw [buildUri, bind_eq_ok] at builds
  obtain ⟨part, first, builds⟩ := builds
  rw [bind_eq_ok] at builds
  obtain ⟨query, second, builds⟩ := builds
  cases builds
  exact ⟨part, query, first, second, rfl⟩

/-- The first `Host` field is the only one that becomes the authority. -/
lemma foldlM_of_host {front back : List ParsedHeader} {host : ParsedHeader}
    {result : Uri × RequestBuilder} (none_before : ∀ header ∈ front, header.isHost = false)
    (isHost : host.isHost = true) (relative : uri.authority = none)
    (decodes : (front ++ host :: back).foldlM (decodeHeader crates path) (uri, builder) =
      .ok result) :
    buildUri crates host.value path = .ok result.1 ∧
      result.2 = (front ++ back).foldl RequestBuilder.header builder := by
  rw [foldlM_append, foldlM_of_no_host none_before] at decodes
  have decodes : (host :: back).foldlM (decodeHeader crates path)
      (uri, front.foldl RequestBuilder.header builder) = .ok result := decodes
  rw [foldlM_cons, bind_eq_ok] at decodes
  obtain ⟨between, first, decodes⟩ := decodes
  cases builds : buildUri crates host.value path with
  | error => simp [decodeHeader, isHost, relative, builds] at first
  | ok =>
    rw [decodeHeader_of_host isHost relative builds] at first
    cases first
    obtain ⟨part, query, -, -, rfl⟩ := buildUri_eq_ok builds
    rw [foldlM_of_authority rfl] at decodes
    cases decodes
    exact ⟨rfl, foldl_append.symm⟩

end Loop

/-! ## What is decoded -/

section Decoded

variable {crates : RequestCrates} {buffer tail : Bytes} {slots cap pos : Nat}
  {head : ParsedRequest} {uri : Uri} {req : RequestHeaders}

/-- The number of `Host` fields. -/
def hostCount (headers : List ParsedHeader) : Nat := headers.countP ParsedHeader.isHost

/-- A decoded request, and the header fields of the head that it has kept. -/
structure Decoded (crates : RequestCrates) (head : ParsedRequest) (kept : List ParsedHeader)
    (req : RequestHeaders) : Prop where
  short : ∀ header ∈ kept, header.Short
  method : req.method = head.method
  version : req.version = httparseToHttpVersion head.version
  headers : req.headers = HeaderMap.headers
    (Table.MultiMap.empty.appendAll (kept.map ParsedHeader.read))
  /-- An authority is one that `http` reads in a `Host` field. -/
  authority : ∀ part ∈ req.uri.authority, crates.uri.authorityFromBytes part.text = .ok part
  /-- Without an authority, there is no `Host` field. -/
  no_host : req.uri.authority = none → hostCount kept = 0

lemma decoded_of_loop {final : Uri} {kept : List ParsedHeader}
    (added : kept.foldl RequestBuilder.header (.ok .empty) = .ok map)
    (authority : ∀ part ∈ final.authority, crates.uri.authorityFromBytes part.text = .ok part)
    (no_host : final.authority = none → hostCount kept = 0) :
    Decoded crates head kept
      ⟨head.method, final, httparseToHttpVersion head.version, map.headers⟩ := by
  have short := (foldl_header_eq_ok added).1
  rw [foldl_header_of_short short] at added
  cases added
  exact ⟨short, rfl, rfl, rfl, authority, no_host⟩

variable (parsed : crates.httparse.parseRequest slots buffer = .ok (some (pos, head)))
  (target : crates.uri.fromStr head.path = .ok uri)
  (decodes : decodeRequest crates buffer slots cap = .ok (.complete req tail))

include parsed target decodes

lemma decodeRequest_eq_complete :
    ∃ final map, head.headers.foldlM (decodeHeader crates head.path) (uri, .ok .empty) =
        .ok (final, .ok map) ∧
      req = ⟨head.method, final, httparseToHttpVersion head.version, map.headers⟩ := by
  rw [decodeRequest, parsed] at decodes
  dsimp only at decodes
  rw [target] at decodes
  dsimp only at decodes
  split at decodes
  · cases decodes
  · cases decodes
  case h_3 final map loop =>
    cases decodes
    exact ⟨final, map, loop, rfl⟩

/-- With an authority in the target, all headers are kept. -/
lemma decoded_of_absolute {part : UriPart} (absolute : uri.authority = some part) :
    Decoded crates head head.headers req ∧ req.uri = uri := by
  obtain ⟨final, map, loop, rfl⟩ := decodeRequest_eq_complete parsed target decodes
  rw [foldlM_of_authority absolute] at loop
  obtain ⟨rfl, added⟩ := Prod.mk.inj (Except.ok.inj loop)
  refine ⟨decoded_of_loop added ?_ ?_, rfl⟩
  · intro other has
    exact crates.uri.authority_again target has
  · intro relative
    rw [absolute] at relative
    cases relative

/-- Without an authority in the target, the first `Host` field is dropped. -/
lemma decoded_of_relative (relative : uri.authority = none) :
    ∃ kept, Decoded crates head kept req ∧ req.uri.pathAndQuery = uri.pathAndQuery ∧
      hostCount kept + req.uri.authority.toList.length = hostCount head.headers ∧
      kept.length + req.uri.authority.toList.length = head.headers.length := by
  obtain ⟨final, map, loop, rfl⟩ := decodeRequest_eq_complete parsed target decodes
  by_cases hosts : ∀ header ∈ head.headers, header.isHost = false
  · rw [foldlM_of_no_host hosts] at loop
    obtain ⟨rfl, added⟩ := Prod.mk.inj (Except.ok.inj loop)
    have count : hostCount head.headers = 0 := by
      rw [hostCount, countP_eq_zero]
      intro header mem
      simp [hosts header mem]
    refine ⟨head.headers, decoded_of_loop added ?_ fun _ => count, rfl, ?_, ?_⟩
    · simp [relative]
    · simp [relative]
    · simp [relative]
  · have found : (head.headers.find? isHost).isSome := by
      rw [find?_isSome]
      push Not at hosts
      obtain ⟨header, mem, host⟩ := hosts
      exact ⟨header, mem, by simpa using host⟩
    obtain ⟨host, found⟩ := Option.isSome_iff_exists.mp found
    rw [find?_eq_some_iff_append] at found
    obtain ⟨isHost, front, back, split, none_before⟩ := found
    have none_before : ∀ header ∈ front, header.isHost = false := by
      intro header mem
      simpa using none_before header mem
    rw [split] at loop
    obtain ⟨builds, added⟩ := foldlM_of_host none_before isHost relative loop
    obtain ⟨part, query, named, path, rfl⟩ := buildUri_eq_ok builds
    obtain ⟨same, is_path, path', -⟩ := crates.uri.relative target relative
    rw [path] at path'
    cases path'
    refine ⟨front ++ back, decoded_of_loop added.symm ?_ nofun, is_path.symm, ?_, ?_⟩
    · rintro other ⟨⟩
      obtain ⟨text, -⟩ := crates.uri.authority_text named
      rw [text]
      exact named
    · rw [split]
      simp [hostCount, isHost]
      omega
    · rw [split]
      simp
      omega

end Decoded

/-! ## What is encoded -/

/-- The number of `Host` lines in a head. -/
def hostLines (msg : Bytes) : Option Nat :=
  match Rfc9112.takeLine msg with
  | none => none
  | some (_, rest) =>
    match Rfc9112.parseFields rest.length rest with
    | .done fields _ => some (Rfc9112.values Rfc9112.hostName fields).length
    | .incomplete => none
    | .invalid => none

lemma isFieldByte_of_isVisible : ∀ byte : UInt8, isVisible byte = true →
    isFieldByte byte = true ∧ byte ≠ 32 ∧ byte ≠ 9 :=
  forall_byte (by decide +kernel)

lemma hostLines_render {req : ParsedRequest} (solid : ∀ byte ∈ req.path, 32 < byte) :
    hostLines req.render = some (hostCount req.headers) := by
  have path : 13 ∉ req.path := fun mem => absurd (solid 13 mem) (by decide)
  have wellFormed : ∀ field ∈ req.headers.map ParsedHeader.field,
      isToken field.name = true ∧ 13 ∉ field.value := by
    intro field mem
    obtain ⟨header, -, rfl⟩ := mem_map.mp mem
    exact ⟨header.token, unbroken_value header⟩
  rw [hostLines, ParsedRequest.render, takeLine_append _ (unbroken_line path)]
  simp only [parseFields_render [] wellFormed (length_lt_render _ [])]
  rw [values, length_map, ← countP_eq_length_filter, map_map, countP_map]
  rfl

lemma encodeHeaders_eq (buffer : Bytes) (headers : List Header) :
    encodeHeaders buffer headers = buffer ++ ((headers.map fun header =>
      (⟨header.name.text, header.value.bytes⟩ : Rfc9112.Field)).flatMap renderField ++
        [13, 10]) := by
  rw [encodeHeaders]
  induction headers generalizing buffer with
  | nil => rfl
  | cons _ _ ih =>
    rw [foldl_cons, ih]
    simp [renderField]

/-- The `Host` line of an authority. -/
def hostHeader (part : UriPart) (visible : part.text.all Rfc9112.isVisible = true) :
    ParsedHeader where
  name := [72, 111, 115, 116]
  value := part.text
  token := by decide
  visible := by
    rw [List.all_eq_true] at visible ⊢
    exact fun byte mem => (isFieldByte_of_isVisible byte (visible byte mem)).1
  trimmed := by
    rw [List.all_eq_true] at visible
    exact Rfc9112.trimOws_of_solid fun byte mem =>
      (isFieldByte_of_isVisible byte (visible byte mem)).2

lemma read_eq_iff {pair : HeaderName × HeaderValue} :
    header.read = pair ↔ header.name.map toLower = pair.1.text ∧ header.value = pair.2.bytes := by
  obtain ⟨⟨text, _, _⟩, ⟨bytes, _⟩⟩ := pair
  simp [ParsedHeader.read]

lemma exists_headers {pairs : List (HeaderName × HeaderValue)}
    (trimmed : ∀ pair ∈ pairs, trimOws pair.2.bytes = pair.2.bytes) :
    ∃ headers : List ParsedHeader, headers.map read = pairs ∧
      headers.map field = pairs.map fun pair => ⟨pair.1.text, pair.2.bytes⟩ := by
  induction pairs with
  | nil => exact ⟨[], rfl, rfl⟩
  | cons pair _ ih =>
    rw [forall_mem_cons] at trimmed
    obtain ⟨headers, read, fields⟩ := ih trimmed.2
    have visible : pair.2.bytes.all isFieldByte = true := by
      have visible := pair.2.visible
      simpa [isFieldByte] using visible
    let header : ParsedHeader := ⟨pair.1.text, pair.2.bytes, pair.1.token, visible, trimmed.1⟩
    refine ⟨header :: headers, ?_, ?_⟩
    · rw [map_cons, read, read_eq_iff.mpr ⟨pair.1.lowercase, rfl⟩]
    · rw [map_cons, fields]
      rfl

section Again

variable {crates : RequestCrates} {head : ParsedRequest} {kept : List ParsedHeader}
  {req : RequestHeaders} {path : PathAndQuery}

/-- The headers of a decoded request. -/
def keptMap (kept : List ParsedHeader) : HeaderMap :=
  Table.MultiMap.empty.appendAll (kept.map ParsedHeader.read)

lemma keptMap_perm (kept : List ParsedHeader) : (keptMap kept).toList.Perm (kept.map read) :=
  Table.MultiMap.toList_appendAll_perm .empty _

/-- The head that is encoded. -/
structure Reencoded (head : ParsedRequest) (kept : List ParsedHeader) (req : RequestHeaders)
    (path : PathAndQuery) (again : ParsedRequest) : Prop where
  method : again.method = head.method
  path : again.path = path.val.text
  version : again.version = head.version
  headers : ∃ hosts others, again.headers = hosts ++ others ∧
    others.map ParsedHeader.read = (keptMap kept).toList ∧
    (∀ host ∈ hosts, host.isHost = true) ∧
    hosts.map ParsedHeader.value = req.uri.authority.toList.map UriPart.text

lemma exists_hosts (decoded : Decoded crates head kept req) :
    ∃ hosts : List ParsedHeader, (∀ host ∈ hosts, host.isHost = true) ∧
      hosts.map field =
        req.uri.authority.toList.map fun part => ⟨[72, 111, 115, 116], part.text⟩ := by
  cases has : req.uri.authority with
  | none => exact ⟨[], by simp, rfl⟩
  | some part =>
    obtain ⟨-, visible⟩ := crates.uri.authority_text (decoded.authority part has)
    refine ⟨[hostHeader part visible], ?_, rfl⟩
    simp only [mem_singleton, forall_eq]
    rfl

lemma encodeRequest_eq {hosts others : List ParsedHeader}
    (version : req.version = httparseToHttpVersion head.version)
    (has : req.uri.pathAndQuery = some path)
    (hostFields : hosts.map field =
      req.uri.authority.toList.map fun part => ⟨[72, 111, 115, 116], part.text⟩)
    (otherFields : others.map field =
      req.headers.map fun header => ⟨header.name.text, header.value.bytes⟩) :
    encodeRequest req = .ok (ParsedRequest.render
      ⟨req.method, path.val.text, head.version, hosts ++ others⟩) := by
  have digit : versionMinorDigit req.version = .ok (head.version.digit - 48) := by
    rw [version]
    cases head.version <;> rfl
  have back : 48 + (head.version.digit - 48) = head.version.digit := by
    cases head.version <;> rfl
  have http : Bytes.ofString " HTTP/1." = [32, 72, 84, 84, 80, 47, 49, 46] := by decide
  have host : Bytes.ofString "Host: " = [72, 111, 115, 116, 58, 32] := by decide
  rw [encodeRequest, digit]
  simp only [ok_bind, pure, Except.pure, encodeHeaders_eq, ParsedRequest.render,
    ParsedRequest.line, map_append, hostFields, otherFields, has, back, http]
  cases req.uri.authority with
  | none => simp
  | some => simp [host, renderField]

lemma exists_reencoded (decoded : Decoded crates head kept req)
    (has : req.uri.pathAndQuery = some path) :
    ∃ again, Reencoded head kept req path again ∧ encodeRequest req = .ok again.render := by
  have trimmed : ∀ pair ∈ (keptMap kept).toList, trimOws pair.2.bytes = pair.2.bytes := by
    intro pair mem
    obtain ⟨header, -, rfl⟩ := mem_map.mp ((keptMap_perm kept).mem_iff.mp mem)
    exact header.trimmed
  obtain ⟨others, read, otherFields⟩ := exists_headers trimmed
  obtain ⟨hosts, areHosts, hostFields⟩ := exists_hosts decoded
  have values : hosts.map value = req.uri.authority.toList.map UriPart.text := by
    have values := congrArg (List.map Rfc9112.Field.value) hostFields
    simpa [Function.comp_def, field] using values
  refine ⟨⟨req.method, path.val.text, head.version, hosts ++ others⟩,
    ⟨decoded.method, rfl, rfl, hosts, others, rfl, read, areHosts, values⟩, ?_⟩
  refine encodeRequest_eq decoded.version has hostFields ?_
  rw [otherFields, decoded.headers, HeaderMap.headers, map_map]
  rfl

/-! ## Decoding again -/

namespace Reencoded

variable {again : ParsedRequest}

lemma hostCount_eq (headers : List ParsedHeader) : hostCount headers =
    (headers.map read).countP (fun pair => pair.1.text = hostName) := by
  rw [countP_map]
  rfl

/-- The other headers make the map of the request again. -/
lemma foldl_header {others : List ParsedHeader} (short : ∀ header ∈ kept, header.Short)
    (read : others.map ParsedHeader.read = (keptMap kept).toList) :
    others.foldl RequestBuilder.header (.ok .empty) = .ok (keptMap kept) := by
  have shortOthers : ∀ header ∈ others, header.Short := by
    intro header mem
    have found : header.read ∈ (keptMap kept).toList := by
      rw [← read]
      exact mem_map_of_mem mem
    obtain ⟨original, isKept, same⟩ := mem_map.mp ((keptMap_perm kept).mem_iff.mp found)
    have lengths : original.name.length = header.name.length := by
      have names := congrArg (fun pair : HeaderName × HeaderValue => pair.1.text.length) same
      simpa [ParsedHeader.read] using names
    have bound := short original isKept
    rw [ParsedHeader.Short] at bound ⊢
    omega
  rw [foldl_header_of_short shortOthers, read, Table.MultiMap.appendAll_toList]

variable (reencoded : Reencoded head kept req path again)

include reencoded

lemma length_headers : again.headers.length = kept.length + req.uri.authority.toList.length := by
  obtain ⟨hosts, others, split, read, -, values⟩ := reencoded.headers
  have length := congrArg List.length values
  have same := (keptMap_perm kept).length_eq
  rw [← read] at same
  simp only [length_map] at length same
  rw [split, length_append]
  omega

lemma hostCount_headers :
    hostCount again.headers = hostCount kept + req.uri.authority.toList.length := by
  obtain ⟨hosts, others, split, read, areHosts, values⟩ := reencoded.headers
  have length := congrArg List.length values
  simp only [length_map] at length
  have all : hostCount hosts = hosts.length := countP_eq_length.mpr areHosts
  have same : hostCount others = hostCount kept := by
    rw [hostCount_eq, hostCount_eq, read, (keptMap_perm kept).countP_eq]
  rw [split, hostCount, countP_append]
  change hostCount hosts + hostCount others = _
  omega

section

variable (decoded : Decoded crates head kept req) (has : req.uri.pathAndQuery = some path)
  (reads : crates.uri.fromStr path.val.text = .ok ⟨none, some path⟩)

include decoded has reads

/-- The loop over the headers that were encoded ends with the URI and the headers of the
request. -/
lemma loop :
    again.headers.foldlM (decodeHeader crates again.path) (⟨none, some path⟩, .ok .empty) =
      .ok (req.uri, .ok (keptMap kept)) := by
  obtain ⟨hosts, others, split, read, areHosts, values⟩ := reencoded.headers
  have added := foldl_header decoded.short read
  rw [split, reencoded.path]
  cases authority : req.uri.authority with
  | none =>
    rw [authority] at values
    obtain rfl : hosts = [] := by simpa using values
    have none_host : ∀ header ∈ others, header.isHost = false := by
      have count := reencoded.hostCount_headers
      rw [decoded.no_host authority, authority, split, hostCount, nil_append] at count
      intro header mem
      simpa using countP_eq_zero.mp count header mem
    have uri : req.uri = ⟨none, some path⟩ := by
      rw [← authority, ← has]
    rw [nil_append, foldlM_of_no_host none_host, added, uri]
  | some part =>
    rw [authority] at values
    obtain ⟨host, rfl, value⟩ : ∃ host, hosts = [host] ∧ host.value = part.text := by
      simpa [map_eq_cons_iff] using values
    obtain ⟨same, isPath, query, -⟩ := crates.uri.relative reads rfl
    cases isPath
    have builds : buildUri crates host.value path.val.text = .ok ⟨some part, some path⟩ := by
      rw [buildUri, value, decoded.authority part authority, query]
      rfl
    have uri : req.uri = ⟨some part, some path⟩ := by
      rw [← authority, ← has]
    rw [singleton_append, foldlM_cons,
      decodeHeader_of_host (areHosts host mem_cons_self) rfl builds, uri, ← added]
    exact foldlM_of_authority rfl

/-- The head that was encoded is decoded to the request, if there are slots for its headers. -/
lemma decodeRequest_eq (bytes : ∀ byte ∈ path.val.text, crates.httparse.isUriByte byte = true)
    (slots cap : Nat) :
    decodeRequest crates again.render slots cap =
      if again.headers.length ≤ slots then .ok (.complete req [])
      else .error (.other ParseError.tooManyHeaders.description) := by
  have nonempty : again.path ≠ [] := by
    rw [reencoded.path]
    exact path.property
  have parsed := crates.httparse.parse_render nonempty (by rwa [reencoded.path]) slots []
  rw [append_nil] at parsed
  rw [decodeRequest, parsed]
  by_cases enough : again.headers.length ≤ slots
  · have target : crates.uri.fromStr again.path = .ok ⟨none, some path⟩ := by
      rw [reencoded.path, reads]
    have same : req = ⟨again.method, req.uri, httparseToHttpVersion again.version,
        (keptMap kept).headers⟩ := by
      rw [reencoded.method, reencoded.version, ← decoded.method, ← decoded.version, keptMap,
        ← decoded.headers]
    rw [if_pos enough, if_pos enough]
    simp only [target, reencoded.loop decoded has reads, drop_length]
    rw [← same]
  · rw [if_neg enough, if_neg enough]

end

/-- The head that was encoded is refused if its path is a query. -/
lemma decodeRequest_ne_complete
    (bytes : ∀ byte ∈ path.val.text, crates.httparse.isUriByte byte = true)
    (query : path.val.text.head? = some 63) {slots cap : Nat} {other : RequestHeaders}
    {rest : Bytes} : decodeRequest crates again.render slots cap ≠ .ok (.complete other rest) := by
  have nonempty : again.path ≠ [] := by
    rw [reencoded.path]
    exact path.property
  have parsed := crates.httparse.parse_render nonempty (by rwa [reencoded.path]) slots []
  rw [append_nil] at parsed
  rw [decodeRequest, parsed]
  by_cases enough : again.headers.length ≤ slots
  · rw [if_pos enough]
    dsimp only
    cases target : crates.uri.fromStr again.path with
    | error => simp
    | ok =>
      rw [reencoded.path] at target
      exact absurd target (crates.uri.query_alone query)
  · rw [if_neg enough]
    simp

end Reencoded

end Again

/-! ## Requests that survive -/

/-- The request is encoded with one `Host` line, and decoding gives it again. -/
def Survives (crates : RequestCrates) (slots cap : Nat) (req : RequestHeaders) : Prop :=
  ∃ encoded, encodeRequest req = .ok encoded ∧ hostLines encoded = some 1 ∧
    decodeRequest crates encoded slots cap = .ok (.complete req [])

/-- There is one `Host` field if the target has no authority. If it has one, there is no
`Host` field, a slot is left, and the path behind the authority is more than a query. -/
def HostOnce (slots : Nat) (head : ParsedRequest) (uri : Uri) : Prop :=
  if uri.authority.isSome then
    hostCount head.headers = 0 ∧ head.headers.length < slots ∧
      ∀ path ∈ uri.pathAndQuery, path.val.text.head? ≠ some 63
  else hostCount head.headers = 1

section Survives

variable {crates : RequestCrates} {buffer tail : Bytes} {slots cap pos : Nat}
  {head : ParsedRequest} {uri : Uri} {req : RequestHeaders} {kept : List ParsedHeader}
  {path : PathAndQuery}

lemma survives_iff_of_decoded (decoded : Decoded crates head kept req)
    (has : req.uri.pathAndQuery = some path)
    (bytes : ∀ byte ∈ path.val.text, crates.httparse.isUriByte byte = true)
    (form : path.val.text.head? = some 63 ∨
      crates.uri.fromStr path.val.text = .ok ⟨none, some path⟩) :
    Survives crates slots cap req ↔
      hostCount kept + req.uri.authority.toList.length = 1 ∧
        kept.length + req.uri.authority.toList.length ≤ slots ∧ path.val.text.head? ≠ some 63 := by
  obtain ⟨again, reencoded, encodes⟩ := exists_reencoded decoded has
  have solid : ∀ byte ∈ again.path, 32 < byte := by
    rw [reencoded.path]
    intro byte mem
    simpa using all_eq_true.mp path.val.visible byte mem
  have lines := hostLines_render solid
  rw [reencoded.hostCount_headers] at lines
  rw [← reencoded.length_headers]
  constructor
  · rintro ⟨encoded, isEncoded, once, decodes⟩
    rw [encodes] at isEncoded
    cases isEncoded
    rw [lines] at once
    rcases form with query | reads
    · exact absurd decodes (reencoded.decodeRequest_ne_complete bytes query)
    · refine ⟨Option.some.inj once, ?_, ?_⟩
      · rw [reencoded.decodeRequest_eq decoded has reads bytes] at decodes
        by_contra many
        rw [if_neg many] at decodes
        cases decodes
      · intro query
        exact crates.uri.query_alone query reads
  · rintro ⟨once, few, path_begins⟩
    have reads := form.resolve_left path_begins
    refine ⟨again.render, encodes, by rw [lines, once], ?_⟩
    rw [reencoded.decodeRequest_eq decoded has reads bytes, if_pos few]

lemma path_isUriByte (parsed : crates.httparse.parseRequest slots buffer = .ok (some (pos, head)))
    (target : crates.uri.fromStr head.path = .ok uri) (has : uri.pathAndQuery = some path) :
    ∀ byte ∈ path.val.text, crates.httparse.isUriByte byte = true := by
  intro byte mem
  rcases crates.uri.path_bytes target has byte mem with fromTarget | rfl
  · exact crates.httparse.path_bytes parsed byte fromTarget
  · exact crates.httparse.isUriByte_slash

/-- A request that was decoded survives exactly if it named its host once. -/
theorem reencoding_survives_iff
    (parsed : crates.httparse.parseRequest slots buffer = .ok (some (pos, head)))
    (target : crates.uri.fromStr head.path = .ok uri) (form : uri.pathAndQuery.isSome)
    (decodes : decodeRequest crates buffer slots cap = .ok (.complete req tail)) :
    Survives crates slots cap req ↔ HostOnce slots head uri := by
  obtain ⟨path, has⟩ := Option.isSome_iff_exists.mp form
  have bytes := path_isUriByte parsed target has
  cases authority : uri.authority with
  | some =>
    obtain ⟨decoded, rfl⟩ := decoded_of_absolute parsed target decodes authority
    have begins := crates.uri.absolute target (by simp [authority]) has
    rw [survives_iff_of_decoded decoded has bytes begins]
    rw [HostOnce, if_pos (Option.isSome_iff_exists.mpr ⟨_, authority⟩), authority, has]
    exact and_congr (by simp) (and_congr Nat.succ_le_iff (by simp))
  | none =>
    obtain ⟨kept, decoded, samePath, count, length⟩ :=
      decoded_of_relative parsed target decodes authority
    obtain ⟨query, isPath, -, reads⟩ := crates.uri.relative target authority
    rw [has] at isPath
    cases isPath
    have again : crates.uri.fromStr path.val.text = .ok ⟨none, some path⟩ := by
      rw [reads, ← authority, ← has]
    have begins : path.val.text.head? ≠ some 63 := fun query => crates.uri.query_alone query again
    have few := crates.httparse.headers_length parsed
    rw [survives_iff_of_decoded decoded (samePath.trans has) bytes (.inr again), count, length]
    simp [HostOnce, authority, few, begins]

end Survives

lemma isToken_get : isToken [71, 69, 84] = true := by decide

lemma visible_slash : ([47] : Bytes).all (32 < ·) = true := by decide

lemma slash_ne_nil : ([47] : Bytes) ≠ [] := by decide

/-- `GET / HTTP/1.1`. -/
def plainGet (headers : List ParsedHeader) : ParsedRequest :=
  ⟨⟨[71, 69, 84], isToken_get⟩, [47], .one, headers⟩

/-- `Host: a`. -/
def hostA : ParsedHeader := ⟨[72, 111, 115, 116], [97], by decide, by decide, by decide⟩

/-- `Host: b`. -/
def hostB : ParsedHeader := ⟨[72, 111, 115, 116], [98], by decide, by decide, by decide⟩

/-- A `GET` request for `/` with the authority `a`. -/
def getFromA (headers : List Header) : RequestHeaders :=
  ⟨⟨[71, 69, 84], isToken_get⟩, ⟨some ⟨[97], by decide⟩, some ⟨⟨[47], visible_slash⟩, slash_ne_nil⟩⟩,
    .http11, headers⟩

theorem survives_getFromA :
    decodeRequest strictCrates (plainGet [hostA]).render maxHeadersNum maxRawHeadersSize =
        .ok (.complete (getFromA []) []) ∧
      Survives strictCrates maxHeadersNum maxRawHeadersSize (getFromA []) := by
  have parsed : strictCrates.httparse.parseRequest maxHeadersNum (plainGet [hostA]).render =
      .ok (some (27, plainGet [hostA])) := rfl
  have target : strictCrates.uri.fromStr (plainGet [hostA]).path =
      .ok ⟨none, some ⟨⟨[47], by decide⟩, by decide⟩⟩ := rfl
  exact ⟨rfl, (reencoding_survives_iff parsed target rfl rfl).mpr rfl⟩

/-- Of two `Host` fields, the second one stays among the headers. -/
theorem not_survives_twoHosts :
    decodeRequest strictCrates (plainGet [hostA, hostB]).render maxHeadersNum maxRawHeadersSize =
        .ok (.complete (getFromA [⟨hostB.read.1, hostB.read.2⟩]) []) ∧
      ¬Survives strictCrates maxHeadersNum maxRawHeadersSize
        (getFromA [⟨hostB.read.1, hostB.read.2⟩]) := by
  refine ⟨rfl, ?_⟩
  rintro ⟨encoded, encodes, once, -⟩
  have twice : (encodeRequest (getFromA [⟨hostB.read.1, hostB.read.2⟩])).map hostLines =
      .ok (some 2) := by decide +kernel
  rw [encodes] at twice
  cases once.symm.trans (Except.ok.inj twice)

end TrustTunnel.Endpoint.Http1Codec
