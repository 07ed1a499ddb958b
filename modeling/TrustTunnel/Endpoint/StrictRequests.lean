import TrustTunnel.Endpoint.RequestCodec

/-!
# Parsers of requests that are written in the usual way

Parsers that follow the laws of the crates: lines end with CRLF, a request target begins
with a slash, is an asterisk or has the scheme `http`.
-/

namespace TrustTunnel.Endpoint.Http1Codec

open Wire Http List Rfc9112

/-! ## Heads -/

/-- The lines up to an empty line, of which there are less than `count`. -/
def takeLines : (count : Nat) → Bytes → Option (List Bytes × Bytes)
  | 0, _ => none
  | count + 1, bytes =>
    match Rfc9112.takeLine bytes with
    | none => none
    | some (line, rest) =>
      if line = [] then some ([], rest)
      else (takeLines count rest).map fun (lines, rest) => (line :: lines, rest)

lemma takeLines_renderLines {lines : List Bytes} {count : Nat} (rest : Bytes)
    (unbroken : ∀ line ∈ lines, line ≠ [] ∧ 13 ∉ line) (enough : lines.length < count) :
    takeLines count (renderLines lines ++ rest) = some (lines, rest) := by
  induction lines generalizing count with
  | nil =>
    cases count with
    | zero => cases enough
    | succ => rfl
  | cons line lines ih =>
    cases count with
    | zero => cases enough
    | succ =>
      rw [forall_mem_cons] at unbroken
      have split : renderLines (line :: lines) ++ rest =
          line ++ 13 :: 10 :: (renderLines lines ++ rest) := by
        simp [renderLines]
      rw [split, takeLines, takeLine_append _ unbroken.1.2]
      dsimp only
      rw [if_neg unbroken.1.1, ih unbroken.2 (Nat.lt_of_succ_lt_succ enough), Option.map_some]

lemma length_lt_renderLines (lines : List Bytes) : lines.length < (renderLines lines).length := by
  have fewer : lines.length ≤ (lines.flatMap (· ++ [13, 10])).length := by
    induction lines with
    | nil => exact le_refl _
    | cons =>
      simp only [flatMap_cons, length_append, length_cons]
      omega
  simp only [renderLines, length_append, length_cons]
  omega

def readVersion (version : Bytes) : Option MinorVersion :=
  if version = [72, 84, 84, 80, 47, 49, 46, 48] then some .zero
  else if version = [72, 84, 84, 80, 47, 49, 46, 49] then some .one
  else none

def readRequestLine (line : Bytes) : Option (Method × Bytes × MinorVersion) :=
  match line.splitOn 32 with
  | [method, path, version] =>
    if token : Rfc9112.isToken method = true then
      if path.all Rfc9112.isVisible = true then
        (readVersion version).map fun version => (⟨method, token⟩, path, version)
      else none
    else none
  | _ => none

def readHeader (line : Bytes) : Option ParsedHeader :=
  let name := line.takeWhile (· ≠ 58)
  let value := Rfc9112.trimOws (line.drop (name.length + 1))
  if valid : Rfc9112.isToken name = true ∧ value.all Rfc9112.isFieldByte = true ∧
      Rfc9112.trimOws value = value then
    some ⟨name, value, valid.1, valid.2.1, valid.2.2⟩
  else none

/-- The rest of the head behind the request line. -/
def readHeaders (slots : Nat) (line : Method × Bytes × MinorVersion) (bytes rest : Bytes) :
    Except ParseError (Option (Nat × ParsedRequest)) :=
  match takeLines rest.length rest with
  | none => .ok none
  | some (lines, behind) =>
    match lines.mapM readHeader with
    | none => .error (.invalid "invalid header name")
    | some headers =>
      if headers.length ≤ slots then
        .ok (some (bytes.length - behind.length, ⟨line.1, line.2.1, line.2.2, headers⟩))
      else .error .tooManyHeaders

def readRequest (slots : Nat) (bytes : Bytes) : Except ParseError (Option (Nat × ParsedRequest)) :=
  match Rfc9112.takeLine bytes with
  | none => .ok none
  | some (line, rest) =>
    match readRequestLine line with
    | none => .error (.invalid "invalid token")
    | some line => readHeaders slots line bytes rest

variable {req : ParsedRequest} {bytes : Bytes}

lemma readRequest_eq_ok {slots pos : Nat}
    (parsed : readRequest slots bytes = .ok (some (pos, req))) :
    req.path.all isVisible = true ∧ req.headers.length ≤ slots := by
  revert parsed
  fun_cases readRequest
  case case3 line rest _ requestLine read =>
    have visible : requestLine.2.1.all isVisible = true := by
      revert read
      fun_cases readRequestLine
      case case1 method path version _ token visible =>
        intro read
        obtain ⟨version, -, rfl⟩ := Option.map_eq_some_iff.mp read
        exact visible
      all_goals exact fun read => by cases read
    fun_cases readHeaders
    case case3 few =>
      rintro ⟨⟩
      exact ⟨visible, few⟩
    all_goals exact fun parsed => by cases parsed
  all_goals exact fun parsed => by cases parsed

lemma readVersion_digit (version : MinorVersion) :
    readVersion [72, 84, 84, 80, 47, 49, 46, version.digit] = some version := by
  cases version <;> rfl

lemma readHeader_line (header : ParsedHeader) :
    readHeader (header.name ++ 58 :: 32 :: header.value) = some header := by
  have colonless : ∀ byte ∈ header.name, decide (byte ≠ 58) = true := by
    intro byte mem
    rw [decide_eq_true_iff]
    rintro rfl
    exact notMem_of_isToken header.token rfl mem
  have name : (header.name ++ 58 :: 32 :: header.value).takeWhile (· ≠ 58) = header.name := by
    rw [takeWhile_append_of_pos colonless]
    simp
  have value : trimOws ((header.name ++ 58 :: 32 :: header.value).drop
      (header.name.length + 1)) = header.value := by
    have behind : (header.name ++ 58 :: 32 :: header.value).drop (header.name.length + 1) =
        32 :: header.value := by
      rw [append_cons, drop_left' (by simp)]
    rw [behind]
    exact header.trimmed
  simp only [readHeader, name, value]
  rw [dif_pos ⟨header.token, header.visible, header.trimmed⟩]

lemma mapM_readHeader (headers : List ParsedHeader) :
    (headers.map fun header => header.name ++ 58 :: 32 :: header.value).mapM readHeader =
      some headers := by
  induction headers with
  | nil => rfl
  | cons _ _ ih =>
    rw [map_cons, mapM_cons, ih, readHeader_line]
    rfl

lemma isVisible_ne : ∀ byte : UInt8, isVisible byte = true → byte ≠ 32 ∧ byte ≠ 13 ∧ 32 < byte :=
  forall_byte (by decide +kernel)

lemma readRequestLine_line (visible : ∀ byte ∈ req.path, isVisible byte = true) :
    readRequestLine req.line = some (req.method, req.path, req.version) := by
  have solid : 32 ∉ req.path := fun mem => (isVisible_ne 32 (visible 32 mem)).1 rfl
  have solidVersion : 32 ∉ [72, 84, 84, 80, 47, 49, 46, req.version.digit] := by
    cases req.version <;> decide
  rw [readRequestLine, ParsedRequest.line, splitOn_requestLine req.method.token solid solidVersion]
  dsimp only
  rw [dif_pos _, if_pos (all_eq_true.mpr visible), readVersion_digit, Option.map_some]

lemma readRequest_render (visible : ∀ byte ∈ req.path, isVisible byte = true)
    (slots : Nat) (rest : Bytes) :
    readRequest slots (req.render ++ rest) =
      if req.headers.length ≤ slots then .ok (some (req.render.length, req))
      else .error .tooManyHeaders := by
  let lines := req.headers.map fun header => header.name ++ 58 :: 32 :: header.value
  have rendered : req.render ++ rest = req.line ++ 13 :: 10 :: (renderLines lines ++ rest) := by
    simp [ParsedRequest.render, lines, renderLines, flatMap_map, ParsedHeader.field, renderField]
  have path : 13 ∉ req.path := fun mem => (isVisible_ne 13 (visible 13 mem)).2.1 rfl
  have unbroken : ∀ line ∈ lines, line ≠ [] ∧ 13 ∉ line := by
    intro line mem
    obtain ⟨header, -, rfl⟩ := mem_map.mp mem
    have name : 13 ∉ header.name := notMem_of_isToken header.token rfl
    simp [name, unbroken_value header]
  have enough : lines.length < (renderLines lines ++ rest).length := by
    have fewer := length_lt_renderLines lines
    rw [length_append]
    omega
  have length : (req.render ++ rest).length - rest.length = req.render.length := by
    simp
  rw [readRequest]
  rw [rendered, takeLine_append _ (unbroken_line path)]
  dsimp only
  rw [readRequestLine_line visible]
  dsimp only
  rw [readHeaders, takeLines_renderLines rest unbroken enough, ← rendered]
  dsimp only
  rw [mapM_readHeader, length]

def strictHttparse : Httparse where
  parseRequest := readRequest
  isUriByte := Rfc9112.isVisible
  isUriByte_slash := by decide
  path_bytes parsed := List.all_eq_true.mp (readRequest_eq_ok parsed).1
  headers_length parsed := (readRequest_eq_ok parsed).2
  parse_render _ visible := readRequest_render visible

/-! ## Targets -/

def uriPart (text : Bytes) (visible : text.all Rfc9112.isVisible = true) : UriPart where
  text := text
  visible := by
    rw [List.all_eq_true] at visible ⊢
    intro byte mem
    simpa using (isVisible_ne byte (visible byte mem)).2.2

def readPath (text : Bytes) : Except String PathAndQuery :=
  if valid : (text.head? = some 47 ∨ text = [42]) ∧ text.all Rfc9112.isVisible = true then
    .ok ⟨uriPart text valid.2, by
      rintro rfl
      simp at valid⟩
  else .error "invalid uri character"

def readAuthority (bytes : Bytes) : Except String UriPart :=
  if valid : bytes ≠ [] ∧ bytes.all Rfc9112.isVisible = true then .ok (uriPart bytes valid.2)
  else .error "invalid authority"

/-- `http://`. -/
def httpScheme : Bytes := [104, 116, 116, 112, 58, 47, 47]

/-- An authority, and a path if there is one. -/
def readAbsolute (text : Bytes) : Except String Uri :=
  if text.take 7 = httpScheme then do
    let authority ← readAuthority ((text.drop 7).takeWhile (· ≠ 47))
    let path := (text.drop 7).dropWhile (· ≠ 47)
    let path ← readPath (if path = [] then [47] else path)
    return ⟨some authority, some path⟩
  else .error "invalid format"

def readUri (text : Bytes) : Except String Uri :=
  match readPath text with
  | .ok path => .ok ⟨none, some path⟩
  | .error _ => readAbsolute text

variable {text : Bytes} {path : PathAndQuery} {uri : Uri}

lemma text_of_readPath (read : readPath text = .ok path) : path.val.text = text := by
  rw [readPath] at read
  split at read
  · cases read
    rfl
  · cases read

lemma text_of_readAuthority {part : UriPart} (read : readAuthority bytes = .ok part) :
    part.text = bytes ∧ bytes.all isVisible = true := by
  rw [readAuthority] at read
  split at read
  case isTrue valid =>
    cases read
    exact ⟨rfl, valid.2⟩
  case isFalse => cases read

lemma readAbsolute_eq_ok (read : readAbsolute text = .ok uri) :
    ∃ authority path behind, text.take 7 = httpScheme ∧ uri = ⟨some authority, some path⟩ ∧
      readAuthority ((text.drop 7).takeWhile (· ≠ 47)) = .ok authority ∧
      readPath behind = .ok path ∧ ∀ byte ∈ behind, byte ∈ text ∨ byte = 47 := by
  rw [readAbsolute] at read
  split at read
  case isFalse => cases read
  case isTrue scheme =>
    rw [bind_eq_ok] at read
    obtain ⟨authority, first, read⟩ := read
    rw [bind_eq_ok] at read
    obtain ⟨path, second, read⟩ := read
    cases read
    refine ⟨authority, path, _, scheme, rfl, first, second, ?_⟩
    intro byte mem
    split at mem
    · exact .inr (mem_singleton.mp mem)
    · exact .inl (mem_of_mem_drop ((dropWhile_sublist _).subset mem))

lemma readUri_eq_ok (read : readUri text = .ok uri) :
    (∃ path, readPath text = .ok path ∧ uri = ⟨none, some path⟩) ∨ readAbsolute text = .ok uri := by
  rw [readUri] at read
  split at read
  case h_1 path isPath =>
    cases read
    exact .inl ⟨path, isPath, rfl⟩
  case h_2 => exact .inr read

lemma readUri_of_readPath (read : readPath text = .ok path) :
    readUri path.val.text = .ok ⟨none, some path⟩ := by
  rw [text_of_readPath read, readUri, read]

def strictUri : HttpUri where
  fromStr := readUri
  authorityFromBytes := readAuthority
  pathAndQueryFromStr := readPath
  relative := by
    intro text uri read relative
    rcases readUri_eq_ok read with ⟨path, isPath, rfl⟩ | absolute
    · exact ⟨path, rfl, isPath, readUri_of_readPath isPath⟩
    · obtain ⟨authority, path, behind, -, rfl, -⟩ := readAbsolute_eq_ok absolute
      cases relative
  absolute := by
    intro text uri path read authority has
    rcases readUri_eq_ok read with ⟨path, isPath, rfl⟩ | absolute
    · exact absurd rfl authority
    · obtain ⟨_, _, behind, -, rfl, -, isPath, -⟩ := readAbsolute_eq_ok absolute
      cases has
      exact .inr (readUri_of_readPath isPath)
  query_alone := by
    intro text uri query read
    rcases readUri_eq_ok read with ⟨path, isPath, rfl⟩ | absolute
    · rw [readPath, dif_neg] at isPath
      · cases isPath
      · rintro ⟨slash | rfl, -⟩
        · rw [query] at slash
          cases slash
        · cases query
    · obtain ⟨_, _, _, scheme, -⟩ := readAbsolute_eq_ok absolute
      cases text with
      | nil => cases query
      | cons =>
        cases query
        cases scheme
  authority_text := text_of_readAuthority
  authority_again := by
    intro text uri authority read has
    rcases readUri_eq_ok read with ⟨path, isPath, rfl⟩ | absolute
    · cases has
    · obtain ⟨_, _, _, -, rfl, read, -⟩ := readAbsolute_eq_ok absolute
      cases has
      rw [(text_of_readAuthority read).1, read]
  path_bytes := by
    intro text uri path read has byte mem
    rcases readUri_eq_ok read with ⟨_, isPath, rfl⟩ | absolute
    · cases has
      rw [text_of_readPath isPath] at mem
      exact .inl mem
    · obtain ⟨_, _, _, -, rfl, -, isPath, origin⟩ := readAbsolute_eq_ok absolute
      cases has
      rw [text_of_readPath isPath] at mem
      exact origin byte mem

def strictCrates : RequestCrates where
  httparse := strictHttparse
  uri := strictUri
  debugText bytes := (Bytes.fromUtf8 bytes).getD ""

end TrustTunnel.Endpoint.Http1Codec
