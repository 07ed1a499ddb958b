import TrustTunnel.Client.DomainExtractor
import TrustTunnel.Rfc9112.Messages

/-!
# The host of a plain HTTP request

The extractor decides with the first two bytes of a request. What has been sent by then names
the host if the first `Host:` in it is followed by the host alone, or else by its target.
-/

namespace TrustTunnel.Client.DomainExtractor

open Tls Text Rfc9112 HttpParser List HttpParser

/-! ## What a text names -/

/-- The text begins with a method as the parser expects it. -/
structure IsMethod (method behind : Bytes) : Prop where
  letters : ∀ byte ∈ method, isAlpha byte = true
  least : 3 ≤ method.length
  most : method.length ≤ 32
  ends : ∀ byte ∈ behind.head?, isSpace byte = true

/-- Behind the first `Host:` there are blanks, the host and the end of the line. -/
def HostLine (behind host : Bytes) : Prop :=
  host ≠ [] ∧ (∀ byte ∈ host.head?, isBlank byte = false) ∧
    (∀ byte ∈ host, isLineEnd byte = false) ∧
    ∃ before blanks last rest, FirstAt hostMarker behind before (blanks ++ (host ++ last :: rest)) ∧
      (∀ byte ∈ blanks, isBlank byte = true) ∧ isLineEnd last = true

/-- What is behind the first `://`, or the whole text without one. -/
def Authority (uri authority : Bytes) : Prop :=
  (∃ before, FirstAt schemeMarker uri before authority) ∨ ¬schemeMarker <:+: uri ∧ authority = uri

/-- Behind the method and blanks there is no path, and the authority begins with the host. -/
def UriHost (behind host : Bytes) : Prop :=
  (∀ byte ∈ host, endsHost byte = false) ∧
    ∃ blanks first uri last rest, behind = blanks ++ first :: uri ∧
      (∀ byte ∈ blanks, isBlank byte = true) ∧ isBlank first = false ∧ first ≠ 47 ∧
      Authority (first :: uri) (host ++ last :: rest) ∧ endsHost last = true

def Names (text host : Bytes) : Prop :=
  ∃ method behind, text = method ++ behind ∧ IsMethod method behind ∧
    (HostLine behind host ∨ (∀ other, ¬HostLine behind other) ∧ UriHost behind host)

variable {behind host : Bytes}

lemma hostHeader_eq_some_iff : hostHeader behind = some host ↔ HostLine behind host := by
  rw [hostHeader]
  constructor
  · intro found
    split at found
    case h_1 => cases found
    case h_2 value marked =>
      split at found
      case h_1 => cases found
      case h_2 line ended =>
        split at found
        case isTrue => cases found
        case isFalse nonempty =>
          cases found
          obtain ⟨before, first⟩ := findBehind_eq_some_iff.mp marked
          obtain ⟨last, rest, split, ends, inside⟩ := upTo_eq_some_iff.mp ended
          obtain ⟨blanks, rfl, blank, solid⟩ := dropWhile_eq_iff.mp split
          refine ⟨nonempty, ?_, inside, before, blanks, last, rest, first, blank, ends⟩
          rwa [head?_append_of_ne_nil _ nonempty] at solid
  · rintro ⟨nonempty, solid, inside, before, blanks, last, rest, first, blank, ends⟩
    have value : findBehind hostMarker behind = some (blanks ++ (host ++ last :: rest)) :=
      findBehind_eq_some_iff.mpr ⟨before, first⟩
    have trimmed : (blanks ++ (host ++ last :: rest)).dropWhile isBlank = host ++ last :: rest := by
      refine dropWhile_eq_iff.mpr ⟨blanks, rfl, blank, ?_⟩
      rwa [head?_append_of_ne_nil _ nonempty]
    have line : upTo isLineEnd (host ++ last :: rest) = some host :=
      upTo_eq_some_iff.mpr ⟨last, rest, rfl, ends, inside⟩
    simp [value, trimmed, line, if_neg nonempty]

lemma upTo_endsHost_iff {authority : Bytes} :
    upTo endsHost authority = some host ↔ (∀ byte ∈ host, endsHost byte = false) ∧
      ∃ last rest, authority = host ++ last :: rest ∧ endsHost last = true := by
  rw [upTo_eq_some_iff]
  constructor
  · rintro ⟨last, rest, split, ends, inside⟩
    exact ⟨inside, last, rest, split, ends⟩
  · rintro ⟨inside, last, rest, split, ends⟩
    exact ⟨last, rest, split, ends, inside⟩

variable {first : UInt8}

lemma hostOfUri_cons_iff {uri : Bytes} :
    hostOfUri (first :: uri) = some host ↔ first ≠ 47 ∧ (∀ byte ∈ host, endsHost byte = false) ∧
      ∃ last rest, Authority (first :: uri) (host ++ last :: rest) ∧ endsHost last = true := by
  rw [hostOfUri, head?_cons]
  by_cases path : first = 47
  · subst path
    simp
  · simp only [ne_eq, path, if_false, not_false_eq_true, true_and]
    cases marked : findBehind schemeMarker (first :: uri) with
    | none =>
      have absent := findBehind_eq_none_iff.mp marked
      have whole : ∀ authority, Authority (first :: uri) authority ↔ first :: uri = authority := by
        intro authority
        constructor
        · rintro (⟨before, here⟩ | ⟨-, same⟩)
          · exact absurd (isInfix_of_firstAt here) absent
          · exact same.symm
        · exact fun same => .inr ⟨absent, same.symm⟩
      simp [whole, upTo_endsHost_iff]
    | some found =>
      obtain ⟨before, here⟩ := findBehind_eq_some_iff.mp marked
      have behindMarker : ∀ authority, Authority (first :: uri) authority ↔ found = authority := by
        intro authority
        constructor
        · rintro (⟨before', there⟩ | ⟨absent, -⟩)
          · exact here.unique there
          · exact absurd (isInfix_of_firstAt here) absent
        · rintro rfl
          exact .inl ⟨before, here⟩
      simp only [behindMarker, ← upTo_endsHost_iff]
      by_cases empty : found = []
      · subst empty
        simp [upTo]
      · simp [empty]

lemma hostOfUri_eq_some_iff :
    hostOfUri (behind.dropWhile isBlank) = some host ↔ UriHost behind host := by
  constructor
  · intro found
    cases target : behind.dropWhile isBlank with
    | nil =>
      rw [target] at found
      cases found
    | cons first uri =>
      rw [target] at found
      obtain ⟨blanks, split, blank, solid⟩ := dropWhile_eq_iff.mp target
      obtain ⟨path, inside, last, rest, authority, ends⟩ := hostOfUri_cons_iff.mp found
      exact ⟨inside, blanks, first, uri, last, rest, split, blank, solid first rfl, path,
        authority, ends⟩
  · rintro ⟨inside, blanks, first, uri, last, rest, rfl, blank, solid, path, authority, ends⟩
    have target : (blanks ++ first :: uri).dropWhile isBlank = first :: uri := by
      refine dropWhile_eq_iff.mpr ⟨blanks, rfl, blank, ?_⟩
      rintro byte ⟨⟩
      exact solid
    rw [target]
    exact hostOfUri_cons_iff.mpr ⟨path, inside, last, rest, authority, ends⟩

/-! ## The method -/

lemma isAlpha_of_isSpace : ∀ byte : UInt8, isSpace byte = true → isAlpha byte = false :=
  Wire.forall_byte (by decide +kernel)

lemma methodEnd_append {method behind : Bytes} {index : Nat}
    (letters : ∀ byte ∈ method, isAlpha byte = true)
    (ends : ∀ byte ∈ behind.head?, isSpace byte = true) (most : index + method.length ≤ 32) :
    methodEnd (method ++ behind) index = some (index + method.length) := by
  induction method generalizing index with
  | nil =>
    cases behind with
    | nil => rfl
    | cons byte =>
      rw [nil_append, methodEnd, if_pos (ends byte rfl)]
      rfl
  | cons byte _ ih =>
    rw [length_cons] at most
    have letter := letters byte mem_cons_self
    have space : ¬isSpace byte = true := by
      intro space
      rw [isAlpha_of_isSpace byte space] at letter
      cases letter
    have goesOn : ¬(isAlpha byte = false ∨ index = 32) := by
      rintro (other | full)
      · rw [letter] at other
        cases other
      · omega
    rw [cons_append, methodEnd, if_neg space, if_neg goesOn,
      ih (fun other mem => letters other (mem_cons_of_mem _ mem)) (by omega), length_cons]
    congr 1
    omega

variable {text : Bytes} {reader : TlsReader}

lemma exists_method {index count : Nat} (bounded : index ≤ 32)
    (ended : methodEnd text index = some count) :
    ∃ method behind, text = method ++ behind ∧ count = index + method.length ∧ count ≤ 32 ∧
      (∀ byte ∈ method, isAlpha byte = true) ∧ ∀ byte ∈ behind.head?, isSpace byte = true := by
  induction text generalizing index with
  | nil =>
    cases ended
    exact ⟨[], [], rfl, rfl, bounded, forall_mem_nil _,
      fun _ absent => absurd absent (Option.not_mem_none _)⟩
  | cons byte text ih =>
    rw [methodEnd] at ended
    split at ended
    case isTrue space =>
      cases ended
      refine ⟨[], byte :: text, rfl, rfl, bounded, forall_mem_nil _, ?_⟩
      rintro first ⟨⟩
      exact space
    case isFalse =>
      split at ended
      case isTrue => cases ended
      case isFalse goesOn =>
        obtain ⟨letter, room⟩ := not_or.mp goesOn
        obtain ⟨method, behind, rfl, length, most, letters, ends⟩ := ih (by omega) ended
        refine ⟨byte :: method, behind, rfl, ?_, most, ?_, ends⟩
        · rw [length_cons]
          omega
        · rw [forall_mem_cons]
          exact ⟨Bool.not_eq_false _ ▸ letter, letters⟩

lemma parse_eq_found_iff : parse text = .found host ↔ Names text host := by
  have sources : ∀ behind, ((hostHeader behind).or (hostOfUri (behind.dropWhile isBlank))) =
      some host ↔ HostLine behind host ∨ (∀ other, ¬HostLine behind other) ∧ UriHost behind host := by
    intro behind
    rw [Option.or_eq_some_iff, hostHeader_eq_some_iff, hostOfUri_eq_some_iff,
      Option.eq_none_iff_forall_ne_some]
    simp only [ne_eq, hostHeader_eq_some_iff]
  rw [parse]
  constructor
  · intro found
    split at found
    case h_1 => cases found
    case h_2 count ended =>
      obtain ⟨method, behind, rfl, rfl, most, letters, ends⟩ := exists_method (by decide) ended
      rw [zero_add] at most found
      split at found
      case isTrue => cases found
      case isFalse least =>
        simp only [drop_left] at found
        split at found
        case h_1 named same =>
          cases found
          exact ⟨method, behind, rfl, ⟨letters, by omega, most, ends⟩, (sources behind).mp same⟩
        case h_2 => cases found
  · rintro ⟨method, behind, rfl, expected, named⟩
    have ended : methodEnd (method ++ behind) 0 = some (0 + method.length) :=
      methodEnd_append expected.letters expected.ends (by rw [zero_add]; exact expected.most)
    rw [zero_add] at ended
    have least := expected.least
    simp [ended, if_neg (Nat.not_lt_of_le least), (sources behind).mpr named]

/-! ## The first two bytes -/

lemma recParse_of_short (shows : reader.input.Shows text) (short : text.length < 2) :
    reader.recParse = .ok .more := by
  have size := shows.size
  have handshake : reader.isHandshake = .ok true := if_pos (by omega)
  rw [TlsReader.recParse, handshake]
  rw [if_pos (by omega)]
  rfl

variable {second : UInt8} {rest : Bytes}

lemma recParse_of_other (shows : reader.input.Shows (first :: second :: rest))
    (other : first ≠ 22) : reader.recParse = .ok .failed := by
  have size := shows.size
  rw [length_cons, length_cons] at size
  have one : reader.input.Shows ([first] ++ second :: rest) := shows
  have front := one.read_front
  rw [length_singleton] at front
  have handshake : reader.isHandshake = .ok false := by
    rw [TlsReader.isHandshake, if_neg (by omega), front]
    simp only [ok_bind, pure, Except.pure, cons_beq_cons, beq_eq_false_iff_ne.mpr other,
      Bool.false_and]
  rw [TlsReader.recParse, handshake]
  rfl

variable (commonName : Bytes → Option Bytes)

lemma parseClientHello_of_other {parser : TlsParser} (state : parser.reader.state = .record)
    (other : first ≠ 22) (second : UInt8) (rest : Bytes) :
    ∃ after, parser.parseClientHello commonName (first :: second :: rest) =
      .ok (.notfound, after, first :: second :: rest) := by
  let reader := parser.reader.tlsInput (first :: second :: rest)
  have failed : reader.recParse = .ok .failed := recParse_of_other (View.shows_ofBytes _) other
  have fails : reader.round commonName = .ok (some .rerr, reader) := by
    have recording : reader.state = .record := state
    rw [TlsReader.round, recording]
    simp only [failed]
    rfl
  have parsed : reader.tlsParse commonName = .ok (.rerr, reader) :=
    TlsReader.tlsParse_of_rounds (TlsReader.rounds_of_some fails)
  refine ⟨{ parser with reader := reader, bufferOffset := 0 }, ?_⟩
  rw [TlsParser.parseClientHello, parsed]
  rfl

variable {context : Option Context} {segments : List Bytes}

lemma proceed_http {sent segment : Bytes} (waits : Waits context sent)
    (joined : sent ++ segment = first :: second :: rest) (other : first ≠ 22) :
    ∃ after, proceed commonName true context .outgoing segment =
      .ok (checked (parse (sent ++ segment)), after) := by
  obtain ⟨parser, idle, state, same⟩ := waits
  obtain ⟨after, parsed⟩ := parseClientHello_of_other _ state other second rest
  rw [← parse_of_idle idle, ← joined] at parsed
  have http : ∃ after, runParsers commonName .outgoing [.http] (sent ++ segment) =
      .ok (parse (sent ++ segment), after) := by
    rw [runParsers, Parser.parse]
    cases parse (sent ++ segment) <;> exact ⟨_, rfl⟩
  obtain ⟨context', runs⟩ := http
  refine ⟨context', proceed_of_runs _ same ?_⟩
  rw [runParsers, Parser.parse, parsed]
  exact runs

/-- What is sent in the first segments, up to the one with the second byte. -/
def firstBytes (sent : Bytes) : List Bytes → Bytes
  | [] => sent
  | segment :: segments =>
    if 2 ≤ (sent ++ segment).length then sent ++ segment
    else firstBytes (sent ++ segment) segments

lemma parse_ne_wantMore (text : Bytes) : checked (parse text) ≠ .wantMore := by
  fun_cases parse text with
  | case1 | case2 | case4 => exact DomainExtractorResult.noConfusion
  | case3 =>
    rw [checked]
    split <;> exact DomainExtractorResult.noConfusion

lemma decision_http {sent : Bytes} (waits : Waits context sent) (short : sent.length < 2)
    (joined : sent ++ segments.flatten = first :: second :: rest) (other : first ≠ 22) :
    decision commonName true context segments =
      .ok (checked (parse (firstBytes sent segments))) := by
  induction segments generalizing context sent with
  | nil =>
    rw [flatten_nil, append_nil] at joined
    rw [joined, length_cons, length_cons] at short
    omega
  | cons segment _ ih =>
    rw [flatten_cons, ← append_assoc] at joined
    rw [decision, firstBytes]
    by_cases enough : 2 ≤ (sent ++ segment).length
    · have shorter : [first, second].length ≤ (sent ++ segment).length := enough
      obtain ⟨tail, front, -⟩ := Chunked.exists_tail_of_append_eq joined shorter
      obtain ⟨after, answered⟩ := proceed_http _ waits front other
      rw [answered, if_pos enough]
      simp only [ok_bind, if_neg (parse_ne_wantMore _)]
      rfl
    · have short : (sent ++ segment).length < 2 := Nat.lt_of_not_le enough
      obtain ⟨after, answered, waits⟩ := proceed_of_more _ waits
        fun _ shows => recParse_of_short shows short
      rw [answered, if_neg enough]
      exact ih waits short joined

/-! ## Requests -/

lemma decision_request {head : RequestHead} (splits : segments.flatten = head.render) :
    decision commonName true none segments = .ok (checked (parse (firstBytes [] segments))) := by
  obtain ⟨first, second, rest, render, tchar⟩ := head.exists_render_cons
  exact decision_http _ waits_none (by decide) (splits.trans render)
    (by rintro rfl; exact absurd tchar (by decide))

lemma isPrintable_of_isVisible : ∀ byte : UInt8, isVisible byte = true → isPrintable byte = true :=
  Wire.forall_byte (by decide +kernel)

lemma checked_found_host (head : RequestHead) : checked (.found head.host) = .found head.host :=
  if_pos (all_eq_true.mpr fun byte mem =>
    isPrintable_of_isVisible byte (isVisible_of_isUriHost head.host_wellFormed byte mem))

/-- However the head of a request is split, the extractor answers with the host of the request
exactly when the segments up to the second byte name it. -/
theorem decision_eq_found_iff (head : RequestHead) (segments : List Bytes)
    (splits : segments.flatten = head.render) :
    decision commonName true none segments = .ok (.found head.host) ↔
      Names (firstBytes [] segments) head.host := by
  rw [decision_request _ splits, ← parse_eq_found_iff]
  constructor
  · intro answered
    have same := Except.ok.inj answered
    revert same
    generalize HttpParser.parse _ = parsed
    fun_cases checked parsed with
    | case1 | case3 => exact id
    | case2 => exact nofun
  · intro parsed
    rw [parsed, checked_found_host]

/-- `GET / HTTP/1.1` with the given fields, one of which has the host `a.b`. -/
def getRequest (fields : List Field) (port : Option Bytes)
    (fields_wellFormed : ∀ field ∈ fields,
      isToken field.name = true ∧ field.value.all isFieldByte = true)
    (port_digits : ∀ digits ∈ port, digits.all Wire.isDigit = true)
    (one_host : values hostName (fields.map Field.read) =
      [[97, 46, 98] ++ (port.elim [] fun digits => 58 :: digits)]) : RequestHead where
  method := [71, 69, 84]
  target := [47]
  fields := fields
  host := [97, 46, 98]
  port := port
  method_token := by decide
  target_nonempty := by decide
  target_visible := by decide
  fields_wellFormed := fields_wellFormed
  host_wellFormed := by decide
  port_digits := port_digits
  one_host := one_host

/-- With `Host: a.b`. -/
def hostRequest : RequestHead :=
  getRequest [⟨[72, 111, 115, 116], [32, 97, 46, 98]⟩] none (by decide) (by decide) (by decide)

theorem decision_eq_found_hostRequest :
    [hostRequest.render].flatten = hostRequest.render ∧
      decision (fun _ => none) true none [hostRequest.render] = .ok (.found [97, 46, 98]) ∧
      Names (firstBytes [] [hostRequest.render]) [97, 46, 98] :=
  ⟨rfl, rfl, (decision_eq_found_iff (fun _ => none) hostRequest [hostRequest.render] rfl).mp rfl⟩

/-! ## Requests that are not understood -/

/-- With `host: a.b`. -/
def lowerRequest : RequestHead :=
  getRequest [⟨hostName, [32, 97, 46, 98]⟩] none (by decide) (by decide) (by decide)

/-- With `Host: a.b:80`. -/
def portRequest : RequestHead :=
  getRequest [⟨[72, 111, 115, 116], [32, 97, 46, 98, 58, 56, 48]⟩] (some [56, 48]) (by decide)
    (by decide) (by decide)

/-- With `X-Host: c` in front of `Host: a.b`. -/
def otherRequest : RequestHead :=
  getRequest [⟨[88, 45, 72, 111, 115, 116], [32, 99]⟩, ⟨[72, 111, 115, 116], [32, 97, 46, 98]⟩]
    none (by decide) (by decide) (by decide)

/-- The answer depends on the split and on the spelling of the field, it has the port, and it
may come from another field. -/
theorem not_decision_found :
    decision (fun _ => none) true none [hostRequest.render] = .ok (.found [97, 46, 98]) ∧
    decision (fun _ => none) true none
      [hostRequest.render.take 2, hostRequest.render.drop 2] = .ok .notfound ∧
    decision (fun _ => none) true none [lowerRequest.render] = .ok .notfound ∧
    decision (fun _ => none) true none [portRequest.render] =
      .ok (.found [97, 46, 98, 58, 56, 48]) ∧
    decision (fun _ => none) true none [otherRequest.render] = .ok (.found [99]) :=
  ⟨rfl, rfl, rfl, rfl, rfl⟩

end TrustTunnel.Client.DomainExtractor
