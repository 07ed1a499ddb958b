import TrustTunnel.Chunked.Boundaries
import TrustTunnel.Client.QuicUtils
import TrustTunnel.Client.Tls
import TrustTunnel.Rfc8446.ClientHello
import TrustTunnel.Text.Search

/-!
# Extraction of domain names

The extractor collects the packets of a connection and gives them to one parser after the
other: a TLS and then an HTTP one for TCP, a QUIC one for UDP. A parser that finds nothing is
not asked again.
-/

namespace TrustTunnel.Client

open Tls

/-- A status, with the domain if one was found. -/
inductive DomainExtractorResult where
  | notfound
  | found (domain : Bytes)
  | pass
  | wantMore
  deriving DecidableEq

inductive PacketDirection where
  | outgoing
  | incoming
  deriving DecidableEq

namespace DomainExtractor

/-- The bytes of a view are copied to a string. -/
def domainOf (view : View) : Except Fault DomainExtractorResult := do
  return .found (← view.read view.size)

/-! ## QUIC -/

/-- The loop of `QuicParser::parse`; a call that goes on has parsed a message. -/
def quicLoop (commonName : Bytes → Option Bytes) :
    Nat → TlsReader → Except Fault (DomainExtractorResult × TlsReader)
  | 0, reader => .ok (.wantMore, reader)
  | rounds + 1, reader => do
      let (result, reader) ← reader.tlsParse commonName
      match result with
      | .rclientHelloSni => return (← domainOf reader.tlsHostname, reader)
      | .rerr => return (.wantMore, reader)
      | .rmore => return (.wantMore, reader)
      | .rdone => return (.notfound, reader)
      | _ => quicLoop commonName rounds reader

def quicParse (commonName : Bytes → Option Bytes) (reader : TlsReader) (dir : PacketDirection)
    (buffer : Bytes) : Except Fault (DomainExtractorResult × TlsReader) :=
  if dir ≠ .outgoing then .ok (.notfound, reader)
  else
    match QuicUtils.reassembleInitialCryptoFrames buffer with
    | none => .ok (.notfound, reader)
    | some crypto => quicLoop commonName (2 * crypto.length + 2) (reader.tlsInputHshake crypto)

/-! ## TLS -/

inductive TlsParserState where
  | idle
  | serverHello
  | cert

structure TlsParser where
  state : TlsParserState
  reader : TlsReader
  bufferOffset : Nat

namespace TlsParser

def new : TlsParser := ⟨.idle, .init, 0⟩

def parseCertToLookuperResult (reader : TlsReader) : TlsParseResult → DomainExtractorResult
  | .rmore => .pass
  | .rcert => .found reader.x509SubjectCommonName
  | .rservHello => .pass
  | _ => .notfound

/-- A result, the parser and the buffer after it. -/
abbrev Outcome := DomainExtractorResult × TlsParser × Bytes

variable (self : TlsParser) (commonName : Bytes → Option Bytes) (buffer : Bytes)

def parseClientHello : Except Fault Outcome := do
  let (result, reader) ← (self.reader.tlsInput buffer).tlsParse commonName
  let parser : TlsParser := { self with reader := reader, bufferOffset := 0 }
  match result with
  | .rclientHello =>
    let (result, reader) ← reader.tlsParse commonName
    if result = .rclientHelloSni ∧ reader.tlsHostname.size ≠ 0 then
      return (← domainOf reader.tlsHostname, { parser with reader := reader }, [])
    else return (.pass, { parser with reader := reader, state := .serverHello }, [])
  | .rmore => return (.wantMore, parser, buffer)
  | _ => return (.notfound, parser, buffer)

def parseCert : Except Fault Outcome := do
  let (result, reader) ←
    (self.reader.tlsInput (buffer.drop self.bufferOffset)).tlsParse commonName
  return (parseCertToLookuperResult reader result, { self with reader := reader }, buffer)

def parseServerHello : Except Fault Outcome := do
  let (result, reader) ← (TlsReader.init.tlsInput buffer).tlsParse commonName
  let parser : TlsParser := { self with reader := reader }
  match result with
  | .rservHello =>
    let parser :=
      { parser with state := .cert, bufferOffset := buffer.length - reader.input.bytes.length }
    let (result, reader) ← reader.tlsParse commonName
    let parser := { parser with reader := reader }
    if result ≠ .rdone then return (parseCertToLookuperResult reader result, parser, buffer)
    else parser.parseCert commonName buffer
  | _ => return (.pass, parser, buffer)

def parse (dir : PacketDirection) : Except Fault Outcome :=
  match self.state, dir with
  | .idle, .incoming => .ok (.notfound, self, buffer)
  | .idle, .outgoing => self.parseClientHello commonName buffer
  | .serverHello, .outgoing => .ok (.pass, self, buffer)
  | .serverHello, .incoming => self.parseServerHello commonName buffer
  | .cert, .outgoing => .ok (.pass, self, buffer)
  | .cert, .incoming => self.parseCert commonName buffer

end TlsParser

/-! ## HTTP -/

namespace HttpParser

open Text (findBehind upTo)

/-- `isspace`. -/
def isSpace (byte : UInt8) : Bool := byte == 32 || (9 ≤ byte && byte ≤ 13)

/-- `isalpha`. -/
def isAlpha (byte : UInt8) : Bool := (65 ≤ byte && byte ≤ 90) || (97 ≤ byte && byte ≤ 122)

/-- Where the method ends. -/
def methodEnd : Bytes → Nat → Option Nat
  | [], index => some index
  | byte :: rest, index =>
    if isSpace byte then some index
    else if isAlpha byte = false ∨ index = 32 then none
    else methodEnd rest (index + 1)

def isBlank (byte : UInt8) : Bool := byte == 32 || byte == 9

def isLineEnd (byte : UInt8) : Bool := byte == 13 || byte == 10

def endsHost (byte : UInt8) : Bool := byte == 58 || byte == 47 || isBlank byte

/-- `Host:`. -/
def hostMarker : Bytes := [72, 111, 115, 116, 58]

/-- `://`. -/
def schemeMarker : Bytes := [58, 47, 47]

/-- What is behind the first `Host:` of the text, up to the end of the line. -/
def hostHeader (seek : Bytes) : Option Bytes :=
  match findBehind hostMarker seek with
  | none => none
  | some value =>
    match upTo isLineEnd (value.dropWhile isBlank) with
    | none => none
    | some host => if host = [] then none else some host

/-- The host of the URI. -/
def hostOfUri (uri : Bytes) : Option Bytes :=
  match uri.head? with
  | none => none
  | some first =>
    if first = 47 then none
    else
      match findBehind schemeMarker uri with
      | none => upTo endsHost uri
      | some host => if host = [] then none else upTo endsHost host

def parse (buffer : Bytes) : DomainExtractorResult :=
  match methodEnd buffer 0 with
  | none => .notfound
  | some index =>
    if index < 3 then .notfound
    else
      let seek := buffer.drop index
      match (hostHeader seek).or (hostOfUri (seek.dropWhile isBlank)) with
      | some host => .found host
      | none => .notfound

end HttpParser

/-! ## The extractor -/

inductive Parser where
  | tls (parser : TlsParser)
  | http
  | quic (reader : TlsReader)

/-- The parsers for a protocol, in the order of `ParserFactory`. -/
def parsersFor (tcp : Bool) : List Parser := if tcp then [.tls .new, .http] else [.quic .init]

/-- The parsers that have not given up, the current one first, and the collected bytes. -/
structure Context where
  parsers : List Parser
  buffer : Bytes

def Parser.parse (commonName : Bytes → Option Bytes) (dir : PacketDirection) (buffer : Bytes) :
    Parser → Except Fault (DomainExtractorResult × Parser × Bytes)
  | .tls parser => do
      let (result, parser, buffer) ← parser.parse commonName buffer dir
      return (result, .tls parser, buffer)
  | .http => .ok (HttpParser.parse buffer, .http, buffer)
  | .quic reader => do
      let (result, reader) ← quicParse commonName reader dir buffer
      return (result, .quic reader, buffer)

/-- The loop of `Context::parse`. -/
def runParsers (commonName : Bytes → Option Bytes) (dir : PacketDirection) :
    List Parser → Bytes → Except Fault (DomainExtractorResult × Context)
  | [], buffer => .ok (.notfound, ⟨[], buffer⟩)
  | parser :: parsers, buffer => do
      let (result, parser, buffer) ← parser.parse commonName dir buffer
      match result with
      | .notfound => runParsers commonName dir parsers buffer
      | _ => return (result, ⟨parser :: parsers, buffer⟩)

/-- The bytes of a domain: no control characters, and only ASCII. -/
def isPrintable (byte : UInt8) : Bool := 31 < byte && byte < 127

/-- `DomainExtractor::proceed`. -/
def proceed (commonName : Bytes → Option Bytes) (tcp : Bool) (context : Option Context)
    (dir : PacketDirection) (data : Bytes) : Except Fault (DomainExtractorResult × Context) := do
  let context := context.getD ⟨parsersFor tcp, []⟩
  let (result, context) ← runParsers commonName dir context.parsers (context.buffer ++ data)
  match result with
  | .found domain => return (if domain.all isPrintable then .found domain else .notfound, context)
  | _ => return (result, context)

/-- The answers to the segments that the client of a connection sends. -/
def answers (commonName : Bytes → Option Bytes) (tcp : Bool) :
    Option Context → List Bytes → Except Fault (List DomainExtractorResult)
  | _, [] => .ok []
  | context, segment :: segments => do
      let (answer, context) ← proceed commonName tcp context .outgoing segment
      return answer :: (← answers commonName tcp (some context) segments)

/-- The first answer to the segments with which the lookup ends. -/
def decision (commonName : Bytes → Option Bytes) (tcp : Bool) :
    Option Context → List Bytes → Except Fault DomainExtractorResult
  | _, [] => .ok .wantMore
  | context, segment :: segments => do
      let (answer, context) ← proceed commonName tcp context .outgoing segment
      if answer = .wantMore then decision commonName tcp (some context) segments
      else return answer

end DomainExtractor

/-!
## The server name of a client hello

However the record of a client hello arrives, the extractor waits for its last byte and then
answers with the first host name in it.
-/

open Wire Rfc8446 List

variable {rest : Bytes}

namespace Tls

/-! ## Views of known bytes -/

variable {count : Nat}

namespace View

/-- The view shows exactly the given bytes. -/
structure Shows (view : View) (content : Bytes) : Prop where
  front : content <+: view.bytes
  size : view.size = content.length

variable {view : View} {content front middle back : Bytes}

lemma shows_ofBytes (input : Bytes) : (ofBytes input).Shows input := ⟨prefix_refl input, rfl⟩

lemma Shows.read (shows : view.Shows content) (inside : count ≤ content.length) :
    view.read count = .ok (content.take count) := by
  obtain ⟨rest, same⟩ := shows.front
  rw [View.read, ← same, if_pos, take_append_of_le_length inside]
  rw [length_append]
  omega

lemma Shows.read_front (shows : view.Shows (front ++ back)) :
    view.read front.length = .ok front := by
  rw [shows.read (by rw [length_append]; omega), take_left]

lemma Shows.removePrefix (shows : view.Shows (front ++ back)) (length : count = front.length) :
    (view.removePrefix count).Shows back := by
  obtain ⟨rest, same⟩ := shows.front
  have size := shows.size
  rw [length_append] at size
  constructor
  · rw [View.removePrefix, ← same, length, append_assoc, drop_left]
    exact prefix_append _ _
  · rw [View.removePrefix, if_pos (by omega), size, length]
    exact Nat.add_sub_cancel_left _ _

lemma Shows.behind (shows : view.Shows (front ++ (middle ++ back))) {size : Nat}
    (length : count = front.length) (size_eq : size = middle.length) :
    (view.behind count size).Shows middle := by
  obtain ⟨rest, same⟩ := shows.front
  refine ⟨?_, size_eq⟩
  rw [View.behind, ← same, length, append_assoc, drop_left, append_assoc]
  exact prefix_append _ _

lemma Shows.whole (shows : view.Shows content) : view.read view.size = .ok content := by
  rw [shows.size, shows.read (le_refl _), take_length]

/-- A header is shown, with content of the length that it gives and more bytes behind it. -/
structure Headed (view : View) (count : Nat) (header content back : Bytes) : Prop where
  size : view.size = count + (content.length + back.length)
  read : view.read count = .ok header
  inside : (view.behind count content.length).Shows content
  behind : (view.removePrefix (count + content.length)).Shows back

lemma Shows.headed {width : Nat} (shows : view.Shows (front ++ (vector width content ++ back)))
    (header : front.length + width = count) :
    view.Headed count (front ++ beBytes width content.length) content back := by
  have length : count = (front ++ beBytes width content.length).length := by
    rw [length_append, length_beBytes, header]
  rw [vector, append_assoc, ← append_assoc] at shows
  constructor
  · rw [shows.size, length_append, ← length, length_append]
  · rw [length]
    exact shows.read_front
  · exact shows.behind length rfl
  · rw [← append_assoc] at shows
    exact shows.removePrefix (by rw [length_append, ← length])

lemma Shows.datalen {width : Nat} (shows : view.Shows (vector width content ++ back))
    (fits : content.length < 256 ^ width) : view.datalen width = .ok (some content.length) := by
  have headed : view.Headed width (beBytes width content.length) content back :=
    @Shows.headed _ _ _ [] _ _ shows (zero_add width)
  have size := headed.size
  rw [View.datalen, if_neg (by omega), headed.read]
  simp only [ok_bind, beNat_beBytes, Nat.mod_eq_of_lt fits]
  rw [if_neg (by omega)]
  rfl

end View

namespace TlsReader

open View ServerName

variable {self : TlsReader} {view : View} {content back : Bytes}

lemma skipVector_vector {width : Nat} (shows : view.Shows (vector width content ++ back))
    (fits : content.length < 256 ^ width) :
    ∃ rest, skipVector width view = .ok (some rest) ∧ rest.Shows back := by
  refine ⟨_, by rw [skipVector, shows.datalen fits]; rfl, ?_⟩
  exact shows.removePrefix (length_vector width content).symm

/-! ## Records -/

lemma isHandshake_of_front (shows : self.input.Shows (22 :: rest)) :
    self.isHandshake = .ok true := by
  rw [isHandshake]
  split
  · rfl
  · have one : self.input.Shows ([22] ++ rest) := shows
    have front := one.read_front
    rw [length_singleton] at front
    rw [front]
    rfl

variable {record : HelloRecord} {hello : ClientHello} {front : Bytes} {view : View}

def header (record : HelloRecord) : Bytes :=
  22 :: (beBytes 2 record.legacyRecordVersion ++ beBytes 2 record.hello.message.length)

lemma length_header : (header record).length = 5 := by
  rw [header, length_cons, length_append, length_beBytes, length_beBytes]

lemma render_eq : record.render = header record ++ record.hello.message := by
  rw [HelloRecord.render, vector, header, cons_append, append_assoc]

/-- Behind the header the parser knows the length of the record. -/
lemma recParse_of_header (shows : self.input.Shows (header record ++ front)) :
    self.recParse =
      if front.length < record.hello.message.length then .ok .more
      else .ok (.parsed 22
        { self with
          record := self.input.behind 5 record.hello.message.length
          input := self.input.removePrefix (5 + record.hello.message.length) }) := by
  have size : self.input.size = 5 + front.length := by
    rw [shows.size, length_append, length_header]
  have read := shows.read_front
  rw [length_header] at read
  have length : beNat ((header record).drop 3) = record.hello.message.length :=
    beNat_beBytes_of_lt record.fits
  have version : beNat (((header record).drop 1).take 2) = record.legacyRecordVersion :=
    @beNat_beBytes_of_lt 2 _ record.version_known.2
  rw [recParse, isHandshake_of_front shows]
  simp only [bind, Except.bind, Bool.true_eq_false, if_false]
  rw [if_neg (by omega), read]
  simp only [length, version, size]
  by_cases incomplete : front.length < record.hello.message.length
  · rw [if_pos (by omega), if_pos incomplete]
    rfl
  · have known := record.version_known.1
    rw [if_neg (by omega), if_neg incomplete, if_neg (by omega)]
    rfl

/-- The parser waits for the last byte of the record. -/
lemma recParse_incomplete (shows : self.input.Shows front)
    (splits : front ++ back = record.render) (missing : back ≠ []) : self.recParse = .ok .more := by
  by_cases short : front.length < 5
  · have handshake : self.isHandshake = .ok true := by
      cases front with
      | nil =>
        rw [isHandshake, if_pos]
        rw [shows.size]
        decide
      | cons byte =>
        have first : byte = 22 := by
          rw [cons_append, HelloRecord.render] at splits
          exact (List.cons.inj splits).1
        subst first
        exact isHandshake_of_front shows
    rw [recParse, handshake]
    rw [if_pos (by rw [shows.size]; exact short)]
    rfl
  · obtain ⟨tail, rfl, same⟩ :=
      Chunked.exists_tail_of_append_eq splits (length_header.trans_le (Nat.not_lt.mp short))
    have shorter : tail.length < record.hello.message.length := by
      rw [← same, length_append]
      have positive := length_pos_iff.mpr missing
      omega
    rw [recParse_of_header shows, if_pos shorter]

/-! ## Messages -/

lemma hshakeParse_message (shows : self.record.Shows hello.message)
    (fits : hello.message.length < 65536) :
    ∃ reader, self.hshakeParse = .ok (some (1, reader)) ∧ reader.buf.Shows hello.body ∧
      reader.record.size = 0 := by
  have headed : self.record.Headed 4 ([1] ++ beBytes 3 hello.body.length) hello.body [] := by
    refine Shows.headed ?_ rfl
    rw [append_nil]
    exact shows
  have size := headed.size
  have total := shows.size
  have length : beNat (([1] ++ beBytes 3 hello.body.length).drop 1) = hello.body.length :=
    beNat_beBytes_of_lt (by omega)
  rw [hshakeParse, if_neg (by omega), headed.read]
  simp only [ok_bind, length]
  rw [if_neg (by omega)]
  exact ⟨_, rfl, headed.inside, headed.behind.size⟩

lemma helloParse_body (shows : self.buf.Shows hello.body) (fits : hello.body.length < 65536) :
    ∃ buf, self.helloParse = .ok (some { self with buf := buf }) ∧
      buf.Shows hello.renderExtensions := by
  have width : (hello.legacyVersion ++ hello.random).length = 34 := by
    rw [length_append, hello.version_length, hello.random_length]
  have headed : self.buf.Headed 35 (hello.legacyVersion ++ hello.random ++
      beBytes 1 hello.legacySessionId.length) hello.legacySessionId (vector 2 hello.cipherSuites ++
        (vector 1 hello.legacyCompressionMethods ++ hello.renderExtensions)) := by
    refine Shows.headed ?_ (by rw [width])
    simpa only [ClientHello.body, append_assoc] using shows
  have session : ((hello.legacyVersion ++ hello.random ++
      beBytes 1 hello.legacySessionId.length).getD 34 0).toNat = hello.legacySessionId.length := by
    rw [getD_eq_getElem?_getD, getElem?_append_right (le_of_eq width), width]
    change (UInt8.ofNat hello.legacySessionId.length).toNat = _
    rw [UInt8.toNat_ofNat']
    exact Nat.mod_eq_of_lt hello.sessionId_length
  have size := headed.size
  have total := shows.size
  have suites : hello.cipherSuites.length < 256 ^ 2 := by
    rw [length_append, length_vector] at size
    omega
  rw [helloParse, if_neg (by omega), headed.read]
  simp only [bind, Except.bind, session]
  rw [if_neg (by omega)]
  obtain ⟨methods, skipped, behind⟩ := skipVector_vector headed.behind suites
  simp only [skipped]
  obtain ⟨extensions, skipped, behind⟩ :=
    skipVector_vector behind (Nat.lt_of_lt_of_eq hello.compressionMethods_length rfl)
  simp only [skipped]
  exact ⟨extensions, rfl, behind⟩

/-! ## Server names -/

/-- The first host name of a list of server names. -/
def firstHost (names : List ServerName) : Option Bytes :=
  (names.find? ServerName.isHostName).map ServerName.name

/-- The result is a name, if there is one. -/
inductive Says : Option Bytes → ServnameResult → Prop where
  | done : Says none .done
  | found {hostname : View} {name : Bytes} (shows : hostname.Shows name) :
      Says (some name) (.found hostname)

lemma servnames_render {names : List ServerName} {rounds : Nat}
    (shows : view.Shows (names.flatMap render)) (fits : (names.flatMap render).length < 65536)
    (enough : (names.flatMap render).length ≤ rounds) :
    ∃ result, servnames rounds view = .ok result ∧ Says (firstHost names) result := by
  induction names generalizing rounds view with
  | nil =>
    have size : view.size = 0 := shows.size
    refine ⟨_, ?_, .done⟩
    cases rounds with
    | zero => rfl
    | succ => rw [servnames, if_pos (by omega)]
  | cons name names ih =>
    have headed : view.Headed 3 (name.nameType :: beBytes 2 name.name.length) name.name
        (names.flatMap render) := by
      refine @Shows.headed _ _ _ [name.nameType] _ _ ?_ rfl
      rw [flatMap_cons, render, cons_append] at shows
      exact shows
    have size := headed.size
    have total := shows.size
    have length : beNat ((name.nameType :: beBytes 2 name.name.length).drop 1) = name.name.length :=
      beNat_beBytes_of_lt (by omega)
    cases rounds with
    | zero => omega
    | succ =>
      rw [servnames, if_neg (by omega), headed.read]
      simp only [ok_bind, length, headD_cons]
      rw [if_neg (by omega)]
      by_cases host : name.nameType = 0
      · have first : firstHost (name :: names) = some name.name := by
          rw [firstHost, find?_cons_of_pos (by rw [isHostName, host]; rfl)]
          rfl
        rw [if_pos host, first]
        exact ⟨_, rfl, .found headed.inside⟩
      · have later : firstHost (name :: names) = firstHost names := by
          rw [firstHost, find?_cons_of_neg (by simpa [isHostName] using host)]
          rfl
        rw [if_neg host, later]
        exact ih headed.behind (by omega) (by omega)

lemma extResult_render {extension : Extension} (shows : view.Shows extension.data)
    (fits : extension.data.length < 65536) :
    ∃ result, extResult extension.type view = .ok result ∧
      Says (firstHost extension.names) result := by
  cases extension with
  | other _ known => exact ⟨_, if_neg known.1.ne', .done⟩
  | serverName names =>
    rw [Extension.data, length_vector] at fits
    have list : view.Shows (vector 2 (names.flatMap render) ++ []) := by
      rw [append_nil]
      exact shows
    have length := list.datalen (lt_of_le_of_lt (Nat.le_add_left _ 2) fits)
    have behind : (view.behind 2 (names.flatMap render).length).Shows (names.flatMap render) := by
      rw [vector, append_assoc] at list
      exact list.behind (length_beBytes 2 _).symm rfl
    have result : extResult (Extension.serverName names).type view =
        servnames (names.flatMap render).length (view.behind 2 (names.flatMap render).length) := by
      rw [extResult, Extension.type, if_pos rfl, extServnameParse, length]
      rfl
    have short : (names.flatMap render).length < 65536 := by omega
    rw [result]
    exact servnames_render behind short (le_refl _)

/-! ## Extensions -/

/-- The first host name of a list of extensions. -/
def firstHostOf (extensions : List Extension) : Option Bytes :=
  firstHost (extensions.flatMap Extension.names)

lemma firstHost_append (front back : List ServerName) :
    firstHost (front ++ back) = (firstHost front).or (firstHost back) := by
  rw [firstHost, find?_append, firstHost]
  cases front.find? _ with
  | none | some => rfl

variable {commonName : Bytes → Option Bytes} {result : TlsParseResult} {after : TlsReader}
  {reader : TlsReader}

lemma rounds_of_none (goesOn : self.round commonName = .ok (none, after)) :
    rounds commonName (count + 1) self = rounds commonName count after := by
  rw [rounds, goesOn]
  rfl

lemma rounds_of_some (returns : self.round commonName = .ok (some result, after)) :
    rounds commonName (count + 1) self = .ok (some result, after) := by
  rw [rounds, returns]
  rfl

lemma round_of_message {type : UInt8} (state : self.state = .hshake)
    (filled : self.record.size ≠ 0) (parsed : self.hshakeParse = .ok (some (type, reader))) :
    self.round commonName = .ok (reader.onMessage type) := by
  rw [round, state]
  simp only [if_neg filled, parsed]
  rfl

lemma round_of_extension (state : self.state = .clihelExt) (filled : self.buf.size ≠ 0)
    (parsed : self.extParse = .ok (result, reader)) :
    self.round commonName = .ok (if result = .rdone then none else some result, reader) := by
  rw [round, state]
  simp only [if_neg filled, parsed]
  rfl

variable (commonName) in
/-- An extension is parsed: a host name is returned, and without one the loop goes on. -/
lemma round_extension {extension : Extension} (state : self.state = .clihelExt)
    (shows : self.buf.Shows (extension.render ++ rest))
    (fits : (extension.render ++ rest).length < 65536) :
    ∃ buf, buf.Shows rest ∧
      match firstHost extension.names with
      | some name => ∃ hostname, hostname.Shows name ∧
          self.round commonName =
            .ok (some .rclientHelloSni, { self with buf := buf, tlsHostname := hostname })
      | none => self.round commonName = .ok (none, { self with buf := buf }) := by
  have type : extension.type < 65536 := by
    cases extension with
    | serverName => exact Nat.zero_lt_succ _
    | other _ known => exact known.2
  have headed : self.buf.Headed 4 (beBytes 2 extension.type ++ beBytes 2 extension.data.length)
      extension.data rest := by
    refine Shows.headed ?_ rfl
    rw [Extension.render, append_assoc] at shows
    exact shows
  have size := headed.size
  have total := shows.size
  have typeValue : beNat ((beBytes 2 extension.type ++
      beBytes 2 extension.data.length).take 2) = extension.type :=
    @beNat_beBytes_of_lt 2 _ type
  have lengthValue : beNat ((beBytes 2 extension.type ++
      beBytes 2 extension.data.length).drop 2) = extension.data.length :=
    beNat_beBytes_of_lt (by omega)
  refine ⟨_, headed.behind, ?_⟩
  obtain ⟨result, parsed, named⟩ := extResult_render headed.inside (by omega)
  have filled : self.buf.size ≠ 0 := by omega
  generalize firstHost _ = first at named ⊢
  cases named with
  | done =>
    have done : self.extParse =
        .ok (.rdone, { self with buf := self.buf.removePrefix (4 + extension.data.length) }) := by
      rw [extParse, if_neg (by omega), headed.read]
      simp only [ok_bind, typeValue, lengthValue, parsed]
      exact if_neg (by omega)
    exact round_of_extension state filled done
  | @found hostname name shows =>
    have done : self.extParse = .ok (.rclientHelloSni,
        { self with
          buf := self.buf.removePrefix (4 + extension.data.length)
          tlsHostname := hostname }) := by
      rw [extParse, if_neg (by omega), headed.read]
      simp only [ok_bind, typeValue, lengthValue, parsed]
      exact if_neg (by omega)
    exact ⟨hostname, shows, round_of_extension state filled done⟩

/-- The name is returned, if there is one. -/
def Returns (result : TlsParseResult) (after : TlsReader) : Option Bytes → Prop
  | some name => result = .rclientHelloSni ∧ after.tlsHostname.Shows name
  | none => result ≠ .rclientHelloSni

/-- The loop over the extensions finds the first host name. -/
lemma rounds_extensions {extensions : List Extension} (state : self.state = .clihelExt)
    (ends : self.record.size = 0) (shows : self.buf.Shows (extensions.flatMap Extension.render))
    (fits : (extensions.flatMap Extension.render).length < 65536)
    (enough : (extensions.flatMap Extension.render).length + 2 ≤ count) :
    ∃ result after, rounds commonName count self = .ok (some result, after) ∧
      Returns result after (firstHostOf extensions) := by
  induction extensions generalizing self count with
  | nil =>
    obtain ⟨count, rfl⟩ := Nat.exists_eq_add_of_le' enough
    have size : self.buf.size = 0 := shows.size
    have first : self.round commonName = .ok (none, { self with state := .hshake }) := by
      rw [round, state]
      exact if_pos size
    have second : round { self with state := .hshake } commonName =
        .ok (some .rdone, { self with state := .record }) := if_pos ends
    exact ⟨_, _, (rounds_of_none first).trans (rounds_of_some second), by intro found; cases found⟩
  | cons extension extensions ih =>
    rw [flatMap_cons] at shows fits enough
    obtain ⟨buf, behind, parsed⟩ := round_extension _ state shows fits
    have names : firstHostOf (extension :: extensions) =
        (firstHost extension.names).or (firstHostOf extensions) := by
      rw [firstHostOf, flatMap_cons, firstHost_append, firstHostOf]
    rw [names]
    cases count with
    | zero => omega
    | succ =>
      cases first : firstHost extension.names with
      | some =>
        rw [first] at parsed
        obtain ⟨hostname, showing, returns⟩ := parsed
        exact ⟨_, _, rounds_of_some returns, rfl, showing⟩
      | none =>
        rw [first] at parsed
        rw [rounds_of_none parsed]
        rw [length_append] at fits enough
        have header : 4 ≤ extension.render.length := by
          rw [Extension.render, length_append, length_vector, length_beBytes]
          omega
        let after : TlsReader := { self with buf := buf }
        have goesOn : after.state = .clihelExt ∧ after.record.size = 0 := ⟨state, ends⟩
        exact ih goesOn.1 goesOn.2 behind (by omega) (by omega)

/-! ## The two calls -/

/-- The reader behind the fixed part of a client hello. -/
structure AtExtensions (reader : TlsReader) (hello : ClientHello) : Prop where
  state : reader.state = .clihelExts
  buf : reader.buf.Shows hello.renderExtensions
  ends : reader.record.size = 0

lemma tlsParse_of_rounds
    (returns : rounds commonName (self.buf.size + 6) self = .ok (some result, after)) :
    self.tlsParse commonName = .ok (result, after) := by
  rw [tlsParse, returns]
  rfl

lemma tlsParse_of_more (state : self.state = .record) (more : self.recParse = .ok .more) :
    self.tlsParse commonName = .ok (.rmore, self) := by
  have waits : self.round commonName = .ok (some .rmore, self) := by
    rw [round, state]
    simp only [more]
    rfl
  exact tlsParse_of_rounds (rounds_of_some waits)

variable (commonName) in
lemma tlsParse_record (state : self.state = .record) (shows : self.input.Shows record.render) :
    ∃ after, self.tlsParse commonName = .ok (.rclientHello, after) ∧
      after.AtExtensions record.hello := by
  rw [render_eq] at shows
  let inRecord : TlsReader :=
    { self with
      record := self.input.behind 5 record.hello.message.length
      input := self.input.removePrefix (5 + record.hello.message.length)
      state := .hshake }
  have first : self.round commonName = .ok (none, inRecord) := by
    rw [round, state]
    simp only [recParse_of_header shows, if_neg (lt_irrefl _)]
    rfl
  have msg : inRecord.record.Shows record.hello.message := by
    have whole := shows
    rw [← append_nil record.hello.message] at whole
    exact whole.behind rfl rfl
  obtain ⟨inHello, parsed, body, ends⟩ := hshakeParse_message msg record.fits
  have fits := record.fits
  have longer : record.hello.message.length = 4 + record.hello.body.length := by
    rw [ClientHello.message, length_cons, length_vector]
    omega
  have second : inRecord.round commonName = .ok (none, { inHello with state := .clihel }) := by
    have filled : ¬inRecord.record.size = 0 := by
      rw [msg.size]
      omega
    exact round_of_message rfl filled parsed
  let hello : TlsReader := { inHello with state := .clihel }
  have helloBody : hello.buf.Shows record.hello.body := body
  obtain ⟨buf, parsed, extensions⟩ := helloParse_body helloBody (by omega)
  have third : hello.round commonName =
      .ok (some .rclientHello, { hello with buf := buf, state := .clihelExts }) := by
    have unfolded : hello.round commonName = (do
        let parsed ← hello.helloParse
        return hello.orError parsed (some .rclientHello) .clihelExts) := rfl
    rw [unfolded, parsed]
    rfl
  refine ⟨{ hello with buf := buf, state := .clihelExts }, tlsParse_of_rounds ?_, rfl,
    extensions, ends⟩
  exact (rounds_of_none first).trans ((rounds_of_none second).trans (rounds_of_some third))

variable (commonName) in
lemma tlsParse_extensions (reached : self.AtExtensions hello)
    (fits : hello.renderExtensions.length < 65536) :
    ∃ result after, self.tlsParse commonName = .ok (result, after) ∧
      Returns result after (firstHostOf (hello.extensions.getD [])) := by
  have buf := reached.buf
  have unfolded : self.round commonName = (do
      let parsed ← self.extsData
      return self.orError parsed none .clihelExt) := by
    rw [round, reached.state]
  cases extensions : hello.extensions with
  | none =>
    have size : self.buf.size = 0 := by
      rw [buf.size, ClientHello.renderExtensions, extensions]
      rfl
    have fails : self.round commonName = .ok (some .rerr, self) := by
      have missing : self.buf.datalen 2 = .ok none := if_pos (by omega)
      rw [unfolded, extsData, missing]
      rfl
    exact ⟨_, _, tlsParse_of_rounds (rounds_of_some fails), by intro found; cases found⟩
  | some list =>
    rw [ClientHello.renderExtensions, extensions] at buf fits
    rw [length_vector] at fits
    have all : self.buf.Shows (vector 2 (list.flatMap Extension.render) ++ []) := by
      rw [append_nil]
      exact buf
    have length := all.datalen (lt_of_le_of_lt (Nat.le_add_left _ 2) fits)
    have shows : (self.buf.removePrefix 2).Shows (list.flatMap Extension.render) := by
      have content : self.buf.Shows (beBytes 2 (list.flatMap Extension.render).length ++
          list.flatMap Extension.render) := buf
      exact content.removePrefix (length_beBytes 2 _).symm
    let inside : TlsReader := { self with buf := self.buf.removePrefix 2, state := .clihelExt }
    have first : self.round commonName = .ok (none, inside) := by
      rw [unfolded, extsData, length]
      rfl
    have size : self.buf.size = 2 + (list.flatMap Extension.render).length := by
      rw [buf.size]
      exact length_vector 2 _
    obtain ⟨result, after, returns, named⟩ := @rounds_extensions (self.buf.size + 5) inside
      _ list rfl reached.ends shows (by omega) (by omega)
    exact ⟨result, after, tlsParse_of_rounds ((rounds_of_none first).trans returns), named⟩

end TlsReader

end Tls

namespace DomainExtractor

variable (commonName : Bytes → Option Bytes) {record : HelloRecord}

/-! ## The parser of the extractor -/

variable {parser : TlsParser} {buffer : Bytes}

lemma parseClientHello_of_more (state : parser.reader.state = .record)
    (more : (parser.reader.tlsInput buffer).recParse = .ok .more) :
    parser.parseClientHello commonName buffer = .ok (.wantMore,
      { parser with reader := parser.reader.tlsInput buffer, bufferOffset := 0 }, buffer) := by
  have waits : (parser.reader.tlsInput buffer).tlsParse commonName =
      .ok (.rmore, parser.reader.tlsInput buffer) := TlsReader.tlsParse_of_more state more
  rw [TlsParser.parseClientHello, waits]
  rfl

/-- What the parser answers to a whole client hello. -/
def nameFound (hello : ClientHello) : DomainExtractorResult :=
  match TlsReader.firstHostOf (hello.extensions.getD []) with
  | some name => if name = [] then .pass else .found name
  | none => .pass

variable (record) in
lemma parseClientHello_record (state : parser.reader.state = .record) :
    ∃ after, parser.parseClientHello commonName record.render =
      .ok (nameFound record.hello, after, []) := by
  have input : (parser.reader.tlsInput record.render).input.Shows record.render :=
    View.shows_ofBytes _
  have fed : (parser.reader.tlsInput record.render).state = .record := state
  obtain ⟨reader, first, reached⟩ := TlsReader.tlsParse_record _ fed input
  have fits : record.hello.renderExtensions.length < 65536 := by
    have whole := record.fits
    rw [ClientHello.message, length_cons, length_vector, ClientHello.body, length_append] at whole
    omega
  obtain ⟨result, after, parsed, returns⟩ := TlsReader.tlsParse_extensions commonName reached fits
  rw [TlsParser.parseClientHello, first, nameFound]
  cases host : TlsReader.firstHostOf _ with
  | some name =>
    rw [host] at returns
    obtain ⟨rfl, shows⟩ := returns
    have size : after.tlsHostname.size ≠ 0 ↔ name ≠ [] := by
      rw [shows.size]
      exact not_congr length_eq_zero_iff
    by_cases empty : name = []
    · refine ⟨{ state := .serverHello, reader := after, bufferOffset := 0 }, ?_⟩
      simp only [ok_bind, parsed, true_and, size, if_neg (not_not_intro empty), if_pos empty]
      rfl
    · refine ⟨{ parser with reader := after, bufferOffset := 0 }, ?_⟩
      simp only [ok_bind, parsed, true_and, size, if_pos empty, if_neg empty, domainOf, shows.whole]
      rfl
  | none =>
    rw [host] at returns
    refine ⟨{ state := .serverHello, reader := after, bufferOffset := 0 }, ?_⟩
    simp only [ok_bind, parsed, if_neg fun found : _ ∧ _ => returns found.1]
    rfl

/-! ## Segments -/

variable {commonName} {result : DomainExtractorResult} {dir : PacketDirection}

lemma runParsers_tls {after : TlsParser} (parsers : List Parser)
    (parsed : parser.parse commonName buffer dir = .ok (result, after, rest))
    (answer : result ≠ .notfound) :
    runParsers commonName dir (.tls parser :: parsers) buffer =
      .ok (result, ⟨.tls after :: parsers, rest⟩) := by
  rw [runParsers, Parser.parse, parsed]
  cases result with
  | notfound => exact absurd rfl answer
  | found | pass | wantMore => rfl

/-- The extractor has got the given bytes and waits for more of a record. -/
def Waits (context : Option Context) (sent : Bytes) : Prop :=
  ∃ parser : TlsParser, parser.state = .idle ∧ parser.reader.state = .record ∧
    context.getD ⟨parsersFor true, []⟩ = ⟨[.tls parser, .http], sent⟩

lemma waits_none : Waits none [] := ⟨.new, rfl, rfl, rfl⟩

lemma parse_of_idle (idle : parser.state = .idle) (buffer : Bytes) :
    parser.parse commonName buffer .outgoing = parser.parseClientHello commonName buffer := by
  simp [TlsParser.parse, idle]

variable (commonName)

/-- A domain is answered only if it is printable. -/
def checked : DomainExtractorResult → DomainExtractorResult
  | .found domain => if domain.all isPrintable then .found domain else .notfound
  | answer => answer

variable {context : Option Context} {sent : Bytes} {last : Bytes}

lemma proceed_of_runs {data : Bytes} {parsers : List Parser} {after : Context}
    (same : context.getD ⟨parsersFor true, []⟩ = ⟨parsers, sent⟩)
    (runs : runParsers commonName dir parsers (sent ++ data) = .ok (result, after)) :
    proceed commonName true context dir data = .ok (checked result, after) := by
  rw [proceed, same]
  simp only [ok_bind, runs]
  cases result <;> rfl

lemma proceed_of_more {segment : Bytes} (waits : Waits context sent)
    (more : ∀ reader : TlsReader, reader.input.Shows (sent ++ segment) →
      reader.recParse = .ok .more) :
    ∃ after, proceed commonName true context .outgoing segment = .ok (.wantMore, after) ∧
      Waits (some after) (sent ++ segment) := by
  obtain ⟨parser, idle, state, same⟩ := waits
  have parsed := parseClientHello_of_more commonName state (more _ (View.shows_ofBytes _))
  rw [← parse_of_idle idle] at parsed
  have runs := runParsers_tls [.http] parsed (by decide)
  let after : TlsParser :=
    { parser with reader := parser.reader.tlsInput (sent ++ segment), bufferOffset := 0 }
  exact ⟨⟨[.tls after, .http], sent ++ segment⟩, proceed_of_runs _ same runs, after, idle,
    state, rfl⟩

lemma nameFound_ne (hello : ClientHello) : nameFound hello ≠ .notfound := by
  rw [nameFound]
  split
  · split <;> exact nofun
  · exact nofun

lemma proceed_record (waits : Waits context sent) (splits : sent ++ last = record.render) :
    ∃ after, proceed commonName true context .outgoing last =
      .ok (checked (nameFound record.hello), after) := by
  obtain ⟨parser, idle, state, same⟩ := waits
  obtain ⟨after, parsed⟩ := parseClientHello_record _ record state
  rw [← parse_of_idle idle] at parsed
  rw [← splits] at parsed
  exact ⟨_, proceed_of_runs _ same (runParsers_tls [.http] parsed (nameFound_ne _))⟩

lemma answers_segments {segments : List Bytes} (waits : Waits context sent)
    (splits : sent ++ (segments.flatten ++ last) = record.render) (filled : last ≠ []) :
    answers commonName true context (segments ++ [last]) =
      .ok (segments.map (fun _ => DomainExtractorResult.wantMore) ++
        [checked (nameFound record.hello)]) := by
  induction segments generalizing context sent with
  | nil =>
    obtain ⟨after, answered⟩ := proceed_record _ waits splits
    rw [flatten_nil, nil_append] at answered
    rw [nil_append, answers, answered]
    rfl
  | cons _ segments ih =>
    rw [flatten_cons, append_assoc, ← append_assoc] at splits
    have missing : segments.flatten ++ last ≠ [] :=
      fun nothing => filled (append_eq_nil_iff.mp nothing).2
    obtain ⟨after, answered, waits⟩ := proceed_of_more _ waits
      fun _ shows => TlsReader.recParse_incomplete shows splits missing
    rw [cons_append, answers, answered]
    simp only [ok_bind, ih waits splits]
    rfl

/-- However the record of a client hello is split, the extractor waits for its last byte. Then
it answers with the first host name if that is a printable one, and lets a client hello without
server names pass. -/
theorem answers_hello (record : HelloRecord) (segments : List Bytes) (last : Bytes)
    (splits : segments.flatten ++ last = record.render) (filled : last ≠ []) :
    ∃ answer, answers commonName true none (segments ++ [last]) =
        .ok (segments.map (fun _ => .wantMore) ++ [answer]) ∧
      (∀ name, record.hello.hostNames.head? = some name → name ≠ [] → name.all isPrintable →
        answer = .found name) ∧
      ((∀ extension ∈ record.hello.extensions.getD [], extension.type ≠ 0) → answer = .pass) := by
  refine ⟨checked _, answers_segments _ waits_none splits filled, ?_, ?_⟩
  · intro name first nonempty printable
    rw [ClientHello.hostNames, head?_map, head?_filter] at first
    rw [nameFound, TlsReader.firstHostOf, TlsReader.firstHost, first]
    simp only [if_neg nonempty, checked, if_pos printable]
  · intro others
    have names : (record.hello.extensions.getD []).flatMap Extension.names = [] := by
      rw [flatMap_eq_nil_iff]
      intro extension mem
      cases extension with
      | serverName => exact absurd rfl (others _ mem)
      | other => rfl
    rw [nameFound, TlsReader.firstHostOf, names]
    rfl

/-- A client hello with an extension in front of its server names. -/
def namedHello : ClientHello where
  legacyVersion := [3, 3]
  random := List.replicate 32 7
  legacySessionId := []
  cipherSuites := [19, 1]
  legacyCompressionMethods := [0]
  extensions := some [.other 23 (by decide) [], .serverName [⟨0, [97, 46, 98]⟩]]
  version_length := rfl
  random_length := rfl
  sessionId_length := by decide
  compressionMethods_length := by decide

def namedRecord : HelloRecord := ⟨769, namedHello, by decide, by decide⟩

theorem answers_hello_named :
    ∃ answer, answers (fun _ => none) true none
        [namedRecord.render.take 9, namedRecord.render.drop 9] = .ok [.wantMore, answer] ∧
      answer = .found [97, 46, 98] := by
  obtain ⟨answer, answered, found, _⟩ := answers_hello (fun _ => none) namedRecord
    [namedRecord.render.take 9] (namedRecord.render.drop 9) (by decide) (by decide)
  exact ⟨answer, answered, found [97, 46, 98] (by decide) (by decide) (by decide)⟩

end DomainExtractor

end TrustTunnel.Client
