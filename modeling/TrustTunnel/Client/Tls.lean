import TrustTunnel.Wire.Bytes

/-!
# Parsing TLS records

The client's parser for TLS records and handshake messages. It works on views of the input,
which are pointers with a size; a pointer is modelled by the bytes of the input from it on, so
that reading past the end of the input is a fault.
-/

namespace TrustTunnel.Client.Tls

open Wire

/-- A view: the bytes of the input from its beginning on, and its size. -/
structure View where
  bytes : Bytes
  size : Nat

namespace View

def ofBytes (input : Bytes) : View := ⟨input, input.length⟩

def empty : View := ⟨[], 0⟩

variable (self : View)

/-- The first bytes, whatever the size of the view is. -/
def read (count : Nat) : Except Fault Bytes :=
  if count ≤ self.bytes.length then .ok (self.bytes.take count) else .error .outOfRange

/-- `remove_prefix`; the size is a `size_t` and wraps around. -/
def removePrefix (count : Nat) : View :=
  ⟨self.bytes.drop count,
    if count ≤ self.size then self.size - count else 18446744073709551616 + self.size - count⟩

/-- A view that begins behind some bytes of this one. -/
def behind (count size : Nat) : View := ⟨self.bytes.drop count, size⟩

/-- `datalen8`, `datalen16` and `datalen24`: the length that a number of the given width in
front of a vector says, unless the vector is longer than the view. -/
def datalen (width : Nat) : Except Fault (Option Nat) :=
  if self.size < width then .ok none
  else do
    let length ← self.read width
    return if self.size < width + beNat length then none else some (beNat length)

end View

inductive TlsParseResult where
  | rerr
  | rmore
  | rclientHello
  | rclientHelloSni
  | rservHello
  | rcert
  | rdone
  deriving DecidableEq

/-- The states of `tls_parse`. -/
inductive TlsState where
  | record
  | hshake
  | clihel
  | clihelExts
  | clihelExt
  | certs
  deriving DecidableEq

structure TlsReader where
  state : TlsState
  input : View
  record : View
  buf : View
  tlsHostname : View
  x509SubjectCommonName : Bytes

variable {parsed : Option TlsReader}

namespace TlsReader

/-- A reader without an input. -/
def init : TlsReader := ⟨.record, .empty, .empty, .empty, .empty, []⟩

/-- `tls_input`. -/
def tlsInput (self : TlsReader) (input : Bytes) : TlsReader := { self with input := .ofBytes input }

/-- `tls_input_hshake`. -/
def tlsInputHshake (self : TlsReader) (input : Bytes) : TlsReader :=
  { self with record := .ofBytes input, state := .hshake }

variable (self : TlsReader)

/-! ## Records and messages -/

inductive RecResult where
  | more
  | failed
  | parsed (type : UInt8) (reader : TlsReader)

/-- With two bytes the type of the record is looked at. -/
def isHandshake : Except Fault Bool :=
  if self.input.size < 2 then .ok true
  else do
    let type ← self.input.read 1
    return type == [22]

def recParse : Except Fault RecResult := do
  if (← self.isHandshake) = false then return .failed
  else if self.input.size < 5 then return .more
  else
    let header ← self.input.read 5
    let length := beNat (header.drop 3)
    if self.input.size < 5 + length then return .more
    else if beNat ((header.drop 1).take 2) < 769 then return .failed
    else
      return .parsed (header.headD 0)
        { self with
          record := self.input.behind 5 length
          input := self.input.removePrefix (5 + length) }

/-- The type of a message and the reader behind it. -/
def hshakeParse : Except Fault (Option (UInt8 × TlsReader)) :=
  if self.record.size < 4 then .ok none
  else do
    let header ← self.record.read 4
    let length := beNat (header.drop 1)
    if self.record.size - 1 < length then return none
    else
      return some (header.headD 0,
        { self with
          record := self.record.removePrefix (4 + length)
          buf := self.record.behind 4 length })

/-! ## Client hello -/

/-- Skip a vector with its length in front, if it is inside of the view. -/
def skipVector (width : Nat) (data : View) : Except Fault (Option View) := do
  let length ← data.datalen width
  return length.map fun length => data.removePrefix (width + length)

/-- What is behind the compression methods. -/
def helloParse : Except Fault (Option TlsReader) :=
  if self.buf.size < 35 then .ok none
  else do
    let fixed ← self.buf.read 35
    let sessionId := (fixed.getD 34 0).toNat
    if self.buf.size - 35 < sessionId then return none
    else
      match ← skipVector 2 (self.buf.removePrefix (35 + sessionId)) with
      | none => return none
      | some compMeth =>
        let exts ← skipVector 1 compMeth
        return exts.map fun exts => { self with buf := exts }

def extsData : Except Fault (Option TlsReader) := do
  let length ← self.buf.datalen 2
  return length.map fun _ => { self with buf := self.buf.removePrefix 2 }

inductive ServnameResult where
  | failed
  | done
  | found (hostname : View)

/-- The loop over the names; there are at most as many of them as bytes. -/
def servnames : Nat → View → Except Fault ServnameResult
  | 0, _ => .ok .done
  | rounds + 1, names =>
    if names.size < 3 then .ok .done
    else do
      let header ← names.read 3
      let length := beNat (header.drop 1)
      if names.size < 3 + length then return .failed
      else if header.headD 0 = 0 then return .found (names.behind 3 length)
      else servnames rounds (names.removePrefix (3 + length))

def extServnameParse (data : View) : Except Fault ServnameResult := do
  match ← data.datalen 2 with
  | none => return .failed
  | some size => servnames size (data.behind 2 size)

/-- What an extension of the given type says. -/
def extResult (type : Nat) (data : View) : Except Fault ServnameResult :=
  if type = 0 then extServnameParse data else .ok .done

/-- The result of `ext_parse`, and the reader behind the extension. -/
def extParse : Except Fault (TlsParseResult × TlsReader) :=
  if self.buf.size < 4 then .ok (.rerr, self)
  else do
    let header ← self.buf.read 4
    let length := beNat (header.drop 2)
    if self.buf.size < 4 + length then return (.rerr, self)
    else
      let behind := { self with buf := self.buf.removePrefix (4 + length) }
      match ← extResult (beNat (header.take 2)) (self.buf.behind 4 length) with
      | .failed => return (.rerr, behind)
      | .done => return (.rdone, behind)
      | .found hostname => return (.rclientHelloSni, { behind with tlsHostname := hostname })

/-! ## Certificates -/

/-- The first certificate of a list. -/
def firstCert (data : View) : Except Fault (Option Bytes) := do
  match ← data.datalen 3 with
  | none => return none
  | some size =>
    let certificates := data.behind 3 size
    match ← certificates.datalen 3 with
    | none => return none
    | some size => return some (← (certificates.removePrefix 3).read size)

/-- The common name of the first certificate; `commonName` decodes a certificate. -/
def certsParse (commonName : Bytes → Option Bytes) : Except Fault (Option TlsReader) := do
  let certificate ← firstCert self.buf
  return (certificate.bind commonName).map fun name => { self with x509SubjectCommonName := name }

/-! ## The loop -/

/-- What `tls_parse` does behind the header of a handshake message. -/
def onMessage (type : UInt8) : Option TlsParseResult × TlsReader :=
  if type = 1 then (none, { self with state := .clihel })
  else if type = 2 then (some .rservHello, { self with state := .hshake })
  else if type = 11 then (none, { self with state := .certs })
  else if type = 12 ∨ type = 13 ∨ type = 14 then (some .rdone, { self with state := .hshake })
  else (some .rerr, self)

/-- The next state, or an error if a part cannot be parsed. -/
def orError (parsed : Option TlsReader) (result : Option TlsParseResult) (state : TlsState) :
    Option TlsParseResult × TlsReader :=
  match parsed with
  | none => (some .rerr, self)
  | some reader => (result, { reader with state := state })

/-- One round of the loop of `tls_parse`: a result to return, and the reader after it. -/
def round (commonName : Bytes → Option Bytes) : Except Fault (Option TlsParseResult × TlsReader) :=
  match self.state with
  | .record => do
      match ← self.recParse with
      | .more => return (some .rmore, self)
      | .failed => return (some .rerr, self)
      | .parsed type reader =>
        if type = 22 then return (none, { reader with state := .hshake })
        else return (some .rerr, reader)
  | .hshake =>
    if self.record.size = 0 then .ok (some .rdone, { self with state := .record })
    else do
      match ← self.hshakeParse with
      | none => return (some .rerr, self)
      | some (type, reader) => return reader.onMessage type
  | .clihel => do
      let parsed ← self.helloParse
      return self.orError parsed (some .rclientHello) .clihelExts
  | .clihelExts => do
      let parsed ← self.extsData
      return self.orError parsed none .clihelExt
  | .clihelExt =>
    if self.buf.size = 0 then .ok (none, { self with state := .hshake })
    else do
      let (result, reader) ← self.extParse
      return (if result = .rdone then none else some result, reader)
  | .certs => do
      let parsed ← self.certsParse commonName
      return self.orError parsed (some .rcert) .hshake

/-- The loop, with a number of rounds. -/
def rounds (commonName : Bytes → Option Bytes) :
    Nat → TlsReader → Except Fault (Option TlsParseResult × TlsReader)
  | 0, reader => .ok (none, reader)
  | count + 1, reader => do
      match ← reader.round commonName with
      | (some result, reader) => return (some result, reader)
      | (none, reader) => rounds commonName count reader

/-- `tls_parse`: there is at most one round for each byte of the extensions, and a few more. -/
def tlsParse (commonName : Bytes → Option Bytes) : Except Fault (TlsParseResult × TlsReader) := do
  let (result, reader) ← rounds commonName (self.buf.size + 6) self
  return (result.getD .rerr, reader)

/-! ## The loop ends -/

variable {self} {commonName : Bytes → Option Bytes} {after : TlsReader} {result : TlsParseResult}

/-- More than the number of rounds that are left. -/
def rank : Nat :=
  match self.state with
  | .record => 4
  | .hshake => 3
  | .clihel => 2
  | .certs => 2
  | .clihelExt => self.buf.size + 4
  | .clihelExts => self.buf.size + 5

lemma rank_onMessage (type : UInt8) (goesOn : (self.onMessage type).1 = none) :
    (self.onMessage type).2.rank ≤ 2 := by
  revert goesOn
  fun_cases self.onMessage type with
  | case1 | case3 => exact fun _ => le_refl _
  | case2 | case4 | case5 => exact nofun

lemma size_extParse (parsed : self.extParse = .ok (result, after)) (done : result = .rdone) :
    after.buf.size < self.buf.size ∧ after.state = self.state := by
  rw [extParse] at parsed
  split at parsed
  · cases parsed
    cases done
  obtain ⟨header, -, parsed⟩ := bind_eq_ok.mp parsed
  simp only at parsed
  split at parsed
  · cases parsed
    cases done
  rename_i inside
  obtain ⟨outcome, -, parsed⟩ := bind_eq_ok.mp parsed
  have fits := Nat.le_of_not_lt inside
  have smaller : (self.buf.removePrefix (4 + beNat (header.drop 2))).size < self.buf.size := by
    rw [View.removePrefix, if_pos fits]
    simp only
    omega
  cases outcome with
  | failed | found =>
    cases parsed
    cases done
  | done =>
    cases parsed
    exact ⟨smaller, rfl⟩

lemma size_extsData (parsed : self.extsData = .ok (some after)) :
    after.buf.size < self.buf.size := by
  obtain ⟨length, known, same⟩ := bind_eq_ok.mp parsed
  cases length with
  | none => cases same
  | some =>
    cases same
    rw [View.datalen] at known
    split at known
    · cases known
    · rename_i room
      simp only [View.removePrefix, if_pos (Nat.le_of_not_lt room)]
      omega

lemma orError_of_none {state : TlsState} (same : self.orError parsed none state = (none, after)) :
    ∃ reader, parsed = some reader ∧ after = { reader with state := state } := by
  cases parsed with
  | none => cases same
  | some reader =>
    cases same
    exact ⟨reader, rfl, rfl⟩

lemma rank_round (passes : self.round commonName = .ok (none, after)) : after.rank < self.rank := by
  rw [round] at passes
  cases state : self.state with
  | record =>
    simp only [state] at passes
    obtain ⟨result, -, passes⟩ := bind_eq_ok.mp passes
    cases result with
    | more | failed => cases passes
    | parsed =>
      simp only at passes
      split at passes
      · cases passes
        simp only [rank, state]
        omega
      · cases passes
  | hshake =>
    simp only [state] at passes
    split at passes
    · cases passes
    · obtain ⟨result, -, passes⟩ := bind_eq_ok.mp passes
      cases result with
      | none => cases passes
      | some msg =>
        have same : msg.2.onMessage msg.1 = (none, after) := Except.ok.inj passes
        have less := rank_onMessage _ (congrArg _ same)
        rw [same] at less
        have mine : self.rank = 3 := by rw [rank, state]
        omega
  | clihel | certs =>
    simp only [state] at passes
    obtain ⟨result, -, passes⟩ := bind_eq_ok.mp passes
    cases result with
    | none | some => cases passes
  | clihelExts =>
    simp only [state] at passes
    obtain ⟨result, parsed, passes⟩ := bind_eq_ok.mp passes
    obtain ⟨reader, rfl, rfl⟩ := orError_of_none (Except.ok.inj passes)
    have smaller := size_extsData parsed
    simp only [rank, state]
    omega
  | clihelExt =>
    simp only [state] at passes
    split at passes
    · cases passes
      simp only [rank, state]
      omega
    · obtain ⟨⟨result, reader⟩, parsed, passes⟩ := bind_eq_ok.mp passes
      by_cases done : result = .rdone
      · have smaller := size_extParse parsed done
        simp only [if_pos done] at passes
        cases passes
        simp only [rank, smaller.2, state]
        omega
      · simp only [if_neg done] at passes
        cases passes

variable (self) in
lemma rank_lt : self.rank < self.buf.size + 6 := by
  rw [rank]
  split
  all_goals omega

lemma rounds_returns {count : Nat} {result : Option TlsParseResult} (enough : self.rank < count)
    (passes : rounds commonName count self = .ok (result, after)) : result ≠ none := by
  induction count generalizing self with
  | zero => exact absurd enough (Nat.not_lt_zero _)
  | succ _ ih =>
    obtain ⟨⟨early, middle⟩, first, rest⟩ := bind_eq_ok.mp passes
    cases early with
    | some =>
      cases rest
      exact Option.some_ne_none _
    | none =>
      have less := rank_round first
      exact ih (by omega) rest

/-- The loop of `tls_parse` ends: it returns or faults within its rounds, whatever the input. -/
theorem rounds_ne_none (self after : TlsReader) (commonName : Bytes → Option Bytes) :
    rounds commonName (self.buf.size + 6) self ≠ .ok (none, after) :=
  fun passes => rounds_returns self.rank_lt passes rfl

end TlsReader

/-!
## The TLS parser stays inside of its input

Every view of the reader is a part of the input, and nothing is read outside of it, unless a
handshake message says that it is one to three bytes longer than what is left of its record.
-/

namespace View

/-- The view is a part of the input. -/
structure Within (whole : Bytes) (view : View) : Prop where
  suffix : view.bytes <:+ whole
  size : view.size ≤ view.bytes.length

variable {input : Bytes} {view : View} {count size : Nat}

lemma within_ofBytes (input : Bytes) : (ofBytes input).Within input :=
  ⟨List.suffix_refl input, le_refl _⟩

lemma within_empty (input : Bytes) : empty.Within input := ⟨List.nil_suffix, le_refl _⟩

lemma Within.read (within : view.Within input) (inside : count ≤ view.size) :
    view.read count = .ok (view.bytes.take count) := by
  rw [View.read, if_pos (le_trans inside within.size)]

lemma size_removePrefix (inside : count ≤ view.size) :
    (view.removePrefix count).size = view.size - count := if_pos inside

lemma Within.behind (within : view.Within input) (inside : count + size ≤ view.size) :
    (view.behind count size).Within input := by
  have longer := within.size
  refine ⟨(List.drop_suffix count _).trans within.suffix, ?_⟩
  have shorter : (view.behind count size).bytes.length = view.bytes.length - count :=
    List.length_drop
  have same : (view.behind count size).size = size := rfl
  omega

lemma Within.removePrefix (within : view.Within input) (inside : count ≤ view.size) :
    (view.removePrefix count).Within input := by
  have part : (view.behind count (view.size - count)).Within input := within.behind (by omega)
  exact ⟨part.suffix, (size_removePrefix inside).symm ▸ part.size⟩

/-- A length that is found is that of a vector inside of the view. -/
lemma Within.datalen (within : view.Within input) (width : Nat) :
    ∃ length, view.datalen width = .ok length ∧ ∀ found ∈ length, width + found ≤ view.size := by
  rw [View.datalen]
  split
  · exact ⟨none, rfl, by simp⟩
  · rename_i room
    rw [within.read (Nat.le_of_not_lt room)]
    refine ⟨_, rfl, ?_⟩
    intro found mem
    split at mem
    · cases mem
    · rename_i inside
      cases mem
      exact Nat.le_of_not_lt inside

/-- The length that a handshake message says. -/
def declared (view : View) : Nat := beNat ((view.bytes.take 4).drop 1)

/-- A handshake message is longer than the rest of the record, but by less than its header. -/
structure Overlong (view : View) : Prop where
  header : 4 ≤ view.size
  beyond : view.size < 4 + view.declared
  accepted : view.declared < view.size

instance (view : View) : Decidable view.Overlong :=
  decidable_of_iff (4 ≤ view.size ∧ view.size < 4 + view.declared ∧ view.declared < view.size)
    ⟨fun ⟨header, beyond, accepted⟩ => ⟨header, beyond, accepted⟩,
      fun ⟨header, beyond, accepted⟩ => ⟨header, beyond, accepted⟩⟩

end View

namespace TlsReader

/-- All views of the reader are parts of the input. -/
structure Within (whole : Bytes) (reader : TlsReader) : Prop where
  input : reader.input.Within whole
  record : reader.record.Within whole
  buf : reader.buf.Within whole
  tlsHostname : reader.tlsHostname.Within whole

variable {input : Bytes} {self : TlsReader} {commonName : Bytes → Option Bytes}

/-! ## Parts of the parser -/

lemma skipVector_within {view : View} (within : view.Within input) (width : Nat) :
    ∃ result, skipVector width view = .ok result ∧ ∀ rest ∈ result, rest.Within input := by
  obtain ⟨length, known, inside⟩ := within.datalen width
  refine ⟨_, by rw [skipVector, known]; rfl, ?_⟩
  intro rest mem
  obtain ⟨found, present, rfl⟩ := Option.map_eq_some_iff.mp mem
  exact within.removePrefix (inside found present)

/-- The loop over the names finds a name inside of the list. -/
lemma servnames_within (rounds : Nat) {names : View} (within : names.Within input) :
    ∃ result, servnames rounds names = .ok result ∧
      ∀ hostname, result = .found hostname → hostname.Within input := by
  induction rounds generalizing names with
  | zero => exact ⟨.done, rfl, by simp⟩
  | succ _ ih =>
    rw [servnames]
    split
    · exact ⟨.done, rfl, by simp⟩
    · rename_i room
      rw [within.read (Nat.le_of_not_lt room)]
      simp only [ok_bind]
      split
      · exact ⟨.failed, rfl, by simp⟩
      · rename_i inside
        have inside := Nat.le_of_not_lt inside
        split
        · refine ⟨_, rfl, ?_⟩
          rintro hostname ⟨⟩
          exact within.behind inside
        · exact ih (within.removePrefix inside)

lemma extResult_within {data : View} (within : data.Within input) (type : Nat) :
    ∃ result, extResult type data = .ok result ∧
      ∀ hostname, result = .found hostname → hostname.Within input := by
  rw [extResult]
  split
  · obtain ⟨length, known, inside⟩ := within.datalen 2
    rw [extServnameParse, known]
    cases length with
    | none => exact ⟨.failed, rfl, by simp⟩
    | some size => exact servnames_within size (within.behind (inside size rfl))
  · exact ⟨.done, rfl, by simp⟩

section

variable (within : self.Within input)

include within

lemma recParse_within :
    ∃ result, self.recParse = .ok result ∧
      ∀ type reader, result = .parsed type reader → reader.Within input := by
  have known : ∃ handshake, self.isHandshake = .ok handshake := by
    rw [isHandshake]
    split
    · exact ⟨_, rfl⟩
    · rw [within.input.read (by omega)]
      exact ⟨_, rfl⟩
  obtain ⟨handshake, known⟩ := known
  rw [recParse, known]
  simp only [bind, Except.bind]
  split
  · exact ⟨_, rfl, by simp⟩
  split
  · exact ⟨_, rfl, by simp⟩
  · rename_i room
    rw [within.input.read (Nat.le_of_not_lt room)]
    simp only
    split
    · exact ⟨_, rfl, by simp⟩
    split
    · exact ⟨_, rfl, by simp⟩
    · rename_i inside _
      refine ⟨_, rfl, ?_⟩
      rintro type reader ⟨⟩
      have inside := Nat.le_of_not_lt inside
      exact ⟨within.input.removePrefix inside, within.input.behind inside, within.buf,
        within.tlsHostname⟩

lemma hshakeParse_within (fits : ¬self.record.Overlong) :
    ∃ result, self.hshakeParse = .ok result ∧
      ∀ type reader, result = some (type, reader) →
        4 + reader.buf.size ≤ self.record.size ∧ reader.Within input := by
  rw [hshakeParse]
  split
  · exact ⟨none, rfl, by simp⟩
  · rename_i room
    rw [within.record.read (Nat.le_of_not_lt room)]
    simp only [ok_bind]
    split
    · exact ⟨none, rfl, by simp⟩
    · rename_i accepted
      refine ⟨_, rfl, ?_⟩
      rintro type reader ⟨⟩
      have inside : 4 + self.record.declared ≤ self.record.size := by
        by_contra beyond
        refine fits ⟨Nat.le_of_not_lt room, Nat.lt_of_not_le beyond, ?_⟩
        have accepted : ¬self.record.size - 1 < self.record.declared := accepted
        omega
      exact ⟨inside, within.input, within.record.removePrefix inside,
        within.record.behind inside, within.tlsHostname⟩

lemma Within.withBuf {buf : View} (inside : buf.Within input) :
    Within input { self with buf := buf } :=
  ⟨within.input, within.record, inside, within.tlsHostname⟩

lemma helloParse_within :
    ∃ result, self.helloParse = .ok result ∧ ∀ reader ∈ result, reader.Within input := by
  rw [helloParse]
  split
  · exact ⟨none, rfl, by simp⟩
  · rename_i room
    rw [within.buf.read (Nat.le_of_not_lt room)]
    simp only [bind, Except.bind]
    split
    · exact ⟨none, rfl, by simp⟩
    · have suites : (self.buf.removePrefix
          (35 + ((self.buf.bytes.take 35).getD 34 0).toNat)).Within input :=
        within.buf.removePrefix (by omega)
      obtain ⟨methods, skipped, methodsWithin⟩ := skipVector_within suites 2
      rw [skipped]
      cases methods with
      | none => exact ⟨none, rfl, by simp⟩
      | some methods =>
        obtain ⟨exts, skipped, extsWithin⟩ := skipVector_within (methodsWithin methods rfl) 1
        simp only [skipped]
        refine ⟨_, rfl, ?_⟩
        intro reader mem
        obtain ⟨buf, found, rfl⟩ := Option.map_eq_some_iff.mp mem
        exact within.withBuf (extsWithin buf found)

lemma extsData_within :
    ∃ result, self.extsData = .ok result ∧ ∀ reader ∈ result, reader.Within input := by
  obtain ⟨length, known, inside⟩ := within.buf.datalen 2
  refine ⟨_, by rw [extsData, known]; rfl, ?_⟩
  intro reader mem
  obtain ⟨found, present, rfl⟩ := Option.map_eq_some_iff.mp mem
  exact within.withBuf (within.buf.removePrefix (Nat.le_of_add_right_le (inside found present)))

lemma extParse_within :
    ∃ result reader, self.extParse = .ok (result, reader) ∧ reader.Within input := by
  rw [extParse]
  split
  · exact ⟨_, self, rfl, within⟩
  · rename_i room
    rw [within.buf.read (Nat.le_of_not_lt room)]
    simp only [ok_bind]
    split
    · exact ⟨_, self, rfl, within⟩
    · rename_i inside
      have inside := Nat.le_of_not_lt inside
      have behind := within.withBuf (within.buf.removePrefix inside)
      obtain ⟨result, known, found⟩ := extResult_within (within.buf.behind inside) _
      rw [known]
      cases result with
      | failed | done => exact ⟨_, _, rfl, behind⟩
      | found hostname => exact ⟨_, _, rfl, behind.input, behind.record, behind.buf, found _ rfl⟩

lemma certsParse_within (commonName : Bytes → Option Bytes) :
    ∃ result, self.certsParse commonName = .ok result ∧ ∀ reader ∈ result, reader.Within input := by
  have known : ∃ certificate, firstCert self.buf = .ok certificate := by
    obtain ⟨length, known, inside⟩ := within.buf.datalen 3
    rw [firstCert, known]
    cases length with
    | none => exact ⟨none, rfl⟩
    | some size =>
      have certificates := within.buf.behind (inside size rfl)
      obtain ⟨length, known, first⟩ := certificates.datalen 3
      simp only [ok_bind, known]
      cases length with
      | none => exact ⟨none, rfl⟩
      | some length =>
        have first := first length rfl
        have bytes := certificates.removePrefix (Nat.le_of_add_right_le first)
        have fits : length ≤ ((self.buf.behind 3 size).removePrefix 3).size := by
          rw [View.size_removePrefix (Nat.le_of_add_right_le first)]
          omega
        simp only [bytes.read fits]
        exact ⟨_, rfl⟩
  obtain ⟨certificate, known⟩ := known
  refine ⟨_, by rw [certsParse, known]; rfl, ?_⟩
  intro reader mem
  obtain ⟨name, -, rfl⟩ := Option.map_eq_some_iff.mp mem
  exact ⟨within.input, within.record, within.buf, within.tlsHostname⟩

/-! ## Rounds -/

lemma Within.withState (state : TlsState) : Within input { self with state := state } :=
  ⟨within.input, within.record, within.buf, within.tlsHostname⟩

lemma orError_within (parts : ∀ reader ∈ parsed, reader.Within input)
    (result : Option TlsParseResult) (state : TlsState) :
    (self.orError parsed result state).2.Within input := by
  cases parsed with
  | none => exact within
  | some reader => exact (parts reader rfl).withState state

lemma onMessage_within (type : UInt8) : (self.onMessage type).2.Within input := by
  fun_cases self.onMessage type with
  | case1 | case2 | case3 | case4 => exact within.withState _
  | case5 => exact within

/-- A round of the loop stays inside unless it meets a message that is too long. -/
lemma round_within (commonName : Bytes → Option Bytes)
    (fits : self.state = .hshake → ¬self.record.Overlong) :
    ∃ result reader, self.round commonName = .ok (result, reader) ∧ reader.Within input := by
  rw [round]
  cases state : self.state with
  | record =>
    obtain ⟨result, parsed, inside⟩ := recParse_within within
    simp only [parsed, ok_bind]
    cases result with
    | more | failed => exact ⟨_, self, rfl, within⟩
    | parsed type reader =>
      have inside := inside type reader rfl
      simp only
      split
      · exact ⟨_, _, rfl, inside.withState _⟩
      · exact ⟨_, _, rfl, inside⟩
  | hshake =>
    simp only
    split
    · exact ⟨_, _, rfl, within.withState _⟩
    · obtain ⟨result, parsed, inside⟩ := hshakeParse_within within (fits state)
      simp only [parsed, ok_bind]
      cases result with
      | none => exact ⟨_, self, rfl, within⟩
      | some msg =>
        have inside := (inside _ _ rfl).2
        exact ⟨_, _, rfl, onMessage_within inside _⟩
  | clihel =>
    obtain ⟨result, parsed, inside⟩ := helloParse_within within
    simp only [parsed, ok_bind]
    exact ⟨_, _, rfl, orError_within within inside _ _⟩
  | clihelExts =>
    obtain ⟨result, parsed, inside⟩ := extsData_within within
    simp only [parsed, ok_bind]
    exact ⟨_, _, rfl, orError_within within inside _ _⟩
  | clihelExt =>
    simp only
    split
    · exact ⟨_, _, rfl, within.withState _⟩
    · obtain ⟨result, reader, parsed, inside⟩ := extParse_within within
      simp only [parsed, ok_bind]
      exact ⟨_, reader, rfl, inside⟩
  | certs =>
    obtain ⟨result, parsed, inside⟩ := certsParse_within within commonName
    simp only [parsed, ok_bind]
    exact ⟨_, _, rfl, orError_within within inside _ _⟩

/-! ## Sequences of calls -/

/-- The readers before each round of a sequence of calls: a call is a number of rounds, and the
next one goes on where it has returned. -/
inductive Reached (commonName : Bytes → Option Bytes) (start : TlsReader) : TlsReader → Prop
  | start : Reached commonName start start
  | round {reader after : TlsReader} {result : Option TlsParseResult}
      (before : Reached commonName start reader)
      (passes : reader.round commonName = .ok (result, after)) : Reached commonName start after

end

/-- The reader stays inside of the input in the next round: its views are parts of it, nothing
else is read, and a handshake message that is accepted is inside of its record. -/
structure StaysInside (commonName : Bytes → Option Bytes) (whole : Bytes) (reader : TlsReader) :
    Prop where
  within : reader.Within whole
  reads : ∃ result after, reader.round commonName = .ok (result, after)
  accepts : reader.state = .hshake → ∀ type after, reader.hshakeParse = .ok (some (type, after)) →
    4 + after.buf.size ≤ reader.record.size

lemma staysInside_of_fits (within : self.Within input)
    (fits : self.state = .hshake → ¬self.record.Overlong) : self.StaysInside commonName input := by
  refine ⟨within, ?_, ?_⟩
  · obtain ⟨result, after, passes, -⟩ := round_within within _ fits
    exact ⟨result, after, passes⟩
  · intro state type after parsed
    obtain ⟨result, same, inside⟩ := hshakeParse_within within (fits state)
    rw [same] at parsed
    cases parsed
    exact (inside type after rfl).1

lemma not_staysInside_of_overlong (state : self.state = .hshake)
    (overlong : self.record.Overlong) : ¬self.StaysInside commonName input := by
  intro inside
  have room : ¬self.record.size < 4 := Nat.not_lt_of_le overlong.header
  have accepted : ¬self.record.size - 1 < beNat ((self.record.bytes.take 4).drop 1) := by
    have accepted : beNat ((self.record.bytes.take 4).drop 1) < self.record.size :=
      overlong.accepted
    omega
  have parsed := hshakeParse.eq_def self
  rw [if_neg room, inside.within.record.read overlong.header] at parsed
  simp only [ok_bind, if_neg accepted] at parsed
  have fits := inside.accepts state _ _ parsed
  exact Nat.not_lt_of_le fits overlong.beyond

/-- A reader with an input, or with the content of a handshake record. -/
def given (input : Bytes) : Bool → TlsReader
  | false => init.tlsInput input
  | true => init.tlsInputHshake input

/-- The parser stays inside of an input exactly when it does not meet a handshake message that
is one to three bytes longer than what is left of the record. -/
theorem staysInside_iff (commonName : Bytes → Option Bytes) (input : Bytes) (hshake : Bool) :
    (∀ reader, Reached commonName (given input hshake) reader →
      reader.StaysInside commonName input) ↔
    ∀ reader, Reached commonName (given input hshake) reader →
      reader.state = .hshake → ¬reader.record.Overlong := by
  constructor
  · intro inside reader reached state overlong
    exact not_staysInside_of_overlong state overlong (inside reader reached)
  · intro fits
    have within : ∀ reader, Reached commonName (given input hshake) reader →
        reader.Within input := by
      intro reader reached
      induction reached with
      | start =>
        have nothing := View.within_empty input
        cases hshake with
        | false => exact ⟨View.within_ofBytes input, nothing, nothing, nothing⟩
        | true => exact ⟨nothing, View.within_ofBytes input, nothing, nothing⟩
      | round before passes ih =>
        obtain ⟨_, _, same, inside⟩ := round_within ih _ (fits _ before)
        rw [passes] at same
        cases same
        exact inside
    intro reader reached
    exact staysInside_of_fits (within reader reached) (fits reader reached)

/-- A server hello that says it is 4 bytes long, of which the input has one. -/
def cutServerHello : Bytes := [2, 0, 0, 4, 0]

/-- The message is accepted, and the next call of `tls_parse` reads outside of the input. -/
theorem not_staysInside_cutServerHello :
    (¬∀ reader, Reached (fun _ => none) (given cutServerHello true) reader →
      reader.StaysInside (fun _ => none) cutServerHello) ∧
    ∃ after, (given cutServerHello true).tlsParse (fun _ => none) = .ok (.rservHello, after) ∧
      after.record.size = 18446744073709551613 ∧
      after.tlsParse (fun _ => none) = .error .outOfRange := by
  constructor
  · intro inside
    exact not_staysInside_of_overlong rfl (by decide +kernel) (inside _ .start)
  · exact ⟨_, rfl, rfl, rfl⟩

end TlsReader

end TrustTunnel.Client.Tls
