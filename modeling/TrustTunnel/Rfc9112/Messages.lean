import Mathlib.Data.List.TakeWhile
import TrustTunnel.Wire.Bytes

/-!
# Messages of HTTP/1.1

How a recipient delimits a request by the rules of RFC 9112: the lines of its head,
the fields `Transfer-Encoding` and `Content-Length`, and the chunked coding.
-/

namespace TrustTunnel.Rfc9112

open Wire List

/-- The outcome of reading something off the front of a byte stream. -/
inductive Parse (α : Type) where
  | done (value : α) (rest : Bytes)
  | incomplete
  | invalid
  deriving DecidableEq

/-! ## Lines and fields -/

/-- The bytes up to the first CRLF, and the bytes behind it. -/
def takeLine : Bytes → Option (Bytes × Bytes)
  | [] => none
  | 13 :: 10 :: rest => some ([], rest)
  | byte :: rest => (takeLine rest).map fun (line, rest) => (byte :: line, rest)

/-- `tchar`. -/
def isTchar (byte : UInt8) : Bool :=
  isDigit byte || (65 ≤ byte && byte ≤ 90) || (97 ≤ byte && byte ≤ 122) ||
    [33, 35, 36, 37, 38, 39, 42, 43, 45, 46, 94, 95, 96, 124, 126].contains byte

def isToken (text : Bytes) : Bool := !text.isEmpty && text.all isTchar

def toLower (byte : UInt8) : UInt8 := if 65 ≤ byte && byte ≤ 90 then byte + 32 else byte

/-- Strip optional whitespace. -/
def trimOws (text : Bytes) : Bytes :=
  let isOws (byte : UInt8) : Bool := byte == 32 || byte == 9
  ((text.dropWhile isOws).reverse.dropWhile isOws).reverse

/-- A field with its name in lower case. -/
structure Field where
  name : Bytes
  value : Bytes
  deriving DecidableEq

/-- `field-line`. -/
def parseFieldLine (line : Bytes) : Option Field :=
  let name := line.takeWhile (· ≠ 58)
  match line.drop name.length with
  | 58 :: value => if isToken name then some ⟨name.map toLower, trimOws value⟩ else none
  | _ => none

/-- The field lines up to an empty line, of which there are at most `count`. -/
def parseFields : (count : Nat) → Bytes → Parse (List Field)
  | 0, _ => .incomplete
  | count + 1, bytes =>
    match takeLine bytes with
    | none => .incomplete
    | some (line, rest) =>
      if line = [] then .done [] rest
      else
        match parseFieldLine line, parseFields count rest with
        | none, _ => .invalid
        | some field, .done fields rest => .done (field :: fields) rest
        | some _, .incomplete => .incomplete
        | some _, .invalid => .invalid

/-- `request-line`. -/
def isRequestLine (line : Bytes) : Bool :=
  match line.splitOn 32 with
  | [method, target, version] =>
    isToken method && !target.isEmpty &&
      match version with
      | [72, 84, 84, 80, 47, major, 46, minor] => isDigit major && isDigit minor
      | _ => false
  | _ => false

/-! ## Framing -/

/-- The elements of a comma-separated list. -/
def elements (value : Bytes) : List Bytes := ((value.splitOn 44).map trimOws).filter (· ≠ [])

/-- The values of the fields of a name. -/
def values (name : Bytes) (fields : List Field) : List Bytes :=
  (fields.filter (·.name = name)).map Field.value

lemma values_append (name : Bytes) (fields more : List Field) :
    values name (fields ++ more) = values name fields ++ values name more := by
  rw [values, filter_append, map_append, values, values]

def transferEncoding : Bytes := .ofString "transfer-encoding"

def contentLength : Bytes := .ofString "content-length"

def chunked : Bytes := .ofString "chunked"

/-- The last of the transfer codings. -/
def finalCoding (values : List Bytes) : Option Bytes :=
  (values.flatMap elements).getLast?.map fun coding => coding.map toLower

/-- The length that the values of `Content-Length` agree on. -/
def agreedLength (values : List Bytes) : Option Nat :=
  match values.flatMap elements with
  | [] => none
  | first :: others =>
    if first.all isDigit && others.all (· = first) then some (decimalValue first) else none

inductive Framing where
  | chunked
  | length (length : Nat)
  deriving DecidableEq

/-- How the body of a request is delimited (section 6.3); `none` is an error. -/
def framing (fields : List Field) : Option Framing :=
  if values transferEncoding fields ≠ [] then
    if finalCoding (values transferEncoding fields) = some chunked then some .chunked
    else none
  else if values contentLength fields ≠ [] then
    (agreedLength (values contentLength fields)).map .length
  else some (.length 0)

/-! ## Bodies -/

def isHexDigit (byte : UInt8) : Bool :=
  isDigit byte || (65 ≤ byte && byte ≤ 70) || (97 ≤ byte && byte ≤ 102)

def hexDigitValue (digit : UInt8) : Nat :=
  if isDigit digit then digit.toNat - 48 else (toLower digit).toNat - 87

def hexValue (digits : Bytes) : Nat :=
  digits.foldl (fun value digit => value * 16 + hexDigitValue digit) 0

/-- `chunk-size [ chunk-ext ]`. -/
def parseChunkSize (line : Bytes) : Option Nat :=
  let digits := line.takeWhile isHexDigit
  let extension := trimOws (line.drop digits.length)
  if digits ≠ [] ∧ (extension = [] ∨ extension.head? = some 59) then some (hexValue digits)
  else none

/-- `chunked-body` with at most `count` chunks; the value is the decoded data. -/
def parseChunked : (count : Nat) → Bytes → Parse Bytes
  | 0, _ => .incomplete
  | count + 1, bytes =>
    match takeLine bytes with
    | none => .incomplete
    | some (line, rest) =>
      match parseChunkSize line with
      | none => .invalid
      | some 0 =>
        match parseFields rest.length rest with
        | .done _ rest => .done [] rest
        | .incomplete => .incomplete
        | .invalid => .invalid
      | some size =>
        if rest.length < size + 2 then .incomplete
        else if (rest.drop size).take 2 ≠ [13, 10] then .invalid
        else
          match parseChunked count (rest.drop (size + 2)) with
          | .done data rest' => .done (rest.take size ++ data) rest'
          | .incomplete => .incomplete
          | .invalid => .invalid

/-- The body behind the fields of a head. -/
def parseBody (fields : List Field) (bytes : Bytes) : Parse (List Field) :=
  match framing fields with
  | none => .invalid
  | some (.length length) =>
    if length ≤ bytes.length then .done fields (bytes.drop length) else .incomplete
  | some .chunked =>
    match parseChunked bytes.length bytes with
    | .done _ rest => .done fields rest
    | .incomplete => .incomplete
    | .invalid => .invalid

/-- One request off the front of a connection; the value is its fields. -/
def parseRequest (bytes : Bytes) : Parse (List Field) :=
  match takeLine bytes with
  | none => .incomplete
  | some (line, rest) =>
    if isRequestLine line then
      match parseFields rest.length rest with
      | .done fields rest => parseBody fields rest
      | .incomplete => .incomplete
      | .invalid => .invalid
    else .invalid

/-! ## Rendered heads -/

variable (rest : Bytes)

lemma takeLine_append {line : Bytes} (unbroken : 13 ∉ line) :
    takeLine (line ++ 13 :: 10 :: rest) = some (line, rest) := by
  induction line with
  | nil => rfl
  | cons byte _ ih =>
    have different : byte ≠ 13 := fun equal => unbroken (equal ▸ mem_cons_self)
    have tail := ih fun mem => unbroken (mem_cons_of_mem _ mem)
    simp [takeLine, different, tail]

variable {text : Bytes} {byte : UInt8}

lemma isTchar_of_mem (token : isToken text = true) (mem : byte ∈ text) : isTchar byte = true := by
  rw [isToken, Bool.and_eq_true] at token
  exact all_eq_true.mp token.2 byte mem

lemma notMem_of_isToken (token : isToken text = true) (other : isTchar byte = false) :
    byte ∉ text := by
  intro mem
  rw [isTchar_of_mem token mem] at other
  cases other

variable {value : Bytes}

lemma parseFieldLine_append {name : Bytes} (token : isToken name = true) :
    parseFieldLine (name ++ 58 :: value) = some ⟨name.map toLower, trimOws value⟩ := by
  have colonless : ∀ byte ∈ name, decide (byte ≠ 58) = true := by
    intro byte mem
    rw [decide_eq_true_iff]
    rintro rfl
    exact notMem_of_isToken token rfl mem
  have taken : (name ++ 58 :: value).takeWhile (· ≠ 58) = name := by
    rw [takeWhile_append_of_pos colonless]
    simp
  rw [parseFieldLine, taken, drop_left]
  exact if_pos token

/-- Lines, and the empty line behind them. -/
def renderLines (lines : List Bytes) : Bytes := lines.flatMap (· ++ [13, 10]) ++ [13, 10]

variable {fields : List Field} {count : Nat}

lemma parseFields_lines {lines : List Bytes}
    (parsed : lines.map parseFieldLine = fields.map some) (unbroken : ∀ line ∈ lines, 13 ∉ line)
    (enough : lines.length < count) :
    parseFields count (renderLines lines ++ rest) = .done fields rest := by
  induction lines generalizing count fields with
  | nil =>
    obtain rfl := map_eq_nil_iff.mp parsed.symm
    cases count with
    | zero => cases enough
    | succ => rfl
  | cons line lines ih =>
    cases fields with
    | nil => cases parsed
    | cons =>
      cases count with
      | zero => cases enough
      | succ =>
        obtain ⟨parsedLine, parsed⟩ := List.cons.inj parsed
        have split : renderLines (line :: lines) ++ rest =
            line ++ 13 :: 10 :: (renderLines lines ++ rest) := by
          simp [renderLines]
        have nonempty : line ≠ [] := by
          rintro rfl
          cases parsedLine
        have later := ih parsed (fun other mem => unbroken other (mem_cons_of_mem _ mem))
          (Nat.lt_of_succ_lt_succ enough)
        rw [split, parseFields, takeLine_append _ (unbroken line mem_cons_self)]
        dsimp only
        rw [if_neg nonempty, parsedLine, later]

/-- A field line as it is usually written. -/
def renderField (field : Field) : Bytes := field.name ++ 58 :: 32 :: (field.value ++ [13, 10])

/-- What a recipient reads in a field line. -/
def Field.read (field : Field) : Field := ⟨field.name.map toLower, trimOws field.value⟩

lemma parseFields_render
    (wellFormed : ∀ field ∈ fields, isToken field.name = true ∧ 13 ∉ field.value)
    (enough : fields.length < count) :
    parseFields count (fields.flatMap renderField ++ 13 :: 10 :: rest) =
      .done (fields.map Field.read) rest := by
  let lines := fields.map fun field => field.name ++ 58 :: 32 :: field.value
  have rendered : fields.flatMap renderField ++ 13 :: 10 :: rest = renderLines lines ++ rest := by
    simp only [lines, renderLines, flatMap_map, append_assoc, cons_append, nil_append]
    rfl
  have parsed : lines.map parseFieldLine = (fields.map Field.read).map some := by
    simp only [lines, map_map]
    refine map_congr_left fun field mem => ?_
    exact parseFieldLine_append (wellFormed field mem).1
  have unbroken : ∀ line ∈ lines, 13 ∉ line := by
    intro line mem
    obtain ⟨field, fieldMember, rfl⟩ := mem_map.mp mem
    obtain ⟨token, unbroken⟩ := wellFormed field fieldMember
    have unbrokenName : 13 ∉ field.name := notMem_of_isToken token rfl
    simp [unbroken, unbrokenName]
  rw [rendered]
  exact parseFields_lines rest parsed unbroken (by simpa [lines] using enough)

lemma splitOn_requestLine {method target version : Bytes} (token : isToken method = true)
    (solid : 32 ∉ target) (solidVersion : 32 ∉ version) :
    (method ++ 32 :: (target ++ 32 :: version)).splitOn 32 = [method, target, version] := by
  have solidMethod : 32 ∉ method := notMem_of_isToken token rfl
  have separate : ∀ part ∈ [method, target, version], 32 ∉ part := by
    simp [solid, solidMethod, solidVersion]
  have joined := splitOn_intercalate 32 separate (cons_ne_nil _ _)
  simpa [List.intercalate] using joined

lemma isRequestLine_render {method target : Bytes} {major minor : UInt8}
    (token : isToken method = true) (solid : 32 ∉ target) (majorDigit : isDigit major = true)
    (minorDigit : isDigit minor = true) :
    isRequestLine (method ++ 32 :: (target ++
      32 :: [72, 84, 84, 80, 47, major, 46, minor])) = !target.isEmpty := by
  have different {digit : UInt8} (decimal : isDigit digit = true) : 32 ≠ digit := by
    rintro rfl
    cases decimal
  have solidVersion : 32 ∉ [72, 84, 84, 80, 47, major, 46, minor] := by
    simp [different majorDigit, different minorDigit]
  rw [isRequestLine, splitOn_requestLine token solid solidVersion]
  simp [token, majorDigit, minorDigit]

lemma length_lt_render (fields : List Field) (body : Bytes) :
    fields.length < (fields.flatMap renderField ++ 13 :: 10 :: body).length := by
  have lines : fields.length ≤ (fields.flatMap renderField).length := by
    induction fields with
    | nil => exact le_refl _
    | cons =>
      simp only [flatMap_cons, length_append, length_cons, renderField]
      omega
  simp only [length_append, length_cons]
  omega

/-- A rendered head is read back, and the body is what comes behind it. -/
lemma parseRequest_render {line body : Bytes} (unbroken : 13 ∉ line)
    (wellFormed : ∀ field ∈ fields, isToken field.name = true ∧ 13 ∉ field.value) :
    parseRequest (line ++ 13 :: 10 :: (fields.flatMap renderField ++ 13 :: 10 :: body)) =
      if isRequestLine line then parseBody (fields.map Field.read) body else .invalid := by
  rw [parseRequest, takeLine_append _ unbroken]
  simp only [parseFields_render body wellFormed (length_lt_render fields body)]

/-! ## Lengths -/

lemma trimOws_of_solid (solid : ∀ byte ∈ text, byte ≠ 32 ∧ byte ≠ 9) : trimOws text = text := by
  have stays (bytes : Bytes) (subset : bytes ⊆ text) :
      bytes.dropWhile (fun byte => byte == 32 || byte == 9) = bytes := by
    cases bytes with
    | nil => rfl
    | cons byte =>
      have other := solid byte (subset mem_cons_self)
      simp [other]
  rw [trimOws, stays text (List.Subset.refl _), stays _ (by simp), reverse_reverse]

section

variable (nonempty : value ≠ []) (solid : ∀ byte ∈ value, byte ≠ 32 ∧ byte ≠ 9)
  (single : 44 ∉ value)

include nonempty solid single

/-- A value without separators is a list of one element. -/
lemma elements_of_solid : elements value = [value] := by
  have part : value.splitOn 44 = [value] := by
    have joined := splitOn_intercalate 44 (forall_mem_singleton.mpr single) (cons_ne_nil _ _)
    simpa [List.intercalate] using joined
  rw [elements, part, map_singleton, trimOws_of_solid solid]
  simp [nonempty]

lemma agreedLength_singleton :
    agreedLength [value] =
      if value.all isDigit then some (decimalValue value) else none := by
  rw [agreedLength, flatMap_singleton, elements_of_solid nonempty solid single]
  simp

end

/-! ## Complete requests -/

variable {parsed : List Field} {bytes : Bytes}

lemma parseBody_length_iff {length : Nat} (framed : framing fields = some (.length length)) :
    parseBody fields bytes = .done parsed [] ↔ fields = parsed ∧ bytes.length = length := by
  rw [parseBody, framed]
  dsimp only
  by_cases enough : length ≤ bytes.length
  · rw [if_pos enough, Parse.done.injEq, drop_eq_nil_iff]
    constructor
    · rintro ⟨same, le⟩
      exact ⟨same, le_antisymm le enough⟩
    · rintro ⟨same, rfl⟩
      exact ⟨same, le_refl _⟩
  · rw [if_neg enough]
    constructor
    · intro impossible
      cases impossible
    · rintro ⟨-, rfl⟩
      exact absurd (le_refl _) enough

lemma parseBody_chunked_iff (framed : framing fields = some .chunked) :
    parseBody fields bytes = .done parsed [] ↔
      fields = parsed ∧ ∃ data, parseChunked bytes.length bytes = .done data [] := by
  rw [parseBody, framed]
  cases parseChunked _ bytes with
  | done data =>
    constructor
    · rintro ⟨⟩
      exact ⟨rfl, data, rfl⟩
    · rintro ⟨rfl, -, ⟨⟩⟩
      rfl
  | incomplete | invalid => simp

lemma parseBody_ne_done {rest : Bytes} (unframed : framing fields = none) :
    parseBody fields bytes ≠ .done parsed rest := by
  rw [parseBody, unframed]
  simp

/-- The fields of a parsed request are those of its head. -/
lemma parseBody_fields (complete : parseBody fields bytes = .done parsed []) : fields = parsed := by
  cases framed : framing fields with
  | none => exact absurd complete (parseBody_ne_done framed)
  | some how =>
    cases how with
    | length => exact ((parseBody_length_iff framed).mp complete).1
    | chunked => exact ((parseBody_chunked_iff framed).mp complete).1

/-!
## Chunked bodies

The chunked transfer coding of RFC 9112: chunks behind their size lines, the last chunk
and the trailer section.
-/

/-- A chunk, other than the last one. -/
structure Chunk where
  /-- `chunk-size [ chunk-ext ]`. -/
  line : Bytes
  data : Bytes
  unbroken : 13 ∉ line
  sized : parseChunkSize line = some data.length
  nonempty : data ≠ []

def Chunk.render (chunk : Chunk) : Bytes := chunk.line ++ 13 :: 10 :: (chunk.data ++ [13, 10])

/-- `chunked-body`. -/
structure ChunkedBody where
  chunks : List Chunk
  /-- The size line of the last chunk. -/
  last : Bytes
  lastUnbroken : 13 ∉ last
  lastSized : parseChunkSize last = some 0
  /-- The lines of the trailer section. -/
  trailers : List Bytes
  trailersUnbroken : ∀ line ∈ trailers, 13 ∉ line
  trailersParsed : ∀ line ∈ trailers, (parseFieldLine line).isSome = true

namespace ChunkedBody

/-- The last chunk and the trailer section. -/
def ending (body : ChunkedBody) : Bytes := body.last ++ 13 :: 10 :: renderLines body.trailers

def render (body : ChunkedBody) : Bytes := body.chunks.flatMap Chunk.render ++ body.ending

/-- The decoded data. -/
def data (body : ChunkedBody) : Bytes := body.chunks.flatMap Chunk.data

/-- The size lines. -/
def lines (body : ChunkedBody) : List Bytes := body.chunks.map Chunk.line ++ [body.last]

end ChunkedBody

/-! ## Size lines -/

/-- Trimming keeps the first byte that is not blank. -/
lemma head?_trimOws {blank rest : Bytes} {first : UInt8}
    (blanks : ∀ byte ∈ blank, (byte == 32 || byte == 9) = true)
    (solid : (first == 32 || first == 9) = false) :
    (trimOws (blank ++ first :: rest)).head? = some first := by
  have front : (blank ++ first :: rest).dropWhile (fun byte => byte == 32 || byte == 9) =
      first :: rest := by
    rw [dropWhile_append_of_pos blanks, dropWhile_cons_of_neg (by simpa using solid)]
  rw [trimOws, front, reverse_cons, dropWhile_append]
  split
  · rw [dropWhile_cons_of_neg (by simpa using solid)]
    rfl
  · rw [reverse_append]
    rfl

/-- A size line consists of hexadecimal digits, blanks and possibly an extension. -/
lemma parseChunkSize_eq_some {line : Bytes} {size : Nat}
    (parsed : parseChunkSize line = some size) :
    ∃ digits blank extension, line = digits ++ (blank ++ extension) ∧ digits ≠ [] ∧
      (∀ digit ∈ digits, isHexDigit digit = true) ∧ (∀ byte ∈ blank, byte = 32 ∨ byte = 9) ∧
      (extension = [] ∨ extension.head? = some 59) ∧ hexValue digits = size := by
  have behind : ∀ digits rest : Bytes, digits ++ rest = line → line.drop digits.length = rest := by
    rintro digits rest rfl
    exact drop_left
  rw [parseChunkSize, Option.ite_none_right_eq_some] at parsed
  obtain ⟨⟨nonempty, extended⟩, denotes⟩ := parsed
  have joined := takeWhile_append_dropWhile (p := isHexDigit) (l := line)
  rw [behind _ _ joined] at extended
  generalize line.dropWhile isHexDigit = rest at joined extended
  have blanks : ∀ byte ∈ rest.takeWhile (fun byte => byte == 32 || byte == 9),
      (byte == 32 || byte == 9) = true := fun byte => mem_takeWhile_imp
  have split := takeWhile_append_dropWhile
    (p := fun byte : UInt8 => byte == 32 || byte == 9) (l := rest)
  refine ⟨line.takeWhile isHexDigit, rest.takeWhile fun byte => byte == 32 || byte == 9,
    rest.dropWhile fun byte => byte == 32 || byte == 9, ?_, nonempty,
    fun byte => mem_takeWhile_imp, ?_, ?_, Option.some.inj denotes⟩
  · rw [split, joined]
  · intro byte mem
    simpa using blanks byte mem
  · cases remaining : rest.dropWhile fun byte => byte == 32 || byte == 9 with
    | nil => exact .inl rfl
    | cons first more =>
      have solid : (first == 32 || first == 9) = false := by
        have head := head?_dropWhile_not (fun byte : UInt8 => byte == 32 || byte == 9) rest
        rw [remaining] at head
        simpa using head
      have head := @head?_trimOws _ more _ blanks solid
      rw [← remaining, split] at head
      rcases extended with none | semicolon
      · rw [none] at head
        cases head
      · rw [head] at semicolon
        exact .inr semicolon

/-!
## Request heads of HTTP/1.1

A request line and the fields behind it, with one `Host` field in any spelling.
-/

/-- The name of the field in lower case. -/
def hostName : Bytes := [104, 111, 115, 116]

/-- A field line with the value as it is written, blanks around it included. -/
def Field.line (field : Field) : Bytes := field.name ++ 58 :: (field.value ++ [13, 10])

def isVisible (byte : UInt8) : Bool := 33 ≤ byte && byte ≤ 126

/-- The bytes of a field value: blanks, visible ones and those that are not ASCII. -/
def isFieldByte (byte : UInt8) : Bool := byte == 9 || (32 ≤ byte && byte ≠ 127)

/-- The bytes of a registered name. -/
def isRegNameByte (byte : UInt8) : Bool :=
  Wire.isDigit byte || (65 ≤ byte && byte ≤ 90) || (97 ≤ byte && byte ≤ 122) ||
    [33, 36, 37, 38, 39, 40, 41, 42, 43, 44, 45, 46, 59, 61, 95, 126].contains byte

/-- A registered name, or an address literal in brackets. -/
def isUriHost (host : Bytes) : Bool :=
  host.all isRegNameByte ||
    (host.head? == some 91 && host.getLast? == some 93 &&
      host.all fun byte => isRegNameByte byte || byte == 58 || byte == 91 || byte == 93)

lemma isVisible_of_isRegNameByte : ∀ byte : UInt8,
    (isRegNameByte byte || byte == 58 || byte == 91 || byte == 93) = true → isVisible byte = true :=
  Wire.forall_byte (by decide +kernel)

lemma isVisible_of_isUriHost {host : Bytes} (wellFormed : isUriHost host = true) :
    ∀ byte ∈ host, isVisible byte = true := by
  intro byte mem
  apply isVisible_of_isRegNameByte
  rw [isUriHost, Bool.or_eq_true, Bool.and_eq_true] at wellFormed
  rcases wellFormed with name | ⟨-, literal⟩
  · rw [List.all_eq_true.mp name byte mem]
    rfl
  · exact List.all_eq_true.mp literal byte mem

structure RequestHead where
  method : Bytes
  target : Bytes
  fields : List Field
  /-- The host of the request, without a port. -/
  host : Bytes
  port : Option Bytes
  method_token : isToken method = true
  target_nonempty : target ≠ []
  target_visible : target.all isVisible = true
  fields_wellFormed : ∀ field ∈ fields, isToken field.name = true ∧ field.value.all isFieldByte = true
  host_wellFormed : isUriHost host = true
  port_digits : ∀ digits ∈ port, digits.all Wire.isDigit = true
  one_host : values hostName (fields.map Field.read) =
    [host ++ (port.elim [] fun digits => 58 :: digits)]

namespace RequestHead

variable (self : RequestHead)

/-- `HTTP/1.1`. -/
def version : Bytes := [72, 84, 84, 80, 47, 49, 46, 49]

def render : Bytes :=
  self.method ++ 32 :: (self.target ++ 32 :: (version ++ [13, 10] ++
    (self.fields.flatMap Field.line ++ [13, 10])))

lemma exists_render_cons :
    ∃ first second rest, self.render = first :: second :: rest ∧ isTchar first = true := by
  have token := self.method_token
  cases method : self.method with
  | nil =>
    rw [method] at token
    cases token
  | cons first more =>
    rw [render, method]
    rw [method] at token
    have tchar := isTchar_of_mem token List.mem_cons_self
    cases more with
    | nil => exact ⟨first, 32, _, rfl, tchar⟩
    | cons second => exact ⟨first, second, _, rfl, tchar⟩

end RequestHead

end TrustTunnel.Rfc9112
