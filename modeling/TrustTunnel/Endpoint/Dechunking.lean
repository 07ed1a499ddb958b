import TrustTunnel.Endpoint.ProxiedHead
import TrustTunnel.Text.Trim

/-!
# Decoding chunked responses in the reverse proxy

However a chunked response is split into reads, the reverse proxy passes its data on, up
to the last chunk. Without a trailer section it then looks for the final line end in the
bytes it has already read, and misses one that comes in a later read.
-/

namespace TrustTunnel.Endpoint

open Wire Http Chunked List

/-! ## Size lines -/

lemma trim_append {text blank : List Char} (solid : ∀ char ∈ text, isWhitespace char = false)
    (blanks : ∀ char ∈ blank, isWhitespace char = true) : trim (text ++ blank) = text := by
  have unpadded : Text.Unpadded isWhitespace text :=
    ⟨fun char found => solid char (mem_of_mem_head? found),
      fun char found => solid char (mem_of_mem_getLast? found)⟩
  exact (Text.strip_append_right blanks).trans (Text.strip_of_unpadded unpadded)

namespace ReverseProxy

/-- The characters of hexadecimal digits, as the proxy reads them. -/
lemma hexDigit_ofUInt8 (byte : UInt8) : Rfc9112.isHexDigit byte = true →
    byte < 128 ∧ isWhitespace (.ofUInt8 byte) = false ∧ Char.ofUInt8 byte ≠ ';' ∧
      Char.ofUInt8 byte ≠ '+' ∧ hexDigit (.ofUInt8 byte) = some (Rfc9112.hexDigitValue byte) := by
  revert byte
  apply forall_byte
  decide +kernel

lemma le_foldl_hexDigitValue (value : Nat) (digits : Bytes) :
    value ≤ digits.foldl (fun value digit => value * 16 + Rfc9112.hexDigitValue digit) value := by
  induction digits generalizing value with
  | nil => exact le_refl _
  | cons digit _ ih =>
    have later := ih (value * 16 + Rfc9112.hexDigitValue digit)
    rw [foldl_cons]
    omega

variable {digits : Bytes} {text : String}

lemma parseHexDigits_eq {value : Nat} (small : value < 2 ^ 64)
    (hex : ∀ digit ∈ digits, Rfc9112.isHexDigit digit = true) :
    parseHexDigits value (digits.map .ofUInt8) =
      let total := digits.foldl (fun value digit => value * 16 + Rfc9112.hexDigitValue digit) value
      if total < 2 ^ 64 then .ok total
      else .error "number too large to fit in target type" := by
  induction digits generalizing value with
  | nil => exact (if_pos small).symm
  | cons digit digits ih =>
    obtain ⟨-, -, -, -, read⟩ := hexDigit_ofUInt8 digit (hex digit mem_cons_self)
    rw [map_cons, parseHexDigits, read]
    dsimp only
    rw [foldl_cons]
    by_cases fits : value * 16 + Rfc9112.hexDigitValue digit < 2 ^ 64
    · rw [if_pos fits]
      apply ih fits
      intro other mem
      exact hex other (mem_cons_of_mem _ mem)
    · have le := le_foldl_hexDigitValue (value * 16 + Rfc9112.hexDigitValue digit) digits
      rw [if_neg fits, if_neg (by omega)]

lemma parseHex_eq (nonempty : digits ≠ [])
    (hex : ∀ digit ∈ digits, Rfc9112.isHexDigit digit = true) :
    parseHex (digits.map .ofUInt8) =
      if Rfc9112.hexValue digits < 2 ^ 64 then .ok (Rfc9112.hexValue digits)
      else .error "number too large to fit in target type" := by
  have unsigned : parseHex (digits.map .ofUInt8) = parseHexDigits 0 (digits.map .ofUInt8) := by
    cases digits with
    | nil => exact absurd rfl nonempty
    | cons digit =>
      obtain ⟨-, -, -, plus, -⟩ := hexDigit_ofUInt8 digit (hex digit mem_cons_self)
      simp [parseHex, plus]
  rw [unsigned]
  exact parseHexDigits_eq (by decide) hex

/-- In front of an extension there are the digits and blanks. -/
lemma takeWhile_sizeLine {blank extension : Bytes}
    (hex : ∀ digit ∈ digits, Rfc9112.isHexDigit digit = true)
    (blanks : ∀ byte ∈ blank, byte = 32 ∨ byte = 9)
    (extended : extension = [] ∨ extension.head? = some 59)
    (decodes : Bytes.fromUtf8 (digits ++ (blank ++ extension)) = some text) :
    text.toList.takeWhile (· ≠ ';') = (digits ++ blank).map .ofUInt8 := by
  have plain : ∀ byte ∈ digits ++ blank, byte < 128 ∧ Char.ofUInt8 byte ≠ ';' := by
    intro byte mem
    rcases mem_append.mp mem with digit | white
    · obtain ⟨ascii, -, semicolon, -⟩ := hexDigit_ofUInt8 byte (hex byte digit)
      exact ⟨ascii, semicolon⟩
    · rcases blanks byte white with rfl | rfl
      · decide
      · decide
  have taken : ∀ char ∈ (digits ++ blank).map Char.ofUInt8, decide (char ≠ ';') = true := by
    intro char mem
    obtain ⟨byte, byteMember, rfl⟩ := mem_map.mp mem
    exact decide_eq_true (plain byte byteMember).2
  rw [← append_assoc] at decodes
  cases extension with
  | nil =>
    obtain ⟨more, same, nothing⟩ := Bytes.toList_of_fromUtf8 (fun byte mem =>
      (plain byte mem).1) decodes
    rw [same, nothing rfl, takeWhile_append_of_pos taken, takeWhile_nil, append_nil]
  | cons byte =>
    obtain rfl : byte = 59 := by simpa using extended
    rw [append_cons] at decodes
    have ascii : ∀ byte ∈ digits ++ blank ++ [59], byte < 128 := by
      intro byte mem
      rcases mem_append.mp mem with mem | mem
      · exact (plain byte mem).1
      · rw [mem_singleton.mp mem]
        decide
    obtain ⟨more, same, -⟩ := Bytes.toList_of_fromUtf8 ascii decodes
    have semicolon : Char.ofUInt8 59 = ';' := rfl
    rw [same, map_append, append_assoc, takeWhile_append_of_pos taken]
    simp [semicolon]

lemma chunkSize_eq {line : Bytes} {size : Nat} (sized : Rfc9112.parseChunkSize line = some size)
    (decodes : line.fromUtf8 = some text) :
    chunkSize line = if size < 2 ^ 64 then .ok size
      else .error ⟨.invalidData, "number too large to fit in target type"⟩ := by
  obtain ⟨digits, blank, extension, rfl, nonempty, hex, blanks, extended, rfl⟩ :=
    Rfc9112.parseChunkSize_eq_some sized
  have solid : ∀ char ∈ digits.map Char.ofUInt8, isWhitespace char = false := by
    intro char mem
    obtain ⟨byte, byteMember, rfl⟩ := mem_map.mp mem
    exact (hexDigit_ofUInt8 byte (hex byte byteMember)).2.1
  have whites : ∀ char ∈ blank.map Char.ofUInt8, isWhitespace char = true := by
    intro char mem
    obtain ⟨byte, byteMember, rfl⟩ := mem_map.mp mem
    rcases blanks byte byteMember with rfl | rfl
    · rfl
    · rfl
  rw [chunkSize, decodes]
  dsimp only
  rw [takeWhile_sizeLine hex blanks extended decodes, map_append,
    trim_append solid whites, parseHex_eq nonempty hex]
  by_cases fits : Rfc9112.hexValue digits < 2 ^ 64
  · rw [if_pos fits, if_pos fits]
  · rw [if_neg fits, if_neg fits]

/-! ## Looking for line ends -/

/-- A pattern does not begin inside of bytes without its first byte. -/
lemma windowPosition_append {first : UInt8} {bytes : Bytes} (absent : first ∉ bytes)
    (pattern rest : Bytes) :
    windowPosition (first :: pattern) (bytes ++ rest) =
      (windowPosition (first :: pattern) rest).map (· + bytes.length) := by
  induction bytes with
  | nil => simp
  | cons _ _ ih =>
    rw [mem_cons, not_or] at absent
    rw [cons_append, windowPosition, ih absent.2, if_neg]
    · rw [Option.map_map]
      rfl
    · rw [cons_prefix_cons]
      exact fun both => absent.1 both.1

variable {front back line : Bytes}

lemma line_front_cases {rest : Bytes} (splits : front ++ back = line ++ (crlf ++ rest)) :
    (∃ more, line = front ++ more) ∨ front = line ++ [13] ∨
      ∃ behind, front = line ++ (crlf ++ behind) ∧ behind ++ back = rest := by
  rcases append_eq_append_iff.mp splits with ⟨more, same, -⟩ | ⟨behind, rfl, same⟩
  · exact .inl ⟨more, same⟩
  · match behind, same with
    | [], _ => exact .inl ⟨[], by simp⟩
    | [_], same =>
      cases same
      exact .inr (.inl rfl)
    | _ :: _ :: behind, same =>
      cases same
      exact .inr (.inr ⟨behind, rfl, rfl⟩)

/-- Neither in a line nor behind its CR there is a pattern that begins with a line end. -/
lemma windowPosition_unended (unbroken : 13 ∉ line) (pattern : Bytes)
    (inside : (∃ more, line = front ++ more) ∨ front = line ++ [13]) :
    windowPosition (13 :: 10 :: pattern) front = none := by
  rcases inside with ⟨more, rfl⟩ | rfl
  · have absent : 13 ∉ front := fun mem => unbroken (mem_append_left _ mem)
    have found := windowPosition_append absent (10 :: pattern) []
    rw [append_nil] at found
    rw [found]
    rfl
  · rw [windowPosition_append unbroken]
    simp [windowPosition]

variable {pos : Nat} {pattern : Bytes}

/-- Only the bytes up to its end decide whether a window is the first one. -/
lemma windowPosition_append_iff (inside : pos + pattern.length ≤ front.length)
    (nonempty : pattern ≠ []) :
    windowPosition pattern (front ++ back) = some pos ↔
      windowPosition pattern front = some pos := by
  induction front generalizing pos with
  | nil =>
    have positive := length_pos_iff.mpr nonempty
    rw [length_nil] at inside
    omega
  | cons byte front ih =>
    have begins_iff : pattern <+: byte :: (front ++ back) ↔ pattern <+: byte :: front :=
      ⟨fun begins => prefix_of_prefix_length_le begins (prefix_append _ back) (by omega),
        fun begins => begins.trans (prefix_append _ back)⟩
    rw [cons_append, windowPosition, windowPosition]
    by_cases begins : pattern <+: byte :: front
    · rw [if_pos begins, if_pos (begins_iff.mpr begins)]
    · rw [if_neg begins, if_neg fun longer => begins (begins_iff.mp longer)]
      cases pos with
      | zero => simp
      | succ =>
        rw [length_cons] at inside
        simpa using ih (by omega)

lemma windowPosition_append_of_eq_some (found : windowPosition pattern front = some pos)
    (nonempty : pattern ≠ []) (back : Bytes) : windowPosition pattern (front ++ back) = some pos :=
  (windowPosition_append_iff (le_of_windowPosition found) nonempty).mpr found

lemma finds_window {text rest : Bytes} (found : windowPosition crlf (text ++ rest) = some pos)
    (ends : text.length = pos + 2) :
    Finds (fun buffer => (windowPosition crlf buffer).map (· + 2)) text rest
      (fun _ => pos + 2) where
  unfinished := by
    rintro front back rfl behind
    have positive := length_pos_iff.mpr behind
    cases early : windowPosition crlf front with
    | none => rfl
    | some other =>
      have inside : other + 2 ≤ front.length := le_of_windowPosition early
      rw [append_assoc, windowPosition_append_of_eq_some early (by decide)] at found
      cases found
      rw [length_append] at ends
      omega
  complete := by
    intro tail _
    have here := (windowPosition_append_iff (le_of_eq ends.symm) (by decide)).mp found
    rw [windowPosition_append_of_eq_some here (by decide)]
    rfl

/-- A line without a CRLF is ended by the first one. -/
lemma windowPosition_line (unbroken : ¬crlf <:+: line) (rest : Bytes) :
    windowPosition crlf (line ++ (crlf ++ rest)) = some line.length := by
  induction line with
  | nil => exact if_pos (prefix_append crlf rest)
  | cons _ line ih =>
    have later : ¬crlf <:+: line := fun inside => unbroken (infix_cons inside)
    rw [cons_append, windowPosition, ih later, if_neg]
    · rfl
    · intro begins
      cases line with
      | nil => simp [crlf] at begins
      | cons _ line =>
        rw [crlf, cons_append, cons_prefix_cons, cons_prefix_cons] at begins
        obtain ⟨rfl, rfl, -⟩ := begins
        exact unbroken (prefix_append crlf line).isInfix

lemma not_infix_crlf (absent : 13 ∉ line) : ¬crlf <:+: line :=
  fun inside => absent (inside.subset mem_cons_self)

lemma finds_data {data : Bytes} {needed : Nat} (length : data.length = needed) (rest : Bytes) :
    Finds (fun buffer => if needed ≤ buffer.length then some () else none) data rest
      (fun _ => ()) where
  unfinished := by
    rintro front back rfl behind
    have positive := length_pos_iff.mpr behind
    rw [length_append] at length
    exact if_neg (by omega)
  complete := by
    intro tail _
    rw [length_append]
    exact if_pos (by omega)

/-! ## The trailer section -/

lemma windowPosition_blankLine (unbroken : 13 ∉ line) (rest : Bytes) :
    windowPosition (crlf ++ crlf) (line ++ (crlf ++ rest)) =
      if crlf <+: rest then some line.length
      else (windowPosition (crlf ++ crlf) rest).map (· + (line.length + 2)) := by
  have blank : windowPosition (crlf ++ crlf) (crlf ++ rest) =
      if crlf <+: rest then some 0
      else ((windowPosition (crlf ++ crlf) rest).map (· + 1)).map (· + 1) := by
    simp [crlf, windowPosition]
  have skipped := windowPosition_append unbroken (10 :: crlf) (crlf ++ rest)
  refine skipped.trans ?_
  change (windowPosition (crlf ++ crlf) (crlf ++ rest)).map _ = _
  rw [blank]
  split
  · rw [Option.map_some, zero_add]
  · rw [Option.map_map, Option.map_map]
    congr 1
    funext pos
    simp only [Function.comp_apply]
    omega

variable {lines : List Bytes} {body : Rfc9112.ChunkedBody}

/-- A line of the trailer section does not begin like a line end. -/
lemma not_crlf_prefix_renderLines (wellFormed : ∀ line ∈ lines, line ≠ [] ∧ 13 ∉ line)
    (splits : front ++ back = Rfc9112.renderLines lines) (behind : lines = [] → back ≠ []) :
    ¬crlf <+: front := by
  rintro ⟨more, rfl⟩
  cases lines with
  | nil =>
    have rest : more = [] ∧ back = [] := by simpa [Rfc9112.renderLines, crlf] using splits
    exact behind rfl rest.2
  | cons line =>
    obtain ⟨nonempty, unbroken⟩ := wellFormed line mem_cons_self
    cases line with
    | nil => exact nonempty rfl
    | cons byte =>
      obtain rfl : 13 = byte := (List.cons.inj splits).1
      exact unbroken mem_cons_self

lemma renderLines_cons (line : Bytes) (lines : List Bytes) :
    Rfc9112.renderLines (line :: lines) = line ++ (crlf ++ Rfc9112.renderLines lines) := by
  simp [Rfc9112.renderLines, crlf]

/-- There is no blank line before the trailer section is complete. -/
lemma windowPosition_trailers (wellFormed : ∀ line ∈ lines, line ≠ [] ∧ 13 ∉ line)
    (splits : front ++ back = Rfc9112.renderLines lines) (behind : back ≠ []) :
    windowPosition (crlf ++ crlf) front = none := by
  induction lines generalizing front with
  | nil =>
    rcases line_front_cases splits with inside | inside | ⟨more, -, same⟩
    · exact windowPosition_unended not_mem_nil crlf (.inl inside)
    · exact windowPosition_unended not_mem_nil crlf (.inr inside)
    · exact absurd (append_eq_nil_iff.mp same).2 behind
  | cons line _ ih =>
    have unbroken := (wellFormed line mem_cons_self).2
    have later := fun other mem => wellFormed other (mem_cons_of_mem _ mem)
    rw [renderLines_cons] at splits
    rcases line_front_cases splits with inside | inside | ⟨more, rfl, same⟩
    · exact windowPosition_unended unbroken crlf (.inl inside)
    · exact windowPosition_unended unbroken crlf (.inr inside)
    · rw [windowPosition_blankLine unbroken,
        if_neg (not_crlf_prefix_renderLines later same fun _ => behind), ih later same]
      rfl

section

variable (wellFormed : ∀ other ∈ line :: lines, other ≠ [] ∧ 13 ∉ other)

include wellFormed

/-- There is a blank line behind the last line of the trailer section. -/
lemma windowPosition_trailers_complete (tail : Bytes) :
    ∃ pos, windowPosition (crlf ++ crlf) (Rfc9112.renderLines (line :: lines) ++ tail) =
      some pos := by
  induction lines generalizing line with
  | nil =>
    have unbroken := (wellFormed line mem_cons_self).2
    rw [renderLines_cons, append_assoc, append_assoc, windowPosition_blankLine unbroken]
    exact ⟨_, if_pos (prefix_append crlf tail)⟩
  | cons _ _ ih =>
    have unbroken := (wellFormed line mem_cons_self).2
    obtain ⟨pos, found⟩ := ih fun other mem => wellFormed other (mem_cons_of_mem _ mem)
    rw [renderLines_cons line, append_assoc, append_assoc, windowPosition_blankLine unbroken, found]
    split
    · exact ⟨_, rfl⟩
    · exact ⟨_, rfl⟩

lemma finds_trailers (rest : Bytes) :
    Finds (fun buffer => (windowPosition (crlf ++ crlf) buffer).map fun _ => ())
      (Rfc9112.renderLines (line :: lines)) rest (fun _ => ()) where
  unfinished := by
    intro front back splits behind
    rw [windowPosition_trailers wellFormed splits behind]
    rfl
  complete := by
    intro tail _
    obtain ⟨pos, found⟩ := windowPosition_trailers_complete wellFormed tail
    rw [found]
    rfl

end

/-! ## What arrives at the client -/

lemma received_write (client : Client) (data : Bytes) :
    (client.write data).2.received ++ (client.write data).1.map .byte =
      client.received ++ data.map .byte := by
  rw [Client.write]
  split
  · simp
  · simp

lemma received_writeAll (client : Client) (data : Bytes) :
    (writeAll client data).received = client.received ++ data.map .byte := by
  induction client, data using writeAll.induct with
  | case1 => simp [writeAll]
  | case2 _ _ nonempty ih => rw [writeAll, if_neg nonempty, ih, received_write]

open Rfc9112.Chunk

namespace Dechunker

/-- What the client has received, together with the data that is buffered for it. -/
def delivered (self : Dechunker) : List BodyEvent :=
  match self.delivery with
  | .buffering _ bufferedBody => self.client.received ++ bufferedBody.map .byte
  | .streaming => self.client.received

lemma delivered_deliver (self : Dechunker) (data : Bytes) :
    (self.deliver data).delivered = self.delivered ++ data.map .byte := by
  obtain ⟨buffer, reads, delivery, client⟩ := self
  cases delivery with
  | buffering =>
    rw [deliver]
    dsimp only
    split
    · simp [delivered, received_writeAll, Client.answer]
    · simp [delivered]
  | streaming => simp [deliver, delivered, received_writeAll]

lemma received_close (self : Dechunker) :
    self.close.received = self.delivered ++ [BodyEvent.eof] := by
  obtain ⟨buffer, reads, delivery, client⟩ := self
  cases delivery with
  | buffering => simp [close, delivered, received_writeAll, Client.answer, Client.eof]
  | streaming => simp [close, delivered, Client.eof]

/-! ## Rounds -/

lemma render_append (chunk : Rfc9112.Chunk) (rest : Bytes) :
    chunk.render ++ rest = chunk.line ++ (crlf ++ (chunk.data ++ (crlf ++ rest))) := by
  simp [render, crlf]

variable {self : Dechunker} {line rest : Bytes} {ending : Ending}

lemma round_line (unbroken : ¬crlf <:+: line)
    (arrives : self.encoded = line ++ (crlf ++ rest)) (ending : Ending) :
    ∃ tail left, tail ++ left.flatten = rest ∧
      AgreeUpTo rest.length (self.buffer :: self.reads) (tail :: left) ∧
      self.round ending = onSizeLine ending { self with buffer := tail, reads := left } line := by
  have found := windowPosition_line unbroken rest
  rw [← append_assoc] at arrives found
  obtain ⟨tail, left, fills, flatten, agree⟩ := (finds_window found length_append).refill_eq arrives
  refine ⟨tail, left, flatten, agree, ?_⟩
  have front : (line ++ crlf ++ tail).take (line.length + 2 - 2) = line := by
    simp
  have behind : (line ++ crlf ++ tail).drop (line.length + 2) = tail := drop_left' (by simp [crlf])
  rw [round, fills]
  dsimp only
  rw [front, behind]

/-- The data of a chunk is read and passed on, however it arrives, and whatever the two
bytes behind it are. -/
lemma readChunk_eq {data suffix : Bytes} (arrives : self.encoded = data ++ (suffix ++ rest))
    (two : suffix.length = 2) (fits : data.length + 2 < 2 ^ 64) (ending : Ending) :
    ∃ tail left, tail ++ left.flatten = rest ∧
      AgreeUpTo rest.length (self.buffer :: self.reads) (tail :: left) ∧
      self.readChunk ending data.length =
        .inl (deliver { self with buffer := tail, reads := left } data) := by
  rw [← append_assoc] at arrives
  have length : (data ++ suffix).length = data.length + 2 := by
    rw [length_append, two]
  obtain ⟨tail, left, fills, flatten, agree⟩ := (finds_data length rest).refill_eq arrives
  refine ⟨tail, left, flatten, agree, ?_⟩
  have front : (data ++ suffix ++ tail).take data.length = data := by
    simp
  have behind : (data ++ suffix ++ tail).drop (data.length + 2) = tail := drop_left' length
  rw [readChunk, usizeAdd, if_pos fits]
  dsimp only
  rw [fills]
  dsimp only
  rw [front, behind]

section

variable {chunk : Rfc9112.Chunk} (arrives : self.encoded = chunk.render ++ rest) (ending : Ending)

include arrives

/-- A chunk is passed on if its size line is a text and its size can be represented. -/
lemma round_chunk (decodes : chunk.line.fromUtf8.isSome = true)
    (fits : chunk.data.length + 2 < 2 ^ 64) :
    ∃ tail left, tail ++ left.flatten = rest ∧
      AgreeUpTo rest.length (self.buffer :: self.reads) (tail :: left) ∧
      self.round ending =
        .inl (deliver { self with buffer := tail, reads := left } chunk.data) := by
  rw [render_append] at arrives
  obtain ⟨text, decodes⟩ := Option.isSome_iff_exists.mp decodes
  obtain ⟨middle, more, joined, agreeLine, line⟩ := round_line (not_infix_crlf chunk.unbroken) arrives ending
  obtain ⟨tail, left, flatten, agreeData, data⟩ :=
    @readChunk_eq { self with buffer := middle, reads := more } rest _ crlf joined rfl fits ending
  refine ⟨tail, left, flatten, agreeLine.trans agreeData ?_, ?_⟩
  · simp only [length_append]
    omega
  · rw [line, onSizeLine, chunkSize_eq chunk.sized decodes, if_pos (by omega)]
    dsimp only
    rw [if_neg (length_eq_zero_iff.not.mpr chunk.nonempty), data]

lemma round_chunk_refused
    (refused : ¬(chunk.line.fromUtf8.isSome = true ∧ chunk.data.length + 2 < 2 ^ 64)) :
    ∃ failure, self.round ending = .inr (.failed failure, self.client) := by
  rw [render_append] at arrives
  obtain ⟨middle, more, -, -, line⟩ := round_line (not_infix_crlf chunk.unbroken) arrives ending
  rw [line, onSizeLine]
  cases decodes : chunk.line.fromUtf8 with
  | none =>
    rw [chunkSize, decodes]
    exact ⟨_, rfl⟩
  | some =>
    have large : ¬chunk.data.length + 2 < 2 ^ 64 := fun fits => refused ⟨by simp [decodes], fits⟩
    rw [chunkSize_eq chunk.sized decodes]
    by_cases representable : chunk.data.length < 2 ^ 64
    · rw [if_pos representable]
      dsimp only
      rw [if_neg (length_eq_zero_iff.not.mpr chunk.nonempty), readChunk, usizeAdd, if_neg large]
      exact ⟨_, rfl⟩
    · rw [if_neg representable]
      exact ⟨_, rfl⟩

end

/-! ## The end of the body -/

/-- Without trailers, the final line end is found in the bytes that are there. -/
lemma finish_nil (arrives : self.encoded = crlf) :
    self.finish .keepsOpen =
      if 1 ∉ boundaries (self.buffer :: self.reads) ∧ 2 ∉ boundaries (self.buffer :: self.reads)
      then (.finished, self.close) else (.waiting, self.client) := by
  have lengths : self.buffer.length + self.reads.flatten.length = 2 := by
    rw [← length_append]
    exact congrArg List.length arrives
  have first : self.reads.flatten.length ∈ boundaries (self.buffer :: self.reads) := mem_cons_self
  rw [finish]
  by_cases ended : crlf <+: self.buffer
  · have enough : 2 ≤ self.buffer.length := ended.length_le
    have inside {place : Nat} (positive : 0 < place) :
        place ∉ boundaries (self.buffer :: self.reads) := by
      intro mem
      have le := le_of_mem_boundaries_cons mem
      omega
    rw [if_pos ended, if_pos ⟨inside (by decide), inside (by decide)⟩]
  · have short : self.buffer.length < 2 := by
      apply Nat.lt_of_not_ge
      intro enough
      have front : self.buffer <+: crlf := ⟨self.reads.flatten, arrives⟩
      exact ended (front.eq_of_length_le enough ▸ prefix_rfl)
    have cut : ¬(1 ∉ boundaries (self.buffer :: self.reads) ∧
        2 ∉ boundaries (self.buffer :: self.reads)) := by
      rintro ⟨one, two⟩
      have cases : self.reads.flatten.length = 1 ∨ self.reads.flatten.length = 2 := by omega
      rcases cases with equal | equal
      · exact one (equal ▸ first)
      · exact two (equal ▸ first)
    have starved := @refill_starved _ _
      (fun buffer => (windowPosition (crlf ++ crlf) buffer).map fun _ => ()) self.buffer self.reads
    rw [if_neg ended, if_neg cut, starved]
    · rfl
    · intro front inside
      cases found : windowPosition (crlf ++ crlf) front with
      | none => rfl
      | some pos =>
        have long : pos + 4 ≤ front.length := le_of_windowPosition found
        have le := inside.length_le
        rw [length_append] at le
        omega

/-- With trailers, the proxy reads up to the blank line behind them. -/
lemma finish_cons {trailer : Bytes} {trailers : List Bytes}
    (wellFormed : ∀ other ∈ trailer :: trailers, other ≠ [] ∧ 13 ∉ other)
    (arrives : self.encoded = Rfc9112.renderLines (trailer :: trailers)) (ending : Ending) :
    self.finish ending = (.finished, self.close) := by
  have unended := not_crlf_prefix_renderLines wellFormed arrives
    fun empty => absurd empty (cons_ne_nil _ _)
  rw [finish, if_neg unended]
  have joined : self.buffer ++ self.reads.flatten =
      Rfc9112.renderLines (trailer :: trailers) ++ [] := by
    rw [append_nil]
    exact arrives
  obtain ⟨tail, left, fills, -⟩ := (finds_trailers wellFormed []).refill_eq joined
  rw [fills]

end Dechunker

/-- The client gets the data, and its end, and the proxy is done. -/
def Delivers (result : Outcome × Client) (events : List BodyEvent) : Prop :=
  result.1 = .finished ∧ result.2.received = events

lemma wellFormed_trailers (body : Rfc9112.ChunkedBody) :
    ∀ line ∈ body.trailers, line ≠ [] ∧ 13 ∉ line := by
  intro line mem
  refine ⟨?_, body.trailersUnbroken line mem⟩
  rintro rfl
  have parsed := body.trailersParsed [] mem
  cases parsed

lemma dechunk_last {self : Dechunker} (arrives : self.encoded = body.ending) :
    Delivers (dechunk .keepsOpen self) (self.delivered ++ [BodyEvent.eof]) ↔
      body.last.fromUtf8.isSome = true ∧
        (body.trailers = [] → 1 ∉ boundaries (self.buffer :: self.reads) ∧
          2 ∉ boundaries (self.buffer :: self.reads)) := by
  have split : body.ending = body.last ++ (crlf ++ Rfc9112.renderLines body.trailers) := rfl
  rw [split] at arrives
  obtain ⟨tail, left, flatten, agree, line⟩ :=
    Dechunker.round_line (not_infix_crlf body.lastUnbroken) arrives .keepsOpen
  have near : 2 ≤ (Rfc9112.renderLines body.trailers).length := by
    rw [Rfc9112.renderLines, length_append]
    exact Nat.le_add_left _ _
  rw [agree 1 (by omega), agree 2 near]
  rw [Dechunker.onSizeLine] at line
  cases decodes : body.last.fromUtf8 with
  | none =>
    rw [chunkSize, decodes] at line
    rw [dechunk_of_inr line]
    apply iff_of_false
    · intro delivers
      cases delivers.1
    · intro holds
      cases holds.1
  | some =>
    rw [chunkSize_eq body.lastSized decodes, if_pos (by decide)] at line
    rw [dechunk_of_inr line]
    have wellFormed := wellFormed_trailers body
    have closes : Delivers (.finished, Dechunker.close { self with buffer := tail, reads := left })
        _ := ⟨rfl, Dechunker.received_close _⟩
    cases trailers : body.trailers with
    | nil =>
      rw [trailers] at flatten
      rw [@Dechunker.finish_nil { self with buffer := tail, reads := left } flatten]
      split
      · exact iff_of_true closes ⟨rfl, fun _ => ‹_›⟩
      · apply iff_of_false
        · intro delivers
          cases delivers.1
        · rintro ⟨-, uncut⟩
          exact ‹¬_› (uncut rfl)
    | cons =>
      rw [trailers] at flatten wellFormed
      rw [@Dechunker.finish_cons { self with buffer := tail, reads := left } _ _ wellFormed flatten]
      exact iff_of_true closes ⟨rfl, fun empty => absurd empty (cons_ne_nil _ _)⟩

lemma dechunk_chunks {chunks : List Rfc9112.Chunk} {self : Dechunker}
    (arrives : self.encoded = chunks.flatMap render ++ body.ending) :
    Delivers (dechunk .keepsOpen self)
        (self.delivered ++ (chunks.flatMap Rfc9112.Chunk.data).map .byte ++ [BodyEvent.eof]) ↔
      (∀ line ∈ chunks.map Rfc9112.Chunk.line ++ [body.last], line.fromUtf8.isSome = true) ∧
        (∀ chunk ∈ chunks, chunk.data.length + 2 < 2 ^ 64) ∧
        (body.trailers = [] → 1 ∉ boundaries (self.buffer :: self.reads) ∧
          2 ∉ boundaries (self.buffer :: self.reads)) := by
  induction chunks generalizing self with
  | nil => simpa using dechunk_last arrives
  | cons chunk chunks ih =>
    rw [flatMap_cons, append_assoc] at arrives
    by_cases accepted : chunk.line.fromUtf8.isSome = true ∧ chunk.data.length + 2 < 2 ^ 64
    · obtain ⟨tail, left, flatten, agree, steps⟩ :=
        Dechunker.round_chunk arrives .keepsOpen accepted.1 accepted.2
      let next := Dechunker.deliver { self with buffer := tail, reads := left } chunk.data
      have buffer : next.buffer = tail := Dechunker.deliver_buffer _ _
      have reads : next.reads = left := Dechunker.deliver_reads _ _
      have encoded : next.encoded = chunks.flatMap render ++ body.ending := by
        rw [Dechunker.encoded, buffer, reads, flatten]
      have delivered : next.delivered = self.delivered ++ chunk.data.map .byte :=
        Dechunker.delivered_deliver _ _
      have near : 2 ≤ (chunks.flatMap render ++ body.ending).length := by
        rw [Rfc9112.ChunkedBody.ending]
        simp only [length_append, length_cons]
        omega
      have later := ih encoded
      rw [delivered, buffer, reads, ← agree 1 (by omega), ← agree 2 near] at later
      rw [dechunk_of_inl steps, flatMap_cons, map_append, ← append_assoc, later,
        map_cons, cons_append, forall_mem_cons, forall_mem_cons,
        and_iff_right accepted.1, and_iff_right accepted.2]
    · obtain ⟨failure, stops⟩ := Dechunker.round_chunk_refused arrives .keepsOpen accepted
      rw [dechunk_of_inr stops]
      apply iff_of_false
      · intro delivers
        cases delivers.1
      · rintro ⟨decodes, fits, -⟩
        exact accepted ⟨decodes _ (by simp), fits chunk mem_cons_self⟩

/-! ## Whole responses -/

section Response

variable {crates : Crates} {head body : Bytes} {resp : Response} {reads : List Bytes}

/-- The hop-by-hop headers say nothing about the length. -/
lemma contentLength_filter (headers : List Field) :
    contentLength (headers.filter (·.lowerName ∉ hopByHop)) = contentLength headers := by
  have same : getHeader "content-length" (headers.filter (·.lowerName ∉ hopByHop)) =
      getHeader "content-length" headers := by
    rw [getHeader, getHeader, find?_filter]
    congr 2
    funext field
    by_cases named : field.lowerName = "content-length"
    · simp [named, hopByHop]
    · simp [named]
  rw [contentLength, contentLength, same]

lemma contentLength_eq_none {headers : List Field}
    (unmeasured : ∀ field ∈ headers, field.lowerName ≠ "content-length") :
    contentLength headers = none := by
  have missing : getHeader "content-length" headers = none := by
    rw [getHeader, Option.map_eq_none_iff, find?_eq_none]
    intro field mem named
    exact unmeasured field mem (of_decide_eq_true named)
  rw [contentLength, missing]
  rfl

/-- A chunked response is decoded for clients of HTTP/2 and HTTP/3, unless it also has a
length that makes the proxy buffer it. -/
lemma handleResponse_chunked {protocol : Protocol} (recent : protocol ≠ .http1)
    (chunked : isChunked resp.headers = true)
    (unmeasured : (contentLength resp.headers).filter
      (protocol = .http3 ∧ · ≤ h3BufferedBodyLimit) = none)
    (version : Version) (ending : Ending) (tail : Bytes) (left : List Bytes) (client : Client) :
    handleResponse protocol version ending resp tail left client =
      dechunk ending ⟨tail, left, .buffering ⟨version, resp.code,
        resp.headers.filter (·.lowerName ∉ hopByHop)⟩ [], client⟩ := by
  rw [handleResponse, if_neg recent, contentLength_filter, unmeasured]
  exact if_pos ⟨chunked, recent⟩

/-- A chunked response is delivered, and the proxy is done when it has read it, if and only
if its size lines are texts, its sizes can be represented, and either it has trailers or
the line end behind the last chunk comes in the read in which the size line of the last
chunk ends. -/
theorem delivers_chunked_iff (parses : crates.ParsesHead head resp)
    (builds : crates.buildResponse resp.code resp.headers = .ok ())
    (few : resp.headers.length ≤ Http1Codec.maxHeadersNum)
    (short : head.length ≤ Http1Codec.maxRawHeadersSize) (chunked : isChunked resp.headers = true)
    (unmeasured : ∀ field ∈ resp.headers, field.lowerName ≠ "content-length")
    {protocol : Protocol} (recent : protocol ≠ .http1) (version : Version)
    (body : Rfc9112.ChunkedBody) (arrives : reads.flatten = head ++ body.render)
    (limits : List Nat) :
    Delivers (handleStream crates protocol version ⟨reads, .keepsOpen⟩ ⟨limits, [], []⟩)
        (body.data.map .byte ++ [.eof]) ↔
      (∀ line ∈ body.lines, line.fromUtf8.isSome = true) ∧
        (∀ chunk ∈ body.chunks, chunk.data.length + 2 < 2 ^ 64) ∧
        (body.trailers = [] → 1 ∉ boundaries reads ∧ 2 ∉ boundaries reads) := by
  obtain ⟨tail, left, flatten, agree, handles⟩ :=
    handleStream_eq parses ⟨few, builds, fun _ _ _ => by omega⟩ arrives _ version .keepsOpen
      ⟨limits, [], []⟩
  have near : 2 ≤ body.render.length := by
    rw [Rfc9112.ChunkedBody.render, Rfc9112.ChunkedBody.ending]
    simp only [length_append, length_cons]
    omega
  rw [handles, handleResponse_chunked recent chunked
    (by rw [contentLength_eq_none unmeasured]; rfl), agree 1 (by omega), agree 2 near]
  exact @dechunk_chunks body _ ⟨tail, left, _, _⟩ flatten

end Response

def chunkedHead : Bytes := .ofString "HTTP/1.1 200 OK\r\nTransfer-Encoding: chunked\r\n\r\n"

def chunkedResponse : Response := ⟨200, [⟨"Transfer-Encoding", .ofString "chunked"⟩]⟩

lemma unmeasured_chunkedResponse :
    ∀ field ∈ chunkedResponse.headers, field.lowerName ≠ "content-length" := by
  intro field mem
  rw [mem_singleton.mp mem]
  decide +kernel

/-- A chunk with an extension. -/
def abcChunk : Rfc9112.Chunk where
  line := .ofString "3;a=b"
  data := .ofString "abc"
  unbroken := by decide
  sized := by decide
  nonempty := by decide

def abcBody : Rfc9112.ChunkedBody where
  chunks := [abcChunk]
  last := [48]
  lastUnbroken := by decide
  lastSized := by decide
  trailers := []
  trailersUnbroken := nofun
  trailersParsed := nofun

/-- The chunk is cut, but the end of the body comes in one read. -/
theorem delivers_abcBody :
    Delivers (handleStream (.knowing chunkedHead chunkedResponse) .http2 .http2
        ⟨[chunkedHead ++ .ofString "3;a=b\r\na", .ofString "bc\r\n0\r", .ofString "\n\r\n"],
          .keepsOpen⟩ ⟨[1, 0], [], []⟩) (abcBody.data.map .byte ++ [.eof]) := by
  refine (delivers_chunked_iff (Crates.parsesHead_knowing chunkedResponse (by decide)) rfl
    (by decide) (by decide) (by decide +kernel) unmeasured_chunkedResponse (by decide) .http2
    abcBody (by decide) [1, 0]).mpr ⟨?_, ?_, ?_⟩
  · decide +kernel
  · decide
  · decide

/-- The reads of the same body, with the end of it in a read of its own. -/
def cutReads : List Bytes := [chunkedHead, .ofString "3;a=b\r\nabc\r\n0\r\n", crlf]

/-- The proxy waits for more than the whole body, and the client gets nothing. -/
theorem not_delivers_abcBody_cut :
    cutReads.flatten = chunkedHead ++ abcBody.render ∧
      handleStream (.knowing chunkedHead chunkedResponse) .http2 .http2 ⟨cutReads, .keepsOpen⟩
        ⟨[], [], []⟩ = (.waiting, ⟨[], [], []⟩) ∧
      ¬Delivers (handleStream (.knowing chunkedHead chunkedResponse) .http2 .http2
        ⟨cutReads, .keepsOpen⟩ ⟨[], [], []⟩) (abcBody.data.map .byte ++ [.eof]) := by
  have fills : refill (probeHead (.knowing chunkedHead chunkedResponse)) chunkedHead
      cutReads.tail = .ready (.ok (chunkedResponse, [])) chunkedHead cutReads.tail :=
    refill_of_eq_some (by decide +kernel) _
  have stripped : chunkedResponse.headers.filter (·.lowerName ∉ hopByHop) = [] := by
    decide +kernel
  have chunk : Dechunker.round .keepsOpen
      ⟨[], cutReads.tail, .buffering ⟨.http2, 200, []⟩ [], ⟨[], [], []⟩⟩ =
      .inl ⟨.ofString "0\r\n", [crlf], .buffering ⟨.http2, 200, []⟩ (.ofString "abc"),
        ⟨[], [], []⟩⟩ := by
    decide +kernel
  have last : Dechunker.round .keepsOpen ⟨.ofString "0\r\n", [crlf],
      .buffering ⟨.http2, 200, []⟩ (.ofString "abc"), ⟨[], [], []⟩⟩ =
      .inr (.waiting, ⟨[], [], []⟩) := by
    decide +kernel
  have waits : handleStream (.knowing chunkedHead chunkedResponse) .http2 .http2
      ⟨cutReads, .keepsOpen⟩ ⟨[], [], []⟩ = (.waiting, ⟨[], [], []⟩) := by
    have handles := @handleResponse_chunked chunkedResponse .http2 (by decide)
      (by decide +kernel) (by rw [contentLength_eq_none unmeasured_chunkedResponse]; rfl)
      .http2 .keepsOpen [] cutReads.tail ⟨[], [], []⟩
    rw [stripped] at handles
    rw [handleStream, cutReads]
    dsimp only
    rw [show [.ofString "3;a=b\r\nabc\r\n0\r\n", crlf] = cutReads.tail from rfl, fills]
    exact handles.trans ((dechunk_of_inl chunk).trans (dechunk_of_inr last))
  refine ⟨by decide, waits, ?_⟩
  rw [waits]
  intro delivers
  cases delivers.1

end ReverseProxy

end TrustTunnel.Endpoint
