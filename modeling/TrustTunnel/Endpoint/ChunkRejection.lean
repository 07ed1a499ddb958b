import TrustTunnel.Endpoint.ChunkScan
import TrustTunnel.Endpoint.ProxiedBody

/-!
# Refusing what is not a chunked body

The reverse proxy ends with an error, or passes on data of correctly delimited chunks only,
if and only if each piece it takes is a chunk, or it comes to an end without having passed
on anything. It panics on sizes near the largest `usize`.
-/

namespace TrustTunnel.Endpoint

open Wire Http Chunked List

namespace Client

/-- The bytes of the body in the sink. -/
def body (self : Client) : Bytes :=
  self.received.filterMap fun
    | .byte byte => some byte
    | .eof => none

lemma filterMap_byte (data : Bytes) :
    (data.map BodyEvent.byte).filterMap (fun | .byte byte => some byte | .eof => none) = data := by
  rw [filterMap_map]
  exact filterMap_some

end Client

namespace ReverseProxy

variable {data : Bytes} {self : Dechunker} {body : Bytes} {self : Dechunker} {client : Client}

namespace Dechunker

/-- The data has been passed on as far as there is too much of it to be buffered. -/
def Holds (self : Dechunker) (data : Bytes) : Prop :=
  match self.delivery with
  | .buffering _ bufferedBody =>
    bufferedBody = data ∧ self.client.received = [] ∧ data.length ≤ h3BufferedBodyLimit
  | .streaming => self.client.received = data.map .byte ∧ h3BufferedBodyLimit < data.length

lemma holds_deliver (holds : self.Holds data) (more : Bytes) :
    (self.deliver more).Holds (data ++ more) := by
  obtain ⟨buffer, reads, delivery, client⟩ := self
  cases delivery with
  | buffering =>
    obtain ⟨rfl, nothing, -⟩ := holds
    rw [deliver]
    dsimp only
    split
    · refine ⟨?_, ‹_›⟩
      rw [received_writeAll, Client.answer, nothing, nil_append]
    · exact ⟨rfl, nothing, Nat.le_of_not_lt ‹_›⟩
  | streaming =>
    obtain ⟨got, long⟩ := holds
    refine ⟨?_, ?_⟩
    · rw [deliver]
      rw [received_writeAll, got, map_append]
    · rw [length_append]
      omega

lemma received_close_of_holds (holds : self.Holds data) :
    self.close.received = data.map .byte ++ [BodyEvent.eof] := by
  rw [received_close]
  obtain ⟨buffer, reads, delivery, client⟩ := self
  cases delivery with
  | buffering =>
    obtain ⟨rfl, nothing, -⟩ := holds
    rw [delivered]
    dsimp only
    rw [nothing, nil_append]
  | streaming =>
    obtain ⟨got, -⟩ := holds
    exact congrArg (· ++ _) got

/-- Before the end, only a large amount of data is passed on. -/
lemma received_of_holds (holds : self.Holds data) :
    self.client.received =
      if data.length ≤ h3BufferedBodyLimit then [] else data.map .byte := by
  obtain ⟨buffer, reads, delivery, client⟩ := self
  cases delivery with
  | buffering =>
    obtain ⟨rfl, nothing, short⟩ := holds
    rw [if_pos short]
    exact nothing
  | streaming =>
    obtain ⟨got, long⟩ := holds
    rw [if_neg (Nat.not_le_of_lt long)]
    exact got

end Dechunker

/-! ## The loop and the scan -/

/-- How the loop ends. -/
def Stop.result (ending : Ending) (self : Dechunker) : Stop → Outcome × Client
  | .unreadable error => (.failed (.io error), self.client)
  | .overflow => (.failed (.panic .addition), self.client)
  | .last => self.finish ending
  | .unfinished => ending.read self.client (.failed (.io (.ofKind .unexpectedEof)), self.client)

namespace Dechunker

variable {self : Dechunker}

lemma readChunk_short {size : Nat} (fits : size + 2 < 2 ^ 64)
    (short : self.encoded.length < size + 2) (ending : Ending) :
    self.readChunk ending size =
      .inr (ending.read self.client (.failed (.io (.ofKind .unexpectedEof)), self.client)) := by
  have starved := @refill_starved _ _
    (fun buffer => if size + 2 ≤ buffer.length then some () else none) self.buffer self.reads
  rw [readChunk, usizeAdd, if_pos fits]
  dsimp only
  rw [starved]
  intro front inside
  have le := inside.length_le
  apply if_neg
  rw [encoded] at short
  omega

lemma round_of_error {stop : Stop} (stops : nextPiece self.encoded = .error stop)
    (ending : Ending) :
    ∃ tail left, self.round ending =
      .inr (stop.result ending { self with buffer := tail, reads := left }) := by
  cases window : windowPosition crlf self.encoded with
  | none =>
    rw [nextPiece, window] at stops
    cases stops
    have starved := @refill_starved _ _
      (fun buffer => (windowPosition crlf buffer).map (· + 2)) self.buffer self.reads
    refine ⟨[], [], ?_⟩
    rw [round, starved]
    · rfl
    · rintro front ⟨back, same⟩
      cases found : windowPosition crlf front with
      | none => rfl
      | some =>
        have later := windowPosition_append_of_eq_some found (by decide) back
        rw [same, ← encoded, window] at later
        cases later
  | some =>
    obtain ⟨line, rest, split, -, unbroken⟩ := exists_line window
    rw [split, nextPiece_line unbroken] at stops
    obtain ⟨tail, left, flatten, -, reads⟩ := round_line unbroken split ending
    refine ⟨tail, left, ?_⟩
    rw [reads, onSizeLine]
    cases sized : chunkSize line with
    | error =>
      rw [sized] at stops
      cases stops
      rfl
    | ok size =>
      rw [sized] at stops
      dsimp only at stops ⊢
      by_cases last : size = 0
      · rw [if_pos last] at stops ⊢
        cases stops
        rfl
      · rw [if_neg last] at stops ⊢
        split at stops
        · cases stops
          rw [readChunk, usizeAdd, if_neg (by omega)]
          rfl
        · split at stops
          · cases stops
            apply readChunk_short (by omega)
            rw [encoded]
            rw [flatten]
            assumption
          · cases stops

lemma round_of_ok {piece : Piece} {rest : Bytes}
    (found : nextPiece self.encoded = .ok (piece, rest)) (ending : Ending) :
    ∃ tail left, tail ++ left.flatten = rest ∧ self.round ending =
      .inl (deliver { self with buffer := tail, reads := left } piece.data) := by
  have here := at_of_nextPiece found
  obtain ⟨middle, more, joined, -, reads⟩ := round_line here.unbroken here.split ending
  obtain ⟨tail, left, flatten, -, data⟩ :=
    @readChunk_eq { self with buffer := middle, reads := more } rest _ _ joined
      here.two here.fits ending
  refine ⟨tail, left, flatten, ?_⟩
  rw [reads, onSizeLine, here.sized]
  dsimp only
  rw [if_neg (length_eq_zero_iff.not.mpr here.nonempty), data]

end Dechunker

/-- The loop passes on the data of the pieces, and ends as the scan does. -/
lemma dechunk_eq (holds : self.Holds data) (ending : Ending) :
    ∃ next : Dechunker,
      next.Holds (data ++ (scan self.encoded).1.flatMap Piece.data) ∧
        dechunk ending self = (scan self.encoded).2.result ending next := by
  generalize encoded : self.encoded = body
  induction body using scan_induction generalizing self data with
  | stops _ _ found =>
    rw [← encoded] at found
    obtain ⟨tail, left, stops⟩ := Dechunker.round_of_error found ending
    refine ⟨{ self with buffer := tail, reads := left }, ?_, ?_⟩
    · rw [← encoded, scan_of_error found, flatMap_nil, append_nil]
      exact holds
    · rw [← encoded, scan_of_error found]
      exact dechunk_of_inr stops
  | piece _ piece rest found ih =>
    rw [← encoded] at found
    obtain ⟨tail, left, flatten, steps⟩ := Dechunker.round_of_ok found ending
    have taken : Dechunker.Holds { self with buffer := tail, reads := left } data := holds
    have remains : (Dechunker.deliver { self with buffer := tail, reads := left }
        piece.data).encoded = rest := by
      rw [Dechunker.encoded, Dechunker.deliver_buffer, Dechunker.deliver_reads, flatten]
    obtain ⟨next, holds, ends⟩ := ih (Dechunker.holds_deliver taken _) remains
    refine ⟨next, ?_, ?_⟩
    · rw [← encoded, scan_of_ok found, flatMap_cons, ← append_assoc]
      exact holds
    · rw [← encoded, scan_of_ok found, dechunk_of_inl steps]
      exact ends

/-! ## What the client gets -/

/-- The proxy does not panic, and it ends with an error or has passed on nothing but data
of correctly delimited chunks. -/
def ForwardsDelimited (body : Bytes) (result : Outcome × Client) : Prop :=
  (∀ fault, result.1 ≠ .failed (.panic fault)) ∧
    ((∃ error, result.1 = .failed (.io error)) ∨
      ∃ data, Delimited body data ∧ result.2.body <+: data)

/-- The bytes do not mislead the loop over the chunks. -/
def Unmistakable (body : Bytes) : Prop :=
  (scan body).2 ≠ .overflow ∧
    ((∀ piece ∈ (scan body).1, piece.IsChunk) ∨
      (∃ error, (scan body).2 = .unreadable error) ∨
      ((scan body).2 = .unfinished ∧
        ((scan body).1.flatMap Piece.data).length ≤ h3BufferedBodyLimit))

lemma forwardsDelimited_failed (body : Bytes) (error : IoError) (client : Client) :
    ForwardsDelimited body (.failed (.io error), client) := by
  refine ⟨?_, .inl ⟨error, rfl⟩⟩
  intro fault panics
  cases panics

lemma forwardsDelimited_of_prefix {outcome : Outcome}
    (succeeds : ∀ failure, outcome ≠ .failed failure) (delimited : Delimited body data)
    (sent : client.body <+: data) : ForwardsDelimited body (outcome, client) :=
  ⟨fun fault => succeeds (.panic fault), .inr ⟨data, delimited, sent⟩⟩

/-- A read at the end does not change what the client has got. -/
lemma forwardsDelimited_read {atEof : Outcome × Client}
    (waits : ForwardsDelimited body (.waiting, client)) (ends : ForwardsDelimited body atEof)
    (ending : Ending) : ForwardsDelimited body (ending.read client atEof) := by
  cases ending with
  | keepsOpen => exact waits
  | closes => exact ends
  | fails error => exact forwardsDelimited_failed body error client

namespace Dechunker

lemma forwardsDelimited_finish (waits : ForwardsDelimited body (.waiting, self.client))
    (ends : ForwardsDelimited body (.finished, self.close)) (ending : Ending) :
    ForwardsDelimited body (self.finish ending) := by
  rw [finish]
  split
  · exact ends
  · split
    · exact ends
    · exact forwardsDelimited_read waits ends ending

lemma finish_closes (self : Dechunker) : self.finish .closes = (.finished, self.close) := by
  rw [finish]
  split
  · rfl
  · split
    · rfl
    · rfl

lemma body_of_holds (holds : self.Holds data) :
    self.client.body = if data.length ≤ h3BufferedBodyLimit then [] else data := by
  rw [Client.body, received_of_holds holds]
  split
  · rfl
  · exact Client.filterMap_byte data

lemma body_close_of_holds (holds : self.Holds data) : self.close.body = data := by
  rw [Client.body, received_close_of_holds holds, filterMap_append, Client.filterMap_byte]
  exact append_nil _

end Dechunker

lemma forwardsDelimited_result (holds : self.Holds ((scan body).1.flatMap Piece.data))
    (clear : Unmistakable body) (ending : Ending) :
    ForwardsDelimited body ((scan body).2.result ending self) := by
  have waits (delimited : (∀ piece ∈ (scan body).1, piece.IsChunk) ∨
      ((scan body).1.flatMap Piece.data).length ≤ h3BufferedBodyLimit) :
      ForwardsDelimited body (.waiting, self.client) := by
    apply forwardsDelimited_of_prefix (by simp) (delimited_delimitedPieces body)
    rw [Dechunker.body_of_holds holds]
    split
    · exact nil_prefix
    · have chunks := delimited.resolve_right ‹_›
      rw [delimitedPieces, takeWhile_eq_self_iff.mpr (by simpa using chunks)]
  obtain ⟨countable, delimited⟩ := clear
  cases stop : (scan body).2 with
  | unreadable error => exact forwardsDelimited_failed body error _
  | overflow => exact absurd stop countable
  | last =>
    have chunks : ∀ piece ∈ (scan body).1, piece.IsChunk := by
      rcases delimited with chunks | ⟨error, other⟩ | ⟨other, -⟩
      · exact chunks
      · rw [stop] at other
        cases other
      · rw [stop] at other
        cases other
    apply Dechunker.forwardsDelimited_finish (waits (.inl chunks))
    apply forwardsDelimited_of_prefix (by simp) (delimited_delimitedPieces body)
    rw [Dechunker.body_close_of_holds holds, delimitedPieces,
      takeWhile_eq_self_iff.mpr (by simpa using chunks)]
  | unfinished =>
    have calm : (∀ piece ∈ (scan body).1, piece.IsChunk) ∨
        ((scan body).1.flatMap Piece.data).length ≤ h3BufferedBodyLimit := by
      rcases delimited with chunks | ⟨error, other⟩ | ⟨-, short⟩
      · exact .inl chunks
      · rw [stop] at other
        cases other
      · exact .inr short
    exact forwardsDelimited_read (waits calm) (forwardsDelimited_failed body _ _) ending

/-- There is an ending with which the loop goes wrong on other bytes. -/
lemma unmistakable_of_forwardsDelimited
    (forwards : ∀ ending, ∃ self : Dechunker,
      self.Holds ((scan body).1.flatMap Piece.data) ∧
        ForwardsDelimited body ((scan body).2.result ending self)) :
    Unmistakable body := by
  have countable : (scan body).2 ≠ .overflow := by
    intro stop
    obtain ⟨self, -, safe, -⟩ := forwards .closes
    rw [stop] at safe
    exact safe .addition rfl
  refine ⟨countable, ?_⟩
  cases stop : (scan body).2 with
  | unreadable error => exact .inr (.inl ⟨error, rfl⟩)
  | overflow => exact absurd stop countable
  | last =>
    obtain ⟨self, holds, -, sent⟩ := forwards .closes
    rw [stop, Stop.result, Dechunker.finish_closes] at sent
    rcases sent with ⟨error, fails⟩ | ⟨data, delimited, sent⟩
    · cases fails
    · rw [Dechunker.body_close_of_holds holds] at sent
      exact .inl (isChunk_of_delimited delimited (.inl stop) sent)
  | unfinished =>
    by_cases short : ((scan body).1.flatMap Piece.data).length ≤ h3BufferedBodyLimit
    · exact .inr (.inr ⟨rfl, short⟩)
    · obtain ⟨self, holds, -, sent⟩ := forwards .keepsOpen
      rw [stop, Stop.result, Ending.read] at sent
      rcases sent with ⟨error, fails⟩ | ⟨data, delimited, sent⟩
      · cases fails
      · rw [Dechunker.body_of_holds holds, if_neg short] at sent
        exact .inl (isChunk_of_delimited delimited (.inr stop) sent)

/-! ## Whole responses -/

/-- The bytes behind the head are what the proxy takes them for. If the response also has
a length, an HTTP/3 client may get the chunks as they are. -/
def Unmistaken (protocol : Protocol) (resp : Response) (body : Bytes) : Prop :=
  match (contentLength resp.headers).filter (protocol = .http3 ∧ · ≤ h3BufferedBodyLimit) with
  | some total => body = [] ∨ body.length < total
  | none => Unmistakable body

variable {total : Nat} {protocol : Protocol}

lemma handleResponse_measured {resp : Response} (recent : protocol ≠ .http1)
    (measured : (contentLength resp.headers).filter
      (protocol = .http3 ∧ · ≤ h3BufferedBodyLimit) = some total)
    (version : Version) (ending : Ending) (tail : Bytes) (left : List Bytes) (client : Client) :
    handleResponse protocol version ending resp tail left client =
      sendBuffered ending ⟨version, resp.code,
        resp.headers.filter (·.lowerName ∉ hopByHop)⟩ total tail left client := by
  rw [handleResponse, if_neg recent, contentLength_filter, measured]

section Response

variable {crates : Crates} {head body tail : Bytes} {resp : Response}
  {left : List Bytes} {protocol : Protocol}

section

variable (headers : ResponseHeaders) (limits : List Nat)

lemma forwardsDelimited_sendBuffered (joined : tail ++ left.flatten = body)
    (unsent : body = [] ∨ body.length < total) (ending : Ending) :
    ForwardsDelimited body (sendBuffered ending headers total tail left ⟨limits, [], []⟩) := by
  have empty (outcome : Outcome) (succeeds : ∀ failure, outcome ≠ .failed failure)
      (client : Client) (nothing : client.body = []) : ForwardsDelimited body (outcome, client) :=
    forwardsDelimited_of_prefix succeeds (.nil body) (nothing ▸ nil_prefix)
  rw [sendBuffered_eq]
  split
  · apply empty _ (by simp)
    rcases unsent with rfl | short
    · obtain ⟨rfl, rest⟩ := append_eq_nil_iff.mp joined
      rw [rest, Client.body, Client.eof, received_writeAll]
      simp [Client.answer]
    · rw [← joined, length_append] at short
      omega
  · exact forwardsDelimited_read (empty _ (by simp) _ rfl)
      (forwardsDelimited_failed body _ _) ending

/-- Everything that comes with the head is passed on. -/
lemma not_forwardsDelimited_sendBuffered (nonempty : body ≠ []) (enough : total ≤ body.length)
    (ending : Ending) :
    ¬ForwardsDelimited body (sendBuffered ending headers total body [] ⟨limits, [], []⟩) := by
  rw [sendBuffered_eq, if_pos (Nat.le_add_right_of_le enough)]
  rintro ⟨-, ⟨error, fails⟩ | ⟨data, delimited, sent⟩⟩
  · cases fails
  · have whole : (writeAll (Client.answer ⟨limits, [], []⟩ (.final headers false))
        (body ++ [])).eof.body = body := by
      rw [append_nil, Client.body, Client.eof, received_writeAll, received_answer,
        nil_append, filterMap_append, Client.filterMap_byte]
      exact append_nil _
    rw [flatten_nil, take_nil] at sent
    rw [whole] at sent
    have shorter := delimited.length_lt nonempty
    have longer := sent.length_le
    omega

lemma holds_nil (tail : Bytes) (left : List Bytes) :
    Dechunker.Holds ⟨tail, left, .buffering headers [], ⟨limits, [], []⟩⟩ [] :=
  ⟨rfl, rfl, Nat.zero_le _⟩

end

/-- A chunked response without a length that counts is handled as its scan says. -/
lemma handleResponse_scan (chunked : isChunked resp.headers = true) (recent : protocol ≠ .http1)
    (unmeasured : (contentLength resp.headers).filter
      (protocol = .http3 ∧ · ≤ h3BufferedBodyLimit) = none)
    (joined : tail ++ left.flatten = body) (version : Version) (ending : Ending)
    (limits : List Nat) :
    ∃ next : Dechunker, next.Holds ((scan body).1.flatMap Piece.data) ∧
      handleResponse protocol version ending resp tail left ⟨limits, [], []⟩ =
        (scan body).2.result ending next := by
  obtain ⟨next, holds, ends⟩ := dechunk_eq (holds_nil ⟨version, resp.code,
    resp.headers.filter _⟩ _ tail left) ending
  rw [Dechunker.encoded, joined] at holds ends
  refine ⟨next, holds, ?_⟩
  rw [handleResponse_chunked recent chunked unmeasured, ends]

/-- However the bytes behind the head of a chunked response arrive and whatever comes after
them, the proxy does not panic, and it ends with an error or passes on nothing but data of
correctly delimited chunks, if and only if the bytes are not mistaken. -/
theorem forwardsDelimited_iff (parses : crates.ParsesHead head resp)
    (chunked : isChunked resp.headers = true) (recent : protocol ≠ .http1)
    (version : Version) (body : Bytes) :
    (∀ (reads : List Bytes) (ending : Ending) (limits : List Nat),
      reads.flatten = head ++ body → ForwardsDelimited body
        (handleStream crates protocol version ⟨reads, ending⟩ ⟨limits, [], []⟩)) ↔
      (resp.headers.length ≤ Http1Codec.maxHeadersNum →
        crates.buildResponse resp.code resp.headers = .ok () → Unmistaken protocol resp body) := by
  constructor
  · intro forwards few builds
    have single (ending : Ending) := forwards [head ++ body] ending [] (append_nil _)
    rw [Unmistaken]
    split
    · rename_i total measured
      have whole := single .closes
      rw [handleStream_single parses few builds, handleResponse_measured recent measured] at whole
      rcases eq_or_ne body [] with empty | nonempty
      · exact .inl empty
      · apply Or.inr
        apply Nat.lt_of_not_le
        intro enough
        exact not_forwardsDelimited_sendBuffered _ _ nonempty enough _ whole
    · rename_i unmeasured
      apply unmistakable_of_forwardsDelimited
      intro ending
      have joined : body ++ ([] : List Bytes).flatten = body := append_nil body
      obtain ⟨next, holds, ends⟩ :=
        handleResponse_scan chunked recent unmeasured joined version ending []
      have whole := single ending
      rw [handleStream_single parses few builds, ends] at whole
      exact ⟨next, holds, whole⟩
  · intro unmistaken reads ending limits arrives
    by_cases accepts : Accepts crates head body resp reads
    · obtain ⟨tail, left, joined, -, handles⟩ :=
        handleStream_eq parses accepts arrives _ version ending ⟨limits, [], []⟩
      have clear := unmistaken accepts.few accepts.builds
      rw [handles]
      rw [Unmistaken] at clear
      split at clear
      · rename_i total measured
        rw [handleResponse_measured recent measured]
        exact forwardsDelimited_sendBuffered _ _ joined clear ending
      · rename_i unmeasured
        obtain ⟨next, holds, ends⟩ :=
          handleResponse_scan chunked recent unmeasured joined version ending _
        rw [ends]
        exact forwardsDelimited_result holds clear ending
    · obtain ⟨error, refused⟩ :=
        handleStream_refused parses accepts arrives _ version ending ⟨limits, [], []⟩
      rw [refused]
      exact forwardsDelimited_failed body error _

end Response

/-- The bytes of a chunked body with a piece that is followed by other bytes than CRLF. -/
def misdelimited : Bytes := .ofString "3\r\nabcXX0\r\n\r\n"

lemma scan_lastChunk : scan (.ofString "0\r\n\r\n") = ([], .last) :=
  scan_of_error (by decide +kernel)

lemma scan_misdelimited :
    scan misdelimited = ([⟨[51], .ofString "abc", .ofString "XX"⟩], .last) := by
  have first : nextPiece misdelimited =
      .ok (⟨[51], .ofString "abc", .ofString "XX"⟩, .ofString "0\r\n\r\n") := by
    decide +kernel
  rw [scan_of_ok first, scan_lastChunk]

/-- A size line with the largest `usize`, and a byte behind it. -/
def countless : Bytes := .ofString "ffffffffffffffff\r\nX"

lemma scan_countless : scan countless = ([], .overflow) := scan_of_error (by decide +kernel)

lemma scan_abcBody :
    scan abcBody.render = ([⟨.ofString "3;a=b", .ofString "abc", crlf⟩], .last) := by
  have first : nextPiece abcBody.render =
      .ok (⟨.ofString "3;a=b", .ofString "abc", crlf⟩, .ofString "0\r\n\r\n") := by
    decide +kernel
  rw [scan_of_ok first, scan_lastChunk]

lemma unmeasured_filter :
    (contentLength chunkedResponse.headers).filter
      (protocol = .http3 ∧ · ≤ h3BufferedBodyLimit) = none := by
  rw [contentLength_eq_none unmeasured_chunkedResponse]
  rfl

/-- A chunked body that is cut into reads. -/
theorem forwardsDelimited_abcBody :
    ForwardsDelimited abcBody.render (handleStream (.knowing chunkedHead chunkedResponse)
      .http3 .http3 ⟨[chunkedHead ++ .ofString "3;a=b\r\na", .ofString "bc\r\n0\r\n\r\n"],
        .closes⟩ ⟨[1], [], []⟩) := by
  have parses := @Crates.parsesHead_knowing chunkedHead chunkedResponse (by decide)
  refine (forwardsDelimited_iff parses (by decide +kernel) (by decide) .http3
    abcBody.render).mpr ?_ _ .closes [1] (by decide)
  intro _ _
  rw [Unmistaken, unmeasured_filter]
  rw [Unmistakable, scan_abcBody]
  exact ⟨by decide, .inl (by decide)⟩

/-- The proxy passes on data that is not followed by CRLF, and the largest size makes it
panic. -/
theorem not_forwardsDelimited_misdelimited :
    ¬ForwardsDelimited misdelimited (handleStream (.knowing chunkedHead chunkedResponse)
        .http2 .http2 ⟨[chunkedHead ++ misdelimited], .closes⟩ ⟨[], [], []⟩) ∧
      (handleStream (.knowing chunkedHead chunkedResponse) .http2 .http2
        ⟨[chunkedHead ++ countless], .keepsOpen⟩ ⟨[], [], []⟩).1 = .failed (.panic .addition) := by
  have parses := @Crates.parsesHead_knowing chunkedHead chunkedResponse (by decide)
  have handles (body : Bytes) (ending : Ending) :
      ∃ next : Dechunker, next.Holds ((scan body).1.flatMap Piece.data) ∧
        handleStream (.knowing chunkedHead chunkedResponse) .http2 .http2
          ⟨[chunkedHead ++ body], ending⟩ ⟨[], [], []⟩ = (scan body).2.result ending next := by
    have joined : body ++ ([] : List Bytes).flatten = body := append_nil body
    rw [handleStream_single parses (by decide) rfl]
    exact handleResponse_scan (by decide +kernel) (by decide) unmeasured_filter joined .http2
      ending []
  constructor
  · obtain ⟨next, holds, ends⟩ := handles misdelimited .closes
    rw [ends, scan_misdelimited, Stop.result, Dechunker.finish_closes]
    rintro ⟨-, ⟨error, fails⟩ | ⟨data, delimited, sent⟩⟩
    · cases fails
    · rw [Dechunker.body_close_of_holds holds] at sent
      have chunks := isChunk_of_delimited delimited (.inl (by rw [scan_misdelimited])) sent
      rw [scan_misdelimited] at chunks
      exact absurd (chunks _ mem_cons_self) (by decide)
  · obtain ⟨next, -, ends⟩ := handles countless .keepsOpen
    rw [ends, scan_countless]
    rfl

end ReverseProxy

end TrustTunnel.Endpoint
