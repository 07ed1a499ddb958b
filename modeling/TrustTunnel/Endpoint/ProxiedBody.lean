import TrustTunnel.Endpoint.Dechunking

/-!
# Bodies of a known length in the reverse proxy

The reverse proxy passes on the first bytes of a body without looking at its length, and
counts only what comes later. So it keeps to the length if and only if the read in which
the head of the response ends does not go beyond the end of the body; and unless the body
is buffered, a body that the origin cuts short is ended like any other.
-/

namespace TrustTunnel.Endpoint.ReverseProxy

open Wire Http Chunked List

/-! ## The loops over the reads -/

/-- What is taken of a chunk, and of the bytes behind it. -/
lemma take_append_min (chunk rest : Bytes) (count : Nat) :
    (chunk ++ rest).take count =
      chunk.take (min chunk.length count) ++ rest.take (count - min chunk.length count) := by
  rw [take_append]
  rcases le_total count _ with le | le
  · rw [min_eq_right le, Nat.sub_self, Nat.sub_eq_zero_of_le le]
  · rw [min_eq_left le, take_of_length_le le, take_length]

lemma bufferBody_eq (remaining : Nat) (body : Bytes) (reads : List Bytes) :
    bufferBody remaining body reads =
      if remaining ≤ reads.flatten.length then some (body ++ reads.flatten.take remaining)
      else none := by
  induction reads generalizing remaining body with
  | nil =>
    rw [bufferBody]
    by_cases done : remaining = 0
    · simp [done]
    · simp [done]
  | cons _ _ ih =>
    rw [bufferBody]
    by_cases done : remaining = 0
    · simp [done]
    · rw [if_neg done]
      rw [ih, flatten_cons, take_append_min, length_append, append_assoc]
      congr 1
      rw [eq_iff_iff]
      omega

/-- The loop sends the rest of the body, as far as it comes. -/
lemma streamBody_eq (remaining : Nat) (client : Client) (reads : List Bytes) :
    (streamBody remaining client reads).1 = decide (remaining ≤ reads.flatten.length) ∧
      (streamBody remaining client reads).2.received =
        client.received ++ (reads.flatten.take remaining).map .byte := by
  induction reads generalizing remaining client with
  | nil =>
    rw [streamBody]
    by_cases done : remaining = 0
    · simp [done]
    · simp [done]
  | cons _ _ ih =>
    rw [streamBody]
    by_cases done : remaining = 0
    · simp [done]
    · rw [if_neg done]
      obtain ⟨complete, got⟩ := ih _ _
      rw [complete, got, received_writeAll, flatten_cons, take_append_min,
        length_append, map_append, append_assoc]
      refine ⟨?_, rfl⟩
      rw [decide_eq_decide]
      omega

lemma received_answer (client : Client) (answer : Answer) :
    (client.answer answer).received = client.received := rfl

/-- A body that is buffered is sent when it is complete. -/
lemma sendBuffered_eq (ending : Ending) (resp : ResponseHeaders) (total : Nat)
    (chunk : Bytes) (reads : List Bytes) (client : Client) :
    sendBuffered ending resp total chunk reads client =
      if total ≤ chunk.length + reads.flatten.length then
        (.finished, (writeAll (client.answer (.final resp false))
          (chunk ++ reads.flatten.take (total - chunk.length))).eof)
      else ending.read client (.failed (.io (.ofKind .unexpectedEof)), client) := by
  rw [sendBuffered, bufferBody_eq]
  by_cases complete : total ≤ chunk.length + reads.flatten.length
  · rw [if_pos (by omega), if_pos complete]
  · rw [if_neg (by omega), if_neg complete]

variable {total : Nat}

/-- A body that is not buffered is sent as it comes, and ended also if it is cut short. -/
lemma exists_sendStreamed_eq (ending : Ending) (resp : ResponseHeaders) {chunk : Bytes}
    (inside : chunk.length ≤ total) (reads : List Bytes) (client : Client) :
    ∃ sent : Client,
      sent.received = client.received ++ ((chunk ++ reads.flatten).take total).map .byte ∧
      sendStreamed ending resp (some total) chunk reads client =
        if total ≤ chunk.length + reads.flatten.length then (.finished, sent.eof)
        else ending.read sent (.finished, sent.eof) := by
  have taken : (chunk ++ reads.flatten).take total =
      chunk ++ reads.flatten.take (total - chunk.length) := by
    rw [take_append, take_of_length_le inside]
  obtain ⟨complete, got⟩ := streamBody_eq _ _ reads
  rw [received_writeAll] at got
  rw [sendStreamed, Option.filter_some, if_pos (by simpa using inside)]
  dsimp only
  generalize streamBody _ _ reads = streamed at complete got
  obtain ⟨done, sent⟩ := streamed
  refine ⟨sent, ?_, ?_⟩
  · rw [taken, map_append, ← append_assoc]
    exact got
  · dsimp only at complete
    by_cases enough : total ≤ chunk.length + reads.flatten.length
    · rw [if_pos enough, complete, decide_eq_true (by omega)]
    · rw [if_neg enough, complete, decide_eq_false (by omega)]

/-! ## Whole responses -/

/-- The client gets the first bytes and the end of the body, unless the proxy ends with an
error; if the body is cut short, the client does not get the end. -/
def SendsExactly (total : Nat) (body : Bytes) (result : Outcome × Client) : Prop :=
  if total ≤ body.length then
    (∃ error, result.1 = .failed (.io error)) ∨
      result.2.received = (body.take total).map .byte ++ [BodyEvent.eof]
  else .eof ∉ result.2.received

lemma sendsExactly_of_succeeds {body : Bytes} {outcome : Outcome} {client : Client}
    (complete : total ≤ body.length) (succeeds : ∀ failure, outcome ≠ .failed failure) :
    SendsExactly total body (outcome, client) ↔
      client.received = (body.take total).map .byte ++ [BodyEvent.eof] := by
  rw [SendsExactly, if_pos complete]
  apply or_iff_right
  rintro ⟨error, fails⟩
  exact succeeds _ fails

lemma eof_notMem_map (data : Bytes) : .eof ∉ data.map BodyEvent.byte := by
  intro mem
  obtain ⟨byte, -, same⟩ := mem_map.mp mem
  cases same

variable {crates : Crates} {head body tail : Bytes} {resp : Response} {total : Nat}
  {reads left : List Bytes}

section

variable (joined : tail ++ left.flatten = body) (ending : Ending) (resp : ResponseHeaders)
  (limits : List Nat)

include joined

lemma sendsExactly_sendBuffered :
    SendsExactly total body (sendBuffered ending resp total tail left ⟨limits, [], []⟩) ↔
      tail.length ≤ total := by
  have length : body.length = tail.length + left.flatten.length := by
    rw [← joined, length_append]
  rw [sendBuffered_eq, ← length]
  by_cases complete : total ≤ body.length
  · rw [if_pos complete, sendsExactly_of_succeeds complete (by simp), Client.eof,
      received_writeAll, received_answer, nil_append, ← joined, take_append]
    constructor
    · intro same
      have lengths := congrArg List.length same
      simp only [length_map, length_append, length_take] at lengths
      omega
    · intro inside
      rw [take_of_length_le inside]
  · rw [if_neg complete, SendsExactly, if_neg complete]
    apply iff_of_true
    · cases ending with
      | keepsOpen | closes | fails => exact not_mem_nil
    · omega

lemma sendsExactly_sendStreamed :
    SendsExactly total body (sendStreamed ending resp (some total) tail left ⟨limits, [], []⟩) ↔
      tail.length ≤ total ∧ (total ≤ body.length ∨ ending ≠ .closes) := by
  have length : body.length = tail.length + left.flatten.length := by
    rw [← joined, length_append]
  rcases lt_or_ge total tail.length with beyond | inside
  · have complete : total ≤ body.length := by omega
    rw [sendStreamed, Option.filter_some, if_neg (by simpa using beyond), sendsExactly_of_succeeds complete (by simp),
      received_writeAll, received_answer, nil_append]
    apply iff_of_false
    · intro same
      apply eof_notMem_map tail
      rw [same]
      exact mem_append_right _ mem_cons_self
    · omega
  · obtain ⟨sent, got, sends⟩ := exists_sendStreamed_eq ending _ inside left ⟨limits, [], []⟩
    rw [joined] at got
    rw [sends, ← length, and_iff_right inside]
    by_cases complete : total ≤ body.length
    · rw [if_pos complete, sendsExactly_of_succeeds complete (by simp), Client.eof, got]
      exact iff_of_true rfl (.inl complete)
    · have unended : .eof ∉ sent.received := got ▸ eof_notMem_map _
      rw [if_neg complete, SendsExactly, if_neg complete]
      cases ending with
      | keepsOpen | fails => exact iff_of_true unended (.inr (by simp))
      | closes =>
        apply iff_of_false
        · intro absent
          exact absent (mem_append_right _ mem_cons_self)
        · rintro (enough | other)
          · exact complete enough
          · exact other rfl

end

/-- The first read of the body keeps to its length if some read ends in time. -/
lemma length_tail_le_iff (joined : tail ++ left.flatten = body)
    (agree : AgreeUpTo body.length reads (tail :: left)) :
    tail.length ≤ total ↔
      ∃ place ∈ boundaries reads, place ≤ body.length ∧ body.length ≤ place + total := by
  have length : body.length = tail.length + left.flatten.length := by
    rw [← joined, length_append]
  constructor
  · intro inside
    refine ⟨left.flatten.length, ?_, by omega, by omega⟩
    exact (agree _ (by omega)).mpr mem_cons_self
  · rintro ⟨place, mem, near, enough⟩
    have le := le_of_mem_boundaries_cons ((agree place near).mp mem)
    omega

lemma contentLength_headers (protocol : Protocol) (headers : List Field) :
    contentLength (if protocol = .http1 then headers
      else headers.filter (·.lowerName ∉ hopByHop)) = contentLength headers := by
  split
  · rfl
  · exact contentLength_filter headers

section Measured

variable {protocol : Protocol} (measured : contentLength resp.headers = some total)
include measured

section

variable (joined : tail ++ left.flatten = body) (version : Version) (ending : Ending)
  (limits : List Nat)

include joined

/-- A response for an HTTP/3 client is buffered if it is short. -/
lemma sendsExactly_buffered (buffered : protocol = .http3 ∧ total ≤ h3BufferedBodyLimit) :
    SendsExactly total body
        (handleResponse protocol version ending resp tail left ⟨limits, [], []⟩) ↔
      tail.length ≤ total := by
  rw [handleResponse, contentLength_headers, measured, Option.filter_some,
    if_pos (by simpa using buffered)]
  exact sendsExactly_sendBuffered joined ending _ _

lemma sendsExactly_streamed (unbuffered : ¬(protocol = .http3 ∧ total ≤ h3BufferedBodyLimit))
    (plain : isChunked resp.headers = true → protocol = .http1) :
    SendsExactly total body
        (handleResponse protocol version ending resp tail left ⟨limits, [], []⟩) ↔
      tail.length ≤ total ∧ (total ≤ body.length ∨ ending ≠ .closes) := by
  have reframed : ¬(isChunked resp.headers = true ∧ protocol ≠ .http1) :=
    not_and_not_right.mpr plain
  rw [handleResponse, contentLength_headers, measured, Option.filter_some,
    if_neg (by simpa using unbuffered), if_neg reframed]
  exact sendsExactly_sendStreamed joined ending _ _

end

end Measured

/-- A response with a length is sent for what it is, or refused because of its head, if and
only if the read in which the head ends does not go beyond the end of the body, and the
body is complete, is buffered, or is not ended by the origin. -/
theorem sendsExactly_iff (parses : crates.ParsesHead head resp)
    (measured : contentLength resp.headers = some total) {protocol : Protocol}
    (plain : isChunked resp.headers = true →
      protocol = .http1 ∨ protocol = .http3 ∧ total ≤ h3BufferedBodyLimit)
    (arrives : reads.flatten = head ++ body) (version : Version) (ending : Ending)
    (limits : List Nat) :
    SendsExactly total body
        (handleStream crates protocol version ⟨reads, ending⟩ ⟨limits, [], []⟩) ↔
      (Accepts crates head body resp reads →
        (∃ place ∈ boundaries reads, place ≤ body.length ∧ body.length ≤ place + total) ∧
        (total ≤ body.length ∨ ending ≠ .closes ∨
          protocol = .http3 ∧ total ≤ h3BufferedBodyLimit)) := by
  by_cases accepts : Accepts crates head body resp reads
  · obtain ⟨tail, left, joined, agree, handles⟩ :=
      handleStream_eq parses accepts arrives _ version ending ⟨limits, [], []⟩
    rw [handles, forall_prop_of_true accepts, ← length_tail_le_iff joined agree]
    by_cases buffered : protocol = .http3 ∧ total ≤ h3BufferedBodyLimit
    · rw [sendsExactly_buffered measured joined _ _ _ buffered]
      exact (and_iff_left (.inr (.inr buffered))).symm
    · rw [sendsExactly_streamed measured joined _ _ _ buffered
        (fun chunked => (plain chunked).resolve_right buffered), or_iff_left buffered]
  · obtain ⟨error, refused⟩ :=
      handleStream_refused parses accepts arrives _ version ending ⟨limits, [], []⟩
    rw [refused, SendsExactly]
    apply iff_of_true
    · split
      · exact .inl ⟨error, rfl⟩
      · exact not_mem_nil
    · intro taken
      exact absurd taken accepts

def measuredHead : Bytes := .ofString "HTTP/1.1 200 OK\r\nContent-Length: 3\r\n\r\n"

def measuredResponse : Response := ⟨200, [⟨"Content-Length", .ofString "3"⟩]⟩

lemma contentLength_measuredResponse : contentLength measuredResponse.headers = some 3 := by
  decide +kernel

lemma isChunked_measuredResponse : isChunked measuredResponse.headers = false := by
  decide +kernel

/-- The second read goes beyond the end of the body. -/
theorem sendsExactly_abc :
    SendsExactly 3 (.ofString "abcX") (handleStream (.knowing measuredHead measuredResponse)
      .http2 .http2 ⟨[measuredHead ++ .ofString "a", .ofString "bcX"], .closes⟩
      ⟨[1, 0], [], []⟩) := by
  apply (sendsExactly_iff (Crates.parsesHead_knowing measuredResponse (by decide))
    contentLength_measuredResponse (by simp [isChunked_measuredResponse]) (by decide) .http2
    .closes [1, 0]).mpr
  intro _
  exact ⟨⟨3, by decide, by decide, by decide⟩, .inl (by decide)⟩

/-- The first read goes beyond the end of the body, for clients of HTTP/2 and HTTP/3, and
a body that is cut short is ended for a client of HTTP/2. -/
theorem not_sendsExactly_abc :
    ¬SendsExactly 3 (.ofString "abcX") (handleStream (.knowing measuredHead measuredResponse)
        .http2 .http2 ⟨[measuredHead ++ .ofString "abcX"], .keepsOpen⟩ ⟨[], [], []⟩) ∧
      ¬SendsExactly 3 (.ofString "abcX") (handleStream (.knowing measuredHead measuredResponse)
        .http3 .http3 ⟨[measuredHead ++ .ofString "abcX"], .keepsOpen⟩ ⟨[], [], []⟩) ∧
      ¬SendsExactly 3 (.ofString "a") (handleStream (.knowing measuredHead measuredResponse)
        .http2 .http2 ⟨[measuredHead ++ .ofString "a"], .closes⟩ ⟨[], [], []⟩) := by
  have parses := @Crates.parsesHead_knowing measuredHead measuredResponse (by decide)
  have handles (protocol : Protocol) (version : Version) (ending : Ending) (body : Bytes) :=
    handleStream_single parses (by decide) rfl body protocol version ending ⟨[], [], []⟩
  have streamed (ending : Ending) (body : Bytes) :=
    @sendsExactly_streamed body body measuredResponse 3 [] .http2 contentLength_measuredResponse
      (append_nil _) .http2 ending [] (by decide) (by simp [isChunked_measuredResponse])
  rw [handles, handles, handles, streamed, streamed,
    sendsExactly_buffered contentLength_measuredResponse (append_nil _) _ _ _ (by decide)]
  have beyond : ¬(Bytes.ofString "abcX").length ≤ 3 := by decide
  have cutShort : ¬3 ≤ (Bytes.ofString "a").length := by decide
  refine ⟨fun both => beyond both.1, beyond, ?_⟩
  rintro ⟨-, complete | other⟩
  · exact cutShort complete
  · exact other rfl

end TrustTunnel.Endpoint.ReverseProxy
