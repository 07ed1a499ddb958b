import TrustTunnel.Endpoint.ChunkRejection
import TrustTunnel.Endpoint.DuplexPipe

/-!
# Request bodies in the reverse proxy

The reverse proxy sends the head of a request to the origin and waits for the response.
Only when it joins the two connections by a pipe it begins to read the body of the request.
It does so for a response that ends with the connection; any other response is passed on
and the request is done, without its body.
-/

namespace TrustTunnel.Endpoint

open Wire Http Chunked ReverseProxy List

/-! ## The sink of the origin -/

/-- `tcp_forwarder::StreamTx`. Of each of the next writes the socket accepts the given
number of bytes at most, and then everything. -/
structure StreamTx where
  acceptances : List Nat
  received : Bytes
  eofPending : Bool

namespace StreamTx

def write (self : StreamTx) (data : Bytes) : Except Failure Bytes × StreamTx :=
  if self.eofPending then (.error (.io (.other "Already shut down")), self)
  else
    match self.acceptances with
    | [] => (.ok [], { self with received := self.received ++ data })
    | count :: limits =>
      (.ok (data.drop count),
        { self with acceptances := limits, received := self.received ++ data.take count })

def waitWritable (self : StreamTx) : Except Failure Unit × StreamTx :=
  if self.eofPending then (.error (.io (.other "Already shut down")), self)
  else (.ok (), self)

def eof (self : StreamTx) : StreamTx := { self with eofPending := true }

def ops : Sink StreamTx where
  write := write
  waitWritable := waitWritable

lemma write_cases (self : StreamTx) (data : Bytes) :
    (∃ unsent, (self.write data).1 = .ok unsent ∧
        (self.write data).2.received ++ unsent = self.received ++ data) ∨
      (self.write data).1 = .error (.io (.other "Already shut down")) := by
  rw [write]
  split
  · exact .inr rfl
  · split
    · exact .inl ⟨[], rfl, append_nil _⟩
    · rename_i count _ _
      refine .inl ⟨data.drop count, rfl, ?_⟩
      rw [append_assoc, take_append_drop]

end StreamTx

/-- The sink of the client, as the pipe uses it. -/
def Client.ops : Sink Client where
  write client data := (.ok (client.write data).1, (client.write data).2)
  waitWritable client := (.ok (), client)

namespace ReverseProxy

/-! ## Forwarding the body -/

/-- The body of a request, and what the client does after the last chunk. -/
structure RequestBody where
  chunks : List Bytes
  ending : Ending

def sinks : DuplexSinks StreamTx Client where
  left := StreamTx.ops
  leftEof := StreamTx.eof
  right := Client.ops
  rightEof := Client.eof

/-- What `handle_stream` makes of the result of the exchange. -/
def exchangeOutcome : Option (Except Failure Unit) → Outcome
  | none => .exchanging
  | some (.ok _) => .finished
  | some (.error (.io error)) =>
    if error.kind = .unexpectedEof then .finished else .failed (.io error)
  | some (.error (.panic fault)) => .failed (.panic fault)

/-- The reads that are left when the head of the response has been read. -/
def Origin.unread (crates : Crates) (self : Origin) : List Bytes :=
  match self.reads with
  | [] => []
  | buffer :: reads =>
    match refill (probeHead crates) buffer reads with
    | .ready _ _ reads => reads
    | .starved _ => []

/-- What has come of a request. -/
structure Handled where
  outcome : Outcome
  client : Client
  /-- The part of the body that was sent to the origin. -/
  forwarded : Bytes

/-- `handle_stream`, once the head of the request was sent, with the body of the request.
The socket of the origin accepts the given numbers of bytes. -/
def handleRequest (crates : Crates) (protocol : Protocol) (version : Version)
    (req : RequestBody) (sendable : List Nat) (origin : Origin) (client : Client)
    (events : List PipeEvent) : Handled :=
  match handleStream crates protocol version origin client with
  | (.exchanging, client) =>
    let pipe : DuplexPipe StreamTx Client :=
      { left := .new ⟨sendable, [], false⟩ req.chunks req.ending
        right := .new client (origin.unread crates) origin.ending }
    let (pipe, result) := pipe.exchange sinks events
    { outcome := exchangeOutcome result
      client := pipe.right.pipe.sink
      forwarded := pipe.left.pipe.sink.received }
  | (outcome, client) => { outcome, client, forwarded := [] }

/-! ## The exchange -/

/-- The part of the body that is in the sink, in the pending chunk or in the source. -/
def carried (pipe : SimplexPipe StreamTx) : Bytes :=
  pipe.sink.received ++ pipe.pendingChunk.getD [] ++ pipe.reads.flatten

def shutDown : Failure := .io (.other "Already shut down")

lemma send_cases (pipe : SimplexPipe StreamTx) (data : Bytes) :
    (pipe.send StreamTx.ops data).failure = some shutDown ∨
      (pipe.send StreamTx.ops data).failure = pipe.failure ∧
        carried (pipe.send StreamTx.ops data) =
          pipe.sink.received ++ data ++ pipe.reads.flatten := by
  have written := pipe.sink.write_cases data
  rw [SimplexPipe.send, StreamTx.ops]
  dsimp only
  generalize pipe.sink.write data = result at written ⊢
  obtain ⟨result, sink⟩ := result
  rcases written with ⟨unsent, sent, whole⟩ | fails
  · subst sent
    cases unsent with
    | nil | cons =>
      refine .inr ⟨rfl, ?_⟩
      rw [← whole]
      rfl
  · subst fails
    exact .inl rfl

lemma step_cases {pipe next : SimplexPipe StreamTx} (steps : pipe.step StreamTx.ops = some next) :
    next.failure = some shutDown ∨ next.failure = none ∧ carried next = carried pipe := by
  obtain ⟨sink, pending, reads, failure⟩ := pipe
  cases failure with
  | some => cases steps
  | none =>
    cases pending with
    | some data =>
      have waits : StreamTx.ops.waitWritable sink = (.error shutDown, sink) ∨
          StreamTx.ops.waitWritable sink = (.ok (), sink) := by
        rw [StreamTx.ops]
        dsimp only
        rw [StreamTx.waitWritable]
        split
        · exact .inl rfl
        · exact .inr rfl
      rw [SimplexPipe.step] at steps
      rcases waits with fails | waits
      · rw [fails] at steps
        cases steps
        exact .inl rfl
      · rw [waits] at steps
        cases steps
        exact send_cases ⟨sink, none, reads, none⟩ data
    | none =>
      cases reads with
      | nil => cases steps
      | cons data reads =>
        cases steps
        rcases send_cases ⟨sink, none, reads, none⟩ data with fails | ⟨runs, same⟩
        · exact .inl fails
        · refine .inr ⟨runs, same.trans ?_⟩
          simp [carried]

/-- There is no further step when everything is in the sink. -/
lemma carried_of_step_eq_none {pipe : SimplexPipe StreamTx} (runs : pipe.failure = none)
    (halts : pipe.step StreamTx.ops = none) : pipe.sink.received = carried pipe := by
  obtain ⟨pending, reads⟩ := SimplexPipe.idle_of_step_eq_none runs halts
  rw [carried, pending, reads]
  simp

/-- The direction to the origin has the whole body, and everything of it is in the sink
when it has finished. -/
structure Carries (body : Bytes) (half : HalfPipe StreamTx) : Prop where
  runs : half.pipe.failure = none
  whole : carried half.pipe = body
  done : half.finished = true → half.pipe.sink.received = body

lemma carries_new (sendable : List Nat) (req : RequestBody) :
    Carries req.chunks.flatten (.new ⟨sendable, [], false⟩ req.chunks req.ending) where
  runs := rfl
  whole := rfl
  done := by
    intro finished
    cases finished

lemma Carries.round {body : Bytes} {half next : HalfPipe StreamTx}
    (carries : Carries body half) (rounds : half.round StreamTx.ops StreamTx.eof = .ok next) :
    Carries body next := by
  have turn := HalfPipe.turn_round StreamTx.ops StreamTx.eof half
  rw [rounds] at turn
  cases turn with
  | idle => exact carries
  | step unfinished steps runs =>
    refine ⟨runs, ?_, fun finished => absurd (unfinished.symm.trans finished) (by decide)⟩
    rcases step_cases steps with fails | ⟨-, same⟩
    · rw [runs] at fails
      cases fails
    · exact same.trans carries.whole
  | ended halts =>
    refine ⟨carries.runs, carries.whole, fun _ => ?_⟩
    exact (carried_of_step_eq_none carries.runs halts).trans carries.whole

variable {failure : Failure}

/-- The direction to the origin fails only when everything is sent, or after the end. -/
lemma Carries.failure_of_round {body : Bytes} {half : HalfPipe StreamTx}
    (carries : Carries body half) (fails : half.round StreamTx.ops StreamTx.eof = .error failure) :
    failure = shutDown ∨ half.pipe.sink.received = body := by
  have turn := HalfPipe.turn_round StreamTx.ops StreamTx.eof half
  rw [fails] at turn
  cases turn with
  | failed steps reason =>
    rcases step_cases steps with shut | ⟨runs, -⟩
    · rw [shut] at reason
      cases reason
      exact .inl rfl
    · rw [runs] at reason
      cases reason
  | broken halts => exact .inr ((carried_of_step_eq_none carries.runs halts).trans carries.whole)

lemma runs_round_client {half next : HalfPipe Client} (runs : half.pipe.failure = none)
    (rounds : half.round Client.ops Client.eof = .ok next) : next.pipe.failure = none := by
  have turn := HalfPipe.turn_round Client.ops Client.eof half
  rw [rounds] at turn
  cases turn with
  | idle | ended => exact runs
  | step _ _ stillRuns => exact stillRuns

/-- The direction to the client fails only with its source. -/
lemma failure_of_round_client {half : HalfPipe Client} (runs : half.pipe.failure = none)
    (fails : half.round Client.ops Client.eof = .error failure) :
    ∃ error, half.ending = .fails error ∧ failure = .io error := by
  have turn := HalfPipe.turn_round Client.ops Client.eof half
  rw [fails] at turn
  cases turn with
  | failed steps reason =>
    have running := SimplexPipe.runs_of_step (fun _ _ => ⟨_, rfl⟩) (fun _ => rfl) runs steps
    rw [running] at reason
    cases reason
  | broken _ ends => exact ⟨_, ends, rfl⟩

/-- Both directions, during an exchange. -/
structure Exchanges (body : Bytes) (ending : Ending) (pipe : DuplexPipe StreamTx Client) :
    Prop where
  carries : Carries body pipe.left
  runs : pipe.right.pipe.failure = none
  ending : pipe.right.ending = ending

variable {pipe : DuplexPipe StreamTx Client} {ending : Ending}

lemma exchanges_exchange {body : Bytes} (exchanges : Exchanges body ending pipe)
    (events : List PipeEvent) : Exchanges body ending (pipe.exchange sinks events).1 := by
  apply DuplexPipe.exchange_keeps _ _ exchanges events
  · intro pipe half exchanges rounds
    exact ⟨exchanges.carries.round rounds, exchanges.runs, exchanges.ending⟩
  · intro pipe half exchanges rounds
    exact ⟨exchanges.carries, runs_round_client exchanges.runs rounds,
      (HalfPipe.ending_round rounds).trans exchanges.ending⟩

/-- No call fails with an unexpected end of file. -/
def Quiet (ending : Ending) (events : List PipeEvent) : Prop :=
  (∀ error, ending = .fails error → error.kind ≠ .unexpectedEof) ∧
    ∀ error, .fails error ∈ events → error.kind ≠ .unexpectedEof

/-- An exchange that is taken for a success has sent the whole body. -/
lemma forwarded_of_exchange {body : Bytes} {events : List PipeEvent}
    (exchanges : Exchanges body ending pipe) (quiet : Quiet ending events)
    (succeeds : exchangeOutcome (pipe.exchange sinks events).2 = .finished) :
    (pipe.exchange sinks events).1.left.pipe.sink.received = body := by
  have later := exchanges_exchange exchanges events
  cases result : (pipe.exchange sinks events).2 with
  | none =>
    rw [result] at succeeds
    cases succeeds
  | some result' =>
    rw [result] at succeeds
    cases result' with
    | ok => exact later.carries.done (DuplexPipe.finished_of_exchange result)
    | error failure =>
      cases failure with
      | panic => cases succeeds
      | io =>
        rw [exchangeOutcome] at succeeds
        split at succeeds
        · rename_i unexpected
          rcases DuplexPipe.failure_of_exchange result with late | ⟨other, mem, same⟩ | left | right
          · cases late
            cases unexpected
          · cases same
            exact absurd unexpected (quiet.2 _ mem)
          · rcases later.carries.failure_of_round left with shut | sent
            · cases shut
              cases unexpected
            · exact sent
          · obtain ⟨other, ends, same⟩ := failure_of_round_client later.runs right
            cases same
            exact absurd unexpected (quiet.1 _ (later.ending.symm.trans ends))
        · cases succeeds

/-! ## Whole requests -/

section Request

variable {crates : Crates} {head : Bytes} {resp : Response} {protocol : Protocol}
  {version : Version} {req : RequestBody} {sendable : List Nat} {origin : Origin}
  {client : Client} {events : List PipeEvent} {after : Client}

/-- Nothing is forwarded unless the two connections are joined. -/
lemma handleRequest_of_ne {outcome : Outcome}
    (handles : handleStream crates protocol version origin client = (outcome, after))
    (apart : outcome ≠ .exchanging) :
    handleRequest crates protocol version req sendable origin client events =
      ⟨outcome, after, []⟩ := by
  rw [handleRequest, handles]
  split
  · rename_i joined
    cases joined
    exact absurd rfl apart
  · rename_i same
    cases same
    rfl

lemma forwarded_of_exchanging
    (handles : handleStream crates protocol version origin client = (.exchanging, after))
    (quiet : Quiet origin.ending events)
    (succeeds : (handleRequest crates protocol version req sendable origin client
      events).outcome = .finished) :
    (handleRequest crates protocol version req sendable origin client events).forwarded =
      req.chunks.flatten := by
  have exchanges : Exchanges req.chunks.flatten origin.ending
      ⟨.new ⟨sendable, [], false⟩ req.chunks req.ending,
        .new after (origin.unread crates) origin.ending⟩ :=
    ⟨carries_new _ req, rfl, rfl⟩
  rw [handleRequest, handles] at succeeds ⊢
  exact forwarded_of_exchange exchanges quiet succeeds

/-- A response that ends with the connection, as the proxy sees it. -/
def UntilClose (protocol : Protocol) (resp : Response) : Prop :=
  contentLength resp.headers = none ∧ (isChunked resp.headers = true → protocol = .http1)

lemma handleResponse_untilClose (untilClose : UntilClose protocol resp)
    (version : Version) (ending : Ending) (tail : Bytes) (left : List Bytes) (client : Client) :
    ∃ after, handleResponse protocol version ending resp tail left client =
      (.exchanging, after) := by
  have reframed : ¬(isChunked resp.headers = true ∧ protocol ≠ .http1) :=
    not_and_not_right.mpr untilClose.2
  rw [handleResponse, contentLength_headers, untilClose.1]
  exact ⟨_, if_neg reframed⟩

/-- A response of a known length is passed on, and the proxy is done. -/
lemma handleResponse_complete {total : Nat} (measured : contentLength resp.headers = some total)
    (plain : isChunked resp.headers = true → protocol = .http1) {body : Bytes}
    (complete : body.length = total) (version : Version) (ending : Ending) (client : Client) :
    ∃ after, handleResponse protocol version ending resp body [] client = (.finished, after) := by
  have enough : total ≤ body.length + ([] : List Bytes).flatten.length :=
    Nat.le_add_right_of_le (le_of_eq complete.symm)
  have reframed : ¬(isChunked resp.headers = true ∧ protocol ≠ .http1) :=
    not_and_not_right.mpr plain
  rw [handleResponse, contentLength_headers, measured, Option.filter_some]
  split
  · rename_i known
    split at known
    · cases known
      rw [sendBuffered_eq, if_pos enough]
      exact ⟨_, rfl⟩
    · cases known
  · obtain ⟨sent, -, sends⟩ := exists_sendStreamed_eq ending ⟨version, resp.code,
      if protocol = .http1 then resp.headers
      else resp.headers.filter _⟩ (le_of_eq complete) [] client
    rw [if_neg reframed]
    rw [if_pos enough] at sends
    exact ⟨_, sends⟩

/-- Some response with another head is passed on, and the proxy is done. -/
lemma exists_finished (other : ¬UntilClose protocol resp) (version : Version) :
    ∃ body after, handleResponse protocol version .closes resp body [] ⟨[], [], []⟩ =
      (.finished, after) := by
  by_cases reframed : isChunked resp.headers = true ∧ protocol ≠ .http1
  · obtain ⟨chunked, recent⟩ := reframed
    cases known : (contentLength _).filter _ with
    | some total =>
      refine ⟨List.replicate total 0, ?_⟩
      rw [handleResponse_measured recent known, sendBuffered_eq, if_pos (by simp)]
      exact ⟨_, rfl⟩
    | none =>
      have joined : Bytes.ofString "0\r\n\r\n" ++ ([] : List Bytes).flatten =
        .ofString "0\r\n\r\n" := append_nil _
      obtain ⟨next, -, ends⟩ := handleResponse_scan chunked recent known joined version .closes []
      rw [scan_lastChunk, Stop.result, Dechunker.finish_closes] at ends
      exact ⟨_, _, ends⟩
  · have plain := not_and_not_right.mp reframed
    cases measured : contentLength resp.headers with
    | none => exact absurd ⟨measured, plain⟩ other
    | some total =>
      exact ⟨List.replicate total 0, handleResponse_complete measured plain
        length_replicate version .closes ⟨[], [], []⟩⟩

/-- However a response arrives and the exchange goes on without an unexpected end of file,
the whole body of the request has been sent to the origin when the proxy is done, if and
only if the response is refused or ends with the connection. -/
theorem forwardsBody_iff (parses : crates.ParsesHead head resp) (protocol : Protocol)
    (version : Version) (nonempty : req.chunks.flatten ≠ []) :
    (∀ (body : Bytes) (reads : List Bytes) (ending : Ending) (limits sendable : List Nat)
        (events : List PipeEvent), reads.flatten = head ++ body → Quiet ending events →
      (handleRequest crates protocol version req sendable ⟨reads, ending⟩
        ⟨limits, [], []⟩ events).outcome = .finished →
      (handleRequest crates protocol version req sendable ⟨reads, ending⟩
        ⟨limits, [], []⟩ events).forwarded = req.chunks.flatten) ↔
      (resp.headers.length ≤ Http1Codec.maxHeadersNum →
        crates.buildResponse resp.code resp.headers = .ok () → UntilClose protocol resp) := by
  constructor
  · intro forwards few builds
    apply Classical.byContradiction
    intro other
    obtain ⟨body, after, finishes⟩ := exists_finished other version
    have handles := handleStream_single parses few builds body protocol version .closes ⟨[], [], []⟩
    rw [finishes] at handles
    have quiet : Quiet .closes [] := by
      refine ⟨?_, ?_⟩
      · intro error fails
        cases fails
      · intro error mem
        cases mem
    have sent := forwards body [head ++ body] .closes [] [] [] (append_nil _) quiet
    rw [handleRequest_of_ne handles (by simp)] at sent
    exact nonempty (sent rfl).symm
  · intro untilClose body reads ending limits sendable events arrives quiet succeeds
    by_cases accepts : Accepts crates head body resp reads
    · obtain ⟨tail, left, -, -, handles⟩ :=
        handleStream_eq parses accepts arrives _ version ending ⟨limits, [], []⟩
      obtain ⟨after, joins⟩ := handleResponse_untilClose
        (untilClose accepts.few accepts.builds) version ending tail left ⟨limits, [], []⟩
      exact forwarded_of_exchanging (handles.trans joins) quiet succeeds
    · obtain ⟨error, refused⟩ :=
        handleStream_refused parses accepts arrives _ version ending ⟨limits, [], []⟩
      rw [handleRequest_of_ne refused (by simp)] at succeeds
      cases succeeds

end Request

def plainHead : Bytes := .ofString "HTTP/1.1 200 OK\r\n\r\n"

def plainResponse : Response := ⟨200, []⟩

/-- A request with a body. -/
def hiRequest : RequestBody := ⟨[.ofString "h", .ofString "i"], .closes⟩

/-- The connections are joined when the head of the response is there. -/
lemma handleStream_plain :
    handleStream (.knowing plainHead plainResponse) .http2 .http2
      ⟨[plainHead, .ofString "ok"], .closes⟩ ⟨[], [], []⟩ =
        (.exchanging, ⟨[], [.final ⟨.http2, 200, []⟩ false], []⟩) := by
  have fills : refill (probeHead (.knowing plainHead plainResponse)) plainHead
      [Bytes.ofString "ok"] = .ready (.ok (plainResponse, [])) plainHead [Bytes.ofString "ok"] :=
    refill_of_eq_some (by decide +kernel) _
  have unwritten (client : Client) : writeAll client [] = client := by
    rw [writeAll, if_pos rfl]
  rw [handleStream]
  dsimp only
  exact congrArg _ (unwritten _)

/-- The body is sent in the exchange, although the socket takes a part of it only. -/
theorem forwarded_hiRequest :
    (handleRequest (.knowing plainHead plainResponse) .http2 .http2 hiRequest [0]
      ⟨[plainHead, .ofString "ok"], .closes⟩ ⟨[], [], []⟩
      [.right, .left, .left, .right, .left, .left]).forwarded = hiRequest.chunks.flatten := by
  refine (forwardsBody_iff (Crates.parsesHead_knowing plainResponse (by decide)) .http2 .http2
    (by decide)).mpr ?_ (.ofString "ok") _ .closes [] [0] _ (by decide) ?_ ?_
  · intro _ _
    exact ⟨by decide +kernel, by decide +kernel⟩
  · refine ⟨?_, ?_⟩
    · intro error fails
      cases fails
    · intro error mem
      simp at mem
  · rw [handleRequest, handleStream_plain]
    decide +kernel

/-- The proxy is done without the body when the response has a length, and when the client
ends the exchange. -/
theorem not_forwarded_hiRequest :
    hiRequest.chunks.flatten = Bytes.ofString "hi" ∧
      (handleRequest (.knowing measuredHead measuredResponse) .http2 .http2 hiRequest []
        ⟨[measuredHead ++ .ofString "abc"], .keepsOpen⟩ ⟨[], [], []⟩ []).outcome = .finished ∧
      (handleRequest (.knowing measuredHead measuredResponse) .http2 .http2 hiRequest []
        ⟨[measuredHead ++ .ofString "abc"], .keepsOpen⟩ ⟨[], [], []⟩ []).forwarded = [] ∧
      (handleRequest (.knowing plainHead plainResponse) .http2 .http2 hiRequest []
        ⟨[plainHead, .ofString "ok"], .closes⟩ ⟨[], [], []⟩
        [.right, .fails (.ofKind .unexpectedEof)]).outcome = .finished ∧
      (handleRequest (.knowing plainHead plainResponse) .http2 .http2 hiRequest []
        ⟨[plainHead, .ofString "ok"], .closes⟩ ⟨[], [], []⟩
        [.right, .fails (.ofKind .unexpectedEof)]).forwarded = [] := by
  obtain ⟨after, finishes⟩ := @handleResponse_complete measuredResponse .http2 3
    contentLength_measuredResponse (by simp [isChunked_measuredResponse]) (.ofString "abc")
    (by decide) .http2 .keepsOpen ⟨[], [], []⟩
  have handles := handleStream_single
    (@Crates.parsesHead_knowing measuredHead measuredResponse (by decide)) (by decide) rfl
    (.ofString "abc") .http2 .http2 .keepsOpen ⟨[], [], []⟩
  rw [finishes] at handles
  rw [handleRequest_of_ne handles (by simp)]
  refine ⟨by decide, rfl, rfl, ?_⟩
  rw [handleRequest, handleStream_plain]
  constructor
  · decide +kernel
  · decide +kernel

end ReverseProxy

end TrustTunnel.Endpoint
