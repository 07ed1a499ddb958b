import TrustTunnel.Endpoint.Http1Tunnel

/-!
# The steps of an HTTP/1 tunnel

Whatever happens next, the codec, the stream or the client makes one of a few steps, or
nothing changes. The steps say under which conditions which parts of the tunnel change.
-/

namespace TrustTunnel.Endpoint.Http1Tunnel

open Wire Http Http1Codec Transition List

/-- What a step can do. -/
inductive Step (crates : RequestCrates) (before : Http1Tunnel) : Http1Tunnel → Prop where
  | stay : Step crates before before
  | listen (control : before.control = .idle) :
      Step crates before { before with control := .selecting .unpolled }
  -- Reading.
  | poll {buffer : Bytes} (state : before.state = .waitingRequest buffer)
      (control : before.control = .selecting .unpolled) :
      Step crates before { before with
        state := .waitingRequest [], control := .selecting (.reading buffer) }
  | wait (state : before.state = .requestInProgress [])
      (control : before.control = .selecting .unpolled) :
      Step crates before { before with
        state := .requestInProgress [], control := .selecting .reserving }
  | forward {buffer : Bytes} (state : before.state = .requestInProgress buffer)
      (rest : buffer ≠ []) (control : before.control = .selecting .unpolled) :
      Step crates before { before with
        state := .requestInProgress [], control := .sending buffer }
  | reserve (control : before.control = .selecting .reserving) (ready : before.uploadReady = true) :
      Step crates before { before with control := .selecting (.reading []) }
  | read {old taken chunk rest : Bytes} (state : before.state = .requestInProgress old)
      (control : before.control = .selecting (.reading taken))
      (incoming : before.transport.incoming = chunk ++ rest) :
      Step crates before { before with
        state := .requestInProgress []
        transport := { before.transport with incoming := rest }
        control := .sending (taken ++ chunk) }
  | collect {old taken chunk rest : Bytes} (state : before.state = .waitingRequest old)
      (control : before.control = .selecting (.reading taken))
      (incoming : before.transport.incoming = chunk ++ rest) :
      Step crates before { before with
        state := .waitingRequest (taken ++ chunk)
        transport := { before.transport with incoming := rest }
        control := .selecting .unpolled }
  | refuse {old taken rest : Bytes} {outcome : Control} (state : before.state = .waitingRequest old)
      (control : before.control = .selecting (.reading taken))
      (refusal : (∃ resp, outcome = .responding resp) ∨
        ∃ failure, outcome = .returned (.error failure)) :
      Step crates before { before with
        transport := { before.transport with incoming := rest }
        control := outcome }
  | start {old taken chunk rest head tail : Bytes} {req : RequestHeaders}
      (state : before.state = .waitingRequest old)
      (control : before.control = .selecting (.reading taken))
      (incoming : before.transport.incoming = chunk ++ rest)
      (decoded : decodeRequest crates (head ++ tail) maxHeadersNum maxRawHeadersSize =
        .ok (.complete req tail))
      (whole : taken ++ chunk = head ++ tail) :
      Step crates before { before with
        state := .requestInProgress tail
        transport := { before.transport with incoming := rest }
        head := some head
        sink := .stream
        source := .stream
        control := .idle }
  | unknownPeer {old taken chunk rest head tail : Bytes} {req : RequestHeaders}
      {error : IoError} (state : before.state = .waitingRequest old)
      (control : before.control = .selecting (.reading taken))
      (incoming : before.transport.incoming = chunk ++ rest)
      (decoded : decodeRequest crates (head ++ tail) maxHeadersNum maxRawHeadersSize =
        .ok (.complete req tail))
      (whole : taken ++ chunk = head ++ tail) :
      Step crates before { before with
        state := .requestInProgress tail
        transport := { before.transport with incoming := rest }
        head := some head
        control := .returned (.error (.io error)) }
  -- Closing.
  | close {waitRead : WaitRead} {notified : Bool} (control : before.control = .selecting waitRead)
      (cause : before.transport.closed = true ∧ notified = before.notified ∨
        before.notified = true ∧ notified = false) :
      Step crates before { before with notified }.gracefulShutdown
  | abandon {waitRead : WaitRead} (control : before.control = .selecting waitRead)
      (sink : before.sink = .dropped) (unnotified : before.notified = false) :
      Step crates before { before with control := .returned unexpectedEof }
  | flush (control : before.control = .closing .flushing) :
      Step crates before { before with control := .closing .reserving }
  | reserveLast (control : before.control = .closing .reserving) :
      Step crates before { before with control := .closing .shuttingDown }
  | shutdown (control : before.control = .closing .shuttingDown) :
      Step crates before { before with
        transport := { before.transport with isShutdown := true }
        control := .returned (.ok ()) }
  | fail {error : IoError} (control : before.control.onTransport = true) :
      Step crates before { before with
        failed := true, control := .returned (.error (.io error)) }
  | drop {result : Except Failure Unit} (control : before.control = .returned result) :
      Step crates before { before with control := .dropped }
  -- The channels.
  | recv {waitRead : WaitRead} {chunk : Bytes} {download : BoundedChannel Bytes 1}
      (control : before.control = .selecting waitRead)
      (taken : before.download.recv = some (chunk, download)) :
      Step crates before { before with download, control := .writing chunk }
  | send {bytes : Bytes} (control : before.control = .sending bytes)
      (room : before.upload.hasRoom = true) :
      Step crates before { before with
        upload := before.upload.send bytes, control := .selecting .unpolled }
  | sendFails {bytes : Bytes} (control : before.control = .sending bytes)
      (source : before.source = .dropped) :
      Step crates before { before with control := .returned unexpectedEof }
  -- Writing.
  | respond {rest written : Bytes} {outcome : Control} (control : before.control = .responding rest)
      (outside : (∃ resp, outcome = .responding resp) ∨ outcome = .returned (.ok ())) :
      Step crates before { before with
        transport := { before.transport with written }, control := outcome }
  | write {now later : Bytes} {outcome : Control}
      (control : before.control = .writing (now ++ later))
      (continues : outcome = .writing later ∨ later = [] ∧ outcome = .selecting .unpolled) :
      Step crates before { before with
        transport := { before.transport with written := before.transport.written ++ now }
        control := outcome }
  | writeLast {now later : Bytes} {outcome : Closing}
      (control : before.control = .closing (.writing (now ++ later)))
      (continues : outcome = .writing later ∨ later = [] ∧ outcome = .flushing) :
      Step crates before { before with
        transport := { before.transport with written := before.transport.written ++ now }
        control := .closing outcome }
  -- The stream and the client.
  | sinkWrite {chunk : Bytes} (sink : before.sink = .stream) :
      Step crates before { before with download := before.download.send chunk }
  | sinkEof (sink : before.sink = .stream) :
      Step crates before { before with
        notified := true
        eofCall := before.eofCall <|> some ⟨before.download.sent, !before.transport.closed⟩ }
  | sinkDrop (sink : before.sink = .stream) : Step crates before { before with sink := .dropped }
  | sourceRead {chunk : Bytes} {upload : BoundedChannel Bytes 1} (source : before.source = .stream)
      (taken : before.upload.recv = some (chunk, upload)) :
      Step crates before { before with upload }
  | sourceDrop (source : before.source = .stream) :
      Step crates before { before with source := .dropped }
  | clientCloses : Step crates before before.clientCloses

variable {crates : RequestCrates} {peerAddr : Except IoError IpAddr} {self : Http1Tunnel}
  {slots limit : Nat}

/-- What decoding a buffer can give: the buffer itself, if it is too short, or a head and the
bytes after it. -/
lemma decodeRequest_ok {buffer : Bytes} {status : DecodeStatus RequestHeaders}
    (decoded : decodeRequest crates buffer slots limit = .ok status) :
    status = .incomplete buffer ∨ ∃ req tail, status = .complete req tail ∧ tail <:+ buffer := by
  revert decoded
  fun_cases decodeRequest
  case case4 =>
    rintro ⟨⟩
    exact .inr ⟨_, _, rfl, drop_suffix _ _⟩
  case case5 =>
    rintro ⟨⟩
    exact .inl rfl
  all_goals exact fun decoded => by cases decoded

lemma tail_of_complete {buffer tail : Bytes} {req : RequestHeaders}
    (decoded : decodeRequest crates buffer slots limit = .ok (.complete req tail)) :
    buffer.take (buffer.length - tail.length) ++ tail = buffer := by
  rcases decodeRequest_ok decoded with same | ⟨_, _, same, suffix⟩
  · cases same
  · cases same
    obtain ⟨head, rfl⟩ := suffix
    simp

lemma step_onRequestHeadersChunk {old taken chunk rest : Bytes}
    (state : self.state = .waitingRequest old)
    (control : self.control = .selecting (.reading taken))
    (incoming : self.transport.incoming = chunk ++ rest) :
    Step crates self ({ self with
      transport := { self.transport with incoming := rest } }.onRequestHeadersChunk crates
        peerAddr (taken ++ chunk)) := by
  fun_cases onRequestHeadersChunk
  case case2 bytes decoded =>
    rcases decodeRequest_ok decoded with same | ⟨_, _, same, -⟩
    · cases same
      exact .collect state control incoming
    · cases same
  case case3 => exact .refuse state control (.inl ⟨_, rfl⟩)
  case case5 req tail decoded _ _ =>
    have whole := tail_of_complete decoded
    exact .unknownPeer state control incoming (whole.symm ▸ decoded) whole.symm
  case case6 req tail decoded _ _ =>
    have whole := tail_of_complete decoded
    exact .start state control incoming (whole.symm ▸ decoded) whole.symm
  all_goals exact .refuse state control (.inr ⟨_, rfl⟩)

lemma step_read (count : Nat) : Step crates self (self.read crates peerAddr count) := by
  rw [read]
  split
  case h_1 taken control =>
    split
    · split
      · rename_i closed
        exact .close control (.inl ⟨closed, rfl⟩)
      · exact .stay
    · rename_i more
      split
      · exact .stay
      · rename_i positive
        have incoming := (take_append_drop count self.transport.incoming).symm
        have some : taken ++ self.transport.incoming.take count ≠ [] := by
          simp [more, positive]
        rw [onRead, if_neg some]
        split
        · rename_i old state
          exact step_onRequestHeadersChunk state control incoming
        · rename_i old state
          exact .read state control incoming
  case h_2 => exact .stay

lemma step_pollRead : Step crates self (self.pollRead crates peerAddr) := by
  rw [pollRead]
  split
  case h_1 control =>
    cases state : self.state with
    | waitingRequest => exact .poll state control
    | requestInProgress =>
      dsimp only [State.setBuffer, State.buffer]
      split
      · rename_i none
        exact .wait (none ▸ state) control
      · rename_i some
        rw [onRead, if_neg some]
        exact .forward state some control
  case h_2 => exact .stay

lemma step_recv : Step crates self self.recv := by
  fun_cases recv
  case case1 control _ _ taken => exact .recv control taken
  case case2 control _ sink notified => exact .close control (.inr ⟨notified, rfl⟩)
  case case3 control _ sink unnotified =>
    exact .abandon control sink (Bool.eq_false_of_not_eq_true unnotified)
  all_goals exact .stay

lemma step_write (count : Nat) : Step crates self (self.write count) := by
  rw [write]
  split
  case h_1 rest control =>
    by_cases short : rest.length ≤ count
    · simp only [writeSome, if_pos short]
      exact .respond control (.inr rfl)
    · simp only [writeSome, if_neg short]
      exact .respond control (.inl ⟨_, rfl⟩)
  case h_2 rest control =>
    rw [← take_append_drop count rest] at control
    by_cases short : rest.length ≤ count
    · simp only [writeSome, if_pos short]
      exact .write control (.inr ⟨drop_of_length_le short, rfl⟩)
    · simp only [writeSome, if_neg short]
      exact .write control (.inl rfl)
  case h_3 rest control =>
    rw [← take_append_drop count rest] at control
    by_cases short : rest.length ≤ count
    · simp only [writeSome, if_pos short]
      exact .writeLast control (.inr ⟨drop_of_length_le short, rfl⟩)
    · simp only [writeSome, if_neg short]
      exact .writeLast control (.inl rfl)
  case h_4 => exact .stay

lemma next_step (event : Event) : Step crates self (self.next crates peerAddr event) := by
  cases event with
  | listen | flush | shutdown | fail | drop | sinkEof | sinkDrop | sourceDrop =>
    dsimp only [next, listen, flush, shutdown, fail, drop, sinkEof, sinkDrop, sourceDrop]
    split
    · rename_i here
      first
        | exact .listen here | exact .flush here | exact .shutdown here | exact .fail here
        | exact .drop here | exact .sinkEof here | exact .sinkDrop here | exact .sourceDrop here
    · exact .stay
  | pollRead => exact step_pollRead
  | read count => exact step_read count
  | reserve =>
    dsimp only [next, reserve]
    split
    · rename_i control
      split
      · rename_i ready
        exact .reserve control ready
      · exact .stay
    · rename_i control
      split
      · exact .reserveLast control
      · exact .stay
    · exact .stay
  | recv => exact step_recv
  | notified =>
    dsimp only [next, onNotified]
    split
    · rename_i control
      split
      · rename_i notified
        exact .close control (.inr ⟨notified, rfl⟩)
      · exact .stay
    · exact .stay
  | send =>
    dsimp only [next, send]
    split
    · rename_i control
      split
      · rename_i source
        exact .sendFails control source
      · split
        · rename_i room
          exact .send control room
        · exact .stay
    · exact .stay
  | write count => exact step_write count
  | sinkWrite =>
    dsimp only [next, sinkWrite]
    split
    · exact .stay
    · rename_i sink _
      exact .sinkWrite sink
    · exact .stay
  | sourceRead =>
    dsimp only [next, sourceRead]
    split
    · rename_i source taken
      exact .sourceRead source taken
    · exact .stay
  | clientCloses => exact .clientCloses

end TrustTunnel.Endpoint.Http1Tunnel
