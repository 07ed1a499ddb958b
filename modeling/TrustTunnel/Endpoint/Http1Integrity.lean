import TrustTunnel.Endpoint.Http1Steps
import TrustTunnel.Endpoint.StrictRequests

/-!
# How bytes flow through an HTTP/1 tunnel

In the loop of `listen`, each byte of the client is in one place: it is part of the head, it
was sent to the source, the codec holds it, or it is still to be read. Each chunk of the sink
was written, is being written or is queued. When the codec leaves the loop for a shutdown, it
takes the chunk that may be queued.
-/

namespace TrustTunnel.Endpoint.Http1Tunnel

open Wire Http Http1Codec Transition List BoundedChannel Control

variable {crates : RequestCrates} {self : Http1Tunnel} {waitRead : WaitRead} {control : Control}
  {rest : Bytes}

/-! ## The points that are reached -/

/-- Where the codec is: in the loop of `listen` or before its next call, after a refusal, in
`graceful_shutdown`, or behind its last return. -/
inductive Stage where
  | looping
  | refusing
  | closing
  | ended
  deriving DecidableEq

def Control.stage : Control → Stage
  | idle | selecting _ | sending _ | writing _ => .looping
  | responding _ => .refusing
  | closing _ => .closing
  | returned _ | dropped => .ended

/-- Bytes of the client that the codec holds in a variable. -/
def Control.buffer : Control → Bytes
  | selecting (.reading buffer) => buffer
  | sending bytes => bytes
  | _ => []

/-- The rest of the chunk that is being written. -/
def Control.unwritten : Control → Bytes
  | writing rest => rest
  | closing (.writing rest) => rest
  | _ => []

/-- Bytes that were read, but are not sent to the source. -/
def held (self : Http1Tunnel) : Bytes := self.state.buffer ++ self.control.buffer

/-- The points of the code that are reached in a state, and the buffer then. In a request, the
future that is lost when another branch is selected has taken nothing. -/
def State.Permits : State → Control → Prop
  | waitingRequest buffer, .selecting (.reading _) => buffer = []
  | waitingRequest _, .selecting .reserving | waitingRequest _, .sending _
  | waitingRequest _, .writing _ => False
  | requestInProgress buffer, .selecting (.reading taken) => buffer = [] ∧ taken = []
  | requestInProgress buffer, .selecting .reserving | requestInProgress buffer, .sending _ =>
    buffer = []
  | requestInProgress _, .responding _ => False
  | _, _ => True

/-- Points that are reached in every state, with any buffer. -/
def Control.isFree : Control → Bool
  | idle | selecting .unpolled | closing _ | returned _ | dropped => true
  | _ => false

lemma permits_of_isFree (free : control.isFree = true) (state : State) : state.Permits control := by
  unfold State.Permits
  split <;> trivial

/-- Nobody has an end of the stream yet. -/
structure Fresh (tunnel : Http1Tunnel) : Prop where
  sink : tunnel.sink = .codec
  source : tunnel.source = .codec
  upload : tunnel.upload = .empty
  download : tunnel.download = .empty
  notified : tunnel.notified = false
  eofCall : tunnel.eofCall = none
  head : tunnel.head = none

structure Phase (tunnel : Http1Tunnel) : Prop where
  permits : tunnel.state.Permits tunnel.control
  fresh : ∀ {buffer}, tunnel.state = .waitingRequest buffer → tunnel.Fresh
  started : ∀ {buffer}, tunnel.state = .requestInProgress buffer → tunnel.head.isSome = true

namespace Phase

variable {after : Http1Tunnel} {control : Control} {transport : Transport} {buffer : Bytes}

/-- A point that is not reached while a request is waited for. -/
lemma inProgress_of_control (phase : self.Phase) (here : self.control = control)
    (never : ∀ buffer, ¬(State.waitingRequest buffer).Permits control) :
    ∃ buffer, self.state = .requestInProgress buffer ∧
      (State.requestInProgress buffer).Permits control := by
  have permits : self.state.Permits control := here ▸ phase.permits
  cases state : self.state with
  | waitingRequest buffer =>
    rw [state] at permits
    exact (never buffer permits).elim
  | requestInProgress buffer =>
    rw [state] at permits
    exact ⟨buffer, rfl, permits⟩

/-- A request is refused only while it is waited for. -/
lemma waiting (phase : self.Phase) (control : self.control = .responding rest) :
    ∃ buffer, self.state = .waitingRequest buffer := by
  have permits := phase.permits
  rw [control] at permits
  cases state : self.state with
  | waitingRequest buffer => exact ⟨buffer, rfl⟩
  | requestInProgress =>
    rw [state] at permits
    exact permits.elim

/-- In the state of waiting for a request, no other branch of `select!` can be selected. -/
lemma inProgress (phase : self.Phase)
    (started : self.sink ≠ .codec ∨ self.source ≠ .codec ∨ self.download.queue ≠ [] ∨
      self.notified = true) :
    ∃ buffer, self.state = .requestInProgress buffer := by
  cases state : self.state with
  | requestInProgress buffer => exact ⟨buffer, rfl⟩
  | waitingRequest =>
    have fresh := phase.fresh state
    simp [fresh.download, fresh.notified, fresh.sink, fresh.source] at started

lemma setControl (phase : self.Phase) {failed : Bool} (permits : self.state.Permits control) :
    { self with transport, control, failed }.Phase :=
  ⟨permits, fun state => { phase.fresh state with }, phase.started⟩

/-- Outside the state of waiting for a request, only the point matters. -/
lemma of_inProgress (head : after.head.isSome = true)
    (state : after.state = .requestInProgress buffer)
    (permits : (State.requestInProgress buffer).Permits after.control) : after.Phase where
  permits := state ▸ permits
  fresh waiting := by rw [state] at waiting; cases waiting
  started _ := head

/-- Once the stream exists, only the state and the point matter. -/
lemma keep (phase : self.Phase)
    (started : self.sink ≠ .codec ∨ self.source ≠ .codec ∨ self.download.queue ≠ [] ∨
      self.notified = true)
    (head : after.head = self.head) (state : after.state = self.state)
    (permits : after.control = self.control ∨
      ∀ buffer, (State.requestInProgress buffer).Permits after.control) : after.Phase := by
  obtain ⟨buffer, inProgress⟩ := phase.inProgress started
  apply of_inProgress (head ▸ phase.started inProgress) (state.trans inProgress)
  rcases permits with same | free
  · rw [same, ← inProgress]
    exact phase.permits
  · exact free buffer

lemma close (phase : self.Phase) {notified : Bool}
    (cause : self.transport.closed = true ∧ notified = self.notified ∨
      self.notified = true ∧ notified = false) :
    { self with notified }.gracefulShutdown.Phase := by
  rw [gracefulShutdown]
  split
  · rename_i taken
    have queued := queue_ne_nil taken
    exact phase.keep (.inr (.inr (.inl queued))) rfl rfl (.inr fun _ => trivial)
  · rcases cause with ⟨-, rfl⟩ | ⟨called, rfl⟩
    · exact phase.setControl (permits_of_isFree rfl _)
    · exact phase.keep (.inr (.inr (.inr called))) rfl rfl (.inr fun _ => trivial)

/-- The future that is lost when another branch is selected has taken nothing. -/
lemma nothing_taken (phase : self.Phase) (state : self.state = .requestInProgress buffer)
    (control : self.control = .selecting waitRead) : (selecting waitRead).buffer = [] := by
  have permits := phase.permits
  rw [state, control] at permits
  cases waitRead with
  | unpolled | reserving => rfl
  | reading => exact permits.2

lemma step (phase : self.Phase) (step : Step crates self after) : after.Phase := by
  cases step with
  | stay => exact phase
  | listen | abandon | flush | reserveLast | shutdown | fail | drop | sendFails =>
    exact phase.setControl (permits_of_isFree (by rfl) _)
  | poll state => exact ⟨rfl, fun _ => { phase.fresh state with }, nofun⟩
  | wait state | forward state | read state => exact of_inProgress (phase.started state) rfl rfl
  | reserve control =>
    obtain ⟨buffer, state, taken⟩ := phase.inProgress_of_control control fun _ => id
    exact phase.setControl (state ▸ ⟨taken, rfl⟩)
  | collect state => exact ⟨trivial, fun _ => { phase.fresh state with }, nofun⟩
  | refuse state _ refusal =>
    apply phase.setControl
    rw [state]
    rcases refusal with ⟨_, rfl⟩ | ⟨_, rfl⟩ <;> trivial
  | start | unknownPeer => exact of_inProgress rfl rfl trivial
  | close _ cause => exact phase.close cause
  | recv _ taken =>
    have queued := queue_ne_nil taken
    exact phase.keep (.inr (.inr (.inl queued))) rfl rfl (.inr fun _ => trivial)
  | send control =>
    obtain ⟨buffer, state, -⟩ := phase.inProgress_of_control control fun _ => id
    exact of_inProgress (phase.started state) state trivial
  | respond control outside =>
    apply phase.setControl
    obtain ⟨buffer, state⟩ := phase.waiting control
    rw [state]
    rcases outside with ⟨_, rfl⟩ | rfl <;> trivial
  | write control continues =>
    obtain ⟨buffer, state, -⟩ := phase.inProgress_of_control control fun _ => id
    rcases continues with rfl | ⟨-, rfl⟩ <;> exact of_inProgress (phase.started state) state trivial
  | writeLast => exact phase.setControl (permits_of_isFree (by rfl) _)
  | sinkWrite sink | sinkEof sink | sinkDrop sink =>
    exact phase.keep (.inl (by rw [sink]; decide)) rfl rfl (.inl rfl)
  | sourceRead source | sourceDrop source =>
    exact phase.keep (.inr (.inl (by rw [source]; decide))) rfl rfl (.inl rfl)
  | clientCloses => exact phase.setControl phase.permits

end Phase

/-! ## From the client to the source -/

/-- The codec waits for the client, or has bytes of it to send. -/
def Control.wantsRoom : Control → Bool
  | selecting (.reading _) | sending _ => true
  | _ => false

lemma looping_of_wantsRoom (wants : control.wantsRoom = true) : control.stage = .looping := by
  unfold wantsRoom at wants
  split at wants
  · rfl
  · rfl
  · cases wants

lemma Fresh.uploadReady (fresh : self.Fresh) : self.uploadReady = true := by
  rw [Http1Tunnel.uploadReady, fresh.upload]
  rfl

structure Upload (crates : RequestCrates) (input : Bytes) (tunnel : Http1Tunnel) : Prop where
  decoded : ∀ {head}, tunnel.head = some head → ∃ req tail,
    decodeRequest crates (head ++ tail) maxHeadersNum maxRawHeadersSize = .ok (.complete req tail)
  /-- In the loop, each byte of the client is in one place, and they are in their order. -/
  whole : tunnel.control.stage = .looping →
    tunnel.head.getD [] ++ (tunnel.upload.sent.flatten ++
      (tunnel.held ++ tunnel.transport.incoming)) = input
  sent : tunnel.head.getD [] ++ tunnel.upload.sent.flatten <+: input
  /-- There is room for what is sent. -/
  room : tunnel.state.buffer ≠ [] ∨ tunnel.control.wantsRoom = true → tunnel.uploadReady = true

namespace Upload

variable {input : Bytes} {after : Http1Tunnel}

variable (flow : self.Upload crates input)

include flow

/-- Nothing is sent, and no byte is lost if the codec stays in the loop. -/
lemma keep (head : after.head = self.head) (upload : after.upload.sent = self.upload.sent)
    (whole : after.control.stage = .looping → self.control.stage = .looping ∧
      after.held ++ after.transport.incoming = self.held ++ self.transport.incoming)
    (room : after.state.buffer ≠ [] ∨ after.control.wantsRoom = true → after.uploadReady = true) :
    after.Upload crates input where
  decoded known := flow.decoded (head ▸ known)
  whole looping := by
    obtain ⟨before, same⟩ := whole looping
    rw [head, upload, same]
    exact flow.whole before
  sent := by
    rw [head, upload]
    exact flow.sent
  room := room

lemma leave (out : after.control.stage ≠ .looping) (state : after.state = self.state)
    (head : after.head = self.head) (upload : after.upload = self.upload)
    (source : after.source = self.source) : after.Upload crates input := by
  apply flow.keep head (by rw [upload]) fun looping => (out looping).elim
  rintro (some | wants)
  · rw [uploadReady, upload, source]
    exact flow.room (.inl (state ▸ some))
  · exact (out (looping_of_wantsRoom wants)).elim

lemma outside (state : after.state = self.state) (control : after.control = self.control)
    (head : after.head = self.head) (upload : after.upload.sent = self.upload.sent)
    (incoming : after.transport.incoming = self.transport.incoming)
    (room : self.uploadReady = true → after.uploadReady = true) : after.Upload crates input := by
  apply flow.keep head upload
  · intro looping
    rw [held, state, control, incoming]
    exact ⟨control ▸ looping, rfl⟩
  · rw [state, control]
    exact fun wants => room (flow.room wants)

/-- When the head is complete, it and the rest of the buffer are all that was read. -/
lemma head_whole (phase : self.Phase) {old taken chunk rest head tail : Bytes}
    (state : self.state = .waitingRequest old)
    (control : self.control = .selecting (.reading taken))
    (incoming : self.transport.incoming = chunk ++ rest) (split : taken ++ chunk = head ++ tail) :
    head ++ (tail ++ rest) = input := by
  have permits := phase.permits
  rw [state, control] at permits
  cases permits
  have whole := flow.whole (by rw [control]; rfl)
  have fresh := phase.fresh state
  rw [held, state, control, incoming, fresh.head, fresh.upload] at whole
  calc head ++ (tail ++ rest) = taken ++ chunk ++ rest := by rw [split, append_assoc]
    _ = input := by simpa [buffer, State.buffer] using whole

lemma step (phase : self.Phase) (step : Step crates self after) : after.Upload crates input := by
  cases step with
  | stay => exact flow
  | listen control =>
    refine flow.keep rfl rfl (fun _ => ?_) fun wants => flow.room ?_
    · simp [held, control, stage, buffer]
    · simpa [control, wantsRoom] using wants
  | poll state control =>
    refine flow.keep rfl rfl (fun _ => ?_) fun _ => ?_
    · simp [held, state, control, stage, buffer, State.buffer]
    · exact (phase.fresh state).uploadReady
  | wait state control =>
    refine flow.keep rfl rfl (fun _ => ?_) fun wants => ?_
    · simp [held, state, control, stage, buffer]
    · simp [State.buffer, wantsRoom] at wants
  | forward state some control =>
    refine flow.keep rfl rfl (fun _ => ?_) fun _ => flow.room (.inl ?_)
    · simp [held, state, control, stage, buffer, State.buffer]
    · rw [state]
      exact some
  | reserve control ready =>
    refine flow.keep rfl rfl (fun _ => ?_) fun _ => ready
    simp [held, control, stage, buffer]
  | read state control incoming =>
    have permits := phase.permits
    rw [state, control] at permits
    obtain ⟨rfl, rfl⟩ := permits
    refine flow.keep rfl rfl (fun _ => ?_) fun _ => flow.room (.inr ?_)
    · simp [held, state, control, incoming, stage, buffer]
    · rw [control]
      rfl
  | collect state control incoming =>
    have permits := phase.permits
    rw [state, control] at permits
    cases permits
    refine flow.keep rfl rfl (fun _ => ?_) fun _ => ?_
    · simp [held, state, control, incoming, stage, buffer, State.buffer]
    · exact (phase.fresh state).uploadReady
  | refuse _ _ refusal =>
    rcases refusal with ⟨_, rfl⟩ | ⟨_, rfl⟩ <;> exact flow.leave nofun rfl rfl rfl rfl
  | start state control incoming decoded split =>
    have fresh := phase.fresh state
    have whole := flow.head_whole phase state control incoming split
    exact {
      decoded known := by
        cases known
        exact ⟨_, _, decoded⟩
      whole _ := by
        simpa [fresh.upload, held, buffer, State.buffer] using whole
      sent := by
        rw [← whole]
        simp [fresh.upload]
      room _ := by
        rw [fresh.upload]
        rfl }
  | unknownPeer state control incoming decoded split =>
    have fresh := phase.fresh state
    have whole := flow.head_whole phase state control incoming split
    exact {
      decoded known := by
        cases known
        exact ⟨_, _, decoded⟩
      whole looping := by cases looping
      sent := by
        rw [← whole]
        simp [fresh.upload]
      room _ := fresh.uploadReady }
  | close =>
    rw [gracefulShutdown]
    split <;> exact flow.leave nofun rfl rfl rfl rfl
  | abandon | flush | reserveLast | shutdown | fail | drop | sendFails | writeLast =>
    exact flow.leave nofun rfl rfl rfl rfl
  | recv control taken =>
    obtain ⟨buffer, state⟩ := phase.inProgress (.inr (.inr (.inl (queue_ne_nil taken))))
    refine flow.keep rfl rfl (fun _ => ?_) fun wants => flow.room (.inl ?_)
    · have none := phase.nothing_taken state control
      rw [held, held, control, none]
      exact ⟨rfl, rfl⟩
    · simpa [wantsRoom] using wants
  | @send bytes control room =>
    obtain ⟨buffer, state, empty⟩ := phase.inProgress_of_control control fun _ => id
    cases empty
    have whole := flow.whole (by rw [control]; rfl)
    have moved : self.head.getD [] ++ ((self.upload.send bytes).sent.flatten ++
        self.transport.incoming) = input := by
      simpa [held, state, control, buffer, State.buffer, sent_send room] using whole
    exact {
      decoded := flow.decoded
      whole _ := by simpa [held, state, buffer, State.buffer] using moved
      sent := ⟨self.transport.incoming, by rw [append_assoc]; exact moved⟩
      room wants := by simp [state, State.buffer, wantsRoom] at wants }
  | respond _ outside =>
    rcases outside with ⟨_, rfl⟩ | rfl <;> exact flow.leave nofun rfl rfl rfl rfl
  | write control continues =>
    refine flow.keep rfl rfl (fun _ => ?_) fun wants => flow.room ?_
    · rcases continues with rfl | ⟨-, rfl⟩ <;> simp [held, control, stage, buffer]
    · rcases continues with rfl | ⟨-, rfl⟩ <;> simpa [control, wantsRoom] using wants
  | sinkWrite | sinkEof | sinkDrop | clientCloses => exact flow.outside rfl rfl rfl rfl rfl id
  | sourceRead _ taken =>
    refine flow.outside rfl rfl rfl (sent_of_recv taken) rfl fun _ => ?_
    rw [uploadReady, hasRoom_of_recv taken]
    rfl
  | sourceDrop =>
    refine flow.outside rfl rfl rfl rfl rfl fun _ => ?_
    simp [uploadReady]

end Upload

/-! ## From the sink to the client -/

/-- All chunks that were received are written but for the rest of the last one, until the codec
leaves. -/
def Written (tunnel : Http1Tunnel) : Prop :=
  tunnel.control.stage = .looping ∨ tunnel.control.stage = .closing →
    tunnel.download.received.flatten = tunnel.transport.written ++ tunnel.control.unwritten

namespace Written

variable {after : Http1Tunnel}

lemma keep (flow : self.Written) (got : after.download.received = self.download.received)
    (written : after.transport.written = self.transport.written)
    (carries : after.control.stage = .looping ∨ after.control.stage = .closing →
      (self.control.stage = .looping ∨ self.control.stage = .closing) ∧
        after.control.unwritten = self.control.unwritten) : after.Written := by
  intro carrying
  obtain ⟨before, same⟩ := carries carrying
  rw [got, written, same]
  exact flow before

lemma leave (ended : after.control.stage ≠ .looping) (out : after.control.stage ≠ .closing) :
    after.Written := by
  simp [Written, ended, out]

lemma recv (flow : self.Written) {chunk : Bytes} {download : BoundedChannel Bytes 1}
    (control : self.control = .selecting waitRead)
    (taken : self.download.recv = some (chunk, download)) (got : after.download = download)
    (unwritten : after.control.unwritten = chunk)
    (written : after.transport.written = self.transport.written) : after.Written := by
  intro _
  have before := flow (.inl (by rw [control]; rfl))
  rw [control] at before
  rw [got, received_of_recv taken, unwritten, written]
  simpa [Control.unwritten] using before

lemma write (flow : self.Written) {now later : Bytes}
    (carries : self.control.stage = .looping ∨ self.control.stage = .closing)
    (before : self.control.unwritten = now ++ later) (unwritten : after.control.unwritten = later)
    (got : after.download = self.download)
    (written : after.transport.written = self.transport.written ++ now) : after.Written := by
  intro _
  rw [got, unwritten, written, append_assoc, ← before]
  exact flow carries

lemma step (flow : self.Written) (step : Step crates self after) : after.Written := by
  cases step with
  | stay => exact flow
  | listen control | poll _ control | wait _ control | forward _ _ control | reserve control
  | read _ control | collect _ control | start _ control | send control | flush control
  | reserveLast control =>
    refine flow.keep rfl rfl fun _ => ?_
    simp [control, stage, unwritten]
  | refuse _ _ refusal => rcases refusal with ⟨_, rfl⟩ | ⟨_, rfl⟩ <;> exact leave nofun nofun
  | unknownPeer | abandon | fail | drop | sendFails | shutdown => exact leave nofun nofun
  | respond _ outside => rcases outside with ⟨_, rfl⟩ | rfl <;> exact leave nofun nofun
  | close control =>
    rw [gracefulShutdown]
    split
    · rename_i taken
      exact flow.recv control taken rfl rfl rfl
    · refine flow.keep rfl rfl fun _ => ?_
      simp [control, stage, unwritten]
  | recv control taken => exact flow.recv control taken rfl rfl rfl
  | write control continues =>
    have before := congrArg unwritten control
    have looping := congrArg stage control
    rcases continues with rfl | ⟨rfl, rfl⟩ <;> exact flow.write (.inl looping) before rfl rfl rfl
  | writeLast control continues =>
    have before := congrArg unwritten control
    have closing := congrArg stage control
    rcases continues with rfl | ⟨rfl, rfl⟩ <;> exact flow.write (.inr closing) before rfl rfl rfl
  | sinkWrite => exact flow.keep (received_send _ _) rfl fun carries => ⟨carries, rfl⟩
  | sinkEof | sinkDrop | sourceRead | sourceDrop | clientCloses =>
    exact flow.keep rfl rfl fun carries => ⟨carries, rfl⟩

end Written

structure Ending (tunnel : Http1Tunnel) : Prop where
  accepted : ∀ {call}, tunnel.eofCall = some call → call.accepted <+: tunnel.download.sent
  /-- In the loop, the notification of `eof` is not used up. -/
  notified : tunnel.control.stage = .looping → tunnel.eofCall.isSome = tunnel.notified
  cause : tunnel.control.stage = .closing ∨ tunnel.transport.isShutdown = true →
    tunnel.eofCall.isSome = true ∨ tunnel.transport.closed = true
  drained : tunnel.control.stage = .closing → ∀ {call}, tunnel.eofCall = some call →
    call.clientOpen = true → call.accepted <+: tunnel.download.received
  done : tunnel.transport.isShutdown = true → ∀ {call}, tunnel.eofCall = some call →
    call.clientOpen = true → call.accepted.flatten <+: tunnel.transport.written
  ended : tunnel.control.stage = .ended → tunnel.eofCall.isSome = true ∨ tunnel.sink = .stream →
    tunnel.transport.isShutdown = true ∨ tunnel.failed = true ∨ tunnel.source = .dropped

namespace Ending

variable {after : Http1Tunnel}

variable (ending : self.Ending)

include ending

lemma keep (stage : after.control.stage = self.control.stage)
    (eofCall : after.eofCall = self.eofCall) (notified : after.notified = self.notified)
    (sent : self.download.sent <+: after.download.sent)
    (got : self.download.received <+: after.download.received)
    (written : self.transport.written <+: after.transport.written)
    (isShutdown : after.transport.isShutdown = self.transport.isShutdown)
    (closed : self.transport.closed = true → after.transport.closed = true)
    (sink : after.sink = .stream → self.control.stage = .ended → self.sink = .stream)
    (failed : after.failed = self.failed)
    (source : self.source = .dropped → after.source = .dropped) : after.Ending where
  accepted call := (ending.accepted (eofCall ▸ call)).trans sent
  notified looping := by
    rw [eofCall, notified]
    exact ending.notified (stage ▸ looping)
  cause closing := by
    rw [stage, isShutdown] at closing
    rw [eofCall]
    exact (ending.cause closing).imp_right closed
  drained closing _ call isOpen :=
    (ending.drained (stage ▸ closing) (eofCall ▸ call) isOpen).trans got
  done shutdown _ call isOpen :=
    (ending.done (isShutdown ▸ shutdown) (eofCall ▸ call) isOpen).trans written
  ended ends stream := by
    rw [stage] at ends
    rw [eofCall] at stream
    rw [isShutdown, failed]
    exact (ending.ended ends (stream.imp_right fun held => sink held ends)).imp_right
      (Or.imp_right source)

/-- The codec leaves while nobody has the sink, and has not heard of the end. -/
lemma leave (uncalled : self.eofCall = none) (eofCall : after.eofCall = self.eofCall)
    (sink : after.sink ≠ .stream) (looping : after.control.stage ≠ .looping)
    (closing : after.control.stage ≠ .closing)
    (isShutdown : after.transport.isShutdown = self.transport.isShutdown)
    (closed : after.transport.closed = self.transport.closed) : after.Ending := by
  have none := eofCall.trans uncalled
  exact {
    accepted call := by rw [none] at call; cases call
    notified again := (looping again).elim
    cause ends := by
      rw [eofCall, closed]
      exact ending.cause (.inr (ends.elim (fun here => (closing here).elim) (isShutdown ▸ ·)))
    drained here := (closing here).elim
    done _ _ call := by rw [none] at call; cases call
    ended _ stream := by
      rw [none] at stream
      exact (stream.elim nofun sink).elim }

/-- A shutdown begins, and takes the only chunk that there may be. -/
lemma close (cause : self.eofCall.isSome = true ∨ self.transport.closed = true)
    (stage : after.control.stage = .closing) (eofCall : after.eofCall = self.eofCall)
    (sent : after.download.sent = self.download.sent)
    (drained : after.download.received = after.download.sent)
    (transport : after.transport = self.transport) : after.Ending where
  accepted call := sent ▸ ending.accepted (eofCall ▸ call)
  notified looping := by rw [stage] at looping; cases looping
  cause _ := by
    rw [eofCall, transport]
    exact cause
  drained _ _ call _ := by
    rw [drained, sent]
    exact ending.accepted (eofCall ▸ call)
  done shutdown _ call isOpen := by
    rw [transport] at shutdown ⊢
    exact ending.done shutdown (eofCall ▸ call) isOpen
  ended ends := by rw [stage] at ends; cases ends

lemma fail (stage : after.control.stage = .ended) (eofCall : after.eofCall = self.eofCall)
    (sent : after.download = self.download) (transport : after.transport = self.transport)
    (reason : after.failed = true ∨ after.source = .dropped) : after.Ending where
  accepted call := sent ▸ ending.accepted (eofCall ▸ call)
  notified looping := by rw [stage] at looping; cases looping
  cause ends := by
    rw [stage, transport] at ends
    rw [eofCall, transport]
    exact ending.cause (.inr (ends.elim nofun id))
  drained closing := by rw [stage] at closing; cases closing
  done shutdown _ call isOpen := by
    rw [transport] at shutdown ⊢
    exact ending.done shutdown (eofCall ▸ call) isOpen
  ended _ _ := .inr reason

/-- The transport is shut down after everything was written. -/
lemma shutdown (flow : self.Written) (control : self.control = .closing .shuttingDown) :
    { self with
      transport := { self.transport with isShutdown := true }
      control := .returned (.ok ()) }.Ending := by
  have closing : self.control.stage = .closing := by rw [control]; rfl
  exact {
    accepted := ending.accepted
    notified := nofun
    cause _ := ending.cause (.inl closing)
    drained := nofun
    done _ call called isOpen := by
      have written := flow (.inr closing)
      have nothing : unwritten (.closing .shuttingDown) = [] := rfl
      rw [control, nothing, append_nil] at written
      rw [← written]
      exact (ending.drained closing called isOpen).flatten
    ended _ _ := .inl rfl }

lemma sinkEof (sink : self.sink = .stream) :
    { self with
      notified := true
      eofCall := self.eofCall <|>
        some (EofCall.mk self.download.sent !self.transport.closed) }.Ending := by
  cases called : self.eofCall with
  | some =>
    exact {
      accepted again := ending.accepted (called.trans again)
      notified _ := rfl
      cause _ := .inl rfl
      drained closing _ again := ending.drained closing (called.trans again)
      done shutdown _ again := ending.done shutdown (called.trans again)
      ended ends _ := ending.ended ends (.inr sink) }
  | none =>
    exact {
      accepted first := by cases first; exact prefix_rfl
      notified _ := rfl
      cause _ := .inl rfl
      drained closing _ first isOpen := by
        have late := ending.cause (.inl closing)
        cases first
        simp_all
      done shutdown _ first isOpen := by
        have late := ending.cause (.inr shutdown)
        cases first
        simp_all
      ended ends _ := ending.ended ends (.inr sink) }

lemma step (phase : self.Phase) (flow : self.Written) (step : Step crates self after) :
    after.Ending := by
  cases step with
  | stay => exact ending
  | listen control | poll _ control | wait _ control | forward _ _ control | reserve control
  | read _ control | collect _ control | send control | flush control
  | reserveLast control | drop control =>
    exact ending.keep (by rw [control]; rfl) rfl rfl prefix_rfl prefix_rfl
      prefix_rfl rfl id (fun held _ => held) rfl id
  | start state control =>
    exact ending.keep (by rw [control]; rfl) rfl rfl prefix_rfl prefix_rfl
      prefix_rfl rfl id (fun _ ends => by rw [control] at ends; cases ends) rfl
      fun dropped => by rw [(phase.fresh state).source] at dropped; cases dropped
  | refuse state _ refusal =>
    have fresh := phase.fresh state
    have sink : self.sink ≠ .stream := by rw [fresh.sink]; decide
    rcases refusal with ⟨_, rfl⟩ | ⟨_, rfl⟩ <;>
      exact ending.leave fresh.eofCall rfl sink nofun nofun rfl rfl
  | unknownPeer state =>
    have fresh := phase.fresh state
    have sink : self.sink ≠ .stream := by rw [fresh.sink]; decide
    exact ending.leave fresh.eofCall rfl sink nofun nofun rfl rfl
  | close control cause => 
    have looping : self.control.stage = .looping := by rw [control]; rfl
    have known : self.eofCall.isSome = true ∨ self.transport.closed = true :=
      cause.symm.imp (fun called => (ending.notified looping).trans called.1) And.left
    rw [gracefulShutdown]
    split
    · rename_i taken
      exact ending.close known rfl rfl (sent_of_recv taken) (received_eq_sent_of_recv taken) rfl
    · rename_i none
      exact ending.close known rfl rfl rfl (received_eq_sent (recv_eq_none.mp none)) rfl
  | abandon control sink unnotified => 
    have uncalled := ending.notified (by rw [control]; rfl)
    rw [unnotified, Option.isSome_eq_false_iff, Option.isNone_iff_eq_none] at uncalled
    exact ending.leave uncalled rfl (by rw [sink]; decide) nofun nofun rfl rfl
  | shutdown control => exact ending.shutdown flow control
  | fail => exact ending.fail rfl rfl rfl rfl (.inl rfl)
  | sendFails _ source => exact ending.fail rfl rfl rfl rfl (.inr source)
  | recv control taken =>
    refine ending.keep (by rw [control]; rfl) rfl rfl ?_ ?_
      prefix_rfl rfl id (fun held _ => held) rfl id
    · exact sent_of_recv taken ▸ prefix_rfl
    · exact received_of_recv taken ▸ prefix_append _ _
  | respond control outside =>
    obtain ⟨buffer, state⟩ := phase.waiting control
    have fresh := phase.fresh state
    have sink : self.sink ≠ .stream := by rw [fresh.sink]; decide
    rcases outside with ⟨_, rfl⟩ | rfl <;>
      exact ending.leave fresh.eofCall rfl sink nofun nofun rfl rfl
  | write control continues =>
    refine ending.keep ?_ rfl rfl prefix_rfl prefix_rfl
      (prefix_append _ _) rfl id (fun held _ => held) rfl id
    rw [control]
    rcases continues with rfl | ⟨-, rfl⟩ <;> rfl
  | writeLast control =>
    exact ending.keep (by rw [control]; rfl) rfl rfl prefix_rfl prefix_rfl
      (prefix_append _ _) rfl id (fun held _ => held) rfl id
  | sinkWrite =>
    exact ending.keep rfl rfl rfl (sent_prefix_send _ _)
      (received_send _ _ ▸ prefix_rfl) prefix_rfl rfl id (fun held _ => held) rfl id
  | sinkEof sink => exact ending.sinkEof sink
  | sinkDrop => exact ending.keep rfl rfl rfl prefix_rfl prefix_rfl prefix_rfl rfl id nofun rfl id
  | sourceRead =>
    exact ending.keep rfl rfl rfl prefix_rfl prefix_rfl prefix_rfl rfl id
      (fun held _ => held) rfl id
  | sourceDrop =>
    exact ending.keep rfl rfl rfl prefix_rfl prefix_rfl prefix_rfl rfl id
      (fun held _ => held) rfl fun _ => rfl
  | clientCloses =>
    exact ending.keep rfl rfl rfl prefix_rfl prefix_rfl prefix_rfl rfl
      (fun _ => rfl) (fun held _ => held) rfl id

end Ending

/-!
## No byte of an HTTP/1 tunnel is lost

The chunks that the source returns are, put together, the beginning of what the client sends
after the head of its request. When the sink calls `eof` while the side of the client is open,
all chunks that it had accepted are written before the transport is shut down.
-/

variable {peerAddr : Except IoError IpAddr} {input : Bytes}

structure Invariant (crates : RequestCrates) (input : Bytes) (tunnel : Http1Tunnel) : Prop where
  phase : tunnel.Phase
  upload : tunnel.Upload crates input
  written : tunnel.Written
  ending : tunnel.Ending

lemma invariant_new (input : Bytes) : (new input).Invariant crates input where
  phase := ⟨trivial, fun _ => ⟨rfl, rfl, rfl, rfl, rfl, rfl, rfl⟩, nofun⟩
  upload := ⟨nofun, fun _ => rfl, nil_prefix, fun _ => rfl⟩
  written _ := rfl
  ending := ⟨nofun, fun _ => rfl, nofun, nofun, nofun, nofun⟩

namespace Invariant

lemma next (invariant : self.Invariant crates input) (event : Event) :
    (self.next crates peerAddr event).Invariant crates input :=
  have step := next_step event
  { phase := invariant.phase.step step
    upload := invariant.upload.step invariant.phase step
    written := invariant.written.step step
    ending := invariant.ending.step invariant.phase invariant.written step }

lemma run (invariant : self.Invariant crates input) (events : List Event) :
    (events.foldl (Http1Tunnel.next crates peerAddr) self).Invariant crates input := by
  induction events generalizing self with
  | nil => exact invariant
  | cons event _ ih => exact ih (invariant.next event)

end Invariant

/-! ## What is required -/

/-- What the source has returned begins the bytes after the head. While the codec is in its
loop, the other bytes after the head are queued, held or not read yet, in this order. -/
def UploadIntact (crates : RequestCrates) (input : Bytes) (tunnel : Http1Tunnel) : Prop :=
  match tunnel.head with
  | none => tunnel.upload.received = []
  | some head =>
    (∃ req tail, decodeRequest crates (head ++ tail) maxHeadersNum maxRawHeadersSize =
      .ok (.complete req tail)) ∧
    ∃ body, input = head ++ body ∧ tunnel.upload.received.flatten <+: body ∧
      (tunnel.control.stage = .looping →
        body = tunnel.upload.received.flatten ++ tunnel.upload.queue.flatten ++
          tunnel.held ++ tunnel.transport.incoming)

/-- What was accepted before the call can be written by steps of the codec alone. -/
def Finishes (crates : RequestCrates) (peerAddr : Except IoError IpAddr) (call : EofCall)
    (tunnel : Http1Tunnel) : Prop :=
  ∃ more : List Event, (∀ event ∈ more, event.isOwn = true) ∧
    call.accepted.flatten <+: (more.foldl (next crates peerAddr) tunnel).transport.written

/-- What was accepted before a call of `eof` is written before the transport is shut down. If
the transport does not fail and the source is not dropped, `listen` returns only after that, and
until then the codec can go on by itself to where all that was accepted is written. -/
structure DownloadIntact (crates : RequestCrates) (peerAddr : Except IoError IpAddr)
    (call : EofCall) (tunnel : Http1Tunnel) : Prop where
  shutdown : tunnel.transport.isShutdown = true → call.accepted.flatten <+: tunnel.transport.written
  ended : tunnel.failed = false → tunnel.source ≠ .dropped → tunnel.control.stage = .ended →
    tunnel.transport.isShutdown = true
  finishes : tunnel.source ≠ .dropped → tunnel.control.stage ≠ .ended →
    tunnel.Finishes crates peerAddr call

structure Intact (crates : RequestCrates) (peerAddr : Except IoError IpAddr) (input : Bytes)
    (tunnel : Http1Tunnel) : Prop where
  upload : tunnel.UploadIntact crates input
  download : ∀ {call}, tunnel.eofCall = some call → call.clientOpen = true →
    tunnel.DownloadIntact crates peerAddr call

namespace Invariant

lemma uploadIntact (invariant : self.Invariant crates input) : self.UploadIntact crates input := by
  rw [UploadIntact]
  split
  case h_1 head =>
    cases state : self.state with
    | waitingRequest =>
      rw [(invariant.phase.fresh state).upload]
      rfl
    | requestInProgress =>
      have started := invariant.phase.started state
      rw [head] at started
      cases started
  case h_2 head known =>
    obtain ⟨body, whole⟩ := invariant.upload.sent
    rw [known, append_assoc] at whole
    refine ⟨invariant.upload.decoded known, self.upload.sent.flatten ++ body, whole.symm, ?_, ?_⟩
    · exact self.upload.received_prefix_sent.flatten.trans (prefix_append _ _)
    · intro looping
      have exactly := invariant.upload.whole looping
      rw [known, ← whole] at exactly
      have rest := append_cancel_left (append_cancel_left exactly)
      rw [← rest, BoundedChannel.sent, flatten_append]
      simp

end Invariant

/-! ## Going on to the end -/

lemma write_writing (control : self.control = .writing rest) :
    self.write rest.length = { self with
      transport := { self.transport with written := self.transport.written ++ rest }
      control := .selecting .unpolled } := by
  simp [write, control, writeSome]

variable {call : EofCall}

lemma Finishes.of_next (event : Event) (own : event.isOwn = true)
    (finishes : (self.next crates peerAddr event).Finishes crates peerAddr call) :
    self.Finishes crates peerAddr call := by
  obtain ⟨more, all, written⟩ := finishes
  exact ⟨event :: more, forall_mem_cons.mpr ⟨own, all⟩, written⟩

namespace Invariant

variable (invariant : self.Invariant crates input)

include invariant

section

variable (called : self.eofCall = some call) (isOpen : call.clientOpen = true)

include called isOpen

/-- In a shutdown, the last chunk may have to be written. -/
lemma finishes_closing {point : Closing} (control : self.control = .closing point) :
    self.Finishes crates peerAddr call := by
  have closing : self.control.stage = .closing := by rw [control]; rfl
  have drained := (invariant.ending.drained closing called isOpen).flatten
  rw [invariant.written (.inr closing), control] at drained
  cases point with
  | writing rest =>
    refine ⟨[.write rest.length], by simp [Event.isOwn], ?_⟩
    simpa [Http1Tunnel.next, write, control, writeSome, Control.unwritten] using drained
  | flushing | reserving | shuttingDown =>
    refine ⟨[], by simp, ?_⟩
    simpa [Control.unwritten] using drained

/-- The notification is there when `select!` is reached. -/
lemma finishes_selecting {waitRead : WaitRead} (control : self.control = .selecting waitRead) :
    self.Finishes crates peerAddr call := by
  have notified := invariant.ending.notified (by rw [control]; rfl)
  rw [called] at notified
  have step : self.next crates peerAddr .notified =
      { self with notified := false }.gracefulShutdown := by
    simp [Http1Tunnel.next, onNotified, control, ← notified]
  have after : (self.next crates peerAddr .notified).Invariant crates input :=
    invariant.next .notified
  apply Finishes.of_next .notified rfl
  rw [step] at after ⊢
  revert after
  rw [gracefulShutdown]
  split <;> exact fun after => after.finishes_closing called isOpen rfl

lemma finishes_looping (source : self.source ≠ .dropped)
    (looping : self.control.stage = .looping) : self.Finishes crates peerAddr call := by
  have after (event : Event) : (self.next crates peerAddr event).Invariant crates input :=
    invariant.next event
  cases control : self.control with
  | selecting => exact invariant.finishes_selecting called isOpen control
  | idle =>
    have step : self.next crates peerAddr .listen =
        { self with control := .selecting .unpolled } := by
      simp [Http1Tunnel.next, listen, control]
    apply Finishes.of_next .listen rfl
    exact (after .listen).finishes_selecting (step ▸ called) isOpen (by rw [step])
  | sending bytes =>
    have room : self.upload.hasRoom = true := by
      simpa [uploadReady, source] using invariant.upload.room (.inr (by rw [control]; rfl))
    have step : self.next crates peerAddr .send = { self with
        upload := self.upload.send bytes, control := .selecting .unpolled } := by
      simp [Http1Tunnel.next, send, control, source, room]
    apply Finishes.of_next .send rfl
    exact (after .send).finishes_selecting (step ▸ called) isOpen (by rw [step])
  | writing rest =>
    have step : self.next crates peerAddr (.write rest.length) = _ := write_writing control
    apply Finishes.of_next (.write rest.length) rfl
    exact (after _).finishes_selecting (step ▸ called) isOpen (by rw [step])
  | responding | closing | returned | dropped =>
    rw [control] at looping
    cases looping

lemma downloadIntact : self.DownloadIntact crates peerAddr call where
  shutdown isShutdown := invariant.ending.done isShutdown called isOpen
  ended succeeds source ended := by
    have reasons := invariant.ending.ended ended (.inl (by rw [called]; rfl))
    simpa [succeeds, source] using reasons
  finishes source running := by
    cases control : self.control with
    | idle | selecting | sending | writing =>
      exact invariant.finishes_looping called isOpen source (by rw [control]; rfl)
    | closing => exact invariant.finishes_closing called isOpen control
    | responding =>
      obtain ⟨buffer, state⟩ := invariant.phase.waiting control
      rw [(invariant.phase.fresh state).eofCall] at called
      cases called
    | returned | dropped => exact (running (by rw [control]; rfl)).elim

end

end Invariant

/-- In every run, the chunks that the source returned are, put together, the beginning of what
the client sends after the head; and if `eof` was called while the side of the client was open,
all that the sink had accepted is written before the transport is shut down. -/
theorem bytes_intact_run (crates : RequestCrates) (peerAddr : Except IoError IpAddr) (input : Bytes)
    (events : List Event) :
    (events.foldl (next crates peerAddr) (new input)).Intact crates peerAddr input := by
  have invariant : (events.foldl (next crates peerAddr) (new input)).Invariant crates input :=
    (invariant_new input).run events
  exact ⟨invariant.uploadIntact, fun called isOpen => invariant.downloadIntact called isOpen⟩

/-- Until the codec leaves, the client has got what the sink gave, but for the rest of the last
chunk; the transport is shut down only after `eof` or when the client has closed it. -/
theorem written_run (crates : RequestCrates) (peerAddr : Except IoError IpAddr) (input : Bytes)
    (events : List Event) :
    let tunnel := events.foldl (next crates peerAddr) (new input)
    tunnel.Written ∧ (tunnel.transport.isShutdown = true →
      tunnel.eofCall.isSome = true ∨ tunnel.transport.closed = true) :=
  have invariant := (invariant_new input).run events
  ⟨invariant.written, fun shut => invariant.ending.cause (.inr shut)⟩

end TrustTunnel.Endpoint.Http1Tunnel
