import TrustTunnel.Endpoint.ForwardedStream
import TrustTunnel.Transition.Trace

/-!
# Exchanges that are dropped and resumed

The future of `SimplexPipe::exchange` waits for the source and the sink. It is dropped when a
wait takes too long, its own or one of the other direction, and a later call goes on from
what the pipe holds.
-/

namespace TrustTunnel.Endpoint

open Transition

/-- `pipe::Source`. A poll without a result leaves the read pending, and a pending read can
be dropped. -/
structure PolledSource (ρ : Type) where
  pollRead : ρ → Option (Except Failure Data) × ρ
  dropRead : ρ → ρ
  consume : ρ → Nat → Except Failure Unit × ρ

/-- `pipe::Sink`, with the calls that it can leave pending. -/
structure PolledSink (σ : Type) where
  write : σ → Bytes → Except Failure Bytes × σ
  eof : σ → Except Failure Unit × σ
  pollFlush : σ → Option (Except Failure Unit) × σ
  pollWritable : σ → Option (Except Failure Unit) × σ
  dropCall : σ → σ

/-- A read takes from the stream of the source what it returns, also when calls are dropped, and
`told` is the total of the sizes passed to `consume`. -/
structure PolledSource.LosesNothing {ρ : Type} (reader : PolledSource ρ) (taken : ρ → Bytes)
    (told : ρ → Nat) : Prop where
  pending : ∀ {source after}, reader.pollRead source = (none, after) →
    taken after = taken source ∧ told after = told source
  chunk : ∀ {source data after}, reader.pollRead source = (some (.ok (.chunk data)), after) →
    taken after = taken source ++ data ∧ told after = told source
  eof : ∀ {source after}, reader.pollRead source = (some (.ok .eof), after) →
    taken after = taken source ∧ told after = told source
  dropRead : ∀ source, taken (reader.dropRead source) = taken source ∧
    told (reader.dropRead source) = told source
  consume : ∀ {source size after}, reader.consume source size = (.ok (), after) →
    taken after = taken source ∧ told after = told source + size

/-- A write accepts a first part of the data and hands back the rest, and nothing else adds to
what the sink has got. -/
structure PolledSink.AcceptsFront {σ : Type} (writer : PolledSink σ) (got : σ → Bytes) : Prop where
  write : ∀ {sink data unsent after}, writer.write sink data = (.ok unsent, after) →
    ∃ sent, data = sent ++ unsent ∧ got after = got sink ++ sent
  eof : ∀ sink, got (writer.eof sink).2 = got sink
  flush : ∀ sink, got (writer.pollFlush sink).2 = got sink
  writable : ∀ sink, got (writer.pollWritable sink).2 = got sink
  dropCall : ∀ sink, got (writer.dropCall sink) = got sink

/-- What the exchange waits for. -/
inductive Await where
  | flush
  | read
  | writable
  /-- The flush behind the end of the source. -/
  | lastFlush
  deriving DecidableEq

/-- A direction of a pipe during an exchange, with the total that was passed to
`update_metrics`. -/
structure Exchange (ρ σ : Type) where
  source : ρ
  sink : σ
  pendingChunk : Option Bytes
  awaiting : Await
  result : Option (Except Failure Unit)
  updated : Nat

/-- The executor polls the exchange, or it is dropped and called again. -/
inductive ExchangeEvent where
  | poll
  | dropped

namespace Exchange

variable {ρ σ : Type} (reader : PolledSource ρ) (writer : PolledSink σ)

def new (source : ρ) (sink : σ) : Exchange ρ σ where
  source := source
  sink := sink
  pendingChunk := none
  awaiting := .flush
  result := none
  updated := 0

def fail (self : Exchange ρ σ) (failure : Failure) : Exchange ρ σ :=
  { self with result := some (.error failure) }

/-- Write a chunk, report what was sent and keep the rest. -/
def transmit (self : Exchange ρ σ) (data : Bytes) : Exchange ρ σ :=
  match writer.write self.sink data with
  | (.error failure, sink) => fail { self with sink } failure
  | (.ok unsent, sink) =>
    let sent := data.length - unsent.length
    let self := { self with sink, updated := self.updated + sent }
    match reader.consume self.source sent with
    | (.error failure, source) => fail { self with source } failure
    | (.ok _, source) =>
      { self with
        source
        pendingChunk := if unsent.isEmpty then self.pendingChunk else some unsent
        awaiting := .flush }

/-- One poll of what the exchange waits for, and everything up to the next wait. -/
def poll (self : Exchange ρ σ) : Exchange ρ σ :=
  match self.awaiting with
  | .flush =>
    match writer.pollFlush self.sink with
    | (none, sink) => { self with sink }
    | (some (.error failure), sink) => fail { self with sink } failure
    | (some (.ok _), sink) =>
      { self with sink, awaiting := if self.pendingChunk = none then .read else .writable }
  | .read =>
    match reader.pollRead self.source with
    | (none, source) => { self with source }
    | (some (.error failure), source) => fail { self with source } failure
    | (some (.ok (.chunk data)), source) => transmit reader writer { self with source } data
    | (some (.ok .eof), source) =>
      match writer.eof self.sink with
      | (.error failure, sink) => fail { self with source, sink } failure
      | (.ok _, sink) => { self with source, sink, awaiting := .lastFlush }
  | .writable =>
    match writer.pollWritable self.sink with
    | (none, sink) => { self with sink }
    | (some (.error failure), sink) => fail { self with sink } failure
    | (some (.ok _), sink) =>
      match self.pendingChunk with
      | none => fail { self with sink } (.io (.other "Pending chunk is unexpectedly absent"))
      | some data => transmit reader writer { self with sink, pendingChunk := none } data
  | .lastFlush =>
    match writer.pollFlush self.sink with
    | (none, sink) => { self with sink }
    | (some (.error failure), sink) => fail { self with sink } failure
    | (some (.ok _), sink) => { self with sink, result := some (.ok ()) }

/-- The future is dropped with the call that is pending in it, and `exchange` is called
again. -/
def resume (self : Exchange ρ σ) : Exchange ρ σ :=
  if self.awaiting = .read then
    { self with source := reader.dropRead self.source, awaiting := .flush }
  else { self with sink := writer.dropCall self.sink, awaiting := .flush }

/-- Nothing happens behind the end of the exchange. -/
def next (self : Exchange ρ σ) (event : ExchangeEvent) : Exchange ρ σ :=
  match self.result, event with
  | some _, _ => self
  | none, .poll => self.poll reader writer
  | none, .dropped => self.resume reader writer

/-! ## Conservation -/

variable (taken : ρ → Bytes) (told : ρ → Nat) (got : σ → Bytes) (source : ρ) (sink : σ)

/-- Since the exchange began with the given source and sink, the sink has got some bytes, these
and what is pending were read, and the totals are right. -/
structure Conserved (exchange : Exchange ρ σ) (bytes : Bytes) : Prop where
  accepted : got exchange.sink = got sink ++ bytes
  read : taken exchange.source = taken source ++ bytes ++ exchange.pendingChunk.getD []
  updated : exchange.updated = bytes.length
  consumed : told exchange.source = told source + bytes.length

/-- Everything is conserved as long as no error occurs. -/
def Conserves (self : Exchange ρ σ) : Prop :=
  (∀ failure, self.result ≠ some (.error failure)) →
    ∃ bytes, self.Conserved taken told got source sink bytes

/-- A read is awaited only when nothing is pending. -/
def Holds (self : Exchange ρ σ) : Prop :=
  (∀ failure, self.result ≠ some (.error failure)) →
    ∃ bytes, self.Conserved taken told got source sink bytes ∧
      (self.awaiting = .read → self.pendingChunk = none)

variable {reader writer taken told got source sink} {self : Exchange ρ σ} {bytes : Bytes}

lemma holds_fail (self : Exchange ρ σ) (failure : Failure) :
    (self.fail failure).Holds taken told got source sink :=
  fun succeeds => absurd rfl (succeeds failure)

section

variable (keeps : reader.LosesNothing taken told) (accepts : writer.AcceptsFront got)

include keeps accepts

lemma holds_transmit {data : Bytes} (accepted : got self.sink = got sink ++ bytes)
    (read : taken self.source = taken source ++ bytes ++ data)
    (updated : self.updated = bytes.length)
    (consumed : told self.source = told source + bytes.length) (idle : self.pendingChunk = none) :
    (self.transmit reader writer data).Holds taken told got source sink := by
  rw [transmit]
  split
  · exact holds_fail _ _
  · rename_i unsent after writes
    obtain ⟨sent, rfl, gets⟩ := accepts.write writes
    have length : (sent ++ unsent).length - unsent.length = sent.length := by simp
    dsimp only
    rw [length]
    split
    · exact holds_fail _ _
    · rename_i consumes
      obtain ⟨same, total⟩ := keeps.consume consumes
      refine fun _ => ⟨bytes ++ sent, ⟨by simp [gets, accepted], ?_, by simp [updated], ?_⟩, nofun⟩
      · cases unsent with
        | nil => simp [same, read, idle]
        | cons => simp [same, read]
      · rw [total, consumed, List.length_append, Nat.add_assoc]

lemma holds_poll (conserved : self.Conserved taken told got source sink bytes)
    (idle : self.awaiting = .read → self.pendingChunk = none) :
    (self.poll reader writer).Holds taken told got source sink := by
  obtain ⟨accepted, read, updated, consumed⟩ := conserved
  have flushed := accepts.flush self.sink
  have writable := accepts.writable self.sink
  fun_cases poll
  case case3 after flushes =>
    rw [flushes] at flushed
    refine fun _ => ⟨bytes, ⟨flushed.trans accepted, read, updated, consumed⟩, ?_⟩
    cases self.pendingChunk with
    | none => exact fun _ => rfl
    | some => nofun
  case case4 polls =>
    obtain ⟨same, total⟩ := keeps.pending polls
    exact fun _ => ⟨bytes, ⟨accepted, same.trans read, updated, total.trans consumed⟩, idle⟩
  case case6 reads data after polls =>
    obtain ⟨more, total⟩ := keeps.chunk polls
    rw [idle reads] at read
    refine holds_transmit keeps accepts accepted ?_ updated (total.trans consumed) (idle reads)
    simp [more, read]
  case case8 polls _ after ends =>
    obtain ⟨same, total⟩ := keeps.eof polls
    have ended := accepts.eof self.sink
    rw [ends] at ended
    exact fun _ =>
      ⟨bytes, ⟨ended.trans accepted, same.trans read, updated, total.trans consumed⟩, nofun⟩
  case case12 polls _ pending =>
    rw [polls] at writable
    rw [pending] at read
    exact holds_transmit keeps accepts (writable.trans accepted) read updated consumed rfl
  case case2 | case5 | case7 | case10 | case11 | case14 => exact holds_fail _ _
  case case1 polls | case13 polls | case15 polls =>
    rw [polls] at flushed
    exact fun _ => ⟨bytes, ⟨flushed.trans accepted, read, updated, consumed⟩, idle⟩
  case case9 polls =>
    rw [polls] at writable
    exact fun _ => ⟨bytes, ⟨writable.trans accepted, read, updated, consumed⟩, idle⟩

lemma holds_resume (conserved : self.Conserved taken told got source sink bytes) :
    (self.resume reader writer).Holds taken told got source sink := by
  obtain ⟨accepted, read, updated, consumed⟩ := conserved
  rw [resume]
  split
  · obtain ⟨same, total⟩ := keeps.dropRead self.source
    exact fun _ => ⟨bytes, ⟨accepted, same.trans read, updated, total.trans consumed⟩, nofun⟩
  · have same := accepts.dropCall self.sink
    exact fun _ => ⟨bytes, ⟨same.trans accepted, read, updated, consumed⟩, nofun⟩

lemma holds_next (holds : self.Holds taken told got source sink) (event : ExchangeEvent) :
    (self.next reader writer event).Holds taken told got source sink := by
  unfold next
  split
  · exact holds
  · rename_i running
    obtain ⟨bytes, conserved, idle⟩ := holds (by simp [running])
    exact holds_poll keeps accepts conserved idle
  · rename_i running
    obtain ⟨bytes, conserved, -⟩ := holds (by simp [running])
    exact holds_resume keeps accepts conserved

end

/-- However the exchange is polled, dropped and called again, the bytes that the sink has got
and the pending chunk are the bytes read from the source, and both totals are the number of
bytes the sink has got. -/
theorem always_conserves (keeps : reader.LosesNothing taken told) (accepts : writer.AcceptsFront got)
    (source : ρ) (sink : σ) (events : List ExchangeEvent) :
    Always (next reader writer) (Conserves taken told got source sink) (new source sink) events := by
  have initial : (new source sink).Holds taken told got source sink :=
    fun _ => ⟨[], ⟨by simp [new], by simp [new], rfl, rfl⟩, fun _ => rfl⟩
  refine Always.of_invariant (Holds taken told got source sink)
    (fun holds _ => holds_next keeps accepts holds _) ?_ initial (eachStep_true _ events)
  intro self holds succeeds
  obtain ⟨bytes, conserved, -⟩ := holds succeeds
  exact ⟨bytes, conserved⟩

/-- A source that follows a script of polls, with the bytes it has returned and the total it
was told to consume. -/
def scripted : PolledSource (List (Option Bytes) × Bytes × Nat) where
  pollRead
    | ([], taken) => (some (.ok .eof), ([], taken))
    | (none :: script, taken) => (none, (script, taken))
    | (some data :: script, taken, told) =>
      (some (.ok (.chunk data)), (script, taken ++ data, told))
  dropRead source := source
  consume | (script, taken, told), size => (.ok (), (script, taken, told + size))

/-- A sink that takes one byte of each write. -/
def bytewise : PolledSink Bytes where
  write sink data := (.ok (data.drop 1), sink ++ data.take 1)
  eof sink := (.ok (), sink)
  pollFlush sink := (some (.ok ()), sink)
  pollWritable sink := (some (.ok ()), sink)
  dropCall sink := sink

lemma losesNothing_scripted : scripted.LosesNothing (·.2.1) (·.2.2) where
  pending {source after} polls := by
    obtain ⟨_ | ⟨_ | data, script⟩, taken⟩ := source <;> cases polls
    exact ⟨rfl, rfl⟩
  chunk {source data after} polls := by
    obtain ⟨_ | ⟨_ | data, script⟩, taken⟩ := source <;> cases polls
    exact ⟨rfl, rfl⟩
  eof {source after} polls := by
    obtain ⟨_ | ⟨_ | data, script⟩, taken⟩ := source <;> cases polls
    exact ⟨rfl, rfl⟩
  dropRead _ := ⟨rfl, rfl⟩
  consume {source size after} consumes := by
    cases consumes
    exact ⟨rfl, rfl⟩

lemma acceptsFront_bytewise : bytewise.AcceptsFront id where
  write {sink data unsent after} writes := by
    cases writes
    exact ⟨data.take 1, (List.take_append_drop 1 data).symm, rfl⟩
  eof _ := rfl
  flush _ := rfl
  writable _ := rfl
  dropCall _ := rfl

/-- A read is dropped, and the wait for the sink with a byte pending. -/
theorem always_conserves_scripted :
    Always (next scripted bytewise)
      (Conserves (·.2.1) (·.2.2) id ([none, some [104, 105]], [], 0) [])
      (new ([none, some [104, 105]], [], 0) [])
      [.poll, .poll, .dropped, .poll, .poll, .poll, .dropped, .poll, .poll] :=
  always_conserves losesNothing_scripted acceptsFront_bytewise ([none, some [104, 105]], [], 0) [] _

end Exchange

end TrustTunnel.Endpoint
