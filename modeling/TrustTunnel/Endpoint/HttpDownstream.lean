import TrustTunnel.Chunked.StepMachine
import TrustTunnel.Wire.Bytes

/-!
# Reading datagrams off a client stream

`DatagramDecoder` drives a codec: each chunk of the stream is handed to
`decode_chunk`, and the tail that a completed datagram leaves is handed to it
again before the next chunk is read.
-/

namespace TrustTunnel.Endpoint

open Chunked

namespace HttpDatagramCodec

/-- What `decode_chunk` reports. -/
inductive DecodeResult (δ : Type) where
  /-- A datagram is not fully received, waiting for the next data chunk. -/
  | wantMore
  /-- A datagram is completed; `tail` is the unprocessed rest of the chunk. -/
  | complete (dgram : δ) (tail : Bytes)

/-- `decode_chunk` of a codec whose loop body is a step machine. -/
def decodeChunk {σ δ : Type} (machine : StepMachine σ UInt8 δ Fault) (self : σ)
    (data : Bytes) : Except Fault (σ × DecodeResult δ) := do
  match ← machine.next self data with
  | (self, some (dgram, tail)) => return (self, .complete dgram tail)
  | (self, none) => return (self, .wantMore)

end HttpDatagramCodec

open HttpDatagramCodec

namespace HttpDownstream

/-- A codec, the tails it still has to process, and the chunks its stream will
deliver before the end of file. -/
structure DatagramDecoder (σ : Type) where
  decoder : σ
  pendingBytes : List Bytes
  source : List Bytes

namespace DatagramDecoder

variable {σ δ : Type} (machine : StepMachine σ UInt8 δ Fault)

/-- The chunks in the order in which they are processed. -/
def queue (self : DatagramDecoder σ) : List Bytes := self.pendingBytes ++ self.source

/-- The next chunk: a pending tail if there is one, else a chunk of the stream. -/
def popChunk (self : DatagramDecoder σ) : Option (Bytes × DatagramDecoder σ) :=
  match self.pendingBytes, self.source with
  | chunk :: pendingBytes, _ => some (chunk, { self with pendingBytes })
  | [], chunk :: source => some (chunk, { self with source })
  | [], [] => none

variable {self : DatagramDecoder σ} {chunk : Bytes}

lemma popChunk_eq_some {rest : DatagramDecoder σ} (popped : self.popChunk = some (chunk, rest)) :
    self.queue = chunk :: rest.queue ∧ rest.decoder = self.decoder := by
  obtain ⟨decoder, pendingBytes, source⟩ := self
  cases pendingBytes with
  | cons =>
    cases popped
    exact ⟨rfl, rfl⟩
  | nil =>
    cases source with
    | cons =>
      cases popped
      exact ⟨rfl, rfl⟩
    | nil => cases popped

lemma popChunk_eq_none (popped : self.popChunk = none) : self = ⟨self.decoder, [], []⟩ := by
  obtain ⟨decoder, pendingBytes, source⟩ := self
  cases pendingBytes with
  | cons => cases popped
  | nil =>
    cases source with
    | cons => cases popped
    | nil => rfl

/-- `DatagramDecoder::read`; no datagram stands for the `UnexpectedEof` error. -/
def read (self : DatagramDecoder σ) : Except Fault (DatagramDecoder σ × Option δ) :=
  match _popped : self.popChunk with
  | none => .ok (self, none)
  | some (chunk, rest) =>
    match decodeChunk machine rest.decoder chunk with
    | .error fault => .error fault
    | .ok (decoder, .wantMore) => read { rest with decoder }
    | .ok (decoder, .complete dgram tail) =>
      let pendingBytes := if tail.isEmpty then rest.pendingBytes else tail :: rest.pendingBytes
      .ok ({ rest with decoder, pendingBytes }, some dgram)
termination_by self.queue.length
decreasing_by
  rw [(popChunk_eq_some _popped).1]
  simp [queue]

/-- Calling `read` until it reports the end of file returns `datagrams`. -/
inductive Reads : DatagramDecoder σ → List δ → DatagramDecoder σ → Prop where
  | eof {self final : DatagramDecoder σ}
      (stopped : self.read machine = .ok (final, none)) : Reads self [] final
  | datagram {self next final : DatagramDecoder σ} {dgram : δ} {dgrams : List δ}
      (returned : self.read machine = .ok (next, some dgram))
      (rest : Reads next dgrams final) : Reads self (dgram :: dgrams) final

/-- A freshly started reader over the chunks of a stream. -/
def start (decoder : σ) (chunks : List Bytes) : DatagramDecoder σ where
  decoder := decoder
  pendingBytes := []
  source := chunks

variable {machine}

lemma Reads.deterministic {final final' : DatagramDecoder σ} {dgrams datagrams' : List δ}
    (reads : Reads machine self dgrams final) (reads' : Reads machine self datagrams' final') :
    dgrams = datagrams' ∧ final = final' := by
  induction reads generalizing datagrams' with
  | eof stopped =>
    cases reads' with
    | eof stopped' =>
      rw [stopped] at stopped'
      cases stopped'
      exact ⟨rfl, rfl⟩
    | datagram returned =>
      rw [stopped] at returned
      cases returned
  | datagram returned _ ih =>
    cases reads' with
    | eof stopped =>
      rw [returned] at stopped
      cases stopped
    | datagram returned' rest' =>
      rw [returned] at returned'
      cases returned'
      obtain ⟨rfl, rfl⟩ := ih rest'
      exact ⟨rfl, rfl⟩

variable {good : σ → Prop} {state final : σ} {outputs : List δ} {chunks : List Bytes}

lemma decodeChunk_wantMore (run : machine.Run good state chunk final []) :
    decodeChunk machine state chunk = .ok (final, .wantMore) := by
  rw [decodeChunk, run.next_eq_none rfl]
  rfl

lemma decodeChunk_complete {output : δ}
    (run : machine.Run good state chunk final (output :: outputs)) :
    ∃ middle tail,
      decodeChunk machine state chunk = .ok (middle, .complete output tail) ∧
        machine.Run good middle tail final outputs := by
  obtain ⟨middle, tail, stopped, rest⟩ := run.next_eq_some rfl
  refine ⟨middle, tail, ?_, rest⟩
  rw [decodeChunk, stopped]
  rfl

/-- A tail is fed back only when there is something in it. -/
lemma chunkRun_tail {middle : σ} {tail : Bytes} {before after : List δ}
    (run : machine.Run good state tail middle before)
    (rest : StepMachine.ChunkRun machine good middle chunks final after) :
    StepMachine.ChunkRun machine good state
      (if tail.isEmpty then chunks else tail :: chunks) final (before ++ after) := by
  cases tail with
  | nil =>
    cases run with
    | done => exact rest
    | turn nonempty => exact absurd rfl nonempty
  | cons => exact .chunk run rest

/-- `read` returns the first output of a run over the queued chunks, or the end
of file when the run has none. -/
lemma read_of_chunkRun :
    ∀ {chunks : List Bytes} (self : DatagramDecoder σ), self.queue = chunks →
      StepMachine.ChunkRun machine good self.decoder chunks final outputs →
      (outputs = [] ∧ self.read machine = .ok (⟨final, [], []⟩, none)) ∨
        ∃ output others next, outputs = output :: others ∧
          self.read machine = .ok (next, some output) ∧
          StepMachine.ChunkRun machine good next.decoder next.queue final others := by
  intro chunks
  induction chunks with
  | nil =>
    intro self queued run
    have stopped : self.popChunk = none := by
      cases popped : self.popChunk with
      | none => rfl
      | some =>
        have shape := (popChunk_eq_some popped).1
        rw [queued] at shape
        cases shape
    cases run with
    | done =>
      refine .inl ⟨rfl, ?_⟩
      rw [read]
      split
      · exact congrArg (fun self => Except.ok (self, none)) (popChunk_eq_none stopped)
      · next popped =>
          rw [stopped] at popped
          cases popped
  | cons chunk _ ih =>
    intro self queued run
    cases popped : self.popChunk with
    | none =>
      rw [popChunk_eq_none popped] at queued
      cases queued
    | some result =>
      obtain ⟨chunk', rest⟩ := result
      obtain ⟨shape, sameDecoder⟩ := popChunk_eq_some popped
      rw [queued] at shape
      cases shape
      rw [read]
      split
      · next popped' =>
          rw [popped] at popped'
          cases popped'
      next popped' =>
        rw [popped] at popped'
        cases popped'
        rw [sameDecoder]
        cases run with
        | @chunk _ middle _ _ _ before after run remaining =>
          cases before with
          | nil =>
            rw [decodeChunk_wantMore run]
            exact ih { rest with decoder := middle } rfl remaining
          | cons output before =>
            obtain ⟨stop, tail, complete, fromTail⟩ := decodeChunk_complete run
            rw [complete]
            refine .inr ⟨output, before ++ after, _, rfl, rfl, ?_⟩
            have fed := chunkRun_tail fromTail remaining
            cases tail with
            | nil | cons => exact fed

/-- Reading until the end of file returns the outputs of the run over the
chunks. -/
lemma reads_of_chunkRun :
    ∀ {outputs : List δ} (self : DatagramDecoder σ),
      StepMachine.ChunkRun machine good self.decoder self.queue final outputs →
      Reads machine self outputs ⟨final, [], []⟩ := by
  intro outputs
  induction outputs with
  | nil =>
    intro self run
    rcases read_of_chunkRun self rfl run with ⟨-, stopped⟩ | ⟨_, _, _, shape, _⟩
    · exact .eof stopped
    · cases shape
  | cons _ _ ih =>
    intro self run
    rcases read_of_chunkRun self rfl run with ⟨shape, -⟩ | ⟨_, _, _, shape, returned, rest⟩
    · cases shape
    · cases shape
      exact .datagram returned (ih _ rest)

/-- Through local states the datagrams read do not depend on the chunks. -/
lemma reads_of_run (isLocal : machine.Local good)
    (run : machine.Run good state chunks.flatten final outputs) :
    Reads machine (start state chunks) outputs (start final []) :=
  reads_of_chunkRun _ (run.chunks isLocal)

end DatagramDecoder

end HttpDownstream

end TrustTunnel.Endpoint
