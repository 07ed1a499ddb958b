import TrustTunnel.Endpoint.ReverseProxy

/-!
# Two directions of a pipe

A duplex pipe runs two simplex pipes side by side. It is done when both sources have
ended, and fails when one of the directions fails. The schedule says which direction goes
on next, and when a call fails or takes too long.
-/

namespace TrustTunnel.Endpoint

open ReverseProxy

variable {σ τ : Type}

/-- One direction of a duplex pipe, with what its source does after the last chunk. -/
structure HalfPipe (σ : Type) where
  pipe : SimplexPipe σ
  ending : Ending
  finished : Bool

namespace HalfPipe

/-- A direction at its start. -/
def new (sink : σ) (reads : List Bytes) (ending : Ending) : HalfPipe σ where
  pipe := .new sink reads
  ending := ending
  finished := false

/-- One round of the loop of `SimplexPipe::exchange`, with the end of the source. -/
def round (ops : Sink σ) (eof : σ → σ) (self : HalfPipe σ) : Except Failure (HalfPipe σ) :=
  if self.finished then .ok self
  else
    match self.pipe.step ops with
    | some pipe =>
      match pipe.failure with
      | some failure => .error failure
      | none => .ok { self with pipe }
    | none =>
      match self.ending with
      | .keepsOpen => .ok self
      | .closes =>
        .ok { self with
          pipe := { self.pipe with sink := eof self.pipe.sink }
          finished := true }
      | .fails error => .error (.io error)

/-- What a round comes to. -/
inductive Turn (ops : Sink σ) (eof : σ → σ) (before : HalfPipe σ) :
    Except Failure (HalfPipe σ) → Prop where
  | idle : Turn ops eof before (.ok before)
  | step {pipe : SimplexPipe σ} (unfinished : before.finished = false)
      (steps : before.pipe.step ops = some pipe) (runs : pipe.failure = none) :
      Turn ops eof before (.ok { before with pipe })
  | failed {pipe : SimplexPipe σ} {failure : Failure}
      (steps : before.pipe.step ops = some pipe) (fails : pipe.failure = some failure) :
      Turn ops eof before (.error failure)
  | ended (halts : before.pipe.step ops = none) :
      Turn ops eof before (.ok { before with
        pipe := { before.pipe with sink := eof before.pipe.sink }
        finished := true })
  | broken {error : IoError} (halts : before.pipe.step ops = none)
      (ends : before.ending = .fails error) : Turn ops eof before (.error (.io error))

lemma turn_round (ops : Sink σ) (eof : σ → σ) (self : HalfPipe σ) :
    Turn ops eof self (self.round ops eof) := by
  rw [round]
  cases finished : self.finished with
  | true => exact .idle
  | false =>
    rw [if_neg Bool.false_ne_true]
    cases steps : self.pipe.step ops with
    | some pipe =>
      dsimp only
      cases result : pipe.failure with
      | some => exact .failed steps result
      | none => exact finished ▸ .step finished steps result
    | none =>
      dsimp only
      split
      · exact .idle
      · exact .ended steps
      · rename_i error ends
        exact .broken steps ends

lemma ending_round {ops : Sink σ} {eof : σ → σ} {self next : HalfPipe σ}
    (rounds : self.round ops eof = .ok next) : next.ending = self.ending := by
  have turn := turn_round ops eof self
  rw [rounds] at turn
  cases turn with
  | idle | step | ended => rfl

end HalfPipe

/-- The sinks of a duplex pipe. -/
structure DuplexSinks (σ τ : Type) where
  left : Sink σ
  leftEof : σ → σ
  right : Sink τ
  rightEof : τ → τ

structure DuplexPipe (σ τ : Type) where
  left : HalfPipe σ
  right : HalfPipe τ

inductive PipeEvent where
  | left
  | right
  /-- Nothing has happened for too long. -/
  | timesOut
  /-- A call on one of the sources or sinks fails. -/
  | fails (error : IoError)

namespace DuplexPipe

variable (sinks : DuplexSinks σ τ)

def step (self : DuplexPipe σ τ) : PipeEvent → Except Failure (DuplexPipe σ τ)
  | .left => do return { self with left := ← self.left.round sinks.left sinks.leftEof }
  | .right => do return { self with right := ← self.right.round sinks.right sinks.rightEof }
  | .timesOut => .error (.io (.ofKind .timedOut))
  | .fails error => .error (.io error)

/-- `DuplexPipe::exchange`: the last state, and the result when there is one. -/
def exchange (self : DuplexPipe σ τ) :
    List PipeEvent → DuplexPipe σ τ × Option (Except Failure Unit)
  | [] => (self, none)
  | event :: events =>
    match self.step sinks event with
    | .error failure => (self, some (.error failure))
    | .ok next =>
      if next.left.finished ∧ next.right.finished then (next, some (.ok ()))
      else next.exchange events

variable {sinks} {self : DuplexPipe σ τ} {events : List PipeEvent} {failure : Failure}

/-- What a round of either direction keeps, an exchange keeps. -/
lemma exchange_keeps {property : DuplexPipe σ τ → Prop}
    (left : ∀ {self : DuplexPipe σ τ} {half : HalfPipe σ}, property self →
      self.left.round sinks.left sinks.leftEof = .ok half → property { self with left := half })
    (right : ∀ {self : DuplexPipe σ τ} {half : HalfPipe τ}, property self →
      self.right.round sinks.right sinks.rightEof = .ok half → property { self with right := half })
    (initial : property self) (events : List PipeEvent) :
    property (self.exchange sinks events).1 := by
  have kept {self next : DuplexPipe σ τ} {event : PipeEvent} (holds : property self)
      (steps : self.step sinks event = .ok next) : property next := by
    cases event with
    | left =>
      obtain ⟨half, rounds, ends⟩ := bind_eq_ok.mp steps
      cases ends
      exact left holds rounds
    | right =>
      obtain ⟨half, rounds, ends⟩ := bind_eq_ok.mp steps
      cases ends
      exact right holds rounds
    | timesOut | fails => cases steps
  fun_induction self.exchange sinks events with
  | case1 | case2 => exact initial
  | case3 _ _ _ _ steps => exact kept initial steps
  | case4 _ _ _ _ steps _ ih => exact ih (kept initial steps)

/-- An exchange is done when both directions have finished. -/
lemma finished_of_exchange (done : (self.exchange sinks events).2 = some (.ok ())) :
    (self.exchange sinks events).1.left.finished = true := by
  fun_induction self.exchange sinks events with
  | case1 | case2 => cases done
  | case3 _ _ _ _ _ both => exact both.1
  | case4 _ _ _ _ _ _ ih => exact ih done

lemma failure_of_step {event : PipeEvent} (stops : self.step sinks event = .error failure) :
    failure = .io (.ofKind .timedOut) ∨ (∃ error, event = .fails error ∧ failure = .io error) ∨
      self.left.round sinks.left sinks.leftEof = .error failure ∨
      self.right.round sinks.right sinks.rightEof = .error failure := by
  cases event with
  | left =>
    cases rounds : self.left.round _ _ with
    | error =>
      rw [step, rounds] at stops
      cases stops
      exact .inr (.inr (.inl rfl))
    | ok =>
      rw [step, rounds] at stops
      cases stops
  | right =>
    cases rounds : self.right.round _ _ with
    | error =>
      rw [step, rounds] at stops
      cases stops
      exact .inr (.inr (.inr rfl))
    | ok =>
      rw [step, rounds] at stops
      cases stops
  | timesOut =>
    cases stops
    exact .inl rfl
  | fails error =>
    cases stops
    exact .inr (.inl ⟨error, rfl, rfl⟩)

lemma failure_of_exchange (fails : (self.exchange sinks events).2 = some (.error failure)) :
    failure = .io (.ofKind .timedOut) ∨ (∃ error, .fails error ∈ events ∧ failure = .io error) ∨
      (self.exchange sinks events).1.left.round sinks.left sinks.leftEof = .error failure ∨
      (self.exchange sinks events).1.right.round sinks.right sinks.rightEof = .error failure := by
  fun_induction self.exchange sinks events with
  | case1 | case3 => cases fails
  | case2 _ _ _ _ steps =>
    cases fails
    rcases failure_of_step steps with late | ⟨error, rfl, same⟩ | rounds
    · exact .inl late
    · exact .inr (.inl ⟨error, List.mem_cons_self, same⟩)
    · exact .inr (.inr rounds)
  | case4 _ _ _ _ _ _ ih =>
    rcases ih fails with late | ⟨error, mem, same⟩ | rounds
    · exact .inl late
    · exact .inr (.inl ⟨error, List.mem_cons_of_mem _ mem, same⟩)
    · exact .inr (.inr rounds)

end DuplexPipe

end TrustTunnel.Endpoint
