import Mathlib.Computability.StateTransition
import TrustTunnel.Chunked.Boundaries
import TrustTunnel.Endpoint.IoError

/-!
# One direction of a pipe

The pipe reads chunks from its source and writes them to a sink. What the sink
does not take is offered again once the sink is writable.
-/

namespace TrustTunnel.Endpoint

open Chunked StateTransition

/-- `pipe::Sink`: a write returns the unsent portion of the data. -/
structure Sink (σ : Type) where
  write : σ → Bytes → Except Failure Bytes × σ
  waitWritable : σ → Except Failure Unit × σ

/-- The pipe, with the chunks that its source is going to deliver. -/
structure SimplexPipe (σ : Type) where
  sink : σ
  pendingChunk : Option Bytes
  reads : List Bytes
  failure : Option Failure

namespace SimplexPipe

variable {σ : Type} (ops : Sink σ)

def new (sink : σ) (reads : List Bytes) : SimplexPipe σ where
  sink := sink
  pendingChunk := none
  reads := reads
  failure := none

/-- Write a chunk and keep what was not sent. -/
def send (self : SimplexPipe σ) (data : Bytes) : SimplexPipe σ :=
  match ops.write self.sink data with
  | (.error failure, sink) => { self with sink, failure := some failure }
  | (.ok [], sink) => { self with sink, pendingChunk := none }
  | (.ok unsent, sink) => { self with sink, pendingChunk := some unsent }

/-- One round of the loop of `SimplexPipe::exchange`; there is none after a failure or
when there is nothing more to read. -/
def step (self : SimplexPipe σ) : Option (SimplexPipe σ) :=
  match self.failure, self.pendingChunk, self.reads with
  | some _, _, _ => none
  | none, some data, _ =>
    match ops.waitWritable self.sink with
    | (.error failure, sink) => some { self with sink, failure := some failure }
    | (.ok _, sink) => some (send ops { self with sink, pendingChunk := none } data)
  | none, none, data :: reads => some (send ops { self with reads } data)
  | none, none, [] => none

/-- The end of the source is passed on to the sink. -/
def finish (eof : σ → Except Failure Unit × σ) (self : SimplexPipe σ) : SimplexPipe σ :=
  match eof self.sink with
  | (.error failure, sink) => { self with sink, failure := some failure }
  | (.ok _, sink) => { self with sink }

/-- Where the exchange ends up, if it ends. -/
def drive (sink : σ) (reads : List Bytes) : Part (SimplexPipe σ) := eval (step ops) (new sink reads)

variable {ops} {self : SimplexPipe σ} {sink after : σ} {data tail : Bytes} {reads : List Bytes}
  {self next : SimplexPipe σ}

/-- A pipe that runs goes on as long as there is something to send. -/
lemma idle_of_step_eq_none (runs : self.failure = none)
    (halts : step ops self = none) : self.pendingChunk = none ∧ self.reads = [] := by
  obtain ⟨sink, pending, reads, failure⟩ := self
  cases runs
  cases pending with
  | some =>
    simp only [step] at halts
    split at halts
    · cases halts
    · cases halts
  | none =>
    cases reads with
    | nil => exact ⟨rfl, rfl⟩
    | cons => cases halts

lemma runs_of_step (write : ∀ sink data, ∃ unsent, (ops.write sink data).1 = .ok unsent)
    (wait : ∀ sink, (ops.waitWritable sink).1 = .ok ()) (runs : self.failure = none)
    (steps : step ops self = some next) : next.failure = none := by
  have sends (pipe : SimplexPipe σ) (data : Bytes) (runs : pipe.failure = none) :
      (send ops pipe data).failure = none := by
    obtain ⟨unsent, sent⟩ := write pipe.sink data
    rw [send]
    split
    · rename_i fails
      rw [fails] at sent
      cases sent
    · exact runs
    · exact runs
  obtain ⟨sink, pending, reads, failure⟩ := self
  cases runs
  cases pending with
  | some =>
    have waits := wait sink
    simp only [step] at steps
    split at steps
    · rename_i fails
      rw [fails] at waits
      cases waits
    · cases steps
      exact sends _ _ rfl
  | none =>
    cases reads with
    | nil => cases steps
    | cons =>
      cases steps
      exact sends _ _ rfl

lemma eval_of_step_eq_none (halts : step ops self = none) : eval (step ops) self = .some self :=
  Part.eq_some_iff.mpr (mem_eval.mpr ⟨.refl, halts⟩)

lemma eval_of_step_eq_some (steps : step ops self = some next) :
    eval (step ops) self = eval (step ops) next :=
  reaches_eval (.single steps)

variable (ops) in
/-- The first rounds of the exchange, or all of them if there are fewer. -/
def rounds : Nat → SimplexPipe σ → SimplexPipe σ
  | 0, self => self
  | count + 1, self =>
    match step ops self with
    | none => self
    | some next => rounds count next

lemma eval_of_rounds (count : Nat) (halts : (step ops (rounds ops count self)).isNone = true) :
    eval (step ops) self = .some (rounds ops count self) := by
  induction count generalizing self with
  | zero => exact eval_of_step_eq_none (Option.isNone_iff_eq_none.mp halts)
  | succ _ ih =>
    rw [rounds] at halts ⊢
    cases steps : step ops self with
    | none => exact eval_of_step_eq_none steps
    | some =>
      rw [steps] at halts
      exact (eval_of_step_eq_some steps).trans (ih halts)

lemma drive_nil : drive ops sink [] = .some (new sink []) := eval_of_step_eq_none rfl

variable {failure : Failure}

lemma drive_cons_error (fails : ops.write sink data = (.error failure, after)) :
    drive ops sink (data :: reads) = .some ⟨after, none, reads, some failure⟩ := by
  have steps : step ops (new sink (data :: reads)) = some ⟨after, none, reads, some failure⟩ := by
    simp only [step, new, send, fails]
  exact (eval_of_step_eq_some steps).trans (eval_of_step_eq_none rfl)

lemma drive_cons_nil (writes : ops.write sink data = (.ok [], after)) :
    drive ops sink (data :: reads) = drive ops after reads := by
  have steps : step ops (new sink (data :: reads)) = some (new after reads) := by
    simp only [step, new, send, writes]
  exact eval_of_step_eq_some steps

section

variable (writes : ops.write sink data = (.ok tail, after)) (unsent : tail ≠ [])

include writes unsent

lemma step_cons_tail :
    step ops (new sink (data :: reads)) = some ⟨after, some tail, reads, none⟩ := by
  cases tail with
  | nil => exact absurd rfl unsent
  | cons => simp only [step, new, send, writes]

/-- The unsent part of a chunk is offered as if it was the next chunk. -/
lemma drive_cons_tail {writable : σ} (waits : ops.waitWritable after = (.ok (), writable)) :
    drive ops sink (data :: reads) = drive ops writable (tail :: reads) := by
  have offers : step ops ⟨after, some tail, reads, none⟩ =
      some (send ops ⟨writable, none, reads, none⟩ tail) := by
    simp only [step, waits]
  have again : step ops (new writable (tail :: reads)) =
      some (send ops ⟨writable, none, reads, none⟩ tail) := rfl
  rw [drive, eval_of_step_eq_some (step_cons_tail writes unsent), eval_of_step_eq_some offers, drive,
    eval_of_step_eq_some again]

/-- The exchange ends when the sink keeps a part of a chunk and cannot be waited for. -/
lemma drive_cons_stuck {stuck : σ} (fails : ops.waitWritable after = (.error failure, stuck)) :
    drive ops sink (data :: reads) = .some ⟨stuck, some tail, reads, some failure⟩ := by
  have stops : step ops ⟨after, some tail, reads, none⟩ =
      some ⟨stuck, some tail, reads, some failure⟩ := by
    simp only [step, fails]
  rw [drive, eval_of_step_eq_some (step_cons_tail writes unsent), eval_of_step_eq_some stops,
    eval_of_step_eq_none rfl]

end

/-- What holds of the sink at the start and is kept by its operations holds at the end. -/
lemma invariant_of_mem_drive {property : σ → Prop}
    (write : ∀ {sink : σ} (data : Bytes), property sink → property (ops.write sink data).2)
    (wait : ∀ {sink : σ}, property sink → property (ops.waitWritable sink).2)
    (initial : property sink) {final : SimplexPipe σ} (ends : final ∈ drive ops sink reads) :
    property final.sink := by
  have sends (self : SimplexPipe σ) (data : Bytes) (holds : property self.sink) :
      property (send ops self data).sink := by
    have kept := write data holds
    rw [send]
    split <;> simp_all
  obtain ⟨reaches, -⟩ := mem_eval.mp ends
  clear ends
  induction reaches with
  | refl => exact initial
  | @tail before next _ steps holds =>
    obtain ⟨current, pending, reads, failure⟩ := before
    cases failure with
    | some => cases steps
    | none =>
      cases pending with
      | some =>
        have kept := wait holds
        simp only [step] at steps
        split at steps
        · cases steps
          simp_all
        · cases steps
          exact sends _ _ (by simp_all)
      | none =>
        cases reads with
        | nil => cases steps
        | cons =>
          cases steps
          exact sends _ _ holds

/-! ## Gathering a text -/

/-- Some states of the sink gather a text that arrives in pieces with more bytes behind
it, and hand back what they got of the bytes behind. -/
structure Gathers (ops : Sink σ) (text rest : Bytes) (waiting : Bytes → σ → Prop)
    (next : σ → Prop) : Prop where
  waits : ∀ {front data back : Bytes} {sink : σ}, front ++ data ++ back = text →
    back ≠ [] → waiting front sink →
    ∃ after, ops.write sink data = (.ok [], after) ∧ waiting (front ++ data) after
  completes : ∀ {front data tail : Bytes} {sink : σ}, front.length < text.length →
    front ++ data = text ++ tail → tail <+: rest → waiting front sink →
    ∃ after, ops.write sink data = (.ok tail, after) ∧ next after ∧
      (tail ≠ [] → ∃ writable, ops.waitWritable after = (.ok (), writable) ∧ next writable)

lemma Gathers.drive_eq {text rest front : Bytes} {waiting : Bytes → σ → Prop}
    {next : σ → Prop} (gathers : Gathers ops text rest waiting next) (starts : waiting front sink)
    (short : front.length < text.length) (arrives : front ++ reads.flatten = text ++ rest) :
    ∃ after left, next after ∧ Remains reads left rest ∧
      drive ops sink reads = drive ops after left := by
  induction reads generalizing front sink with
  | nil =>
    have lengths := congrArg List.length arrives
    simp at lengths
    omega
  | cons data reads ih =>
    rw [List.flatten_cons, ← List.append_assoc] at arrives
    rcases Nat.lt_or_ge _ _ with more | complete
    · obtain ⟨back, rfl, -⟩ := exists_tail_of_append_eq arrives.symm (le_of_lt more)
      have behind : back ≠ [] := by
        rintro rfl
        simp at more
      obtain ⟨after, writes, waits⟩ := gathers.waits rfl behind starts
      obtain ⟨final, left, holds, remains, drives⟩ := ih waits more arrives
      have skipped := Remains.cons data [] reads
      refine ⟨final, left, holds, skipped.trans remains ?_, ?_⟩
      · have lengths := congrArg List.length arrives
        simp at lengths ⊢
        omega
      · rw [drive_cons_nil writes, drives]
    · obtain ⟨tail, joined, later⟩ := exists_tail_of_append_eq arrives complete
      obtain ⟨after, writes, holds, waits⟩ := gathers.completes short joined
        (later ▸ List.prefix_append _ _) starts
      have remains := Remains.cons data tail reads
      rw [later] at remains
      cases tail with
      | nil => exact ⟨after, reads, holds, remains, drive_cons_nil writes⟩
      | cons =>
        obtain ⟨writable, waited, holds⟩ := waits (List.cons_ne_nil _ _)
        exact ⟨writable, _, holds, remains, drive_cons_tail writes (List.cons_ne_nil _ _) waited⟩

end SimplexPipe

end TrustTunnel.Endpoint
