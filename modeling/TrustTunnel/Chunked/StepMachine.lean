import Mathlib.Data.List.Basic
import Mathlib.Tactic.Common

/-!
# Machines that are fed a stream piece by piece

A decoder of a byte stream is a loop: while unread data is left, one turn looks
at the state and the data, may complete an output, and hands back the data it
did not read. The stream reaches the loop cut into chunks at arbitrary places.

The loop is total because every turn shortens the data or, reading nothing,
lowers a rank of the state. A machine is *local* on a set of states when data
that arrives later never changes what a turn already did: the turn either keeps
its result and passes the new data on, or was waiting and continues as if the
data had been there from the start. Runs through local states do not depend on
how the stream was cut.
-/

namespace TrustTunnel.Chunked

/-- What one turn of a decoding loop leaves behind. -/
structure Turn (σ ο α : Type) where
  state : σ
  output : Option ο
  tail : List α

/-- A decoding loop body, with the measure that makes the loop terminate. -/
structure StepMachine (σ α ο φ : Type) where
  step : σ → List α → Except φ (Turn σ ο α)
  rank : σ → Nat
  progress : ∀ {state : σ} {data : List α} {turn : Turn σ ο α},
    data ≠ [] → step state data = .ok turn →
      turn.tail.length < data.length ∨ turn.tail.length = data.length ∧ rank turn.state < rank state

namespace StepMachine

variable {σ α ο φ : Type} (machine : StepMachine σ α ο φ)

variable {turn : Turn σ ο α} {data : List α}

lemma progress_lex {state : σ} (nonempty : data ≠ []) (taken : machine.step state data = .ok turn) :
    Prod.Lex (· < ·) (· < ·) (turn.tail.length, machine.rank turn.state)
      (data.length, machine.rank state) := by
  rcases machine.progress nonempty taken with shorter | ⟨equal, lower⟩
  · exact Prod.Lex.left _ _ shorter
  · rw [equal]
    exact Prod.Lex.right _ lower

/-- The loop that keeps taking turns until the data is used up, collecting
every output. -/
def drain (state : σ) (data : List α) : Except φ (σ × List ο) :=
  match data with
  | [] => .ok (state, [])
  | head :: rest =>
    match _taken : machine.step state (head :: rest) with
    | .error fault => .error fault
    | .ok turn =>
      match drain turn.state turn.tail with
      | .error fault => .error fault
      | .ok (final, outputs) => .ok (final, turn.output.toList ++ outputs)
termination_by (data.length, machine.rank state)
decreasing_by exact machine.progress_lex (by simp) _taken

/-- The loop that stops at the first output and hands back the unread tail; no
output means that the data is used up. -/
def next (state : σ) (data : List α) : Except φ (σ × Option (ο × List α)) :=
  match data with
  | [] => .ok (state, none)
  | head :: rest =>
    match _taken : machine.step state (head :: rest) with
    | .error fault => .error fault
    | .ok ⟨nextState, some output, tail⟩ => .ok (nextState, some (output, tail))
    | .ok ⟨nextState, none, tail⟩ => next nextState tail
termination_by (data.length, machine.rank state)
decreasing_by exact machine.progress_lex (by simp) _taken

/-! ## Runs -/

/-- A run of the loop over `data`, every turn of which starts in a `good`
state. -/
inductive Run (good : σ → Prop) : σ → List α → σ → List ο → Prop where
  | done (state : σ) : Run good state [] state []
  | turn {state final : σ} {data : List α} {turn : Turn σ ο α}
      {outputs : List ο} (nonempty : data ≠ []) (isGood : good state)
      (taken : machine.step state data = .ok turn)
      (rest : Run good turn.state turn.tail final outputs) :
      Run good state data final (turn.output.toList ++ outputs)

namespace Run

variable {machine} {good better : σ → Prop}
variable {state final : σ} {data : List α} {outputs : List ο}

lemma mono (weaker : ∀ state, better state → good state)
    (run : machine.Run better state data final outputs) :
    machine.Run good state data final outputs := by
  induction run with
  | done state => exact .done state
  | turn nonempty isGood taken _ ih => exact .turn nonempty (weaker _ isGood) taken ih

lemma silent {next : σ} {tail : List α} (nonempty : data ≠ []) (isGood : good state)
    (taken : machine.step state data = .ok ⟨next, none, tail⟩)
    (rest : machine.Run good next tail final outputs) : machine.Run good state data final outputs :=
  .turn nonempty isGood taken rest

lemma drain_eq (run : machine.Run good state data final outputs) :
    machine.drain state data = .ok (final, outputs) := by
  induction run with
  | done => rw [drain]
  | @turn state final data turn outputs nonempty isGood taken rest ih =>
    cases data with
    | nil => exact absurd rfl nonempty
    | cons =>
      rw [drain]
      split
      next fault failed => rw [failed] at taken; cases taken
      next turn' taken' =>
        rw [taken'] at taken
        cases taken
        rw [ih]

/-- A turn ends the loop with its output, or the loop goes on behind it. -/
lemma next_of_step (nonempty : data ≠ []) (taken : machine.step state data = .ok turn) :
    machine.next state data =
      match turn.output with
      | some output => .ok (turn.state, some (output, turn.tail))
      | none => machine.next turn.state turn.tail := by
  cases data with
  | nil => exact absurd rfl nonempty
  | cons =>
    rw [next]
    split
    next fault failed => rw [failed] at taken; cases taken
    next output tail taken' => rw [taken'] at taken; cases taken; rfl
    next nextState tail taken' => rw [taken'] at taken; cases taken; rfl

/-- A silent run uses up the data without stopping. -/
lemma next_eq_none (run : machine.Run good state data final outputs) (quiet : outputs = []) :
    machine.next state data = .ok (final, none) := by
  induction run with
  | done => rw [next]
  | @turn state final data turn outputs nonempty isGood taken rest ih =>
    simp only [List.append_eq_nil_iff, Option.toList_eq_nil_iff] at quiet
    rw [next_of_step nonempty taken, quiet.1]
    exact ih quiet.2

/-- A run with outputs stops at the first one, and goes on from the tail that
was handed back. -/
lemma next_eq_some (run : machine.Run good state data final outputs)
    {first : ο} {others : List ο} (shape : outputs = first :: others) :
    ∃ middle tail, machine.next state data = .ok (middle, some (first, tail)) ∧
      machine.Run good middle tail final others := by
  induction run with
  | done => cases shape
  | @turn state final data turn outputs nonempty isGood taken rest ih =>
    rw [next_of_step nonempty taken]
    cases output : turn.output with
    | none =>
      rw [output] at shape
      exact ih shape
    | some =>
      simp only [output, Option.toList_some, List.singleton_append, List.cons.injEq] at shape
      obtain ⟨rfl, rfl⟩ := shape
      exact ⟨turn.state, turn.tail, rfl, rest⟩

end Run

/-! ## Locality and independence of segmentation -/

/-- In a `good` state a turn never faults, and data that arrives later does not
change what the turn did: it stays the same turn with a longer tail, or it was
waiting for more and is resumed by the data behind it. -/
structure Local (good : σ → Prop) : Prop where
  total : ∀ {state : σ} {data : List α}, good state → data ≠ [] →
    ∃ turn, machine.step state data = .ok turn
  split : ∀ {state : σ} {front : List α} {turn : Turn σ ο α} (back : List α),
    good state → front ≠ [] → back ≠ [] →
    machine.step state front = .ok turn →
      machine.step state (front ++ back) = .ok ⟨turn.state, turn.output, turn.tail ++ back⟩ ∨
        (turn.output = none ∧ turn.tail = [] ∧ good turn.state ∧
          machine.step state (front ++ back) = machine.step turn.state back)

variable {machine} {good : σ → Prop}

/-- A run over data that arrives in two parts is a run over the first part
followed by a run over the second. -/
lemma Run.split (isLocal : machine.Local good) {state final : σ} {outputs : List ο}
    (run : machine.Run good state data final outputs) :
    ∀ {front back : List α}, data = front ++ back →
      ∃ middle before after, machine.Run good state front middle before ∧
        machine.Run good middle back final after ∧ outputs = before ++ after := by
  induction run with
  | done state =>
    intro front back shape
    obtain ⟨rfl, rfl⟩ := List.append_eq_nil_iff.mp shape.symm
    exact ⟨state, [], [], .done state, .done state, rfl⟩
  | @turn state final data turn outputs nonempty isGood taken rest ih =>
    intro front back shape
    subst shape
    by_cases frontEmpty : front = []
    · subst frontEmpty
      exact ⟨state, [], _, .done state, .turn nonempty isGood taken rest, rfl⟩
    by_cases backEmpty : back = []
    · subst backEmpty
      rw [List.append_nil] at taken
      refine ⟨final, _, [], .turn frontEmpty isGood taken rest, .done final, ?_⟩
      simp
    obtain ⟨frontTurn, frontTaken⟩ := isLocal.total isGood frontEmpty
    rcases isLocal.split back isGood frontEmpty backEmpty frontTaken with
      kept | ⟨quiet, used, waitGood, resumed⟩
    · rw [kept] at taken
      cases taken
      obtain ⟨middle, before, after, beforeRun, afterRun, equal⟩ := ih rfl
      refine ⟨middle, _, after, .turn frontEmpty isGood frontTaken beforeRun, afterRun, ?_⟩
      rw [equal, List.append_assoc]
    · rw [resumed] at taken
      have waited : machine.Run good state front frontTurn.state
          (frontTurn.output.toList ++ []) := by
        refine .turn frontEmpty isGood frontTaken ?_
        rw [used]
        exact .done _
      rw [quiet] at waited
      exact ⟨frontTurn.state, [], _, waited, .turn backEmpty waitGood taken rest, rfl⟩

/-- Successive runs over the chunks of a stream. -/
inductive ChunkRun (machine : StepMachine σ α ο φ) (good : σ → Prop) :
    σ → List (List α) → σ → List ο → Prop where
  | done (state : σ) : ChunkRun machine good state [] state []
  | chunk {state middle final : σ} {chunk : List α} {chunks : List (List α)}
      {before after : List ο} (run : machine.Run good state chunk middle before)
      (rest : ChunkRun machine good middle chunks final after) :
      ChunkRun machine good state (chunk :: chunks) final (before ++ after)

/-- Through local states, feeding a stream chunk by chunk is feeding it whole. -/
lemma Run.chunks (isLocal : machine.Local good) :
    ∀ {chunks : List (List α)} {state final : σ} {outputs : List ο},
      machine.Run good state chunks.flatten final outputs →
        ChunkRun machine good state chunks final outputs := by
  intro chunks
  induction chunks with
  | nil =>
    intro state final outputs run
    cases run with
    | done => exact .done _
    | turn nonempty => exact absurd rfl nonempty
  | cons _ _ ih =>
    intro state final outputs run
    obtain ⟨middle, before, after, beforeRun, afterRun, rfl⟩ := run.split isLocal rfl
    exact .chunk beforeRun (ih afterRun)

/-- A machine that takes a turn from every good state to a good state runs over any
data. -/
lemma Run.exists_of_closed
    (closed : ∀ {state : σ} {data : List α}, good state → data ≠ [] →
      ∃ turn, machine.step state data = .ok turn ∧ good turn.state)
    (state : σ) (data : List α) (isGood : good state) :
    ∃ final outputs, machine.Run good state data final outputs ∧ good final := by
  by_cases empty : data = []
  · subst empty
    exact ⟨state, [], .done state, isGood⟩
  · obtain ⟨turn, taken, nextGood⟩ := closed isGood empty
    obtain ⟨final, outputs, run, finalGood⟩ := Run.exists_of_closed closed _ _ nextGood
    exact ⟨final, _, .turn empty isGood taken run, finalGood⟩
termination_by (data.length, machine.rank state)
decreasing_by exact machine.progress_lex empty taken

end StepMachine

/-!
## Simulation of step machines

A machine whose state carries more than the decoding itself needs is compared
with a leaner one through a view of its state. Whatever the lean machine does
in a good state, the other one does too, so runs carry over.
-/

namespace StepMachine

variable {σ τ α ο ρ φ ψ : Type}

/-- In states with the invariant, `concrete` takes the turns of `lean`, seen through
`view`, with its outputs rendered. -/
structure Simulates (concrete : StepMachine σ α ρ φ) (lean : StepMachine τ α ο ψ)
    (good : τ → Prop) (inv : σ → Prop) (view : σ → τ) (render : ο → ρ) : Prop where
  step : ∀ {state : σ} {data : List α} {turn : Turn τ ο α},
    inv state → good (view state) → data ≠ [] → lean.step (view state) data = .ok turn →
      ∃ next, concrete.step state data = .ok ⟨next, turn.output.map render, turn.tail⟩ ∧
        inv next ∧ view next = turn.state

variable {concrete : StepMachine σ α ρ φ} {lean : StepMachine τ α ο ψ}
variable {good : τ → Prop} {inv : σ → Prop} {view : σ → τ} {render : ο → ρ}

/-- A run of the lean machine is a run of the one that simulates it. -/
lemma Simulates.run (simulates : Simulates concrete lean good inv view render)
    {start final : τ} {data : List α} {outputs : List ο}
    (run : lean.Run good start data final outputs) :
    ∀ {state : σ}, inv state → view state = start →
      ∃ last, concrete.Run inv state data last (outputs.map render) ∧ inv last ∧
        view last = final := by
  induction run with
  | done =>
    intro state holds seen
    exact ⟨state, .done state, holds, seen⟩
  | turn nonempty isGood taken _ ih =>
    intro state holds seen
    subst seen
    obtain ⟨next, nextTaken, nextHolds, nextSeen⟩ := simulates.step holds isGood nonempty taken
    obtain ⟨last, rest, lastHolds, lastSeen⟩ := ih nextHolds nextSeen
    have whole := Run.turn nonempty holds nextTaken rest
    refine ⟨last, ?_, lastHolds, lastSeen⟩
    rw [List.map_append, ← Option.toList_map]
    exact whole

end StepMachine

end TrustTunnel.Chunked
