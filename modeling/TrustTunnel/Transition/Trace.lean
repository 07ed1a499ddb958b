import Mathlib.Logic.Basic

/-!
# Properties along a run

A system is a step function on its states; a run feeds it a list of events. When
the effect of every step on an invariant is known exactly, so is the set of runs
along which the invariant never fails.
-/

namespace TrustTunnel.Transition

variable {σ ε : Type} (step : σ → ε → σ)

/-- The property holds at the start of the run and after each of its events. -/
def Always (property : σ → Prop) : σ → List ε → Prop
  | state, [] => property state
  | state, event :: events => property state ∧ Always property (step state event) events

/-- Each event of the run meets a condition on the state before it. -/
def EachStep (condition : σ → ε → Prop) : σ → List ε → Prop
  | _, [] => True
  | state, event :: events => condition state event ∧ EachStep condition (step state event) events

/-- A condition that can be decided for an event can be decided for a run. -/
instance EachStep.decidable (condition : σ → ε → Prop)
    [deciding : ∀ state event, Decidable (condition state event)] :
    (state : σ) → (events : List ε) → Decidable (EachStep step condition state events)
  | _, [] => .isTrue trivial
  | state, event :: events =>
    @instDecidableAnd _ _ (deciding state event)
      (EachStep.decidable condition (step state event) events)

variable {step} {property : σ → Prop} {condition : σ → ε → Prop}

variable {state : σ} {events : List ε} {left right : σ → ε → Prop}

section

variable (always : Always step property state events)

include always

lemma Always.head : property state := by
  cases events with
  | nil => exact always
  | cons => exact always.1

lemma Always.last : property (events.foldl step state) := by
  induction events generalizing state with
  | nil => exact always
  | cons _ _ ih => exact ih always.2

lemma Always.imp {weaker : σ → Prop} (implies : ∀ state, property state → weaker state) :
    Always step weaker state events := by
  induction events generalizing state with
  | nil => exact implies state always
  | cons _ _ ih => exact ⟨implies state always.1, ih always.2⟩

end

lemma Always.and {other : σ → Prop} (first : Always step property state events)
    (second : Always step other state events) :
    Always step (fun state => property state ∧ other state) state events := by
  induction events generalizing state with
  | nil => exact ⟨first, second⟩
  | cons _ _ ih => exact ⟨⟨first.1, second.1⟩, ih first.2 second.2⟩

/-- An invariant that a step keeps exactly under a condition holds along exactly the runs
whose steps meet the condition. -/
lemma always_iff_eachStep
    (exactly : ∀ {state : σ} {event : ε}, property state →
      (property (step state event) ↔ condition state event))
    (holds : property state) (events : List ε) :
    Always step property state events ↔ EachStep step condition state events := by
  induction events generalizing state with
  | nil => exact iff_of_true holds trivial
  | cons _ _ ih =>
    constructor
    · intro always
      have next := always.2.head
      exact ⟨(exactly holds).mp next, (ih next).mp always.2⟩
    · intro steps
      have next := (exactly holds).mpr steps.1
      exact ⟨holds, (ih next).mpr steps.2⟩

/-- What every step does in a state where an invariant holds, along a run whose steps keep
the invariant. -/
lemma EachStep.of_invariant {effect : σ → ε → Prop}
    (keeps : ∀ {state : σ} {event : ε}, property state → condition state event →
      property (step state event))
    (effects : ∀ {state : σ} {event : ε}, property state → condition state event →
      effect state event)
    (holds : property state) (steps : EachStep step condition state events) :
    EachStep step effect state events := by
  induction events generalizing state with
  | nil => trivial
  | cons _ _ ih => exact ⟨effects holds steps.1, ih (keeps holds steps.1) steps.2⟩

/-- A property that an invariant implies holds along every run whose steps keep the
invariant. -/
lemma Always.of_invariant (invariant : σ → Prop)
    (keeps : ∀ {state : σ} {event : ε}, invariant state → condition state event →
      invariant (step state event))
    (implies : ∀ {state : σ}, invariant state → property state) (holds : invariant state)
    (steps : EachStep step condition state events) : Always step property state events := by
  induction events generalizing state with
  | nil => exact implies holds
  | cons _ _ ih => exact ⟨implies holds, ih (keeps holds steps.1) steps.2⟩

lemma eachStep_append {front back : List ε} :
    EachStep step condition state (front ++ back) ↔
      EachStep step condition state front ∧
        EachStep step condition (front.foldl step state) back := by
  induction front generalizing state with
  | nil => simp [EachStep]
  | cons _ _ ih => exact (and_congr_right' ih).trans and_assoc.symm

lemma EachStep.imp {weaker : σ → ε → Prop}
    (implies : ∀ state event, condition state event → weaker state event)
    (steps : EachStep step condition state events) : EachStep step weaker state events := by
  induction events generalizing state with
  | nil => trivial
  | cons event _ ih => exact ⟨implies state event steps.1, ih steps.2⟩

lemma EachStep.and (first : EachStep step left state events)
    (second : EachStep step right state events) :
    EachStep step (fun state event => left state event ∧ right state event) state events := by
  induction events generalizing state with
  | nil => trivial
  | cons _ _ ih => exact ⟨⟨first.1, second.1⟩, ih first.2 second.2⟩

/-- Conditions that are equivalent for every step are so for every run. -/
lemma eachStep_congr (same : ∀ state event, left state event ↔ right state event) :
    EachStep step left state events ↔ EachStep step right state events :=
  ⟨.imp fun state event => (same state event).mp, .imp fun state event => (same state event).mpr⟩

lemma eachStep_of_forall {condition : ε → Prop} (state : σ)
    (all : ∀ event ∈ events, condition event) :
    EachStep step (fun _ => condition) state events := by
  induction events generalizing state with
  | nil => trivial
  | cons event _ ih => exact ⟨all event (.head _), ih _ fun other mem => all other (.tail _ mem)⟩

lemma eachStep_true (state : σ) (events : List ε) : EachStep step (fun _ _ => True) state events :=
  eachStep_of_forall state fun _ _ => trivial

end TrustTunnel.Transition
