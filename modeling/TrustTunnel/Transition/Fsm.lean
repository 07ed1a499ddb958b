import Mathlib.Data.List.Basic

/-!
# State machines driven by a table

A row of the table applies in one state, or in any, to one event; of the rows that apply the
first one whose condition holds is taken. Conditions and actions are named by arbitrary types
and interpreted on the context of the machine, of which the state is a part.
-/

namespace TrustTunnel.Transition

/-- A row of a transition table; no source means any state, no target the same state. -/
structure Entry (σ ε γ α : Type) where
  source : Option σ
  event : ε
  condition : γ
  before : α
  target : Option σ
  after : α

/-- A table, and what its names mean for a context and the data of an event. -/
structure Fsm (σ ε γ α χ δ : Type) where
  table : List (Entry σ ε γ α)
  holds : γ → χ → δ → Bool
  act : α → χ → δ → χ
  state : χ → σ
  moveTo : χ → σ → χ

namespace Fsm

variable {σ ε γ α χ δ : Type} [DecidableEq σ] [DecidableEq ε] (fsm : Fsm σ ε γ α χ δ)

/-- The rows that apply to an event in a state, in their order. -/
def rows (state : σ) (event : ε) : List (Entry σ ε γ α) := fsm.table.filter fun entry =>
    (entry.source = none ∨ entry.source = some state) ∧ entry.event = event

/-- The row that is taken. -/
def select (context : χ) (event : ε) (data : δ) : Option (Entry σ ε γ α) :=
  (fsm.rows (fsm.state context) event).find? fun entry => fsm.holds entry.condition context data

/-- Do what a row says. -/
def fire (context : χ) (data : δ) (entry : Entry σ ε γ α) : χ :=
  let acted := fsm.act entry.before context data
  fsm.act entry.after (entry.target.elim acted (fsm.moveTo acted)) data

def performTransition (context : χ) (event : ε) (data : δ) : χ :=
  (fsm.select context event data).elim context (fsm.fire context data)

variable {fsm} {context : χ} {event : ε} {data : δ} {entry : Entry σ ε γ α}

/-- The conditions of the rows in front of the one that is taken do not hold. -/
lemma not_holds_of_select (selected : fsm.select context event data = some entry)
    {front back : List (Entry σ ε γ α)}
    (split : fsm.rows (fsm.state context) event = front ++ back) (behind : entry ∉ front) :
    ∀ earlier ∈ front, fsm.holds earlier.condition context data = false := by
  rw [select, split, List.find?_append, Option.or_eq_some_iff] at selected
  rcases selected with inFront | ⟨none, -⟩
  · exact absurd (List.mem_of_find?_eq_some inFront) behind
  · intro earlier mem
    simpa using List.find?_eq_none.mp none earlier mem

lemma performTransition_of_select (selected : fsm.select context event data = some entry) :
    fsm.performTransition context event data = fsm.fire context data entry := by
  rw [performTransition, selected, Option.elim_some]

lemma performTransition_of_select_none (none : fsm.select context event data = none) :
    fsm.performTransition context event data = context := by
  rw [performTransition, none, Option.elim_none]

end Fsm

end TrustTunnel.Transition
