import Mathlib.Data.List.Basic

/-!
# Splits of a list

A list that arrives in pieces, and what is left of the pieces when a part of the
list has been taken off their front.
-/

namespace TrustTunnel.Chunked

open List

variable {α : Type} {piece : List α}

/-- Of two splits of a list, the longer front begins with the shorter one. -/
lemma exists_tail_of_append_eq {long rest short more : List α}
    (joined : long ++ rest = short ++ more) (shorter : short.length ≤ long.length) :
    ∃ tail, long = short ++ tail ∧ tail ++ rest = more := by
  rcases append_eq_append_iff.mp joined with ⟨tail, longer, behind⟩ | ⟨tail, longer, behind⟩
  · have nothing : tail = [] := by
      have lengths := congrArg List.length longer
      rw [length_append] at lengths
      exact length_eq_zero_iff.mp (by omega)
    subst nothing
    exact ⟨[], by simpa using longer.symm, by simpa using behind⟩
  · exact ⟨tail, longer, behind.symm⟩

/-- The places where the pieces end, each given by the number of elements behind it. -/
def boundaries : List (List α) → List Nat
  | [] => []
  | _ :: pieces => pieces.flatten.length :: boundaries pieces

lemma le_of_mem_boundaries_cons {place : Nat} {pieces : List (List α)}
    (mem : place ∈ boundaries (piece :: pieces)) : place ≤ pieces.flatten.length := by
  induction pieces generalizing piece with
  | nil => exact Nat.le_of_eq (mem_singleton.mp mem)
  | cons _ _ ih =>
    rcases mem_cons.mp mem with rfl | mem
    · exact Nat.le_refl _
    · rw [flatten_cons, length_append]
      exact Nat.le_add_left_of_le (ih mem)

section

variable {pieces others : List (List α)} (same : pieces.map List.length = others.map List.length)

include same

/-- The boundaries depend only on the lengths of the pieces. -/
lemma boundaries_congr : boundaries pieces = boundaries others := by
  induction pieces generalizing others with
  | nil => rw [map_eq_nil_iff.mp same.symm]
  | cons _ _ ih =>
    cases others with
    | nil => cases same
    | cons =>
      have rest := (List.cons.inj same).2
      rw [boundaries, boundaries, ih rest, length_flatten, length_flatten, rest]

lemma nil_notMem_congr (nonempty : [] ∉ others) : [] ∉ pieces := by
  intro mem
  have zero : 0 ∈ others.map List.length := same ▸ mem_map.mpr ⟨[], mem, rfl⟩
  obtain ⟨other, otherMember, length⟩ := mem_map.mp zero
  exact nonempty (length_eq_zero_iff.mp length ▸ otherMember)

end

/-- Put back a piece, unless nothing is left of it. -/
def prepend (piece : List α) (pieces : List (List α)) : List (List α) :=
  match piece with
  | [] => pieces
  | _ :: _ => piece :: pieces

/-- `left` is what is left of the pieces when only `rest` is left of the list. -/
structure Remains (pieces left : List (List α)) (rest : List α) : Prop where
  flatten : left.flatten = rest
  nonempty : [] ∉ pieces → [] ∉ left
  boundaries : ∀ place < rest.length, place ∈ boundaries pieces ↔ place ∈ boundaries left

namespace Remains

lemma trans {pieces middle left : List (List α)} {more rest : List α}
    (first : Remains pieces middle more) (second : Remains middle left rest)
    (le : rest.length ≤ more.length) : Remains pieces left rest where
  flatten := second.flatten
  nonempty := fun nonempty => second.nonempty (first.nonempty nonempty)
  boundaries := fun place lt =>
    (first.boundaries place (Nat.lt_of_lt_of_le lt le)).trans (second.boundaries place lt)

lemma cons (piece tail : List α) (pieces : List (List α)) :
    Remains (piece :: pieces) (prepend tail pieces) (tail ++ pieces.flatten) := by
  cases tail with
  | nil =>
    refine ⟨rfl, fun nonempty mem => nonempty (mem_cons_of_mem _ mem), ?_⟩
    intro place lt
    constructor
    · intro mem
      cases mem with
      | head => exact absurd lt (Nat.lt_irrefl _)
      | tail _ mem => exact mem
    · exact mem_cons_of_mem _
  | cons _ tail =>
    refine ⟨rfl, fun nonempty mem => ?_, fun _ _ => Iff.rfl⟩
    cases mem with
    | tail _ mem => exact nonempty (mem_cons_of_mem _ mem)

end Remains

/-!
## Filling a buffer

A reader looks for something at the front of its buffer, and takes in more pieces of its
input until it finds it.
-/

variable {β : Type}

/-- What comes of filling a buffer: the probe has found something in it, or the pieces
are used up. -/
inductive Refill (α β : Type) where
  | ready (value : β) (buffer : List α) (pieces : List (List α))
  | starved (buffer : List α)

/-- Take in pieces until the probe finds something in the buffer. -/
def refill (probe : List α → Option β) (buffer : List α) (pieces : List (List α)) : Refill α β :=
  match probe buffer, pieces with
  | some value, pieces => .ready value buffer pieces
  | none, [] => .starved buffer
  | none, piece :: pieces => refill probe (buffer ++ piece) pieces

variable {probe : List α → Option β} {buffer text rest : List α} {pieces : List (List α)}
  {value : β} {left : List (List α)} {after : List α}

lemma refill_of_eq_some (found : probe buffer = some value) (pieces : List (List α)) :
    refill probe buffer pieces = .ready value buffer pieces := by
  rw [refill.eq_def, found]

lemma refill_cons (missing : probe buffer = none) (piece : List α) (pieces : List (List α)) :
    refill probe buffer (piece :: pieces) = refill probe (buffer ++ piece) pieces := by
  rw [refill.eq_def, missing]

/-- Nothing is lost, and the pieces are used up only if the probe finds nothing in them. -/
lemma refill_spec (probe : List α → Option β) (buffer : List α) (pieces : List (List α)) :
    match refill probe buffer pieces with
    | .ready value after left =>
        probe after = some value ∧ after ++ left.flatten = buffer ++ pieces.flatten
    | .starved after => probe after = none ∧ after = buffer ++ pieces.flatten := by
  fun_induction refill probe buffer pieces with
  | case1 _ _ _ found => exact ⟨found, rfl⟩
  | case2 _ missing => exact ⟨missing, (append_nil _).symm⟩
  | case3 _ _ _ _ ih =>
    rw [flatten_cons, ← append_assoc]
    exact ih

lemma refill_ready (fills : refill probe buffer pieces = .ready value after left) :
    probe after = some value ∧ after ++ left.flatten = buffer ++ pieces.flatten := by
  have spec := refill_spec probe buffer pieces
  rwa [fills] at spec

lemma of_refill_starved (fills : refill probe buffer pieces = .starved after) :
    probe after = none ∧ after = buffer ++ pieces.flatten := by
  have spec := refill_spec probe buffer pieces
  rwa [fills] at spec

/-- The probe has found nothing at the ends of the pieces taken in before. -/
lemma probe_eq_none_of_refill_ready {after front back : List α}
    (fills : refill probe buffer pieces = .ready value after left)
    (splits : front ++ back = buffer ++ pieces.flatten)
    (boundary : back.length ∈ boundaries (buffer :: pieces))
    (shorter : front.length < after.length) : probe front = none := by
  induction pieces generalizing buffer with
  | nil =>
    obtain ⟨-, same⟩ := refill_ready fills
    have ends : back.length = 0 := mem_singleton.mp boundary
    have lengths := congrArg List.length (splits.trans same.symm)
    simp only [length_append] at lengths
    omega
  | cons _ _ ih =>
    cases found : probe buffer with
    | none =>
      rw [refill_cons found] at fills
      rcases mem_cons.mp boundary with equal | mem
      · obtain ⟨rfl, -⟩ := append_inj' splits equal
        exact found
      · rw [flatten_cons, ← append_assoc] at splits
        exact ih fills splits mem
    | some =>
      rw [refill_of_eq_some found] at fills
      cases fills
      have le := le_of_mem_boundaries_cons boundary
      have lengths := congrArg List.length splits
      simp only [length_append] at lengths
      omega

/-- The pieces are used up if there is nothing to find in them. -/
lemma refill_starved (missing : ∀ front, front <+: buffer ++ pieces.flatten → probe front = none) :
    refill probe buffer pieces = .starved (buffer ++ pieces.flatten) := by
  induction pieces generalizing buffer with
  | nil =>
    have nothing := missing buffer (prefix_append _ _)
    rw [refill.eq_def, nothing, flatten_nil, append_nil]
  | cons _ _ ih =>
    rw [flatten_cons, ← append_assoc] at missing ⊢
    have nothing := missing buffer (by simp)
    rw [refill_cons nothing]
    exact ih missing

/-- The two splits end pieces at the same places, as far as they are near the end. -/
def AgreeUpTo (bound : Nat) (pieces others : List (List α)) : Prop :=
  ∀ place ≤ bound, place ∈ boundaries pieces ↔ place ∈ boundaries others

namespace AgreeUpTo

variable {bound smaller : Nat} {middle others : List (List α)}

lemma trans (first : AgreeUpTo bound pieces middle) (second : AgreeUpTo smaller middle others)
    (le : smaller ≤ bound) : AgreeUpTo smaller pieces others :=
  fun place near => (first place (Nat.le_trans near le)).trans (second place near)

/-- A boundary that is farther away does not count. -/
lemma merge (far : bound < piece.length + pieces.flatten.length) :
    AgreeUpTo bound (buffer :: piece :: pieces) ((buffer ++ piece) :: pieces) := by
  intro place near
  constructor
  · intro mem
    rcases mem_cons.mp mem with rfl | mem
    · rw [flatten_cons, length_append] at near
      exact absurd far (Nat.not_lt_of_ge near)
    · exact mem
  · exact mem_cons_of_mem _

end AgreeUpTo

/-- The probe finds a text as soon as it is complete, whatever part of the rest is there
behind it. -/
structure Finds (probe : List α → Option β) (text rest : List α) (value : List α → β) : Prop where
  unfinished : ∀ {front back : List α}, front ++ back = text → back ≠ [] → probe front = none
  complete : ∀ {tail : List α}, tail <+: rest → probe (text ++ tail) = some (value tail)

/-- However the text arrives, the buffer is filled up to the end of the piece in which
the text ends, if the probe finds nothing in the buffer at the end of an earlier piece. -/
lemma refill_eq_of_boundaries {value : List α → β}
    (unfinished : ∀ {front back : List α}, front ++ back = text → back ≠ [] →
      back.length + rest.length ∈ boundaries (buffer :: pieces) → probe front = none)
    (complete : ∀ {tail : List α}, tail <+: rest → probe (text ++ tail) = some (value tail))
    (arrives : buffer ++ pieces.flatten = text ++ rest) :
    ∃ tail left, refill probe buffer pieces = .ready (value tail) (text ++ tail) left ∧
      tail ++ left.flatten = rest ∧ AgreeUpTo rest.length (buffer :: pieces) (tail :: left) := by
  induction pieces generalizing buffer with
  | nil =>
    rw [flatten_nil, append_nil] at arrives
    refine ⟨rest, [], ?_, append_nil _, fun _ _ => Iff.rfl⟩
    rw [arrives]
    exact refill_of_eq_some (complete prefix_rfl) []
  | cons piece pieces ih =>
    rcases Nat.lt_or_ge _ _ with more | finished
    · obtain ⟨back, rfl, later⟩ := exists_tail_of_append_eq arrives.symm (Nat.le_of_lt more)
      have behind : back ≠ [] := by
        rintro rfl
        simp at more
      have boundary : back.length + rest.length = (piece :: pieces).flatten.length := by
        rw [← later, length_append]
      have nothing := unfinished rfl behind (boundary ▸ mem_cons_self)
      rw [flatten_cons, ← append_assoc] at arrives
      obtain ⟨tail, left, fills, flatten, agree⟩ :=
        @ih (buffer ++ piece) (fun splits behind mem =>
          unfinished splits behind (mem_cons_of_mem _ mem)) arrives
      refine ⟨tail, left, ?_, flatten, ?_⟩
      · rw [refill_cons nothing, fills]
      · refine AgreeUpTo.trans (AgreeUpTo.merge ?_) agree (Nat.le_refl _)
        have lengths := congrArg List.length arrives
        simp only [length_append] at lengths more
        omega
    · obtain ⟨tail, rfl, later⟩ := exists_tail_of_append_eq arrives finished
      refine ⟨tail, piece :: pieces, ?_, later, fun _ _ => Iff.rfl⟩
      exact refill_of_eq_some (complete (later ▸ prefix_append _ _)) _

/-- However the text arrives, the buffer is filled up to the end of the piece in which
the text ends. -/
lemma Finds.refill_eq {value : List α → β} (finds : Finds probe text rest value)
    (arrives : buffer ++ pieces.flatten = text ++ rest) :
    ∃ tail left, refill probe buffer pieces = .ready (value tail) (text ++ tail) left ∧
      tail ++ left.flatten = rest ∧ AgreeUpTo rest.length (buffer :: pieces) (tail :: left) :=
  refill_eq_of_boundaries (fun splits behind _ => finds.unfinished splits behind)
    finds.complete arrives

end TrustTunnel.Chunked
