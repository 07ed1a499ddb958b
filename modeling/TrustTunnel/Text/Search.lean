import Mathlib.Data.List.Infix
import Mathlib.Data.List.TakeWhile
import Mathlib.Tactic.Common

/-!
# Searching a text

What is behind the first occurrence of a marker, and what is in front of the first symbol of a
kind.
-/

namespace TrustTunnel.Text

open List

variable {α : Type}

section Marker

variable (marker : List α)

/-- What is behind the first occurrence of a marker. -/
def findBehind [DecidableEq α] : List α → Option (List α)
  | [] => if marker = [] then some [] else none
  | symbol :: text =>
    if marker <+: symbol :: text then some ((symbol :: text).drop marker.length)
    else findBehind text

/-- The first occurrence of the marker is between two parts of the text. -/
structure FirstAt (text before rest : List α) : Prop where
  split : text = before ++ (marker ++ rest)
  first : ∀ earlier later, text = earlier ++ (marker ++ later) → before.length ≤ earlier.length

variable {marker} {text before rest : List α}

lemma FirstAt.unique {before' rest' : List α} (here : FirstAt marker text before rest)
    (there : FirstAt marker text before' rest') : rest = rest' := by
  have length : before.length = before'.length :=
    le_antisymm (here.first _ _ there.split) (there.first _ _ here.split)
  have same := here.split.symm.trans there.split
  exact append_cancel_left (append_inj_right same length)

lemma isInfix_of_firstAt (here : FirstAt marker text before rest) : marker <:+: text :=
  ⟨before, rest, by rw [here.split, append_assoc]⟩

variable [DecidableEq α]

lemma exists_firstAt (found : findBehind marker text = some rest) :
    ∃ before, FirstAt marker text before rest := by
  fun_induction findBehind marker text with
  | case1 empty =>
    cases found
    exact ⟨[], by rw [empty]; rfl, fun _ _ _ => Nat.zero_le _⟩
  | case2 => cases found
  | case3 _ _ begins =>
    cases found
    refine ⟨[], ?_, fun _ _ _ => Nat.zero_le _⟩
    exact (prefix_iff_eq_append.mp begins).symm
  | case4 symbol _ elsewhere ih =>
    obtain ⟨before, here⟩ := ih found
    refine ⟨symbol :: before, ?_, ?_⟩
    · rw [here.split]
      rfl
    · intro earlier later there
      cases earlier with
      | nil => exact absurd ⟨later, there.symm⟩ elsewhere
      | cons _ earlier =>
        have tail := (List.cons.inj there).2
        exact Nat.succ_le_succ (here.first earlier later tail)

lemma findBehind_isSome (inside : marker <:+: text) : (findBehind marker text).isSome := by
  fun_induction findBehind marker text with
  | case1 | case3 => rfl
  | case2 nonempty => exact absurd (infix_nil.mp inside) nonempty
  | case4 _ _ elsewhere ih => exact ih ((infix_cons_iff.mp inside).resolve_left elsewhere)

lemma findBehind_eq_some_iff :
    findBehind marker text = some rest ↔ ∃ before, FirstAt marker text before rest := by
  constructor
  · exact exists_firstAt
  · rintro ⟨before, here⟩
    obtain ⟨found, same⟩ := Option.isSome_iff_exists.mp
      (findBehind_isSome (isInfix_of_firstAt here))
    obtain ⟨before', there⟩ := exists_firstAt same
    rw [same, there.unique here]

lemma findBehind_eq_none_iff : findBehind marker text = none ↔ ¬marker <:+: text := by
  constructor
  · intro none inside
    have some := findBehind_isSome inside
    rw [none] at some
    cases some
  · intro absent
    cases found : findBehind marker text with
    | none => rfl
    | some =>
      obtain ⟨before, here⟩ := exists_firstAt found
      exact absurd (isInfix_of_firstAt here) absent

end Marker

section Kind

variable (kind : α → Bool)

/-- The text up to the first symbol of a kind, if there is one. -/
def upTo (text : List α) : Option (List α) :=
  if text.any kind then some (text.takeWhile fun symbol => !kind symbol) else none

variable {kind} {text front rest : List α}

lemma upTo_eq_some_iff :
    upTo kind text = some front ↔ ∃ last rest, text = front ++ last :: rest ∧ kind last = true ∧
      ∀ symbol ∈ front, kind symbol = false := by
  rw [upTo]
  constructor
  · intro found
    split at found
    case isTrue present =>
      cases found
      have whole := takeWhile_append_dropWhile (p := fun symbol => !kind symbol) (l := text)
      cases behind : text.dropWhile fun symbol => !kind symbol with
      | nil =>
        obtain ⟨symbol, mem, ofKind⟩ := any_eq_true.mp present
        have other := dropWhile_eq_nil_iff.mp behind symbol mem
        rw [ofKind] at other
        cases other
      | cons last rest =>
        have head := head?_dropWhile_not (fun symbol => !kind symbol) text
        rw [behind] at head whole
        refine ⟨last, rest, whole.symm, by simpa using head, fun symbol mem => ?_⟩
        simpa using mem_takeWhile_imp mem
    case isFalse => cases found
  · rintro ⟨last, rest, rfl, ofKind, others⟩
    have present : (front ++ last :: rest).any kind = true :=
      any_eq_true.mpr ⟨last, mem_append_right _ mem_cons_self, ofKind⟩
    rw [if_pos present, takeWhile_append_of_pos fun symbol mem => ?_]
    · simp [ofKind]
    · simp [others symbol mem]

lemma dropWhile_eq_iff :
    text.dropWhile kind = rest ↔ ∃ front, text = front ++ rest ∧
      (∀ symbol ∈ front, kind symbol = true) ∧ ∀ symbol ∈ rest.head?, kind symbol = false := by
  constructor
  · rintro rfl
    refine ⟨text.takeWhile kind, takeWhile_append_dropWhile.symm,
      fun _ => mem_takeWhile_imp, fun symbol mem => ?_⟩
    have head := head?_dropWhile_not kind text
    rw [Option.mem_def.mp mem] at head
    exact head
  · rintro ⟨front, rfl, all, ends⟩
    rw [dropWhile_append_of_pos all]
    cases rest with
    | nil => rfl
    | cons symbol => exact dropWhile_cons_of_neg (by rw [ends symbol rfl]; decide)

end Kind

end TrustTunnel.Text
