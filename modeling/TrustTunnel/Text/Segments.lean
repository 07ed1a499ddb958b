import Mathlib.Data.List.Basic
import Mathlib.Tactic.Common

/-!
# Words and labels

Ways to cut a text: into the words between separators, of which the empty ones do
not count, into labels that are joined with a separator, and at the first separator.
-/

namespace TrustTunnel.Text

open List

variable {α : Type}

section Words

variable (separates : α → Bool)

/-- The parts of a text between separators that are not empty. -/
def words (text : List α) : List (List α) :=
  (text.splitOnP separates).filter fun word => !word.isEmpty

/-- The words, collected symbol by symbol; the buffer holds the beginning of the next one. -/
def collect (buffer : List α) : List α → List (List α)
  | [] => if buffer.isEmpty then [] else [buffer]
  | symbol :: rest =>
    if separates symbol then
      if buffer.isEmpty then collect buffer rest else buffer :: collect [] rest
    else collect (buffer ++ [symbol]) rest

variable {separates}

lemma modifyHead_nil_append (parts : List (List α)) : parts.modifyHead ([] ++ ·) = parts := by
  cases parts with
  | nil | cons => rfl

lemma collect_eq_filter (buffer text : List α) :
    collect separates buffer text =
      ((text.splitOnP separates).modifyHead (buffer ++ ·)).filter fun word => !word.isEmpty := by
  induction text generalizing buffer with
  | nil =>
    rw [splitOnP_nil, modifyHead_cons, append_nil]
    cases buffer with
    | nil | cons => rfl
  | cons symbol _ ih =>
    rw [collect, splitOnP_cons_eq_if_modifyHead]
    by_cases separator : separates symbol = true
    · rw [if_pos separator, if_pos separator, modifyHead_cons, append_nil]
      cases buffer with
      | nil =>
        rw [ih, modifyHead_nil_append]
        rfl
      | cons =>
        rw [if_neg (by simp), ih, modifyHead_nil_append]
        rfl
    · rw [if_neg separator, if_neg separator, modifyHead_modifyHead, ih]
      congr 2
      funext word
      rw [append_assoc]
      rfl

lemma collect_eq_words (text : List α) : collect separates [] text = words separates text := by
  rw [collect_eq_filter, words, modifyHead_nil_append]

end Words

section Labels

variable (separator : α)

/-- The labels with the separator between them. -/
def joined : List (List α) → List α
  | [] => []
  | [label] => label
  | label :: next :: labels => label ++ separator :: joined (next :: labels)

variable {separator} {labels : List (List α)}

lemma joined_cons (label : List α) (nonempty : labels ≠ []) :
    joined separator (label :: labels) = label ++ separator :: joined separator labels := by
  cases labels with
  | nil => exact absurd rfl nonempty
  | cons => rfl

lemma joined_append {left right : List (List α)} (nonemptyLeft : left ≠ [])
    (nonemptyRight : right ≠ []) :
    joined separator (left ++ right) =
      joined separator left ++ separator :: joined separator right := by
  induction left with
  | nil => exact absurd rfl nonemptyLeft
  | cons label left ih =>
    cases left with
    | nil => exact joined_cons label nonemptyRight
    | cons next left =>
      have more : next :: left ++ right ≠ [] := cons_ne_nil _ _
      rw [cons_append, joined_cons label more, ih (cons_ne_nil _ _),
        joined_cons label (cons_ne_nil next left), append_assoc, cons_append]

lemma joined_suffix {labels tail : List (List α)} (nonempty : tail ≠ []) (last : tail <:+ labels) :
    joined separator tail <:+ joined separator labels := by
  obtain ⟨left, rfl⟩ := last
  by_cases whole : left = []
  · subst whole
    exact suffix_refl _
  · rw [joined_append whole nonempty]
    exact ⟨joined separator left ++ [separator], by rw [append_assoc, singleton_append]⟩

/-- A separator in joined labels stands between two of them. -/
lemma exists_of_joined_eq (plain : ∀ label ∈ labels, separator ∉ label) {front back : List α}
    (split : joined separator labels = front ++ separator :: back) :
    ∃ left right, left ≠ [] ∧ right ≠ [] ∧ labels = left ++ right ∧
      front = joined separator left ∧ back = joined separator right := by
  induction labels generalizing front with
  | nil => exact absurd (congrArg List.length split) (by simp [joined])
  | cons label labels ih =>
    rw [forall_mem_cons] at plain
    by_cases last : labels = []
    · subst last
      have mem : separator ∈ label := by
        rw [show label = front ++ separator :: back from split]
        exact mem_append_right _ mem_cons_self
      exact absurd mem plain.1
    · rw [joined_cons label last, append_eq_append_iff] at split
      rcases split with ⟨middle, frontEq, rest⟩ | ⟨middle, labelEq, rest⟩
      · cases middle with
        | nil =>
          cases rest
          refine ⟨[label], labels, cons_ne_nil _ _, last, rfl, ?_, rfl⟩
          rw [frontEq, append_nil]
          rfl
        | cons =>
          obtain ⟨rfl, behind⟩ := List.cons.inj rest
          obtain ⟨left, right, nonemptyLeft, nonemptyRight, parts, frontParts, backParts⟩ :=
            ih plain.2 behind
          refine ⟨label :: left, right, cons_ne_nil _ _, nonemptyRight, ?_, ?_, backParts⟩
          · rw [parts, cons_append]
          · rw [joined_cons label nonemptyLeft, ← frontParts]
            exact frontEq
      · cases middle with
        | nil =>
          cases rest
          refine ⟨[label], labels, cons_ne_nil _ _, last, rfl, ?_, rfl⟩
          rw [labelEq, append_nil]
          rfl
        | cons =>
          obtain ⟨rfl, -⟩ := List.cons.inj rest
          apply absurd _ plain.1
          rw [labelEq]
          exact mem_append_right _ mem_cons_self

end Labels

section First

variable [DecidableEq α] {separator : α}

/-- A text cut at its first separator, which is dropped. -/
def cutFirst (separator : α) : List α → Option (List α × List α)
  | [] => none
  | symbol :: rest =>
    if symbol = separator then some ([], rest)
    else (cutFirst separator rest).map fun parts => (symbol :: parts.1, parts.2)

lemma cutFirst_eq_some {text front behind : List α} :
    cutFirst separator text = some (front, behind) ↔
      text = front ++ separator :: behind ∧ separator ∉ front := by
  induction text generalizing front with
  | nil => simp [cutFirst]
  | cons symbol _ ih =>
    rw [cutFirst]
    by_cases first : symbol = separator
    · subst first
      rw [if_pos rfl, Option.some.injEq, Prod.mk.injEq]
      cases front with
      | nil => simp
      | cons =>
        refine iff_of_false (fun empty => absurd empty.1 (cons_ne_nil _ _).symm) ?_
        rintro ⟨same, absent⟩
        exact absent ((List.cons.inj same).1 ▸ mem_cons_self)
    · rw [if_neg first, Option.map_eq_some_iff]
      cases front with
      | nil =>
        refine iff_of_false ?_ (fun same => first (List.cons.inj same.1).1)
        rintro ⟨parts, -, empty⟩
        exact absurd (congrArg Prod.fst empty) (cons_ne_nil _ _)
      | cons _ front =>
        rw [cons_append, List.cons.injEq, mem_cons, not_or]
        constructor
        · rintro ⟨parts, found, same⟩
          cases same
          obtain ⟨split, plain⟩ := ih.mp found
          exact ⟨⟨rfl, split⟩, fun same => first same.symm, plain⟩
        · rintro ⟨⟨rfl, split⟩, -, plain⟩
          exact ⟨(front, behind), ih.mpr ⟨split, plain⟩, rfl⟩

end First

end TrustTunnel.Text
