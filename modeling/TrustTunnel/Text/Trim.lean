import Mathlib.Data.List.DropRight
import Mathlib.Data.List.TakeWhile

/-!
# Trimming

Blanks are removed from both ends of a text. What a blank is, is a parameter.
-/

namespace TrustTunnel.Text

open List

variable {α : Type} (blank : α → Bool)

/-- The text without the blanks at its ends. -/
def strip (text : List α) : List α := (text.dropWhile blank).rdropWhile blank

/-- The text neither begins nor ends with a blank. -/
structure Unpadded (text : List α) : Prop where
  first : ∀ char ∈ text.head?, blank char = false
  last : ∀ char ∈ text.getLast?, blank char = false

variable {blank} {text front back : List α}

lemma strip_append_left (blanks : ∀ char ∈ front, blank char = true) :
    strip blank (front ++ text) = strip blank text := by
  rw [strip, dropWhile_append_of_pos blanks, strip]

lemma strip_append_right (blanks : ∀ char ∈ back, blank char = true) :
    strip blank (text ++ back) = strip blank text := by
  rw [strip, strip, dropWhile_append]
  split
  · rename_i empty
    rw [List.isEmpty_iff.mp empty, dropWhile_eq_nil_iff.mpr blanks]
  · rw [List.rdropWhile, reverse_append, dropWhile_append_of_pos, List.rdropWhile]
    intro char mem
    exact blanks char (mem_reverse.mp mem)

lemma strip_of_unpadded (unpadded : Unpadded blank text) : strip blank text = text := by
  have front : text.dropWhile blank = text := by
    refine dropWhile_eq_self_iff.mpr fun nonempty => ?_
    have first := unpadded.first text[0] (head?_eq_getElem? ▸ getElem?_eq_getElem nonempty)
    exact Bool.not_eq_true _ ▸ first
  rw [strip, front]
  refine rdropWhile_eq_self_iff.mpr fun nonempty => ?_
  have last := unpadded.last _ (getLast?_eq_some_getLast nonempty)
  exact Bool.not_eq_true _ ▸ last

lemma exists_strip (blank : α → Bool) (text : List α) :
    ∃ front back, text = front ++ (strip blank text ++ back) ∧
      (∀ char ∈ front, blank char = true) ∧ ∀ char ∈ back, blank char = true := by
  refine ⟨text.takeWhile blank, (text.dropWhile blank).rtakeWhile blank, ?_,
    fun _ => mem_takeWhile_imp, fun _ => mem_rtakeWhile_imp⟩
  rw [strip, rdropWhile_append_rtakeWhile, takeWhile_append_dropWhile]

lemma unpadded_strip (blank : α → Bool) (text : List α) : Unpadded blank (strip blank text) where
  first := by
    intro char found
    obtain ⟨rest, begins⟩ := rdropWhile_prefix blank (text.dropWhile blank)
    obtain ⟨tail, split⟩ := head?_eq_some_iff.mp (Option.mem_def.mp found)
    have drops : text.dropWhile blank = char :: (tail ++ rest) := by
      rw [← begins]
      exact congrArg (· ++ rest) split
    have head := head?_dropWhile_not blank text
    rw [drops] at head
    exact head
  last := by
    intro char found
    obtain ⟨front, split⟩ := getLast?_eq_some_iff.mp (Option.mem_def.mp found)
    have again : (strip blank text).rdropWhile blank = strip blank text :=
      rdropWhile_idempotent blank _
    rw [split, rdropWhile_eq_self_iff] at again
    have last := again (by simp)
    rw [getLast_append_singleton] at last
    exact Bool.not_eq_true _ ▸ last

lemma strip_eq_nil_iff : strip blank text = [] ↔ ∀ char ∈ text, blank char = true := by
  constructor
  · intro empty
    obtain ⟨front, back, split, blankFront, blankBack⟩ := exists_strip blank text
    rw [empty, nil_append] at split
    rw [split]
    exact forall_mem_append.mpr ⟨blankFront, blankBack⟩
  · intro blanks
    rw [← append_nil text, strip_append_left blanks]
    rfl

lemma countP_strip {counts : α → Bool} (solid : ∀ char, blank char = true → counts char = false)
    (text : List α) : (strip blank text).countP counts = text.countP counts := by
  obtain ⟨front, back, split, blankFront, blankBack⟩ := exists_strip blank text
  have none {blanks : List α} (all : ∀ char ∈ blanks, blank char = true) :
      blanks.countP counts = 0 := by
    refine countP_eq_zero.mpr fun char mem => ?_
    exact Bool.not_eq_true _ ▸ solid char (all char mem)
  calc (strip blank text).countP counts
      = (front ++ (strip blank text ++ back)).countP counts := by
        rw [countP_append, countP_append, none blankFront, none blankBack]
        omega
    _ = text.countP counts := by rw [← split]

end TrustTunnel.Text
