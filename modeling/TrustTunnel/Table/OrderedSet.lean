import Mathlib.Data.List.Pairwise
import Mathlib.Tactic.Common

/-!
# Sets ordered by a key

A set as a list of items in the order of their keys. An item whose key is in the set already
is not added, so that of several items with one key the first one stays.
-/

namespace TrustTunnel.Table

open List

variable {α β : Type} (key : α → Nat)

/-- Add an item, unless there is one with its key. -/
def emplace (item : α) : List α → List α
  | [] => [item]
  | other :: items =>
    if key item < key other then item :: other :: items
    else if key other < key item then other :: emplace item items
    else other :: items

/-- Add the items one after the other. -/
def emplaceAll (set items : List α) : List α :=
  items.foldl (fun set item => emplace key item set) set

/-- The items that are the first ones with their keys. -/
def firsts : List α → List α
  | [] => []
  | item :: items => item :: (firsts items).filter fun other => key other ≠ key item

/-- The items are in the order of their keys, each key once. -/
def Ordered (set : List α) : Prop := set.Pairwise fun item other => key item < key other

variable {key} {item other : α} {set items : List α}

lemma mem_of_mem_emplace (mem : other ∈ emplace key item set) : other = item ∨ other ∈ set := by
  fun_induction emplace key item set with
  | case1 => exact .inl (mem_singleton.mp mem)
  | case2 => exact mem_cons.mp mem
  | case3 first _ _ _ ih =>
    rcases mem_cons.mp mem with rfl | mem
    · exact .inr mem_cons_self
    · exact (ih mem).imp_right (mem_cons_of_mem first)
  | case4 => exact .inr mem

section

variable (ordered : Ordered key set)

include ordered

lemma mem_emplace :
    other ∈ emplace key item set ↔
      other ∈ set ∨ other = item ∧ ∀ there ∈ set, key there ≠ key item := by
  fun_induction emplace key item set with
  | case1 => simp
  | case2 first set =>
    obtain ⟨above, -⟩ := pairwise_cons.mp ordered
    have absent : ∀ there ∈ first :: set, key there ≠ key item := by
      intro there mem
      rcases mem_cons.mp mem with rfl | mem
      · omega
      · have := above there mem
        omega
    rw [mem_cons, and_iff_left absent, or_comm]
  | case3 first _ _ _ ih =>
    have first_ne : key first ≠ key item := by omega
    simp [ih (pairwise_cons.mp ordered).2, first_ne, or_assoc]
  | case4 first =>
    have same : key first = key item := by omega
    simp [same]

lemma Ordered.emplace : Ordered key (emplace key item set) := by
  fun_induction Table.emplace key item set with
  | case1 => exact pairwise_singleton _ _
  | case2 _ _ before =>
    refine pairwise_cons.mpr ⟨fun there mem => ?_, ordered⟩
    rcases mem_cons.mp mem with rfl | mem
    · exact before
    · exact Nat.lt_trans before (rel_of_pairwise_cons ordered mem)
  | case3 _ _ _ after ih =>
    obtain ⟨above, behind⟩ := pairwise_cons.mp ordered
    refine pairwise_cons.mpr ⟨fun there mem => ?_, ih behind⟩
    rcases mem_of_mem_emplace mem with rfl | mem
    · exact after
    · exact above there mem
  | case4 => exact ordered

lemma Ordered.emplaceAll (items : List α) : Ordered key (emplaceAll key set items) := by
  induction items generalizing set with
  | nil => exact ordered
  | cons _ _ ih => exact ih ordered.emplace

/-- The first items with their keys are added, if the set does not have these keys. -/
lemma mem_emplaceAll (items : List α) :
    other ∈ emplaceAll key set items ↔
      other ∈ set ∨ other ∈ firsts key items ∧ ∀ there ∈ set, key there ≠ key other := by
  induction items generalizing set with
  | nil => simp [emplaceAll, firsts]
  | cons item items ih =>
    have step : emplaceAll key set (item :: items) =
        emplaceAll key (emplace key item set) items := rfl
    rw [step, ih ordered.emplace]
    simp only [mem_emplace ordered, firsts, mem_cons, mem_filter, decide_eq_true_eq]
    constructor
    · rintro ((mem | ⟨rfl, absent⟩) | ⟨mem, absent⟩)
      · exact .inl mem
      · exact .inr ⟨.inl rfl, absent⟩
      · have outside : ∀ there ∈ set, key there ≠ key other :=
          fun there mem => absent there (.inl mem)
        refine .inr ⟨.inr ⟨mem, fun same => ?_⟩, outside⟩
        -- The item itself was added, since the set has no other one with its key.
        refine absent item (.inr ⟨rfl, fun there mem equal => ?_⟩) same.symm
        exact outside there mem (equal.trans same.symm)
    · rintro (mem | ⟨rfl | ⟨mem, differs⟩, absent⟩)
      · exact .inl (.inl mem)
      · exact .inl (.inr ⟨rfl, absent⟩)
      · refine .inr ⟨mem, ?_⟩
        rintro there (inside | ⟨rfl, -⟩)
        · exact absent there inside
        · exact differs.symm

end

variable (key) in
lemma map_emplace {key' : β → Nat} {f : α → β} (keeps : ∀ item, key' (f item) = key item)
    (item : α) (set : List α) :
    (emplace key item set).map f = emplace key' (f item) (set.map f) := by
  induction set with
  | nil => rfl
  | cons _ _ ih =>
    simp only [emplace, map_cons, keeps]
    split
    · rfl
    · split
      · rw [map_cons, ih]
      · rfl

end TrustTunnel.Table
