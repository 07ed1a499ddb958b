import Mathlib.Data.List.Basic
import Mathlib.Tactic.Common

/-!
# Tallies

The total weight of the items of a list, and what it becomes when an item is added or
replaced. A total bounds the number of items that weigh something.
-/

namespace TrustTunnel.Table.Tally

open List

variable {α : Type} (weight : α → Nat)

def total : List α → Nat
  | [] => 0
  | item :: items => weight item + total items

lemma total_map {β : Type} (read : β → α) (items : List β) :
    total weight (items.map read) = total (fun item => weight (read item)) items := by
  induction items with
  | nil => rfl
  | cons _ _ ih => rw [map_cons, total, total, ih]

lemma total_concat (items : List α) (item : α) :
    total weight (items ++ [item]) = total weight items + weight item := by
  induction items with
  | nil => exact Nat.add_comm _ _
  | cons _ _ ih => rw [cons_append, total, total, ih, Nat.add_assoc]

variable {items : List α}

lemma total_modify (replace : α → α) {index : Nat} {item : α}
    (present : items[index]? = some item) :
    total weight (items.modify index replace) + weight item =
      total weight items + weight (replace item) := by
  induction items generalizing index with
  | nil => cases present
  | cons _ _ ih =>
    cases index with
    | zero =>
      cases present
      rw [modify_zero_cons, total, total]
      omega
    | succ =>
      have rest := ih present
      rw [modify_succ_cons, total, total]
      omega

/-- The items that weigh at least one are at most as many as the total. -/
lemma countP_le_total {counted : α → Bool}
    (weighs : ∀ item ∈ items, counted item = true → 1 ≤ weight item) :
    items.countP counted ≤ total weight items := by
  induction items with
  | nil => exact Nat.le_refl 0
  | cons first _ ih =>
    have rest := ih fun item mem => weighs item (mem_cons_of_mem _ mem)
    have head := weighs first mem_cons_self
    rw [countP_cons, total]
    split
    · have heavy := head ‹_›
      omega
    · omega

end TrustTunnel.Table.Tally
