import Mathlib.Data.List.Nodup
import Mathlib.Data.List.Perm.Basic

/-!
# Maps with several values for a key

A key has its values in the order in which they were appended, and the keys stand in the
order of their first values. Going through a map and appending what is found gives the
same map again.
-/

namespace TrustTunnel.Table

open List

variable {κ ν : Type} [DecidableEq κ]

/-- Put a value behind the others of its key. -/
def push (key : κ) (value : ν) : List (κ × List ν) → List (κ × List ν)
  | [] => [(key, [value])]
  | entry :: entries =>
    if entry.1 = key then (entry.1, entry.2 ++ [value]) :: entries
    else entry :: push key value entries

variable {key : κ} {entries : List (κ × List ν)}

lemma push_of_notMem (fresh : key ∉ entries.map Prod.fst) (value : ν) :
    push key value entries = entries ++ [(key, [value])] := by
  induction entries with
  | nil => rfl
  | cons _ _ ih =>
    rw [map_cons, mem_cons, not_or] at fresh
    rw [push, if_neg (Ne.symm fresh.1), ih fresh.2, cons_append]

lemma push_concat (fresh : key ∉ entries.map Prod.fst) (values : List ν) (value : ν) :
    push key value (entries ++ [(key, values)]) = entries ++ [(key, values ++ [value])] := by
  induction entries with
  | nil => exact if_pos rfl
  | cons _ _ ih =>
    rw [map_cons, mem_cons, not_or] at fresh
    rw [cons_append, push, if_neg (Ne.symm fresh.1), ih fresh.2, cons_append]

lemma mem_keys_push {other : κ} {value : ν} :
    other ∈ (push key value entries).map Prod.fst ↔ other = key ∨ other ∈ entries.map Prod.fst := by
  fun_induction push key value entries with
  | case1 => simp
  | case2 _ _ same =>
    subst same
    simp
  | case3 =>
    rw [map_cons, mem_cons, map_cons, mem_cons]
    tauto

lemma nodup_push (nodup : (entries.map Prod.fst).Nodup) (key : κ) (value : ν) :
    ((push key value entries).map Prod.fst).Nodup := by
  fun_induction push key value entries with
  | case1 => exact nodup_singleton key
  | case2 => exact nodup
  | case3 _ _ different ih =>
    rw [map_cons, nodup_cons] at nodup ⊢
    rw [mem_keys_push]
    exact ⟨not_or.mpr ⟨different, nodup.1⟩, ih nodup.2⟩

lemma nonempty_push (nonempty : ∀ entry ∈ entries, entry.2 ≠ []) (key : κ) (value : ν) :
    ∀ entry ∈ push key value entries, entry.2 ≠ [] := by
  fun_induction push key value entries with
  | case1 => simp
  | case2 =>
    rw [forall_mem_cons] at nonempty ⊢
    exact ⟨by simp, nonempty.2⟩
  | case3 _ _ _ ih =>
    rw [forall_mem_cons] at nonempty ⊢
    exact ⟨nonempty.1, ih nonempty.2⟩

/-- The pairs of an entry. -/
def pairs (entry : κ × List ν) : List (κ × ν) := entry.2.map (Prod.mk entry.1)

lemma flatMap_push_perm (key : κ) (value : ν) (entries : List (κ × List ν)) :
    ((push key value entries).flatMap pairs).Perm (entries.flatMap pairs ++ [(key, value)]) := by
  fun_induction push key value entries with
  | case1 => exact .refl _
  | case2 _ _ same =>
    subst same
    simp only [flatMap_cons, pairs, map_append, map_cons, map_nil, append_assoc]
    exact perm_append_comm.append_left _
  | case3 _ _ _ ih =>
    simp only [flatMap_cons, append_assoc]
    exact ih.append_left _

@[ext]
structure MultiMap (κ ν : Type) where
  entries : List (κ × List ν)
  nodup : (entries.map Prod.fst).Nodup
  nonempty : ∀ entry ∈ entries, entry.2 ≠ []

namespace MultiMap

def empty : MultiMap κ ν := ⟨[], List.nodup_nil, by simp⟩

def append (map : MultiMap κ ν) (key : κ) (value : ν) : MultiMap κ ν :=
  ⟨push key value map.entries, nodup_push map.nodup key value, nonempty_push map.nonempty key value⟩

/-- The pairs, the values of a key next to each other. -/
def toList (map : MultiMap κ ν) : List (κ × ν) := map.entries.flatMap pairs

/-- Append pairs one after the other. -/
def appendAll (map : MultiMap κ ν) (added : List (κ × ν)) : MultiMap κ ν :=
  added.foldl (fun map pair => map.append pair.1 pair.2) map

lemma toList_appendAll_perm (map : MultiMap κ ν) (added : List (κ × ν)) :
    (map.appendAll added).toList.Perm (map.toList ++ added) := by
  induction added generalizing map with
  | nil => rw [append_nil]; exact .refl _
  | cons pair added ih =>
    have first : (map.append pair.1 pair.2).toList.Perm (map.toList ++ [pair]) :=
      flatMap_push_perm pair.1 pair.2 _
    refine (ih _).trans ?_
    rw [append_cons]
    exact first.append_right added

lemma foldl_push_pairs (fresh : key ∉ entries.map Prod.fst) (front back : List ν) :
    (pairs (key, back)).foldl (fun entries pair => push pair.1 pair.2 entries)
        (entries ++ [(key, front)]) = entries ++ [(key, front ++ back)] := by
  induction back generalizing front with
  | nil => rw [append_nil]; rfl
  | cons value _ ih =>
    have next := ih (front ++ [value])
    rw [append_assoc] at next
    rw [pairs, map_cons, foldl_cons, push_concat fresh]
    exact next

lemma foldl_push_flatMap {front back : List (κ × List ν)}
    (nodup : ((front ++ back).map Prod.fst).Nodup) (nonempty : ∀ entry ∈ back, entry.2 ≠ []) :
    (back.flatMap pairs).foldl (fun entries pair => push pair.1 pair.2 entries) front =
      front ++ back := by
  induction back generalizing front with
  | nil => rw [append_nil]; rfl
  | cons entry _ ih =>
    obtain ⟨key, values⟩ := entry
    rw [forall_mem_cons] at nonempty
    have fresh : key ∉ front.map Prod.fst := by
      rw [map_append, map_cons, nodup_append] at nodup
      intro mem
      exact nodup.2.2 key mem key mem_cons_self rfl
    cases values with
    | nil => exact absurd rfl nonempty.1
    | cons value values =>
      have first : (pairs (key, value :: values)).foldl
          (fun entries pair => push pair.1 pair.2 entries) front =
            front ++ [(key, value :: values)] := by
        rw [pairs, map_cons, foldl_cons, push_of_notMem fresh]
        exact foldl_push_pairs fresh [value] values
      rw [flatMap_cons, foldl_append, first]
      rw [append_cons] at nodup
      rw [ih nodup nonempty.2, append_assoc, singleton_append]

/-- Appending what is found in a map gives the map. -/
lemma appendAll_toList (map : MultiMap κ ν) : empty.appendAll map.toList = map := by
  have entries : ∀ (start : MultiMap κ ν) (added : List (κ × ν)), (start.appendAll added).entries =
      added.foldl (fun entries pair => push pair.1 pair.2 entries) start.entries := by
    intro start added
    induction added generalizing start with
    | nil => rfl
    | cons _ _ ih => exact ih _
  apply MultiMap.ext
  rw [entries]
  exact foldl_push_flatMap map.nodup map.nonempty

end MultiMap

end TrustTunnel.Table
