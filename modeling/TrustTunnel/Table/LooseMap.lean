import Mathlib.Data.List.InsertIdx
import Mathlib.Tactic.Common

/-!
# Maps whose keys are compared loosely

A hash map compares keys with a function that is meant to be an equivalence. When
it is not, a lookup may match several entries, and which of them it finds depends
on the layout of the table: here on a number that is given with each operation.
Insertion keeps the key of the entry it finds and replaces the value only.
-/

namespace TrustTunnel.Table

open List

/-- The live entries of a map. -/
abbrev LooseMap (κ ν : Type) := List (κ × ν)

namespace LooseMap

variable {κ ν : Type} (same : κ → κ → Bool)

/-- The entries that a key matches, by position. -/
def candidates (map : LooseMap κ ν) (key : κ) : List Nat :=
  (List.range map.length).filter fun index => map[index]?.any fun entry => same key entry.1

/-- The position of the entry that a lookup finds. -/
def position (map : LooseMap κ ν) (key : κ) (layout : Nat) : Option Nat :=
  (candidates same map key)[layout % (candidates same map key).length]?

/-- `HashMap::get`. -/
def get (map : LooseMap κ ν) (key : κ) (layout : Nat) : Option (κ × ν) :=
  (position same map key layout).bind fun index => map[index]?

/-- Give the entry at a position another value. -/
def update (map : LooseMap κ ν) (index : Nat) (value : ν) : LooseMap κ ν :=
  map.modify index fun entry => (entry.1, value)

/-- `HashMap::insert`. -/
def insert (map : LooseMap κ ν) (key : κ) (value : ν) (layout : Nat) : LooseMap κ ν :=
  match position same map key layout with
  | some index => map.update index value
  | none => (key, value) :: map

/-- `HashMap::remove`. -/
def remove (map : LooseMap κ ν) (key : κ) (layout : Nat) : LooseMap κ ν :=
  match position same map key layout with
  | some index => map.eraseIdx index
  | none => map

/-- Remove one key after the other, each in its own layout. -/
def removeAll (map : LooseMap κ ν) (keys : List (κ × Nat)) : LooseMap κ ν :=
  keys.foldl (fun map key => remove same map key.1 key.2) map

/-- No key of the map matches another one. -/
def Apart (map : LooseMap κ ν) : Prop := map.Pairwise fun left right => same left.1 right.1 = false

variable {same} {map : LooseMap κ ν} {key : κ} {layout : Nat}

variable {index : Nat}

lemma mem_candidates :
    index ∈ candidates same map key ↔
      ∃ entry, map[index]? = some entry ∧ same key entry.1 = true := by
  rw [candidates, mem_filter, mem_range, Option.any_eq_true]
  constructor
  · intro found
    exact found.2
  · intro found
    obtain ⟨entry, present, matched⟩ := found
    exact ⟨(List.getElem?_eq_some_iff.mp present).1, entry, present, matched⟩

lemma position_eq_some (found : position same map key layout = some index) :
    ∃ entry, map[index]? = some entry ∧ same key entry.1 = true :=
  mem_candidates.mp (mem_of_getElem? found)

lemma position_eq_none (absent : position same map key layout = none) :
    ∀ entry ∈ map, same key entry.1 = false := by
  have empty : candidates same map key = [] := by
    rw [position, List.getElem?_eq_none_iff] at absent
    by_contra nonempty
    have positive := length_pos_iff.mpr nonempty
    have below := Nat.mod_lt layout positive
    omega
  intro entry mem
  obtain ⟨index, present⟩ := getElem?_of_mem mem
  rw [← Bool.not_eq_true]
  intro matched
  have candidate : index ∈ candidates same map key := mem_candidates.mpr ⟨entry, present, matched⟩
  rw [empty] at candidate
  cases candidate

variable {entry : κ × ν}

/-- An entry that the key does not match is not the one that is found. -/
lemma position_ne {place : Nat} (found : position same map key layout = some index)
    (here : map[place]? = some entry) (unmatched : same key entry.1 = false) : place ≠ index := by
  rintro rfl
  obtain ⟨other, present, matched⟩ := position_eq_some found
  rw [here] at present
  cases present
  rw [unmatched] at matched
  cases matched

lemma get_eq_some (found : get same map key layout = some entry) :
    entry ∈ map ∧ same key entry.1 = true := by
  obtain ⟨index, place, present⟩ := Option.bind_eq_some_iff.mp found
  obtain ⟨other, here, matched⟩ := position_eq_some place
  rw [present] at here
  cases here
  exact ⟨mem_of_getElem? present, matched⟩

/-! ## What an operation leaves in the map -/

variable {value : ν} {other : κ × ν}

lemma mem_update (present : map[index]? = some other) (mem : entry ∈ map.update index value) :
    entry ∈ map ∨ entry = (other.1, value) := by
  obtain ⟨place, here⟩ := getElem?_of_mem mem
  rw [update, getElem?_modify] at here
  by_cases updated : index = place
  · subst updated
    simp only [if_true, present] at here
    cases here
    exact .inr rfl
  · simp only [if_neg updated, id_map'] at here
    exact .inl (mem_of_getElem? here)

/-- An entry after an insertion was there, or has the new value under the new key or under a
key that the new one matched. -/
lemma mem_insert (mem : entry ∈ insert same map key value layout) :
    entry ∈ map ∨ entry = (key, value) ∨
      ∃ other ∈ map, same key other.1 = true ∧ entry = (other.1, value) := by
  cases found : position same map key layout with
  | none =>
    rw [insert, found] at mem
    cases mem_cons.mp mem with
    | inl new => exact .inr (.inl new)
    | inr old => exact .inl old
  | some =>
    obtain ⟨other, present, matched⟩ := position_eq_some found
    rw [insert, found] at mem
    cases mem_update present mem with
    | inl old => exact .inl old
    | inr new => exact .inr (.inr ⟨other, mem_of_getElem? present, matched, new⟩)

/-- An insertion leaves alone the entries that its key does not match. -/
lemma mem_insert_of_mem (mem : entry ∈ map) (unmatched : same key entry.1 = false) :
    entry ∈ insert same map key value layout := by
  cases found : position same map key layout with
  | none =>
    rw [insert, found]
    exact mem_cons_of_mem _ mem
  | some index =>
    rw [insert, found]
    obtain ⟨place, here⟩ := getElem?_of_mem mem
    have kept : (map.update index value)[place]? = some entry := by
      rw [update, getElem?_modify_ne _ _ (position_ne found here unmatched).symm]
      exact here
    exact mem_of_getElem? kept

lemma mem_of_mem_remove (mem : entry ∈ remove same map key layout) : entry ∈ map := by
  rw [remove] at mem
  split at mem
  · exact mem_of_mem_eraseIdx mem
  · exact mem

/-- A removal leaves alone the entries that its key does not match. -/
lemma mem_remove_of_mem (mem : entry ∈ map) (unmatched : same key entry.1 = false) :
    entry ∈ remove same map key layout := by
  rw [remove]
  split
  · rename_i index found
    obtain ⟨place, here⟩ := getElem?_of_mem mem
    exact mem_eraseIdx_iff_getElem?.mpr ⟨place, position_ne found here unmatched, here⟩
  · exact mem

lemma remove_of_get_eq_none (absent : get same map key layout = none) :
    remove same map key layout = map := by
  cases found : position same map key layout with
  | none => rw [remove, found]
  | some =>
    obtain ⟨entry, present, -⟩ := position_eq_some found
    rw [get, found, Option.bind_some, present] at absent
    cases absent

variable {keys : List (κ × Nat)}

lemma mem_of_mem_removeAll (mem : entry ∈ removeAll same map keys) : entry ∈ map := by
  induction keys generalizing map with
  | nil => exact mem
  | cons _ _ ih => exact mem_of_mem_remove (ih mem)

lemma exists_of_not_mem_removeAll (mem : entry ∈ map)
    (gone : entry ∉ removeAll same map keys) : ∃ key ∈ keys, same key.1 entry.1 = true := by
  induction keys generalizing map with
  | nil => exact absurd mem gone
  | cons head _ ih =>
    cases matched : same head.1 entry.1 with
    | true => exact ⟨head, mem_cons_self, matched⟩
    | false =>
      obtain ⟨key, later, found⟩ := ih (mem_remove_of_mem mem matched) gone
      exact ⟨key, mem_cons_of_mem _ later, found⟩

/-! ## Keys that are apart -/

lemma map_fst_update (map : LooseMap κ ν) (index : Nat) (value : ν) :
    (map.update index value).map Prod.fst = map.map Prod.fst := by
  apply ext_getElem?
  intro place
  rw [getElem?_map, getElem?_map, update, getElem?_modify, Option.map_eq_map, Option.map_map]
  congr 1
  funext entry
  split
  · rfl
  · rfl

lemma apart_iff : map.Apart same ↔ (map.map Prod.fst).Pairwise (same · · = false) := by
  rw [Apart, pairwise_map]

section

variable (apart : map.Apart same)

include apart

lemma Apart.insert : (insert same map key value layout).Apart same := by
  cases found : position same map key layout with
  | none =>
    rw [LooseMap.insert, found]
    exact pairwise_cons.mpr ⟨position_eq_none found, apart⟩
  | some =>
    rw [LooseMap.insert, found]
    apply apart_iff.mpr
    rw [map_fst_update]
    exact apart_iff.mp apart

lemma Apart.remove : (remove same map key layout).Apart same := by
  rw [LooseMap.remove]
  split
  · exact List.Pairwise.sublist (eraseIdx_sublist map _) apart
  · exact apart

/-- Two entries at different positions have keys that do not match. -/
lemma Apart.ne_position (symm : ∀ left right, same left right = same right left)
    {left right : Nat} (here : map[left]? = some entry) (there : map[right]? = some other)
    (matched : same entry.1 other.1 = true) : left = right := by
  obtain ⟨leftBound, leftEntry⟩ := List.getElem?_eq_some_iff.mp here
  obtain ⟨rightBound, rightEntry⟩ := List.getElem?_eq_some_iff.mp there
  rcases Nat.lt_trichotomy left right with before | equal | after
  · have differ := pairwise_iff_getElem.mp apart left right leftBound rightBound before
    rw [leftEntry, rightEntry, matched] at differ
    cases differ
  · exact equal
  · have differ := pairwise_iff_getElem.mp apart right left rightBound leftBound after
    rw [leftEntry, rightEntry, symm, matched] at differ
    cases differ

/-- Removing a key of the map removes the entry with that very key. -/
lemma ne_of_mem_remove (refl : ∀ key, same key key = true)
    (symm : ∀ left right, same left right = same right left)
    (mem : entry ∈ remove same map key layout) : entry.1 ≠ key := by
  intro equal
  have matched : same key entry.1 = true := by
    rw [equal]
    exact refl key
  cases found : position same map key layout with
  | none =>
    have unmatched := position_eq_none found entry (mem_of_mem_remove mem)
    rw [matched] at unmatched
    cases unmatched
  | some =>
    rw [remove, found] at mem
    obtain ⟨place, different, here⟩ := mem_eraseIdx_iff_getElem?.mp mem
    obtain ⟨other, present, found⟩ := position_eq_some found
    rw [← equal] at found
    exact different (apart.ne_position symm here present found)

lemma Apart.removeAll : (removeAll same map keys).Apart same := by
  induction keys generalizing map with
  | nil => exact apart
  | cons _ _ ih => exact ih apart.remove

lemma ne_of_mem_removeAll (refl : ∀ key, same key key = true)
    (symm : ∀ left right, same left right = same right left)
    (mem : entry ∈ removeAll same map keys) {key : κ × Nat} (removed : key ∈ keys) :
    entry.1 ≠ key.1 := by
  induction keys generalizing map with
  | nil => cases removed
  | cons _ _ ih =>
    cases mem_cons.mp removed with
    | inl first =>
      subst first
      exact ne_of_mem_remove apart refl symm (mem_of_mem_removeAll mem)
    | inr later => exact ih apart.remove mem later

end

/-! ## Maps with the same keys -/

section Congr

variable {μ : Type} {other : LooseMap κ μ} (equal : map.map Prod.fst = other.map Prod.fst)

include equal

lemma position_congr : position same map key layout = position same other key layout := by
  have candidates_eq : ∀ {ν : Type} (map : LooseMap κ ν), candidates same map key =
      (List.range (map.map Prod.fst).length).filter
        fun index => (map.map Prod.fst)[index]?.any (same key) := by
    intro ν map
    simp [candidates, Option.any_map]
  rw [position, position, candidates_eq map, candidates_eq other, equal]

lemma keys_insert_congr {more : μ} : (insert same map key value layout).map Prod.fst =
    (insert same other key more layout).map Prod.fst := by
  rw [insert, insert, position_congr equal]
  split
  · rw [map_fst_update, map_fst_update, equal]
  · rw [map_cons, map_cons, equal]

lemma keys_remove_congr : (remove same map key layout).map Prod.fst =
    (remove same other key layout).map Prod.fst := by
  rw [remove, remove, position_congr equal]
  split
  · rw [← eraseIdx_map, ← eraseIdx_map, equal]
  · exact equal

lemma keys_removeAll_congr : (removeAll same map keys).map Prod.fst =
    (removeAll same other keys).map Prod.fst := by
  induction keys generalizing map other with
  | nil => exact equal
  | cons _ _ ih => exact ih (keys_remove_congr equal)

end Congr

end LooseMap

end TrustTunnel.Table
