import Mathlib.Data.List.Basic
import Mathlib.Tactic.Common

/-!
# Maps that forget the least recently used entry

A map of a bounded size as the list of its entries, the most recently used one first. A lookup
and an insertion move the entry to the front, and an insertion into a full map drops the entry
at the end.
-/

namespace TrustTunnel.Table

/-- The entries of a map, the most recently used one first. -/
abbrev Lru (κ ν : Type) := List (κ × ν)

namespace Lru

variable {κ ν : Type} [DecidableEq κ]

/-- The value of a key. -/
def get (map : Lru κ ν) (key : κ) : Option ν := map.lookup key

/-- Drop the entry of a key. -/
def erase (map : Lru κ ν) (key : κ) : Lru κ ν := map.filter fun entry => entry.1 ≠ key

/-- Give a key a value. -/
def insert (capacity : Nat) (map : Lru κ ν) (key : κ) (value : ν) : Lru κ ν :=
  ((key, value) :: map.erase key).take capacity

/-- Give a key that is in the map another value, as it is done through the result of a lookup. -/
def modify (map : Lru κ ν) (key : κ) (value : ν) : Lru κ ν := (key, value) :: map.erase key

variable {map : Lru κ ν} {key : κ} {value : ν} {entry : κ × ν} {capacity : Nat}

lemma mem_of_mem_erase (mem : entry ∈ map.erase key) : entry ∈ map := List.mem_of_mem_filter mem

lemma mem_modify (mem : entry ∈ map.modify key value) : entry = (key, value) ∨ entry ∈ map :=
  (List.mem_cons.mp mem).imp_right mem_of_mem_erase

lemma mem_insert (mem : entry ∈ map.insert capacity key value) :
    entry = (key, value) ∨ entry ∈ map :=
  mem_modify (List.mem_of_mem_take mem)

lemma mem_of_get (found : map.get key = some value) : (key, value) ∈ map := by
  obtain ⟨before, behind, rfl, -⟩ := List.lookup_eq_some_iff.mp found
  exact List.mem_append_right before List.mem_cons_self

end Lru

end TrustTunnel.Table
