import Mathlib.Data.List.AList

/-!
# Maps collected from a list of entries

Entries are put into a map one after the other, so that of several entries with one key the
last one stays.
-/

namespace TrustTunnel.Table

open List

variable {κ ν : Type} [DecidableEq κ]

/-- Put the entries into a map, one after the other. -/
def collectInto (map : AList fun _ : κ => ν) (entries : List (κ × ν)) : AList fun _ : κ => ν :=
  entries.foldl (fun map entry => map.insert entry.1 entry.2) map

def collect (entries : List (κ × ν)) : AList fun _ : κ => ν := collectInto ∅ entries

variable {map : AList fun _ : κ => ν} {entries front back : List (κ × ν)} {key : κ} {value : ν}

/-- An entry goes before what the map had for its key. -/
lemma lookup_collectInto (map : AList fun _ : κ => ν) (entries : List (κ × ν)) (key : κ) :
    (collectInto map entries).lookup key = ((collect entries).lookup key).or (map.lookup key) := by
  induction entries generalizing map with
  | nil => simp [collectInto, collect]
  | cons entry entries ih =>
    have first : (collectInto map (entry :: entries)).lookup key =
        (collectInto (map.insert entry.1 entry.2) entries).lookup key := rfl
    have alone : (collect (entry :: entries)).lookup key =
        (collectInto ((∅ : AList fun _ : κ => ν).insert entry.1 entry.2) entries).lookup key :=
      rfl
    rw [first, alone, ih, ih, Option.or_assoc]
    by_cases same : key = entry.1
    · subst same
      rw [AList.lookup_insert, AList.lookup_insert, Option.some_or]
    · rw [AList.lookup_insert_ne same, AList.lookup_insert_ne same, AList.lookup_empty,
        Option.none_or]

lemma lookup_collect_append (front back : List (κ × ν)) (key : κ) :
    (collect (front ++ back)).lookup key =
      ((collect back).lookup key).or ((collect front).lookup key) := by
  have split : collect (front ++ back) = collectInto (collect front) back := foldl_append
  rw [split, lookup_collectInto]

lemma lookup_collect_singleton (entry : κ × ν) (key : κ) :
    (collect [entry]).lookup key = if key = entry.1 then some entry.2 else none := by
  have single : collect [entry] = (∅ : AList fun _ : κ => ν).insert entry.1 entry.2 := rfl
  rw [single]
  by_cases same : key = entry.1
  · subst same
    rw [AList.lookup_insert, if_pos rfl]
  · rw [AList.lookup_insert_ne same, AList.lookup_empty, if_neg same]

lemma mem_of_lookup_collect (found : (collect entries).lookup key = some value) :
    (key, value) ∈ entries := by
  induction entries with
  | nil => cases found
  | cons _ _ ih =>
    rw [← singleton_append, lookup_collect_append, Option.or_eq_some_iff] at found
    rcases found with later | ⟨-, here⟩
    · exact mem_cons_of_mem _ (ih later)
    · rw [lookup_collect_singleton, Option.ite_none_right_eq_some] at here
      obtain ⟨rfl, same⟩ := here
      cases same
      exact mem_cons_self

lemma exists_lookup_collect (mem : (key, value) ∈ entries) :
    ∃ last, (collect entries).lookup key = some last := by
  obtain ⟨front, back, rfl⟩ := append_of_mem mem
  rw [← singleton_append, lookup_collect_append, lookup_collect_append,
    lookup_collect_singleton, if_pos rfl]
  cases (collect back).lookup key with
  | none => exact ⟨value, rfl⟩
  | some last => exact ⟨last, rfl⟩

/-- A key of which all entries have the same value has that value. -/
lemma lookup_collect_of_mem (mem : (key, value) ∈ entries)
    (only : ∀ other, (key, other) ∈ entries → other = value) :
    (collect entries).lookup key = some value := by
  obtain ⟨last, found⟩ := exists_lookup_collect mem
  rw [found, only last (mem_of_lookup_collect found)]

/-- When no key occurs twice, the map is the list of the entries. -/
lemma lookup_collect_iff (distinct : (entries.map Prod.fst).Nodup) :
    (collect entries).lookup key = some value ↔ (key, value) ∈ entries := by
  refine ⟨mem_of_lookup_collect, fun mem => lookup_collect_of_mem mem ?_⟩
  intro other otherMember
  exact congrArg Prod.snd (inj_on_of_nodup_map distinct otherMember mem rfl)

lemma lookup_collect_eq_none_iff :
    (collect entries).lookup key = none ↔ ∀ entry ∈ entries, entry.1 ≠ key := by
  constructor
  · rintro absent ⟨own, value⟩ mem rfl
    obtain ⟨last, found⟩ := exists_lookup_collect mem
    cases absent.symm.trans found
  · intro absent
    rw [Option.eq_none_iff_forall_ne_some]
    intro value found
    exact absent _ (mem_of_lookup_collect found) rfl

end TrustTunnel.Table
