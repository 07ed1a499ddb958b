import TrustTunnel.Chunked.Boundaries
import TrustTunnel.Chunked.StepMachine

/-!
# When the items of a stream are delivered

A machine reads items off a stream that arrives in chunks. Some items are noticed only when
something follows them. Every item is delivered with its last element, if and only if no such item
ends a chunk.
-/

namespace TrustTunnel.Chunked

open List

/-- Items on a stream, and what a reader hands out for them. -/
structure Items (ι α ο : Type) where
  bytes : ι → List α
  output : ι → Option ο
  /-- The item is noticed only when something follows it. -/
  Late : ι → Prop

namespace Items

variable {ι σ α ο φ : Type} (items : Items ι α ο)

def stream (sent : List ι) : List α := sent.flatMap items.bytes

/-- Whatever part of the chunks is fed, the items that are complete in it are delivered. -/
def Prompt (delivers : List (List α) → List ο → Prop) (sent : List ι)
    (chunks : List (List α)) : Prop :=
  ∀ fed later, chunks = fed ++ later → ∀ count,
    (items.stream (sent.take count)).length ≤ fed.flatten.length →
      ∃ delivered, delivers fed delivered ∧ (sent.take count).filterMap items.output <+: delivered

/-- An item that is handed out and needs something behind it has that in its chunk. -/
def Followed (sent : List ι) (chunks : List (List α)) : Prop :=
  ∀ fed later, chunks = fed ++ later → ∀ before item after, sent = before ++ item :: after →
    fed.flatten = items.stream (before ++ [item]) → (items.output item).isSome → ¬items.Late item

/-- The machine reads the items one by one, from boundary to boundary. -/
structure ReadBy (machine : StepMachine σ α ο φ) (good boundary : σ → Prop) : Prop where
  isLocal : machine.Local good
  nonempty : ∀ item, items.bytes item ≠ []
  reads : ∀ {state item} (rest : List α), boundary state → (items.Late item → rest ≠ []) →
    ∃ next, boundary next ∧ ∀ {final outputs}, machine.Run good next rest final outputs →
      machine.Run good state (items.bytes item ++ rest) final
        ((items.output item).toList ++ outputs)
  waits : ∀ {state item}, boundary state → items.Late item →
    ∃ final, machine.Run good state (items.bytes item) final []

variable {items} {machine : StepMachine σ α ο φ} {good boundary : σ → Prop} {state : σ}
  {sent : List ι} {chunks : List (List α)}

lemma stream_cons (item : ι) (sent : List ι) :
    items.stream (item :: sent) = items.bytes item ++ items.stream sent := flatMap_cons

lemma stream_eq_nil (nonempty : ∀ item, items.bytes item ≠ [])
    (empty : items.stream sent = []) : sent = [] := by
  cases sent with
  | nil => rfl
  | cons item => exact absurd (append_eq_nil_iff.mp empty).1 (nonempty item)

lemma followed_of_not_late (prompt : ∀ item ∈ sent, ¬items.Late item) :
    items.Followed sent chunks := by
  rintro fed later - before item after rfl - -
  exact prompt item (by simp)

namespace ReadBy

variable (reader : items.ReadBy machine good boundary)

include reader

section

variable (ready : boundary state)

include ready

lemma run_item (item : ι) :
    ∃ final outputs, machine.Run good state (items.bytes item) final outputs := by
  by_cases late : items.Late item
  · obtain ⟨final, run⟩ := reader.waits ready late
    exact ⟨final, [], run⟩
  · obtain ⟨next, -, continues⟩ := reader.reads [] ready fun isLate => absurd isLate late
    have run := continues (.done next)
    rw [append_nil] at run
    exact ⟨next, _, run⟩

/-- The run over a first part of the stream hands out the items that are complete in it, unless the
part ends behind an item that needs more. -/
lemma run_part {data rest : List α} (part : data ++ rest = items.stream sent)
    (followed : ∀ before item after, sent = before ++ item :: after →
      data = items.stream (before ++ [item]) → (items.output item).isSome → ¬items.Late item) :
    ∃ final outputs, machine.Run good state data final outputs ∧
      ∀ count, (items.stream (sent.take count)).length ≤ data.length →
        (sent.take count).filterMap items.output <+: outputs := by
  induction sent generalizing state data with
  | nil =>
    have nothing := (append_eq_nil_iff.mp part).1
    subst nothing
    exact ⟨state, [], .done state, fun count _ => by simp⟩
  | cons item sent ih =>
    by_cases complete : (items.bytes item).length ≤ data.length
    · obtain ⟨data, rfl, behind⟩ := exists_tail_of_append_eq part complete
      by_cases stuck : items.Late item ∧ data = []
      · obtain ⟨late, rfl⟩ := stuck
        obtain ⟨final, run⟩ := reader.waits ready late
        have skipped : items.output item = none := by
          by_contra handed
          exact followed [] item sent rfl (by simp [stream]) (Option.ne_none_iff_isSome.mp handed)
            late
        refine ⟨final, [], by rwa [append_nil], fun count within => ?_⟩
        cases count with
        | zero => exact nil_prefix
        | succ count =>
          rw [take_succ_cons, stream_cons] at within
          have none : items.stream (sent.take count) = [] := by
            rw [← length_eq_zero_iff]
            simp only [length_append, length_nil] at within
            omega
          simp [stream_eq_nil reader.nonempty none, skipped]
      · obtain ⟨next, nextReady, continues⟩ := reader.reads data ready
          fun late empty => stuck ⟨late, empty⟩
        obtain ⟨final, outputs, run, delivered⟩ := ih nextReady behind
          fun before other after shape ends => followed _ other after
            (by rw [shape, cons_append]) (by rw [ends, cons_append, stream_cons])
        refine ⟨final, _, continues run, fun count within => ?_⟩
        cases count with
        | zero => exact nil_prefix
        | succ count =>
          rw [take_succ_cons, stream_cons] at within
          have rest := delivered count (by simpa using within)
          rw [take_succ_cons, filterMap_cons]
          cases items.output item with
          | none => exact rest
          | some => exact cons_prefix_cons.mpr ⟨rfl, rest⟩
    · -- The first item is not complete.
      obtain ⟨missing, whole, -⟩ := exists_tail_of_append_eq part.symm (by omega)
      obtain ⟨_, outputs, run⟩ := reader.run_item ready item
      obtain ⟨final, before, -, first, -, -⟩ := run.split reader.isLocal whole
      refine ⟨final, before, first, fun count within => ?_⟩
      cases count with
      | zero => exact nil_prefix
      | succ =>
        rw [take_succ_cons, stream_cons, length_append] at within
        omega

/-- Complete items before one that waits are handed out, that one is not. -/
lemma run_waiting {item : ι} (late : items.Late item) (before : List ι) :
    ∃ final, machine.Run good state (items.stream (before ++ [item])) final
      (before.filterMap items.output) := by
  induction before generalizing state with
  | nil =>
    obtain ⟨final, run⟩ := reader.waits ready late
    exact ⟨final, by simpa [stream] using run⟩
  | cons first before ih =>
    have follows : items.stream (before ++ [item]) ≠ [] := fun empty => by
      simpa using stream_eq_nil reader.nonempty empty
    obtain ⟨next, nextReady, continues⟩ := reader.reads _ ready fun _ => follows
    obtain ⟨final, run⟩ := ih nextReady
    have whole := continues run
    rw [cons_append, filterMap_cons]
    cases handed : items.output first <;> rw [handed] at whole <;> exact ⟨final, whole⟩

/-- Every item is delivered with the last of its elements, if and only if no item that needs
something behind it ends a chunk. -/
lemma prompt_iff {delivers : List (List α) → List ο → Prop}
    (delivered : ∀ {fed final outputs}, machine.Run good state fed.flatten final outputs →
      delivers fed outputs)
    (unique : ∀ {fed outputs outputs'}, delivers fed outputs → delivers fed outputs' →
      outputs.length = outputs'.length)
    (split : chunks.flatten = items.stream sent) :
    items.Prompt delivers sent chunks ↔ items.Followed sent chunks := by
  constructor
  · rintro prompt fed later rfl before item after rfl ends handed late
    obtain ⟨final, run⟩ := reader.run_waiting ready late before
    rw [← ends] at run
    have taken : (before ++ item :: after).take (before.length + 1) = before ++ [item] := by
      rw [append_cons, take_left' (by simp)]
    obtain ⟨outputs, returned, front⟩ := prompt fed later rfl _ (Nat.le_of_eq (by rw [taken, ends]))
    have lengths := front.length_le
    obtain ⟨output, isSome⟩ := Option.isSome_iff_exists.mp handed
    rw [unique returned (delivered run), taken, filterMap_append, length_append,
      filterMap_cons_some isSome] at lengths
    exact absurd lengths (Nat.not_succ_le_self _)
  · rintro followed fed later rfl count within
    rw [flatten_append] at split
    obtain ⟨final, outputs, run, complete⟩ := reader.run_part ready split (followed fed later rfl)
    exact ⟨outputs, delivered run, complete count within⟩

end

end ReadBy

end Items

end TrustTunnel.Chunked
