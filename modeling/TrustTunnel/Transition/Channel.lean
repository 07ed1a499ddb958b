import Mathlib.Data.List.Basic

/-!
# Bounded channels

A channel between one sender and one receiver holds a bounded number of values. What was
received is kept along, so that what was sent is known as well: it is what was received and,
after that, what is still queued.
-/

namespace TrustTunnel.Transition

open List

structure BoundedChannel (α : Type) (capacity : Nat) where
  received : List α
  queue : List α
  bounded : queue.length ≤ capacity

namespace BoundedChannel

variable {α : Type} {capacity : Nat}

def empty : BoundedChannel α capacity := ⟨[], [], Nat.zero_le capacity⟩

/-- The values that were sent, in their order. -/
def sent (channel : BoundedChannel α capacity) : List α := channel.received ++ channel.queue

/-- There is room for one more value. -/
def hasRoom (channel : BoundedChannel α capacity) : Bool := channel.queue.length < capacity

/-- The value is taken if there is room for it. -/
def send (channel : BoundedChannel α capacity) (value : α) : BoundedChannel α capacity :=
  if room : channel.queue.length < capacity then
    { channel with
      queue := channel.queue ++ [value]
      bounded := by rw [List.length_append, List.length_singleton]; exact room }
  else channel

/-- The first value of the queue, if there is one, and the channel without it. -/
def recv (channel : BoundedChannel α capacity) : Option (α × BoundedChannel α capacity) :=
  match split : channel.queue with
  | [] => none
  | value :: rest => some (value, {
      received := channel.received ++ [value]
      queue := rest
      bounded := Nat.le_of_succ_le (by simpa [split] using channel.bounded) })

@[simp] lemma sent_empty : (empty : BoundedChannel α capacity).sent = [] := rfl

@[simp] lemma queue_empty : (empty : BoundedChannel α capacity).queue = [] := rfl

@[simp] lemma received_send (channel : BoundedChannel α capacity) (value : α) :
    (channel.send value).received = channel.received := by
  rw [send]
  split <;> rfl

lemma received_prefix_sent (channel : BoundedChannel α capacity) :
    channel.received <+: channel.sent :=
  prefix_append _ _

lemma sent_send {channel : BoundedChannel α capacity} (room : channel.hasRoom = true) (value : α) :
    (channel.send value).sent = channel.sent ++ [value] := by
  rw [send, dif_pos (of_decide_eq_true room)]
  exact (append_assoc ..).symm

lemma sent_prefix_send (channel : BoundedChannel α capacity) (value : α) :
    channel.sent <+: (channel.send value).sent := by
  cases room : channel.hasRoom with
  | true => exact sent_send room value ▸ prefix_append _ _
  | false =>
    have kept : channel.send value = channel := by rw [send, dif_neg (of_decide_eq_false room)]
    exact kept.symm ▸ prefix_rfl

variable {channel rest : BoundedChannel α capacity} {value : α}

lemma recv_eq_none : channel.recv = none ↔ channel.queue = [] := by
  rw [recv]
  split <;> simp [*]

section

variable (taken : channel.recv = some (value, rest))

include taken

lemma queue_of_recv : channel.queue = value :: rest.queue := by
  rw [recv] at taken
  split at taken
  · cases taken
  · cases taken
    assumption

lemma queue_ne_nil : channel.queue ≠ [] := by
  rw [queue_of_recv taken]
  exact cons_ne_nil _ _

lemma received_of_recv : rest.received = channel.received ++ [value] := by
  rw [recv] at taken
  split at taken
  · cases taken
  · cases taken
    rfl

lemma sent_of_recv : rest.sent = channel.sent := by
  rw [sent, sent, received_of_recv taken, queue_of_recv taken, append_assoc]
  rfl

lemma hasRoom_of_recv : rest.hasRoom = true := by
  have short := channel.bounded
  rw [queue_of_recv taken] at short
  exact decide_eq_true short

end

lemma received_eq_sent (drained : channel.queue = []) : channel.received = channel.sent := by
  rw [sent, drained, append_nil]

/-- A channel for one value is empty after that was received. -/
lemma received_eq_sent_of_recv {channel rest : BoundedChannel α 1}
    (taken : channel.recv = some (value, rest)) : rest.received = rest.sent := by
  have short := channel.bounded
  rw [queue_of_recv taken, length_cons] at short
  exact received_eq_sent (eq_nil_of_length_eq_zero (by omega))

end BoundedChannel

end TrustTunnel.Transition
