import TrustTunnel.Endpoint.ForwardedStream
import TrustTunnel.Transition.Trace

/-!
# Dropped reads of a forwarded request

The source of a forwarded request moves its state out while it waits for the body of the
client. A read that is dropped there takes the stream of the client with it, and the next read
reports the end.
-/

namespace TrustTunnel.Endpoint.ForwardedStreamSource

open Transition

/-- A pending read is dropped. Only the reads of a body wait. -/
def dropRead (self : ForwardedStreamSource) : ForwardedStreamSource :=
  match self.state with
  | .transferringBody _ _ => ⟨.done, []⟩
  | .wantSendRequest _ _ | .done => self

/-- The part of the body that is sent. -/
def sentBody (length : BodyLength) (body : Bytes) : Bytes :=
  match length with
  | .determined length => body.take length
  | .chunked => body

/-- What the source still has to return. -/
def unread (self : ForwardedStreamSource) : Bytes :=
  match self.state with
  | .wantSendRequest serializedRequest bodyLength =>
    serializedRequest ++ sentBody bodyLength self.source.flatten
  | .transferringBody (.determined length) sentBytes =>
    self.source.flatten.take (length - sentBytes)
  | .transferringBody .chunked _ => self.source.flatten
  | .done => []

/-- How many reads are left at most. -/
def readsLeft (self : ForwardedStreamSource) : Nat :=
  match self.state with
  | .wantSendRequest _ _ => self.source.length + 2
  | .transferringBody _ _ => self.source.length + 1
  | .done => 1

/-- A source, the bytes that its reads have returned, and whether one returned the end. -/
structure Reader where
  source : ForwardedStreamSource
  returned : Bytes
  ended : Bool

inductive ReadEvent where
  | read
  | dropped

namespace Reader

def next (self : Reader) : ReadEvent → Reader
  | .read =>
    match self.source.read with
    | (.chunk bytes, source) => { self with source, returned := self.returned ++ bytes }
    | (.eof, source) => { self with source, ended := true }
  | .dropped => { self with source := self.source.dropRead }

/-- Nothing is lost, and the end is not returned before the whole of the request. -/
def Intact (req : Bytes) (self : Reader) : Prop :=
  self.returned ++ self.source.unread = req ∧ (self.ended = true → self.returned = req)

/-- A read that waits for a part of the body is not dropped. -/
def Undisturbed (self : Reader) : ReadEvent → Prop
  | .read => True
  | .dropped =>
    match self.source.state with
    | .transferringBody _ _ => self.source.unread = []
    | .wantSendRequest _ _ | .done => True

end Reader

/-- A read returns a part of what is unread, and the end only when nothing is. -/
lemma read_cases (self : ForwardedStreamSource) :
    (∃ bytes after, self.read = (.chunk bytes, after) ∧ bytes ++ after.unread = self.unread ∧
        after.readsLeft < self.readsLeft) ∨
      ∃ after, self.read = (.eof, after) ∧ self.unread = [] ∧ after.unread = [] := by
  obtain ⟨state, source⟩ := self
  cases state with
  | wantSendRequest serializedRequest bodyLength =>
    refine .inl ⟨serializedRequest, _, rfl, ?_⟩
    by_cases empty : bodyLength = .determined 0
    · simp [unread, sentBody, readsLeft, empty]
    · cases bodyLength <;> simp_all [unread, sentBody, readsLeft]
  | transferringBody bodyLength sentBytes =>
    cases source with
    | nil => cases bodyLength <;> exact .inr ⟨_, rfl, by simp [unread], rfl⟩
    | cons bytes =>
      cases bodyLength with
      | chunked => exact .inl ⟨bytes, _, rfl, by simp [unread, readsLeft]⟩
      | determined length =>
        by_cases more : sentBytes < length
        · have front : bytes.take (min bytes.length (length - sentBytes)) =
              bytes.take (length - sentBytes) := by
            rw [min_comm, ← List.take_eq_take_min]
          have back : length - (sentBytes + min bytes.length (length - sentBytes)) =
              length - sentBytes - bytes.length := by omega
          refine .inl ⟨_, _, if_pos more, ?_⟩
          simp [unread, readsLeft, List.take_append, front, back]
        · have nothing : length - sentBytes = 0 := by omega
          exact .inr ⟨_, if_neg more, by simp [unread, nothing], rfl⟩
  | done => exact .inr ⟨_, rfl, rfl, rfl⟩

variable {self : ForwardedStreamSource} {reads : Nat}

lemma eq_unread_of_drain {bytes : Bytes} (drained : drain reads self = some bytes) :
    bytes = self.unread := by
  induction reads generalizing self bytes with
  | zero => cases drained
  | succ _ ih =>
    rw [drain] at drained
    rcases self.read_cases with ⟨chunk, after, reading, part, -⟩ | ⟨after, reading, nothing, -⟩
    · rw [reading] at drained
      obtain ⟨rest, restDrained, rfl⟩ := Option.map_eq_some_iff.mp drained
      rw [ih restDrained, part]
    · rw [reading] at drained
      rw [nothing]
      exact (Option.some.inj drained).symm

lemma drain_of_readsLeft_le (enough : self.readsLeft ≤ reads) :
    drain reads self = some self.unread := by
  induction reads generalizing self with
  | zero =>
    rw [readsLeft] at enough
    split at enough <;> omega
  | succ _ ih =>
    rw [drain]
    rcases self.read_cases with ⟨chunk, after, reading, part, fewer⟩ | ⟨after, reading, nothing, -⟩
    · rw [reading, ← part]
      exact congrArg (Option.map _) (ih (by omega))
    · rw [reading, nothing]

namespace Reader

variable {req : Bytes} {self : Reader}

lemma intact_next {event : ReadEvent} (intact : self.Intact req) :
    (self.next event).Intact req ↔ self.Undisturbed event := by
  obtain ⟨source, returned, ended⟩ := self
  obtain ⟨whole, complete⟩ := intact
  dsimp only at whole complete
  cases event with
  | read =>
    refine iff_of_true ?_ trivial
    rcases source.read_cases with ⟨bytes, after, reads, part, -⟩ | ⟨after, reads, nothing, left⟩
    · rw [next, reads]
      rw [← part, ← List.append_assoc] at whole
      refine ⟨whole, fun closed => ?_⟩
      simp_all
    · rw [next, reads]
      rw [nothing, List.append_nil] at whole
      exact ⟨by simp [left, whole], fun _ => whole⟩
  | dropped =>
    rw [next, Undisturbed, dropRead]
    cases state : source.state with
    | transferringBody =>
      constructor
      · intro kept
        have same := kept.1.trans whole.symm
        simpa [unread] using same
      · intro nothing
        rw [nothing] at whole
        exact ⟨whole, complete⟩
    | wantSendRequest | done => exact iff_of_true ⟨whole, complete⟩ trivial

/-- A source that nothing was read from. -/
def start (serializedRequest : Bytes) (bodyLength : BodyLength) (chunks : List Bytes) : Reader :=
  ⟨.new serializedRequest bodyLength chunks, [], false⟩

/-- However the reads of a request are dropped and repeated, nothing is lost and the end comes
behind the body, if and only if no read is dropped that waits for a part of the body. -/
theorem always_intact_iff (serializedRequest : Bytes) (bodyLength : BodyLength)
    (chunks : List Bytes) (events : List ReadEvent) :
    Always next (Intact (serializedRequest ++ sentBody bodyLength chunks.flatten))
        (start serializedRequest bodyLength chunks) events ↔
      EachStep next Undisturbed (start serializedRequest bodyLength chunks) events :=
  always_iff_eachStep intact_next ⟨rfl, nofun⟩ events

/-- A read is dropped before the body arrives, and the next one returns the end. -/
theorem not_intact_dropped :
    ¬Always next
      (Intact (.ofString "POST / HTTP/1.1\r\ncontent-length: 2\r\nhost: a\r\n\r\n" ++
        sentBody (.determined 2) [Bytes.ofString "hi"].flatten))
      (start (.ofString "POST / HTTP/1.1\r\ncontent-length: 2\r\nhost: a\r\n\r\n") (.determined 2)
        [.ofString "hi"]) [.read, .dropped, .read] := by
  rintro ⟨-, -, -, -, complete⟩
  exact absurd (complete rfl) (by decide)

end Reader

end TrustTunnel.Endpoint.ForwardedStreamSource
