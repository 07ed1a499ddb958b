import TrustTunnel.Rfc9000.Varint

/-!
# CRYPTO frames of RFC 9000

A CRYPTO frame carries a range of a byte stream. The frames of a packet may come in any order,
repeat each other, overlap and leave gaps.
-/

namespace TrustTunnel.Rfc9000

/-- A range of the stream; its offset and its length are variable-length integers. -/
structure CryptoRange where
  offset : Nat
  length : Nat
  offset_fits : offset < 2 ^ 62
  length_fits : length < 2 ^ 62

namespace CryptoRange

variable (range : CryptoRange)

def Carries (pos : Nat) : Prop := range.offset ≤ pos ∧ pos < range.offset + range.length

instance (pos : Nat) : Decidable (range.Carries pos) := inferInstanceAs (Decidable (_ ∧ _))

def positions : List Nat := List.range' range.offset range.length

lemma mem_positions {range : CryptoRange} {pos : Nat} :
    pos ∈ range.positions ↔ range.Carries pos := by
  rw [positions, List.mem_range'_1, Carries]

/-- The bytes of a stream in the range. -/
def bytesOf (stream : Nat → UInt8) : Bytes := range.positions.map stream

lemma length_bytesOf (stream : Nat → UInt8) : (range.bytesOf stream).length = range.length := by
  rw [bytesOf, List.length_map, positions, List.length_range']

/-- The ranges have no position in common. -/
def Apart (range other : CryptoRange) : Prop := ∀ pos, range.Carries pos → ¬other.Carries pos

instance : Std.Symm Apart := ⟨fun _ _ apart pos inOther inRange => apart pos inRange inOther⟩

/-- Ranges that are apart and in the order of their offsets follow each other. -/
lemma lt_of_apart {range other : CryptoRange} (before : range.offset < other.offset)
    (apart : range.Apart other) {left right : Nat}
    (inRange : range.Carries left) (inOther : other.Carries right) : left < right := by
  by_contra behind
  refine apart right ⟨?_, ?_⟩ inOther
  · exact le_trans (le_of_lt before) inOther.1
  · exact lt_of_le_of_lt (Nat.le_of_not_lt behind) inRange.2

end CryptoRange

/-- The frames of an Initial packet before the handshake goes on. -/
inductive Frame where
  | padding
  | ping
  | crypto (range : CryptoRange)

def Frame.range? : Frame → Option CryptoRange
  | padding => none
  | ping => none
  | crypto range => some range

/-- What the CRYPTO frames carry, in the order of the frames. -/
def ranges (frames : List Frame) : List CryptoRange := frames.filterMap Frame.range?

/-- The bytes are the frames with the content of a stream. The numbers may have any form. -/
inductive Renders (stream : Nat → UInt8) : List Frame → Bytes → Prop where
  | nil : Renders stream [] []
  | padding {frames : List Frame} {rest : Bytes} :
      Renders stream frames rest → Renders stream (.padding :: frames) (0 :: rest)
  | ping {frames : List Frame} {rest : Bytes} :
      Renders stream frames rest → Renders stream (.ping :: frames) (1 :: rest)
  | crypto {frames : List Frame} {rest offset length : Bytes} {range : CryptoRange} :
      Varint.Encodes offset range.offset → Varint.Encodes length range.length →
      Renders stream frames rest →
      Renders stream (.crypto range :: frames)
        (6 :: (offset ++ (length ++ (range.bytesOf stream ++ rest))))

lemma exists_renders (stream : Nat → UInt8) (frames : List Frame) :
    ∃ payload, Renders stream frames payload := by
  induction frames with
  | nil => exact ⟨[], .nil⟩
  | cons frame _ ih =>
    obtain ⟨rest, renders⟩ := ih
    cases frame with
    | padding => exact ⟨_, .padding renders⟩
    | ping => exact ⟨_, .ping renders⟩
    | crypto range =>
      exact ⟨_, .crypto (Varint.encodes_minimal range.offset_fits)
        (Varint.encodes_minimal range.length_fits) renders⟩

/-- The ranges have the first positions of the stream. -/
def Covered (ranges : List CryptoRange) (count : Nat) : Prop :=
  ∀ pos < count, ∃ range ∈ ranges, range.Carries pos

instance (ranges : List CryptoRange) (count : Nat) : Decidable (Covered ranges count) :=
  inferInstanceAs (Decidable (∀ pos < count, ∃ range ∈ ranges, range.Carries pos))

/-- The length of the longest beginning of the stream that the ranges have. -/
structure Longest (ranges : List CryptoRange) (count : Nat) : Prop where
  covered : Covered ranges count
  maximal : ∀ more, Covered ranges more → more ≤ count

variable {ranges : List CryptoRange}

lemma longest_of_missing {count : Nat} (covered : Covered ranges count)
    (missing : ¬∃ range ∈ ranges, range.Carries count) : Longest ranges count :=
  ⟨covered, fun _ further => Nat.le_of_not_lt fun beyond => missing (further count beyond)⟩

lemma Longest.unique {count other : Nat} (longest : Longest ranges count)
    (longest' : Longest ranges other) : count = other :=
  le_antisymm (longest'.maximal _ longest.covered) (longest.maximal _ longest'.covered)

end TrustTunnel.Rfc9000
