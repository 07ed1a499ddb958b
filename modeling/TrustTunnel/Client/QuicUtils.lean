import Mathlib.Data.List.Sort
import TrustTunnel.Rfc9000.CryptoFrames
import TrustTunnel.Table.OrderedSet

/-!
# CRYPTO frames of QUIC Initial packets

The client reassembles the handshake bytes of a decrypted Initial packet: it collects the
CRYPTO frames in a set that is ordered by their offsets and joins their data.
-/

namespace TrustTunnel.Client.QuicUtils

open Wire

/-- `get_varint`, for a form of the given number of bytes. -/
def getVarint (length : Nat) (buf : Bytes) : Nat :=
  if length = 1 then (buf.headD 0).toNat
  else beNat (((buf.headD 0) &&& 63) :: (buf.drop 1).take (length - 1))

/-- A number and what is behind it. -/
def readVarintAdvance (payload : Bytes) : Option (Nat × Bytes) :=
  match payload with
  | [] => none
  | first :: rest =>
    let length := 1 <<< (first >>> 6).toNat
    if rest.length + 1 < length then none
    else some (getVarint length (first :: rest), (first :: rest).drop length)

structure Link where
  offset : Nat
  data : Bytes
  deriving DecidableEq

/-- The loop over the frames; there are at most as many of them as bytes. -/
def collectFragments : Nat → Bytes → List Link → Option (List Link)
  | 0, _, fragments => some fragments
  | rounds + 1, payload, fragments =>
    match readVarintAdvance payload with
    | none => some fragments
    | some (type, payload) =>
      if type = 0 ∨ type = 1 then collectFragments rounds payload fragments
      else if type = 6 then
        match readVarintAdvance payload with
        | none => none
        | some (offset, payload) =>
          match readVarintAdvance payload with
          | none => none
          | some (length, payload) =>
            if payload.length < length then none
            else
              collectFragments rounds (payload.drop length)
                (Table.emplace Link.offset ⟨offset, payload.take length⟩ fragments)
      else some fragments

def reassembleInitialCryptoFrames (payload : Bytes) : Option Bytes :=
  match collectFragments payload.length payload [] with
  | none => none
  | some [] => none
  | some fragments => some (fragments.flatMap Link.data)

/-!
## Reassembly of CRYPTO frames

The client joins the data of the frames that are the first ones with their offsets. That is the
beginning of the stream exactly when these frames have every byte of it once and no byte behind
a gap.
-/

open Rfc9000 Table List Varint
open CryptoRange (offset mem_positions)

/-! ## Frames that are read -/

lemma getVarint_written {form : Fin 4} {value : Nat} (small : value < limit form)
    (rest : Bytes) : getVarint (width form) (written form value ++ rest) = value := by
  obtain ⟨low, below, tail, cons, number⟩ := written_eq_cons small
  by_cases short : form = 0
  · subst short
    have below : value < 64 := small
    rw [written_zero, getVarint, if_pos (by decide), cons_append, headD_cons, UInt8.toNat_ofNat']
    omega
  · have length := length_written form value
    rw [cons, length_cons] at length
    rw [getVarint, if_neg (width_ne_one form short), cons, cons_append,
      headD_cons, drop_succ_cons, drop_zero, take_left' (by omega), and_first form below]
    exact number

variable {bytes : Bytes}

lemma readVarintAdvance_encodes {value : Nat} (encodes : Varint.Encodes bytes value)
    (rest : Bytes) : readVarintAdvance (bytes ++ rest) = some (value, rest) := by
  obtain ⟨form, small, rfl⟩ := encodes
  obtain ⟨low, below, tail, cons, -⟩ := written_eq_cons small
  have length := length_written form value
  have read := getVarint_written small rest
  have behind : (written form value ++ rest).drop (width form) = rest := by
    rw [← length, drop_left]
  have enough : width form ≤ (written form value ++ rest).length := by
    rw [length_append]
    omega
  rw [cons, cons_append] at read behind enough ⊢
  have width : 1 <<< (UInt8.ofNat (64 * form.val + low) >>> 6).toNat = width form := by
    rw [shiftRight_first form below, UInt8.toNat_ofNat', Nat.one_shiftLeft,
      Nat.mod_eq_of_lt (by omega), width]
  rw [readVarintAdvance, width]
  simp only [read, behind]
  rw [if_neg]
  rw [length_cons] at enough
  omega

/-- The fragment of a frame. -/
def linkOf (stream : Nat → UInt8) (range : CryptoRange) : Link :=
  ⟨range.offset, range.bytesOf stream⟩

lemma readVarintAdvance_type {type : Nat} (small : type < 64) (rest : Bytes) :
    readVarintAdvance (UInt8.ofNat type :: rest) = some (type, rest) :=
  readVarintAdvance_encodes (encodes_short small) rest

variable {stream : Nat → UInt8} {frames : List Frame} {payload : Bytes}

lemma collectFragments_renders (renders : Renders stream frames payload) {rounds : Nat}
    (enough : payload.length ≤ rounds) (set : List CryptoRange) :
    collectFragments rounds payload (set.map (linkOf stream)) =
      some ((emplaceAll CryptoRange.offset set (ranges frames)).map (linkOf stream)) := by
  induction renders generalizing rounds set with
  | nil => cases rounds <;> rfl
  | @padding frames rest renders ih =>
    cases rounds with
    | zero => exact absurd enough (Nat.not_succ_le_zero _)
    | succ =>
      have type : readVarintAdvance (0 :: rest) = some (0, rest) :=
        readVarintAdvance_type (by decide) rest
      exact ih (Nat.le_of_succ_le_succ enough) set
  | @ping frames rest renders ih =>
    cases rounds with
    | zero => exact absurd enough (Nat.not_succ_le_zero _)
    | succ =>
      have type : readVarintAdvance (1 :: rest) = some (1, rest) :=
        readVarintAdvance_type (by decide) rest
      exact ih (Nat.le_of_succ_le_succ enough) set
  | @crypto frames rest offset length range atOffset ofLength renders ih =>
    cases rounds with
    | zero => exact absurd enough (Nat.not_succ_le_zero _)
    | succ rounds =>
      have type : readVarintAdvance (6 :: (offset ++ (length ++ (range.bytesOf stream ++ rest)))) =
          some (6, offset ++ (length ++ (range.bytesOf stream ++ rest))) :=
        readVarintAdvance_type (by decide) _
      have size := range.length_bytesOf stream
      have room : ¬(range.bytesOf stream ++ rest).length < range.length := by
        rw [length_append]
        omega
      have left : rest.length ≤ rounds := by
        simp only [length_cons, length_append] at enough
        omega
      rw [collectFragments, type]
      simp only [readVarintAdvance_encodes atOffset, readVarintAdvance_encodes ofLength,
        if_neg room, take_left' size, drop_left' size]
      have placed : emplace Link.offset (linkOf stream range) (set.map (linkOf stream)) =
          (emplace CryptoRange.offset range set).map (linkOf stream) :=
        (map_emplace _ (fun _ => rfl) range set).symm
      exact (congrArg _ placed).trans (ih left _)

/-- The positions that the client takes from the frames, in its order. -/
def taken (frames : List Frame) : List Nat :=
  (emplaceAll CryptoRange.offset [] (ranges frames)).flatMap CryptoRange.positions

lemma reassemble_renders (renders : Renders stream frames payload) :
    reassembleInitialCryptoFrames payload =
      if ranges frames = [] then none else some ((taken frames).map stream) := by
  have collected := collectFragments_renders renders (le_refl _) []
  rw [map_nil] at collected
  rw [reassembleInitialCryptoFrames, collected, taken]
  cases ranges frames with
  | nil => rfl
  | cons range others =>
    have mem : range ∈ emplaceAll offset [] (range :: others) :=
      (mem_emplaceAll .nil _).mpr (.inr ⟨mem_cons_self, forall_mem_nil _⟩)
    obtain ⟨first, rest, same⟩ := exists_cons_of_ne_nil (ne_nil_of_mem mem)
    rw [same, map_flatMap]
    exact congrArg some (flatMap_map _ _ _)

/-! ## Frames that tile a beginning of the stream -/

/-- The frames that are the first ones with their offsets. -/
def counted (frames : List Frame) : List CryptoRange := firsts CryptoRange.offset (ranges frames)

/-- The counted frames have each of the first positions once, and no others. -/
structure Tiles (frames : List Frame) (count : Nat) : Prop where
  apart : ∀ range ∈ counted frames, ∀ other ∈ counted frames, range.offset ≠ other.offset →
    range.Apart other
  inside : ∀ range ∈ counted frames, ∀ pos, range.Carries pos → pos < count
  whole : ∀ pos < count, ∃ range ∈ counted frames, range.Carries pos

variable {frames : List Frame} {count : Nat}

lemma mem_set {range : CryptoRange} :
    range ∈ emplaceAll offset [] (ranges frames) ↔ range ∈ counted frames := by
  simp [mem_emplaceAll .nil, counted]

lemma mem_taken {pos : Nat} : pos ∈ taken frames ↔ ∃ range ∈ counted frames, range.Carries pos := by
  simp [taken, mem_set, mem_positions]

lemma Tiles.taken_eq (tiles : Tiles frames count) : taken frames = List.range count := by
  have ordered : Ordered offset (emplaceAll offset [] (ranges frames)) := Ordered.emplaceAll .nil _
  have sorted : (taken frames).Pairwise (· < ·) := by
    rw [taken, pairwise_flatMap]
    refine ⟨fun range _ => pairwise_lt_range', ordered.imp_of_mem ?_⟩
    intro range other mem member' before left inRange right inOther
    rw [mem_positions] at inRange inOther
    exact CryptoRange.lt_of_apart before
      (tiles.apart range (mem_set.mp mem) other (mem_set.mp member') (ne_of_lt before))
      inRange inOther
  refine sorted.eq_of_mem_iff pairwise_lt_range fun pos => ?_
  rw [mem_taken, mem_range]
  constructor
  · rintro ⟨range, mem, carries⟩
    exact tiles.inside range mem _ carries
  · exact tiles.whole _

lemma tiles_of_taken (same : taken frames = List.range count) : Tiles frames count := by
  have members : ∀ pos, (∃ range ∈ counted frames, range.Carries pos) ↔ pos < count := by
    intro pos
    rw [← mem_taken, same, mem_range]
  have sorted : (taken frames).Pairwise (· < ·) := same ▸ pairwise_lt_range
  rw [taken, pairwise_flatMap] at sorted
  have apart : (emplaceAll offset [] (ranges frames)).Pairwise CryptoRange.Apart := by
    refine sorted.2.imp fun follows pos inRange inOther => ?_
    rw [← mem_positions] at inRange inOther
    exact lt_irrefl pos (follows pos inRange pos inOther)
  constructor
  · intro range mem other member' differ
    exact apart.forall (mem_set.mpr mem) (mem_set.mpr member')
      fun equal => differ (congrArg _ equal)
  · exact fun range mem pos carries => (members _).mp ⟨range, mem, carries⟩
  · exact fun pos => (members _).mpr

/-- Lists of positions with the same bytes in every stream are equal. -/
lemma eq_of_map_eq {left right : List Nat}
    (same : ∀ stream : Nat → UInt8, left.map stream = right.map stream) : left = right := by
  have length : left.length = right.length := by
    simpa using congrArg List.length (same fun _ => 0)
  refine ext_getElem length fun index inLeft inRight => ?_
  have marked := same fun pos => if pos = right[index] then 1 else 0
  have byte := getElem_of_eq marked (i := index) (by simpa using inLeft)
  simp only [getElem_map, if_pos] at byte
  by_contra differ
  rw [if_neg differ] at byte
  exact absurd byte (by decide)

/-- The bytes are the longest beginning of the stream that the frames cover. -/
def Reassembled (stream : Nat → UInt8) (frames : List Frame) (bytes : Bytes) : Prop :=
  ∃ count, Longest (ranges frames) count ∧ bytes = (List.range count).map stream

/-- What the client reassembles is the longest beginning of the stream that the frames cover,
whatever the stream is and however the frames are written, exactly when the counted frames tile
that beginning. -/
theorem reassembles_iff (frames : List Frame) :
    (∀ stream payload, Renders stream frames payload → ∀ bytes,
      reassembleInitialCryptoFrames payload = some bytes → Reassembled stream frames bytes) ↔
    ∃ count, Longest (ranges frames) count ∧ Tiles frames count := by
  constructor
  · intro reassembles
    by_cases none : ranges frames = []
    · refine ⟨0, longest_of_missing ?_ ?_, tiles_of_taken ?_⟩
      · exact fun pos below => absurd below (Nat.not_lt_zero _)
      · rw [none]
        exact fun ⟨range, mem, _⟩ => absurd mem not_mem_nil
      · rw [taken, none]
        rfl
    · have each : ∀ stream, Reassembled stream frames ((taken frames).map stream) := by
        intro stream
        obtain ⟨payload, renders⟩ := exists_renders stream frames
        exact reassembles stream payload renders _ ((reassemble_renders renders).trans (if_neg none))
      obtain ⟨count, longest, -⟩ := each fun _ => 0
      refine ⟨count, longest, tiles_of_taken (eq_of_map_eq fun stream => ?_)⟩
      obtain ⟨other, longest', same⟩ := each stream
      rw [same, longest.unique longest']
  · rintro ⟨count, longest, tiles⟩ stream payload renders bytes returned
    refine ⟨count, longest, ?_⟩
    rw [reassemble_renders renders] at returned
    split at returned
    case isTrue => cases returned
    case isFalse =>
      rw [← tiles.taken_eq]
      exact (Option.some.inj returned).symm

/-! ## Frames that do not tile -/

def range (offset length : Fin 64) : CryptoRange :=
  ⟨offset, length, lt_trans offset.isLt (by decide), lt_trans length.isLt (by decide)⟩

/-- The byte at position 1 is in both frames. -/
def overlapping : List Frame := [.crypto (range 0 2), .crypto (range 1 2)]

/-- The byte at position 1 is missing. -/
def gapped : List Frame := [.crypto (range 0 1), .crypto (range 2 1)]

/-- The second frame has the offset of the first one, and more bytes. -/
def resent : List Frame := [.crypto (range 0 1), .crypto (range 0 2)]

lemma renders_short (offset length : Fin 64) {rest : Bytes}
    (renders : Renders UInt8.ofNat frames rest) :
    Renders UInt8.ofNat (.crypto (range offset length) :: frames)
      (6 :: ([UInt8.ofNat offset.val] ++ ([UInt8.ofNat length.val] ++
        ((range offset length).bytesOf UInt8.ofNat ++ rest)))) :=
  .crypto (encodes_short offset.isLt) (encodes_short length.isLt) renders

lemma not_reassembled (longest : Longest (ranges frames) count)
    (differ : bytes ≠ (List.range count).map stream) : ¬Reassembled stream frames bytes := by
  rintro ⟨other, longest', same⟩
  exact differ (longest.unique longest' ▸ same)

/-- A byte is returned twice, a gap is closed, and a byte that the frames have is lost. -/
theorem not_reassembled_frames :
    (∃ payload, Renders UInt8.ofNat overlapping payload ∧
      reassembleInitialCryptoFrames payload = some [0, 1, 1, 2] ∧
      ¬Reassembled UInt8.ofNat overlapping [0, 1, 1, 2]) ∧
    (∃ payload, Renders UInt8.ofNat gapped payload ∧
      reassembleInitialCryptoFrames payload = some [0, 2] ∧
      ¬Reassembled UInt8.ofNat gapped [0, 2]) ∧
    (∃ payload, Renders UInt8.ofNat resent payload ∧
      reassembleInitialCryptoFrames payload = some [0] ∧ ¬Reassembled UInt8.ofNat resent [0]) := by
  have overlapped : Longest (ranges overlapping) 3 := longest_of_missing (by decide) (by decide)
  have first : Longest (ranges gapped) 1 := longest_of_missing (by decide) (by decide)
  have both : Longest (ranges resent) 2 := longest_of_missing (by decide) (by decide)
  refine ⟨?_, ?_, ?_⟩
  · exact ⟨_, renders_short 0 2 (renders_short 1 2 .nil), by decide,
      not_reassembled overlapped (by decide)⟩
  · exact ⟨_, renders_short 0 1 (renders_short 2 1 .nil), by decide,
      not_reassembled first (by decide)⟩
  · exact ⟨_, renders_short 0 1 (renders_short 0 2 .nil), by decide,
      not_reassembled both (by decide)⟩

end TrustTunnel.Client.QuicUtils
