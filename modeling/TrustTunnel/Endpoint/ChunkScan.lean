import TrustTunnel.Endpoint.Dechunking

/-!
# Any bytes in place of a chunked body

What an origin sends behind the head of a chunked response need not be a chunked body.
The loop of the reverse proxy takes pieces off its front, each a size line, which may have a
sign or blanks, that many bytes of data and two more bytes, which it does not look at. The
scan below does the same with the bytes as a whole, and says how the loop ends.
-/

namespace TrustTunnel.Endpoint.ReverseProxy

open Wire Http Chunked List

/-! ## Lines -/

variable {bytes : Bytes} {line : Bytes}

/-- The first line end ends a line without a line end inside. -/
lemma exists_line {pos : Nat} (found : windowPosition crlf bytes = some pos) :
    ∃ line rest, bytes = line ++ (crlf ++ rest) ∧ line.length = pos ∧ ¬crlf <:+: line := by
  fun_induction windowPosition crlf bytes generalizing pos with
  | case1 => cases found
  | case2 _ _ begins =>
    cases found
    obtain ⟨rest, same⟩ := begins
    exact ⟨[], rest, same.symm, rfl, by decide⟩
  | case3 byte _ elsewhere ih =>
    obtain ⟨later, behind, rfl⟩ := Option.map_eq_some_iff.mp found
    obtain ⟨line, rest, rfl, length, unbroken⟩ := ih behind
    refine ⟨byte :: line, rest, rfl, congrArg _ length, fun inside => ?_⟩
    rcases infix_cons_iff.mp inside with begins | inside
    · exact elsewhere (begins.trans (prefix_append _ _))
    · exact unbroken inside

/-! ## Pieces -/

/-- A piece of the body: its size line, data, and the two bytes behind it. -/
structure Piece where
  line : Bytes
  data : Bytes
  suffix : Bytes
  deriving DecidableEq

/-- Why there is no further piece. -/
inductive Stop where
  /-- The size line cannot be read. -/
  | unreadable (error : IoError)
  /-- The size and two more bytes are more than a `usize` can count. -/
  | overflow
  /-- The size is zero. -/
  | last
  /-- The bytes end inside of the piece. -/
  | unfinished
  deriving DecidableEq

/-- The piece at the front of the bytes, and the bytes behind it. -/
def nextPiece (body : Bytes) : Except Stop (Piece × Bytes) :=
  match windowPosition crlf body with
  | none => .error .unfinished
  | some pos =>
    match chunkSize (body.take pos) with
    | .error error => .error (.unreadable error)
    | .ok size =>
      if size = 0 then .error .last
      else if 2 ^ 64 ≤ size + 2 then .error .overflow
      else
        let rest := body.drop (pos + 2)
        if rest.length < size + 2 then .error .unfinished
        else .ok (⟨body.take pos, rest.take size, (rest.drop size).take 2⟩, rest.drop (size + 2))

/-- The parts of a piece, as they stand in the bytes. -/
structure Piece.At (piece : Piece) (body rest : Bytes) : Prop where
  split : body = piece.line ++ (crlf ++ (piece.data ++ (piece.suffix ++ rest)))
  unbroken : ¬crlf <:+: piece.line
  sized : chunkSize piece.line = .ok piece.data.length
  nonempty : piece.data ≠ []
  two : piece.suffix.length = 2
  fits : piece.data.length + 2 < 2 ^ 64

lemma nextPiece_line (unbroken : ¬crlf <:+: line) (rest : Bytes) :
    nextPiece (line ++ (crlf ++ rest)) =
      match chunkSize line with
      | .error error => .error (.unreadable error)
      | .ok size =>
          if size = 0 then .error .last
          else if 2 ^ 64 ≤ size + 2 then .error .overflow
          else if rest.length < size + 2 then .error .unfinished
          else .ok (⟨line, rest.take size, (rest.drop size).take 2⟩, rest.drop (size + 2)) := by
  have behind : (line ++ (crlf ++ rest)).drop (line.length + 2) = rest := by
    rw [← append_assoc]
    exact drop_left' length_append
  rw [nextPiece, windowPosition_line unbroken]
  dsimp only
  rw [take_left, behind]

variable {piece : Piece} {body rest : Bytes}

lemma Piece.At.nextPiece_eq (here : piece.At body rest) : nextPiece body = .ok (piece, rest) := by
  obtain ⟨rfl, unbroken, sized, nonempty, two, fits⟩ := here
  have positive := length_pos_iff.mpr nonempty
  have enough : ¬(piece.data ++ (piece.suffix ++ rest)).length < piece.data.length + 2 := by
    simp only [length_append]
    omega
  have behind : (piece.data ++ (piece.suffix ++ rest)).drop (piece.data.length + 2) = rest := by
    rw [← append_assoc]
    apply drop_left'
    rw [length_append, two]
  rw [nextPiece_line unbroken, sized]
  dsimp only
  rw [if_neg (by omega), if_neg (by omega), if_neg enough, take_left, drop_left,
    behind, take_left' two]

lemma at_of_nextPiece (found : nextPiece body = .ok (piece, rest)) : piece.At body rest := by
  cases window : windowPosition crlf body with
  | none =>
    rw [nextPiece, window] at found
    cases found
  | some =>
    obtain ⟨line, rest, rfl, -, unbroken⟩ := exists_line window
    rw [nextPiece_line unbroken] at found
    split at found
    · cases found
    · rename_i size sized
      split at found
      · cases found
      · split at found
        · cases found
        · split at found
          · cases found
          · cases found
            have length : (rest.take size).length = size := by
              rw [length_take]
              omega
            refine ⟨?_, unbroken, ?_, ?_, ?_, ?_⟩
            · rw [← drop_drop, take_append_drop, take_append_drop]
            · rw [length]
              exact sized
            · apply length_pos_iff.mp
              rw [length]
              omega
            · rw [length_take, length_drop]
              omega
            · rw [length]
              omega

/-- The pieces at the front of the bytes, and why there are no more. -/
def scan (body : Bytes) : List Piece × Stop :=
  match _ : nextPiece body with
  | .error stop => ([], stop)
  | .ok (piece, rest) => (piece :: (scan rest).1, (scan rest).2)
termination_by body.length
decreasing_by
  all_goals
    have here := at_of_nextPiece ‹_›
    rw [here.split]
    simp only [List.length_append]
    have := here.two
    omega

lemma scan_of_error {stop : Stop} (stops : nextPiece body = .error stop) :
    scan body = ([], stop) := by
  rw [scan]
  split
  · rename_i stops'
    rw [stops] at stops'
    cases stops'
    rfl
  · rename_i found
    rw [stops] at found
    cases found

lemma scan_of_ok (found : nextPiece body = .ok (piece, rest)) :
    scan body = (piece :: (scan rest).1, (scan rest).2) := by
  rw [scan]
  split
  · rename_i stops
    rw [found] at stops
    cases stops
  · rename_i found'
    rw [found] at found'
    cases found'
    rfl

/-- What holds of bytes without a piece at their front, and of bytes behind a piece, holds
of all bytes. -/
lemma scan_induction {motive : Bytes → Prop}
    (stops : ∀ body stop, nextPiece body = .error stop → motive body)
    (piece : ∀ body piece rest, nextPiece body = .ok (piece, rest) → motive rest → motive body)
    (body : Bytes) : motive body := by
  induction body using scan.induct with
  | case1 body stop found => exact stops body stop found
  | case2 body next rest found ih => exact piece body next rest found ih

/-! ## Correctly delimited chunks -/

/-- The data of correctly delimited chunks at the front of the bytes: each has a line with
its size, as RFC 9112 has it, and CRLF behind its data. -/
inductive Delimited : (body data : Bytes) → Prop where
  | nil (rest : Bytes) : Delimited rest []
  | chunk {line data rest more : Bytes} (unbroken : ¬crlf <:+: line)
      (sized : Rfc9112.parseChunkSize line = some data.length) (nonempty : data ≠ [])
      (later : Delimited rest more) :
      Delimited (line ++ (crlf ++ (data ++ (crlf ++ rest)))) (data ++ more)

variable {data : Bytes}

lemma Delimited.length_le (delimited : Delimited body data) : data.length ≤ body.length := by
  induction delimited with
  | nil => exact Nat.zero_le _
  | chunk =>
    simp only [length_append]
    omega

lemma Delimited.length_lt (delimited : Delimited body data) (nonempty : body ≠ []) :
    data.length < body.length := by
  cases delimited with
  | nil => exact length_pos_iff.mpr nonempty
  | chunk _ _ _ later =>
    have le := later.length_le
    have two : crlf.length = 2 := rfl
    simp only [length_append]
    omega

/-- The piece is a chunk: its line is one of RFC 9112, and CRLF is behind its data. -/
def Piece.IsChunk (piece : Piece) : Prop :=
  piece.suffix = crlf ∧ Rfc9112.parseChunkSize piece.line = some piece.data.length

instance (piece : Piece) : Decidable piece.IsChunk := inferInstanceAs (Decidable (_ ∧ _))

/-- The pieces in front of the first one that is no chunk. -/
def delimitedPieces (body : Bytes) : List Piece := (scan body).1.takeWhile (·.IsChunk)

lemma delimited_delimitedPieces (body : Bytes) :
    Delimited body ((delimitedPieces body).flatMap Piece.data) := by
  induction body using scan_induction with
  | stops body _ found =>
    rw [delimitedPieces, scan_of_error found]
    exact .nil body
  | piece body piece _ found ih =>
    have here := at_of_nextPiece found
    rw [delimitedPieces, scan_of_ok found]
    by_cases chunk : piece.IsChunk
    · rw [takeWhile_cons_of_pos (by simpa using chunk), here.split, chunk.1]
      exact .chunk here.unbroken chunk.2 here.nonempty ih
    · rw [takeWhile_cons_of_neg (by simpa using chunk)]
      exact .nil body

/-- The loop goes on to the last chunk or to the end of the bytes. -/
def Stop.Regular (stop : Stop) : Prop := stop = .last ∨ stop = .unfinished

lemma Delimited.prefix_delimitedPieces (delimited : Delimited body data)
    (regular : (scan body).2.Regular) : data <+: (delimitedPieces body).flatMap Piece.data := by
  induction delimited with
  | nil => exact nil_prefix
  | @chunk line data rest more unbroken sized nonempty later ih =>
    have stopped {stop : Stop}
        (stops : nextPiece (line ++ (crlf ++ (data ++ (crlf ++ rest)))) = .error stop) :
        stop.Regular := by
      rw [scan_of_error stops] at regular
      exact regular
    have readable (error : IoError) : chunkSize line ≠ .error error := by
      intro size
      have stop : Stop.Regular (.unreadable error) :=
        stopped (by rw [nextPiece_line unbroken, size])
      simp [Stop.Regular] at stop
    cases decodes : line.fromUtf8 with
    | none => exact absurd (by rw [chunkSize, decodes]) (readable ⟨.invalidData, _⟩)
    | some text =>
      have size := chunkSize_eq sized decodes
      by_cases fits : data.length < 2 ^ 64
      · rw [if_pos fits] at size
        by_cases countable : data.length + 2 < 2 ^ 64
        · have here : Piece.At ⟨line, data, crlf⟩ (line ++ (crlf ++ (data ++ (crlf ++ rest)))) rest :=
            ⟨rfl, unbroken, size, nonempty, rfl, countable⟩
          have scanned := scan_of_ok here.nextPiece_eq
          have chunk : Piece.IsChunk ⟨line, data, crlf⟩ := ⟨rfl, sized⟩
          rw [scanned] at regular
          rw [delimitedPieces, scanned, takeWhile_cons_of_pos (by simpa using chunk)]
          exact (prefix_append_right_inj data).mpr (ih regular)
        · have stop : Stop.Regular .overflow := stopped (by
            rw [nextPiece_line unbroken, size]
            dsimp only
            rw [if_neg (by omega), if_pos (by omega)])
          simp [Stop.Regular] at stop
      · rw [if_neg fits] at size
        exact absurd size (readable _)

lemma nonempty_of_mem_scan (mem : piece ∈ (scan body).1) : piece.data ≠ [] := by
  induction body using scan_induction with
  | stops _ _ found =>
    rw [scan_of_error found] at mem
    cases mem
  | piece _ _ _ found ih =>
    rw [scan_of_ok found] at mem
    cases mem with
    | head => exact (at_of_nextPiece found).nonempty
    | tail _ mem => exact ih mem

/-- The data of all pieces is correctly delimited only if each piece is a chunk. -/
lemma isChunk_of_delimited (delimited : Delimited body data) (regular : (scan body).2.Regular)
    (all : (scan body).1.flatMap Piece.data <+: data) : ∀ piece ∈ (scan body).1, piece.IsChunk := by
  have covered := (all.trans (delimited.prefix_delimitedPieces regular)).length_le
  have partition := takeWhile_append_dropWhile (p := fun piece : Piece =>
    decide piece.IsChunk) (l := (scan body).1)
  have none : (scan body).1.dropWhile (·.IsChunk) = [] := by
    cases behind : (scan body).1.dropWhile (·.IsChunk) with
    | nil => rfl
    | cons piece =>
      rw [behind] at partition
      have nonempty : piece.data ≠ [] := by
        apply nonempty_of_mem_scan
        rw [← partition]
        simp
      have positive := length_pos_iff.mpr nonempty
      rw [← partition, flatMap_append, length_append, flatMap_cons,
        length_append, delimitedPieces] at covered
      omega
  rw [none, append_nil] at partition
  intro piece mem
  rw [← partition] at mem
  have holds := mem_takeWhile_imp mem
  exact of_decide_eq_true holds

end TrustTunnel.Endpoint.ReverseProxy
