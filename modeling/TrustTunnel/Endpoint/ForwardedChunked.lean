import Mathlib.Data.List.SplitLengths
import TrustTunnel.Endpoint.ForwardedFixed

/-!
# Forwarded chunked bodies

The sink forgets a chunk when a write ends inside its data, and takes what the client
did not accept for the line behind the data. It decodes a body exactly if the data of
every chunk comes in one write and is accepted at once.
-/

namespace TrustTunnel.Endpoint

open Wire Http Chunked SimplexPipe List

/-- `httparse` knows the line in front of a chunk. -/
structure Crates.ParsesSize (crates : Crates) (line : Bytes) (size : Nat) : Prop where
  nonempty : line ≠ []
  unfinished : ∀ {front back : Bytes}, front ++ back = line → back ≠ [] →
    crates.parseChunkSize front = .ok none
  complete : ∀ rest : Bytes, crates.parseChunkSize (line ++ rest) = .ok (some (line.length, size))

/-- What is known of a chunk without its content. -/
structure Layout where
  /-- The line in front of the data. -/
  line : Bytes
  size : Nat

/-- A chunk of a body: the line with its size, and its data. -/
structure Chunk where
  line : Bytes
  data : Bytes

open ForwardedStreamSink (encodedChunkSuffix)

variable {layouts : List Layout} {last : Bytes}

namespace Layout

def WellFormed (crates : Crates) (layout : Layout) : Prop :=
  0 < layout.size ∧ crates.ParsesSize layout.line layout.size

/-- The length of the chunks and the last line on the wire. -/
def encodedLength (last : Bytes) : List Layout → Nat
  | [] => last.length + encodedChunkSuffix.length
  | layout :: layouts =>
    layout.line.length + (layout.size + (encodedChunkSuffix.length + encodedLength last layouts))

/-- None of the places, counted from the end of the body, lies inside the data of a
chunk. -/
def Uncut (last : Bytes) (places : List Nat) : List Layout → Prop
  | [] => True
  | layout :: layouts =>
    let behind := encodedChunkSuffix.length + encodedLength last layouts
    (∀ place ∈ places, ¬(behind < place ∧ place < behind + layout.size)) ∧ Uncut last places layouts

/-- The client accepts the data of each chunk at once. -/
def Accepted : List Nat → List Layout → Prop
  | count :: limits, layout :: layouts => layout.size ≤ count ∧ Accepted limits layouts
  | _, _ => True

lemma uncut_congr {places others : List Nat}
    (same : ∀ place < encodedLength last layouts, place ∈ places ↔ place ∈ others) :
    Uncut last places layouts ↔ Uncut last others layouts := by
  induction layouts with
  | nil => exact Iff.rfl
  | cons _ _ ih =>
    rw [encodedLength] at same
    refine and_congr (forall_congr' fun place => ?_) (ih fun place lt => same place (by omega))
    constructor
    · intro outside mem inside
      exact outside ((same place (by omega)).mpr mem) inside
    · intro outside mem inside
      exact outside ((same place (by omega)).mp mem) inside

end Layout

namespace Chunk

def layout (chunk : Chunk) : Layout := ⟨chunk.line, chunk.data.length⟩

/-- The chunks and the last line on the wire, without trailers. -/
def encode (last : Bytes) : List Chunk → Bytes
  | [] => last ++ encodedChunkSuffix
  | chunk :: chunks => chunk.line ++ (chunk.data ++ (encodedChunkSuffix ++ encode last chunks))

/-- The data of the chunks. -/
def contents (chunks : List Chunk) : Bytes := chunks.flatMap data

lemma length_encode (last : Bytes) (chunks : List Chunk) :
    (encode last chunks).length = Layout.encodedLength last (chunks.map layout) := by
  induction chunks with
  | nil => exact length_append
  | cons _ _ ih => simp [encode, ih, Layout.encodedLength, layout]

end Chunk

namespace ForwardedStreamSink

variable {crates : Crates} {client : Client} {line rest data : Bytes} {size : Nat}
  {writes : List Bytes}

/-! ## The lines around the data -/

/-- The sink is in a state of the body, for the client. -/
def IsIn (state : SinkState) (client : Client) (sink : ForwardedStreamSink) : Prop :=
  ∃ fakeUnsent, sink = ⟨state, fakeUnsent, client⟩

lemma gathers_chunkPrefix (parses : crates.ParsesSize line size) :
    Gathers (ops crates) line rest (fun front => IsIn (.waitingChunkPrefix front) client)
      (IsIn (if size = 0 then .waitingChunkSuffix [] true else .transferringBodyChunked size)
        client) where
  waits := by
    rintro front data back sink splits unfinished ⟨flag, rfl⟩
    refine ⟨_, ?_, flag, rfl⟩
    simp [ops, write, onEncodedChunkPrefix, parses.unfinished splits unfinished]
  completes := by
    rintro front data tail sink - joined - ⟨flag, rfl⟩
    refine ⟨_, ?_, ⟨!tail.isEmpty, rfl⟩, ?_⟩
    · simp [ops, write, onEncodedChunkPrefix, joined, parses.complete tail]
    · intro unsent
      have fake : (!tail.isEmpty) = true := by simpa using unsent
      refine ⟨_, ?_, false, rfl⟩
      simp [ops, waitWritable, fake]

/-- The sink looks at the first two bytes behind the data, whatever way they arrive. -/
lemma write_chunkSuffix {front : Bytes} (short : front.length ≤ encodedChunkSuffix.length)
    (terminating flag : Bool) :
    (ops crates).write ⟨.waitingChunkSuffix front terminating, flag, client⟩ data =
      let suffix := (front ++ data).take encodedChunkSuffix.length
      let tail := (front ++ data).drop encodedChunkSuffix.length
      if ¬suffix <+: encodedChunkSuffix then
        (.error (.io (.other "Invalid encoded chunk suffix")), ⟨.idle, flag, client⟩)
      else if suffix.length < encodedChunkSuffix.length then
        (.ok tail, ⟨.waitingChunkSuffix suffix terminating, flag, client⟩)
      else if terminating then (.ok [], ⟨.idle, flag, client.eof⟩)
      else (.ok tail, ⟨.waitingChunkPrefix [], flag, client⟩) := by
  have taken : front ++ data.take (min data.length (encodedChunkSuffix.length - front.length)) =
      (front ++ data).take encodedChunkSuffix.length := by
    rw [take_append, take_of_length_le short, min_comm, ← take_eq_take_min]
  have dropped : data.drop (min data.length (encodedChunkSuffix.length - front.length)) =
      (front ++ data).drop encodedChunkSuffix.length := by
    rw [drop_append, drop_of_length_le short, nil_append]
    rcases le_total data.length (encodedChunkSuffix.length - front.length) with le | le
    · rw [min_eq_left le, drop_length, drop_of_length_le le]
    · rw [min_eq_right le]
  simp [ops, write, onEncodedChunkSuffix, taken, dropped]

lemma waitWritable_chunkSuffix (buffer : Bytes) (terminating flag : Bool) (client : Client) :
    (ops crates).waitWritable ⟨.waitingChunkSuffix buffer terminating, flag, client⟩ =
      (.ok (), ⟨.waitingChunkSuffix buffer terminating, false, client⟩) := by
  cases flag with
  | true | false => rfl

variable {sink : ForwardedStreamSink} {final : SimplexPipe ForwardedStreamSink}

lemma waits_chunkSuffix (terminating : Bool) {front back : Bytes}
    (splits : front ++ data ++ back = encodedChunkSuffix) (unfinished : back ≠ [])
    (waits : IsIn (.waitingChunkSuffix front terminating) client sink) :
    ∃ after, (ops crates).write sink data = (.ok [], after) ∧
      IsIn (.waitingChunkSuffix (front ++ data) terminating) client after := by
  obtain ⟨flag, rfl⟩ := waits
  have lengths := congrArg List.length splits
  have positive := length_pos_iff.mpr unfinished
  rw [length_append, length_append] at lengths
  have short : (front ++ data).length < encodedChunkSuffix.length := by
    rw [length_append]
    omega
  refine ⟨_, ?_, flag, rfl⟩
  rw [write_chunkSuffix (by omega)]
  rw [take_of_length_le short.le, drop_of_length_le short.le,
    if_neg (not_not_intro ⟨back, splits⟩), if_pos short]

lemma gathers_chunkSuffix :
    Gathers (ops crates) encodedChunkSuffix rest
      (fun front => IsIn (.waitingChunkSuffix front false) client)
      (IsIn (.waitingChunkPrefix []) client) where
  waits := waits_chunkSuffix false
  completes := by
    rintro front data tail sink short joined - ⟨flag, rfl⟩
    refine ⟨_, ?_, ⟨flag, rfl⟩, ?_⟩
    · rw [write_chunkSuffix short.le, joined]
      simp
    · intro unsent
      refine ⟨⟨.waitingChunkPrefix _, false, _⟩, ?_, false, rfl⟩
      cases flag <;> rfl

lemma gathers_terminator :
    Gathers (ops crates) encodedChunkSuffix []
      (fun front => IsIn (.waitingChunkSuffix front true) client) (IsIn .idle client.eof) where
  waits := waits_chunkSuffix true
  completes := by
    rintro front data tail sink short joined nothing ⟨flag, rfl⟩
    obtain rfl := prefix_nil.mp nothing
    refine ⟨_, ?_, ⟨flag, rfl⟩, fun unsent => absurd rfl unsent⟩
    rw [write_chunkSuffix short.le, joined]
    simp

/-! ## The data of a chunk -/

lemma drive_idle (flag : Bool) :
    drive (ops crates) ⟨.idle, flag, client⟩ (data :: writes) =
      .some ⟨⟨.idle, flag, client⟩, none, writes, some (.io (.other "Invalid state"))⟩ :=
  drive_cons_error rfl

/-- A chunk that does not come in one write ends in an error. -/
lemma failure_of_cut (cut : data.length < size) (nonempty : data ≠ []) (more : writes ≠ [])
    (transfers : IsIn (.transferringBodyChunked size) client sink)
    (ends : final ∈ drive (ops crates) sink (data :: writes)) : final.failure ≠ none := by
  obtain ⟨flag, rfl⟩ := transfers
  obtain ⟨accepted, unsent, after, sends, splits, -⟩ := client.exists_write data
  have toSend : min data.length size = data.length := by omega
  have lengths := congrArg List.length splits
  rw [length_append] at lengths
  have written : (ops crates).write ⟨.transferringBodyChunked size, flag, client⟩ data =
      (.ok unsent, ⟨.idle, true, after⟩) := by
    have remains : 0 < size - data.length := by omega
    have returned : data.drop (data.length - unsent.length) = unsent := by
      have counted : data.length - unsent.length = accepted.length := by omega
      rw [counted, splits, drop_left]
    have occupied : (!data.isEmpty) = true := by simpa using nonempty
    simp only [ops, write, onEncodedChunk, toSend, take_length, sends, returned,
      if_pos remains, occupied]
  cases unsent with
  | nil =>
    obtain ⟨next, later, rfl⟩ := exists_cons_of_ne_nil more
    rw [drive_cons_nil written, drive_idle, Part.mem_some_iff] at ends
    simp [ends]
  | cons =>
    have waits : (ops crates).waitWritable ⟨.idle, true, after⟩ =
        (.ok (), ⟨.idle, false, after⟩) := rfl
    rw [drive_cons_tail written (cons_ne_nil _ _) waits, drive_idle, Part.mem_some_iff] at ends
    simp [ends]

/-- The sink goes over to the line behind the data, wherever the client stopped. -/
lemma write_wholeChunk (content tail : Bytes) (flag : Bool) (nonempty : content ≠ []) :
    (ops crates).write ⟨.transferringBodyChunked content.length, flag, client⟩ (content ++ tail) =
      (.ok ((client.write content).1 ++ tail),
        ⟨.waitingChunkSuffix [] false, true, (client.write content).2⟩) := by
  obtain ⟨accepted, unsent, after, sends, splits, -⟩ := client.exists_write content
  have counted : content.length - unsent.length = accepted.length := by
    rw [splits, length_append]
    omega
  have returned : (content ++ tail).drop accepted.length = unsent ++ tail := by
    rw [splits, append_assoc, drop_left]
  have occupied : (!(content ++ tail).isEmpty) = true := by simp [nonempty]
  simp [ops, write, onEncodedChunk, sends, counted, returned, occupied]

variable {tail : Bytes} {after : Client} {left : List Bytes} {byte : UInt8}

/-- Data that is not accepted is taken for the line behind the data. -/
lemma failure_of_unaccepted {content unsent : Bytes}
    (sends : client.write content = (byte :: unsent, after)) (different : byte ≠ 13)
    (transfers : IsIn (.transferringBodyChunked content.length) client sink)
    (ends : final ∈ drive (ops crates) sink ((content ++ tail) :: writes)) :
    final.failure ≠ none := by
  obtain ⟨flag, rfl⟩ := transfers
  have nonempty : content ≠ [] := by
    rintro rfl
    obtain ⟨accepted, rest, other, writes, splits, -⟩ := client.exists_write []
    rw [sends] at writes
    cases writes
    simp at splits
  have written := @write_wholeChunk crates client content tail flag nonempty
  simp only [sends] at written
  have refused : (ops crates).write ⟨.waitingChunkSuffix [] false, false, after⟩
      (byte :: unsent ++ tail) =
      (.error (.io (.other "Invalid encoded chunk suffix")), ⟨.idle, false, after⟩) := by
    rw [write_chunkSuffix (Nat.zero_le _)]
    have mismatch : ¬([] ++ (byte :: unsent ++ tail)).take encodedChunkSuffix.length <+:
        encodedChunkSuffix := by
      rintro ⟨rest, joined⟩
      simp [encodedChunkSuffix] at joined
      exact different joined.1
    rw [if_pos mismatch]
  rw [drive_cons_tail written (cons_ne_nil _ _) (waitWritable_chunkSuffix _ _ _ _),
    drive_cons_error refused, Part.mem_some_iff] at ends
  simp [ends]

/-! ## Whole bodies -/

/-- The exchange ends without an error, and the client has received exactly this. -/
def Delivers (crates : Crates) (sink : ForwardedStreamSink) (writes : List Bytes)
    (got : List BodyEvent) : Prop :=
  ∃ final ∈ drive (ops crates) sink writes, final.failure = none ∧ final.sink.client.received = got

lemma delivers_congr {other : ForwardedStreamSink} {got : List BodyEvent}
    (drives : drive (ops crates) sink writes = drive (ops crates) other left) :
    Delivers crates sink writes got ↔ Delivers crates other left got := by
  rw [Delivers, drives, Delivers]

lemma delivers_lastChunk (parses : crates.ParsesSize last 0)
    (arrives : writes.flatten = last ++ encodedChunkSuffix) (nonempty : [] ∉ writes)
    (waits : IsIn (.waitingChunkPrefix []) client sink) :
    Delivers crates sink writes (client.received ++ [BodyEvent.eof]) := by
  obtain ⟨ending, left, endsLine, remains, drives⟩ :=
    (gathers_chunkPrefix parses).drive_eq waits (length_pos_iff.mpr parses.nonempty) arrives
  obtain ⟨idle, none, ⟨flag, rfl⟩, remainsNothing, drivesEnd⟩ :=
    gathers_terminator.drive_eq endsLine (by decide) (remains.flatten.trans (append_nil _).symm)
  have finished : none = [] := by
    have absent := remainsNothing.nonempty (remains.nonempty nonempty)
    cases none with
    | nil => rfl
    | cons =>
      have empty := remainsNothing.flatten
      simp at empty
      rw [empty.1] at absent
      exact absurd mem_cons_self absent
  subst finished
  rw [delivers_congr (drives.trans drivesEnd)]
  exact ⟨_, by rw [drive_nil]; exact Part.mem_some _, rfl, rfl⟩

variable {chunk : Chunk}

/-- The line of a chunk is read, and its data comes next. -/
lemma drive_chunkPrefix (wellFormed : chunk.layout.WellFormed crates)
    (arrives : writes.flatten = chunk.line ++ (chunk.data ++ (encodedChunkSuffix ++ rest)))
    (nonempty : [] ∉ writes) (waits : IsIn (.waitingChunkPrefix []) client sink) :
    ∃ first later transferring,
      IsIn (.transferringBodyChunked chunk.data.length) client transferring ∧
      first ≠ [] ∧ Remains writes (first :: later) (chunk.data ++ (encodedChunkSuffix ++ rest)) ∧
      drive (ops crates) sink writes = drive (ops crates) transferring (first :: later) := by
  obtain ⟨occupied, parses⟩ := wellFormed
  obtain ⟨transferring, left, transfers, remains, drives⟩ :=
    (gathers_chunkPrefix parses).drive_eq waits (length_pos_iff.mpr parses.nonempty) arrives
  rw [if_neg occupied.ne'] at transfers
  cases left with
  | nil =>
    have missing := remains.flatten
    simp [encodedChunkSuffix] at missing
  | cons first later =>
    have absent := remains.nonempty nonempty
    exact ⟨first, later, transferring, transfers,
      fun empty => absent (empty ▸ mem_cons_self), remains, drives⟩

variable {later : List Bytes} {chunks : List Chunk}

/-- The data of a chunk is accepted, and the line of the next one comes next. -/
lemma drive_wholeChunk {content : Bytes} (occupied : content ≠ [])
    (sends : client.write content = ([], after))
    (arrives : tail ++ later.flatten = encodedChunkSuffix ++ rest)
    {transferring : ForwardedStreamSink}
    (transfers : IsIn (.transferringBodyChunked content.length) client transferring) :
    ∃ sink left, IsIn (.waitingChunkPrefix []) after sink ∧
      Remains ((content ++ tail) :: later) left rest ∧
      drive (ops crates) transferring ((content ++ tail) :: later) =
        drive (ops crates) sink left := by
  obtain ⟨flag, rfl⟩ := transfers
  have written := @write_wholeChunk crates client content tail flag occupied
  simp only [sends, nil_append] at written
  have remains := Remains.cons (content ++ tail) tail later
  have shorter : rest.length ≤ (tail ++ later.flatten).length := by
    rw [arrives, length_append]
    omega
  have short : ([] : Bytes).length < encodedChunkSuffix.length := by decide
  cases tail with
  | nil =>
    obtain ⟨sink, left, waits, remainsLeft, drives⟩ :=
      (@gathers_chunkSuffix crates after rest).drive_eq ⟨true, rfl⟩ short arrives
    refine ⟨sink, left, waits, remains.trans remainsLeft shorter, ?_⟩
    rw [drive_cons_nil written, drives]
  | cons byte tail =>
    have joined : [] ++ ((byte :: tail) :: later).flatten = encodedChunkSuffix ++ rest := arrives
    obtain ⟨sink, left, waits, remainsLeft, drives⟩ :=
      (@gathers_chunkSuffix crates after rest).drive_eq ⟨false, rfl⟩ short joined
    refine ⟨sink, left, waits, remains.trans remainsLeft shorter, ?_⟩
    rw [drive_cons_tail written (cons_ne_nil _ _) (waitWritable_chunkSuffix _ _ _ _), drives]

/-- A client that accepts data at once goes on with the other acceptances. -/
lemma accepted_cons_of_write (sends : client.write chunk.data = ([], after)) :
    (Layout.Accepted client.acceptances (chunk.layout :: layouts) ↔
      Layout.Accepted after.acceptances layouts) ∧
      after.received = client.received ++ chunk.data.map .byte := by
  obtain ⟨limits, answers, got⟩ := client
  cases limits with
  | nil =>
    cases sends
    exact ⟨Iff.rfl, rfl⟩
  | cons count =>
    have all : chunk.data.length ≤ count := drop_eq_nil_iff.mp (congrArg Prod.fst sends)
    obtain rfl := congrArg Prod.snd sends
    refine ⟨and_iff_right all, ?_⟩
    change got ++ (chunk.data.take count).map .byte = _
    rw [take_of_length_le all]

lemma not_accepted_of_write {unsent : Bytes}
    (sends : client.write chunk.data = (byte :: unsent, after)) :
    ¬Layout.Accepted client.acceptances (chunk.layout :: layouts) ∧ byte ∈ chunk.data := by
  obtain ⟨limits, answers, got⟩ := client
  cases limits with
  | nil => cases sends
  | cons count =>
    have rest : chunk.data.drop count = byte :: unsent := congrArg Prod.fst sends
    constructor
    · rintro ⟨all, -⟩
      rw [drop_of_length_le all] at rest
      cases rest
    · exact mem_of_mem_drop (rest ▸ mem_cons_self)

/-- A write that ends inside the data of the first chunk cuts it. -/
lemma not_uncut_of_cut {last first : Bytes}
    (remains : Remains writes (first :: later)
      (chunk.data ++ (encodedChunkSuffix ++ Chunk.encode last chunks)))
    (nonempty : first ≠ []) (cut : first.length < chunk.data.length) :
    ¬Layout.Uncut last (boundaries writes) ((chunk :: chunks).map Chunk.layout) := by
  rintro ⟨uncut, -⟩
  have lengths := congrArg List.length remains.flatten
  have positive := length_pos_iff.mpr nonempty
  have sized : chunk.layout.size = chunk.data.length := rfl
  rw [flatten_cons] at lengths
  simp only [length_append, Chunk.length_encode] at lengths
  have inside : later.flatten.length <
      (chunk.data ++ (encodedChunkSuffix ++ Chunk.encode last chunks)).length := by
    simp only [length_append, Chunk.length_encode]
    omega
  have place := (remains.boundaries _ inside).mpr mem_cons_self
  exact absurd ⟨by omega, by omega⟩ (uncut _ place)

/-- When the data of the first chunk comes in one write, only the other chunks can be cut. -/
lemma uncut_cons_of_whole
    (remains : Remains writes ((chunk.data ++ tail) :: later)
      (chunk.data ++ (encodedChunkSuffix ++ Chunk.encode last chunks)))
    (next : Remains ((chunk.data ++ tail) :: later) left (Chunk.encode last chunks)) :
    Layout.Uncut last (boundaries writes) ((chunk :: chunks).map Chunk.layout) ↔
      Layout.Uncut last (boundaries left) (chunks.map Chunk.layout) := by
  have lengths := congrArg List.length remains.flatten
  have sized : chunk.layout.size = chunk.data.length := rfl
  rw [flatten_cons] at lengths
  simp only [length_append, Chunk.length_encode] at lengths
  have shorter : (Chunk.encode last chunks).length ≤
      (chunk.data ++ (encodedChunkSuffix ++ Chunk.encode last chunks)).length := by
    simp only [length_append]
    omega
  have same := (remains.trans next shorter).boundaries
  rw [Chunk.length_encode] at same
  rw [map_cons, Layout.Uncut, Layout.uncut_congr same]
  apply and_iff_right
  intro place mem inside
  have before : place <
      (chunk.data ++ (encodedChunkSuffix ++ Chunk.encode last chunks)).length := by
    simp only [length_append, Chunk.length_encode]
    omega
  have le := le_of_mem_boundaries_cons ((remains.boundaries place before).mp mem)
  omega

/-- What is delivered ends with the data of the chunks if they are uncut and accepted at once, and
only then unless the lines behind the data can be confused with the data. -/
def DecodesUncut (crates : Crates) (sink : ForwardedStreamSink) (writes : List Bytes)
    (got : List BodyEvent) (limits : List Nat) (last : Bytes) (chunks : List Chunk) :
    Prop :=
  let uncut := Layout.Uncut last (boundaries writes) (chunks.map Chunk.layout) ∧
    Layout.Accepted limits (chunks.map Chunk.layout)
  let delivers := Delivers crates sink writes
    (got ++ (Chunk.contents chunks).map .byte ++ [BodyEvent.eof])
  (uncut → delivers) ∧ ((∀ chunk ∈ chunks, 13 ∉ chunk.data) → delivers → uncut)

lemma decodesUncut_chunks (wellFormed : ∀ chunk ∈ chunks, chunk.layout.WellFormed crates)
    (parses : crates.ParsesSize last 0) (arrives : writes.flatten = Chunk.encode last chunks)
    (nonempty : [] ∉ writes) (waits : IsIn (.waitingChunkPrefix []) client sink) :
    DecodesUncut crates sink writes client.received client.acceptances last chunks := by
  induction chunks generalizing writes client sink with
  | nil =>
    constructor
    · intro _
      simpa [Chunk.contents] using delivers_lastChunk parses arrives nonempty waits
    · intro _ _
      cases client.acceptances with
      | nil | cons => trivial
  | cons chunk chunks ih =>
    have chunkWellFormed := wellFormed chunk mem_cons_self
    obtain ⟨first, later, transferring, transfers, firstNonempty, remains, drives⟩ :=
      drive_chunkPrefix chunkWellFormed arrives nonempty waits
    have joined : first ++ later.flatten =
        chunk.data ++ (encodedChunkSuffix ++ Chunk.encode last chunks) := remains.flatten
    rcases Nat.lt_or_ge _ _ with cut | whole
    · constructor
      · rintro ⟨uncut, -⟩
        exact absurd uncut (not_uncut_of_cut remains firstNonempty cut)
      · rintro - ⟨final, ends, safe, -⟩
        have more : later ≠ [] := by
          rintro rfl
          have lengths := congrArg List.length joined
          simp only [length_append, flatten_nil, length_nil] at lengths
          omega
        rw [drives] at ends
        exact absurd safe (failure_of_cut cut firstNonempty more transfers ends)
    · obtain ⟨tail, rfl, behind⟩ := exists_tail_of_append_eq joined whole
      rcases sends : client.write chunk.data with ⟨unsent, after⟩
      cases unsent with
      | nil =>
        obtain ⟨accepted, got⟩ := @accepted_cons_of_write _ _ _ _ sends
        obtain ⟨next, left, nextWaits, nextRemains, nextDrives⟩ :=
          drive_wholeChunk (length_pos_iff.mp chunkWellFormed.1) sends behind transfers
        have target : client.received ++ (Chunk.contents (chunk :: chunks)).map .byte =
            after.received ++ (Chunk.contents chunks).map .byte := by
          rw [got, Chunk.contents, flatMap_cons, map_append, append_assoc]
          rfl
        rw [DecodesUncut, uncut_cons_of_whole remains nextRemains, map_cons, accepted,
          delivers_congr (drives.trans nextDrives), target]
        have rest := ih (fun other mem => wellFormed other (mem_cons_of_mem _ mem))
          nextRemains.flatten (nextRemains.nonempty (remains.nonempty nonempty)) nextWaits
        exact ⟨rest.1, fun clean => rest.2 fun other mem => clean other (mem_cons_of_mem _ mem)⟩
      | cons byte =>
        obtain ⟨refused, mem⟩ := @not_accepted_of_write _ _ _ _ _ _ sends
        constructor
        · rintro ⟨-, accepted⟩
          exact absurd accepted refused
        · rintro clean ⟨final, ends, safe, -⟩
          have different : byte ≠ 13 := by
            rintro rfl
            exact clean chunk mem_cons_self mem
          rw [drives] at ends
          exact absurd safe (failure_of_unaccepted sends different transfers ends)

open SinkWaitingResponse

section Response

variable {head last : Bytes} {resp : Response} {method : String} {version : Version}
  {chunks : List Chunk}

section

variable (parses : crates.ParsesHead head resp) (builds : crates.Builds resp)
  (fields : ChunkedHeaders resp.headers) (recent : version = .http2 ∨ version = .http3)
  (bodied : ¬Bodiless method resp.code)

include parses builds fields recent bodied

lemma decodesUncut_response (few : resp.headers.length ≤ maxResponseHeadersNum)
    (read : ReadChunked resp.headers)
    (wellFormed : ∀ chunk ∈ chunks, chunk.layout.WellFormed crates)
    (parsesLast : crates.ParsesSize last 0)
    (arrives : writes.flatten = head ++ Chunk.encode last chunks) (nonempty : [] ∉ writes)
    (limits : List Nat) :
    DecodesUncut crates (new method version limits) writes [] limits last chunks := by
  obtain ⟨dropped, converts⟩ := converts_chunked fields recent
  rw [if_pos read] at converts
  obtain ⟨sink, left, ⟨flag, answers, rfl⟩, remains, drives⟩ :=
    drive_of_converts parses few builds bodied converts _ arrives
  have same := remains.boundaries
  rw [Chunk.length_encode] at same
  rw [DecodesUncut, Layout.uncut_congr same, delivers_congr drives]
  have waits : IsIn (.waitingChunkPrefix []) ⟨limits, answers, []⟩
      ⟨.waitingChunkPrefix [], flag, ⟨limits, answers, []⟩⟩ := ⟨flag, rfl⟩
  exact decodesUncut_chunks wellFormed parsesLast remains.flatten (remains.nonempty nonempty) waits

/-- A response that is not recognised as chunked is not forwarded as it should be. -/
lemma not_delivers_of_unrecognised
    (unrecognised : ¬(resp.headers.length ≤ maxResponseHeadersNum ∧ ReadChunked resp.headers))
    (arrives : writes.flatten = head ++ rest) (limits : List Nat) (body : Bytes) :
    ¬Delivers crates (new method version limits) writes (body.map .byte ++ [BodyEvent.eof]) := by
  rintro ⟨final, ends, -, got⟩
  have ended : .eof ∈ final.sink.client.received := by simp [got]
  by_cases few : resp.headers.length ≤ maxResponseHeadersNum
  · have dropped : ¬ReadChunked resp.headers := fun read => unrecognised ⟨few, read⟩
    obtain ⟨names, converts⟩ := converts_chunked fields recent
    rw [if_neg dropped] at converts
    obtain ⟨sink, left, ⟨flag, answers, rfl⟩, remains, drives⟩ :=
      drive_of_converts parses few builds bodied converts _ arrives
    exact eof_not_mem_of_unlimited not_mem_nil (drives ▸ ends) ended
  · exact eof_not_mem_of_overflow parses arrives ends few ended

end

/-- A chunked response is forwarded as it should be, whatever the content of its chunks,
if and only if it has at most 128 headers, no connection option drops its encoding, which
is in lower case, no write ends inside the data of a chunk, and the client accepts the data
of each chunk at once. -/
theorem receives_chunked_iff (parses : crates.ParsesHead head resp)
    (builds : crates.Builds resp) (fields : ChunkedHeaders resp.headers)
    (recent : version = .http2 ∨ version = .http3) (bodied : ¬Bodiless method resp.code)
    (wellFormed : ∀ chunk ∈ chunks, chunk.layout.WellFormed crates)
    (parsesLast : crates.ParsesSize last 0)
    (arrives : writes.flatten = head ++ Chunk.encode last chunks) (nonempty : [] ∉ writes)
    (limits : List Nat) :
    (∀ others pieces, others.map Chunk.layout = chunks.map Chunk.layout →
      pieces.map List.length = writes.map List.length →
      pieces.flatten = head ++ Chunk.encode last others →
      Delivers crates (new method version limits) pieces
        ((Chunk.contents others).map .byte ++ [.eof])) ↔
      resp.headers.length ≤ maxResponseHeadersNum ∧ ReadChunked resp.headers ∧
        Layout.Uncut last (boundaries writes) (chunks.map Chunk.layout) ∧
        Layout.Accepted limits (chunks.map Chunk.layout) := by
  have othersWellFormed (others : List Chunk)
      (same : others.map Chunk.layout = chunks.map Chunk.layout) :
      ∀ chunk ∈ others, chunk.layout.WellFormed crates := by
    intro other mem
    have known : other.layout ∈ chunks.map Chunk.layout := same ▸ mem_map.mpr ⟨other, mem, rfl⟩
    obtain ⟨chunk, chunkMember, equal⟩ := mem_map.mp known
    exact equal ▸ wellFormed chunk chunkMember
  constructor
  · intro delivers
    have recognised : resp.headers.length ≤ maxResponseHeadersNum ∧ ReadChunked resp.headers := by
      apply Classical.byContradiction
      intro unrecognised
      exact not_delivers_of_unrecognised parses builds fields recent bodied unrecognised arrives
        limits _ (delivers chunks writes rfl rfl arrives)
    -- data without a CR cannot be confused with the line behind it
    let others := chunks.map fun chunk => (⟨chunk.line, List.replicate chunk.data.length 0⟩ : Chunk)
    have same : others.map Chunk.layout = chunks.map Chunk.layout := by
      simp [others, Chunk.layout]
    have clean : ∀ chunk ∈ others, 13 ∉ chunk.data := by
      simp [others]
    have total : (head ++ Chunk.encode last others).length = (writes.map List.length).sum := by
      rw [← length_flatten, arrives, length_append, length_append,
        Chunk.length_encode, Chunk.length_encode, same]
    have lengths := map_splitLengths_length _ _ total.ge
    have joined := flatten_splitLengths _ _ total.le
    obtain ⟨few, read⟩ := recognised
    have necessary := (decodesUncut_response parses builds fields recent bodied few read
      (othersWellFormed others same) parsesLast joined (nil_notMem_congr lengths nonempty)
      _).2 clean (delivers others _ same lengths joined)
    rw [same, boundaries_congr lengths] at necessary
    exact ⟨few, read, necessary⟩
  · rintro ⟨few, read, uncut, accepted⟩ others pieces same lengths joined
    have delivers := decodesUncut_response parses builds fields recent bodied few read
      (othersWellFormed others same) parsesLast joined (nil_notMem_congr lengths nonempty) limits
    rw [DecodesUncut, same, boundaries_congr lengths] at delivers
    exact delivers.1 ⟨uncut, accepted⟩

end Response

def abcHead : Bytes := .ofString "HTTP/1.1 200 OK\r\nTransfer-Encoding: chunked\r\n\r\n"

def abcResponse : Response := ⟨200, [⟨"Transfer-Encoding", .ofString "chunked"⟩]⟩

def abcChunk : Chunk := ⟨.ofString "3\r\n", .ofString "abc"⟩

def lastLine : Bytes := .ofString "0\r\n"

lemma chunkedHeaders_abc : ChunkedHeaders abcResponse.headers where
  present := ⟨_, mem_singleton.mpr rfl, by decide +kernel⟩
  chunked := by
    rintro header mem -
    rw [mem_singleton.mp mem]
    decide
  undetermined := by
    intro header mem
    rw [mem_singleton.mp mem]
    decide +kernel

/-- A size of a single digit is parsed by crates that know such sizes. -/
lemma parsesSize_digit (head : Bytes) (resp : Response) {digit : UInt8}
    (decimal : isDigit digit = true) :
    (Crates.knowing head resp).ParsesSize [digit, 13, 10] (digit.toNat - 48) := by
  have different : digit ≠ 13 := by
    rintro rfl
    cases decimal
  refine ⟨cons_ne_nil _ _, ?_, ?_⟩
  · intro front back splits unfinished
    match front with
    | [] => rfl
    | [_] =>
      cases splits
      simp [Crates.knowing, Crates.hexChunkSize, decimal, different]
    | [_, _] =>
      cases splits
      simp [Crates.knowing, Crates.hexChunkSize, decimal]
    | _ :: _ :: _ :: front =>
      simp at splits
      exact absurd splits.2.2.2.2 unfinished
  · simp [Crates.knowing, Crates.hexChunkSize, decimal]

lemma wellFormed_abc :
    ∀ chunk ∈ [abcChunk], chunk.layout.WellFormed (.knowing abcHead abcResponse) := by
  intro chunk mem
  rw [mem_singleton.mp mem]
  have digit : isDigit 51 = true := by decide
  exact ⟨by decide, parsesSize_digit abcHead _ digit⟩

/-- A chunk that comes in one write and is accepted at once is forwarded. -/
theorem receives_abc :
    Delivers (.knowing abcHead abcResponse) (new "GET" .http2 [3])
      [abcHead ++ [51], 13 :: 10 :: abcChunk.data ++ [13], [10] ++ lastLine, [13, 10]]
      ((Chunk.contents [abcChunk]).map .byte ++ [.eof]) := by
  have arrives : [abcHead ++ [51], 13 :: 10 :: abcChunk.data ++ [13], [10] ++ lastLine,
      [13, 10]].flatten = abcHead ++ Chunk.encode lastLine [abcChunk] := by decide
  have digit : isDigit 48 = true := by decide
  have recent : Version.http2 = .http2 ∨ Version.http2 = .http3 := .inl rfl
  have bodied : ¬Bodiless "GET" abcResponse.code := by decide
  have delivers := (receives_chunked_iff
    (Crates.parsesHead_knowing abcResponse (by decide)) (Crates.builds_knowing abcHead abcResponse)
    chunkedHeaders_abc recent bodied wellFormed_abc
    (parsesSize_digit abcHead abcResponse digit) arrives (by decide) [3]).mpr
    ⟨by decide, by decide +kernel, ⟨by decide, trivial⟩, ⟨by decide, trivial⟩⟩
  exact delivers [abcChunk] _ rfl rfl arrives

/-- The same chunk is lost when it comes in two writes, and when the client accepts two
bytes of it at first. -/
theorem not_receives_abc_cut :
    [abcHead, abcChunk.line, [97, 98], [99, 13, 10, 48, 13, 10, 13, 10]].flatten =
        abcHead ++ Chunk.encode lastLine [abcChunk] ∧
      [abcHead, abcChunk.line, abcChunk.data ++ [13, 10, 48, 13, 10, 13, 10]].flatten =
        abcHead ++ Chunk.encode lastLine [abcChunk] ∧
      ¬Delivers (.knowing abcHead abcResponse) (new "GET" .http2 [])
        [abcHead, abcChunk.line, [97, 98], [99, 13, 10, 48, 13, 10, 13, 10]]
        ((Chunk.contents [abcChunk]).map .byte ++ [.eof]) ∧
      ¬Delivers (.knowing abcHead abcResponse) (new "GET" .http2 [2])
        [abcHead, abcChunk.line, abcChunk.data ++ [13, 10, 48, 13, 10, 13, 10]]
        ((Chunk.contents [abcChunk]).map .byte ++ [.eof]) := by
  refine ⟨by decide, by decide, ?_, ?_⟩
  · rintro ⟨final, ends, safe, -⟩
    rw [drive, eval_of_rounds 4 (by decide +kernel), Part.mem_some_iff] at ends
    rw [ends] at safe
    exact absurd safe (by decide +kernel)
  · rintro ⟨final, ends, safe, -⟩
    rw [drive, eval_of_rounds 4 (by decide +kernel), Part.mem_some_iff] at ends
    rw [ends] at safe
    exact absurd safe (by decide +kernel)

end ForwardedStreamSink

end TrustTunnel.Endpoint
