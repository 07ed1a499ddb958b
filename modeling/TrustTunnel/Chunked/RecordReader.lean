import TrustTunnel.Chunked.StepMachine

/-!
# Readers of length-delimited records

A record is a header of fixed size and a body. The header says how long the body
is, and whether anybody wants it: a wanted body is collected and handed out under
the key of the header, an unwanted one is skipped. The reader buffers a header
or a body that is not complete yet, so it is local in every state it can reach.

A record with an empty body is noticed only when something follows it, because
the loop around the reader does not run without data.
-/

namespace TrustTunnel.Chunked

open List

/-- How records are cut out of a stream. -/
structure Format (α κ : Type) where
  headerSize : Nat
  headerSize_pos : 0 < headerSize
  parse : List α → Option κ × Nat

/-- The state of a reader of records. -/
inductive RecordReader (α κ : Type) where
  /-- Part of a header was read. -/
  | header (buffer : List α)
  /-- Part of a wanted body was read, `left` items are missing. -/
  | body (key : κ) (buffer : List α) (left : Nat)
  /-- Of an unwanted body `left` items are to be skipped. -/
  | skip (left : Nat)

namespace Format

variable {α κ : Type} (format : Format α κ)

/-- The reader behind a complete header. -/
def opened (header : List α) : RecordReader α κ :=
  match format.parse header with
  | (some key, size) => .body key [] size
  | (none, size) => .skip size

/-- One turn of the reader. -/
def turn : RecordReader α κ → List α → Turn (RecordReader α κ) (κ × List α) α
  | .header buffer, data =>
    if buffer.length + data.length < format.headerSize then
      ⟨.header (buffer ++ data), none, []⟩
    else
      let missing := format.headerSize - buffer.length
      ⟨format.opened (buffer ++ data.take missing), none, data.drop missing⟩
  | .body key buffer left, data =>
    if data.length < left then ⟨.body key (buffer ++ data) (left - data.length), none, []⟩
    else ⟨.header [], some (key, buffer ++ data.take left), data.drop left⟩
  | .skip left, data =>
    if data.length < left then ⟨.skip (left - data.length), none, []⟩
    else ⟨.header [], none, data.drop left⟩

/-- How many turns a state can take without reading anything. -/
def rank : RecordReader α κ → Nat
  | .header buffer => if buffer.length < format.headerSize then 0 else 2
  | .body _ _ _ => 1
  | .skip _ => 1

lemma rank_opened (header : List α) : format.rank (format.opened header) = 1 := by
  rw [opened]
  split <;> rfl

lemma rank_header_nil : format.rank (.header []) = 0 := if_pos format.headerSize_pos

lemma turn_progress (reader : RecordReader α κ) {data : List α} (nonempty : data ≠ []) :
    (format.turn reader data).tail.length < data.length ∨
      (format.turn reader data).tail.length = data.length ∧
        format.rank (format.turn reader data).state < format.rank reader := by
  have positive := length_pos_of_ne_nil nonempty
  cases reader with
  | header buffer =>
    rw [turn]
    split
    · exact .inl positive
    · by_cases room : buffer.length < format.headerSize
      · rw [length_drop]
        omega
      · right
        have complete : format.headerSize - buffer.length = 0 := by omega
        rw [rank_opened, rank, if_neg room]
        simp only [complete, drop_zero]
        exact ⟨trivial, Nat.lt_succ_self 1⟩
  | body =>
    rw [turn]
    split
    · exact .inl positive
    · rw [rank_header_nil, rank, length_drop]
      omega
  | skip =>
    rw [turn]
    split
    · exact .inl positive
    · rw [rank_header_nil, rank, length_drop]
      omega

/-- The reader as a machine that never faults. -/
def machine : StepMachine (RecordReader α κ) α (κ × List α) Empty where
  step reader data := .ok (format.turn reader data)
  rank := format.rank
  progress := by
    intro reader data turn nonempty taken
    cases taken
    exact format.turn_progress reader nonempty

/-- The buffer never holds a complete header. -/
def Good : RecordReader α κ → Prop
  | .header buffer => buffer.length < format.headerSize
  | .body _ _ _ => True
  | .skip _ => True

lemma good_opened (header : List α) : format.Good (format.opened header) := by
  rw [opened]
  split <;> trivial

lemma good_turn (reader : RecordReader α κ) (data : List α) :
    format.Good (format.turn reader data).state := by
  cases reader with
  | header buffer =>
    rw [turn]
    split
    next short =>
      change (buffer ++ data).length < _
      rwa [length_append]
    next => exact format.good_opened _
  | body | skip =>
    rw [turn]
    split
    · trivial
    · exact format.headerSize_pos

/-! ## Locality -/

variable {reader : RecordReader α κ} {front : List α}

/-- Data that arrives behind a complete turn stays unread. -/
lemma turn_append_of_complete (back : List α) :
    (match reader with
      | .header buffer => format.headerSize ≤ buffer.length + front.length
      | .body _ _ left => left ≤ front.length
      | .skip left => left ≤ front.length) →
    format.turn reader (front ++ back) =
      ⟨(format.turn reader front).state, (format.turn reader front).output,
        (format.turn reader front).tail ++ back⟩ := by
  intro complete
  cases reader with
  | header buffer =>
    have enough : format.headerSize - buffer.length ≤ front.length := by omega
    simp only [turn, length_append]
    rw [if_neg (by omega), if_neg (by omega)]
    simp [take_append_of_le_length enough, drop_append_of_le_length enough]
  | body =>
    simp only [turn, length_append]
    rw [if_neg (by omega), if_neg (by omega), take_append_of_le_length complete,
      drop_append_of_le_length complete]
  | skip =>
    simp only [turn, length_append]
    rw [if_neg (by omega), if_neg (by omega), drop_append_of_le_length complete]

/-- Data that arrives behind an incomplete turn resumes it. -/
lemma turn_append_of_waiting (back : List α) :
    (match reader with
      | .header buffer => buffer.length + front.length < format.headerSize
      | .body _ _ left => front.length < left
      | .skip left => front.length < left) →
    (format.turn reader front).output = none ∧ (format.turn reader front).tail = [] ∧
      format.turn reader (front ++ back) = format.turn (format.turn reader front).state back := by
  intro waiting
  cases reader with
  | header buffer =>
    have missing : format.headerSize - buffer.length - front.length =
        format.headerSize - (buffer ++ front).length := by
      rw [length_append]
      omega
    have pastFront : front.length ≤ format.headerSize - buffer.length := by omega
    simp only [turn, if_pos waiting]
    refine ⟨trivial, trivial, ?_⟩
    simp [take_append, drop_append, take_of_length_le pastFront, drop_of_length_le pastFront,
      missing, Nat.add_assoc]
  | body _ _ left =>
    have pastFront : front.length ≤ left := Nat.le_of_lt waiting
    simp only [turn, if_pos waiting]
    refine ⟨trivial, trivial, ?_⟩
    simp only [take_append, drop_append, take_of_length_le pastFront,
      drop_of_length_le pastFront, length_append, append_assoc, nil_append, Nat.sub_sub]
    by_cases still : front.length + back.length < left
    · rw [if_pos still, if_pos (by omega)]
    · rw [if_neg still, if_neg (by omega)]
  | skip left =>
    have pastFront : front.length ≤ left := Nat.le_of_lt waiting
    simp only [turn, if_pos waiting]
    refine ⟨trivial, trivial, ?_⟩
    simp only [drop_append, drop_of_length_le pastFront, length_append, nil_append, Nat.sub_sub]
    by_cases still : front.length + back.length < left
    · rw [if_pos still, if_pos (by omega)]
    · rw [if_neg still, if_neg (by omega)]

lemma machine_local : format.machine.Local format.Good where
  total := by
    intro reader data isGood nonempty
    exact ⟨_, rfl⟩
  split := by
    intro reader front turn back isGood frontNonempty backNonempty taken
    cases taken
    by_cases waiting : match reader with
      | .header buffer => buffer.length + front.length < format.headerSize
      | .body _ _ left | .skip left => front.length < left
    · obtain ⟨quiet, used, resumed⟩ := format.turn_append_of_waiting back waiting
      exact .inr ⟨quiet, used, format.good_turn reader front, congrArg _ resumed⟩
    · refine .inl (congrArg _ (format.turn_append_of_complete back ?_))
      cases reader with
      | header | body | skip => exact Nat.le_of_not_lt waiting

lemma machine_closed {data : List α} (_ : format.Good reader) (_ : data ≠ []) :
    ∃ turn, format.machine.step reader data = .ok turn ∧ format.Good turn.state :=
  ⟨_, rfl, format.good_turn reader data⟩

/-! ## Streams of records -/

/-- A header together with a body of the length it announces. -/
structure Record where
  header : List α
  body : List α
  header_length : header.length = format.headerSize
  body_length : body.length = (format.parse header).2

namespace Record

variable {format}

/-- The record on the stream. -/
def bytes (record : format.Record) : List α := record.header ++ record.body

/-- The records one after the other. -/
def stream (records : List format.Record) : List α := records.flatMap bytes

lemma stream_cons (record : format.Record) (records : List format.Record) :
    stream (record :: records) = record.bytes ++ stream records := flatMap_cons

/-- What the reader hands out for a record. -/
def output (record : format.Record) : Option (κ × List α) :=
  (format.parse record.header).1.map (·, record.body)

section

variable (record : format.Record)

lemma bytes_ne_nil : record.bytes ≠ [] := by
  intro empty
  have positive := format.headerSize_pos
  have length := record.header_length
  rw [(append_eq_nil_iff.mp empty).1, length_nil] at length
  omega

lemma header_turn (rest : List α) :
    format.turn (.header []) (record.header ++ rest) =
      ⟨format.opened record.header, none, rest⟩ := by
  have length := record.header_length
  simp only [turn, length_nil, Nat.zero_add, length_append, Nat.sub_zero, nil_append]
  rw [if_neg (by omega), ← length, take_left, drop_left]

lemma body_turn (rest : List α) :
    format.turn (format.opened record.header) (record.body ++ rest) =
      ⟨.header [], record.output, rest⟩ := by
  have length := record.body_length
  rw [opened, output]
  rcases parsed : format.parse record.header with ⟨key, size⟩
  rw [parsed] at length
  subst length
  cases key with
  | none =>
    simp only [turn, length_append]
    rw [if_neg (by omega), drop_left]
    rfl
  | some =>
    simp only [turn, length_append]
    rw [if_neg (by omega), take_left, drop_left]
    rfl

/-- A record is read in two turns, as soon as anything follows its header. -/
lemma run_record {rest : List α} {final : RecordReader α κ} {outputs : List (κ × List α)}
    (more : record.body ++ rest ≠ [])
    (run : format.machine.Run format.Good (.header []) rest final outputs) :
    format.machine.Run format.Good (.header []) (record.bytes ++ rest) final
      (record.output.toList ++ outputs) := by
  have headerTurn : format.machine.step (.header []) (record.header ++ (record.body ++ rest)) =
      .ok ⟨format.opened record.header, none, record.body ++ rest⟩ :=
    congrArg _ (record.header_turn _)
  have bodyTurn : format.machine.step (format.opened record.header) (record.body ++ rest) =
      .ok ⟨.header [], record.output, rest⟩ := congrArg _ (record.body_turn rest)
  have bodyRun := StepMachine.Run.turn more (format.good_opened _) bodyTurn run
  rw [bytes, append_assoc]
  exact .silent (append_ne_nil_of_right_ne_nil _ more) format.headerSize_pos headerTurn bodyRun

end

/-- A stream of records is read record by record, if its last body is not empty. -/
lemma run_stream (records : List format.Record)
    (lastNonempty : ∀ last, records.getLast? = some last → last.body ≠ []) :
    format.machine.Run format.Good (.header []) (stream records) (.header [])
      (records.filterMap output) := by
  induction records with
  | nil => exact .done _
  | cons record records ih =>
    have others := ih fun last isLast => lastNonempty last (by
      rw [getLast?_cons, isLast]
      rfl)
    have more : record.body ++ stream records ≠ [] := by
      intro empty
      obtain ⟨noBody, noRecords⟩ := append_eq_nil_iff.mp empty
      cases records with
      | nil => exact lastNonempty record rfl noBody
      | cons next => exact next.bytes_ne_nil (append_eq_nil_iff.mp noRecords).1
    have run := record.run_record more others
    cases wanted : record.output with
    | none =>
      rw [filterMap_cons_none wanted]
      rwa [wanted] at run
    | some =>
      rw [filterMap_cons_some wanted]
      rwa [wanted] at run

end Record

end Format

end TrustTunnel.Chunked
