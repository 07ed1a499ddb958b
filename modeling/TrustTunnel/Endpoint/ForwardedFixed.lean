import TrustTunnel.Endpoint.ForwardedHead

/-!
# Forwarded bodies of a known length

The sink counts every byte of a write that reaches past the end of the body as sent.
It finds the end of the body exactly if a write ends there.
-/

namespace TrustTunnel.Endpoint

open Http Chunked SimplexPipe List

/-- A write to the client sends the front of the data, and either all of it or using up
an acceptance. -/
lemma Client.exists_write (self : Client) (data : Bytes) :
    ∃ accepted unsent client, self.write data = (unsent, client) ∧ data = accepted ++ unsent ∧
      client.received = self.received ++ accepted.map .byte ∧
      client.acceptances.length ≤ self.acceptances.length ∧
      (unsent = [] ∨ client.acceptances.length < self.acceptances.length) := by
  obtain ⟨limits, got⟩ := self
  cases limits with
  | nil => exact ⟨data, [], _, rfl, (append_nil data).symm, rfl, le_rfl, .inl rfl⟩
  | cons count =>
    refine ⟨data.take count, data.drop count, _, rfl, (take_append_drop _ _).symm, rfl, ?_, .inr ?_⟩
    · exact Nat.le_succ _
    · exact Nat.lt_succ_self _

namespace ForwardedStreamSink

variable {crates : Crates} {length sentBytes : Nat} {fakeUnsent : Bool} {client : Client}
  {data body extra : Bytes} {writes : List Bytes} {final : SimplexPipe ForwardedStreamSink}

lemma waitWritable_nonEncoded (bodyLength : Option Nat) (sentBytes : Nat) (fakeUnsent : Bool)
    (client : Client) :
    (ops crates).waitWritable
        ⟨.transferringBodyNonEncoded bodyLength sentBytes, fakeUnsent, client⟩ =
      (.ok (), ⟨.transferringBodyNonEncoded bodyLength sentBytes, false, client⟩) := by
  cases fakeUnsent with
  | true | false => rfl

/-- The sink does not leave the body when it is complete, so that the end of the origin's stream
ends it for the client, a second time if it has a length. -/
lemma received_finish {bodyLength : Option Nat} (ends : final ∈ drive (ops crates)
      ⟨.transferringBodyNonEncoded bodyLength sentBytes, fakeUnsent, client⟩ writes) :
    (final.finish eof).sink.client.received = final.sink.client.received ++ [.eof] := by
  let property (sink : ForwardedStreamSink) : Prop :=
    ∃ sent, sink.state = .transferringBodyNonEncoded bodyLength sent
  have inBody : property final.sink := by
    refine invariant_of_mem_drive ?_ ?_ ⟨sentBytes, rfl⟩ ends
    · rintro ⟨state, flag, client⟩ data ⟨sent, rfl⟩
      simp only [ops, write]
      cases bodyLength with
      | none | some =>
        simp only [onNonEncodedChunk, sendNonEncoded]
        repeat' split
        all_goals exact ⟨_, rfl⟩
    · rintro ⟨state, flag, client⟩ ⟨sent, rfl⟩
      rw [waitWritable_nonEncoded]
      exact ⟨sent, rfl⟩
  obtain ⟨sent, state⟩ := inBody
  simp only [finish, eof, state, Client.eof]

/-- Without a length the end of the body is never signalled. -/
lemma eof_not_mem_of_unlimited (unended : .eof ∉ client.received)
    (ends : final ∈ drive (ops crates)
      ⟨.transferringBodyNonEncoded none sentBytes, fakeUnsent, client⟩ writes) :
    .eof ∉ final.sink.client.received := by
  let property (sink : ForwardedStreamSink) : Prop :=
    (∃ sent, sink.state = .transferringBodyNonEncoded none sent) ∧ .eof ∉ sink.client.received
  suffices property final.sink from this.2
  refine invariant_of_mem_drive ?_ ?_ ⟨⟨sentBytes, rfl⟩, unended⟩ ends
  · rintro ⟨state, flag, client⟩ data ⟨⟨sent, rfl⟩, unended⟩
    obtain ⟨accepted, unsent, after, writes, -, got, -⟩ := client.exists_write
      (data.take data.length)
    simp only [ops, write, onNonEncodedChunk, sendNonEncoded, writes]
    split
    · exact ⟨⟨sent, rfl⟩, unended⟩
    · refine ⟨⟨_, rfl⟩, ?_⟩
      simp [got, unended]
  · rintro ⟨state, flag, client⟩ ⟨⟨sent, rfl⟩, unended⟩
    simp only [waitWritable_nonEncoded]
    exact ⟨⟨sent, rfl⟩, unended⟩

lemma write_finished (finished : length ≤ sentBytes) :
    (ops crates).write
        ⟨.transferringBodyNonEncoded (some length) sentBytes, fakeUnsent, client⟩ data =
      (.error (.io (.ofKind .unexpectedEof)),
        ⟨.transferringBodyNonEncoded (some length) sentBytes, fakeUnsent, client⟩) := by
  simp [ops, write, onNonEncodedChunk, if_pos finished]

/-- A write that reaches past the end of the body hides the end. -/
lemma eof_not_mem_of_crossing (crossing : length - sentBytes < data.length)
    (unended : .eof ∉ client.received)
    (ends : final ∈ drive (ops crates)
      ⟨.transferringBodyNonEncoded (some length) sentBytes, fakeUnsent, client⟩ (data :: writes)) :
    .eof ∉ final.sink.client.received := by
  induction left : length - sentBytes using Nat.strong_induction_on
    generalizing sentBytes fakeUnsent client data with
  | _ left ih =>
    rcases Nat.lt_or_ge sentBytes length with unfinished | finished
    · obtain ⟨accepted, unsent, after, sends, splits, got, -⟩ := client.exists_write
        (data.take (length - sentBytes))
      have toSend : min data.length (length - sentBytes) = length - sentBytes := by omega
      have lengths := congrArg List.length splits
      rw [length_take, length_append, min_comm] at lengths
      have unendedAfter : .eof ∉ after.received := by
        simp [got, unended]
      have written : (ops crates).write
          ⟨.transferringBodyNonEncoded (some length) sentBytes, fakeUnsent, client⟩ data =
          if sentBytes + (data.length - unsent.length) = length then
            (.error (.panic .assertion), ⟨.transferringBodyNonEncoded (some length)
              (sentBytes + (data.length - unsent.length)), fakeUnsent, after⟩)
          else
            (.ok (data.drop (length - sentBytes - unsent.length)),
              ⟨.transferringBodyNonEncoded (some length)
                (sentBytes + (data.length - unsent.length)), fakeUnsent, after⟩) := by
        have nonzero : length - sentBytes ≠ 0 := by omega
        have wrong : ¬(unsent = [] ∧ data.length = length - sentBytes) := by omega
        simp only [ops, write, onNonEncodedChunk, sendNonEncoded, toSend, sends,
          if_neg (Nat.not_le_of_lt unfinished), if_neg nonzero, if_neg wrong, Option.some.injEq]
      split at written
      · rw [drive_cons_error written, Part.mem_some_iff] at ends
        rw [ends]
        exact unendedAfter
      · rename_i panics
        have behind : unsent.length < (data.drop (length - sentBytes - unsent.length)).length := by
          rw [length_drop]
          omega
        rw [drive_cons_tail written (ne_nil_of_length_pos (by omega))
          (waitWritable_nonEncoded _ _ _ _)] at ends
        refine ih _ ?_ ?_ unendedAfter ends rfl
        · omega
        · omega
    · rw [drive_cons_error (write_finished finished), Part.mem_some_iff] at ends
      rw [ends]
      exact unended

/-- A write within the body sends its front; the end of the body is signalled with its
last byte. -/
lemma write_within (unfinished : sentBytes < length) (within : data.length ≤ length - sentBytes) :
    ∃ accepted unsent after, data = accepted ++ unsent ∧
      after.received = client.received ++ accepted.map .byte ∧
      after.acceptances.length ≤ client.acceptances.length ∧
      (unsent = [] ∨ after.acceptances.length < client.acceptances.length) ∧
      (ops crates).write
          ⟨.transferringBodyNonEncoded (some length) sentBytes, fakeUnsent, client⟩ data =
        (.ok unsent, ⟨.transferringBodyNonEncoded (some length) (sentBytes + accepted.length),
          fakeUnsent,
          if sentBytes + accepted.length = length then after.eof else after⟩) := by
  have toSend : min data.length (length - sentBytes) = data.length := by omega
  cases data with
  | nil =>
    refine ⟨[], [], client, rfl, (append_nil _).symm, le_rfl, .inl rfl, ?_⟩
    have more : ¬sentBytes + ([] : Bytes).length = length := by
      simpa using ne_of_lt unfinished
    simp only [ops, write, onNonEncodedChunk, sendNonEncoded,
      if_neg (Nat.not_le_of_lt unfinished), toSend, if_neg more]
    rfl
  | cons byte rest =>
    obtain ⟨accepted, unsent, after, sends, splits, got, le, progress⟩ := client.exists_write _
    refine ⟨accepted, unsent, after, splits, got, le, progress, ?_⟩
    have lengths := congrArg List.length splits
    rw [length_append] at lengths
    have counted : (byte :: rest).length - unsent.length = accepted.length := by omega
    have returned : (byte :: rest).drop accepted.length = unsent := by
      rw [splits, drop_left]
    simp only [ops, write, onNonEncodedChunk, sendNonEncoded,
      if_neg (Nat.not_le_of_lt unfinished), toSend, take_length, sends, counted, returned,
      Option.some.injEq]
    rw [if_neg (by simp)]
    by_cases complete : sentBytes + accepted.length = length
    · have all : unsent = [] := length_eq_zero_iff.mp (by omega)
      rw [if_pos complete, if_pos complete, if_pos ⟨all, trivial⟩]
    · rw [if_neg complete, if_neg complete]

/-- Behind the end of the body nothing is passed on. -/
lemma drive_finished (finished : length ≤ sentBytes) :
    ∃ final ∈ drive (ops crates)
        ⟨.transferringBodyNonEncoded (some length) sentBytes, fakeUnsent, client⟩ writes,
      (∀ fault, final.failure ≠ some (.panic fault)) ∧
        final.sink.client.received = client.received := by
  cases writes with
  | nil =>
    rw [drive_nil]
    exact ⟨_, Part.mem_some _, by simp [SimplexPipe.new], rfl⟩
  | cons =>
    rw [drive_cons_error (write_finished finished)]
    exact ⟨_, Part.mem_some _, by simp, rfl⟩

/-- The body is passed on, and its end signalled, exactly if a write ends where the body
ends. -/
lemma drive_nonEncoded_iff (unfinished : sentBytes < length)
    (size : body.length = length - sentBytes) (arrives : writes.flatten = body ++ extra)
    (unended : .eof ∉ client.received) :
    (∃ final ∈ drive (ops crates)
        ⟨.transferringBodyNonEncoded (some length) sentBytes, fakeUnsent, client⟩ writes,
      (∀ fault, final.failure ≠ some (.panic fault)) ∧
        final.sink.client.received = client.received ++ body.map .byte ++ [BodyEvent.eof]) ↔
      extra.length ∈ boundaries writes := by
  induction measure : writes.length + client.acceptances.length + writes.flatten.length
    using Nat.strong_induction_on generalizing sentBytes fakeUnsent client body writes with
  | _ measure ih =>
    cases writes with
    | nil =>
      have lengths := congrArg List.length arrives
      simp at lengths
      omega
    | cons data writes =>
      have lengths := congrArg List.length arrives
      rw [flatten_cons, length_append, length_append] at lengths
      rcases Nat.lt_or_ge _ _ with crossing | within
      · constructor
        · rintro ⟨final, ends, -, got⟩
          have missing := eof_not_mem_of_crossing crossing unended ends
          simp [got] at missing
        · intro mem
          have le := le_of_mem_boundaries_cons mem
          omega
      · obtain ⟨accepted, unsent, after, rfl, got, le, progress, written⟩ :=
          @write_within crates length _ _ client data unfinished within
        rw [flatten_cons, append_assoc] at arrives
        rw [length_append] at lengths within
        obtain ⟨rest, rfl, later⟩ :=
          exists_tail_of_append_eq arrives.symm (show accepted.length ≤ body.length by omega)
        have arrives := later.symm
        rw [length_append] at lengths size
        by_cases complete : sentBytes + accepted.length = length
        · have noRest : rest = [] := length_eq_zero_iff.mp (by omega)
          have all : unsent = [] := length_eq_zero_iff.mp (by omega)
          subst noRest all
          rw [if_pos complete] at written
          rw [drive_cons_nil written]
          obtain ⟨final, ends, safe, kept⟩ := @drive_finished crates length _ _ _ writes complete.ge
          refine iff_of_true ⟨final, ends, safe, ?_⟩ ?_
          · rw [kept, Client.eof, got, append_nil]
          · have behind : writes.flatten = extra := arrives
            rw [← behind]
            exact mem_cons_self
        · rw [if_neg complete] at written
          have unendedAfter : .eof ∉ after.received := by
            simp [got, unended]
          have remains := Remains.cons (accepted ++ unsent) unsent writes
          have inside : extra.length < (unsent ++ writes.flatten).length := by
            rw [arrives, length_append]
            omega
          have target : client.received ++ (accepted ++ rest).map .byte ++ [BodyEvent.eof] =
              after.received ++ rest.map .byte ++ [BodyEvent.eof] := by
            simp only [got, map_append, append_assoc]
          rw [target, remains.boundaries _ inside]
          cases unsent with
          | nil =>
            rw [drive_cons_nil written]
            refine ih _ ?_ (by omega) (by omega) arrives unendedAfter rfl
            simp at measure ⊢
            omega
          | cons =>
            rw [drive_cons_tail written (cons_ne_nil _ _) (waitWritable_nonEncoded _ _ _ _)]
            refine ih _ ?_ (by omega) (by omega) arrives unendedAfter rfl
            have fewer := progress.resolve_left (cons_ne_nil _ _)
            simp at measure ⊢
            omega

/-! ## Whole responses -/

open SinkWaitingResponse

/-- A response with a length is forwarded as it should be if and only if it has at most
128 headers, no connection option drops the length, the length fits in 64 bits, and a
write ends exactly at the end of the body. -/
theorem receives_fixed_iff {head : Bytes} {resp : Response} {method : String}
    {version : Version} (parses : crates.ParsesHead head resp)
    (builds : crates.Builds resp) (fields : FixedHeaders resp.headers length)
    (bodied : ¬Bodiless method resp.code) (positive : 0 < length)
    (size : body.length = length) (arrives : writes.flatten = head ++ (body ++ extra))
    (limits : List Nat) :
    (∃ final ∈ drive (ops crates) (new method version limits) writes,
      (∀ fault, final.failure ≠ some (.panic fault)) ∧
        final.sink.client.received = body.map .byte ++ [.eof]) ↔
      resp.headers.length ≤ maxResponseHeadersNum ∧
        Read "content-length" resp.headers ∧ length < 2 ^ 64 ∧
        extra.length ∈ boundaries writes := by
  have unended
      (missing : ∀ final ∈ drive (ops crates) (new method version limits) writes,
        .eof ∉ final.sink.client.received) :
      ¬∃ final ∈ drive (ops crates) (new method version limits) writes,
        (∀ fault, final.failure ≠ some (.panic fault)) ∧
          final.sink.client.received = body.map .byte ++ [BodyEvent.eof] := by
    rintro ⟨final, ends, -, got⟩
    have absent := missing final ends
    simp [got] at absent
  by_cases few : resp.headers.length ≤ maxResponseHeadersNum
  · by_cases small : Read "content-length" resp.headers → length < 2 ^ 64
    · obtain ⟨dropped, converts⟩ := @converts_fixed version _ _ fields small
      obtain ⟨sink, left, ⟨flag, answers, rfl⟩, remains, drives⟩ :=
        drive_of_converts parses few builds bodied converts _ arrives
      split at drives
      · rename_i read
        have inside : extra.length < (body ++ extra).length := by
          rw [length_append]
          omega
        rw [drives, remains.boundaries _ inside]
        refine (drive_nonEncoded_iff positive size remains.flatten not_mem_nil).trans ?_
        exact ⟨fun mem => ⟨few, read, small read, mem⟩, fun holds => holds.2.2.2⟩
      · rename_i read
        refine iff_of_false (unended ?_) (fun holds => read holds.2.1)
        intro final ends
        exact eof_not_mem_of_unlimited not_mem_nil (drives ▸ ends)
    · obtain ⟨read, large⟩ := Classical.not_imp.mp small
      refine iff_of_false (unended ?_) (fun holds => large holds.2.2.1)
      intro final ends
      exact eof_not_mem_of_unconverted parses arrives ends few
        (foldlM_convertHeader_large fields (Nat.le_of_not_lt large) read)
  · refine iff_of_false (unended ?_) (fun holds => few holds.1)
    intro final ends
    exact eof_not_mem_of_overflow parses arrives ends few

def helloHead : Bytes := .ofString "HTTP/1.1 200 OK\r\nContent-Length: 5\r\n\r\n"

def helloResponse : Response := ⟨200, [⟨"Content-Length", .ofString "5"⟩]⟩

def hello : Bytes := .ofString "hello"

lemma fixedHeaders_hello : FixedHeaders helloResponse.headers 5 where
  present := ⟨_, mem_singleton.mpr rfl, by decide +kernel⟩
  decimal := by
    rintro header mem -
    rw [mem_singleton.mp mem]
    exact ⟨by decide, by decide, by decide⟩
  plain := by
    intro header mem
    rw [mem_singleton.mp mem]
    decide +kernel

/-- The next response begins in a write of its own; the client takes one byte of the first
and none of the second write. -/
theorem receives_hello :
    ∃ final ∈ drive (ops (.knowing helloHead helloResponse)) (new "GET" .http2 [1, 0])
        [helloHead ++ [104, 101], [108, 108, 111], helloHead],
      (∀ fault, final.failure ≠ some (.panic fault)) ∧
        final.sink.client.received = hello.map .byte ++ [.eof] := by
  have arrives : [helloHead ++ [104, 101], [108, 108, 111], helloHead].flatten =
      helloHead ++ (hello ++ helloHead) := by decide
  refine (receives_fixed_iff (Crates.parsesHead_knowing helloResponse (by decide))
    (Crates.builds_knowing helloHead helloResponse) fixedHeaders_hello (by decide)
    (by decide) (by decide) arrives [1, 0]).mpr ?_
  exact ⟨by decide, by decide +kernel, by decide, by decide⟩

/-- A write with the body and one more byte, of which the client takes four bytes, runs
into an assertion. -/
theorem not_receives_hello_crossing :
    [helloHead, hello ++ [33]].flatten = helloHead ++ (hello ++ [33]) ∧
      (¬∃ final ∈ drive (ops (.knowing helloHead helloResponse)) (new "GET" .http2 [4])
        [helloHead, hello ++ [33]],
      (∀ fault, final.failure ≠ some (.panic fault)) ∧
        final.sink.client.received = hello.map .byte ++ [.eof]) ∧
      ∃ final ∈ drive (ops (.knowing helloHead helloResponse)) (new "GET" .http2 [4])
        [helloHead, hello ++ [33]], final.failure = some (.panic .assertion) := by
  have ends : drive (ops (.knowing helloHead helloResponse)) (new "GET" .http2 [4])
      [helloHead, hello ++ [33]] = .some _ :=
    eval_of_rounds 2 (by decide +kernel)
  have panics : (rounds (ops (.knowing helloHead helloResponse)) 2 (.new (new "GET" .http2 [4])
      [helloHead, hello ++ [33]])).failure = some (.panic .assertion) := by
    decide +kernel
  rw [ends]
  refine ⟨by decide, ?_, _, Part.mem_some _, panics⟩
  rintro ⟨final, same, safe, -⟩
  rw [Part.mem_some_iff.mp same] at safe
  exact safe .assertion panics

end ForwardedStreamSink

end TrustTunnel.Endpoint
