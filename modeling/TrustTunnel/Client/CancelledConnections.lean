import TrustTunnel.Client.LiveConnections

/-!
# Connections that are closed while they wait

A connection that waits for a session is in the table of pending ones only. The multiplexer
looks for a connection that is to be closed in the other table, so that one that waits stays
there, and is opened after all when its session is.
-/

namespace TrustTunnel.Client.UpstreamMultiplexer

open Transition List AList

/-- A call or an event; `id` is the connection that the event is about. -/
structure Notice extends Occurrence where
  id : UInt64

/-- The connection whose opening is raised: the event of a child in the pool is passed on. -/
def raisesOpened (self : UpstreamMultiplexer) (notice : Notice) : Option UInt64 :=
  match notice.event with
  | .child upstreamId (.passed .connectionOpened) =>
    if upstreamId ∈ self.upstreamsPool then some notice.id else none
  | _ => none

/-- A multiplexer, and the connections that were closed while they waited, with the upstream
for whose session they waited then. -/
structure Watched where
  mux : UpstreamMultiplexer
  cancelled : List (UInt64 × Int32)

variable {answers : Answers} {self after : UpstreamMultiplexer} {watched : Watched} {notice : Notice}
  {id : UInt64} {upstreamId : Int32} {ids : List UInt64} {target : ConnectionTarget}
  {connId : UInt64} {between : UpstreamMultiplexer} {conn : PendingConnection}

/-! ## Connections that wait, and those that are asked for -/

/-- Of the connections that wait only those of a list are asked for, and these wait no more. -/
structure Advances (ids : List UInt64) (before after : UpstreamMultiplexer) : Prop where
  pending : ∀ id, ∀ conn ∈ after.pendingConnections.lookup id,
    conn ∈ before.pendingConnections.lookup id ∧ id ∉ ids
  asked : ∀ id ∈ after.asked, id ∈ before.asked ∨ id ∈ ids

/-- No connection is asked for, and none begins to wait. -/
abbrev Stays : UpstreamMultiplexer → UpstreamMultiplexer → Prop := Advances []

lemma Stays.of_eq (pending : after.pendingConnections = self.pendingConnections)
    (asked : after.asked = self.asked) : Stays self after :=
  ⟨fun _ _ found => ⟨pending ▸ found, not_mem_nil⟩, fun _ listed => .inl (asked ▸ listed)⟩

lemma Advances.trans {later : List UInt64} (first : Advances ids self between)
    (second : Advances later between after) : Advances (ids ++ later) self after where
  pending id conn found := by
    obtain ⟨found, apart⟩ := second.pending id conn found
    obtain ⟨found, before⟩ := first.pending id conn found
    exact ⟨found, not_mem_append before apart⟩
  asked id listed := by
    rw [mem_append, ← or_assoc]
    exact (second.asked id listed).imp_left (first.asked id)

lemma Stays.trans (first : Stays self between) (second : Stays between after) : Stays self after :=
  Advances.trans first second

lemma Stays.foldl {α : Type} {round : UpstreamMultiplexer → α → UpstreamMultiplexer}
    (step : ∀ mux item, Stays mux (round mux item)) (self : UpstreamMultiplexer) (items : List α) :
    Stays self (items.foldl round self) :=
  foldlRecOn (motive := Stays self) _ _ (.of_eq rfl rfl)
    fun mux stays item _ => stays.trans (step mux item)

lemma lookup_of_mem_erase {other : UInt64}
    (found : conn ∈ (self.pendingConnections.erase id).lookup other) :
    conn ∈ self.pendingConnections.lookup other ∧ other ≠ id := by
  have different : other ≠ id := by
    rintro rfl
    rw [lookup_erase] at found
    cases found
  rw [lookup_erase_ne different] at found
  exact ⟨found, different⟩

lemma stays_connectionEnds (answers : Answers) (self : UpstreamMultiplexer) (id : UInt64) :
    Stays self (self.connectionEnds answers id) := by
  rw [connectionEnds]
  cases answers.endsWith id with
  | none | some => exact .of_eq rfl rfl

lemma stays_closeChild (answers : Answers) (self : UpstreamMultiplexer) (upstreamId : Int32) :
    Stays self (self.closeChild answers upstreamId) :=
  .foldl (stays_connectionEnds answers) self _

lemma stays_closeUpstream (self : UpstreamMultiplexer) (upstreamId : Int32) :
    Stays self (self.closeUpstream upstreamId) := by
  fun_cases self.closeUpstream _ with
  | case1 | case2 | case3 | case4 => exact .of_eq rfl rfl

lemma stays_dropChild (answers : Answers) (self : UpstreamMultiplexer) (upstreamId : Int32) :
    Stays self (self.dropChild answers upstreamId) :=
  (stays_closeChild answers self _).trans (stays_closeUpstream _ _)

lemma stays_onSessionError (error : ErrorInfo) :
    Stays self (self.onSessionError answers upstreamId error) := by
  rw [onSessionError]
  split
  · dsimp only
    refine Stays.trans ?_ (.foldl (stays_dropChild answers) _ _)
    split
    · exact .of_eq rfl rfl
    · exact .of_eq rfl rfl
  · exact stays_dropChild answers self _

lemma stays_onSessionClosed : Stays self (self.onSessionClosed answers upstreamId) := by
  refine (Stays.foldl (fun mux id => ?_) self _).trans (stays_closeUpstream _ _)
  exact ⟨fun _ _ found => ⟨(lookup_of_mem_erase found).1, not_mem_nil⟩, fun _ listed => .inl listed⟩

lemma stays_closeConnection : Stays self (self.closeConnection answers id) := by
  fun_cases self.closeConnection answers id with
  | case1 | case3 => exact .of_eq rfl rfl
  | case2 => exact stays_connectionEnds answers self id

lemma stays_closeSession : Stays self (self.closeSession answers) := by
  have raised (mux : UpstreamMultiplexer) (ids : List UInt64) : Stays mux (ids.foldl
      (fun mux id => mux.raise (.error id ⟨.econnreset, "Session closed"⟩)) mux) :=
    Stays.foldl (fun mux id => @Stays.of_eq mux (mux.raise _) rfl rfl) _ _
  have closed := Stays.foldl (stays_closeChild answers) self
    (answers.poolOrder self.upstreamsPool.keys)
  refine ⟨fun id conn found => ?_, fun id listed => ?_⟩
  · cases ((raised _ _).pending id conn found).1
  · exact closed.asked id (((raised _ _).asked id listed).resolve_right not_mem_nil)

/-! ## Connections that are opened -/

/-- Only the connection that is opened begins to wait, or is asked for. -/
structure Starts (connId : UInt64) (before after : UpstreamMultiplexer) : Prop where
  pending : ∀ id, ∀ conn ∈ after.pendingConnections.lookup id,
    conn ∈ before.pendingConnections.lookup id ∨ id = connId
  asked : ∀ id ∈ after.asked, id ∈ before.asked ∨ id = connId

lemma Starts.trans (first : Starts connId self between) (second : Starts connId between after) :
    Starts connId self after where
  pending id conn found := (second.pending id conn found).elim (first.pending id conn) .inr
  asked id listed := (second.asked id listed).elim (first.asked id) .inr

lemma Opening.starts {result : UpstreamMultiplexer × Bool}
    (opening : Opening self connId target result) :
    Starts connId self result.1 ∧ (result.1.asked = self.asked ∨
      result.1.pendingConnections = self.pendingConnections) := by
  cases opening with
  | failed => exact ⟨⟨fun _ _ found => .inl found, fun _ listed => .inl listed⟩, .inl rfl⟩
  | refused | connects =>
    refine ⟨⟨fun _ _ found => .inl found, fun id listed => ?_⟩, .inr rfl⟩
    exact (mem_append.mp listed).imp_right mem_singleton.mp
  | pends =>
    refine ⟨⟨fun id conn found => ?_, fun _ listed => .inl listed⟩, .inl rfl⟩
    by_cases same : id = connId
    · exact .inr same
    · rw [lookup_emplace_ne _ same] at found
      exact .inl found

lemma starts_openConnection :
    Starts answers.connId self (self.openConnection answers target) ∧
      ((self.openConnection answers target).asked = self.asked ∨
        (self.openConnection answers target).pendingConnections = self.pendingConnections) := by
  rw [openConnection]
  split
  · exact ⟨⟨fun _ _ found => .inl found, fun _ listed => .inl listed⟩, .inl rfl⟩
  · obtain ⟨pool, -, opening⟩ := opening_tryOpenConnection answers self target
    obtain ⟨⟨pending, asked⟩, either⟩ := opening.starts
    exact ⟨⟨pending, asked⟩, either⟩

lemma starts_proceedPendingConnection :
    Starts connId self (self.proceedPendingConnection answers upstreamId connId target) := by
  have first := (self.opening_openConnectionOn answers.opens upstreamId connId target).starts.1
  have second (mux : UpstreamMultiplexer) (other : Int32) :=
    (mux.opening_openConnectionOn answers.fallsBack other connId target).starts.1
  fun_cases self.proceedPendingConnection answers _ connId target with
  | case1 _ result | case2 _ result =>
    rw [result] at first
    exact first
  | case3 _ result _ _ _ _ again | case4 _ result _ _ _ _ again =>
    rw [result] at first
    rename_i tried fallback _ _ _
    have second := second tried fallback
    rw [again] at second
    exact ⟨(first.trans second).pending, (first.trans second).asked⟩

lemma advances_proceedPending : Advances [id] self (proceedPending answers upstreamId self id) := by
  rw [proceedPending]
  split
  · rename_i missing
    refine ⟨fun other conn found => ⟨found, ?_⟩, fun _ listed => .inl listed⟩
    intro listed
    cases mem_singleton.mp listed
    cases missing.symm.trans found
  · rename_i conn _
    have starts := @starts_proceedPendingConnection answers self upstreamId conn.target id
    refine ⟨fun other conn found => ?_, fun other listed => ?_⟩
    · obtain ⟨found, different⟩ := lookup_of_mem_erase found
      exact ⟨(starts.pending other conn found).resolve_right different,
        mt mem_singleton.mp different⟩
    · exact (starts.asked other listed).imp_right mem_singleton.mpr

lemma advances_onSessionOpened :
    Advances (self.pendingOn answers upstreamId) self (self.onSessionOpened answers upstreamId) := by
  have same : (self.announceSession.markOpened upstreamId).pendingConnections =
      self.pendingConnections ∧ (self.announceSession.markOpened upstreamId).asked = self.asked := by
    rw [markOpened, announceSession]
    split
    · exact ⟨rfl, rfl⟩
    · exact ⟨rfl, rfl⟩
  have rounds (ids : List UInt64) (mux : UpstreamMultiplexer) :
      Advances ids mux (ids.foldl (proceedPending answers upstreamId) mux) := by
    induction ids generalizing mux with
    | nil => exact Stays.of_eq rfl rfl
    | cons _ _ ih => exact advances_proceedPending.trans (ih _)
  have waiting : (self.announceSession.markOpened upstreamId).pendingOn answers upstreamId =
      self.pendingOn answers upstreamId := by
    rw [pendingOn, pendingOn, same.1]
  rw [← waiting]
  exact Advances.trans (Stays.of_eq same.1 same.2) (rounds _ _)

/-- If no connection is opened, those that are asked for have waited for a session that is
opened. -/
lemma advances_next (event : MuxEvent) (other : ∀ target, event ≠ .openConnection target) :
    ∃ ids, Advances ids self (self.next ⟨event, answers⟩) ∧ ∀ id ∈ ids, ∃ upstreamId,
      event = .child upstreamId .sessionOpened ∧ id ∈ self.pendingOn answers upstreamId := by
  have idle {after : UpstreamMultiplexer} (stays : Stays self after) :
      ∃ ids, Advances ids self after ∧ ∀ id ∈ ids, ∃ upstreamId,
        event = .child upstreamId .sessionOpened ∧ id ∈ self.pendingOn answers upstreamId :=
    ⟨[], stays, fun _ listed => absurd listed not_mem_nil⟩
  cases event with
  | openSession =>
    refine idle ?_
    simp only [UpstreamMultiplexer.next, openSession, openNewUpstream]
    split <;> [skip; split] <;> exact .of_eq rfl rfl
  | closeSession => exact idle stays_closeSession
  | openConnection => exact absurd rfl (other _)
  | closeConnection => exact idle stays_closeConnection
  | child upstreamId event =>
    change ∃ ids, Advances ids self (self.childUpstreamHandler answers upstreamId event) ∧ _
    rw [childUpstreamHandler.eq_def]
    split
    · exact idle (.of_eq rfl rfl)
    · cases event with
      | sessionOpened => exact ⟨_, advances_onSessionOpened, fun _ listed => ⟨upstreamId, rfl, listed⟩⟩
      | sessionClosed => exact idle stays_onSessionClosed
      | connectionClosed | passed => exact idle (.of_eq rfl rfl)
      | error _ error =>
        refine idle ?_
        dsimp only
        split
        · exact .of_eq rfl rfl
        · exact stays_onSessionError error

/-! ## Runs -/

namespace Watched

def new : Watched := ⟨.new, []⟩

def next (watched : Watched) (notice : Notice) : Watched where
  mux := watched.mux.next notice.toOccurrence
  cancelled :=
    match notice.event with
    | .closeConnection id =>
      (watched.mux.pendingConnections.lookup id).toList.map (fun conn => (id, conn.upstreamId)) ++
        watched.cancelled
    | _ => watched.cancelled

/-- The part of the others: an id is given once, and children report the opening of connections
that they were asked to open. -/
def Contract (watched : Watched) (notice : Notice) : Prop :=
  match notice.event with
  | .openConnection _ =>
    notice.answers.connId ∉ watched.mux.pendingConnections ∧
      notice.answers.connId ∉ watched.mux.asked ∧
      ∀ entry ∈ watched.cancelled, entry.1 ≠ notice.answers.connId
  | .child _ (.passed .connectionOpened) => notice.id ∈ watched.mux.asked
  | _ => True

/-- A session is not opened for which a connection waited when it was closed. -/
def NoneAwaited (watched : Watched) (notice : Notice) : Prop :=
  match notice.event with
  | .child upstreamId .sessionOpened => ∀ entry ∈ watched.cancelled, entry.2 ≠ upstreamId
  | _ => True

/-- No child has been asked to open a connection that was closed while it waited, nor is its
opening raised. -/
def Final (watched : Watched) (notice : Notice) : Prop :=
  ∀ entry ∈ watched.cancelled, entry.1 ∉ (watched.next notice).mux.asked ∧
    watched.mux.raisesOpened notice ≠ some entry.1

/-- A connection waits, or was closed while it waited, only if no child was asked to open it,
and one that was closed still waits for the same upstream if it does. -/
structure Apart (state : Watched) : Prop where
  pending : ∀ id ∈ state.mux.pendingConnections, id ∉ state.mux.asked
  cancelled : ∀ entry ∈ state.cancelled, entry.1 ∉ state.mux.asked
  awaited : ∀ entry ∈ state.cancelled, ∀ conn ∈ state.mux.pendingConnections.lookup entry.1,
    conn.upstreamId = entry.2

lemma mem_of_lookup {pending : AList fun _ : UInt64 => PendingConnection}
    (found : conn ∈ pending.lookup id) : id ∈ pending :=
  lookup_isSome.mp (Option.isSome_iff_exists.mpr ⟨conn, found⟩)

/-- The history before a step still fits the multiplexer after it. -/
lemma Apart.step (apart : watched.Apart) (contract : watched.Contract notice)
    (noneAwaited : watched.NoneAwaited notice) :
    Apart { watched with mux := watched.mux.next notice.toOccurrence } := by
  obtain ⟨⟨event, answers⟩, opened⟩ := notice
  have advanced {ids : List UInt64}
      (advances : Advances ids watched.mux (watched.mux.next ⟨event, answers⟩))
      (uncancelled : ∀ entry ∈ watched.cancelled, entry.1 ∉ ids) :
      Apart { watched with mux := watched.mux.next ⟨event, answers⟩ } := by
    refine ⟨fun id waits asked => ?_, fun entry closed asked => ?_,
      fun entry closed conn found => ?_⟩
    · obtain ⟨conn, found⟩ := Option.isSome_iff_exists.mp (lookup_isSome.mpr waits)
      obtain ⟨found, listed⟩ := advances.pending id conn found
      exact (advances.asked id asked).elim (apart.pending id (mem_of_lookup found)) listed
    · exact (advances.asked _ asked).elim (apart.cancelled entry closed) (uncancelled entry closed)
    · exact apart.awaited entry closed conn (advances.pending _ conn found).1
  by_cases opens : ∃ target, event = .openConnection target
  · obtain ⟨target, rfl⟩ := opens
    obtain ⟨starts, either⟩ := @starts_openConnection answers watched.mux target
    obtain ⟨unknown, unasked, uncancelled⟩ := contract
    have earlier {id : UInt64} {conn : PendingConnection} (different : id ≠ answers.connId)
        (found : conn ∈ (watched.mux.openConnection answers target).pendingConnections.lookup id) :=
      (starts.pending id conn found).resolve_right different
    refine ⟨fun id waits asked => ?_, fun entry closed asked => ?_,
      fun entry closed conn found => ?_⟩
    · obtain ⟨conn, found⟩ := Option.isSome_iff_exists.mp (lookup_isSome.mpr waits)
      by_cases same : id = answers.connId
      · subst same
        rcases either with same | same
        · exact unasked (same ▸ asked)
        · exact unknown (same ▸ waits)
      · exact apart.pending id (mem_of_lookup (earlier same found))
          ((starts.asked id asked).resolve_right same)
    · exact (starts.asked _ asked).elim (apart.cancelled entry closed) (uncancelled entry closed)
    · exact apart.awaited entry closed conn (earlier (uncancelled entry closed) found)
  · obtain ⟨ids, advances, waited⟩ :=
      @advances_next answers watched.mux event fun target same => opens ⟨target, same⟩
    refine advanced advances fun entry closed listed => ?_
    obtain ⟨upstreamId, rfl, listed⟩ := waited _ listed
    obtain ⟨conn, found, upstream⟩ := Option.map_eq_some_iff.mp (mem_pendingOn.mp listed)
    exact noneAwaited entry closed ((apart.awaited entry closed conn found).symm.trans upstream)

lemma Apart.next (apart : watched.Apart) (contract : watched.Contract notice)
    (noneAwaited : watched.NoneAwaited notice) : (watched.next notice).Apart := by
  have step := apart.step contract noneAwaited
  rw [Watched.next]
  split
  · rename_i id kind
    have stays : Stays watched.mux (watched.mux.next notice.toOccurrence) := by
      rw [UpstreamMultiplexer.next, kind]
      exact stays_closeConnection
    refine ⟨step.pending, fun entry closed => ?_, fun entry closed conn found => ?_⟩
    · rcases mem_append.mp closed with new | earlier
      · obtain ⟨conn, waits, rfl⟩ := mem_map.mp new
        intro asked
        exact (stays.asked _ asked).elim
          (apart.pending id (mem_of_lookup (Option.mem_toList.mp waits))) not_mem_nil
      · exact step.cancelled entry earlier
    · rcases mem_append.mp closed with new | earlier
      · obtain ⟨waiting, waits, rfl⟩ := mem_map.mp new
        have same := (stays.pending _ conn found).1
        rw [Option.mem_toList.mp waits] at same
        cases same
        rfl
      · exact step.awaited entry earlier conn found
  · exact step

lemma final_of_apart (apart : watched.Apart) (contract : watched.Contract notice)
    (noneAwaited : watched.NoneAwaited notice) : watched.Final notice := by
  intro entry closed
  refine ⟨(apart.step contract noneAwaited).cancelled entry closed, ?_⟩
  fun_cases watched.mux.raisesOpened notice with
  | case1 _ kind =>
    intro same
    rw [Contract, kind, Option.some.inj same] at contract
    exact apart.cancelled _ closed contract
  | case2 | case3 => exact Option.some_ne_none _ ∘ Eq.symm

/-- Closing a connection that waits is final if the session that it waits for is not opened any
more. -/
theorem final_run (notices : List Notice) (contract : EachStep next Contract new notices)
    (noneAwaited : EachStep next NoneAwaited new notices) : EachStep next Final new notices := by
  have start : new.Apart := ⟨fun _ waits => absurd waits (notMem_empty _),
    fun _ closed => absurd closed not_mem_nil, fun _ closed => absurd closed not_mem_nil⟩
  exact EachStep.of_invariant (fun apart both => apart.next both.1 both.2)
    (fun apart both => final_of_apart apart both.1 both.2) start (contract.and noneAwaited)

/-- Connection 1 waits for the session of upstream 0 and is closed; then the child reports an
event. -/
def closedWhileWaiting (event : ServerEvent) : List Notice :=
  [⟨⟨.openSession, willing 0 0 fun _ => 0⟩, 0⟩, ⟨opened 1 1 fun _ => 0, 0⟩,
    ⟨⟨.closeConnection 1, willing 0 1 fun _ => 0⟩, 0⟩, ⟨⟨.child 0 event, willing 0 1 fun _ => 0⟩, 0⟩]

lemma contract_opened :
    Contract (new.next ⟨⟨.openSession, willing 0 0 fun _ => 0⟩, 0⟩) ⟨opened 1 1 fun _ => 0, 0⟩ :=
  ⟨by decide +kernel, by decide +kernel, List.forall_mem_nil _⟩

theorem final_sessionClosed :
    EachStep next Contract new (closedWhileWaiting .sessionClosed) ∧
      EachStep next NoneAwaited new (closedWhileWaiting .sessionClosed) ∧
      EachStep next Final new (closedWhileWaiting .sessionClosed) := by
  have contract : EachStep next Contract new (closedWhileWaiting .sessionClosed) :=
    ⟨trivial, contract_opened, trivial, trivial, trivial⟩
  have noneAwaited : EachStep next NoneAwaited new (closedWhileWaiting .sessionClosed) :=
    ⟨trivial, trivial, trivial, trivial, trivial⟩
  exact ⟨contract, noneAwaited, final_run _ contract noneAwaited⟩

/-- The session is opened, and the child is asked to open the connection that was closed. -/
theorem not_final_sessionOpened :
    EachStep next Contract new (closedWhileWaiting .sessionOpened) ∧
      ¬EachStep next Final new (closedWhileWaiting .sessionOpened) := by
  refine ⟨⟨trivial, contract_opened, trivial, trivial, trivial⟩, fun final => ?_⟩
  obtain ⟨-, -, -, last, -⟩ := final
  exact (last (1, 0) (by decide +kernel)).1 (by decide +kernel)

end Watched

end TrustTunnel.Client.UpstreamMultiplexer
