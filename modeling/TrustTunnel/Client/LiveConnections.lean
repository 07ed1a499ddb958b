import Mathlib.Data.List.Rotate
import TrustTunnel.Client.UpstreamMultiplexer
import TrustTunnel.Transition.Trace

/-!
# Live connections of the upstream multiplexer

A connection is live from the moment its id is returned until its end, or that of the whole
session, is reported. A live connection is to be in exactly one of the two tables, and its
upstream in the pool.
-/

namespace TrustTunnel.Client

open Transition List AList
open HttpUdpMultiplexer (nonId)

namespace ServerEvent

/-- The event reports the end of a connection. -/
def Ends (id : UInt64) : ServerEvent → Prop
  | connectionClosed other => other = id
  | error other _ => other = id ∨ other = nonId
  | sessionClosed => True
  | sessionOpened => False
  | passed _ => False

instance (id : UInt64) : DecidablePred (Ends id)
  | connectionClosed other => inferInstanceAs (Decidable (other = id))
  | error other _ => inferInstanceAs (Decidable (other = id ∨ other = nonId))
  | sessionClosed => instDecidableTrue
  | sessionOpened => instDecidableFalse
  | passed _ => instDecidableFalse

end ServerEvent

namespace UpstreamMultiplexer

/-- The live connections after one more record. -/
def liveAfter (live : List UInt64) : MuxRecord → List UInt64
  | .returned id => if id = nonId then live else id :: live
  | .raised event => live.filter fun id => ¬event.Ends id

/-- The live connections. -/
def live (self : UpstreamMultiplexer) : List UInt64 := self.log.foldl liveAfter []

/-- A connection is in exactly one of the tables, and has the given upstream. -/
def Home (self : UpstreamMultiplexer) (id : UInt64) (upstreamId : Int32) : Prop :=
  (self.pendingConnections.lookup id).map PendingConnection.upstreamId = some upstreamId ∧
      self.connections.lookup id = none ∨
    self.connections.lookup id = some upstreamId ∧ self.pendingConnections.lookup id = none

/-- A connection is in exactly one of the tables, and its upstream in the pool. -/
def Placed (self : UpstreamMultiplexer) (id : UInt64) : Prop :=
  ∃ upstreamId ∈ self.upstreamsPool.keys, self.Home id upstreamId

/-- No connection is lost. -/
def NoneLost (self : UpstreamMultiplexer) : Prop := ∀ id ∈ self.live, self.Placed id

instance (self : UpstreamMultiplexer) (id : UInt64) (upstreamId : Int32) :
    Decidable (self.Home id upstreamId) :=
  inferInstanceAs (Decidable (_ ∨ _))

instance (self : UpstreamMultiplexer) (id : UInt64) : Decidable (self.Placed id) :=
  List.decidableBEx (self.Home id) self.upstreamsPool.keys

instance : DecidablePred NoneLost := fun self => List.decidableBAll self.Placed self.live

variable {answers : Answers} {self before middle after : UpstreamMultiplexer} {id : UInt64}
  {upstreamId : Int32} {ids : List UInt64} {event : ServerEvent} {connId : UInt64}

lemma mem_live_raise : id ∈ (self.raise event).live ↔ id ∈ self.live ∧ ¬event.Ends id := by
  rw [live, raise, foldl_append, foldl_cons, foldl_nil, liveAfter, mem_filter, decide_eq_true_eq]
  rfl

section

variable (pending : after.pendingConnections.lookup id = before.pendingConnections.lookup id)
  (connections : after.connections.lookup id = before.connections.lookup id)

include pending connections

/-- Where a connection is depends on what the tables have for it. -/
lemma home_congr : after.Home id upstreamId ↔ before.Home id upstreamId := by
  rw [Home, Home, pending, connections]

/-- A connection of which the tables have kept what they had for it is still placed. -/
lemma Placed.of_lookup_eq (placed : before.Placed id)
    (pool : after.upstreamsPool = before.upstreamsPool) : after.Placed id := by
  obtain ⟨upstreamId, listed, home⟩ := placed
  exact ⟨upstreamId, pool ▸ listed, (home_congr pending connections).mpr home⟩

end

section Emplace

variable {κ ν : Type} [DecidableEq κ] {map : AList fun _ : κ => ν} {key other : κ}

lemma lookup_emplace (value : ν) (missing : map.lookup key = none) :
    (emplace map key value).lookup key = some value := by
  rw [emplace, if_neg (lookup_eq_none.mp missing)]
  exact lookup_insert map

lemma lookup_emplace_ne (value : ν) (different : other ≠ key) :
    (emplace map key value).lookup other = map.lookup other := by
  rw [emplace]
  split
  · rfl
  · exact lookup_insert_ne different

end Emplace

/-- Whatever is live afterwards was live before, and is still placed if it was. -/
def Keeps (before after : UpstreamMultiplexer) : Prop :=
  ∀ id ∈ after.live, id ∈ before.live ∧ (before.Placed id → after.Placed id)

namespace Keeps

lemma refl (self : UpstreamMultiplexer) : Keeps self self := fun _ lives => ⟨lives, id⟩

lemma trans (first : Keeps before middle) (second : Keeps middle after) : Keeps before after := by
  intro id lives
  obtain ⟨lived, placed⟩ := second id lives
  exact ⟨(first id lived).1, fun earlier => placed ((first id lived).2 earlier)⟩

lemma noneLost (keeps : Keeps before after) (none : before.NoneLost) : after.NoneLost :=
  fun id lives => (keeps id lives).2 (none id (keeps id lives).1)

end Keeps

/-! ## Connections that end -/

/-- All that happens is that connections end, some given ones among them; for the others the
tables stay as they are. -/
structure Ended (before after : UpstreamMultiplexer) (ids : List UInt64) : Prop where
  pool : after.upstreamsPool = before.upstreamsPool
  live : ∀ {id}, id ∈ after.live → id ∈ before.live ∧ id ∉ ids
  pending : ∀ {id}, id ∈ after.live →
    after.pendingConnections.lookup id = before.pendingConnections.lookup id
  connections : ∀ {id}, id ∈ after.live → after.connections.lookup id = before.connections.lookup id

namespace Ended

lemma refl (self : UpstreamMultiplexer) : Ended self self [] :=
  ⟨rfl, fun lives => ⟨lives, not_mem_nil⟩, fun _ => rfl, fun _ => rfl⟩

lemma trans {more : List UInt64} (first : Ended before middle ids)
    (second : Ended middle after more) : Ended before after (ids ++ more) where
  pool := second.pool.trans first.pool
  live lives := by
    obtain ⟨lived, other⟩ := second.live lives
    rw [mem_append, not_or]
    exact ⟨(first.live lived).1, (first.live lived).2, other⟩
  pending lives := (second.pending lives).trans (first.pending (second.live lives).1)
  connections lives := (second.connections lives).trans (first.connections (second.live lives).1)

lemma weaken (ended : Ended before after ids) : Ended before after [] :=
  ⟨ended.pool, fun lives => ⟨(ended.live lives).1, not_mem_nil⟩, ended.pending, ended.connections⟩

lemma foldl (round : UpstreamMultiplexer → UInt64 → UpstreamMultiplexer)
    (ends : ∀ self id, Ended self (round self id) [id]) (self : UpstreamMultiplexer)
    (ids : List UInt64) : Ended self (ids.foldl round self) ids := by
  induction ids generalizing self with
  | nil => exact refl self
  | cons id _ ih => exact (ends self id).trans (ih _)

lemma keeps (ended : Ended before after ids) : Keeps before after := by
  intro id lives
  refine ⟨(ended.live lives).1, fun placed => ?_⟩
  exact placed.of_lookup_eq (ended.pending lives) (ended.connections lives) ended.pool

end Ended

lemma ended_raise (self : UpstreamMultiplexer) (event : ServerEvent) :
    Ended self (self.raise event) [] :=
  ⟨rfl, fun lives => ⟨(mem_live_raise.mp lives).1, not_mem_nil⟩, fun _ => rfl, fun _ => rfl⟩

/-- An end is reported, and what the tables have for the connection may go. -/
lemma ended_of_ends (event : ServerEvent) (ends : event.Ends id)
    (log : after.log = (self.raise event).log) (pool : after.upstreamsPool = self.upstreamsPool)
    (pending : ∀ other ≠ id,
      after.pendingConnections.lookup other = self.pendingConnections.lookup other)
    (connections : ∀ other ≠ id, after.connections.lookup other = self.connections.lookup other) :
    Ended self after [id] := by
  have lived : ∀ {other}, other ∈ after.live → other ∈ self.live ∧ other ≠ id := by
    intro other lives
    rw [live, log] at lives
    obtain ⟨lived, goes⟩ := mem_live_raise.mp lives
    refine ⟨lived, ?_⟩
    rintro rfl
    exact goes ends
  exact ⟨pool, fun lives => ⟨(lived lives).1, mem_singleton.not.mpr (lived lives).2⟩,
    fun lives => pending _ (lived lives).2, fun lives => connections _ (lived lives).2⟩

section

variable (self : UpstreamMultiplexer) (id : UInt64)

lemma ended_connectionClosed : Ended self (self.connectionClosed id) [id] :=
  ended_of_ends (.connectionClosed id) rfl rfl rfl (fun _ _ => rfl) fun _ other =>
    lookup_erase_ne other

lemma ended_connectionError (error : ErrorInfo) : Ended self (self.connectionError id error) [id] :=
  ended_of_ends (.error id error) (.inl rfl) rfl rfl (fun _ _ => rfl) fun _ other =>
    lookup_erase_ne other

lemma ended_refusePending : Ended self (self.refusePending id) [id] :=
  ended_of_ends (.error id ⟨.econnrefused, "Session closed"⟩) (.inl rfl) rfl rfl
    (fun _ other => lookup_erase_ne other) fun _ _ => rfl

lemma ended_connectionEnds (answers : Answers) :
    Ended self (self.connectionEnds answers id) [id] := by
  rw [connectionEnds]
  cases answers.endsWith id with
  | none => exact self.ended_connectionClosed id
  | some error => exact self.ended_connectionError id error

end

lemma mem_connectionsOf :
    id ∈ self.connectionsOf answers upstreamId ↔ self.connections.lookup id = some upstreamId := by
  rw [connectionsOf, (answers.connectionOrder_perm _).mem_iff, mem_filter, decide_eq_true_eq]
  refine and_iff_right_of_imp fun found => ?_
  exact lookup_isSome.mp (found ▸ rfl)

lemma mem_pendingOn : id ∈ self.pendingOn answers upstreamId ↔
    (self.pendingConnections.lookup id).map PendingConnection.upstreamId = some upstreamId := by
  rw [pendingOn, mem_filter, (answers.connectionOrder_perm _).mem_iff]
  cases found : self.pendingConnections.lookup id with
  | none => simp
  | some =>
    have listed : id ∈ self.pendingConnections.keys := lookup_isSome.mp (found ▸ rfl)
    simp [listed]

lemma ended_closeChild (answers : Answers) (self : UpstreamMultiplexer) (upstreamId : Int32) :
    Ended self (self.closeChild answers upstreamId) (self.connectionsOf answers upstreamId) :=
  .foldl _ (fun self id => ended_connectionEnds self id answers) self _

/-- When a child has closed its session, none of its connections is live. -/
lemma not_connected_closeChild (lives : id ∈ (self.closeChild answers upstreamId).live) :
    (self.closeChild answers upstreamId).connections.lookup id ≠ some upstreamId := by
  have ended := self.ended_closeChild answers upstreamId
  rw [ended.connections lives]
  exact fun found => (ended.live lives).2 (mem_connectionsOf.mpr found)

/-! ## Upstreams that are closed -/

section

variable (pooled : upstreamId ∈ self.upstreamsPool)

include pooled

lemma keys_closeUpstream :
    (self.closeUpstream upstreamId).upstreamsPool.keys =
      self.upstreamsPool.keys.erase upstreamId := by
  fun_cases self.closeUpstream _ with
  | case1 absent => exact absurd pooled absent
  | case2 | case3 | case4 => exact keys_erase _ _

/-- As long as other upstreams are left, only the pool changes. -/
lemma closeUpstream_of_others (others : self.upstreamsPool.keys.erase upstreamId ≠ []) :
    self.closeUpstream upstreamId =
      { self with upstreamsPool := self.upstreamsPool.erase upstreamId } := by
  have left : (self.upstreamsPool.erase upstreamId).keys.isEmpty = false := by
    rw [keys_erase]
    exact isEmpty_eq_false_iff.mpr others
  rw [closeUpstream, if_neg (not_not_intro pooled)]
  exact if_pos left

/-- The end of the last upstream is that of all connections. -/
lemma live_closeUpstream_of_last (last : self.upstreamsPool.keys.erase upstreamId = []) :
    (self.closeUpstream upstreamId).live = [] := by
  refine eq_nil_iff_forall_not_mem.mpr fun id => ?_
  fun_cases self.closeUpstream _ with
  | case1 absent => exact absurd pooled absent
  | case2 _ _ left =>
    rw [keys_erase, last] at left
    cases left
  | case3 => exact fun lives => (mem_live_raise.mp lives).2 (.inr rfl)
  | case4 => exact fun lives => (mem_live_raise.mp lives).2 trivial

end

lemma noneLost_of_live (empty : self.live = []) : self.NoneLost := by
  intro id lives
  rw [empty] at lives
  cases lives

/-- An upstream can be closed if no live connection has it, or if it is the last one. -/
lemma noneLost_closeUpstream (none : self.NoneLost)
    (free : self.upstreamsPool.keys.erase upstreamId ≠ [] →
      ∀ id ∈ self.live, ¬self.Home id upstreamId) :
    (self.closeUpstream upstreamId).NoneLost := by
  by_cases pooled : upstreamId ∈ self.upstreamsPool
  · by_cases last : self.upstreamsPool.keys.erase upstreamId = []
    · exact noneLost_of_live (live_closeUpstream_of_last pooled last)
    · rw [closeUpstream_of_others pooled last]
      intro id lives
      obtain ⟨other, listed, home⟩ := none id lives
      have different : other ≠ upstreamId := by
        rintro rfl
        exact free last id lives home
      refine ⟨other, ?_, home⟩
      rw [keys_erase]
      exact (mem_erase_of_ne different).mpr listed
  · rw [closeUpstream, if_pos pooled]
    exact none

/-- If all the upstreams are dropped, no connection is live. -/
lemma live_foldl_dropChild {upstreamIds : List Int32}
    (all : self.upstreamsPool.keys.Perm upstreamIds) (some : upstreamIds ≠ []) :
    (upstreamIds.foldl (dropChild answers) self).live = [] := by
  induction upstreamIds generalizing self with
  | nil => exact absurd rfl some
  | cons upstreamId rest ih =>
    have pool := (self.ended_closeChild answers upstreamId).pool
    have pooled : upstreamId ∈ (self.closeChild answers upstreamId).upstreamsPool := by
      rw [pool]
      exact all.mem_iff.mpr mem_cons_self
    have left : ((self.closeChild answers upstreamId).upstreamsPool.keys.erase upstreamId).Perm
        rest := by
      rw [pool]
      exact (all.erase upstreamId).trans (by rw [erase_cons_head])
    cases rest with
    | nil => exact live_closeUpstream_of_last pooled (perm_nil.mp left)
    | cons =>
      refine ih ?_ (cons_ne_nil _ _)
      rw [dropChild, keys_closeUpstream pooled]
      exact left

/-- If all the children close their sessions, no live connection has one of them. -/
lemma ended_foldl_closeChild (answers : Answers) (self : UpstreamMultiplexer)
    (upstreamIds : List Int32) :
    Ended self (upstreamIds.foldl (closeChild answers) self) [] ∧
      ∀ {id}, id ∈ (upstreamIds.foldl (closeChild answers) self).live → ∀ upstreamId ∈ upstreamIds,
        (upstreamIds.foldl (closeChild answers) self).connections.lookup id ≠ some upstreamId := by
  induction upstreamIds generalizing self with
  | nil => exact ⟨.refl self, fun _ _ none => absurd none not_mem_nil⟩
  | cons upstreamId _ ih =>
    obtain ⟨ended, apart⟩ := ih _
    refine ⟨(self.ended_closeChild answers _).weaken.trans ended, fun lives => ?_⟩
    rw [forall_mem_cons]
    refine ⟨?_, apart lives⟩
    rw [foldl_cons, ended.connections lives]
    exact not_connected_closeChild (ended.live lives).1

lemma live_closeSession (none : self.NoneLost) : (self.closeSession answers).live = [] := by
  let closed := (answers.poolOrder self.upstreamsPool.keys).foldl (closeChild answers) self
  let cleared : UpstreamMultiplexer :=
    { closed with upstreamsPool := ∅, connections := ∅, pendingConnections := ∅ }
  have children : Ended self closed [] ∧ ∀ {id}, id ∈ closed.live →
      ∀ upstreamId ∈ answers.poolOrder self.upstreamsPool.keys,
        closed.connections.lookup id ≠ some upstreamId :=
    ended_foldl_closeChild answers self _
  have refused := Ended.foldl _
    (fun _ id => ended_of_ends (.error id ⟨.econnreset, "Session closed"⟩) (.inl rfl) rfl rfl
      (fun _ _ => rfl) fun _ _ => rfl)
    cleared (answers.connectionOrder closed.pendingConnections.keys)
  refine eq_nil_iff_forall_not_mem.mpr fun id lives => ?_
  obtain ⟨lived, silent⟩ := refused.live lives
  obtain ⟨upstreamId, pooled, home⟩ := children.1.keeps.noneLost none id lived
  rw [children.1.pool] at pooled
  rcases home with ⟨pending, -⟩ | ⟨connected, -⟩
  · refine silent ((answers.connectionOrder_perm _).mem_iff.mpr ?_)
    obtain ⟨conn, found, -⟩ := Option.map_eq_some_iff.mp pending
    exact lookup_isSome.mp (found ▸ rfl)
  · exact children.2 lived _ ((answers.poolOrder_perm _).mem_iff.mpr pooled) connected

/-! ## Connections that are opened -/

/-- What an attempt to open a connection does: nothing, or it adds the connection to one of
the tables. One that does not wait was asked for. -/
inductive Opening (before : UpstreamMultiplexer) (connId : UInt64) (target : ConnectionTarget) :
    UpstreamMultiplexer × Bool → Prop
  | failed : Opening before connId target (before, false)
  | refused : Opening before connId target ({ before with asked := before.asked ++ [connId] }, false)
  | pends (upstreamId : Int32) (pooled : upstreamId ∈ before.upstreamsPool) :
      Opening before connId target
        ({ before with
            pendingConnections :=
              emplace before.pendingConnections connId ⟨upstreamId, target⟩ }, true)
  | connects (upstreamId : Int32) (pooled : upstreamId ∈ before.upstreamsPool) :
      Opening before connId target
        ({ before with
            connections := emplace before.connections connId upstreamId
            asked := before.asked ++ [connId] }, true)

lemma opening_openConnectionOn (self : UpstreamMultiplexer)
    (opens : Int32 → UInt64 → ConnectionTarget → Bool) (upstreamId : Int32) (connId : UInt64)
    (target : ConnectionTarget) :
    Opening self connId target (self.openConnectionOn opens upstreamId connId target) := by
  fun_cases self.openConnectionOn opens _ connId target with
  | case1 => exact .failed
  | case2 found => exact .pends _ (lookup_isSome.mp (found ▸ rfl))
  | case3 found => exact .connects _ (lookup_isSome.mp (found ▸ rfl))
  | case4 => exact .refused

lemma opening_tryOpenConnection (answers : Answers) (self : UpstreamMultiplexer)
    (target : ConnectionTarget) :
    ∃ pool, (pool = self.upstreamsPool ∨
        ∃ upstreamId, pool = self.upstreamsPool.insert upstreamId .openingSession) ∧
      Opening { self with upstreamsPool := pool } answers.connId target
        (self.tryOpenConnection answers target) := by
  rw [tryOpenConnection]
  split
  · exact ⟨_, .inl rfl, self.opening_openConnectionOn _ _ _ _⟩
  · rw [openNewUpstream]
    by_cases opens : answers.opensSession = true
    · refine ⟨_, .inr ⟨self.selectUpstreamForConnection answers, rfl⟩, ?_⟩
      simp only [opens, if_true]
      exact .pends _ ((mem_insert _).mpr (.inl rfl))
    · refine ⟨_, .inl rfl, ?_⟩
      simp only [opens, Bool.false_eq_true, if_false]
      cases self.selectExistingUpstream answers _ true with
      | none => exact .failed
      | some => exact self.opening_openConnectionOn _ _ _ _

lemma mem_live_returnId {returned : UInt64} :
    id ∈ (self.returnId returned).live ↔ returned ≠ nonId ∧ id = returned ∨ id ∈ self.live := by
  rw [live, returnId, foldl_append, foldl_cons, foldl_nil, liveAfter]
  split
  · rename_i missing
    rw [missing]
    simp [live]
  · rename_i given
    simp [given, live]

/-- The generator gives an id that is not in use. -/
structure Fresh (mux : UpstreamMultiplexer) (connId : UInt64) : Prop where
  valid : connId ≠ nonId
  pending : mux.pendingConnections.lookup connId = none
  connections : mux.connections.lookup connId = none

instance (mux : UpstreamMultiplexer) (connId : UInt64) : Decidable (Fresh mux connId) :=
  decidable_of_iff (connId ≠ nonId ∧ connId ∉ mux.pendingConnections ∧ connId ∉ mux.connections)
    ⟨fun ⟨valid, pending, connections⟩ =>
      ⟨valid, AList.lookup_eq_none.mpr pending, AList.lookup_eq_none.mpr connections⟩,
      fun fresh => ⟨fresh.valid, AList.lookup_eq_none.mp fresh.pending,
        AList.lookup_eq_none.mp fresh.connections⟩⟩

lemma noneLost_returnId_nonId (none : self.NoneLost) : (self.returnId nonId).NoneLost := by
  intro id lives
  rcases mem_live_returnId.mp lives with ⟨given, -⟩ | lived
  · exact absurd rfl given
  · exact none id lived

/-- An id is returned when it has its place and the others have kept theirs. -/
lemma noneLost_returnId (none : before.NoneLost) (live : after.live = before.live)
    (placed : after.Placed connId)
    (others : ∀ id, id ≠ connId → before.Placed id → after.Placed id) :
    (after.returnId connId).NoneLost := by
  intro id lives
  by_cases same : id = connId
  · rw [same]
    exact placed
  · rcases mem_live_returnId.mp lives with ⟨-, new⟩ | lived
    · exact absurd new same
    · exact others id same (none id (live ▸ lived))

variable {target : ConnectionTarget}

/-- The connection that is returned is placed, and so are the others. -/
lemma noneLost_of_opening {result : UpstreamMultiplexer × Bool} (none : self.NoneLost)
    (fresh : self.Fresh connId) (opening : Opening self connId target result) :
    (result.1.returnId (if result.2 then connId else nonId)).NoneLost := by
  cases opening with
  | failed => exact noneLost_returnId_nonId none
  | refused => exact @noneLost_returnId_nonId { self with asked := _ } none
  | pends upstreamId pooled =>
    refine noneLost_returnId none rfl ⟨upstreamId, pooled, .inl ⟨?_, fresh.connections⟩⟩ ?_
    · exact congrArg _ (lookup_emplace _ fresh.pending)
    · intro id other placed
      exact placed.of_lookup_eq (lookup_emplace_ne _ other) rfl rfl
  | connects upstreamId pooled =>
    refine noneLost_returnId none rfl ⟨upstreamId, pooled, .inr ⟨?_, fresh.pending⟩⟩ ?_
    · exact lookup_emplace _ fresh.connections
    · intro id other placed
      exact placed.of_lookup_eq (by rfl) (lookup_emplace_ne _ other) rfl

/-- More upstreams, or other states of them, do no harm. -/
lemma keeps_insert (self : UpstreamMultiplexer) (upstreamId : Int32) (state : UpstreamState) :
    Keeps self { self with upstreamsPool := self.upstreamsPool.insert upstreamId state } := by
  intro id lives
  refine ⟨lives, ?_⟩
  rintro ⟨other, listed, home⟩
  exact ⟨other, (mem_insert _).mpr (.inr listed), home⟩

lemma noneLost_openConnection (none : self.NoneLost) (fresh : self.Fresh answers.connId) :
    (self.openConnection answers target).NoneLost := by
  rw [openConnection]
  split
  · exact noneLost_returnId_nonId none
  · obtain ⟨pool, grown, opening⟩ := opening_tryOpenConnection answers self target
    have kept : NoneLost { self with upstreamsPool := pool } := by
      rcases grown with rfl | ⟨upstreamId, rfl⟩
      · exact none
      · exact (self.keeps_insert _ _).noneLost none
    exact noneLost_of_opening kept ⟨fresh.valid, fresh.pending, fresh.connections⟩ opening

/-! ## Connections that waited for a session -/

/-- The upstream on which connections fall back has opened its session. -/
def FallbackOpen (answers : Answers) (pool : AList fun _ : Int32 => UpstreamState) : Prop :=
  ∀ upstreamId ∈ (answers.poolOrder pool.keys).head?, pool.lookup upstreamId = some .sessionOpened

/-- The upstream takes a connection that waited for it, or there is an open one to fall back
on. -/
def Proceeds (answers : Answers) (self : UpstreamMultiplexer) (upstreamId : Int32)
    (id : UInt64) : Prop :=
  ∀ conn, self.pendingConnections.lookup id = some conn →
    answers.opens upstreamId id conn.target = true ∨ FallbackOpen answers self.upstreamsPool

lemma proceedPendingConnection_cases
    (opened : self.upstreamsPool.lookup upstreamId = some .sessionOpened)
    (proceeds : answers.opens upstreamId id target = true ∨
      FallbackOpen answers self.upstreamsPool) :
    ∃ asked, (∃ other ∈ self.upstreamsPool,
      self.proceedPendingConnection answers upstreamId id target =
        { self with connections := emplace self.connections id other, asked := asked }) ∨
      self.proceedPendingConnection answers upstreamId id target =
        { self with asked := asked }.raise (.error id ⟨.econnrefused, "Failed to connect"⟩) := by
  have pooled : upstreamId ∈ self.upstreamsPool := lookup_isSome.mp (opened ▸ rfl)
  simp only [proceedPendingConnection, openConnectionOn, opened]
  by_cases opens : answers.opens upstreamId id target = true
  · exact ⟨_, .inl ⟨upstreamId, pooled, by rw [if_pos opens]⟩⟩
  · rw [if_neg opens]
    have fallback := proceeds.resolve_left opens
    rw [FallbackOpen] at fallback
    cases order : answers.poolOrder _ with
    | nil =>
      have listed := (answers.poolOrder_perm _).mem_iff.mpr pooled
      rw [order] at listed
      cases listed
    | cons first =>
      rw [order] at fallback
      have open' := fallback first rfl
      have known : first ∈ self.upstreamsPool := lookup_isSome.mp (open' ▸ rfl)
      simp only [order, open']
      by_cases again : answers.fallsBack first id target = true
      · exact ⟨_, .inl ⟨first, known, by rw [if_pos again]⟩⟩
      · exact ⟨_, .inr (by rw [if_neg again])⟩

/-- A connection that waited gets an upstream of the pool; nothing else moves. -/
lemma Placed.moved {taker : Int32} {conn : PendingConnection} {other : UInt64}
    (placed : self.Placed other) (waits : self.pendingConnections.lookup id = some conn)
    (pooled : taker ∈ self.upstreamsPool) :
    Placed { self with
      pendingConnections := self.pendingConnections.erase id
      connections := emplace self.connections id taker } other := by
  by_cases same : other = id
  · subst same
    obtain ⟨upstreamId, -, home⟩ := placed
    have absent : self.connections.lookup other = none := by
      rcases home with ⟨-, absent⟩ | ⟨-, absent⟩
      · exact absent
      · cases absent.symm.trans waits
    exact ⟨taker, pooled, .inr ⟨lookup_emplace taker absent, lookup_erase _ _⟩⟩
  · exact placed.of_lookup_eq (lookup_erase_ne same) (lookup_emplace_ne taker same) rfl

section

variable (opened : self.upstreamsPool.lookup upstreamId = some .sessionOpened)

include opened

/-- What one round of the loop does: the connection leaves the table of pending ones, and is
still placed if it is live. -/
lemma proceedPending_step (proceeds : self.Proceeds answers upstreamId id) :
    Keeps self (proceedPending answers upstreamId self id) ∧
      (proceedPending answers upstreamId self id).upstreamsPool = self.upstreamsPool ∧
      ∀ other conn,
        (proceedPending answers upstreamId self id).pendingConnections.lookup other = some conn →
          self.pendingConnections.lookup other = some conn := by
  have erased : ∀ other conn, (self.pendingConnections.erase id).lookup other = some conn →
      self.pendingConnections.lookup other = some conn := by
    intro other conn found
    have different : other ≠ id := by
      rintro rfl
      rw [lookup_erase] at found
      cases found
    rwa [lookup_erase_ne different] at found
  rw [proceedPending]
  cases waits : self.pendingConnections.lookup id with
  | none => exact ⟨.refl self, rfl, fun _ _ found => found⟩
  | some conn =>
    simp only
    obtain ⟨asked, ⟨taker, pooled, moved⟩ | refused⟩ :=
      proceedPendingConnection_cases opened (proceeds conn waits)
    · rw [moved]
      exact ⟨fun other lives => ⟨lives, fun placed => placed.moved waits pooled⟩, rfl, erased⟩
    · rw [refused]
      have ended : Ended self
          { { self with asked := asked }.raise (.error id ⟨.econnrefused, "Failed to connect"⟩) with
            pendingConnections := self.pendingConnections.erase id } [id] :=
        ended_of_ends (.error id ⟨.econnrefused, "Failed to connect"⟩) (.inl rfl) rfl rfl
          (fun _ other => lookup_erase_ne other) fun _ _ => rfl
      exact ⟨ended.keeps, rfl, erased⟩

lemma keeps_foldl_proceedPending (proceeds : ∀ id ∈ ids, self.Proceeds answers upstreamId id) :
    Keeps self (ids.foldl (proceedPending answers upstreamId) self) := by
  induction ids generalizing self with
  | nil => exact .refl self
  | cons _ _ ih =>
    rw [forall_mem_cons] at proceeds
    obtain ⟨keeps, pool, fewer⟩ := proceedPending_step opened proceeds.1
    refine keeps.trans (ih (pool ▸ opened) fun other listed conn found => ?_)
    rw [pool]
    exact proceeds.2 other listed conn (fewer other conn found)

end

lemma keeps_announceSession (self : UpstreamMultiplexer) : Keeps self self.announceSession := by
  rw [announceSession]
  split
  · exact .refl self
  · exact (ended_raise _ _).keeps

lemma noneLost_onSessionOpened (none : self.NoneLost)
    (proceeds : ∀ id ∈ self.pendingOn answers upstreamId,
      (self.markOpened upstreamId).Proceeds answers upstreamId id) :
    (self.onSessionOpened answers upstreamId).NoneLost := by
  have same : self.announceSession.pendingConnections = self.pendingConnections ∧
      self.announceSession.upstreamsPool = self.upstreamsPool := by
    rw [announceSession]
    split
    · exact ⟨rfl, rfl⟩
    · exact ⟨rfl, rfl⟩
  have pool : (self.announceSession.markOpened upstreamId).upstreamsPool =
      (self.markOpened upstreamId).upstreamsPool := by
    simp only [markOpened, same.2]
  have marked : Keeps self (self.announceSession.markOpened upstreamId) :=
    self.keeps_announceSession.trans (keeps_insert _ upstreamId .sessionOpened)
  refine (marked.trans (keeps_foldl_proceedPending ?_ fun id listed conn found => ?_)).noneLost none
  · exact lookup_insert _
  · have waits : id ∈ self.pendingOn answers upstreamId := by
      rw [mem_pendingOn, ← same.1]
      exact mem_pendingOn.mp listed
    rw [pool]
    exact proceeds id waits conn (same.1 ▸ found)

/-! ## Runs -/

/-- The part of the others: ids are not in use when they are given, and a child has reported
the end of all its connections when it reports that of its session. -/
def Contract (self : UpstreamMultiplexer) (occ : Occurrence) : Prop :=
  match occ.event with
  | .openConnection _ => self.Fresh occ.answers.connId
  | .child upstreamId .sessionClosed => self.connectionsOf occ.answers upstreamId = []
  | _ => True

instance (self : UpstreamMultiplexer) : DecidablePred self.Contract
  | ⟨.openConnection _, answers⟩ => inferInstanceAs (Decidable (self.Fresh answers.connId))
  | ⟨.child upstreamId .sessionClosed, answers⟩ =>
    inferInstanceAs (Decidable (self.connectionsOf answers upstreamId = []))
  | ⟨.child _ .sessionOpened, _⟩ | ⟨.child _ (.connectionClosed _), _⟩ | ⟨.child _ (.error _ _), _⟩
  | ⟨.child _ (.passed _), _⟩ | ⟨.openSession, _⟩ | ⟨.closeSession, _⟩
  | ⟨.closeConnection _, _⟩ => instDecidableTrue

/-- Connections that wait for a session are served: if the upstream refuses one when its
session is opened, the first upstream of the pool has opened its session; and if its session
fails but not fatally, no connection waits for it, or it is the only upstream. -/
def WaitingServed (self : UpstreamMultiplexer) (occ : Occurrence) : Prop :=
  match occ.event with
  | .child upstreamId .sessionOpened =>
    ∀ id ∈ self.pendingOn occ.answers upstreamId,
      (self.markOpened upstreamId).Proceeds occ.answers upstreamId id
  | .child upstreamId (.error id error) =>
    id = nonId → isFatalError error = false →
      self.pendingOn occ.answers upstreamId = [] ∨ self.upstreamsPool.keys = [upstreamId]
  | _ => True

section

variable (none : self.NoneLost)

include none

lemma noneLost_onSessionClosed (closed : self.connectionsOf answers upstreamId = []) :
    (self.onSessionClosed answers upstreamId).NoneLost := by
  have refused := Ended.foldl _ ended_refusePending self (self.pendingOn answers upstreamId)
  refine noneLost_closeUpstream (refused.keeps.noneLost none) fun _ id lives home => ?_
  rcases (home_congr (refused.pending lives) (refused.connections lives)).mp home with ⟨pending, -⟩ | ⟨connected, -⟩
  · exact (refused.live lives).2 (mem_pendingOn.mpr pending)
  · have listed : id ∈ self.connectionsOf answers upstreamId := mem_connectionsOf.mpr connected
    rw [closed] at listed
    cases listed

lemma noneLost_dropChild
    (served : self.pendingOn answers upstreamId = [] ∨ self.upstreamsPool.keys = [upstreamId]) :
    (self.dropChild answers upstreamId).NoneLost := by
  have ended := self.ended_closeChild answers upstreamId
  refine noneLost_closeUpstream (ended.keeps.noneLost none) fun others id lives home => ?_
  rcases served with free | only
  · rcases home with ⟨pending, -⟩ | ⟨connected, -⟩
    · rw [ended.pending lives] at pending
      have listed : id ∈ self.pendingOn answers upstreamId := mem_pendingOn.mpr pending
      rw [free] at listed
      cases listed
    · exact not_connected_closeChild lives connected
  · rw [ended.pool, only, erase_cons_head] at others
    exact others rfl

lemma noneLost_onSessionError {error : ErrorInfo} (pooled : upstreamId ∈ self.upstreamsPool)
    (served : isFatalError error = false →
      self.pendingOn answers upstreamId = [] ∨ self.upstreamsPool.keys = [upstreamId]) :
    (self.onSessionError answers upstreamId error).NoneLost := by
  rw [onSessionError]
  split
  · let marked := if error.code = .vpn .noError then self else
      { self with pendingError := some error }
    have pool : marked.upstreamsPool = self.upstreamsPool := by
      simp only [marked]
      split
      · rfl
      · rfl
    refine noneLost_of_live (live_foldl_dropChild (answers.poolOrder_perm _).symm ?_)
    intro empty
    have listed := (answers.poolOrder_perm _).mem_iff.mpr
      (pool ▸ pooled : upstreamId ∈ marked.upstreamsPool.keys)
    rw [empty] at listed
    cases listed
  · rename_i mild
    exact noneLost_dropChild none (served (Bool.not_eq_true _ ▸ mild))

/-- One event loses no connection if all keep to their part and those that wait are served. -/
lemma noneLost_next {occ : Occurrence} (contract : self.Contract occ)
    (served : self.WaitingServed occ) : (self.next occ).NoneLost := by
  obtain ⟨event, answers⟩ := occ
  cases event with
  | openSession =>
    simp only [next, openSession, openNewUpstream]
    split
    · exact none
    · split
      · exact (self.keeps_insert _ _).noneLost none
      · exact none
  | closeSession => exact noneLost_of_live (live_closeSession none)
  | openConnection => exact noneLost_openConnection none contract
  | closeConnection id =>
    simp only [next]
    fun_cases self.closeConnection answers id with
    | case1 | case3 => exact none
    | case2 => exact (ended_connectionEnds self id _).keeps.noneLost none
  | child upstreamId event =>
    simp only [next]
    fun_cases self.childUpstreamHandler answers _ event with
    | case1 => exact none
    | case2 => exact noneLost_onSessionOpened none served
    | case3 => exact noneLost_onSessionClosed none contract
    | case4 _ id => exact (self.ended_connectionClosed id).keeps.noneLost none
    | case5 => exact (self.ended_raise _).keeps.noneLost none
    | case6 _ id error => exact (self.ended_connectionError id error).keeps.noneLost none
    | case7 pooled _ _ whole =>
      exact noneLost_onSessionError none (not_not.mp pooled) (served (not_not.mp whole))

end

/-- In every run in which all keep to their part and connections that wait are served, no
connection is ever lost. -/
theorem noneLost_run (occs : List Occurrence) (contract : EachStep next Contract new occs)
    (served : EachStep next WaitingServed new occs) : Always next NoneLost new occs := by
  have start : new.NoneLost := noneLost_of_live rfl
  exact Always.of_invariant _ (fun none both => noneLost_next none both.1 both.2) id start
    (contract.and served)

/-- Children that do whatever they are asked for, with a number of connections each. -/
def willing (connId : UInt64) (newUpstreamId : Int32) (connectionsNum : Int32 → Nat) : Answers where
  connId := connId
  newUpstreamId := newUpstreamId
  opensSession := true
  opens _ _ _ := true
  fallsBack _ _ _ := true
  connectionsNum := connectionsNum
  closesAtOnce := false
  endsWith _ := none
  connectionOrder ids := ids
  poolOrder ids := ids
  connectionOrder_perm _ := .refl _
  poolOrder_perm _ := .refl _

def webTarget : ConnectionTarget :=
  ⟨⟨.v4 (.new 10 0 0 2), 40000⟩, .name "example.org" 443, 6, "browser"⟩

/-- A connection is opened, which has the given number. -/
def opened (number : Nat) (newUpstreamId : Int32) (connectionsNum : Int32 → Nat) : Occurrence :=
  ⟨.openConnection webTarget, willing (.ofNat number) newUpstreamId connectionsNum⟩

/-- Connections 1 to 5 are opened on upstream 0. -/
def fullUpstream : List Occurrence :=
  [⟨.openSession, willing 0 0 fun _ => 0⟩, ⟨.child 0 .sessionOpened, willing 0 0 fun _ => 0⟩] ++
    (List.range 5).map fun others => opened (others + 1) 1 fun _ => others

def timedOut : ErrorInfo := ⟨.vpn .error, "Connection timed out"⟩

/-- Connection 6 waits for upstream 1 and gets it; later upstream 1 fails. -/
def servedRun : List Occurrence :=
  fullUpstream ++
    [opened 6 1 fun _ => 5, ⟨.child 1 .sessionOpened, willing 0 2 fun _ => 5⟩,
      ⟨.child 1 (.error nonId timedOut), willing 0 2 fun _ => 5⟩]

theorem noneLost_servedRun :
    EachStep next Contract new servedRun ∧ EachStep next WaitingServed new servedRun ∧
      Always next NoneLost new servedRun := by
  have contract : EachStep next Contract new servedRun := by decide +kernel
  have served : EachStep next WaitingServed new servedRun :=
    ⟨trivial, fun _ _ _ _ => .inl rfl, trivial, trivial, trivial, trivial, trivial, trivial,
      fun _ _ _ _ => .inl rfl, fun _ _ => .inl (by decide +kernel), trivial⟩
  exact ⟨contract, served, noneLost_run servedRun contract served⟩

/-- Connection 6 waits for upstream 1, whose session cannot be opened. -/
def failedRun : List Occurrence :=
  fullUpstream ++
    [opened 6 1 fun _ => 5, ⟨.child 1 (.error nonId timedOut), willing 0 2 fun _ => 5⟩]

/-- Connections 6 to 10 wait for upstream 1 and connection 11 for upstream 2, which is the
first one of the pool. When upstream 1 has opened its session, it refuses connection 6. -/
def refusedRun : List Occurrence :=
  fullUpstream ++
    ((List.range 5).map fun others => opened (others + 6) 1 fun id => if id = 0 then 5 else 0) ++
    [opened 11 2 fun id => if id = 0 then 5 else 0,
      ⟨.child 1 .sessionOpened,
        { willing 0 3 fun id => if id = 0 then 5 else 0 with
          opens := fun _ id _ => id ≠ 6
          poolOrder := fun ids => ids.rotate 1
          poolOrder_perm := fun ids => ids.rotate_perm 1 }⟩]

/-- In both runs connection 6 is lost although the others keep to their part: in the first
one its upstream is gone, in the second one it is in neither of the tables. -/
theorem not_noneLost_runs :
    (EachStep next Contract new failedRun ∧ ¬Always next NoneLost new failedRun) ∧
      EachStep next Contract new refusedRun ∧ ¬Always next NoneLost new refusedRun := by
  refine ⟨⟨by decide +kernel, fun always => ?_⟩, by decide +kernel, fun always => ?_⟩
  · exact absurd always.last (by decide +kernel)
  · exact absurd always.last (by decide +kernel)

end UpstreamMultiplexer

end TrustTunnel.Client
