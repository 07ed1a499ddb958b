import TrustTunnel.Endpoint.Authentication
import TrustTunnel.Table.Collect

/-!
# Limits on the connections of a client

The limiter counts the connections of each client, those of HTTP/1 and HTTP/2 apart
from those of HTTP/3. A connection takes a slot of its client and gives it back when
its guard is dropped. Clients are told apart by their credentials.
-/

namespace TrustTunnel.Endpoint

open Authentication ReverseProxy

/-- The connections that are counted together. -/
inductive LimitClass where
  | http2
  | http3
  deriving DecidableEq

/-- HTTP/1 and HTTP/2 share a counter. -/
def limitClass : Protocol → LimitClass
  | .http1 => .http2
  | .http2 => .http2
  | .http3 => .http3

structure ClientEntry where
  maxHttp2 : Option UInt32
  maxHttp3 : Option UInt32
  http2Count : UInt32
  http3Count : UInt32

namespace ClientEntry

def new (client : Authentication.Client) : ClientEntry :=
  ⟨client.maxHttp2Conns, client.maxHttp3Conns, 0, 0⟩

def current (self : ClientEntry) : LimitClass → UInt32
  | .http2 => self.http2Count
  | .http3 => self.http3Count

def setCurrent (self : ClientEntry) (count : UInt32) : LimitClass → ClientEntry
  | .http2 => { self with http2Count := count }
  | .http3 => { self with http3Count := count }

lemma current_setCurrent_of_ne (self : ClientEntry) (count : UInt32)
    {counted other : LimitClass} (different : other ≠ counted) :
    (self.setCurrent count counted).current other = self.current other := by
  cases counted <;> cases other
  · exact absurd rfl different
  · rfl
  · rfl
  · exact absurd rfl different

end ClientEntry

/-- The slot of a connection, until it is dropped. -/
structure ConnectionGuard where
  creds : Bytes
  protocol : Protocol
  deriving DecidableEq

structure ConnectionLimiter where
  clients : AList fun _ : Bytes => ClientEntry
  defaultMaxHttp2 : Option UInt32
  defaultMaxHttp3 : Option UInt32

namespace ConnectionLimiter

/-- Collecting into a map keeps the last entry of a key. -/
def collect (clients : List Authentication.Client) : AList fun _ : Bytes => ClientEntry :=
  clients.foldl (fun entries client => entries.insert client.creds (.new client)) ∅

def new (clients : List Authentication.Client) (defaultMaxHttp2 defaultMaxHttp3 : Option UInt32) :
    ConnectionLimiter :=
  ⟨collect clients, defaultMaxHttp2, defaultMaxHttp3⟩

/-- The limit of an entry: its own, or else the default. -/
def limit (self : ConnectionLimiter) (entry : ClientEntry) : LimitClass → Option UInt32
  | .http2 => entry.maxHttp2.or self.defaultMaxHttp2
  | .http3 => entry.maxHttp3.or self.defaultMaxHttp3

/-- Write the counter of an entry. -/
def store (self : ConnectionLimiter) (creds : Bytes) (entry : ClientEntry)
    (counted : LimitClass) (count : UInt32) : ConnectionLimiter :=
  { self with clients := self.clients.insert creds (entry.setCurrent count counted) }

/-- Try to acquire a connection slot for the given credentials and protocol. -/
def tryAcquire (self : ConnectionLimiter) (creds : Bytes) (protocol : Protocol) :
    Option (ConnectionGuard × ConnectionLimiter) :=
  match self.clients.lookup creds with
  | none => none
  | some entry =>
    let current := entry.current (limitClass protocol)
    if (self.limit entry (limitClass protocol)).any (· ≤ current) then none
    else
      some (⟨creds, protocol⟩, self.store creds entry (limitClass protocol) (current + 1))

/-- Called when a guard is dropped. -/
def release (self : ConnectionLimiter) (guard : ConnectionGuard) : ConnectionLimiter :=
  match self.clients.lookup guard.creds with
  | none => self
  | some entry =>
    let current := entry.current (limitClass guard.protocol)
    self.store guard.creds entry (limitClass guard.protocol)
      (if current = 0 then 0 else current - 1)

/-! ## Limits and counters -/

/-- The limit that is in force for credentials. -/
def limitOf (self : ConnectionLimiter) (creds : Bytes) (counted : LimitClass) : Option UInt32 :=
  (self.clients.lookup creds).bind (self.limit · counted)

/-- The counter of credentials. -/
def count (self : ConnectionLimiter) (creds : Bytes) (counted : LimitClass) : Nat :=
  ((self.clients.lookup creds).map fun entry => (entry.current counted).toNat).getD 0

section Store

variable {self : ConnectionLimiter} {creds : Bytes} {entry : ClientEntry}
  (found : self.clients.lookup creds = some entry) (counted : LimitClass) (value : UInt32)

include found in
lemma limitOf_store (other : Bytes) (kind : LimitClass) :
    (self.store creds entry counted value).limitOf other kind = self.limitOf other kind := by
  by_cases same : other = creds
  · subst same
    rw [limitOf, limitOf, store, AList.lookup_insert, found]
    cases counted <;> cases kind <;> rfl
  · rw [limitOf, store, AList.lookup_insert_ne same]
    rfl

lemma count_store : (self.store creds entry counted value).count creds counted = value.toNat := by
  rw [count, store, AList.lookup_insert, Option.map_some]
  cases counted <;> rfl

include found in
lemma count_store_of_ne {other : Bytes} {kind : LimitClass}
    (different : ¬(other = creds ∧ kind = counted)) :
    (self.store creds entry counted value).count other kind = self.count other kind := by
  by_cases same : other = creds
  · subst same
    have apart : kind ≠ counted := fun equal => different ⟨rfl, equal⟩
    rw [count, count, store, AList.lookup_insert, found, Option.map_some, Option.map_some,
      ClientEntry.current_setCurrent_of_ne _ _ apart]
  · rw [count, count, store, AList.lookup_insert_ne same]

end Store

/-- A slot is given away only below the limit, and no other counter changes. -/
structure Acquires (before : ConnectionLimiter) (guard : ConnectionGuard)
    (after : ConnectionLimiter) : Prop where
  limitOf : ∀ creds kind, after.limitOf creds kind = before.limitOf creds kind
  below : ∀ limit ∈ before.limitOf guard.creds (limitClass guard.protocol),
    before.count guard.creds (limitClass guard.protocol) < limit.toNat ∧
      after.count guard.creds (limitClass guard.protocol) =
        before.count guard.creds (limitClass guard.protocol) + 1
  other : ∀ creds kind, ¬(creds = guard.creds ∧ kind = limitClass guard.protocol) →
    after.count creds kind = before.count creds kind

variable {creds : Bytes}

lemma tryAcquire_eq_some {self after : ConnectionLimiter} {protocol : Protocol}
    {guard : ConnectionGuard} (acquired : self.tryAcquire creds protocol = some (guard, after)) :
    guard = ⟨creds, protocol⟩ ∧ Acquires self guard after := by
  rw [tryAcquire] at acquired
  cases found : self.clients.lookup creds with
  | none =>
    rw [found] at acquired
    cases acquired
  | some entry =>
    simp only [found, Option.ite_none_left_eq_some, Bool.not_eq_true] at acquired
    obtain ⟨free, stored⟩ := acquired
    cases stored
    refine ⟨rfl, limitOf_store found _ _, ?_, fun _ _ => count_store_of_ne found _ _⟩
    intro limit inForce
    rw [limitOf, found, Option.bind_some] at inForce
    have counted : self.count creds (limitClass protocol) =
        (entry.current (limitClass protocol)).toNat := by
      rw [count, found]
      rfl
    have free : ¬limit ≤ entry.current (limitClass protocol) := by
      rw [Option.mem_def.mp inForce] at free
      simpa using free
    rw [UInt32.le_iff_toNat_le, not_le] at free
    have small := limit.toNat_lt
    rw [count_store, counted, UInt32.toNat_add, UInt32.toNat_one]
    exact ⟨free, Nat.mod_eq_of_lt (by omega)⟩

/-- A slot that is given back is taken off its counter, and no other counter changes. -/
structure Releases (before : ConnectionLimiter) (guard : ConnectionGuard)
    (after : ConnectionLimiter) : Prop where
  limitOf : ∀ creds kind, after.limitOf creds kind = before.limitOf creds kind
  same : after.count guard.creds (limitClass guard.protocol) =
    before.count guard.creds (limitClass guard.protocol) - 1
  other : ∀ creds kind, ¬(creds = guard.creds ∧ kind = limitClass guard.protocol) →
    after.count creds kind = before.count creds kind

lemma releases_release (self : ConnectionLimiter) (guard : ConnectionGuard) :
    Releases self guard (self.release guard) := by
  rw [release]
  cases found : self.clients.lookup guard.creds with
  | none =>
    have nothing : self.count guard.creds (limitClass guard.protocol) = 0 := by
      rw [count, found]
      rfl
    refine ⟨fun _ _ => rfl, ?_, fun _ _ _ => rfl⟩
    rw [nothing]
  | some entry =>
    refine ⟨limitOf_store found _ _, ?_, fun _ _ => count_store_of_ne found _ _⟩
    rw [count_store, count, found, Option.map_some, Option.getD_some]
    by_cases zero : entry.current (limitClass guard.protocol) = 0
    · rw [zero]
      rfl
    · have positive : 1 ≤ entry.current (limitClass guard.protocol) := by
        rw [UInt32.le_iff_toNat_le, UInt32.toNat_one, Nat.one_le_iff_ne_zero]
        intro none
        exact zero (UInt32.toNat.inj none)
      rw [if_neg zero, UInt32.toNat_sub_of_le _ _ positive, UInt32.toNat_one]

/-! ## Accounting -/

/-- A counter with a limit is the number of slots that are held, and within the limit. -/
def Accounts (self : ConnectionLimiter) (held : Bytes → LimitClass → Nat) : Prop :=
  ∀ creds kind, ∀ limit ∈ self.limitOf creds kind,
    self.count creds kind = held creds kind ∧ held creds kind ≤ limit.toNat

/-- One slot for the credentials and class of a guard. -/
def slot (guard : ConnectionGuard) (creds : Bytes) (kind : LimitClass) : Nat :=
  if creds = guard.creds ∧ kind = limitClass guard.protocol then 1 else 0

section

variable {self after : ConnectionLimiter} {guard : ConnectionGuard}
  {held remaining : Bytes → LimitClass → Nat}

lemma Accounts.acquire (accounts : self.Accounts held) (acquires : Acquires self guard after)
    (more : ∀ creds kind, remaining creds kind = held creds kind + slot guard creds kind) :
    after.Accounts remaining := by
  intro creds kind limit inForce
  rw [acquires.limitOf] at inForce
  obtain ⟨counted, within⟩ := accounts creds kind limit inForce
  rw [more]
  by_cases same : creds = guard.creds ∧ kind = limitClass guard.protocol
  · rw [slot, if_pos same]
    obtain ⟨rfl, rfl⟩ := same
    obtain ⟨below, next⟩ := acquires.below limit inForce
    omega
  · rw [slot, if_neg same, acquires.other creds kind same]
    exact ⟨counted, within⟩

lemma Accounts.release (accounts : self.Accounts held) (releases : Releases self guard after)
    (less : ∀ creds kind, held creds kind = remaining creds kind + slot guard creds kind) :
    after.Accounts remaining := by
  intro creds kind limit inForce
  rw [releases.limitOf] at inForce
  obtain ⟨counted, within⟩ := accounts creds kind limit inForce
  rw [less] at counted within
  by_cases same : creds = guard.creds ∧ kind = limitClass guard.protocol
  · rw [slot, if_pos same] at counted within
    obtain ⟨rfl, rfl⟩ := same
    have next := releases.same
    omega
  · rw [slot, if_neg same] at counted within
    rw [releases.other creds kind same]
    exact ⟨counted, within⟩

end

/-! ## The limits of the clients -/

lemma collect_eq (clients : List Authentication.Client) :
    collect clients =
      Table.collect (clients.map fun client => (client.creds, ClientEntry.new client)) := by
  rw [Table.collect, Table.collectInto, List.foldl_map, collect]

variable {clients : List Authentication.Client}

/-- An entry of a new limiter is the one of a client with its credentials. -/
lemma lookup_collect_eq_some {entry : ClientEntry}
    (found : (collect clients).lookup creds = some entry) :
    ∃ client ∈ clients, client.creds = creds ∧ entry = .new client := by
  rw [collect_eq] at found
  obtain ⟨client, mem, same⟩ := List.mem_map.mp (Table.mem_of_lookup_collect found)
  cases same
  exact ⟨client, mem, rfl, rfl⟩

lemma mem_collect {client : Authentication.Client} (mem : client ∈ clients) :
    client.creds ∈ collect clients := by
  rw [collect_eq, ← AList.lookup_isSome, Option.isSome_iff_exists]
  exact Table.exists_lookup_collect (List.mem_map_of_mem mem)

lemma accounts_new (clients : List Authentication.Client)
    (defaultMaxHttp2 defaultMaxHttp3 : Option UInt32) :
    (new clients defaultMaxHttp2 defaultMaxHttp3).Accounts fun _ _ => 0 := by
  intro creds kind limit inForce
  refine ⟨?_, Nat.zero_le _⟩
  obtain ⟨entry, found, -⟩ := Option.bind_eq_some_iff.mp inForce
  obtain ⟨client, -, -, rfl⟩ := lookup_collect_eq_some found
  rw [count, new, show (collect clients).lookup creds = _ from found]
  cases kind <;> rfl

end ConnectionLimiter

end TrustTunnel.Endpoint
