import TrustTunnel.Endpoint.ConnectionLimits

/-!
# The guards of a connection limiter

A limiter is used by acquiring guards and dropping them, in any order. As long as its counters
do not overflow, each of them is the number of guards that are alive, a guard is refused only
at the limit, and the counter of a guard that is dropped is not zero. The counter of a client
without a limit overflows with the guard number `2 ^ 32`.
-/

namespace TrustTunnel.Endpoint

open Authentication ReverseProxy Transition Endpoint.Core List ConnectionLimiter

/-! ## The effect of a call -/

namespace ConnectionLimiter

variable {self after : ConnectionLimiter} {creds : Bytes} {protocol : Protocol}
  {guard : ConnectionGuard}

section

variable {entry : ClientEntry} (found : self.clients.lookup creds = some entry)
  (counted : LimitClass)

include found

lemma mem_store (value : UInt32) (other : Bytes) :
    other ∈ (self.store creds entry counted value).clients ↔ other ∈ self.clients := by
  rw [store, AList.mem_insert]
  refine or_iff_right_of_imp ?_
  rintro rfl
  rw [← AList.lookup_isSome, found]
  rfl

lemma count_of_lookup : self.count creds counted = (entry.current counted).toNat := by
  rw [count, found]
  rfl

end

/-- A guard is refused to credentials that are not known, and at the limit. -/
lemma tryAcquire_eq_none :
    self.tryAcquire creds protocol = none ↔
      creds ∉ self.clients ∨ ∃ limit ∈ self.limitOf creds (limitClass protocol),
        limit.toNat ≤ self.count creds (limitClass protocol) := by
  rw [tryAcquire, ← AList.lookup_eq_none]
  cases found : self.clients.lookup creds with
  | none => simp
  | some entry =>
    rw [count_of_lookup found, limitOf, found]
    cases inForce : self.limit entry (limitClass protocol) with
    | none => simp [inForce]
    | some => simp [inForce, UInt32.le_iff_toNat_le]

section

variable (acquired : self.tryAcquire creds protocol = some (guard, after))

include acquired

/-- A guard that is given away is counted, and the counter may overflow. -/
lemma tryAcquire_eq_store :
    ∃ entry, self.clients.lookup creds = some entry ∧
      after = self.store creds entry (limitClass protocol)
        (entry.current (limitClass protocol) + 1) := by
  rw [tryAcquire] at acquired
  cases found : self.clients.lookup creds with
  | none =>
    rw [found] at acquired
    cases acquired
  | some entry =>
    simp only [found, Option.ite_none_left_eq_some] at acquired
    obtain ⟨-, stored⟩ := acquired
    cases stored
    exact ⟨entry, rfl, rfl⟩

lemma count_of_tryAcquire :
    after.count creds (limitClass protocol) =
      (self.count creds (limitClass protocol) + 1) % 2 ^ 32 := by
  obtain ⟨entry, found, rfl⟩ := tryAcquire_eq_store acquired
  rw [count_store, count_of_lookup found, UInt32.toNat_add, UInt32.toNat_one]

lemma mem_of_tryAcquire (other : Bytes) : other ∈ after.clients ↔ other ∈ self.clients := by
  obtain ⟨entry, found, rfl⟩ := tryAcquire_eq_store acquired
  exact mem_store found _ _ other

end

lemma mem_release (other : Bytes) :
    other ∈ (self.release guard).clients ↔ other ∈ self.clients := by
  rw [release]
  cases found : self.clients.lookup guard.creds with
  | none => exact Iff.rfl
  | some => exact mem_store found _ _ other

end ConnectionLimiter

/-! ## Runs -/

/-- The guard is one of the credentials and the class. -/
def ConnectionGuard.isOf (guard : ConnectionGuard) (creds : Bytes) (kind : LimitClass) : Bool :=
  guard.creds = creds && limitClass guard.protocol = kind

variable {guard : ConnectionGuard} {creds : Bytes}

lemma ConnectionGuard.isOf_iff {kind : LimitClass} :
    guard.isOf creds kind = true ↔ creds = guard.creds ∧ kind = limitClass guard.protocol := by
  rw [isOf, Bool.and_eq_true, decide_eq_true_iff, decide_eq_true_iff]
  exact and_congr eq_comm eq_comm

/-- A limiter, and the guards that are alive. -/
structure Limited where
  limiter : ConnectionLimiter
  guards : List ConnectionGuard

namespace Limited

inductive Event where
  | tryAcquire (creds : Bytes) (protocol : Protocol)
  /-- The guard at an index is dropped. -/
  | drop (index : Nat)
  deriving DecidableEq

def next (self : Limited) : Event → Limited
  | .tryAcquire creds protocol =>
    match self.limiter.tryAcquire creds protocol with
    | some (guard, limiter) => ⟨limiter, self.guards ++ [guard]⟩
    | none => self
  | .drop index =>
    match self.guards[index]? with
    | some guard => ⟨self.limiter.release guard, self.guards.eraseIdx index⟩
    | none => self

def start (settings : Core.Settings) : Limited := ⟨World.limiterOf settings, []⟩

/-- The number of guards of the credentials and the class that are alive. -/
def live (self : Limited) (creds : Bytes) (kind : LimitClass) : Nat :=
  self.guards.countP (·.isOf creds kind)

/-- The counters of each client are the numbers of its guards, and within its limits. -/
def Sound (settings : Core.Settings) (self : Limited) : Prop :=
  ∀ client ∈ settings.clients, ∀ kind,
    (∃ entry, self.limiter.clients.lookup client.creds = some entry ∧
      (entry.current kind).toNat = self.live client.creds kind) ∧
    ∀ limit ∈ settings.limit client kind, self.live client.creds kind ≤ limit.toNat

/-- A guard is refused only to unknown credentials or when the counter is the limit, and the
counter of a guard that is dropped is not zero. -/
def SoundStep (settings : Core.Settings) (self : Limited) : Event → Prop
  | .tryAcquire creds protocol =>
    self.limiter.tryAcquire creds protocol = none →
      (∀ client ∈ settings.clients, client.creds ≠ creds) ∨
        ∃ client ∈ settings.clients, client.creds = creds ∧
          ∃ limit ∈ settings.limit client (limitClass protocol),
            self.limiter.count creds (limitClass protocol) = limit.toNat
  | .drop index =>
    ∀ guard ∈ self.guards[index]?, self.limiter.count guard.creds (limitClass guard.protocol) ≠ 0

/-- No guard is acquired for a client and class without a limit when that would be the guard
number `2 ^ 32`. -/
def Room (settings : Core.Settings) (self : Limited) : Event → Prop
  | .tryAcquire creds protocol =>
    ∀ client ∈ settings.clients, client.creds = creds →
      settings.limit client (limitClass protocol) = none →
        self.live creds (limitClass protocol) + 1 < 2 ^ 32
  | .drop _ => True

instance (settings : Core.Settings) (self : Limited) :
    (event : Event) → Decidable (self.Room settings event)
  | .tryAcquire _ _ => inferInstanceAs (Decidable (∀ _ ∈ _, _ → _ → _))
  | .drop _ => .isTrue trivial

/-! ## What never changes -/

/-- The limiter knows the clients and their limits. -/
structure Known (settings : Core.Settings) (limited : Limited) : Prop where
  mem : ∀ creds, creds ∈ limited.limiter.clients ↔ ∃ client ∈ settings.clients, client.creds = creds
  limitOf : ∀ client ∈ settings.clients, ∀ kind,
    limited.limiter.limitOf client.creds kind = settings.limit client kind
  guards : ∀ guard ∈ limited.guards, ∃ client ∈ settings.clients, client.creds = guard.creds

variable {settings : Core.Settings} {self : Limited} {index : Nat}

lemma agree_of_nodup (distinct : (settings.clients.map (·.creds)).Nodup) : settings.Agree := by
  intro client mem other there same
  rw [inj_on_of_nodup_map distinct mem there same]
  exact ⟨rfl, rfl⟩

lemma known_start (distinct : (settings.clients.map (·.creds)).Nodup) :
    (start settings).Known settings where
  mem creds := by
    constructor
    · intro mem
      obtain ⟨entry, found⟩ := Option.isSome_iff_exists.mp (AList.lookup_isSome.mpr mem)
      obtain ⟨client, there, same, -⟩ := lookup_collect_eq_some found
      exact ⟨client, there, same⟩
    · rintro ⟨client, mem, rfl⟩
      exact mem_collect mem
  limitOf _ mem kind := World.limitOf_eq_limit mem (agree_of_nodup distinct) kind
  guards := nofun

lemma Known.next (known : self.Known settings) (event : Event) :
    (self.next event).Known settings := by
  cases event with
  | tryAcquire creds =>
    rw [Limited.next]
    split
    · rename_i guard limiter acquired
      obtain ⟨rfl, acquires⟩ := tryAcquire_eq_some acquired
      obtain ⟨entry, found, -⟩ := tryAcquire_eq_store acquired
      have present : creds ∈ self.limiter.clients := by
        rw [← AList.lookup_isSome, found]
        rfl
      exact {
        mem other := (mem_of_tryAcquire acquired other).trans (known.mem other)
        limitOf client mem kind := (acquires.limitOf _ kind).trans (known.limitOf client mem kind)
        guards guard mem := by
          rcases mem_append.mp mem with before | new
          · exact known.guards guard before
          · rw [mem_singleton.mp new]
            exact (known.mem creds).mp present }
    · exact known
  | drop =>
    rw [Limited.next]
    split
    · rename_i guard _
      have releases := releases_release self.limiter guard
      exact {
        mem other := (mem_release other).trans (known.mem other)
        limitOf client mem kind := (releases.limitOf _ kind).trans (known.limitOf client mem kind)
        guards guard mem := known.guards guard (mem_of_mem_eraseIdx mem) }
    · exact known

/-! ## One call -/

lemma live_acquire (self : Limited) (limiter : ConnectionLimiter) (guard : ConnectionGuard)
    (creds : Bytes) (kind : LimitClass) :
    live ⟨limiter, self.guards ++ [guard]⟩ creds kind =
      self.live creds kind + if guard.isOf creds kind then 1 else 0 := by
  rw [live, countP_append, countP_singleton]
  rfl

lemma live_drop (limiter : ConnectionLimiter) (present : self.guards[index]? = some guard)
    (creds : Bytes) (kind : LimitClass) :
    self.live creds kind =
      live ⟨limiter, self.guards.eraseIdx index⟩ creds kind +
        if guard.isOf creds kind then 1 else 0 := by
  obtain ⟨bound, rfl⟩ := List.getElem?_eq_some_iff.mp present
  rw [live, ← (getElem_cons_eraseIdx_perm bound).countP_eq, countP_cons]
  rfl

variable {client : Authentication.Client}

open ConnectionGuard

section

variable (known : self.Known settings)

include known

lemma Known.sound_iff :
    self.Sound settings ↔ ∀ client ∈ settings.clients, ∀ kind,
      self.limiter.count client.creds kind = self.live client.creds kind ∧
        ∀ limit ∈ settings.limit client kind, self.live client.creds kind ≤ limit.toNat := by
  refine forall₂_congr fun client mem => forall_congr' fun kind => and_congr_left' ?_
  have present := (known.mem _).mpr ⟨client, mem, rfl⟩
  obtain ⟨entry, found⟩ := Option.isSome_iff_exists.mp (AList.lookup_isSome.mpr present)
  rw [found, count_of_lookup found]
  simp

/-- Refusals and drops are as they should be wherever the counters are. -/
lemma Known.soundStep (sound : self.Sound settings) (event : Event) :
    self.SoundStep settings event := by
  rw [known.sound_iff] at sound
  cases event with
  | tryAcquire creds =>
    intro refused
    rcases tryAcquire_eq_none.mp refused with unknown | ⟨limit, inForce, full⟩
    · exact .inl fun client mem same => unknown ((known.mem creds).mpr ⟨client, mem, same⟩)
    · by_cases unknown : creds ∈ self.limiter.clients
      · obtain ⟨client, mem, rfl⟩ := (known.mem creds).mp unknown
        rw [known.limitOf client mem] at inForce
        obtain ⟨counted, within⟩ := sound client mem _
        have within := within limit inForce
        exact .inr ⟨client, mem, rfl, limit, inForce, by omega⟩
      · exact .inl fun client mem same => unknown ((known.mem creds).mpr ⟨client, mem, same⟩)
  | drop =>
    intro guard present
    obtain ⟨client, mem, same⟩ := known.guards guard (mem_of_getElem? present)
    have alive := live_drop self.limiter present guard.creds (limitClass guard.protocol)
    rw [if_pos (isOf_iff.mpr ⟨rfl, rfl⟩)] at alive
    rw [← same] at alive ⊢
    have counted := (sound client mem (limitClass guard.protocol)).1
    omega

variable {protocol : Protocol}

lemma Known.sound_acquire (sound : self.Sound settings) {limiter : ConnectionLimiter}
    (acquired : self.limiter.tryAcquire creds protocol = some (guard, limiter)) :
    (⟨limiter, self.guards ++ [guard]⟩ : Limited).Sound settings ↔
      self.Room settings (.tryAcquire creds protocol) := by
  have after := known.next (.tryAcquire creds protocol)
  simp only [Limited.next, acquired] at after
  rw [known.sound_iff] at sound
  rw [after.sound_iff]
  have counted := count_of_tryAcquire acquired
  obtain ⟨rfl, acquires⟩ := tryAcquire_eq_some acquired
  have alive := live_acquire self limiter ⟨creds, protocol⟩ creds (limitClass protocol)
  rw [if_pos (isOf_iff.mpr ⟨rfl, rfl⟩)] at alive
  constructor
  · rintro holds client mem rfl -
    have before := (sound client mem (limitClass protocol)).1
    have exactly := (holds client mem (limitClass protocol)).1
    rw [counted, alive] at exactly
    exact exactly ▸ Nat.mod_lt _ (Nat.two_pow_pos 32)
  · intro room client mem kind
    obtain ⟨before, within⟩ := sound client mem kind
    by_cases here : client.creds = creds ∧ kind = limitClass protocol
    · obtain ⟨rfl, rfl⟩ := here
      rw [counted, alive, before]
      cases limited : settings.limit client _ with
      | none => exact ⟨Nat.mod_eq_of_lt (room client mem rfl limited), nofun⟩
      | some limit =>
        have inForce := (known.limitOf client mem _).trans limited
        obtain ⟨below, -⟩ := acquires.below limit inForce
        have small := limit.toNat_lt
        rw [before] at below
        refine ⟨Nat.mod_eq_of_lt (by omega), ?_⟩
        rintro _ ⟨⟩
        exact below
    · have other : ¬ConnectionGuard.isOf ⟨creds, protocol⟩ client.creds kind = true :=
        fun same => here (isOf_iff.mp same)
      rw [acquires.other _ _ here, live_acquire, if_neg other]
      exact ⟨before, within⟩

lemma Known.sound_drop (sound : self.Sound settings) (present : self.guards[index]? = some guard) :
    (⟨self.limiter.release guard, self.guards.eraseIdx index⟩ : Limited).Sound settings := by
  have after := known.next (.drop index)
  simp only [Limited.next, present] at after
  rw [known.sound_iff] at sound
  rw [after.sound_iff]
  have releases := releases_release self.limiter guard
  intro client mem kind
  have alive := live_drop (self.limiter.release guard) present client.creds kind
  obtain ⟨before, within⟩ := sound client mem kind
  by_cases here : client.creds = guard.creds ∧ kind = limitClass guard.protocol
  · rw [if_pos (isOf_iff.mpr here)] at alive
    have same := releases.same
    rw [← here.1, ← here.2] at same
    refine ⟨same.trans (by omega), fun limit inForce => ?_⟩
    have bound := within limit inForce
    omega
  · have other : ¬guard.isOf client.creds kind = true := fun same => here (isOf_iff.mp same)
    rw [if_neg other, add_zero] at alive
    rw [releases.other _ _ here, ← alive]
    exact ⟨before, within⟩

lemma Known.tryAcquire_ne_none (mem : client ∈ settings.clients)
    (unlimited : settings.limit client (limitClass protocol) = none) :
    self.limiter.tryAcquire client.creds protocol ≠ none := by
  intro refused
  rcases tryAcquire_eq_none.mp refused with unknown | ⟨_, inForce, -⟩
  · exact unknown ((known.mem _).mpr ⟨client, mem, rfl⟩)
  · rw [known.limitOf client mem, unlimited] at inForce
    cases inForce

lemma Known.sound_next (sound : self.Sound settings) (event : Event) :
    (self.next event).Sound settings ↔ self.Room settings event := by
  cases event with
  | tryAcquire creds protocol =>
    cases acquired : self.limiter.tryAcquire creds protocol with
    | some =>
      have sound_acquire := known.sound_acquire sound acquired
      simpa only [Limited.next, acquired] using sound_acquire
    | none =>
      simp only [Limited.next, acquired]
      refine iff_of_true sound ?_
      rintro client mem rfl unlimited
      exact absurd acquired (known.tryAcquire_ne_none mem unlimited)
  | drop index =>
    cases present : self.guards[index]? with
    | some =>
      simp only [Limited.next, present]
      exact iff_of_true (known.sound_drop sound present) trivial
    | none =>
      simp only [Limited.next, present]
      exact iff_of_true sound trivial

end

/-! ## All calls -/

lemma sound_start (distinct : (settings.clients.map (·.creds)).Nodup) :
    (start settings).Sound settings := by
  intro client mem kind
  have present := ((known_start distinct).mem _).mpr ⟨client, mem, rfl⟩
  obtain ⟨entry, found⟩ := Option.isSome_iff_exists.mp (AList.lookup_isSome.mpr present)
  obtain ⟨other, -, -, rfl⟩ := lookup_collect_eq_some found
  refine ⟨⟨_, found, ?_⟩, fun _ _ => Nat.zero_le _⟩
  cases kind <;> rfl

lemma Known.always (known : self.Known settings) (events : List Event) :
    Always Limited.next (Known settings) self events :=
  Always.of_invariant (Known settings) (fun known _ => known.next _) id known
    (eachStep_true self events)

/-- The counters are right along a run if and only if there is room at each call. -/
lemma Known.always_sound_iff (known : self.Known settings) (sound : self.Sound settings)
    (events : List Event) :
    Always Limited.next (Sound settings) self events ↔
      EachStep Limited.next (Room settings) self events := by
  have exactly {state : Limited} {event : Event}
      (both : Known settings state ∧ Sound settings state) :
      Known settings (state.next event) ∧ Sound settings (state.next event) ↔
        state.Room settings event :=
    (and_iff_right (both.1.next event)).trans (both.1.sound_next both.2 event)
  have both : Always Limited.next (fun state => Known settings state ∧ Sound settings state) self
      events ↔ EachStep Limited.next (Room settings) self events :=
    always_iff_eachStep exactly ⟨known, sound⟩ events
  rw [← both]
  exact ⟨(known.always events).and, fun both => both.imp fun _ => And.right⟩

/-- Each call is as it should be when there is room at each of them. -/
lemma Known.eachStep_sound (known : self.Known settings) (sound : self.Sound settings)
    {events : List Event} (room : EachStep Limited.next (Room settings) self events) :
    EachStep Limited.next (SoundStep settings) self events :=
  .of_invariant
    (fun {state event} (both : Known settings state ∧ Sound settings state) room =>
      ⟨both.1.next event, (both.1.sound_next both.2 event).mpr room⟩)
    (fun both _ => both.1.soundStep both.2 _) ⟨known, sound⟩ room

/-- The accounts of a limiter are right, from its start and after each of the calls. -/
def Accounted (settings : Core.Settings) (events : List Event) : Prop :=
  Always next (Sound settings) (start settings) events ∧
    EachStep next (SoundStep settings) (start settings) events

/-- For clients with distinct credentials, the accounts are right along a run if and only if no
counter without a limit overflows. -/
theorem accounted_iff {settings : Core.Settings}
    (distinct : (settings.clients.map (·.creds)).Nodup) (events : List Event) :
    Accounted settings events ↔ EachStep next (Room settings) (start settings) events := by
  have known := known_start distinct
  have sound := sound_start distinct
  rw [Accounted, known.always_sound_iff sound]
  exact and_iff_left_of_imp (known.eachStep_sound sound)

/-- One client has a limit for HTTP/2, the other one for HTTP/3. -/
def twoClients : Core.Settings :=
  ⟨[⟨"alice", "a", some 1, none⟩, ⟨"bob", "b", none, some 2⟩], none, none⟩

def acquireAlice (protocol : Protocol) : Event := .tryAcquire (.ofString "YWxpY2U6YQ==") protocol

theorem accounted_twoClients :
    (twoClients.clients.map (·.creds)).Nodup ∧
      Accounted twoClients [acquireAlice .http2, acquireAlice .http1, acquireAlice .http3,
        .drop 0, acquireAlice .http1] := by
  have distinct : (twoClients.clients.map (·.creds)).Nodup := by decide +kernel
  exact ⟨distinct, (accounted_iff distinct _).mpr (by decide +kernel)⟩

/-! ## Limits in force -/

lemma isOf_eq_slot (guard : ConnectionGuard) (creds : Bytes) (kind : LimitClass) :
    (if guard.isOf creds kind then 1 else 0) = slot guard creds kind := by
  simp only [slot, isOf_iff]

section

variable {protocol : Protocol} (known : self.Known settings) (mem : client ∈ settings.clients)
  (unlimited : settings.limit client (limitClass protocol) = none)

include known mem unlimited

lemma Known.live_next :
    (self.next (.tryAcquire client.creds protocol)).live client.creds (limitClass protocol) =
      self.live client.creds (limitClass protocol) + 1 := by
  cases acquired : self.limiter.tryAcquire _ _ with
  | none => exact absurd acquired (known.tryAcquire_ne_none mem unlimited)
  | some =>
    obtain ⟨same, -⟩ := tryAcquire_eq_some acquired
    simp only [Limited.next, acquired]
    rw [live_acquire, same, if_pos (isOf_iff.mpr ⟨rfl, rfl⟩)]

/-- There is no room for the guard number `2 ^ 32` of a client without a limit. -/
lemma Known.lt_of_room {times : Nat}
    (room : EachStep Limited.next (Room settings) self
      (List.replicate (times + 1) (.tryAcquire client.creds protocol))) :
    self.live client.creds (limitClass protocol) + (times + 1) < 2 ^ 32 := by
  induction times generalizing self with
  | zero => exact room.1 client mem rfl unlimited
  | succ _ ih =>
    have rest := ih (known.next _) room.2
    rw [known.live_next mem unlimited] at rest
    omega

end

/-- A client with a limit for HTTP/3 alone. -/
def freeHttp2 : Core.Settings := ⟨[⟨"alice", "a", none, some 1⟩], none, none⟩

/-- With `2 ^ 32` guards alive, the counter of the client is zero. -/
theorem not_accounted_freeHttp2 :
    (freeHttp2.clients.map (·.creds)).Nodup ∧
      ¬Accounted freeHttp2 (List.replicate (2 ^ 32) (acquireAlice .http2)) := by
  have distinct : (freeHttp2.clients.map (·.creds)).Nodup := nodup_singleton _
  have known := known_start distinct
  refine ⟨distinct, ?_⟩
  rintro ⟨always, -⟩
  have room := (known.always_sound_iff (sound_start distinct) _).mp always
  have small := known.lt_of_room (mem_singleton_self _) rfl room
  omega

end Limited

end TrustTunnel.Endpoint
