import Mathlib.Data.List.TakeWhile
import TrustTunnel.Client.Session
import TrustTunnel.Transition.Trace

/-!
# Connect attempts

A session that is connecting retries as long as attempts are left. Five rows of the
transition table retry; three of them are behind rows for a session without attempts and for
one that falls into recovery, two are not.
-/

namespace TrustTunnel.Client

open Transition List

namespace ConnectRetryInfo

/-- There is another attempt. -/
def HasAttempts : ConnectRetryInfo → Prop
  | severalAttempts attemptsLeft => 0 < attemptsLeft
  | fallIntoRecovery => False

instance : DecidablePred HasAttempts
  | severalAttempts attemptsLeft => inferInstanceAs (Decidable (0 < attemptsLeft))
  | fallIntoRecovery => instDecidableFalse

end ConnectRetryInfo

namespace Vpn

variable {self : Vpn} {occ : Occurrence} {row : Row} {event : ConnectEvent}

/-- The event makes `retry_connect` run. -/
def RunsRetry (self : Vpn) (occ : Occurrence) : Prop :=
  ∃ row, self.taken occ = some row ∧ row.before = .retryConnect

instance (self : Vpn) : DecidablePred self.RunsRetry := fun occ =>
  decidable_of_iff ((self.taken occ).any fun row => row.before = .retryConnect)
    (by simp [RunsRetry, Option.any_eq_true])

/-- `retry_connect` runs only if there is another attempt. -/
def RetryAllowed (self : Vpn) (occ : Occurrence) : Prop :=
  self.RunsRetry occ → self.connectRetryInfo.HasAttempts

instance (self : Vpn) : DecidablePred self.RetryAllowed := fun occ =>
  inferInstanceAs (Decidable (self.RunsRetry occ → self.connectRetryInfo.HasAttempts))

/-- The location has another endpoint of the same address family. -/
def Replaceable (self : Vpn) (endpoint : VpnEndpoint) : Prop :=
  ∃ other ∈ self.upstreamConfig.endpoints, other ≠ endpoint ∧ other.family = endpoint.family

/-- While the session is connecting, its endpoint is abandoned in favour of another one only
if there is another attempt; and a network that comes back before the first connection does
not find a session that is to fall into recovery. -/
def AttemptsKnown (self : Vpn) (occ : Occurrence) : Prop :=
  match occ.event with
  | .abandonEndpoint endpoint =>
    self.state = .connecting → self.selectedEndpoint = some endpoint →
      self.Replaceable endpoint → self.connectRetryInfo.HasAttempts
  | .networkChange .connected =>
    self.state = .waitingForNetwork → self.connectedOnce = false →
      self.connectRetryInfo ≠ .fallIntoRecovery
  | _ => True

lemma hasAttempts_of_conditions (attempts : self.noConnectAttempts = false)
    (recovery : self.fallIntoRecovery = false) : self.connectRetryInfo.HasAttempts := by
  rw [noConnectAttempts] at attempts
  rw [fallIntoRecovery] at recovery
  cases info : self.connectRetryInfo with
  | severalAttempts attemptsLeft =>
    rw [info] at attempts
    have nonzero : attemptsLeft ≠ 0 := by
      rintro rfl
      exact absurd attempts (by decide)
    exact UInt64.pos_iff_ne_zero.mpr nonzero
  | fallIntoRecovery =>
    rw [info] at recovery
    exact absurd recovery (by decide)

/-- An event that reaches the machine leaves its state and the attempts, unless it is a
connect. -/
lemma session_prepare_of_told {data : Data}
    (told : (self.prepare occ).2 = some (event, data)) (apart : event ≠ .doConnect) :
    (self.prepare occ).1.session = self.session := by
  rw [session_prepare]
  rw [prepare] at told
  cases kind : occ.event with
  | connect =>
    rw [kind] at told
    cases told
    exact absurd rfl apart
  | postponementTimer | stop =>
    rw [kind] at told
    cases told
  | _ => rfl

lemma retry_rows : ∀ row ∈ transitionTable, row.before = .retryConnect →
    row.source = some .connecting ∧
      row.event ∈ [.pingFail, .clientDisconnected, .abandonEndpoint, .networkChange] ∨
      row.source = some .waitingForNetwork ∧ row.event = .networkChange := by
  decide

/-- A row that retries is taken. -/
structure Retry (vpn : Vpn) (occ : Occurrence) (row : Row) : Prop extends Taken vpn occ row where
  retries : row.before = .retryConnect
  session : (vpn.prepare occ).1.session = vpn.session
  place : vpn.state = .connecting ∧
      row.event ∈ [.pingFail, .clientDisconnected, .abandonEndpoint, .networkChange] ∨
    vpn.state = .waitingForNetwork ∧ row.event = .networkChange

lemma retry_of_taken (taken : self.taken occ = some row)
    (retries : row.before = .retryConnect) : Retry self occ row := by
  have row := taken_of_eq taken
  have place := retry_rows _ row.listed retries
  refine ⟨row, retries, session_prepare_of_told row.told ?_, ?_⟩
  · intro connects
    rw [connects] at place
    rcases place with ⟨-, events⟩ | ⟨-, same⟩
    · exact absurd events (by decide)
    · cases same
  · rcases place with ⟨source, events⟩ | ⟨source, events⟩
    · exact .inl ⟨row.state_eq source, events⟩
    · exact .inr ⟨row.state_eq source, events⟩

/-- The conditions of the rows in front of the first one that retries. -/
def guards (state : SessionState) (event : ConnectEvent) : List Condition :=
  ((fsm.rows state event).takeWhile fun row => row.before ≠ .retryConnect).map Entry.condition

section

variable (retry : Retry self occ row)

include retry

lemma Retry.not_holds {condition : Condition} (guard : condition ∈ guards self.state row.event) :
    holds condition (self.prepare occ).1 (occ.input (self.data occ)) = false := by
  obtain ⟨earlier, mem, rfl⟩ := mem_map.mp guard
  have split : fsm.rows (fsm.state (self.prepare occ).1) row.event =
      ((fsm.rows self.state row.event).takeWhile fun row => row.before ≠ .retryConnect) ++
        (fsm.rows self.state row.event).dropWhile fun row => row.before ≠ .retryConnect :=
    (congrArg (fsm.rows · row.event) retry.state).trans takeWhile_append_dropWhile.symm
  refine Fsm.not_holds_of_select retry.selected split (fun inFront => ?_) earlier mem
  have other := mem_takeWhile_imp inFront
  exact of_decide_eq_true other retry.retries

lemma Retry.info : (self.prepare occ).1.connectRetryInfo = self.connectRetryInfo :=
  congrArg Session.connectRetryInfo retry.session

/-- A retry after a failure, or when the network changes while connecting, has an attempt. -/
lemma Retry.hasAttempts (connecting : self.state = .connecting)
    (known : row.event ∈ [ConnectEvent.pingFail, .clientDisconnected, .networkChange]) :
    self.connectRetryInfo.HasAttempts := by
  have guarded : ∀ event ∈ [ConnectEvent.pingFail, .clientDisconnected, .networkChange],
      .noConnectAttempts ∈ guards .connecting event ∧
        .fallIntoRecovery ∈ guards .connecting event := by
    decide
  obtain ⟨attempts, recovery⟩ := guarded _ known
  rw [← connecting] at attempts recovery
  rw [← retry.info]
  exact hasAttempts_of_conditions (retry.not_holds attempts) (retry.not_holds recovery)

/-- A retry when the network is back: the session was not connected before, and does not lack
attempts. -/
lemma Retry.not_holds_network (waiting : self.state = .waitingForNetwork)
    (changes : row.event = .networkChange) :
    networkLost (self.data occ) = false ∧ (self.prepare occ).1.connectedOnce = false ∧
      (self.prepare occ).1.noConnectAttempts = false := by
  have guarded : .networkLost ∈ guards .waitingForNetwork .networkChange ∧
      .connectedOnce ∈ guards .waitingForNetwork .networkChange ∧
      .noConnectAttempts ∈ guards .waitingForNetwork .networkChange := by
    decide
  rw [← waiting, ← changes] at guarded
  exact ⟨retry.not_holds guarded.1, retry.not_holds guarded.2.1, retry.not_holds guarded.2.2⟩

end

/-! ## Abandoned endpoints -/

variable {endpoint : VpnEndpoint}

lemma replaceable_iff :
    self.Replaceable endpoint ↔ ¬(self.upstreamConfig.endpoints.filter (· ≠ endpoint)).all
      (·.family ≠ endpoint.family) = true := by
  simp [Replaceable]

lemma abandonEndpoint_of_not_replaceable (last : ¬self.Replaceable endpoint) :
    (self.abandonEndpoint endpoint).2 = true ∧
      (self.abandonEndpoint endpoint).1.isFatalError none = true := by
  rw [replaceable_iff, not_not] at last
  simp only [abandonEndpoint, last, if_true]
  refine ⟨trivial, ?_⟩
  rw [exhausted]
  split
  · rfl
  · split
    · rfl
    · rfl

lemma abandonEndpoint_of_selected (left : self.Replaceable endpoint)
    (selected : self.selectedEndpoint = some endpoint) :
    (self.abandonEndpoint endpoint).2 = true ∧
      (self.abandonEndpoint endpoint).1.isFatalError none = false := by
  rw [replaceable_iff] at left
  simp only [abandonEndpoint, left, selected]
  exact ⟨rfl, rfl⟩

lemma abandonEndpoint_of_not_selected (left : self.Replaceable endpoint)
    (other : self.selectedEndpoint ≠ some endpoint) :
    (self.abandonEndpoint endpoint).2 = false := by
  rw [replaceable_iff] at left
  simp only [abandonEndpoint, left, decide_eq_false other]
  rfl

section

variable (abandons : occ.event = .abandonEndpoint endpoint)

include abandons

lemma prepare_abandonEndpoint :
    self.prepare occ = ((self.abandonEndpoint endpoint).1,
      if (self.abandonEndpoint endpoint).2 then some (.abandonEndpoint, .null) else none) := by
  unfold prepare
  rw [abandons]

/-- A retry after an endpoint was abandoned: it was the selected one, and another one of its
family is left. -/
lemma Retry.abandoned (retry : Retry self occ row) (connecting : self.state = .connecting) :
    self.selectedEndpoint = some endpoint ∧ self.Replaceable endpoint := by
  have told := retry.told
  rw [prepare_abandonEndpoint abandons] at told
  by_cases left : self.Replaceable endpoint
  · refine ⟨by_contra fun other => ?_, left⟩
    rw [abandonEndpoint_of_not_selected left other] at told
    cases told
  · obtain ⟨tells, fatal⟩ := abandonEndpoint_of_not_replaceable left
    rw [tells] at told
    obtain ⟨event, null⟩ := Prod.mk.inj (Option.some.inj told)
    have guard : .isFatalError ∈ guards self.state row.event := by
      rw [connecting, ← event]
      decide
    have harmless := retry.not_holds guard
    rw [prepare_abandonEndpoint abandons, ← null] at harmless
    cases fatal.symm.trans harmless

/-- The abandonment of the selected endpoint makes a connecting session retry. -/
lemma runsRetry_of_abandoned (connecting : self.state = .connecting)
    (selected : self.selectedEndpoint = some endpoint) (left : self.Replaceable endpoint) :
    self.RunsRetry occ := by
  obtain ⟨told, harmless⟩ := abandonEndpoint_of_selected left selected
  have state : (self.abandonEndpoint endpoint).1.state = .connecting :=
    (congrArg Session.state (self.session_abandonEndpoint endpoint)).trans connecting
  refine ⟨stay (some .connecting) .abandonEndpoint .otherwise .retryConnect, ?_, rfl⟩
  rw [taken, prepare_abandonEndpoint abandons, told, if_pos rfl, Option.bind_some, Fsm.select]
  have rows : fsm.rows (fsm.state (self.abandonEndpoint endpoint).1) .abandonEndpoint =
      [go (some .connecting) .abandonEndpoint .isFatalError .completeConnect .disconnected,
        stay (some .connecting) .abandonEndpoint .otherwise .retryConnect] :=
    (congrArg (fsm.rows · .abandonEndpoint) state).trans rfl
  rw [rows, find?_cons_of_neg]
  · rfl
  · exact Bool.not_eq_true _ ▸ harmless

end

/-! ## Network changes -/

lemma prepare_networkChange {state : VpnNetworkState} (changed : occ.event = .networkChange state) :
    self.prepare occ =
      ({ self.call .onNetworkChange with networkChangedBeforeRecovery := true },
        some (.networkChange, .network state)) := by
  unfold prepare
  rw [changed]

/-- A retry of a session without a network: the network is back, the session was not connected
before, and does not lack attempts. -/
lemma Retry.networkBack (retry : Retry self occ row) (waiting : self.state = .waitingForNetwork) :
    occ.event = .networkChange .connected ∧ self.connectedOnce = false ∧
      self.noConnectAttempts = false := by
  have changes : row.event = .networkChange := by
    rcases retry.place with ⟨connecting, -⟩ | ⟨-, changes⟩
    · cases waiting.symm.trans connecting
    · exact changes
  have tells := self.mem_tells retry.told
  rw [changes] at tells
  obtain ⟨here, never, attempts⟩ := retry.not_holds_network waiting changes
  cases kind : occ.event with
  | networkChange state =>
    have told := retry.told
    rw [prepare_networkChange kind] at never attempts told
    obtain ⟨-, network⟩ := Prod.mk.inj (Option.some.inj told)
    rw [← network] at here
    cases state with
    | notConnected => cases here
    | connected => exact ⟨rfl, never, attempts⟩
  | _ =>
    rw [kind] at tells
    simp [Event.tells] at tells

/-- A network that comes back makes a session retry that falls into recovery. -/
lemma runsRetry_of_network (back : occ.event = .networkChange .connected)
    (waiting : self.state = .waitingForNetwork) (never : self.connectedOnce = false)
    (recovery : self.connectRetryInfo = .fallIntoRecovery) : self.RunsRetry occ := by
  refine ⟨go (some .waitingForNetwork) .networkChange .otherwise .retryConnect .connecting, ?_, rfl⟩
  rw [taken, prepare_networkChange back, Option.bind_some]
  have rows : fsm.rows self.state .networkChange =
      [stay (some .waitingForNetwork) .networkChange .networkLost .doNothing,
        go (some .waitingForNetwork) .networkChange .connectedOnce .prepareForRecoveryNc
          .waitingRecovery,
        go (some .waitingForNetwork) .networkChange .noConnectAttempts .failConnectWithNoAttempts
          .disconnected,
        go (some .waitingForNetwork) .networkChange .otherwise .retryConnect .connecting] := by
    rw [waiting]
    rfl
  have attempts : self.noConnectAttempts = false := by
    rw [noConnectAttempts, recovery]
    rfl
  refine (congrArg _ rows).trans ?_
  rw [find?_cons_of_neg, find?_cons_of_neg, find?_cons_of_neg]
  · rfl
  · exact Bool.not_eq_true _ ▸ attempts
  · exact Bool.not_eq_true _ ▸ never
  · exact Bool.false_ne_true

/-- Retries are allowed exactly when the attempts are known where the table does not check
them. -/
lemma retryAllowed_iff (self : Vpn) (occ : Occurrence) :
    self.RetryAllowed occ ↔ self.AttemptsKnown occ := by
  constructor
  · intro allowed
    unfold AttemptsKnown
    split
    · rename_i endpoint abandoned
      intro connecting selected left
      exact allowed (runsRetry_of_abandoned abandoned connecting selected left)
    · rename_i back
      intro waiting never recovery
      have attempts := allowed (runsRetry_of_network back waiting never recovery)
      rw [recovery] at attempts
      exact attempts
    · trivial
  · intro known runs
    unfold AttemptsKnown at known
    obtain ⟨row, taken, retries⟩ := runs
    have retry := retry_of_taken taken retries
    rcases retry.place with ⟨connecting, events⟩ | ⟨waiting, -⟩
    · by_cases abandons : row.event = .abandonEndpoint
      · have tells := self.mem_tells retry.told
        rw [abandons] at tells
        cases kind : occ.event with
        | abandonEndpoint =>
          rw [kind] at known
          obtain ⟨selected, left⟩ := retry.abandoned kind connecting
          exact known connecting selected left
        | _ =>
          rw [kind] at tells
          simp [Event.tells] at tells
      · apply retry.hasAttempts connecting
        simp only [mem_cons, not_mem_nil, or_false] at events ⊢
        tauto
    · obtain ⟨back, never, attempts⟩ := retry.networkBack waiting
      rw [back] at known
      apply hasAttempts_of_conditions attempts
      rw [fallIntoRecovery, beq_eq_false_iff_ne]
      exact known waiting never

/-! ## The number of retries -/

def Occurrence.IsConnect (self : Occurrence) : Prop :=
  ∃ policy cfg, self.event = .connect policy cfg

/-- The number of times `retry_connect` runs. -/
def retries : Vpn → List Occurrence → Nat
  | _, [] => 0
  | self, occ :: occs => (if self.RunsRetry occ then 1 else 0) + retries (self.next occ) occs

/-- How many attempts are left. -/
def attemptsLeft (self : Vpn) : Nat :=
  match self.connectRetryInfo with
  | .severalAttempts attemptsLeft => attemptsLeft.toNat
  | .fallIntoRecovery => 0

lemma connectRetryInfo_prepare (other : ¬occ.IsConnect) (session : Session) :
    (session.prepare occ.event).connectRetryInfo = session.connectRetryInfo := by
  cases kind : occ.event with
  | connect policy cfg => exact absurd ⟨policy, cfg, kind⟩ other
  | postponementTimer =>
    rw [Session.prepare]
    split
    · rfl
    · rfl
  | _ => rfl

variable (self) in
lemma connectRetryInfo_next (other : ¬occ.IsConnect) :
    (self.next occ).connectRetryInfo =
      if self.RunsRetry occ then Session.spendAttempt self.connectRetryInfo
      else self.connectRetryInfo := by
  have same := connectRetryInfo_prepare other self.session
  cases taken : self.taken occ with
  | none =>
    have quiet : ¬self.RunsRetry occ := by
      rintro ⟨row, some, -⟩
      cases taken.symm.trans some
    rw [if_neg quiet]
    exact (congrArg _ (session_next_of_none taken)).trans same
  | some row =>
    obtain ⟨timer, -, moved⟩ := session_next_of_some taken
    have info := congrArg Session.connectRetryInfo moved
    have runs : self.RunsRetry occ ↔ row.before = .retryConnect := by
      simp [RunsRetry, taken]
    rw [Session.moveTo, Session.connectRetryInfo_act, same] at info
    rw [if_congr runs rfl rfl]
    exact info

lemma not_runsRetry_of_connect (connects : occ.IsConnect) : ¬self.RunsRetry occ := by
  obtain ⟨policy, cfg, kind⟩ := connects
  rintro ⟨row, taken, retries⟩
  have retry := retry_of_taken taken retries
  have tells := self.mem_tells retry.told
  rw [kind, Event.tells, mem_singleton] at tells
  have place := retry.place
  rw [tells] at place
  rcases place with ⟨-, events⟩ | ⟨-, same⟩
  · exact absurd events (by decide)
  · cases same

lemma connectRetryInfo_next_connect {policy : RetryPolicy} {cfg : UpstreamConfig}
    (connects : occ.event = .connect policy cfg) :
    (self.next occ).connectRetryInfo = policy.retryInfo := by
  have set : (self.session.prepare occ.event).connectRetryInfo = policy.retryInfo := by
    rw [connects]
    rfl
  cases taken : self.taken occ with
  | none => exact (congrArg _ (session_next_of_none taken)).trans set
  | some row =>
    obtain ⟨timer, -, moved⟩ := session_next_of_some taken
    have quiet : row.before ≠ .retryConnect := fun retries =>
      not_runsRetry_of_connect ⟨policy, cfg, connects⟩ ⟨row, taken, retries⟩
    have info := congrArg Session.connectRetryInfo moved
    rw [Session.moveTo, Session.connectRetryInfo_act, if_neg quiet, set] at info
    exact info

/-- A connect has at least one attempt, which it begins with. -/
lemma attemptsOf_sub_one_le (attemptsNum : Int32) :
    (attemptsOf attemptsNum - 1).toNat ≤ (attemptsOf attemptsNum).toNat := by
  have positive : 1 ≤ attemptsOf attemptsNum := by
    rw [attemptsOf]
    split
    · decide
    · rename_i more
      have above : 0 < attemptsNum.toInt := Int32.lt_iff_toInt_lt.mp (Int32.not_le.mp more)
      have below := attemptsNum.toInt_lt
      have one : (1 : UInt64).toNat = 1 := rfl
      rw [UInt64.le_iff_toNat_le, UInt64.toNat_ofNat']
      omega
  rw [UInt64.toNat_sub_of_le _ _ positive]
  exact Nat.sub_le _ _

lemma attempts_spendAttempt {vpn : Vpn} (attempts : self.connectRetryInfo.HasAttempts)
    (spent : vpn.connectRetryInfo = Session.spendAttempt self.connectRetryInfo) :
    vpn.attemptsLeft + 1 = self.attemptsLeft := by
  rw [attemptsLeft, attemptsLeft, spent]
  cases info : self.connectRetryInfo with
  | severalAttempts left =>
    rw [info] at attempts
    have positive : 1 ≤ left.toNat := UInt64.lt_iff_toNat_lt.mp attempts
    have enough : (1 : UInt64) ≤ left := UInt64.le_iff_toNat_le.mpr positive
    simp only [Session.spendAttempt]
    rw [UInt64.toNat_sub_of_le _ _ enough]
    exact Nat.sub_add_cancel positive
  | fallIntoRecovery =>
    rw [info] at attempts
    exact attempts.elim

/-- The attempts do not become more by anything but a connect. -/
def OnlySpends (self : Vpn) (occ : Occurrence) : Prop :=
  ¬occ.IsConnect → (self.next occ).attemptsLeft ≤ self.attemptsLeft

lemma onlySpends_of_allowed (allowed : self.RetryAllowed occ) : self.OnlySpends occ := by
  intro other
  have info := self.connectRetryInfo_next other
  split at info
  · rename_i runs
    have spent := attempts_spendAttempt (allowed runs) info
    omega
  · rw [attemptsLeft, attemptsLeft, info]

/-- Without another connect there are no more retries than attempts left. -/
lemma retries_le {occs : List Occurrence} (allowed : EachStep next RetryAllowed self occs)
    (others : ∀ occ ∈ occs, ¬occ.IsConnect) : self.retries occs ≤ self.attemptsLeft := by
  induction occs generalizing self with
  | nil => exact Nat.zero_le _
  | cons occ _ ih =>
    rw [forall_mem_cons] at others
    have rest := ih allowed.2 others.2
    have info := self.connectRetryInfo_next others.1
    rw [retries]
    by_cases runs : self.RunsRetry occ
    · rw [if_pos runs] at info ⊢
      have spent := attempts_spendAttempt (allowed.1 runs) info
      omega
    · rw [if_neg runs] at info ⊢
      have same : (self.next occ).attemptsLeft = self.attemptsLeft := by
        rw [attemptsLeft, attemptsLeft, info]
      omega

/-- Retries are bounded along a run: they happen only with an attempt left, the attempts never
wrap around, and behind a connect with a number of attempts there are no more retries than
that, until the next connect. -/
structure BoundedRetries (start : Vpn) (occs : List Occurrence) : Prop where
  allowed : EachStep next RetryAllowed start occs
  spends : EachStep next OnlySpends start occs
  bounded : ∀ {front back : List Occurrence} {connect : Occurrence} {attemptsNum : Int32}
    {cfg : UpstreamConfig}, occs = front ++ connect :: back →
    connect.event = .connect (.severalAttempts attemptsNum) cfg →
    (∀ occ ∈ back, ¬occ.IsConnect) →
    retries ((front.foldl next start).next connect) back ≤ (attemptsOf attemptsNum).toNat

/-- Along a run of any session the retries are bounded exactly when the attempts are known
where the table does not check them. -/
theorem boundedRetries_iff (start : Vpn) (occs : List Occurrence) :
    BoundedRetries start occs ↔ EachStep next AttemptsKnown start occs := by
  rw [← eachStep_congr retryAllowed_iff]
  constructor
  · intro bounded
    exact bounded.allowed
  · intro allowed
    refine ⟨allowed, allowed.imp fun _ _ => onlySpends_of_allowed, ?_⟩
    · rintro front back connect attemptsNum cfg rfl connects others
      rw [eachStep_append] at allowed
      have rest := retries_le allowed.2.2 others
      have left : ((front.foldl next start).next connect).attemptsLeft =
          (attemptsOf attemptsNum - 1).toNat := by
        rw [attemptsLeft, connectRetryInfo_next_connect connects]
        rfl
      exact (rest.trans left.le).trans (attemptsOf_sub_one_le _)

/-- An event at time 1, at which the client starts without an error. -/
def Event.plain (event : Event) : Occurrence := ⟨event, 1, noError, false⟩

def firstEndpoint : VpnEndpoint := ⟨"one", some ⟨.v4 (.new 192 0 2 1), 443⟩, none⟩

def secondEndpoint : VpnEndpoint := ⟨"two", some ⟨.v4 (.new 192 0 2 2), 443⟩, none⟩

def twoEndpoints : UpstreamConfig := ⟨[firstEndpoint, secondEndpoint], 10000, 30, 10000, id⟩

/-- The only attempt ends with the abandonment of its endpoint. -/
def abandonedRun : List Occurrence :=
  [Event.connect (.severalAttempts 1) twoEndpoints, .pinged (some firstEndpoint),
    .abandonEndpoint firstEndpoint].map Event.plain

/-- A session that is to fall into recovery is without a network while it is connecting. -/
def interruptedRun : List Occurrence :=
  [Event.connect .fallIntoRecovery twoEndpoints, .networkChange .notConnected,
    .networkChange .connected].map Event.plain

/-- In the first run the number of attempts wraps around, in the second one the session
retries although it has no attempts at all. -/
theorem not_boundedRetries_runs :
    (¬BoundedRetries (new false (.severalAttempts 5)) abandonedRun ∧
      (abandonedRun.foldl next (new false (.severalAttempts 5))).connectRetryInfo =
        .severalAttempts 18446744073709551615) ∧
      ¬BoundedRetries (new false (.severalAttempts 5)) interruptedRun := by
  refine ⟨⟨fun bounded => ?_, by decide +kernel⟩, fun bounded => ?_⟩
  · exact absurd bounded.allowed (by decide +kernel)
  · exact absurd bounded.allowed (by decide +kernel)

end Vpn

end TrustTunnel.Client
