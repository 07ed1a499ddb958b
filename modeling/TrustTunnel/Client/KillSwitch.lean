import Mathlib.Data.List.Forall2
import Mathlib.Data.List.Perm.Subperm
import TrustTunnel.Client.ConnectAttempts

/-!
# Postponed requests

Requests that are made while a session recovers are postponed for a while, and then sent
outside of the tunnel. Nothing of a recovery is to be left when a session is connected. A
session that was recovering can begin to connect anew, and it then takes the timer and the
requests along.
-/

namespace TrustTunnel.Client

open Transition List

namespace Session

/-- Nothing is left of a recovery. -/
structure Clean (session : Session) : Prop where
  timer : session.timer = false
  postponed : session.postponed = []
  bypassed : session.bypassed = []

variable {session : Session} {action : Vpn.Action} {data : Data} {timer : Bool}

lemma clean_finalizeRecovery (session : Session) : session.finalizeRecovery.Clean := ⟨rfl, rfl, rfl⟩

lemma Clean.withRequest (clean : session.Clean) {action : Session → ConnectRequestResult → Session}
    (keeps : ∀ req, (action session req).Clean) : (session.withRequest data action).Clean := by
  cases data with
  | request req => exact keeps req
  | null | error | network => exact clean

/-- The actions that start the timer or add to a list. -/
def leaves : List Vpn.Action :=
  [.prepareForRecovery, .prepareForRecoveryNc, .postponeRequest, .bypassUntilConnected]

lemma Clean.act (clean : session.Clean) (quiet : action ∉ leaves) :
    (Session.act action data timer session).Clean := by
  have handed : ∀ calls, Clean { session with handovers := calls } := fun _ =>
    ⟨clean.timer, clean.postponed, clean.bypassed⟩
  cases action with
  | prepareForRecovery | prepareForRecoveryNc | postponeRequest
  | bypassUntilConnected => exact absurd (by decide) quiet
  | retryConnect => exact ⟨clean.timer, clean.postponed, clean.bypassed⟩
  | finalizeRecovery => exact session.clean_finalizeRecovery
  | completeRequest | rejectRequest => exact clean.withRequest fun _ => handed _
  | _ => exact clean

lemma Clean.moveTo (clean : session.Clean) (target : Option SessionState) :
    (session.moveTo target).Clean :=
  ⟨clean.timer, clean.postponed, clean.bypassed⟩

end Session

namespace Vpn

variable {self : Vpn} {occ : Occurrence} {row : Row}

/-- A session begins to connect with nothing left of a recovery: after a connect, or when the
network is back before the first connection. -/
def BeginsClean (self : Vpn) (occ : Occurrence) : Prop :=
  match occ.event with
  | .connect _ _ => self.state = .disconnected → self.session.Clean
  | .networkChange .connected =>
    self.state = .waitingForNetwork → self.connectedOnce = false →
      self.connectRetryInfo ≠ .severalAttempts 0 → self.session.Clean
  | _ => True

/-- A session that is connecting or connected has nothing left of a recovery. -/
def CleanInTunnel (self : Vpn) : Prop :=
  self.state = .connecting ∨ self.state = .connected → self.session.Clean

/-- An event leaves a clean session clean until the machine is told. -/
lemma clean_prepare (clean : self.session.Clean) : (self.session.prepare occ.event).Clean := by
  cases kind : occ.event with
  | connect => exact ⟨clean.timer, clean.postponed, clean.bypassed⟩
  | postponementTimer =>
    rw [Session.prepare, clean.timer]
    exact clean
  | stop => exact ⟨rfl, rfl, rfl⟩
  | _ => exact clean

/-- The rows that stay in their state, or go to connecting or connected, do not prepare for
recovery. -/
lemma rows_into_tunnel : ∀ row ∈ transitionTable,
    row.target ∈ [none, some .connecting, some .connected] →
      row.before ≠ .prepareForRecovery ∧ row.before ≠ .prepareForRecoveryNc := by
  decide

lemma rows_to_connected : ∀ row ∈ transitionTable, row.target = some .connected →
    row.source = some .connecting ∨ row.before = .finalizeRecovery := by
  decide

lemma rows_to_connecting : ∀ row ∈ transitionTable, row.target = some .connecting →
    row.source = some .disconnected ∧ row.event = .doConnect ∨
      row.source = some .waitingForNetwork ∧ row.before = .retryConnect := by
  decide

/-- Requests are postponed and bypassed by rows of their own event, in any state. -/
lemma rows_of_requests : ∀ row ∈ transitionTable,
    row.before ∈ [.postponeRequest, .bypassUntilConnected] →
      row.event = .completeRequest ∧ row.target = none := by
  decide

/-- A request is what the machine is told to complete. -/
lemma Taken.exists_request (taken : Taken self occ row) (completes : row.event = .completeRequest) :
    ∃ req, occ.event = .completeRequest req ∧ (self.prepare occ).1 = self ∧
      self.data occ = .request req := by
  have tells := self.mem_tells taken.told
  rw [completes] at tells
  cases kind : occ.event with
  | completeRequest req =>
    have prepared : self.prepare occ = (self, some (.completeRequest, .request req)) := by
      unfold prepare
      rw [kind]
    refine ⟨req, rfl, congrArg _ prepared, ?_⟩
    rw [data, prepared]
    rfl
  | _ =>
    rw [kind] at tells
    simp [Event.tells] at tells

/-- The rows for a request are the same in every state. -/
lemma rows_completeRequest {event : ConnectEvent} (completes : event = .completeRequest)
    (state : SessionState) :
    fsm.rows state event =
      [stay none .completeRequest .canComplete .completeRequest,
        stay none .completeRequest .shouldPostpone .postponeRequest,
        stay none .completeRequest .isKillSwitchOn .rejectRequest,
        stay none .completeRequest .otherwise .bypassUntilConnected] := by
  subst completes
  cases state <;> rfl

/-- A request is completed at once while the session is connecting or connected. -/
lemma Taken.not_postponed (taken : Taken self occ row)
    (tunnel : self.state = .connecting ∨ self.state = .connected) :
    row.before ∉ [Action.postponeRequest, .bypassUntilConnected] := by
  intro later
  obtain ⟨completes, -⟩ := rows_of_requests row taken.listed later
  obtain ⟨req, -, same, data⟩ := taken.exists_request completes
  have rows : fsm.rows (fsm.state (self.prepare occ).1) row.event =
      [stay none .completeRequest .canComplete .completeRequest] ++ _ :=
    rows_completeRequest completes _
  have waits := Fsm.not_holds_of_select taken.selected rows (by
    rw [mem_singleton]
    rintro rfl
    exact absurd later (by decide)) _ mem_cons_self
  rw [same, data] at waits
  have completable : self.canComplete (occ.input (.request req)) = true := by
    rcases tunnel with state | state
    · simp [canComplete, Occurrence.input, state]
    · simp [canComplete, Occurrence.input, state]
  cases completable.symm.trans waits

lemma clean_of_connecting (selected : self.taken occ = some row)
    (begins : self.BeginsClean occ) (target : row.target = some .connecting) :
    self.session.Clean := by
  have taken := taken_of_eq selected
  unfold BeginsClean at begins
  rcases rows_to_connecting row taken.listed target with ⟨source, connects⟩ | ⟨source, retries⟩
  · have tells := self.mem_tells taken.told
    rw [connects] at tells
    cases kind : occ.event with
    | connect =>
      rw [kind] at begins
      exact begins (taken.state_eq source)
    | _ =>
      rw [kind] at tells
      simp [Event.tells] at tells
  · have waiting := taken.state_eq source
    obtain ⟨back, never, attempts⟩ := (retry_of_taken selected retries).networkBack waiting
    rw [back] at begins
    rw [noConnectAttempts, beq_eq_false_iff_ne] at attempts
    exact begins waiting never attempts

/-- A row that leads into the tunnel leaves a session clean. -/
lemma clean_of_taken (clean : self.CleanInTunnel) (begins : self.BeginsClean occ)
    (selected : self.taken occ = some row)
    (tunnel : row.target.getD self.state = .connecting ∨ row.target.getD self.state = .connected)
    (timer : Bool) :
    (Session.act row.before (self.data occ) timer (self.session.prepare occ.event)).Clean := by
  have taken := taken_of_eq selected
  have keeps (before : self.session.Clean)
      (target : row.target ∈ [none, some .connecting, some .connected])
      (reqs : row.before ∉ [Action.postponeRequest, .bypassUntilConnected]) :
      (Session.act row.before (self.data occ) timer (self.session.prepare occ.event)).Clean := by
    obtain ⟨recovery, recoveryNc⟩ := rows_into_tunnel row taken.listed target
    refine (clean_prepare before).act fun leaves => ?_
    simp only [Session.leaves, mem_cons, not_mem_nil, or_false] at leaves reqs
    tauto
  cases target : row.target with
  | none =>
    rw [target] at tunnel
    exact keeps (clean tunnel) (by rw [target]; decide) (taken.not_postponed tunnel)
  | some =>
    have reqs : row.before ∉ [Action.postponeRequest, .bypassUntilConnected] := by
      intro later
      cases target.symm.trans (rows_of_requests row taken.listed later).2
    rw [target] at tunnel
    rcases tunnel with rfl | rfl
    · exact keeps (clean_of_connecting selected begins target) (by rw [target]; decide) reqs
    · rcases rows_to_connected row taken.listed target with source | finalizes
      · exact keeps (clean (.inl (taken.state_eq source))) (by rw [target]; decide) reqs
      · rw [finalizes]
        exact Session.clean_finalizeRecovery _

/-- One event keeps a session clean in the tunnel if it begins so. -/
lemma cleanInTunnel_next (clean : self.CleanInTunnel) (begins : self.BeginsClean occ) :
    (self.next occ).CleanInTunnel := by
  intro tunnel
  cases selected : self.taken occ with
  | none =>
    have same := session_next_of_none selected
    have runs : (self.session.prepare occ.event).state ≠ .disconnected := by
      rw [← same]
      intro idle
      rcases tunnel with state | state
      · cases idle.symm.trans state
      · cases idle.symm.trans state
    have state : (self.next occ).state = self.state :=
      (congrArg _ same).trans (self.session.state_prepare runs)
    rw [state] at tunnel
    rw [same]
    exact clean_prepare (clean tunnel)
  | some =>
    obtain ⟨timer, -, moved⟩ := session_next_of_some selected
    rw [moved]
    rw [state_next_of_some selected] at tunnel
    exact (clean_of_taken clean begins selected tunnel timer).moveTo _

/-! ## What the timer sends outside of the tunnel -/

/-- The request of an event. -/
def Event.request? : Event → Option ConnectRequestResult
  | .completeRequest req => some req
  | _ => none

/-- The requests made in a run. -/
def submitted (occs : List Occurrence) : List ConnectRequestResult :=
  occs.filterMap fun occ => occ.event.request?

lemma submitted_cons (occ : Occurrence) (occs : List Occurrence) :
    submitted (occ :: occs) = occ.event.request?.toList ++ submitted occs := by
  rw [submitted, filterMap_cons]
  cases occ.event.request? with
  | none | some => rfl

/-- The requests that an event makes the timer bypass. -/
def timerBypass (self : Vpn) (occ : Occurrence) : List ConnectRequestResult :=
  match occ.event with
  | .postponementTimer =>
    if self.postponementWindowTimer && !self.killSwitchOn then self.postponedRequests else []
  | _ => []

/-- What the timer bypasses is what the event adds to the calls. -/
lemma calls_postponementTimer (self : Vpn) {occ : Occurrence}
    (kind : occ.event = .postponementTimer) (off : self.killSwitchOn = false) :
    (self.next occ).calls = self.calls ++ (self.timerBypass occ).map fun req =>
      .completeConnectRequest req.id (some .forceBypass) := by
  cases armed : self.postponementWindowTimer with
  | false | true => simp [next, prepare, timerBypass, kind, off, armed, postponementWindowTimerCb]

/-- The requests that the timer bypasses in a run. -/
def timerBypasses : Vpn → List Occurrence → List ConnectRequestResult
  | _, [] => []
  | self, occ :: occs => self.timerBypass occ ++ timerBypasses (self.next occ) occs

/-- The request of an event, as the machine is told it. -/
def dataRequest? : Data → Option ConnectRequestResult
  | .request req => some req
  | _ => none

lemma dataRequest?_data (self : Vpn) (occ : Occurrence) :
    dataRequest? (self.data occ) = occ.event.request? := by
  unfold data prepare
  cases occ.event with
  | pinged result =>
    unfold pingerHandler
    cases result with
    | none => rfl
    | some =>
      simp only
      split
      · rfl
      · rfl
  | clientDisconnected error =>
    cases error with
    | none | some => rfl
  | abandonEndpoint =>
    simp only
    split
    · rfl
    · rfl
  | _ => rfl

/-- An action adds the request it comes with to the postponed ones, or none. -/
lemma postponed_act_sublist (action : Action) (data : Data) (timer : Bool) (session : Session) :
    (Session.act action data timer session).postponed.Sublist
      (session.postponed ++ (dataRequest? data).toList) := by
  have same : session.postponed.Sublist (session.postponed ++ (dataRequest? data).toList) :=
    sublist_append_left _ _
  have kept {action : Session → ConnectRequestResult → Session}
      (keeps : ∀ req, (action session req).postponed = session.postponed) :
      (session.withRequest data action).postponed.Sublist
        (session.postponed ++ (dataRequest? data).toList) := by
    rw [Session.withRequest_field Session.postponed keeps]
    exact same
  cases action with
  | finalizeRecovery => exact nil_sublist _
  | postponeRequest =>
    cases data with
    | request => exact List.Sublist.refl _
    | null | error | network => exact same
  | completeRequest | rejectRequest | bypassUntilConnected => exact kept fun _ => rfl
  | _ => exact same

/-- What one event bypasses and postpones was postponed before, or is its request. -/
lemma postponed_next_sublist (self : Vpn) (occ : Occurrence) :
    (self.timerBypass occ ++ (self.next occ).postponedRequests).Sublist
      (self.postponedRequests ++ occ.event.request?.toList) := by
  cases selected : self.taken occ with
  | none =>
    have same : (self.next occ).postponedRequests = _ :=
      congrArg Session.postponed (session_next_of_none selected)
    rw [same]
    unfold timerBypass
    cases kind : occ.event with
    | postponementTimer =>
      cases armed : self.postponementWindowTimer with
      | false => simp [Session.prepare, session, armed]
      | true =>
        cases self.killSwitchOn with
        | false | true => simp [Session.prepare, Session.expire, session, armed]
    | stop => exact nil_sublist _
    | _ => exact sublist_append_left _ _
  | some =>
    obtain ⟨timer, -, moved⟩ := session_next_of_some selected
    have after : (self.next occ).postponedRequests = _ := congrArg Session.postponed moved
    have tells := self.mem_tells (taken_of_eq selected).told
    have quiet : self.timerBypass occ = [] ∧
        (self.session.prepare occ.event).postponed = self.postponedRequests := by
      unfold timerBypass
      cases kind : occ.event with
      | postponementTimer | stop =>
        rw [kind] at tells
        cases tells
      | _ => exact ⟨rfl, rfl⟩
    rw [quiet.1, after, ← quiet.2, ← self.dataRequest?_data _]
    exact postponed_act_sublist _ _ _ _

/-- The timer bypasses only what was postponed before and what is submitted in the run, and
nothing twice. -/
lemma timerBypasses_sublist (self : Vpn) (occs : List Occurrence) :
    (self.timerBypasses occs).Sublist (self.postponedRequests ++ submitted occs) := by
  induction occs generalizing self with
  | nil => exact nil_sublist _
  | cons occ _ ih =>
    have first := self.postponed_next_sublist occ
    have rest := ih (self.next occ)
    rw [submitted_cons, ← append_assoc]
    refine ((List.Sublist.refl _).append rest).trans ?_
    rw [← append_assoc]
    exact first.append (List.Sublist.refl _)

/-- The timer bypasses requests in the order in which they were made, and none twice. -/
theorem timerBypasses_new (killSwitchOn : Bool) (retryInfo : ConnectRetryInfo)
    (occs : List Occurrence) :
    ((new killSwitchOn retryInfo).timerBypasses occs).Sublist (submitted occs) :=
  timerBypasses_sublist _ occs

/-- In a run nothing is left of a recovery while the session is connected; no request made
before that is sent outside of the tunnel by the timer afterwards. -/
structure NoLateBypass (start : Vpn) (occs : List Occurrence) : Prop where
  clean : Always next (fun vpn => vpn.state = .connected → vpn.session.Clean) start occs
  bypasses : ∀ {front back : List Occurrence}, occs = front ++ back →
    (front.foldl next start).state = .connected →
    (timerBypasses (front.foldl next start) back).Sublist (submitted back)

/-- If a session always begins to connect with nothing left of a recovery, nothing is left of
one while it is connected. -/
theorem noLateBypass_of_beginsClean (killSwitchOn : Bool) (retryInfo : ConnectRetryInfo)
    (occs : List Occurrence)
    (begins : EachStep next BeginsClean (new killSwitchOn retryInfo) occs) :
    NoLateBypass (new killSwitchOn retryInfo) occs := by
  have start : (new killSwitchOn retryInfo).CleanInTunnel := fun _ => ⟨rfl, rfl, rfl⟩
  constructor
  · exact Always.of_invariant _ cleanInTunnel_next
      (fun clean connected => clean (.inr connected)) start begins
  · rintro front back rfl connected
    have always := Always.of_invariant _ cleanInTunnel_next id start (eachStep_append.mp begins).1
    have nothing : (front.foldl next (new killSwitchOn retryInfo)).postponedRequests = [] :=
      (always.last (.inr connected)).postponed
    have bypasses := timerBypasses_sublist (front.foldl next (new killSwitchOn retryInfo)) back
    rw [nothing] at bypasses
    exact bypasses

def webRequest : ConnectRequestResult := ⟨7, some .default, "browser", 1000⟩

/-- The network changes while the session is connected; a request is postponed until the
session is connected again. -/
def recoveredRun : List Occurrence :=
  [Event.connect (.severalAttempts 5) twoEndpoints, .pinged (some firstEndpoint),
    .clientConnected, .networkChange .connected, .completeRequest webRequest, .recoveryDue,
    .pinged (some firstEndpoint), .clientConnected].map Event.plain

theorem noLateBypass_recoveredRun :
    EachStep next BeginsClean (new false (.severalAttempts 5)) recoveredRun ∧
      NoLateBypass (new false (.severalAttempts 5)) recoveredRun := by
  have begins : EachStep next BeginsClean (new false (.severalAttempts 5)) recoveredRun :=
    ⟨fun _ => ⟨rfl, rfl, rfl⟩, trivial, trivial,
      fun waiting => absurd waiting (by decide +kernel), trivial, trivial, trivial, trivial,
      trivial⟩
  exact ⟨begins, noLateBypass_of_beginsClean _ _ _ begins⟩

/-- The client fails to start, and the network is lost before the session learns of it: it
recovers without ever having been connected. The network comes and goes, and the session
connects from the beginning. -/
def leftoverRun : List Occurrence :=
  [Event.plain (.connect (.severalAttempts 5) twoEndpoints),
    ⟨.pinged (some firstEndpoint), 1, ⟨.error, "Failed to start"⟩, false⟩] ++
  [Event.networkChange .notConnected, .connectFailed, .completeRequest webRequest,
    .networkChange .notConnected, .networkChange .connected, .retryConnect,
    .pinged (some firstEndpoint), .clientConnected, .postponementTimer].map Event.plain

/-- The timer then sends a request outside of the tunnel although the session is connected. -/
theorem not_noLateBypass_leftoverRun :
    ¬NoLateBypass (new false (.severalAttempts 5)) leftoverRun ∧
      (leftoverRun.foldl next (new false (.severalAttempts 5))).state = .connected ∧
      (leftoverRun.foldl next (new false (.severalAttempts 5))).calls.getLast? =
        some (.completeConnectRequest webRequest.id (some .forceBypass)) := by
  refine ⟨fun late => ?_, by decide +kernel, by decide +kernel⟩
  have reaches : (leftoverRun.dropLast.foldl next (new false (.severalAttempts 5))).state =
      .connected := by decide +kernel
  have expires : leftoverRun = leftoverRun.dropLast ++ [Event.plain .postponementTimer] := rfl
  exact absurd (late.bypasses expires reaches) (by decide +kernel)

end Vpn

/-!
## The kill switch

With the kill switch on a session sends nothing outside of the tunnel on its own. Every
request that it hands to the client is one that was made, no request is handed over twice, and
it is completed with its own action or rejected.
-/

variable {call : Call}

namespace Call

/-- A call completes a request with its own action, or rejects it. -/
def Settles (call : Call) (req : ConnectRequestResult) : Prop :=
  call = .completeConnectRequest req.id req.action ∨ call = .rejectConnectRequest req.id

/-- A call hands a request with an id to the client. -/
def hands (id : UInt64) : Call → Bool
  | completeConnectRequest other _ => other = id
  | rejectConnectRequest other => other = id
  | _ => false

variable {id : UInt64}

lemma isHandover_of_hands (hands : call.hands id = true) : call.isHandover = true := by
  cases call with
  | completeConnectRequest | rejectConnectRequest => rfl
  | _ => cases hands

lemma Settles.hands {req : ConnectRequestResult} (settles : call.Settles req)
    (hands : call.hands id = true) : req.id = id := by
  rcases settles with rfl | rfl
  · exact of_decide_eq_true hands
  · exact of_decide_eq_true hands

end Call

/-! ## Requests that are accounted for -/

/-- Each call settles a request of its own; together with the postponed requests they are
among those that were made. -/
def Accounted (handovers : List Call) (postponed made : List ConnectRequestResult) : Prop :=
  ∃ handed, List.Forall₂ Call.Settles handovers handed ∧ (handed ++ postponed).Subperm made

variable {called : Call → Bool}

namespace Accounted

variable {handovers : List Call} {postponed made : List ConnectRequestResult}
  {req : ConnectRequestResult}

section

variable (accounted : Accounted handovers postponed made)

include accounted

lemma more (reqs : List ConnectRequestResult) : Accounted handovers postponed (made ++ reqs) := by
  obtain ⟨handed, settled, among⟩ := accounted
  exact ⟨handed, settled, among.trans (sublist_append_left made _).subperm⟩

lemma drop : Accounted handovers [] made := by
  obtain ⟨handed, settled, among⟩ := accounted
  refine ⟨handed, settled, List.Subperm.trans ?_ among⟩
  rw [append_nil]
  exact (sublist_append_left handed _).subperm

lemma postpone : Accounted handovers (postponed ++ [req]) (made ++ [req]) := by
  obtain ⟨handed, settled, among⟩ := accounted
  refine ⟨handed, settled, ?_⟩
  rw [← append_assoc]
  exact (subperm_append_right [req]).mpr among

lemma hand (settles : call.Settles req) :
    Accounted (handovers ++ [call]) postponed (made ++ [req]) := by
  obtain ⟨handed, settled, among⟩ := accounted
  refine ⟨handed ++ [req], rel_append settled (.cons settles .nil), ?_⟩
  rw [append_assoc]
  have swapped : (handed ++ ([req] ++ postponed)).Perm (handed ++ postponed ++ [req]) := by
    rw [append_assoc]
    exact (perm_append_comm).append_left handed
  exact swapped.subperm.trans ((subperm_append_right [req]).mpr among)

lemma handAll {call : ConnectRequestResult → Call} (settles : ∀ req, (call req).Settles req) :
    Accounted (handovers ++ postponed.map call) [] made := by
  obtain ⟨handed, settled, among⟩ := accounted
  refine ⟨handed ++ postponed, rel_append settled ?_, ?_⟩
  · exact List.forall₂_map_left_iff.mpr (List.forall₂_same.mpr fun req _ => settles req)
  · rw [append_nil]
    exact among

end

section

variable {asked : ConnectRequestResult → Bool}
  (asks : ∀ {call req}, call.Settles req → called call = true → asked req = true)

include asks

lemma countP_le_of_settled {handed : List ConnectRequestResult}
    (settled : List.Forall₂ Call.Settles handovers handed) :
    handovers.countP called ≤ handed.countP asked := by
  induction settled with
  | nil => exact le_refl _
  | @cons call req calls reqs settles rest ih =>
    rw [countP_cons, countP_cons]
    cases kind : called call with
    | true => simpa [asks settles kind] using ih
    | false => exact ih.trans (Nat.le_add_right _ _)

/-- What the calls have in common with the requests they settle is counted in what was made. -/
lemma countP_le (accounted : Accounted handovers postponed made) :
    handovers.countP called ≤ made.countP asked := by
  obtain ⟨handed, settled, among⟩ := accounted
  have front := (sublist_append_left handed _).subperm.trans among
  exact (countP_le_of_settled asks settled).trans (front.countP_le asked)

end

end Accounted

/-! ## One event -/

namespace Session

variable {session : Session} {made : List ConnectRequestResult}

/-- A session with the kill switch on, and all its requests accounted for. -/
structure Sealed (session : Session) (made : List ConnectRequestResult) : Prop where
  killSwitchOn : session.killSwitchOn = true
  accounted : Accounted session.handovers session.postponed made

variable (safe : session.Sealed made)

include safe

lemma Sealed.withRequest (data : Data) {action : Session → ConnectRequestResult → Session}
    (keeps : ∀ req, (action session req).Sealed (made ++ [req])) :
    (session.withRequest data action).Sealed (made ++ (Vpn.dataRequest? data).toList) := by
  cases data with
  | request req => exact keeps req
  | null | error | network => exact ⟨safe.killSwitchOn, safe.accounted.more _⟩

/-- Every action but the bypass keeps a session sealed. -/
lemma Sealed.act {action : Vpn.Action} (quiet : action ≠ .bypassUntilConnected) (data : Data)
    (timer : Bool) :
    (act action data timer session).Sealed (made ++ (Vpn.dataRequest? data).toList) := by
  have on := safe.killSwitchOn
  cases action with
  | finalizeRecovery => exact ⟨on, (safe.accounted.handAll fun _ => .inl rfl).more _⟩
  | completeRequest => exact safe.withRequest data fun _ => ⟨on, safe.accounted.hand (.inl rfl)⟩
  | postponeRequest => exact safe.withRequest data fun _ => ⟨on, safe.accounted.postpone⟩
  | rejectRequest => exact safe.withRequest data fun _ => ⟨on, safe.accounted.hand (.inr rfl)⟩
  | bypassUntilConnected => exact absurd rfl quiet
  | _ => exact ⟨on, safe.accounted.more _⟩

lemma Sealed.expire : session.expire.Sealed made := by
  refine ⟨safe.killSwitchOn, safe.accounted.handAll fun req => ?_⟩
  rw [if_pos safe.killSwitchOn]
  exact .inr rfl

lemma Sealed.prepare (event : Vpn.Event) : (session.prepare event).Sealed made := by
  cases event with
  | postponementTimer =>
    rw [Session.prepare]
    split
    · exact safe.expire
    · exact safe
  | stop => exact ⟨safe.killSwitchOn, safe.accounted.drop⟩
  | connect => exact ⟨safe.killSwitchOn, safe.accounted⟩
  | _ => exact safe

end Session

namespace Vpn

variable {self : Vpn} {occ : Occurrence} {row : Row} {made : List ConnectRequestResult}

/-- With the kill switch on, the row that bypasses a request is behind one that rejects it. -/
lemma Taken.not_bypassed (taken : Taken self occ row) (on : self.killSwitchOn = true) :
    row.before ≠ .bypassUntilConnected := by
  intro bypasses
  obtain ⟨completes, -⟩ := rows_of_requests row taken.listed (by rw [bypasses]; decide)
  obtain ⟨req, -, same, -⟩ := taken.exists_request completes
  have rows : fsm.rows (fsm.state (self.prepare occ).1) row.event =
      [stay none .completeRequest .canComplete .completeRequest,
        stay none .completeRequest .shouldPostpone .postponeRequest,
        stay none .completeRequest .isKillSwitchOn .rejectRequest] ++ _ :=
    rows_completeRequest completes _
  have off := Fsm.not_holds_of_select taken.selected rows (by
    intro front
    have others : ∀ row ∈ [stay none .completeRequest .canComplete .completeRequest,
        stay none .completeRequest .shouldPostpone .postponeRequest,
        stay none .completeRequest .isKillSwitchOn .rejectRequest],
        row.before ≠ .bypassUntilConnected := by decide
    exact others row front bypasses)
    (stay none .completeRequest .isKillSwitchOn .rejectRequest) (by simp)
  rw [same] at off
  cases on.symm.trans off

lemma sealed_next (safe : self.session.Sealed made) (occ : Occurrence) :
    (self.next occ).session.Sealed (made ++ occ.event.request?.toList) := by
  have prepared := safe.prepare occ.event
  cases selected : self.taken occ with
  | none =>
    rw [session_next_of_none selected]
    exact ⟨prepared.killSwitchOn, prepared.accounted.more _⟩
  | some =>
    obtain ⟨timer, -, moved⟩ := session_next_of_some selected
    have quiet := (taken_of_eq selected).not_bypassed safe.killSwitchOn
    have acted := prepared.act quiet (self.data occ) timer
    rw [moved, ← self.dataRequest?_data _]
    exact ⟨acted.killSwitchOn, acted.accounted⟩

/-! ## Runs -/

lemma sealed_run (safe : self.session.Sealed made) (occs : List Occurrence) :
    (occs.foldl next self).session.Sealed (made ++ submitted occs) := by
  induction occs generalizing self made with
  | nil =>
    rw [submitted, filterMap_nil, append_nil]
    exact safe
  | cons occ _ ih =>
    have rest := ih (sealed_next safe occ)
    rw [append_assoc, ← submitted_cons] at rest
    exact rest

/-- What was handed to the client is found among the hand-overs of the session. -/
lemma countP_calls (self : Vpn) (hands : ∀ call, called call = true → call.isHandover = true) :
    self.calls.countP called = self.session.handovers.countP called := by
  rw [session, countP_filter]
  refine countP_congr fun call _ => ?_
  rw [Bool.and_eq_true]
  exact ⟨fun counts => ⟨counts, hands call counts⟩, And.left⟩

/-- The kill switch holds for the calls of a session, of which some requests were made: each of
the calls settles a request of its own, a request is bypassed only if it asks for that, and
no request is handed over more often than it was made. -/
structure KillSwitchHolds (vpn : Vpn) (made : List ConnectRequestResult) : Prop where
  accounted : Accounted (vpn.calls.filter Call.isHandover) vpn.postponedRequests made
  bypasses : ∀ id, vpn.calls.count (.completeConnectRequest id (some .forceBypass)) ≤
    made.countP fun req => req.id = id ∧ req.action = some .forceBypass
  handovers : ∀ id, vpn.calls.countP (Call.hands id) ≤ made.countP fun req => req.id = id

/-- In every run with the kill switch on. -/
theorem killSwitchHolds_run (retryInfo : ConnectRetryInfo) (occs : List Occurrence) :
    KillSwitchHolds (occs.foldl next (new true retryInfo)) (submitted occs) := by
  have start : (new true retryInfo).session.Sealed [] := ⟨rfl, [], .nil, List.Subperm.refl []⟩
  have accounted := (sealed_run start occs).accounted
  refine ⟨accounted, fun id => ?_, fun id => ?_⟩
  · rw [List.count, countP_calls _ fun call same => ?_]
    · refine accounted.countP_le fun settles same => ?_
      rw [beq_iff_eq] at same
      rcases settles with rfl | rfl
      · exact decide_eq_true (Call.completeConnectRequest.inj same)
      · cases same
    · rw [beq_iff_eq] at same
      rw [same]
      rfl
  · rw [countP_calls _ fun call => Call.isHandover_of_hands]
    exact accounted.countP_le fun settles hands => decide_eq_true (settles.hands hands)

end Vpn

end TrustTunnel.Client
