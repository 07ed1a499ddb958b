import TrustTunnel.Client.Socks5Listener
import TrustTunnel.Transition.Trace

/-!
# Authentication of SOCKS5 clients

With a user name in the configuration a client gets nothing before it has sent a list with the
user name method and the configured pair.
-/

namespace TrustTunnel.Client.Socks5Listener

open Wire Transition List Connection

/-- A list of methods with one that asks for a user name and a password. -/
def MethodList (bytes : Bytes) : Prop :=
  ∃ methods : Bytes, bytes = 5 :: UInt8.ofNat methods.length :: methods ∧ methods.length < 256 ∧
    (0x02 ∈ methods ∨ 0x82 ∈ methods)

/-- The message with the configured user name and password. -/
def credentials (cfg : Socks5ListenerConfig) : Bytes :=
  1 :: UInt8.ofNat cfg.username.length ::
    (cfg.username ++ UInt8.ofNat cfg.password.length :: cfg.password)

/-- The client has sent a list of methods and then the configured pair. -/
def Authenticated (cfg : Socks5ListenerConfig) (got : Bytes) : Prop :=
  cfg.username.length < 256 ∧ cfg.password.length < 256 ∧
    ∃ list rest, MethodList list ∧ got = list ++ (credentials cfg ++ rest)

lemma Authenticated.append {cfg : Socks5ListenerConfig} {got : Bytes}
    (authenticated : Authenticated cfg got) (bytes : Bytes) : Authenticated cfg (got ++ bytes) := by
  obtain ⟨username, password, list, rest, methods, rfl⟩ := authenticated
  exact ⟨username, password, list, rest ++ bytes, methods, by simp⟩

/-- The client is given a connection or a relay. -/
def Output.isAccess : Output → Bool
  | connectRequest _ _ => true
  | udpRelay => true
  | _ => false

/-- Access among the outputs is for an authenticated client. -/
def Allowed (cfg : Socks5ListenerConfig) (got : Bytes) (outputs : List Output) : Prop :=
  ∀ output ∈ outputs, output.isAccess = true → Authenticated cfg got

/-! ## What a connection has read -/

/-- What the states before a request say of the bytes that the client has sent. -/
structure Sound (cfg : Socks5ListenerConfig) (got : Bytes) (conn : Connection) : Prop where
  idle : conn.state = .idle → got = conn.unread
  listed : conn.state = .waitingUsernamePassword →
    ∃ list, MethodList list ∧ got = list ++ conn.unread
  authenticated : conn.state = .waitingRequest → Authenticated cfg got

/-- An outcome gives access to authenticated clients only. -/
structure Safe (cfg : Socks5ListenerConfig) (got : Bytes) (outcome : Outcome) : Prop where
  outputs : Allowed cfg got outcome.outputs
  alive : ∀ conn, outcome.fate = .alive conn → Sound cfg got conn

variable {cfg : Socks5ListenerConfig} {got : Bytes} {conn : Connection}

lemma allowed_nil : Allowed cfg got [] := forall_mem_nil _

lemma allowed_singleton {output : Output} (quiet : output.isAccess = false) :
    Allowed cfg got [output] := by
  intro other mem access
  rw [mem_singleton.mp mem, quiet] at access
  cases access

lemma allowed_append {front back : List Output} (first : Allowed cfg got front)
    (second : Allowed cfg got back) : Allowed cfg got (front ++ back) :=
  fun output mem => (mem_append.mp mem).elim (first output) (second output)

variable {outputs : List Output}

lemma safe_alive (allowed : Allowed cfg got outputs)
    (sound : Sound cfg got conn) : Safe cfg got ⟨.alive conn, outputs⟩ :=
  ⟨allowed, fun _ alive => Fate.alive.inj alive ▸ sound⟩

lemma sound_of_isReported (reported : conn.state.isReported = true) : Sound cfg got conn := by
  constructor <;> intro state <;> rw [state] at reported <;> cases reported

lemma safe_of_ended {fate : Fate} (ended : ∀ conn, fate ≠ .alive conn)
    (allowed : Allowed cfg got outputs) : Safe cfg got ⟨fate, outputs⟩ :=
  ⟨allowed, fun conn alive => absurd alive (ended conn)⟩

lemma safe_close (allowed : Allowed cfg got outputs) : Safe cfg got (conn.close outputs) := by
  refine ⟨?_, fun _ alive => Fate.noConfusion alive⟩
  rw [close]
  split
  · exact allowed_append allowed (allowed_singleton rfl)
  · exact allowed

variable {count : Nat} {answers : Answers} {drained : Bool}

lemma safe_drain (sound : Sound cfg got { conn with unread := conn.unread.drop count })
    (allowed : Allowed cfg got outputs) : Safe cfg got (conn.drain count drained outputs) := by
  rw [drain]
  split
  · exact safe_alive allowed sound
  · exact safe_close allowed

lemma safe_wait (sound : Sound cfg got conn) : Safe cfg got (conn.drain 0 drained []) :=
  safe_drain sound allowed_nil

lemma safe_respond {resp : Bytes}
    (sound : Sound cfg got { conn with unread := conn.unread.drop count }) :
    Safe cfg got (conn.respond resp count answers) := by
  rw [respond]
  split
  · exact safe_drain sound (allowed_singleton rfl)
  · exact safe_close allowed_nil

/-! ## The method -/

lemma chooseMethod_mem {supported method : UInt8} {methods : List UInt8} {before : Option UInt8}
    (chosen : chooseMethod supported methods before = some method) :
    before = some method ∨ method ∈ methods ∧ (method = supported ∨ method = supported + 0x80) := by
  fun_induction chooseMethod _ methods before with
  | case1 => exact .inl chosen
  | case2 _ _ ih =>
    rcases ih chosen with taken | ⟨mem, known⟩
    · cases taken
      exact .inr ⟨mem_cons_self, .inl rfl⟩
    · exact .inr ⟨mem_cons_of_mem _ mem, known⟩
  | case3 =>
    cases chosen
    exact .inr ⟨mem_cons_self, .inr rfl⟩
  | case4 _ _ _ _ _ ih =>
    rcases ih chosen with taken | ⟨mem, known⟩
    · exact .inl taken
    · exact .inr ⟨mem_cons_of_mem _ mem, known⟩

variable {extent : Nat}

/-- The front of what a peek shows is at the front of what is not drained. -/
lemma append_drop_of_take {unread front more : Bytes}
    (chunk : unread.take extent = front ++ more) : front ++ unread.drop front.length = unread := by
  have shown : front <+: unread.take extent := chunk ▸ prefix_append front more
  exact (prefix_iff_eq_append.mp (shown.trans ( take_prefix _ _)))

lemma methodList_drained {unread methods : Bytes} {nmethods : UInt8}
    (chunk : unread.take extent = 5 :: nmethods :: methods)
    (enough : nmethods.toNat ≤ methods.length) (same : got = unread)
    (asks : 0x02 ∈ methods.take nmethods.toNat ∨ 0x82 ∈ methods.take nmethods.toNat) :
    ∃ list, MethodList list ∧ got = list ++ unread.drop (2 + nmethods.toNat) := by
  have length : (methods.take nmethods.toNat).length = nmethods.toNat := length_take_of_le enough
  have list : MethodList (5 :: nmethods :: methods.take nmethods.toNat) := by
    refine ⟨_, ?_, ?_, asks⟩
    · rw [length, UInt8.ofNat_toNat]
    · rw [length]
      exact nmethods.toNat_lt
  have split : unread.take extent =
      (5 :: nmethods :: methods.take nmethods.toNat) ++ methods.drop nmethods.toNat := by
    rw [chunk, cons_append, cons_append, take_append_drop]
  have drained := append_drop_of_take split
  rw [length_cons, length_cons, length, add_assoc, add_comm] at drained
  exact ⟨_, list, same.trans drained.symm⟩

lemma safe_handleIdle (configured : cfg.username ≠ [])
    (sound : Sound cfg got conn) (idle : conn.state = .idle) :
    Safe cfg got (conn.handleIdle cfg (conn.unread.take extent) answers) := by
  have failed : ∀ count, Safe cfg got
      ({ conn with state := .failed }.respond [5, 0xff] count answers) :=
    fun count => safe_respond (sound_of_isReported rfl)
  cases chunk : conn.unread.take extent with
  | nil => exact safe_wait sound
  | cons ver rest =>
    cases rest with
    | nil => exact safe_wait sound
    | cons nmethods methods =>
      simp only [handleIdle, if_pos configured]
      by_cases version : ver = 5
      · subst version
        rw [if_neg (not_not_intro rfl)]
        split
        · exact safe_wait sound
        · rename_i short
          cases chosen : chooseMethod 0x02 _ none with
          | none => exact failed _
          | some method =>
            obtain ⟨mem, known⟩ := (chooseMethod_mem chosen).resolve_left (by simp)
            have asks : method = 0x02 ∨ method = 0x82 := known
            have listed : 0x02 ∈ methods.take nmethods.toNat ∨
                0x82 ∈ methods.take nmethods.toNat := by
              rcases asks with rfl | rfl
              · exact .inl mem
              · exact .inr mem
            simp only [if_pos asks]
            refine safe_respond ⟨fun state => ?_, fun _ => ?_, fun state => ?_⟩
            · cases state
            · exact methodList_drained chunk (Nat.le_of_not_lt short) (sound.idle idle) listed
            · cases state
      · rw [if_pos version]
        exact failed _

/-! ## The user name and the password -/

lemma readUsernamePasswordRequest_eq_some {data : Bytes}
    {req : Socks5UsernamePasswordRequest} {processed : Nat}
    (read : readUsernamePasswordRequest data = some (req, processed)) :
    req.uname.length < 256 ∧ req.passwd.length < 256 ∧
      ∃ msg more, data = msg ++ more ∧ msg.length = processed ∧
        msg = req.ver :: UInt8.ofNat req.uname.length ::
          (req.uname ++ UInt8.ofNat req.passwd.length :: req.passwd) := by
  rcases data with _ | ⟨ver, _ | ⟨ulen, data⟩⟩
  · cases read
  · cases read
  · rw [readUsernamePasswordRequest] at read
    split at read
    case isTrue => cases read
    case isFalse enough =>
      have inside : ulen.toNat < data.length := Nat.lt_of_not_le enough
      simp only at read
      split at read
      case isTrue => cases read
      case isFalse whole =>
        obtain ⟨plen, behind⟩ : ∃ plen, data.drop _ =
            plen :: data.drop _ ∧ byteAt data _ = plen.toNat := by
          refine ⟨data[ulen.toNat], drop_eq_getElem_cons inside, ?_⟩
          rw [byteAt, getD_eq_getElem?_getD, getElem?_eq_getElem inside, Option.getD_some]
        obtain ⟨behind, value⟩ := behind
        rw [value] at read whole
        cases read
        have uname : (data.take ulen.toNat).length = ulen.toNat :=
          length_take_of_le (le_of_lt inside)
        have passwd : ((data.drop (ulen.toNat + 1)).take plen.toNat).length = plen.toNat :=
          length_take_of_le (Nat.le_of_not_lt whole)
        simp only [uname, passwd, UInt8.ofNat_toNat]
        refine ⟨ulen.toNat_lt, plen.toNat_lt, _, (data.drop (ulen.toNat + 1)).drop plen.toNat, ?_,
          ?_, rfl⟩
        · simp only [cons_append, append_assoc, take_append_drop, ← behind]
        · simp only [length_cons, length_append, uname, passwd]
          omega

lemma safe_handleUsernamePassword (sound : Sound cfg got conn)
    (waiting : conn.state = .waitingUsernamePassword) :
    Safe cfg got (conn.handleUsernamePassword cfg (conn.unread.take extent) answers) := by
  rw [handleUsernamePassword]
  cases read : readUsernamePasswordRequest _ with
  | none => exact safe_wait sound
  | some result =>
    obtain ⟨req, processed⟩ := result
    simp only
    split
    · rename_i accepted
      obtain ⟨version, username, password⟩ := accepted
      obtain ⟨uname, passwd, msg, more, chunk, length, written⟩ :=
        readUsernamePasswordRequest_eq_some read
      have same : msg = credentials cfg := by
        rw [written, version, ← username, ← password]
        rfl
      obtain ⟨list, methods, split⟩ := sound.listed waiting
      have drained := append_drop_of_take chunk
      refine safe_respond ⟨fun state => ?_, fun state => ?_, fun _ => ?_⟩
      · cases state
      · cases state
      · refine ⟨username ▸ uname, password ▸ passwd, list, conn.unread.drop processed, methods, ?_⟩
        rw [split, ← same, ← length, drained]
    · exact safe_respond (sound_of_isReported rfl)

/-! ## The request and what follows -/

variable {result : Socks5ConnectResult} {localPort : Nat} {written : Bool} {chunk : Bytes}

/-- A completed request was reported, and gives no access any more. -/
lemma isReported_and_isAccess_of_completed :
    (∀ after, (conn.completeConnectRequest result localPort written).fate = .alive after →
        after.state.isReported = true) ∧
      ∀ output ∈ (conn.completeConnectRequest result localPort written).outputs,
        output.isAccess = false := by
  have reported : (if result = .success then ConnectionState.waitingAccept
      else .failed).isReported = true := by
    split <;> rfl
  rw [completeConnectRequest]
  split
  case isTrue failed =>
    refine ⟨fun after alive => ?_, nofun⟩
    cases alive
    rw [failed]
    rfl
  case isFalse =>
    split
    case isTrue => exact ⟨nofun, nofun⟩
    case isFalse =>
      simp only [completeTcpConnection, completeUdpConnection]
      split
      · split
        · exact ⟨fun _ alive => Fate.alive.inj alive ▸ reported, by simp [Output.isAccess]⟩
        · exact ⟨nofun, by simp [Output.isAccess]⟩
      · split
        · exact ⟨fun _ alive => Fate.alive.inj alive ▸ rfl, by simp [Output.isAccess]⟩
        · exact ⟨nofun, by simp [Output.isAccess]⟩

lemma safe_completeConnectRequest :
    Safe cfg got (conn.completeConnectRequest result localPort written) := by
  refine ⟨fun output mem access => ?_, fun after alive =>
    sound_of_isReported (isReported_and_isAccess_of_completed.1 after alive)⟩
  rw [isReported_and_isAccess_of_completed.2 output mem] at access
  cases access

section

variable (authenticated : Authenticated cfg got)

include authenticated

lemma safe_raiseConnectRequest : Safe cfg got (conn.raiseConnectRequest count answers) := by
  fun_cases raiseConnectRequest
  case case1 => exact safe_drain (sound_of_isReported rfl) fun _ _ _ => authenticated
  case case3 _ after alive =>
    have reported : after.state.isReported = true := isReported_and_isAccess_of_completed.1 _ alive
    exact safe_drain (sound_of_isReported reported) fun _ _ _ => authenticated
  all_goals exact safe_of_ended (fun _ => Fate.noConfusion) fun _ _ _ => authenticated

lemma safe_completeUdpAssociation : Safe cfg got (conn.completeUdpAssociation count answers) := by
  fun_cases completeUdpAssociation
  case case2 | case4 => exact safe_drain (sound_of_isReported rfl) fun _ _ _ => authenticated
  all_goals exact safe_of_ended (fun _ => Fate.noConfusion) fun _ _ _ => authenticated

lemma safe_handleRequest (waiting : conn.state = .waitingRequest) :
    Safe cfg got (conn.handleRequest chunk answers) := by
  have later : ∀ tcp, Sound cfg got { conn with tcp := tcp } := by
    intro tcp
    refine ⟨fun state => ?_, fun state => ?_, fun _ => authenticated⟩
    all_goals cases waiting.symm.trans state
  fun_cases handleRequest
  case case2 => exact safe_of_ended (fun _ => Fate.noConfusion) fun _ _ _ => authenticated
  case case3 => exact safe_respond (sound_of_isReported rfl)
  case case6 => exact safe_raiseConnectRequest authenticated
  case case7 => exact safe_completeUdpAssociation authenticated
  all_goals exact safe_wait (later _)

end

lemma safe_handleData {answers : List ReadAnswer} (reported : conn.state.isReported = true) :
    Safe cfg got (handleData answers conn chunk) := by
  have reads chunk : Allowed cfg got [.read chunk] := allowed_singleton rfl
  fun_induction handleData answers conn chunk with
  | case1 => exact safe_alive allowed_nil (sound_of_isReported reported)
  | case3 | case6 => exact safe_alive (reads _) (sound_of_isReported reported)
  | case2 | case4 | case5 => exact safe_close (reads _)
  | case7 _ _ _ _ _ _ _ _ _ _ _ ih =>
    exact ⟨allowed_append (reads _) (ih reported).outputs, (ih reported).alive⟩

lemma safe_handleReadable {eof : Bool} (configured : cfg.username ≠ [])
    (sound : Sound cfg got conn) : Safe cfg got (conn.handleReadable cfg extent eof answers) := by
  have destroyed : Safe cfg got ⟨.destroyed, []⟩ :=
    safe_of_ended (fun _ => Fate.noConfusion) allowed_nil
  fun_cases handleReadable
  case case1 => exact safe_alive allowed_nil sound
  case case2 | case4 => exact destroyed
  case case5 idle => exact safe_handleIdle configured sound idle
  case case6 waiting => exact safe_handleUsernamePassword sound waiting
  case case7 waiting => exact safe_handleRequest (sound.authenticated waiting) waiting
  case case10 established => exact safe_handleData (established ▸ rfl)
  case case11 failed =>
    have reported : conn.state.isReported = true := failed ▸ rfl
    exact safe_drain (sound_of_isReported reported) allowed_nil
  all_goals exact safe_close allowed_nil

lemma safe_handleWriteFlush (sound : Sound cfg got conn) : Safe cfg got conn.handleWriteFlush := by
  fun_cases handleWriteFlush
  case case1 => exact safe_of_ended (fun _ => Fate.noConfusion) allowed_nil
  case case3 => exact safe_alive (allowed_singleton rfl) (sound_of_isReported rfl)
  case case4 => exact safe_close allowed_nil
  all_goals exact safe_alive allowed_nil sound

/-! ## Sessions -/

/-- A connection, all that its client has sent, and all that the listener has done for it. -/
structure Session where
  received : Bytes
  fate : Fate
  outputs : List Output

namespace Session

def new : Session := ⟨[], .alive .new, []⟩

/-- What an event brings from the client. -/
def arriving : Event → Bytes
  | .receive bytes => bytes
  | _ => []

def next (cfg : Socks5ListenerConfig) (session : Session) (event : Event) : Session :=
  match session.fate with
  | .alive conn =>
    let outcome := conn.handle cfg event
    ⟨session.received ++ arriving event, outcome.fate, session.outputs ++ outcome.outputs⟩
  | fate => ⟨session.received ++ arriving event, fate, session.outputs⟩

/-- Access was given only to a client that has authenticated. -/
def Guarded (cfg : Socks5ListenerConfig) (session : Session) : Prop :=
  Allowed cfg session.received session.outputs

structure Invariant (cfg : Socks5ListenerConfig) (session : Session) : Prop where
  guarded : session.Guarded cfg
  alive : ∀ conn, session.fate = .alive conn → Sound cfg session.received conn

end Session

lemma Sound.receive (sound : Sound cfg got conn) (bytes : Bytes) :
    Sound cfg (got ++ bytes) { conn with unread := conn.unread ++ bytes } where
  idle state := by rw [sound.idle state]
  listed state := by
    obtain ⟨list, methods, split⟩ := sound.listed state
    exact ⟨list, methods, by rw [split, append_assoc]⟩
  authenticated state := (sound.authenticated state).append bytes

lemma safe_handle (configured : cfg.username ≠ []) (sound : Sound cfg got conn) (event : Event) :
    Safe cfg (got ++ Session.arriving event) (conn.handle cfg event) := by
  cases event with
  | receive bytes => exact safe_alive allowed_nil (sound.receive bytes)
  | readable =>
    simp only [Session.arriving, append_nil]
    exact safe_handleReadable configured sound
  | error =>
    rw [handle]
    split
    · exact safe_of_ended (fun _ => Fate.noConfusion) allowed_nil
    · exact safe_close allowed_nil
  | sent =>
    simp only [Session.arriving, append_nil, handle]
    split
    · exact safe_alive (allowed_singleton rfl) sound
    · exact safe_alive allowed_nil sound
  | writeFlush =>
    simp only [Session.arriving, append_nil]
    exact safe_handleWriteFlush sound
  | complete => exact safe_completeConnectRequest
  | closeConnection => exact safe_of_ended (fun _ => Fate.noConfusion) (allowed_singleton rfl)

lemma invariant_next (configured : cfg.username ≠ []) {session : Session}
    (invariant : session.Invariant cfg) (event : Event) :
    (session.next cfg event).Invariant cfg := by
  have before : Allowed cfg (session.received ++ Session.arriving event) session.outputs :=
    fun output mem access => (invariant.guarded output mem access).append _
  rw [Session.next]
  split
  case h_1 conn alive =>
    have safe := safe_handle configured (invariant.alive conn alive) event
    exact ⟨allowed_append before safe.outputs, safe.alive⟩
  case h_2 ended => exact ⟨before, fun conn alive => absurd alive (ended conn)⟩

/-- With a user name in the configuration, whatever a client sends, however it arrives and
whatever else happens, a connect request is raised or a relay is created only after the client
has sent a list with the user name method and then the configured pair. -/
theorem guarded_run (cfg : Socks5ListenerConfig) (configured : cfg.username ≠ [])
    (events : List Event) : Always (Session.next cfg) (Session.Guarded cfg) .new events := by
  refine Always.of_invariant _
    (fun invariant _ => invariant_next configured invariant _) Session.Invariant.guarded ?_
    (eachStep_true _ events)
  refine ⟨allowed_nil, fun conn alive => ?_⟩
  obtain rfl : new = conn := Fate.alive.inj alive
  exact ⟨fun _ => rfl, fun state => ConnectionState.noConfusion state,
    fun state => ConnectionState.noConfusion state⟩

/-- The user name `u` and the password `p`. -/
def pairConfig : Socks5ListenerConfig := ⟨[117], [112]⟩

/-- The client sends the beginning of its list, the rest with the pair, and a request. -/
def authenticatedRun : List Event :=
  [.receive [5, 2], .readable 2 false plainAnswers,
   .receive [0, 2, 1, 1, 117, 1, 112], .readable 9 false plainAnswers,
   .readable 5 false plainAnswers, .receive [5, 1, 0, 1, 10, 0, 0, 1, 0, 80],
   .readable 10 false plainAnswers]

theorem guarded_authenticatedRun :
    .connectRequest (.sockaddr [10, 0, 0, 1] 80) [] ∈
      (authenticatedRun.foldl (Session.next pairConfig) .new).outputs ∧
    Authenticated pairConfig (authenticatedRun.foldl (Session.next pairConfig) .new).received := by
  have requested : .connectRequest (.sockaddr [10, 0, 0, 1] 80) [] ∈
      (authenticatedRun.foldl (Session.next pairConfig) .new).outputs := by decide
  have guarded := (guarded_run pairConfig (by decide) authenticatedRun).last
  exact ⟨requested, guarded _ requested rfl⟩

end TrustTunnel.Client.Socks5Listener
