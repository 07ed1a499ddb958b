import Mathlib.Logic.Function.Basic
import TrustTunnel.Transition.Trace
import TrustTunnel.Wire.Bytes

/-!
# A TCP connection of the tunnel

`core/src/tunnel.cpp`: a client connection that is established on an upstream. While the domain
name of its destination is looked up in what the client sends, packets may be held back, and the
connection may be moved to another upstream. Then a second connection is opened there, gets the
packets that are held back, and takes the client's side over as soon as it is open.
-/

namespace TrustTunnel.Client.TunnelConnection

open Wire

/-- What a domain lookup makes of a packet. -/
inductive TunnelDomainLookupAction where
  | done
  | pass
  | drop
  | shutdown
  | block
  | wantMore
  deriving DecidableEq

/-- The states from the time on when a connection is established. -/
inductive VpnConnectionState where
  | waitingResponseMigrating
  | connected
  | connectedMigrating
  deriving DecidableEq

structure VpnConnection where
  serverId : Nat
  state : VpnConnectionState
  firstPacket : Bool
  lookingUpDomain : Bool
  fakeConnection : Bool
  bufferedPackets : List Bytes
  lookupAttemptsNum : Nat
  /-- The connection owns a task that will send the packets. -/
  sendBufferedTask : Bool
  deriving DecidableEq

/-- A connection with its listener and its upstreams. A server id is never used again. -/
structure System where
  /-- The connection that is found by the client's id. -/
  conn : VpnConnection
  /-- Connections that are being opened on other upstreams. -/
  opening : List VpnConnection
  nextServerId : Nat
  /-- Tasks that will send the packets of the connection and that it does not own. -/
  releasedTasks : Nat
  readEnabled : Bool
  /-- What the client has sent and the tunnel has not taken. -/
  unread : Bytes
  /-- What an upstream has accepted for a server id. -/
  accepted : Nat → Bytes
  /-- The connection failed or is closed: nothing more is done with it. -/
  closing : Bool
  /-- All that the client has sent. -/
  received : Bytes
  /-- The server ids that the connection was migrated away from. -/
  left : List Nat

/-! ## Sending -/

/-- What `send` of an upstream returns: a negative number or how much it takes at most. -/
inductive SendResult where
  | failed
  | accepts (count : Nat)
  deriving DecidableEq

/-- How the loop over the packets ends. -/
inductive LoopEnd where
  | failed
  | sentZeroBytes
  | sent
  deriving DecidableEq

structure SentPackets where
  accepted : Bytes
  left : List Bytes
  ended : LoopEnd
  deriving DecidableEq

/-- The loop of `send_buffered_data`, with what the upstream answers to each call. -/
def sendPackets : List Bytes → List SendResult → SentPackets
  | [], _ => ⟨[], [], .sent⟩
  | packet :: packets, answers =>
    match answers.headD (.accepts 0) with
    | .failed => ⟨[], packet :: packets, .failed⟩
    | .accepts count =>
      if count ≥ packet.length then
        let rest := sendPackets packets answers.tail
        ⟨packet ++ rest.accepted, rest.left, rest.ended⟩
      else if count = 0 then ⟨[], packet :: packets, .sentZeroBytes⟩
      else ⟨packet.take count, packet.drop count :: packets, .sent⟩

/-- The upstream of the connection has taken bytes. -/
def System.accept (sys : System) (bytes : Bytes) : System :=
  { sys with
    accepted := Function.update sys.accepted sys.conn.serverId
      (sys.accepted sys.conn.serverId ++ bytes) }

/-- The number of tasks that will send the packets of the connection. -/
def System.pendingTasks (sys : System) : Nat := sys.releasedTasks + sys.conn.sendBufferedTask.toNat

/-- `AutoTaskId::release`: the connection no longer owns its task. -/
def System.releaseTask (sys : System) : System :=
  { sys with
    conn := { sys.conn with sendBufferedTask := false }
    releasedTasks := sys.pendingTasks }

/-- `send_buffered_data`, where `canSend` tells that the upstream can take more afterwards. -/
def System.sendBufferedData (sys : System) (answers : List SendResult) (canSend : Bool) :
    System × Bool :=
  let released := sys.releaseTask
  let sent := sendPackets released.conn.bufferedPackets answers
  let taken := released.accept sent.accepted
  let kept := { taken with conn := { taken.conn with bufferedPackets := sent.left } }
  match sent.ended with
  | .failed => (kept, false)
  | .sentZeroBytes => ({ kept with readEnabled := false }, true)
  | .sent => ({ kept with readEnabled := canSend }, true)

/-- `schedule_send_buffered_data`. A task that the connection owns is cancelled. -/
def System.scheduleSendBufferedData (sys : System) : System :=
  { sys with conn := { sys.conn with sendBufferedTask := true } }

/-! ## Reads of the client -/

/-- `MAX_LOOKUP_ATTEMPTS`. -/
def maxLookupAttempts : Nat := 3

/-- What the lookup and the upstreams answer while a read is handled. -/
structure ReadAnswers where
  lookup : TunnelDomainLookupAction
  /-- A connection can be opened on the other upstream. -/
  opens : Bool
  buffered : List SendResult
  send : SendResult
  canSend : Bool

/-- The connection that is opened on the other upstream. -/
def System.swConn (sys : System) : VpnConnection where
  serverId := sys.nextServerId
  state := .waitingResponseMigrating
  firstPacket := false
  lookingUpDomain := sys.conn.lookingUpDomain
  fakeConnection := false
  bufferedPackets := sys.conn.bufferedPackets
  lookupAttemptsNum := 0
  sendBufferedTask := false

/-- `initiate_connection_migration` for TCP; nothing when its result is negative. -/
def System.initiateConnectionMigration (sys : System) (opens : Bool) : Option System :=
  if opens then
    some
      { sys with
        conn := { sys.conn with bufferedPackets := [], state := .connectedMigrating }
        opening := sys.swConn :: sys.opening
        nextServerId := sys.nextServerId + 1
        readEnabled := false }
  else none

/-- The connection is moved to another upstream, or else closed. -/
def System.migrate (sys : System) (opens : Bool) : System × Option Nat :=
  match sys.initiateConnectionMigration opens with
  | none => ({ sys with readEnabled := false }, none)
  | some migrating => (migrating, some 0)

/-- Send the packet itself. -/
def System.sendPacket (sys : System) (data : Bytes) (answers : ReadAnswers) : System × Option Nat :=
  match answers.send with
  | .failed => (sys, none)
  | .accepts count =>
    let result := min count data.length
    let sent := sys.accept (data.take result)
    if result > 0 ∨ result = data.length then
      ({ sent with readEnabled := answers.canSend }, some result)
    else ({ sent with readEnabled := false }, some result)

/-- The `switch` over the state at the end of `CLIENT_EVENT_READ`. -/
def System.sendData (sys : System) (data : Bytes) (answers : ReadAnswers) : System × Option Nat :=
  match sys.conn.state with
  | .connected =>
    if sys.conn.bufferedPackets = [] then sys.sendPacket data answers
    else
      match sys.sendBufferedData answers.buffered answers.canSend with
      | (flushed, false) => (flushed, none)
      | (flushed, true) =>
        if flushed.conn.bufferedPackets ≠ [] then (flushed, some 0)
        else flushed.sendPacket data answers
  -- `assert(0)`, and a negative result without it.
  | _ => (sys, none)

/-- What follows when the lookup does not move the connection. -/
def System.route (sys : System) (data : Bytes) (answers : ReadAnswers) : System × Option Nat :=
  if sys.conn.fakeConnection then
    { sys with conn := { sys.conn with fakeConnection := false } }.migrate answers.opens
  else
    { sys with conn := { sys.conn with firstPacket := false } }.sendData data answers

/-- What follows when the lookup finds that the connection belongs on another upstream. -/
def System.switchUpstream (sys : System) (answers : ReadAnswers) : System × Option Nat :=
  if !sys.conn.firstPacket then ({ sys with readEnabled := false }, none)
  else
    match sys.migrate answers.opens with
    | (migrating, some result) =>
      ({ migrating with conn := { migrating.conn with fakeConnection := false } }, some result)
    | failed => failed

/-- `CLIENT_EVENT_READ`, with the result of the event; nothing when it is negative or the
connection is being closed. -/
def System.handleClientRead (sys : System) (data : Bytes) (answers : ReadAnswers) :
    System × Option Nat :=
  let conn := sys.conn
  if conn.lookingUpDomain then
    match answers.lookup with
    | .done => { sys with conn := { conn with lookingUpDomain := false } }.route data answers
    | .pass => sys.route data answers
    | .drop => (sys, some data.length)
    | .wantMore =>
      let counted := { conn with lookupAttemptsNum := conn.lookupAttemptsNum + 1 }
      if conn.lookupAttemptsNum < maxLookupAttempts then
        ({ sys with conn := { counted with bufferedPackets := conn.bufferedPackets ++ [data] } },
          some data.length)
      else { sys with conn := counted }.route data answers
    | .shutdown =>
      { sys with conn := { conn with lookingUpDomain := false } }.switchUpstream answers
    | .block => ({ sys with readEnabled := false }, none)
  else sys.route data answers

/-- The listener drops what was taken, or closes the connection. -/
def System.finishRead : System × Option Nat → System
  | (sys, none) => { sys with closing := true }
  | (sys, some result) => { sys with unread := sys.unread.drop result }

/-! ## Events of upstreams -/

/-- `SERVER_EVENT_CONNECTION_OPENED` for a connection that waits for its migration. The
connection that it replaces is closed and destroyed with the task that it owns. -/
def System.handleConnectionOpened (sys : System) (serverId : Nat) : System :=
  match sys.opening.find? (·.serverId = serverId) with
  | none => sys
  | some conn =>
    let switched :=
      { sys with
        conn := { conn with state := .connected }
        opening := sys.opening.filter (·.serverId ≠ serverId)
        left := sys.conn.serverId :: sys.left }
    if conn.bufferedPackets ≠ [] then switched.scheduleSendBufferedData
    else { switched with readEnabled := true }

/-- `SERVER_EVENT_DATA_SENT`. -/
def System.handleDataSent (sys : System) (serverId : Nat) (canSend : Bool) : System :=
  if sys.conn.serverId = serverId ∧ sys.conn.state = .connected then
    let enabled := { sys with readEnabled := canSend }
    if sys.conn.bufferedPackets ≠ [] then enabled.scheduleSendBufferedData else enabled
  else sys

/-- `SERVER_EVENT_READ`, as far as it concerns the lookup. -/
def System.handleServerRead (sys : System) (lookup : TunnelDomainLookupAction) : System :=
  if sys.conn.lookingUpDomain then
    match lookup with
    | .done => { sys with conn := { sys.conn with lookingUpDomain := false } }
    | .pass | .wantMore | .drop => sys
    | .shutdown | .block => { sys with closing := true }
  else sys

/-! ## Events -/

inductive Event where
  /-- The client sends bytes to the listener. -/
  | arrive (bytes : Bytes)
  /-- The listener raises a read with some of the bytes that are not taken. -/
  | clientRead (length : Nat) (answers : ReadAnswers)
  | serverRead (lookup : TunnelDomainLookupAction)
  | dataSent (serverId : Nat) (canSend : Bool)
  | connectionOpened (serverId : Nat)
  /-- The event loop runs a task that sends the packets of the connection. -/
  | sendTask (answers : List SendResult) (canSend : Bool)
  /-- One of the sides closes the connection. -/
  | close

/-- A task of the event loop. -/
def System.runSendTask (sys : System) (answers : List SendResult) (canSend : Bool) : System :=
  if sys.pendingTasks = 0 then sys
  else
    let run := (sys.sendBufferedData answers canSend).1
    { run with releasedTasks := run.releasedTasks - 1 }

def System.handle (sys : System) (event : Event) : System :=
  if sys.closing then sys
  else
    match event with
    | .arrive bytes => { sys with unread := sys.unread ++ bytes, received := sys.received ++ bytes }
    | .clientRead length answers =>
      -- A listener raises no reads while they are turned off.
      if sys.readEnabled then
        System.finishRead (sys.handleClientRead (sys.unread.take length) answers)
      else sys
    | .serverRead lookup => sys.handleServerRead lookup
    | .dataSent serverId canSend => sys.handleDataSent serverId canSend
    | .connectionOpened serverId => sys.handleConnectionOpened serverId
    | .sendTask answers canSend => sys.runSendTask answers canSend
    | .close => { sys with closing := true }

/-- A connection that was established just now. -/
def System.start (lookingUpDomain fakeConnection : Bool) : System where
  conn :=
    { serverId := 0
      state := .connected
      firstPacket := true
      lookingUpDomain
      fakeConnection
      bufferedPackets := []
      lookupAttemptsNum := 0
      sendBufferedTask := false }
  opening := []
  nextServerId := 1
  releasedTasks := 0
  readEnabled := true
  unread := []
  accepted := fun _ => []
  closing := false
  received := []
  left := []

/-!
## Connections that are moved to another upstream

What the upstream of a connection has accepted, what is held back and what is not taken make up
what the client has sent, and an upstream that a connection was moved away from has accepted
nothing, as long as held back packets are not sent by a task before the lookup is over.
-/

open Transition List

/-- The packets that are held back. -/
def System.held (sys : System) : List Bytes :=
  sys.conn.bufferedPackets ++ sys.opening.flatMap VpnConnection.bufferedPackets

/-- No byte is lost, repeated or reordered, and none is with another upstream. -/
structure Intact (sys : System) : Prop where
  stream : sys.accepted sys.conn.serverId ++ (sys.held.flatten ++ sys.unread) = sys.received
  left : ∀ serverId ∈ sys.left, sys.accepted serverId = []

/-- The lookup does not drop what the client sends, and a task sends no packets of a connection
that may still be moved. -/
def Allowed (sys : System) : Event → Prop
  | .clientRead _ answers => answers.lookup ≠ .drop
  | .sendTask _ _ => sys.pendingTasks = 0 ∨ sys.conn.firstPacket = false
  | _ => True

instance (sys : System) : (event : Event) → Decidable (Allowed sys event)
  | .clientRead _ answers => inferInstanceAs (Decidable (answers.lookup ≠ .drop))
  | .sendTask _ _ =>
    inferInstanceAs (Decidable (sys.pendingTasks = 0 ∨ sys.conn.firstPacket = false))
  | .arrive _ | .serverRead _ | .dataSent _ _ | .connectionOpened _ | .close => .isTrue trivial

/-! ## The phases of a connection -/

/-- On its upstream. -/
structure Settled (sys : System) : Prop where
  state : sys.conn.state = .connected
  opening : sys.opening = []
  first : sys.conn.firstPacket = true → sys.accepted sys.conn.serverId = [] ∧ sys.releasedTasks = 0
  fake : sys.conn.fakeConnection = true → sys.conn.firstPacket = true

/-- On the way to the upstream of another connection. -/
structure Moving (sys : System) (target : VpnConnection) : Prop where
  state : sys.conn.state = .connectedMigrating
  opening : sys.opening = [target]
  buffered : sys.conn.bufferedPackets = []
  accepted : sys.accepted sys.conn.serverId = []
  reads : sys.readEnabled = false
  first : sys.conn.firstPacket = true
  released : sys.releasedTasks = 0
  newer : sys.conn.serverId < target.serverId
  older : target.serverId < sys.nextServerId
  targetFirst : target.firstPacket = false
  targetFake : target.fakeConnection = false

/-- What holds after each event. -/
structure Sound (sys : System) : Prop extends Intact sys where
  unused : ∀ serverId > sys.conn.serverId, sys.accepted serverId = []
  newest : sys.conn.serverId < sys.nextServerId
  leftBefore : ∀ serverId ∈ sys.left, serverId < sys.conn.serverId
  phase : Settled sys ∨ ∃ target, Moving sys target

variable {sys : System}

lemma Settled.held (settled : Settled sys) : sys.held = sys.conn.bufferedPackets := by
  rw [System.held, settled.opening, flatMap_nil, append_nil]

lemma Settled.stream (settled : Settled sys) (sound : Sound sys) :
    sys.accepted sys.conn.serverId ++
      (sys.conn.bufferedPackets.flatten ++ sys.unread) = sys.received := by
  rw [← settled.held]
  exact sound.stream

/-! ## Sending on the upstream -/

/-- What is taken and what is left make up the packets. -/
lemma sendPackets_accepted_left (packets : List Bytes) (answers : List SendResult) :
    (sendPackets packets answers).accepted ++ (sendPackets packets answers).left.flatten =
      packets.flatten := by
  induction packets generalizing answers with
  | nil => rfl
  | cons _ _ ih =>
    rw [sendPackets]
    split
    case h_1 => rfl
    case h_2 count =>
      split
      · simp [ih]
      · split
        · rfl
        · simp [← append_assoc]

/-- A connection that cannot be moved any more, after its upstream has taken bytes. -/
def System.forwarded (sys : System) (taken : Bytes) (buffered : List Bytes) (rest : Bytes)
    (owned : Bool) (released : Nat) (enabled : Bool) : System :=
  { sys with
    conn := { sys.conn with bufferedPackets := buffered, sendBufferedTask := owned }
    accepted := Function.update sys.accepted sys.conn.serverId
      (sys.accepted sys.conn.serverId ++ taken)
    unread := rest
    releasedTasks := released
    readEnabled := enabled }

section

variable (settled : Settled sys) (sent : sys.conn.firstPacket = false) (owned : Bool)
  (released : Nat) (enabled : Bool)

include settled sent

lemma Settled.forwarded (taken : Bytes) (buffered : List Bytes) (rest : Bytes) :
    Settled (sys.forwarded taken buffered rest owned released enabled) where
  state := settled.state
  opening := settled.opening
  first first := absurd (first.symm.trans sent) (by decide)
  fake := settled.fake

lemma Sound.forwarded (sound : Sound sys) {taken : Bytes} {buffered : List Bytes} {rest : Bytes}
    (split : taken ++ (buffered.flatten ++ rest) = sys.conn.bufferedPackets.flatten ++ sys.unread) :
    Sound (sys.forwarded taken buffered rest owned released enabled) := by
  have after := settled.forwarded sent owned released enabled taken buffered rest
  have others : ∀ serverId, serverId ≠ sys.conn.serverId →
      (sys.forwarded taken buffered rest owned released enabled).accepted serverId =
        sys.accepted serverId :=
    fun serverId different => Function.update_of_ne different _ _
  refine ⟨⟨?_, fun serverId mem => ?_⟩, fun serverId newer => ?_, sound.newest,
    sound.leftBefore, .inl after⟩
  · rw [after.held]
    simp only [System.forwarded, Function.update_self, append_assoc, split]
    exact settled.stream sound
  · rw [others _ (ne_of_lt (sound.leftBefore _ mem))]
    exact sound.left _ mem
  · rw [others _ (Nat.ne_of_gt newer)]
    exact sound.unused _ newer

end

lemma sendBufferedData_eq_forwarded (sys : System) (answers : List SendResult) (canSend : Bool) :
    ∃ taken buffered enabled, taken ++ buffered.flatten = sys.conn.bufferedPackets.flatten ∧
      (sys.sendBufferedData answers canSend).1 =
        sys.forwarded taken buffered sys.unread false sys.pendingTasks enabled := by
  refine ⟨(sendPackets sys.conn.bufferedPackets answers).accepted,
    (sendPackets sys.conn.bufferedPackets answers).left, ?_⟩
  have split := sendPackets_accepted_left sys.conn.bufferedPackets answers
  rw [System.sendBufferedData]
  split
  · exact ⟨sys.readEnabled, split, rfl⟩
  · exact ⟨false, split, rfl⟩
  · exact ⟨canSend, split, rfl⟩

/-- Sending packets of a connection that cannot be moved any more. -/
lemma Sound.sendBufferedData (sound : Sound sys) (settled : Settled sys)
    (sent : sys.conn.firstPacket = false) (answers : List SendResult) (canSend : Bool) :
    Sound (sys.sendBufferedData answers canSend).1 ∧
      Settled (sys.sendBufferedData answers canSend).1 := by
  obtain ⟨taken, buffered, enabled, split, same⟩ :=
    sendBufferedData_eq_forwarded sys answers canSend
  rw [same]
  refine ⟨sound.forwarded settled sent _ _ _ ?_, settled.forwarded sent _ _ _ _ _ _⟩
  rw [← split, append_assoc]

/-! ## Reads -/

/-- Flags of the lookup and of the listener do not matter. -/
lemma Settled.flags (settled : Settled sys) (lookingUpDomain : Bool) (attempts : Nat)
    (owned enabled closing : Bool) :
    Settled
      { sys with
        conn :=
          { sys.conn with
            lookingUpDomain, lookupAttemptsNum := attempts, sendBufferedTask := owned }
        readEnabled := enabled
        closing } :=
  { settled with }

lemma Sound.flags (sound : Sound sys) (settled : Settled sys) (lookingUpDomain : Bool)
    (attempts : Nat) (owned enabled closing : Bool) :
    Sound
      { sys with
        conn :=
          { sys.conn with
            lookingUpDomain, lookupAttemptsNum := attempts, sendBufferedTask := owned }
        readEnabled := enabled
        closing } :=
  { sound with phase := .inl (settled.flags lookingUpDomain attempts owned enabled closing) }

lemma Sound.marks (sound : Sound sys) (lookingUpDomain : Bool) (owned closing : Bool) :
    Sound
      { sys with
        conn := { sys.conn with lookingUpDomain, sendBufferedTask := owned }
        closing } where
  toIntact := ⟨sound.stream, sound.left⟩
  unused := sound.unused
  newest := sound.newest
  leftBefore := sound.leftBefore
  phase := sound.phase.imp (fun settled => { settled with })
    fun ⟨target, moving⟩ => ⟨target, { moving with }⟩

lemma Sound.closing (sound : Sound sys) : Sound { sys with closing := true } := sound.marks _ _ true

lemma take_take_append_drop {count length : Nat} {bytes : Bytes}
    (le : count ≤ (bytes.take length).length) :
    (bytes.take length).take count ++ bytes.drop count = bytes := by
  rw [length_take] at le
  rw [take_take, min_eq_left (by omega), take_append_drop]

section

variable (sound : Sound sys) (settled : Settled sys) (sent : sys.conn.firstPacket = false)
  (length : Nat) (answers : ReadAnswers)

include sound settled sent

lemma Sound.sendPacket (empty : sys.conn.bufferedPackets = []) :
    Sound (System.finishRead (sys.sendPacket (sys.unread.take length) answers)) := by
  rw [System.sendPacket]
  split
  case h_1 => exact sound.closing
  case h_2 count _ =>
    have parts := take_take_append_drop (min_le_right count (sys.unread.take length).length)
    generalize min count _ = result at parts
    have split : (sys.unread.take length).take result ++
        (sys.conn.bufferedPackets.flatten ++ sys.unread.drop result) =
          sys.conn.bufferedPackets.flatten ++ sys.unread := by
      rw [empty]
      exact parts
    have forwarded (enabled : Bool) := sound.forwarded settled sent
      sys.conn.sendBufferedTask sys.releasedTasks enabled split
    dsimp only
    split
    · exact forwarded _
    · exact forwarded false

lemma Sound.sendData :
    Sound (System.finishRead (sys.sendData (sys.unread.take length) answers)) := by
  rw [System.sendData, settled.state]
  dsimp only
  split
  case isTrue empty => exact sound.sendPacket settled sent length answers empty
  case isFalse =>
    obtain ⟨flushedSound, flushedSettled⟩ := sound.sendBufferedData settled sent _ _
    obtain ⟨_, _, _, -, same⟩ := sendBufferedData_eq_forwarded sys _ _
    have unread : (sys.sendBufferedData answers.buffered answers.canSend).1.unread =
        sys.unread := by rw [same]; rfl
    have stillSent : (sys.sendBufferedData answers.buffered answers.canSend).1.conn.firstPacket =
        false := by rw [same]; exact sent
    split
    case h_1 flushed result =>
      rw [result] at flushedSound
      exact flushedSound.closing
    case h_2 flushed result =>
      rw [result] at flushedSound flushedSettled unread stillSent
      split
      case isTrue => exact flushedSound
      case isFalse empty =>
        rw [← unread]
        exact flushedSound.sendPacket flushedSettled stillSent length answers (not_not.mp empty)

end

lemma Sound.migrate (sound : Sound sys) (settled : Settled sys)
    (first : sys.conn.firstPacket = true) (opens : Bool) :
    Sound (System.finishRead (sys.migrate opens)) := by
  rw [System.migrate, System.initiateConnectionMigration]
  cases opens with
  | false => exact sound.flags settled _ _ _ false true
  | true =>
    obtain ⟨accepted, released⟩ := settled.first first
    have stream := settled.stream sound
    refine ⟨⟨?_, sound.left⟩, sound.unused, Nat.lt_succ_of_lt sound.newest, sound.leftBefore,
      .inr ⟨sys.swConn, ?_⟩⟩
    · simpa [System.finishRead, System.held, System.swConn, settled.opening] using stream
    · exact
        { state := rfl
          opening := by rw [← settled.opening]; rfl
          buffered := rfl
          accepted
          reads := rfl
          first
          released
          newer := sound.newest
          older := Nat.lt_succ_self _
          targetFirst := rfl
          targetFake := rfl }

lemma Settled.notFake (settled : Settled sys) :
    Settled { sys with conn := { sys.conn with fakeConnection := false } } :=
  { settled with fake := fun fake => Bool.noConfusion fake }

section

variable (sound : Sound sys)

include sound

lemma Sound.notFake : Sound { sys with conn := { sys.conn with fakeConnection := false } } where
  toIntact := ⟨sound.stream, sound.left⟩
  unused := sound.unused
  newest := sound.newest
  leftBefore := sound.leftBefore
  phase := sound.phase.imp Settled.notFake fun ⟨target, moving⟩ => ⟨target, { moving with }⟩

section

variable (settled : Settled sys)

include settled

lemma Sound.route (length : Nat) (answers : ReadAnswers) :
    Sound (System.finishRead (sys.route (sys.unread.take length) answers)) := by
  rw [System.route]
  split
  case isTrue fake => exact sound.notFake.migrate settled.notFake (settled.fake fake) _
  case isFalse real =>
    have settledSent : Settled { sys with conn := { sys.conn with firstPacket := false } } :=
      { settled with
        first := fun first => Bool.noConfusion first
        fake := fun fake => absurd fake real }
    have soundSent : Sound { sys with conn := { sys.conn with firstPacket := false } } :=
      { sound with phase := .inl settledSent }
    exact soundSent.sendData settledSent rfl length answers

lemma Sound.switchUpstream (answers : ReadAnswers) :
    Sound (System.finishRead (sys.switchUpstream answers)) := by
  rw [System.switchUpstream]
  split
  case isTrue => exact sound.flags settled _ _ _ false true
  case isFalse first =>
    rw [Bool.not_eq_true, Bool.not_eq_false'] at first
    have migrated := sound.migrate settled first answers.opens
    split
    case h_1 migrating result same =>
      rw [same] at migrated
      exact migrated.notFake
    case h_2 => exact migrated

lemma Sound.hold (length attempts : Nat) :
    Sound
      { sys with
        conn :=
          { sys.conn with
            lookupAttemptsNum := attempts
            bufferedPackets := sys.conn.bufferedPackets ++ [sys.unread.take length] }
        unread := sys.unread.drop (sys.unread.take length).length } := by
  refine { sound with stream := ?_, phase := .inl { settled with } }
  have parts := take_take_append_drop (le_refl (sys.unread.take length).length)
  rw [take_length] at parts
  rw [← settled.stream sound]
  simp only [System.held, settled.opening, flatMap_nil, append_nil,
    flatten_append, flatten_singleton, append_assoc, parts]

lemma Sound.clientRead (length : Nat) {answers : ReadAnswers} (kept : answers.lookup ≠ .drop) :
    Sound (System.finishRead (sys.handleClientRead (sys.unread.take length) answers)) := by
  rw [System.handleClientRead]
  split
  case isFalse => exact sound.route settled length answers
  case isTrue =>
    split
    case h_1 =>
      exact (sound.flags settled false _ _ _ _).route (settled.flags false _ _ _ _) length answers
    case h_2 => exact sound.route settled length answers
    case h_3 dropped => exact absurd dropped kept
    case h_4 =>
      split
      case isTrue => exact sound.hold settled length _
      case isFalse =>
        exact (sound.flags settled _ _ _ _ _).route (settled.flags _ _ _ _ _) length answers
    case h_5 =>
      exact (sound.flags settled false _ _ _ _).switchUpstream (settled.flags false _ _ _ _) answers
    case h_6 => exact sound.flags settled _ _ _ false true

end

/-! ## Events of upstreams and tasks -/

lemma Sound.scheduleSendBufferedData : Sound sys.scheduleSendBufferedData := sound.marks _ true _

lemma Sound.dataSent (serverId : Nat) (canSend : Bool) :
    Sound (sys.handleDataSent serverId canSend) := by
  rw [System.handleDataSent]
  split
  case isFalse => exact sound
  case isTrue here =>
    rcases sound.phase with settled | ⟨target, moving⟩
    · have enabled : Sound { sys with readEnabled := canSend } :=
        sound.flags settled _ _ _ canSend _
      split
      · exact enabled.scheduleSendBufferedData
      · exact enabled
    · rw [moving.state] at here
      cases here.2

end

/-- The connection on the other upstream takes over. -/
lemma Moving.switched {target : VpnConnection} (moving : Moving sys target)
    (sound : Sound sys) (enabled : Bool) :
    Sound
      { sys with
        conn := { target with state := .connected }
        opening := []
        left := sys.conn.serverId :: sys.left
        readEnabled := enabled } := by
  have untouched := sound.unused _ moving.newer
  refine
    { stream := ?_
      left := ?_
      unused := fun serverId newer => sound.unused _ (lt_trans moving.newer newer)
      newest := moving.older
      leftBefore := ?_
      phase := .inl
        { state := rfl
          opening := rfl
          first := fun first => absurd (first.symm.trans moving.targetFirst) (by decide)
          fake := fun fake => absurd (fake.symm.trans moving.targetFake) (by decide) } }
  · have stream := sound.stream
    rw [System.held, moving.opening, moving.buffered, moving.accepted] at stream
    dsimp only [System.held]
    rw [untouched, ← stream]
    simp
  · intro serverId mem
    rcases mem_cons.mp mem with rfl | mem
    · exact moving.accepted
    · exact sound.left _ mem
  · intro serverId mem
    rcases mem_cons.mp mem with rfl | mem
    · exact moving.newer
    · exact lt_trans (sound.leftBefore _ mem) moving.newer

lemma Sound.connectionOpened (sound : Sound sys) (serverId : Nat) :
    Sound (sys.handleConnectionOpened serverId) := by
  rw [System.handleConnectionOpened]
  split
  case h_1 => exact sound
  case h_2 target found =>
    rcases sound.phase with settled | ⟨other, moving⟩
    · rw [settled.opening] at found
      cases found
    · have same : other.serverId = serverId ∧ other = target := by
        simpa [moving.opening, find?_singleton] using found
      obtain ⟨rfl, rfl⟩ := same
      have none : sys.opening.filter (·.serverId ≠ other.serverId) = [] := by
        simp [moving.opening]
      rw [none]
      split
      · exact (moving.switched sound _).scheduleSendBufferedData
      · exact moving.switched sound true

lemma Sound.serverRead (sound : Sound sys) (lookup : TunnelDomainLookupAction) :
    Sound (sys.handleServerRead lookup) := by
  unfold System.handleServerRead
  split
  case isFalse => exact sound
  case isTrue =>
    cases lookup with
    | done => exact sound.marks false _ _
    | pass | wantMore | drop => exact sound
    | shutdown | block => exact sound.closing

lemma Sound.sendTask (sound : Sound sys) {answers : List SendResult} {canSend : Bool}
    (allowed : sys.pendingTasks = 0 ∨ sys.conn.firstPacket = false) :
    Sound (sys.runSendTask answers canSend) := by
  rw [System.runSendTask]
  split
  case isTrue => exact sound
  case isFalse pending =>
    have sent := allowed.resolve_left pending
    rcases sound.phase with settled | ⟨target, moving⟩
    · obtain ⟨taken, buffered, enabled, split, same⟩ :=
        sendBufferedData_eq_forwarded sys answers canSend
      have whole : taken ++ (buffered.flatten ++ sys.unread) =
          sys.conn.bufferedPackets.flatten ++ sys.unread := by
        rw [← split, append_assoc]
      rw [same]
      exact sound.forwarded settled sent false _ enabled whole
    · rw [moving.first] at sent
      cases sent

/-! ## Runs -/

lemma Sound.arrive (sound : Sound sys) (bytes : Bytes) :
    Sound
      { sys with
        unread := sys.unread ++ bytes
        received := sys.received ++ bytes } where
  stream := by
    rw [← sound.stream, append_assoc, append_assoc]
    rfl
  left := sound.left
  unused := sound.unused
  newest := sound.newest
  leftBefore := sound.leftBefore
  phase := sound.phase.imp (fun settled => { settled with })
    fun ⟨target, moving⟩ => ⟨target, { moving with }⟩

lemma Sound.handle (sound : Sound sys) {event : Event} (allowed : Allowed sys event) :
    Sound (sys.handle event) := by
  unfold System.handle
  split
  case isTrue => exact sound
  case isFalse =>
    cases event with
    | arrive bytes => exact sound.arrive bytes
    | clientRead length =>
      dsimp only
      split
      case isFalse => exact sound
      case isTrue enabled =>
        rcases sound.phase with settled | ⟨target, moving⟩
        · exact sound.clientRead settled length allowed
        · rw [moving.reads] at enabled
          cases enabled
    | serverRead lookup => exact sound.serverRead lookup
    | dataSent serverId canSend => exact sound.dataSent _ canSend
    | connectionOpened serverId => exact sound.connectionOpened _
    | sendTask => exact sound.sendTask allowed
    | close => exact sound.closing

lemma sound_start (lookingUpDomain fakeConnection : Bool) :
    Sound (.start lookingUpDomain fakeConnection) where
  stream := rfl
  left := forall_mem_nil _
  unused := fun _ _ => rfl
  newest := Nat.one_pos
  leftBefore := forall_mem_nil _
  phase := .inl ⟨rfl, rfl, fun _ => ⟨rfl, rfl⟩, fun _ => rfl⟩

/-- In every run in which the lookup drops nothing and no task sends packets of a connection
that may still be moved, the bytes stay in order on one upstream. -/
theorem intact_run (lookingUpDomain fakeConnection : Bool) {events : List Event}
    (allowed : EachStep System.handle Allowed (.start lookingUpDomain fakeConnection) events) :
    Always System.handle Intact (.start lookingUpDomain fakeConnection) events :=
  .of_invariant Sound (fun sound allowed => sound.handle allowed) (fun sound => sound.toIntact)
    (sound_start lookingUpDomain fakeConnection) allowed

/-! ## Sample runs -/

/-- A read of one byte, with what the lookup answers. -/
def readOne (lookup : TunnelDomainLookupAction) : Event :=
  .clientRead 1 ⟨lookup, true, [], .accepts 1, true⟩

/-- The upstream takes what is held back. -/
def flushing : Event := .sendTask [.accepts 1] true

/-- A byte is held back, the second one ends the lookup, and both get to the other upstream. -/
def moved : List Event :=
  [.arrive [1, 2], readOne .wantMore, readOne .shutdown, .connectionOpened 1, flushing,
    readOne .done]

/-- As before, but the first upstream reports that it has sent something. -/
def movedAfterDataSent : List Event :=
  [.arrive [1, 2], readOne .wantMore, .dataSent 0 true, flushing, readOne .shutdown,
    .connectionOpened 1, readOne .done]

example : (moved.foldl System.handle (.start true false)).accepted 1 = [1, 2] := by decide

theorem intact_moved : Always System.handle Intact (.start true false) moved :=
  intact_run true false (by decide)

/-- The first byte is with the first upstream, and the other one gets the second byte only. -/
theorem not_intact_movedAfterDataSent :
    let ended := movedAfterDataSent.foldl System.handle (.start true false)
    ended.conn.serverId = 1 ∧ ended.left = [0] ∧ ended.accepted 0 = [1] ∧ ended.accepted 1 = [2] ∧
      ¬Always System.handle Intact (.start true false) movedAfterDataSent := by
  refine ⟨by decide, by decide, by decide, by decide, fun always => ?_⟩
  exact absurd always.last.stream (by decide)

end TrustTunnel.Client.TunnelConnection
