import TrustTunnel.Wire.Bytes

/-!
# The local SOCKS5 listener

A TCP connection of the listener: the negotiation of an authentication method, the user name and
the password, the request, and the data of a connection that is established. What the socket,
the operating system and the handler of the events answer is given with each event.
-/

namespace TrustTunnel.Client.Socks5Listener

open Wire

structure Socks5ListenerConfig where
  username : Bytes
  password : Bytes

inductive ConnectionState where
  | idle
  | waitingUsernamePassword
  | waitingRequest
  | waitingConnectResult
  | waitingAccept
  | established
  | failed
  deriving DecidableEq

/-- The connection is known to the handler of the events: `S5CONNS_WAITING_CONNECT_RESULT` and
the states behind it. -/
def ConnectionState.isReported : ConnectionState → Bool
  | idle => false
  | waitingUsernamePassword => false
  | waitingRequest => false
  | waitingConnectResult => true
  | waitingAccept => true
  | established => true
  | failed => true

inductive Socks5AddressType where
  | ipv4
  | domainname
  | ipv6
  | ipv4Appname
  | domainnameAppname
  | ipv6Appname
  deriving DecidableEq

namespace Socks5AddressType

def ofByte (byte : UInt8) : Option Socks5AddressType :=
  if byte = 0x01 then some ipv4
  else if byte = 0x03 then some domainname
  else if byte = 0x04 then some ipv6
  else if byte = 0xf1 then some ipv4Appname
  else if byte = 0xf3 then some domainnameAppname
  else if byte = 0xf4 then some ipv6Appname
  else none

/-- The address behind an application name. -/
def withoutAppname : Socks5AddressType → Option Socks5AddressType
  | ipv4Appname => some ipv4
  | domainnameAppname => some domainname
  | ipv6Appname => some ipv6
  | _ => none

end Socks5AddressType

inductive Socks5ReplyStatus where
  | succeeded
  | socksServerFailure
  | connectionNotAllowedByRuleset
  | networkUnreachable
  | hostUnreachable
  | connectionRefused
  | ttlExpired
  | commandNotSupported
  | addressTypeNotSupported
  deriving DecidableEq

def Socks5ReplyStatus.toByte : Socks5ReplyStatus → UInt8
  | succeeded => 0
  | socksServerFailure => 1
  | connectionNotAllowedByRuleset => 2
  | networkUnreachable => 3
  | hostUnreachable => 4
  | connectionRefused => 5
  | ttlExpired => 6
  | commandNotSupported => 7
  | addressTypeNotSupported => 8

inductive Socks5ConnectResult where
  | success
  | reject
  | timeout
  | unreachable
  deriving DecidableEq

/-- `CONNECT_RESULT_TO_STATUS`. -/
def connectResultToStatus : Socks5ConnectResult → Socks5ReplyStatus
  | .success => .succeeded
  | .reject => .connectionRefused
  | .timeout => .ttlExpired
  | .unreachable => .hostUnreachable

inductive Socks5ConnectionAddress where
  | sockaddr (ip : Bytes) (port : Nat)
  | domainName (name : Bytes) (port : Nat)
  deriving DecidableEq

/-! ## Requests -/

/-- The value of a byte that has been received. -/
def byteAt (data : Bytes) (index : Nat) : Nat := (data.getD index 0).toNat

/-- `addr_length_from_request`; it is negative if more data is needed. -/
def addrLengthFromRequest (type : Option Socks5AddressType) (data : Bytes) : Int :=
  match type with
  | some .ipv4 => 4
  | some .domainname => if data.length = 0 then -1 else 1 + byteAt data 0
  | some .ipv6 => 16
  | some .ipv4Appname => if data.length = 0 then -1 else 1 + byteAt data 0 + 4
  | some .domainnameAppname =>
    if data.length = 0 ∨ data.length < byteAt data 0 + 2 then -1
    else 1 + byteAt data 0 + 1 + byteAt data (byteAt data 0 + 1)
  | some .ipv6Appname => if data.length = 0 then -1 else 1 + byteAt data 0 + 16
  | none => 0

def appNameFromRequest (type : Socks5AddressType) (data : Bytes) : Bytes :=
  match type.withoutAppname with
  | some _ => (data.drop 1).take (byteAt data 0)
  | none => []

/-- The address of a type without application name. -/
def plainAddress (type : Socks5AddressType) (data : Bytes) : Socks5ConnectionAddress :=
  if type = .domainname then
    .domainName ((data.drop 1).take (byteAt data 0))
      (beNat ((data.drop (byteAt data 0 + 1)).take 2))
  else
    let length := if type = .ipv4 then 4 else 16
    .sockaddr (data.take length) (beNat ((data.drop length).take 2))

def dstAddrFromRequest (type : Socks5AddressType) (data : Bytes) : Socks5ConnectionAddress :=
  match type.withoutAppname with
  | some type => plainAddress type (data.drop (byteAt data 0 + 1))
  | none => plainAddress type data

structure Socks5UsernamePasswordRequest where
  ver : UInt8
  uname : Bytes
  passwd : Bytes

/-- `read_username_password_request`: the request and its size, if all of it is there. -/
def readUsernamePasswordRequest (data : Bytes) : Option (Socks5UsernamePasswordRequest × Nat) :=
  match data with
  | ver :: ulen :: data =>
    if data.length ≤ ulen.toNat then none
    else
      let plen := byteAt data ulen.toNat
      let passwd := data.drop (ulen.toNat + 1)
      if passwd.length < plen then none
      else some (⟨ver, data.take ulen.toNat, passwd.take plen⟩, 3 + ulen.toNat + plen)
  | _ => none

/-- The method that is chosen from the list: the last supported one, or the first one that is
the supported one with application names. -/
def chooseMethod (supported : UInt8) : List UInt8 → Option UInt8 → Option UInt8
  | [], chosen => chosen
  | method :: methods, chosen =>
    if method = supported then chooseMethod supported methods (some method)
    else if method = supported + 0x80 then some method
    else chooseMethod supported methods chosen

/-! ## Connections -/

/-- The ways in which the process is aborted or leaves what it may read. -/
inductive Crash where
  /-- An `assert` failed. -/
  | assertion
  /-- More is copied than has been received. -/
  | overread
  /-- A connection is used that is destroyed. -/
  | freed
  deriving DecidableEq

structure Connection where
  state : ConnectionState
  /-- `proto` is `IPPROTO_TCP`; it is 0 before a `CONNECT`. -/
  tcp : Bool
  dst : Socks5ConnectionAddress
  appName : Bytes
  /-- There is a UDP relay for the connection. -/
  relay : Bool
  /-- What the socket has received and is not drained. -/
  unread : Bytes
  deriving DecidableEq

def Connection.new : Connection := ⟨.idle, false, .sockaddr [] 0, [], false, []⟩

/-- What the listener does. -/
inductive Output where
  | write (bytes : Bytes)
  | connectRequest (dst : Socks5ConnectionAddress) (appName : Bytes)
  | udpRelay
  | connectionAccepted
  | read (data : Bytes)
  | dataSent (length : Nat)
  | connectionClosed
  deriving DecidableEq

/-- What becomes of a connection. -/
inductive Fate where
  | alive (connection : Connection)
  | destroyed
  | crashed (crash : Crash)
  deriving DecidableEq

structure Outcome where
  fate : Fate
  outputs : List Output
  deriving DecidableEq

/-- What the handler does while it is told of a connect request. -/
inductive Reaction where
  | nothing
  | closes
  | completes (result : Socks5ConnectResult) (written : Bool)

/-- One round of the loop over the data of an established connection. -/
structure ReadAnswer where
  result : Int
  drained : Bool
  /-- How much the next peek shows. -/
  extent : Nat
  eof : Bool

structure Answers where
  /-- `tcp_socket_write` succeeds. -/
  written : Bool
  /-- `tcp_socket_drain` succeeds. -/
  drained : Bool
  /-- The port of the local address of the socket. -/
  localPort : Nat
  reaction : Reaction
  /-- The address of the socket of a UDP relay, if that can be created. -/
  bound : Option (Bytes × Nat)
  /-- The bytes of a reply that are not set. -/
  unset : Bytes
  reads : List ReadAnswer

/-- Everything succeeds, and the handler does nothing. -/
def plainAnswers : Answers := ⟨true, true, 1080, .nothing, none, [], []⟩

namespace Connection

variable (self : Connection)

/-- `is_udp_association_tcp_connection`. -/
def isUdpAssociation : Bool := !self.tcp && self.relay

/-- The label `close`. -/
def close (outputs : List Output) : Outcome :=
  ⟨.destroyed, if self.state.isReported then outputs ++ [Output.connectionClosed] else outputs⟩

/-- `tcp_socket_drain` at the end of the handler. -/
def drain (count : Nat) (drained : Bool) (outputs : List Output) : Outcome :=
  if count = 0 ∨ drained then ⟨.alive { self with unread := self.unread.drop count }, outputs⟩
  else self.close outputs

/-- A response is sent, and what it answers is drained. -/
def respond (resp : Bytes) (count : Nat) (answers : Answers) : Outcome :=
  if answers.written then self.drain count answers.drained [.write resp]
  else self.close []

/-- `S5CONNS_IDLE`. -/
def handleIdle (cfg : Socks5ListenerConfig) (chunk : Bytes) (answers : Answers) : Outcome :=
  let authFailed := { self with state := .failed }.respond [5, 0xff] chunk.length answers
  match chunk with
  | ver :: nmethods :: methods =>
    if ver ≠ 5 then authFailed
    else if methods.length < nmethods.toNat then self.drain 0 answers.drained []
    else
      let supported : UInt8 := if cfg.username ≠ [] then 0x02 else 0x00
      match chooseMethod supported (methods.take nmethods.toNat) none with
      | none => authFailed
      | some method =>
        let state : ConnectionState :=
          if method = 0x02 ∨ method = 0x82 then .waitingUsernamePassword else .waitingRequest
        { self with state := state }.respond [5, method] (2 + nmethods.toNat) answers
  | _ => self.drain 0 answers.drained []

/-- `S5CONNS_WAITING_USERNAME_PASSWORD`. -/
def handleUsernamePassword (cfg : Socks5ListenerConfig) (chunk : Bytes) (answers : Answers) :
    Outcome :=
  match readUsernamePasswordRequest chunk with
  | none => self.drain 0 answers.drained []
  | some (req, processed) =>
    if req.ver = 1 ∧ cfg.username = req.uname ∧ cfg.password = req.passwd then
      { self with state := .waitingRequest }.respond [1, 0] processed answers
    else { self with state := .failed }.respond [1, 1] chunk.length answers

/-- The bytes of an address in a reply. -/
def replyAddress : Socks5ConnectionAddress → Bytes
  | .sockaddr ip _ => (if ip.length = 4 then 1 else 4) :: ip
  | .domainName name _ => 3 :: UInt8.ofNat name.length :: name

/-- `complete_tcp_connection`. -/
def completeTcpConnection (result : Socks5ConnectResult) (localPort : Nat) (written : Bool) :
    Outcome :=
  if written then
    ⟨.alive self, [.write ([5, (connectResultToStatus result).toByte, 0] ++ replyAddress self.dst ++
      beBytes 2 localPort)]⟩
  else ⟨.destroyed, [.connectionClosed]⟩

/-- `complete_udp_connection`. -/
def completeUdpConnection (result : Socks5ConnectResult) : Outcome :=
  if result = .success then ⟨.alive { self with state := .established }, [.connectionAccepted]⟩
  else ⟨.destroyed, [.connectionClosed]⟩

/-- `socks5_listener_complete_connect_request`. -/
def completeConnectRequest (result : Socks5ConnectResult) (localPort : Nat) (written : Bool) :
    Outcome :=
  if self.state = .failed then ⟨.alive self, []⟩
  else if self.state ≠ .waitingConnectResult then ⟨.crashed .assertion, []⟩
  else
    let state : ConnectionState := if result = .success then .waitingAccept else .failed
    let conn := { self with state := state }
    if self.tcp then conn.completeTcpConnection result localPort written
    else conn.completeUdpConnection result

/-- A `CONNECT`: the handler is told, and what it does to the connection comes first. When the
handler destroys the connection, its socket is drained all the same. -/
def raiseConnectRequest (count : Nat) (answers : Answers) : Outcome :=
  let conn := { self with state := .waitingConnectResult }
  let req := .connectRequest conn.dst conn.appName
  match answers.reaction with
  | .nothing => conn.drain count answers.drained [req]
  | .closes => ⟨.crashed .freed, [req, .connectionClosed]⟩
  | .completes result written =>
    let completed := conn.completeConnectRequest result answers.localPort written
    match completed.fate with
    | .alive conn => conn.drain count answers.drained (req :: completed.outputs)
    | .destroyed => ⟨.crashed .freed, req :: completed.outputs⟩
    | .crashed crash => ⟨.crashed crash, req :: completed.outputs⟩

/-- `complete_udp_association`, and the state behind it. -/
def completeUdpAssociation (count : Nat) (answers : Answers) : Outcome :=
  match answers.bound, self.dst with
  | none, .domainName _ _ => ⟨.crashed .assertion, []⟩
  | none, .sockaddr ip _ =>
    let address : Bytes :=
      if ip.length = 4 then [1, 127, 0, 0, 1] else 4 :: (List.replicate 15 0 ++ [1])
    let reply := [5, 1, 0] ++ address ++ answers.unset
    -- Without a relay there is no association to terminate.
    if answers.written then
      { self with state := .failed }.drain count answers.drained [.write reply]
    else ⟨.crashed .assertion, []⟩
  | some (ip, port), _ =>
    let reply := [5, 0, 0] ++ replyAddress (.sockaddr ip port) ++ beBytes 2 port
    -- When the reply cannot be written, the connection is destroyed and then used.
    if answers.written then
      { self with state := .established, relay := true }.drain count answers.drained
        [.udpRelay, .write reply]
    else ⟨.crashed .freed, [.udpRelay]⟩

/-- The request is rejected with a status. -/
def rejection (chunk : Bytes) : Option Socks5ReplyStatus :=
  if byteAt chunk 0 ≠ 5 then some .socksServerFailure
  else if byteAt chunk 1 ≠ 1 ∧ byteAt chunk 1 ≠ 3 then some .commandNotSupported
  else if byteAt chunk 2 ≠ 0 then some .socksServerFailure
  else if Socks5AddressType.ofByte (chunk.getD 3 0) = none then some .addressTypeNotSupported
  else none

/-- The label `invalid_request`: the reply with what `memcpy` takes from the request. -/
def invalidReply (chunk : Bytes) (status : Socks5ReplyStatus) (localPort : Nat) :
    Except Crash Bytes :=
  let atyp := chunk.getD 3 0
  let got := chunk.drop 4
  let length := addrLengthFromRequest (Socks5AddressType.ofByte atyp) got
  if length < 0 ∨ got.length < length then .error .overread
  else .ok ([5, status.toByte, 0, atyp] ++ got.take length.toNat ++ beBytes 2 localPort)

/-- `S5CONNS_WAITING_REQUEST`. -/
def handleRequest (chunk : Bytes) (answers : Answers) : Outcome :=
  if chunk.length < 4 then self.drain 0 answers.drained []
  else
    let conn := { self with tcp := self.tcp || (byteAt chunk 0 = 5 && byteAt chunk 1 = 1) }
    match rejection chunk, Socks5AddressType.ofByte (chunk.getD 3 0) with
    | some status, _ =>
      match invalidReply chunk status answers.localPort with
      | .error crash => ⟨.crashed crash, []⟩
      | .ok reply => { conn with state := .failed }.respond reply chunk.length answers
    -- A request that is not rejected has a known type.
    | none, none => conn.drain 0 answers.drained []
    | none, some type =>
      let got := chunk.drop 4
      let length := addrLengthFromRequest type got
      if length < 0 ∨ chunk.length < 4 + length + 2 then conn.drain 0 answers.drained []
      else
        let conn :=
          { conn with
            dst := dstAddrFromRequest type got
            appName := appNameFromRequest type got }
        let count := 4 + length.toNat + 2
        if byteAt chunk 1 = 1 then conn.raiseConnectRequest count answers
        else conn.completeUdpAssociation count answers

/-- The loop of `S5CONNS_ESTABLISHED`, with the answers for its rounds. -/
def handleData : List ReadAnswer → Connection → Bytes → Outcome
  | [], conn, _ => ⟨.alive conn, []⟩
  | answer :: answers, conn, chunk =>
    if answer.result < 0 then conn.close [.read chunk]
    else if answer.result = 0 then ⟨.alive conn, [.read chunk]⟩
    else if answer.drained = false then conn.close [.read chunk]
    else
      let conn := { conn with unread := conn.unread.drop answer.result.toNat }
      let next := conn.unread.take answer.extent
      if next = [] then
        if answer.eof then conn.close [.read chunk] else ⟨.alive conn, [.read chunk]⟩
      else
        let rest := handleData answers conn next
        ⟨rest.fate, .read chunk :: rest.outputs⟩

/-- `TCP_SOCKET_EVENT_READABLE`: the peek shows the first bytes that are not drained. Of the
data of an established connection at most 64 chunks are read. -/
def handleReadable (cfg : Socks5ListenerConfig) (extent : Nat) (eof : Bool)
    (answers : Answers) : Outcome :=
  let chunk := self.unread.take extent
  if chunk = [] then
    if eof = false then ⟨.alive self, []⟩
    else if self.isUdpAssociation then ⟨.destroyed, []⟩
    else self.close []
  else if self.isUdpAssociation then ⟨.destroyed, []⟩
  else
    match self.state with
    | .idle => self.handleIdle cfg chunk answers
    | .waitingUsernamePassword => self.handleUsernamePassword cfg chunk answers
    | .waitingRequest => self.handleRequest chunk answers
    | .waitingConnectResult => self.close []
    | .waitingAccept => self.close []
    | .established => handleData (answers.reads.take 64) self chunk
    | .failed => self.drain chunk.length answers.drained []

/-- `TCP_SOCKET_EVENT_WRITE_FLUSH`. -/
def handleWriteFlush : Outcome :=
  if self.isUdpAssociation then
    if self.state = .failed then ⟨.destroyed, []⟩ else ⟨.alive self, []⟩
  else if self.tcp then
    match self.state with
    | .waitingAccept => ⟨.alive { self with state := .established }, [.connectionAccepted]⟩
    | .failed => self.close []
    | _ => ⟨.alive self, []⟩
  else ⟨.alive self, []⟩

end Connection

/-! ## Events -/

inductive Event where
  /-- The client sends bytes, which the socket keeps. -/
  | receive (bytes : Bytes)
  | readable (extent : Nat) (eof : Bool) (answers : Answers)
  | error
  | sent (length : Nat)
  | writeFlush
  | complete (result : Socks5ConnectResult) (localPort : Nat) (written : Bool)
  | closeConnection

/-- `sock_handler` and the functions that the handler of the events calls. -/
def Connection.handle (cfg : Socks5ListenerConfig) (conn : Connection) : Event → Outcome
  | .receive bytes => ⟨.alive { conn with unread := conn.unread ++ bytes }, []⟩
  | .readable extent eof answers => conn.handleReadable cfg extent eof answers
  | .error => if conn.isUdpAssociation then ⟨.destroyed, []⟩ else conn.close []
  | .sent length =>
    if conn.isUdpAssociation = false ∧ conn.state = .established
    then ⟨.alive conn, [.dataSent length]⟩
    else ⟨.alive conn, []⟩
  | .writeFlush => conn.handleWriteFlush
  | .complete result localPort written => conn.completeConnectRequest result localPort written
  | .closeConnection => ⟨.destroyed, [.connectionClosed]⟩

/-!
## Replies to requests that are rejected

The reply repeats the address of the request. It is taken from what the client has sent exactly
when the whole address has arrived.
-/

open List

/-- The data begins with a text that is preceded by its length, and at least so many bytes. -/
def LengthFirst (data : Bytes) (more : Nat) : Prop :=
  ∃ length rest, data = length :: rest ∧ length.toNat + more ≤ rest.length

/-- The whole address has arrived; an address of an unknown type is empty. -/
def AddressReceived (data : Bytes) : Option Socks5AddressType → Prop
  | none => True
  | some .ipv4 => 4 ≤ data.length
  | some .domainname => LengthFirst data 0
  | some .ipv6 => 16 ≤ data.length
  | some .ipv4Appname => LengthFirst data 4
  | some .domainnameAppname =>
    ∃ length appName rest, data = length :: (appName ++ rest) ∧
      appName.length = length.toNat ∧ LengthFirst rest 0
  | some .ipv6Appname => LengthFirst data 16

/-- The length of the address is known and not more than what has arrived. -/
def LengthInside (type : Option Socks5AddressType) (data : Bytes) : Prop :=
  0 ≤ addrLengthFromRequest type data ∧ addrLengthFromRequest type data ≤ data.length

lemma lengthFirst_iff {data : Bytes} {more : Nat} :
    LengthFirst data more ↔ data ≠ [] ∧ 1 + byteAt data 0 + more ≤ data.length := by
  constructor
  · rintro ⟨length, rest, rfl, fits⟩
    refine ⟨cons_ne_nil _ _, ?_⟩
    rw [length_cons]
    have first : byteAt (length :: rest) 0 = length.toNat := rfl
    omega
  · rintro ⟨nonempty, fits⟩
    obtain ⟨length, rest, rfl⟩ := exists_cons_of_ne_nil nonempty
    refine ⟨length, rest, rfl, ?_⟩
    rw [length_cons] at fits
    have first : byteAt (length :: rest) 0 = length.toNat := rfl
    omega

lemma inside_iff_lengthFirst {data : Bytes} {more : Nat} {length : Int}
    (known : length = if data.length = 0 then -1 else ((1 + byteAt data 0 + more : Nat) : Int)) :
    0 ≤ length ∧ length ≤ data.length ↔ LengthFirst data more := by
  rw [lengthFirst_iff, known]
  by_cases empty : data = []
  · subst empty
    simp
  · have positive := length_pos_iff.mpr empty
    constructor
    · rintro ⟨-, fits⟩
      exact ⟨empty, by omega⟩
    · omega

/-- Behind an application name there is the domain name with its length. -/
lemma inside_iff_appname {length : UInt8} {tail : Bytes} :
    LengthInside (some .domainnameAppname) (length :: tail) ↔
      ∃ appName rest, tail = appName ++ rest ∧ appName.length = length.toNat ∧
        LengthFirst rest 0 := by
  have first : byteAt (length :: tail) 0 = length.toNat := rfl
  have second : byteAt (length :: tail) (length.toNat + 1) = byteAt (tail.drop length.toNat) 0 := by
    rw [byteAt, byteAt, getD_cons_succ, getD_eq_getElem?_getD,
      getD_eq_getElem?_getD, getElem?_drop, add_zero]
  have behind := length_drop (i := length.toNat) (l := tail)
  have unfolded : LengthInside (some .domainnameAppname) (length :: tail) ↔
      LengthFirst (tail.drop length.toNat) 0 := by
    rw [LengthInside, addrLengthFromRequest, lengthFirst_iff, first, second, length_cons,
      ← length_pos_iff]
    split
    · omega
    · omega
  rw [unfolded]
  constructor
  · intro domain
    have nonempty := (lengthFirst_iff.mp domain).1
    rw [← length_pos_iff] at nonempty
    exact ⟨tail.take _, tail.drop _,
      (take_append_drop _ _).symm, length_take_of_le (by omega), domain⟩
  · rintro ⟨appName, rest, rfl, size, domain⟩
    rwa [← size, drop_left]

lemma lengthInside_iff (type : Option Socks5AddressType) (data : Bytes) :
    LengthInside type data ↔ AddressReceived data type := by
  rcases type with _ | type
  · exact iff_of_true ⟨Int.le_refl _, Int.natCast_nonneg _⟩ trivial
  cases type with
  | ipv4 | ipv6 =>
    rw [LengthInside, addrLengthFromRequest, AddressReceived]
    omega
  | domainname | ipv4Appname
  | ipv6Appname => exact inside_iff_lengthFirst (by simp [addrLengthFromRequest])
  | domainnameAppname =>
    cases data with
    | nil =>
      refine iff_of_false (fun inside => ?_) ?_
      · exact absurd inside.1 (by decide)
      · rintro ⟨length, appName, rest, split, -⟩
        cases split
    | cons length =>
      rw [inside_iff_appname]
      constructor
      · rintro ⟨appName, rest, rfl, size, domain⟩
        exact ⟨length, appName, rest, rfl, size, domain⟩
      · rintro ⟨other, appName, rest, split, size, domain⟩
        cases split
        exact ⟨appName, rest, rfl, size, domain⟩

variable {answers : Answers}

lemma write_mem_respond {conn : Connection} (failed : conn.state = .failed)
    (written : answers.written = true) (reply : Bytes) (count : Nat) :
    .write reply ∈ (conn.respond reply count answers).outputs := by
  rw [Connection.respond, if_pos written, Connection.drain]
  split
  · exact mem_singleton_self _
  · have reported : conn.state.isReported = true := failed ▸ rfl
    rw [Connection.close, if_pos reported]
    exact mem_cons_self

/-- The reply to a rejected request has its header, an address from what was received and the
port exactly when the whole address has arrived, and so is the length of the address inside of
what was received. -/
theorem reply_wellFormed_iff (conn : Connection) (chunk : Bytes) (answers : Answers)
    (status : Socks5ReplyStatus) (long : 4 ≤ chunk.length)
    (rejected : Connection.rejection chunk = some status) (written : answers.written = true) :
    ((∃ address, address <+: chunk.drop 4 ∧
        .write ([5, status.toByte, 0, chunk.getD 3 0] ++ address ++ beBytes 2 answers.localPort) ∈
          (conn.handleRequest chunk answers).outputs) ↔
      AddressReceived (chunk.drop 4) (Socks5AddressType.ofByte (chunk.getD 3 0))) ∧
    (LengthInside (Socks5AddressType.ofByte (chunk.getD 3 0)) (chunk.drop 4) ↔
      AddressReceived (chunk.drop 4) (Socks5AddressType.ofByte (chunk.getD 3 0))) := by
  refine ⟨?_, lengthInside_iff _ _⟩
  rw [← lengthInside_iff, Connection.handleRequest, if_neg (Nat.not_lt_of_le long)]
  constructor
  · rintro ⟨address, -, mem⟩
    by_contra outside
    have crashed : Connection.invalidReply chunk status answers.localPort = .error .overread := by
      refine if_pos ?_
      rw [LengthInside, not_and_or] at outside
      omega
    simp only [rejected, crashed] at mem
    exact absurd mem not_mem_nil
  · rintro ⟨lower, upper⟩
    have reply : Connection.invalidReply chunk status answers.localPort = .ok _ := if_neg (by omega)
    simp only [rejected, reply]
    exact ⟨_, take_prefix _ _, write_mem_respond rfl written _ _⟩

def requesting : Connection := { Connection.new with state := .waitingRequest }

/-- A request of another version with the whole of its address. -/
theorem reply_wellFormed_wrongVersion :
    Connection.rejection [4, 1, 0, 1, 10, 0, 0, 1] = some .socksServerFailure ∧
      ∃ address, address <+: [10, 0, 0, 1] ∧
        .write ([5, 1, 0, 1] ++ address ++ [4, 56]) ∈
          (requesting.handleRequest [4, 1, 0, 1, 10, 0, 0, 1] plainAnswers).outputs := by
  refine ⟨by decide, ?_⟩
  exact (reply_wellFormed_iff requesting [4, 1, 0, 1, 10, 0, 0, 1] plainAnswers
    .socksServerFailure (by decide) (by decide) rfl).1.mpr (by decide : 4 ≤ 4)

/-- Without the length byte of a domain name the length of the address is negative, and without
the bytes of an IPv4 address more is copied than was received. -/
theorem not_reply_wellFormed :
    (Connection.rejection [4, 1, 0, 3] = some .socksServerFailure ∧
      addrLengthFromRequest (some .domainname) [] = -1 ∧
      requesting.handleRequest [4, 1, 0, 3] plainAnswers = ⟨.crashed .overread, []⟩) ∧
    (Connection.rejection [5, 2, 0, 1, 10] = some .commandNotSupported ∧
      addrLengthFromRequest (some .ipv4) [10] = 4 ∧
      requesting.handleRequest [5, 2, 0, 1, 10] plainAnswers = ⟨.crashed .overread, []⟩) := by
  decide

end TrustTunnel.Client.Socks5Listener
