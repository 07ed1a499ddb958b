import TrustTunnel.Endpoint.IoError
import TrustTunnel.Endpoint.NetUtils
import TrustTunnel.Wire.Records

/-!
# Authentication messages of the SOCKS5 client

A username and a password are written behind lengths of one byte, the values of the
extended authentication as records with lengths of two bytes. The two grammars are stated
as parsers of a whole message. The length of an extended value is checked before it is
written, the lengths of a username and of a password are cast to a byte: a message says
what it was made from exactly if these two fit.
-/

namespace TrustTunnel.Endpoint.Socks5Client

open NetUtils List
open Bytes (ofString)

inductive Error where
  | io (error : IoError)
  | protocol (msg : String)
  | authentication (msg : String)
  deriving DecidableEq

inductive AuthenticationMethod where
  | noAuth
  | usernamePassword
  | extendedAuth
  | noAcceptable
  deriving DecidableEq

inductive ExtendedAuthenticationValue where
  | domain (name : String)
  | clientAddress (address : IpAddr)
  | userAgent (text : String)
  | basicProxyAuth (text : String)
  | sniAuth
  deriving DecidableEq

def ExtendedAuthenticationValue.typeCode : ExtendedAuthenticationValue → UInt8
  | domain _ => 0x01
  | clientAddress _ => 0x02
  | userAgent _ => 0x03
  | basicProxyAuth _ => 0x04
  | sniAuth => 0x05

inductive Authentication where
  | usernamePassword (username password : String)
  | extended (values : List ExtendedAuthenticationValue)
  deriving DecidableEq

def Authentication.toMethod : Authentication → AuthenticationMethod
  | usernamePassword .. => .usernamePassword
  | extended _ => .extendedAuth

def usernamePasswordAuthenticationVer : UInt8 := 0x01

def extendedAuthenticationTermTypeCode : UInt8 := 0x00

def extendedAuthenticationTermValLength : UInt16 := 0x00

/-! ## Writing -/

def putU16 (buf : Bytes) (x : UInt16) : Bytes := buf ++ Wire.beBytes 2 x.toNat

/-- The branch of a value that is a text. -/
def putText (buf : Bytes) (text tooLong : String) : Except Error Bytes :=
  if (Bytes.ofString text).length > 65535 then .error (.protocol tooLong)
  else .ok (putU16 buf (.ofNat (Bytes.ofString text).length) ++ Bytes.ofString text)

def writeExtendedAuthenticationValue (buf : Bytes) (value : ExtendedAuthenticationValue) :
    Except Error Bytes :=
  let buf := buf ++ [value.typeCode]
  match value with
  | .domain x => putText buf x "Too long domain name"
  | .clientAddress (.v4 x) => .ok (putU16 buf (.ofNat ipv4WireLength) ++ x.toList)
  | .clientAddress (.v6 x) => .ok (putU16 buf (.ofNat ipv6WireLength) ++ x.toList)
  | .userAgent x => putText buf x "Too long User-Agent"
  | .basicProxyAuth x => putText buf x "Too long Proxy-Authorization"
  | .sniAuth => .ok (putU16 buf 0)

def writeExtendedAuthenticationTermValue (buf : Bytes) : Except Error Bytes :=
  .ok (putU16 (buf ++ [extendedAuthenticationTermTypeCode]) extendedAuthenticationTermValLength)

/-- The buffer that `write_authentication_message` fills. -/
def authenticationMessage : Authentication → Except Error Bytes
  | .usernamePassword username password =>
    -- `len() as u8` keeps the low byte of the length.
    .ok ([usernamePasswordAuthenticationVer]
      ++ [UInt8.ofNat (Bytes.ofString username).length] ++ Bytes.ofString username
      ++ [UInt8.ofNat (Bytes.ofString password).length] ++ Bytes.ofString password)
  | .extended values => do
      let buf ← values.foldlM writeExtendedAuthenticationValue [usernamePasswordAuthenticationVer]
      writeExtendedAuthenticationTermValue buf

/-- What the socket does with the bytes of a `write_all`. -/
inductive Socket where
  | takesAll
  | fails (taken : Nat) (error : IoError)
  deriving DecidableEq

/-- The result of `write_all`, and the bytes that are written. -/
def Socket.writeAll (buf : Bytes) : Socket → Except Error Unit × Bytes
  | takesAll => (.ok (), buf)
  | fails taken error => (.error (.io error), buf.take taken)

/-- The result, and the bytes that are written to the socket. -/
def writeAuthenticationMessage (socket : Socket) (auth : Authentication) :
    Except Error Unit × Bytes :=
  match authenticationMessage auth with
  | .error error => (.error error, [])
  | .ok buf => socket.writeAll buf

/-! ## The grammars -/

/-- VER, ULEN, UNAME, PLEN, PASSWD, and nothing behind them. -/
def parseUsernamePassword : Bytes → Option Authentication
  | [] => none
  | version :: msg =>
    if version = 0x01 then do
      let (username, msg) ← Wire.readCounted 1 msg
      let (password, msg) ← Wire.readCounted 1 msg
      let username ← Bytes.fromUtf8 username
      let password ← Bytes.fromUtf8 password
      if msg = [] then some (.usernamePassword username password) else none
    else none

def parseAddress (bytes : Bytes) : Option IpAddr :=
  if four : bytes.length = 4 then some (.v4 ⟨bytes, four⟩)
  else if sixteen : bytes.length = 16 then some (.v6 ⟨bytes, sixteen⟩)
  else none

def parseValue (record : Wire.Record) : Option ExtendedAuthenticationValue :=
  if record.type = 0x01 then (Bytes.fromUtf8 record.value).map .domain
  else if record.type = 0x02 then (parseAddress record.value).map .clientAddress
  else if record.type = 0x03 then (Bytes.fromUtf8 record.value).map .userAgent
  else if record.type = 0x04 then (Bytes.fromUtf8 record.value).map .basicProxyAuth
  else if record.type = 0x05 ∧ record.value = [] then some .sniAuth
  else none

/-- VER and extensions up to TERM, which has no value, and nothing behind them. -/
def parseExtended : Bytes → Option Authentication
  | [] => none
  | version :: msg =>
    if version = 0x01 then do
      let (records, last, msg) ← Wire.readRecords 2 0x00 msg
      let values ← records.mapM parseValue
      if last.value = [] ∧ msg = [] then some (.extended values) else none
    else none

/-- What the server reads from a message after it has selected a method. -/
def parse : AuthenticationMethod → Bytes → Option Authentication
  | .usernamePassword, msg => parseUsernamePassword msg
  | .extendedAuth, msg => parseExtended msg
  | .noAuth, _ => none
  | .noAcceptable, _ => none

/-- An error is returned, or the server reads what was to be written. -/
def Faithful (socket : Socket) (auth : Authentication) : Prop :=
  (∃ error, (writeAuthenticationMessage socket auth).1 = .error error) ∨
    parse auth.toMethod (writeAuthenticationMessage socket auth).2 = some auth

/-! ## A username and a password -/

variable {msg : Bytes} {username password : String}

open Wire

lemma parseUsernamePassword_eq_some :
    parseUsernamePassword (0x01 :: msg) = some (.usernamePassword username password) ↔
      ∃ behind, readCounted 1 msg = some (ofString username, behind) ∧
        readCounted 1 behind = some (ofString password, []) := by
  simp only [parseUsernamePassword, ↓reduceIte, Option.bind_eq_bind, Option.bind_eq_some_iff,
    Option.ite_none_right_eq_some, Option.some.injEq, Authentication.usernamePassword.injEq]
  constructor
  · rintro ⟨⟨_, behind⟩, first, ⟨_, _⟩, second, _, utf8, _, utf8', rfl, rfl, rfl⟩
    rw [Bytes.fromUtf8_eq_some_iff] at utf8 utf8'
    subst utf8 utf8'
    exact ⟨behind, first, second⟩
  · rintro ⟨behind, first, second⟩
    exact ⟨_, first, _, second, _, Bytes.fromUtf8_ofString _, _, Bytes.fromUtf8_ofString _, rfl,
      rfl, rfl⟩

/-- The username and the password fit into their lengths. -/
def CountsFit : Authentication → Prop
  | .usernamePassword username password =>
    (Bytes.ofString username).length ≤ 255 ∧ (Bytes.ofString password).length ≤ 255
  | .extended _ => True

/-- The server reads the username and the password exactly if both lengths fit. -/
lemma parse_usernamePassword_iff
    (written : authenticationMessage (.usernamePassword username password) = .ok msg) :
    parseUsernamePassword msg = some (.usernamePassword username password) ↔
      CountsFit (.usernamePassword username password) := by
  have msg : msg = 0x01 :: (counted 1 (ofString username) ++
      (counted 1 (ofString password) ++ [])) := by
    simp [← Except.ok.inj written, counted, beBytes, usernamePasswordAuthenticationVer]
  subst msg
  rw [parseUsernamePassword_eq_some, readCounted_counted]
  constructor
  · rintro ⟨behind, first, second⟩
    rw [Option.some.injEq, Prod.mk.injEq, take_mod_eq_self_iff] at first
    obtain ⟨fits, rfl⟩ := first
    rw [Nat.mod_eq_of_lt fits, drop_length, nil_append, readCounted_counted,
      Option.some.injEq, Prod.mk.injEq, take_mod_eq_self_iff] at second
    exact ⟨Nat.le_of_lt_succ fits, Nat.le_of_lt_succ second.1⟩
  · rintro ⟨fits, fits'⟩
    refine ⟨_, ?_, readCounted_of_lt (Nat.lt_succ_of_le fits') []⟩
    rw [← readCounted_counted, readCounted_of_lt (Nat.lt_succ_of_le fits)]

/-! ## Extended values -/

namespace ExtendedAuthenticationValue

/-- The bytes of a value. -/
def content : ExtendedAuthenticationValue → Bytes
  | domain x => Bytes.ofString x
  | clientAddress (.v4 x) => x.toList
  | clientAddress (.v6 x) => x.toList
  | userAgent x => Bytes.ofString x
  | basicProxyAuth x => Bytes.ofString x
  | sniAuth => []

def record (value : ExtendedAuthenticationValue) : Wire.Record := ⟨value.typeCode, value.content⟩

lemma parseValue_record (value : ExtendedAuthenticationValue) :
    parseValue value.record = some value := by
  cases value with
  | domain | userAgent
  | basicProxyAuth => simp [parseValue, record, typeCode, content, Bytes.fromUtf8_ofString]
  | clientAddress address =>
    cases address with
    | v4 | v6 => simp [parseValue, record, typeCode, content, parseAddress]
  | sniAuth => simp [parseValue, record, typeCode, content]

end ExtendedAuthenticationValue

open ExtendedAuthenticationValue Wire.Record

lemma putU16_counted {value : Bytes} (fits : value.length ≤ 65535) (buf : Bytes) (type : UInt8) :
    putU16 (buf ++ [type]) (.ofNat value.length) ++ value = buf ++ toBytes 2 ⟨type, value⟩ := by
  have count : (UInt16.ofNat value.length).toNat = value.length := by
    rw [UInt16.toNat_ofNat']
    omega
  simp [putU16, toBytes, counted, count]

variable {buf : Bytes} {values : List ExtendedAuthenticationValue}

lemma putText_eq_ok {type : UInt8} {text tooLong : String}
    (written : putText (buf ++ [type]) text tooLong = .ok msg) :
    (ofString text).length ≤ 65535 ∧ msg = buf ++ toBytes 2 ⟨type, ofString text⟩ := by
  rw [putText] at written
  split at written
  case isTrue long => cases written
  case isFalse short =>
    have fits : (ofString text).length ≤ 65535 := Nat.le_of_not_lt short
    cases written
    exact ⟨fits, putU16_counted fits buf type⟩

/-- A value that is written fits and becomes a record. -/
lemma writeExtendedAuthenticationValue_eq_ok {value : ExtendedAuthenticationValue}
    (written : writeExtendedAuthenticationValue buf value = .ok msg) :
    value.content.length < 256 ^ 2 ∧ msg = buf ++ value.record.toBytes 2 := by
  cases value with
  | domain | userAgent | basicProxyAuth =>
    obtain ⟨fits, rfl⟩ := putText_eq_ok written
    exact ⟨Nat.lt_succ_of_le fits, rfl⟩
  | clientAddress address =>
    cases address with
    | v4 | v6 =>
      cases written
      refine ⟨by simp [content], ?_⟩
      rw [record, content, ← putU16_counted (by simp), List.Vector.toList_length]
      rfl
  | sniAuth =>
    cases written
    refine ⟨by simp [content], ?_⟩
    rw [record, content, ← putU16_counted (by simp), append_nil]
    rfl

lemma writeValues_eq_ok (written : values.foldlM writeExtendedAuthenticationValue buf = .ok msg) :
    (∀ value ∈ values, value.content.length < 256 ^ 2) ∧
      msg = buf ++ (values.map record).flatMap (toBytes 2) := by
  induction values generalizing buf with
  | nil =>
    cases written
    simp
  | cons _ _ ih =>
    rw [foldlM_cons, bind_eq_ok] at written
    obtain ⟨between, first, others⟩ := written
    obtain ⟨fits, rfl⟩ := writeExtendedAuthenticationValue_eq_ok first
    obtain ⟨othersFit, rfl⟩ := ih others
    exact ⟨forall_mem_cons.mpr ⟨fits, othersFit⟩, by simp⟩

lemma mapM_parseValue_record (values : List ExtendedAuthenticationValue) :
    (values.map record).mapM parseValue = some values := by
  induction values with
  | nil => rfl
  | cons _ _ ih =>
    rw [map_cons, mapM_cons, ih, parseValue_record]
    rfl

/-- The server reads the values of a message that is written. -/
lemma parse_extended (written : authenticationMessage (.extended values) = .ok msg) :
    parseExtended msg = some (.extended values) := by
  rw [authenticationMessage, bind_eq_ok] at written
  obtain ⟨before, written, ended⟩ := written
  obtain ⟨fit, rfl⟩ := writeValues_eq_ok written
  have last : msg = 0x01 :: ((values.map record).flatMap (toBytes 2) ++
      (toBytes 2 ⟨0x00, []⟩ ++ [])) := by
    cases ended
    simp [putU16, toBytes, counted, extendedAuthenticationTermTypeCode,
      extendedAuthenticationTermValLength, usernamePasswordAuthenticationVer]
  have shorter : ∀ entry ∈ values.map record, entry.value.length < 256 ^ 2 := forall_mem_map.mpr fit
  have others : ∀ entry ∈ values.map record, entry.type ≠ 0x00 :=
    forall_mem_map.mpr fun value _ => by cases value <;> simp [record, typeCode]
  have term : (⟨0x00, []⟩ : Wire.Record).value.length < 256 ^ 2 := by decide
  rw [last, parseExtended, readRecords_flatMap shorter others term rfl]
  dsimp only [Option.bind_eq_bind, Option.bind_some]
  rw [mapM_parseValue_record]
  rfl

/-! ## Messages -/

lemma parse_message_iff {auth : Authentication} (written : authenticationMessage auth = .ok msg) :
    parse auth.toMethod msg = some auth ↔ CountsFit auth := by
  cases auth with
  | usernamePassword => exact parse_usernamePassword_iff written
  | extended => exact iff_of_true (parse_extended written) trivial

/-- A message is faithful exactly if the socket fails or the lengths of the username and of
the password fit. -/
theorem writeAuthenticationMessage_faithful_iff (socket : Socket) (auth : Authentication) :
    Faithful socket auth ↔ socket ≠ .takesAll ∨ CountsFit auth := by
  cases result : authenticationMessage auth with
  | error error =>
    have refused : (writeAuthenticationMessage socket auth).1 = .error error := by
      rw [writeAuthenticationMessage, result]
    refine iff_of_true (.inl ⟨error, refused⟩) (.inr ?_)
    -- only extended values are refused
    cases auth with
    | usernamePassword => cases result
    | extended => trivial
  | ok msg =>
    cases socket with
    | fails taken error =>
      have failed : (writeAuthenticationMessage (.fails taken error) auth).1 =
          .error (.io error) := by
        simp only [writeAuthenticationMessage, result, Socket.writeAll]
      exact iff_of_true (.inl ⟨_, failed⟩) (.inl (by simp))
    | takesAll =>
      have written : writeAuthenticationMessage .takesAll auth = (.ok (), msg) := by
        simp only [writeAuthenticationMessage, result, Socket.writeAll]
      simp [Faithful, written, parse_message_iff result]

/-- A username of 256 bytes. -/
def longUsername : String := String.ofList (List.replicate 256 'a')

/-- The length of the username is written as 0. -/
theorem not_faithful_longUsername : ¬Faithful .takesAll (.usernamePassword longUsername "") := by
  have length : (ofString longUsername).length = 256 := by decide +kernel
  have written : writeAuthenticationMessage .takesAll (.usernamePassword longUsername "") =
      (.ok (), _) := rfl
  rintro (⟨error, failed⟩ | read)
  · cases failed
  · have fits := (parse_usernamePassword_iff rfl).mp read
    rw [CountsFit] at fits
    omega

/-!
## Datagrams of a SOCKS5 UDP association

A datagram carries the address of its peer in a header whose size depends on the family.
The receiver makes room for the larger header, so that up to 12 bytes more than the caller
has room for are left behind the smaller one; all of them are counted.
-/

def reserved : UInt8 := 0x00

def udpHeaderFrag : UInt8 := 0x00

def addressTypeIpV4 : UInt8 := 0x01

def addressTypeIpV6 : UInt8 := 0x04

def udpBufferSize (addressSize dataCap : Nat) : Nat := 2 + 1 + 1 + addressSize + 2 + dataCap

/-- The address type and the address. -/
def putAddress : IpAddr → Bytes
  | .v4 octets => addressTypeIpV4 :: octets.toList
  | .v6 octets => addressTypeIpV6 :: octets.toList

/-- The datagram that `send_to` hands to the socket. -/
def sendTo (data : Bytes) (dest : SocketAddr) : Bytes :=
  reserved :: reserved :: udpHeaderFrag ::
    (putAddress dest.ip ++ (Wire.beBytes 2 dest.port.toNat ++ data))

/-- What `recv_from` returns, and what it has stored in the buffer of its caller. -/
structure Received where
  count : Nat
  source : SocketAddr
  stored : Bytes

/-- `copy_to_slice` into an array. -/
def copyToArray (size : Nat) (buf : Bytes) : Except Fault (List.Vector UInt8 size × Bytes) := do
  let (octets, buf) ← buf.splitTo size
  return (← tryInto size octets, buf)

/-- Read the address behind its type. -/
def readAddress (buf : Bytes) : Except Fault (Except Error (IpAddr × Bytes)) := do
  let (type, buf) ← buf.getU8
  if type = addressTypeIpV4 then
    let (octets, buf) ← copyToArray ipv4WireLength buf
    return .ok (.v4 octets, buf)
  else if type = addressTypeIpV6 then
    if buf.length < ipv6WireLength then
      return .error (.protocol "Packet length doesn't conform to announced address type")
    let (octets, buf) ← copyToArray ipv6WireLength buf
    return .ok (.v6 octets, buf)
  else return .error (.protocol s!"Unexpected address type: {type.toNat}")

/-- Read the port, and copy what is behind it. -/
def readPayload (cap : Nat) (ip : IpAddr) (buf : Bytes) : Except Fault (Except Error Received) := do
  if buf.length < 2 then return .error (.protocol "Too short packet")
  let (port, buf) ← buf.getU16
  let (stored, _) ← buf.splitTo (min buf.length cap)
  return .ok ⟨buf.length, ⟨ip, port⟩, stored⟩

/-- `recv_from` with a buffer for `cap` bytes, when the datagram arrives at the socket. -/
def recvFrom (cap : Nat) (dgram : Bytes) : Except Fault (Except Error Received) := do
  -- the socket drops what does not fit into the buffer
  let buf := dgram.take (udpBufferSize ipv6WireLength cap)
  if buf.length < udpBufferSize ipv4WireLength 0 then
    return .error (.protocol "Too short packet")
  let (first, buf) ← Bytes.getU8 buf
  if first ≠ reserved then return .error (.protocol "Unexpected reserved bytes")
  let (second, buf) ← buf.getU8
  if second ≠ reserved then return .error (.protocol "Unexpected reserved bytes")
  let (frag, buf) ← buf.getU8
  if frag ≠ udpHeaderFrag then return .error (.protocol "Unexpected fragmentation byte")
  match ← readAddress buf with
  | .error error => return .error error
  | .ok (ip, buf) => readPayload cap ip buf

/-- The receiver gets the address and a part of the payload from its front, and is told how
much it got. -/
def Framed (cap : Nat) (data : Bytes) (address : SocketAddr) : Prop :=
  ∃ got, recvFrom cap (sendTo data address) = .ok (.ok got) ∧
    got.source = address ∧ got.stored <+: data ∧ got.count = got.stored.length

section

variable {size : Nat} {buf : Bytes} (cap : Nat)

lemma copyToArray_append (octets : List.Vector UInt8 size) (rest : Bytes) :
    copyToArray size (octets.toList ++ rest) = .ok (octets, rest) := by
  obtain ⟨octets, length⟩ := octets
  change copyToArray size (octets ++ rest) = _
  rw [copyToArray, Bytes.splitTo_append' rest length]
  simp only [ok_bind, tryInto_of_length length]
  rfl

lemma readPayload_append (ip : IpAddr) {port : Bytes} (length : port.length = 2) (data : Bytes) :
    readPayload cap ip (port ++ data) =
      .ok (.ok ⟨data.length, ⟨ip, .ofNat (Wire.beNat port)⟩, data.take cap⟩) := by
  have long : ¬(port ++ data).length < 2 := by
    rw [length_append]
    omega
  rw [readPayload, if_neg long, Bytes.getU16_append data length]
  have stored : data.take (min data.length cap) = data.take cap := by
    rw [min_comm, ← take_eq_take_min]
  simp only [ok_bind, Bytes.splitTo_of_le (min_le_left _ cap), stored]
  rfl

/-! ## No panic -/

lemma exists_copyToArray (enough : size ≤ buf.length) :
    ∃ result, copyToArray size buf = .ok result := by
  obtain ⟨front, back, rfl, length, -⟩ := buf.exists_append size enough
  exact ⟨_, copyToArray_append ⟨front, length⟩ back⟩

/-- The type of the address and four bytes are behind the first three bytes. -/
lemma exists_readAddress (enough : 5 ≤ buf.length) : ∃ result, readAddress buf = .ok result := by
  match buf with
  | type :: buf =>
    rw [readAddress]
    simp only [Bytes.getU8, ok_bind]
    split_ifs with four six short
    · obtain ⟨result, copied⟩ := exists_copyToArray (show ipv4WireLength ≤ buf.length from
        Nat.le_of_succ_le_succ enough)
      simp only [copied]
      exact ⟨_, rfl⟩
    · exact ⟨_, rfl⟩
    · obtain ⟨result, copied⟩ := exists_copyToArray (Nat.le_of_not_lt short)
      simp only [copied]
      exact ⟨_, rfl⟩
    · exact ⟨_, rfl⟩

lemma exists_readPayload (ip : IpAddr) (buf : Bytes) :
    ∃ result, readPayload cap ip buf = .ok result := by
  by_cases short : buf.length < 2
  · exact ⟨_, if_pos short⟩
  · obtain ⟨port, data, rfl, length, -⟩ := buf.exists_append 2 (Nat.le_of_not_lt short)
    exact ⟨_, readPayload_append cap ip length data⟩

lemma exists_recvFrom (dgram : Bytes) : ∃ result, recvFrom cap dgram = .ok result := by
  rw [recvFrom]
  generalize dgram.take _ = buf
  split
  · exact ⟨_, rfl⟩
  · rename_i long
    match buf, long with
    | [], long | [_], long | [_, _], long => simp [udpBufferSize] at long
    | first :: second :: frag :: buf, long =>
      have enough : 5 ≤ buf.length := by
        simp [udpBufferSize, ipv4WireLength] at long
        omega
      obtain ⟨address, read⟩ := exists_readAddress enough
      simp only [Bytes.getU8, ok_bind, read]
      cases address with
      | error => split_ifs <;> exact ⟨_, rfl⟩
      | ok address =>
        obtain ⟨result, payload⟩ := exists_readPayload cap address.1 address.2
        simp only [payload]
        split_ifs <;> exact ⟨_, rfl⟩

end

/-! ## Round trip -/

lemma readAddress_append (ip : IpAddr) (rest : Bytes) :
    readAddress (putAddress ip ++ rest) = .ok (.ok (ip, rest)) := by
  cases ip with
  | v4 octets =>
    have copied : copyToArray ipv4WireLength (octets.toList ++ rest) = .ok (octets, rest) :=
      copyToArray_append octets rest
    simp only [putAddress, cons_append, readAddress, Bytes.getU8, ok_bind, copied]
    rfl
  | v6 octets =>
    have copied : copyToArray ipv6WireLength (octets.toList ++ rest) = .ok (octets, rest) :=
      copyToArray_append octets rest
    have long : ¬(octets.toList ++ rest).length < ipv6WireLength := by simp [ipv6WireLength]
    simp only [putAddress, cons_append, readAddress, Bytes.getU8, ok_bind, copied, if_neg long]
    rfl

/-- The bytes by which the receiver's header is larger than the one of the datagram. -/
def slack : IpAddr → Nat
  | .v4 _ => ipv6WireLength - ipv4WireLength
  | .v6 _ => 0

section

variable (data : Bytes) (address : SocketAddr)

lemma length_sendTo :
    (sendTo data address).length + slack address.ip =
      udpBufferSize ipv6WireLength 0 + data.length := by
  obtain ⟨ip, port⟩ := address
  cases ip <;> simp [sendTo, putAddress, slack, udpBufferSize, ipv6WireLength, ipv4WireLength] <;>
    omega

lemma take_sendTo (cap : Nat) :
    (sendTo data address).take (udpBufferSize ipv6WireLength cap) =
      sendTo (data.take (slack address.ip + cap)) address := by
  have front (data : Bytes) : sendTo data address = sendTo [] address ++ data := by simp [sendTo]
  have room : udpBufferSize ipv6WireLength cap =
      (sendTo [] address).length + (slack address.ip + cap) := by
    rw [← add_assoc, length_sendTo]
    rfl
  rw [front data, front (data.take _), room, take_length_add_append]

/-- The receiver reads back what was sent, cut to the room it made. -/
lemma recvFrom_sendTo (cap : Nat) :
    recvFrom cap (sendTo data address) =
      .ok (.ok ⟨min (slack address.ip + cap) data.length, address, data.take cap⟩) := by
  rw [recvFrom, take_sendTo]
  have stored : (data.take (slack address.ip + cap)).take cap = data.take cap := by
    rw [take_take, min_eq_left (Nat.le_add_left cap _)]
  rw [← stored, ← length_take]
  generalize data.take _ = payload
  have long : ¬(sendTo payload address).length < udpBufferSize ipv4WireLength 0 := by
    have length := length_sendTo payload address
    have bound : slack address.ip ≤ 12 := by
      cases address.ip <;> simp [slack, ipv6WireLength, ipv4WireLength]
    simp only [udpBufferSize, ipv4WireLength, ipv6WireLength] at length ⊢
    omega
  rw [if_neg long]
  simp only [sendTo, Bytes.getU8, ok_bind, readAddress_append,
    readPayload_append cap _ (Wire.length_beBytes 2 _), port_of_wire]
  rfl

end

/-- No datagram makes the receiver panic. A datagram of `send_to` is counted right exactly if
it has an IPv6 address or its payload fits. -/
theorem framed_iff (cap : Nat) :
    (∀ dgram, ∃ result, recvFrom cap dgram = .ok result) ∧
      ∀ data address, Framed cap data address ↔ address.ip.isIpv6 = true ∨ data.length ≤ cap := by
  refine ⟨exists_recvFrom cap, ?_⟩
  intro data address
  simp only [Framed, recvFrom_sendTo, Except.ok.injEq, exists_eq_left', true_and, take_prefix,
    length_take]
  cases address.ip with
  | v4 => simp [slack, IpAddr.isIpv6, ipv6WireLength, ipv4WireLength]; omega
  | v6 => simp [slack, IpAddr.isIpv6]

/-- A buffer for one byte, and a payload of two bytes from an IPv4 address. -/
theorem not_framed_ipv4 : ¬Framed 1 [10, 20] ⟨.v4 (.new 192 0 2 1), 53⟩ := by
  rintro ⟨got, taken, -, -, counted⟩
  cases taken
  exact absurd counted (by decide)

end TrustTunnel.Endpoint.Socks5Client
