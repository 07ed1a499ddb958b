import TrustTunnel.Endpoint.IoError
import TrustTunnel.Rfc9000.Varint

/-!
# Deep-link configurations

The configuration that a deep link carries, the checks on it, and the builder. The
setters of the builder only fill in its fields, so that every builder can be made
with them.
-/

namespace TrustTunnel.DeepLink

/-- The errors of encoding and decoding, with the data they report. -/
inductive DeepLinkError where
  | invalidBase64 (msg : String)
  | truncatedTlv (tag : UInt8) (expected got : Nat)
  | missingRequiredField (field : String)
  | invalidProtocol (byte : UInt8)
  | unsupportedVersion (found maxSupported : Nat)
  | truncatedListEntry (expected got : Nat)
  | varintOverflow (value : Nat)
  | invalidUtf8 (bytes : Bytes)
  | invalidAddress (msg : String)
  | invalidBoolean (byte : UInt8)
  | invalidScheme (scheme : String)
  | io (error : Endpoint.IoError)
  deriving DecidableEq

/-- The functions of other crates: an error is the text that is displayed for it. -/
structure Crates where
  base64Encode : Bytes → String
  base64Decode : String → Except String Bytes
  hexDecode : String → Except String Bytes

inductive TlvTag where
  | version
  | hostname
  | address
  | customSni
  | hasIpv6
  | username
  | password
  | skipVerification
  | certificate
  | upstreamProtocol
  | antiDpi
  | clientRandomPrefix
  | name
  | dnsUpstreams
  deriving DecidableEq

namespace TlvTag

def asU8 : TlvTag → UInt8
  | version => 0x00
  | hostname => 0x01
  | address => 0x02
  | customSni => 0x03
  | hasIpv6 => 0x04
  | username => 0x05
  | password => 0x06
  | skipVerification => 0x07
  | certificate => 0x08
  | upstreamProtocol => 0x09
  | antiDpi => 0x0A
  | clientRandomPrefix => 0x0B
  | name => 0x0C
  | dnsUpstreams => 0x0D

def fromU8 (value : UInt8) : Option TlvTag :=
  match value with
  | 0x00 => some version
  | 0x01 => some hostname
  | 0x02 => some address
  | 0x03 => some customSni
  | 0x04 => some hasIpv6
  | 0x05 => some username
  | 0x06 => some password
  | 0x07 => some skipVerification
  | 0x08 => some certificate
  | 0x09 => some upstreamProtocol
  | 0x0A => some antiDpi
  | 0x0B => some clientRandomPrefix
  | 0x0C => some name
  | 0x0D => some dnsUpstreams
  | _ => none

lemma fromU8_asU8 (tag : TlvTag) : fromU8 tag.asU8 = some tag := by
  cases tag <;> rfl

lemma asU8_le (tag : TlvTag) : tag.asU8.toNat ≤ 13 := by
  cases tag <;> decide

lemma fromU8_eq_none (value : UInt8) : fromU8 value = none ↔ 13 < value.toNat := by
  have every : ∀ index : Fin 256,
      fromU8 (.ofNat index) = none ↔ 13 < (UInt8.ofNat index.val).toNat := by
    decide +kernel
  have this := every ⟨value.toNat, value.toNat_lt⟩
  rwa [UInt8.ofNat_toNat] at this

end TlvTag

inductive Protocol where
  | http2
  | http3
  deriving DecidableEq

namespace Protocol

def asU8 : Protocol → UInt8
  | http2 => 0x01
  | http3 => 0x02

def fromU8 (value : UInt8) : Except DeepLinkError Protocol :=
  match value with
  | 0x01 => .ok http2
  | 0x02 => .ok http3
  | value => .error (.invalidProtocol value)

end Protocol

def currentVersion : Nat := 1

structure DeepLinkConfig where
  hostname : String
  addresses : List String
  username : String
  password : String
  clientRandomPrefix : Option String
  customSni : Option String
  hasIpv6 : Bool
  skipVerification : Bool
  certificate : Option Bytes
  upstreamProtocol : Protocol
  antiDpi : Bool
  name : Option String
  dnsUpstreams : List String
  deriving DecidableEq

namespace DeepLinkConfig

def validate (self : DeepLinkConfig) : Except DeepLinkError Unit :=
  if self.hostname = "" then .error (.missingRequiredField "hostname")
  else if self.addresses = [] then .error (.missingRequiredField "addresses")
  else if self.username = "" then .error (.missingRequiredField "username")
  else if self.password = "" then .error (.missingRequiredField "password")
  else .ok ()

/-- The fields that `validate` asks for. -/
structure Complete (cfg : DeepLinkConfig) : Prop where
  hostname : cfg.hostname ≠ ""
  addresses : cfg.addresses ≠ []
  username : cfg.username ≠ ""
  password : cfg.password ≠ ""

lemma validate_eq_ok {self : DeepLinkConfig} : self.validate = .ok () ↔ self.Complete := by
  constructor
  · fun_cases validate self with
    | case1 | case2 | case3 | case4 => exact nofun
    | case5 hostname addresses username password =>
      exact fun _ => ⟨hostname, addresses, username, password⟩
  · intro complete
    rw [validate, if_neg complete.hostname, if_neg complete.addresses,
      if_neg complete.username, if_neg complete.password]

end DeepLinkConfig

structure DeepLinkConfigBuilder where
  hostname : Option String
  addresses : Option (List String)
  username : Option String
  password : Option String
  clientRandomPrefix : Option String
  customSni : Option String
  hasIpv6 : Option Bool
  skipVerification : Option Bool
  certificate : Option Bytes
  upstreamProtocol : Option Protocol
  antiDpi : Option Bool
  name : Option String
  dnsUpstreams : Option (List String)

/-- `Option::ok_or`. -/
def okOr {α : Type} (value : Option α) (error : DeepLinkError) : Except DeepLinkError α :=
  match value with
  | some value => .ok value
  | none => .error error

/-- `hex::decode` of a part of the client random, for its check only. -/
def checkHex (crates : Crates) (subject text : String) : Except DeepLinkError Unit :=
  match crates.hexDecode text with
  | .ok _ => .ok ()
  | .error error => .error (.invalidAddress s!"{subject} must be valid hex: {error}")

/-- The builder checks a client random prefix that is there and not empty. -/
def checkClientRandomPrefix (crates : Crates) : Option String → Except DeepLinkError Unit
  | some text => if text ≠ "" then checkHex crates "client_random_prefix" text else .ok ()
  | none => .ok ()

namespace DeepLinkConfigBuilder

def build (crates : Crates) (self : DeepLinkConfigBuilder) :
    Except DeepLinkError DeepLinkConfig := do
  checkClientRandomPrefix crates self.clientRandomPrefix
  let hostname ← okOr self.hostname (.missingRequiredField "hostname")
  let addresses ← okOr self.addresses (.missingRequiredField "addresses")
  let username ← okOr self.username (.missingRequiredField "username")
  let password ← okOr self.password (.missingRequiredField "password")
  let cfg : DeepLinkConfig := {
    hostname
    addresses
    username
    password
    clientRandomPrefix := self.clientRandomPrefix
    customSni := self.customSni
    hasIpv6 := self.hasIpv6.getD true
    skipVerification := self.skipVerification.getD false
    certificate := self.certificate
    upstreamProtocol := self.upstreamProtocol.getD .http2
    antiDpi := self.antiDpi.getD false
    name := self.name
    dnsUpstreams := self.dnsUpstreams.getD [] }
  cfg.validate
  return cfg

end DeepLinkConfigBuilder

/-!
## Encoding and decoding deep links

A deep link is the base64url form of a sequence of entries, each with a tag, a length
and a value. Where the code keeps an offset into the data, the definitions here keep
the bytes behind it.
-/

open Endpoint Rfc9000

/-! ## Integers -/

def encodeVarint (value : Nat) : Except DeepLinkError Bytes :=
  if value ≤ 0x3F then .ok [.ofNat value]
  else if value ≤ 0x3FFF then .ok (Wire.beBytes 2 (value ||| 0x4000))
  else if value ≤ 0x3FFFFFFF then .ok (Wire.beBytes 4 (value ||| 0x80000000))
  else if value ≤ 0x3FFFFFFFFFFFFFFF then .ok (Wire.beBytes 8 (value ||| 0xC000000000000000))
  else .error (.varintOverflow value)

/-- A varint of more than one byte. -/
def decodeLong (width mask : Nat) (data : Bytes) : Except IoError (Nat × Bytes) :=
  if data.length < width then .error ⟨.unexpectedEof, s!"truncated {width}-byte varint"⟩
  else .ok (Wire.beNat (data.take width) &&& mask, data.drop width)

def decodeVarint (data : Bytes) : Except IoError (Nat × Bytes) :=
  match data with
  | [] => .error ⟨.unexpectedEof, "unexpected end of data while reading varint"⟩
  | first :: rest =>
    if first >>> 6 = 0 then .ok ((first &&& 0x3F).toNat, rest)
    else if first >>> 6 = 1 then decodeLong 2 0x3FFF data
    else if first >>> 6 = 2 then decodeLong 4 0x3FFFFFFF data
    else decodeLong 8 0x3FFFFFFFFFFFFFFF data

/-! ## Encoding -/

def encodeTlv (tag : TlvTag) (value : Bytes) : Except DeepLinkError Bytes := do
  let result ← encodeVarint tag.asU8.toNat
  let length ← encodeVarint value.length
  return result ++ length ++ value

def encodeStringField (tag : TlvTag) (value : String) : Except DeepLinkError Bytes :=
  encodeTlv tag (.ofString value)

def encodeBoolField (tag : TlvTag) (value : Bool) : Except DeepLinkError Bytes :=
  encodeTlv tag (if value then [0x01] else [0x00])

def encodeProtocolField (protocol : Protocol) : Except DeepLinkError Bytes :=
  encodeTlv .upstreamProtocol [protocol.asU8]

def encodeStringArray : List String → Except DeepLinkError Bytes
  | [] => .ok []
  | text :: strings => do
      let length ← encodeVarint (Bytes.ofString text).length
      let rest ← encodeStringArray strings
      return length ++ Bytes.ofString text ++ rest

/-- The fields of the list, one after the other. -/
def encodeAddresses : List String → Except DeepLinkError Bytes
  | [] => .ok []
  | address :: addresses => do
      let field ← encodeStringField .address address
      let rest ← encodeAddresses addresses
      return field ++ rest

/-- A field that is written only if it is there. -/
def encodeOptional {α : Type} (encode : α → Except DeepLinkError Bytes) :
    Option α → Except DeepLinkError Bytes
  | some value => encode value
  | none => .ok []

/-- A field that is written only on a condition. -/
def encodeWhen (condition : Prop) [Decidable condition] (field : Except DeepLinkError Bytes) :
    Except DeepLinkError Bytes :=
  if condition then field else .ok []

/-- A list of texts as one field. -/
def encodeStringArrayField (tag : TlvTag) (strings : List String) : Except DeepLinkError Bytes := do
  let value ← encodeStringArray strings
  encodeTlv tag value

def encodeTlvPayload (cfg : DeepLinkConfig) : Except DeepLinkError Bytes := do
  cfg.validate
  let versionBytes ← encodeVarint currentVersion
  let version ← encodeTlv .version versionBytes
  let hostname ← encodeStringField .hostname cfg.hostname
  let username ← encodeStringField .username cfg.username
  let password ← encodeStringField .password cfg.password
  let addresses ← encodeAddresses cfg.addresses
  let clientRandomPrefix ← encodeOptional
    (fun text => encodeWhen (text ≠ "") (encodeStringField .clientRandomPrefix text))
    cfg.clientRandomPrefix
  let customSni ← encodeOptional (encodeStringField .customSni) cfg.customSni
  let hasIpv6 ← encodeWhen (cfg.hasIpv6 = false) (encodeBoolField .hasIpv6 false)
  let skipVerification ← encodeWhen (cfg.skipVerification = true)
    (encodeBoolField .skipVerification true)
  let antiDpi ← encodeWhen (cfg.antiDpi = true) (encodeBoolField .antiDpi true)
  let certificate ← encodeOptional (encodeTlv .certificate) cfg.certificate
  let upstreamProtocol ← encodeWhen (cfg.upstreamProtocol ≠ .http2)
    (encodeProtocolField cfg.upstreamProtocol)
  let name ← encodeOptional (encodeStringField .name) cfg.name
  let dnsUpstreams ← encodeWhen (cfg.dnsUpstreams ≠ [])
    (encodeStringArrayField .dnsUpstreams cfg.dnsUpstreams)
  return version ++ hostname ++ username ++ password ++ addresses ++ clientRandomPrefix ++
    customSni ++ hasIpv6 ++ skipVerification ++ antiDpi ++ certificate ++ upstreamProtocol ++
    name ++ dnsUpstreams

def encode (crates : Crates) (cfg : DeepLinkConfig) : Except DeepLinkError String := do
  let payload ← encodeTlvPayload cfg
  return "tt://?" ++ crates.base64Encode payload

/-! ## Decoding -/

def decodeString (data : Bytes) : Except DeepLinkError String :=
  match data.fromUtf8 with
  | some text => .ok text
  | none => .error (.invalidUtf8 data)

def decodeBool (data : Bytes) : Except DeepLinkError Bool :=
  match data with
  | [0x00] => .ok false
  | [0x01] => .ok true
  | [byte] => .error (.invalidBoolean byte)
  | _ => .error (.invalidBoolean (data.head?.getD 0xFF))

def decodeProtocol (data : Bytes) : Except DeepLinkError Protocol :=
  match data with
  | [byte] => Protocol.fromU8 byte
  | _ => .error (.invalidProtocol (data.head?.getD 0xFF))

variable {data rest : Bytes}

lemma length_of_decodeVarint {value : Nat} (read : decodeVarint data = .ok (value, rest)) :
    rest.length < data.length := by
  have long : ∀ {width mask : Nat}, 0 < width → decodeLong width mask data = .ok (value, rest) →
      rest.length < data.length := by
    intro width mask positive read
    rw [decodeLong] at read
    split at read
    · cases read
    · cases read
      rw [List.length_drop]
      omega
  revert read
  fun_cases decodeVarint data with
  | case1 => exact nofun
  | case2 =>
    rintro ⟨⟩
    exact Nat.lt_succ_self _
  | case3 | case4 | case5 => exact long (by decide)

def decodeStringArray (data : Bytes) : Except DeepLinkError (List String) :=
  if data = [] then .ok []
  else
    match _read : decodeVarint data with
    | .error error => .error (.io error)
    | .ok (length, rest) =>
      if rest.length < length then .error (.truncatedListEntry length rest.length)
      else
        match decodeString (rest.take length) with
        | .error error => .error error
        | .ok text =>
          match decodeStringArray (rest.drop length) with
          | .error error => .error error
          | .ok strings => .ok (text :: strings)
termination_by data.length
decreasing_by
  have shorter := length_of_decodeVarint _read
  rw [List.length_drop]
  omega

/-- `TlvParser::next_field`: the tag and the value of the next entry, and the data behind
it. -/
def nextField (data : Bytes) : Option (Except DeepLinkError ((Option TlvTag × Bytes) × Bytes)) :=
  if data = [] then none
  else
    match decodeVarint data with
    | .error error => some (.error (.io error))
    | .ok (tag, rest) =>
      match decodeVarint rest with
      | .error error => some (.error (.io error))
      | .ok (length, rest) =>
        if rest.length < length then
          some (.error (.truncatedTlv (.ofNat tag) length rest.length))
        else
          -- the tag is narrowed to its lowest byte
          some (.ok ((TlvTag.fromU8 (.ofNat tag), rest.take length), rest.drop length))

/-- The local variables of `decode_tlv_payload`. -/
structure Fields where
  hostname : Option String := none
  addresses : List String := []
  username : Option String := none
  password : Option String := none
  customSni : Option String := none
  hasIpv6 : Bool := true
  skipVerification : Bool := false
  certificate : Option Bytes := none
  upstreamProtocol : Protocol := .http2
  antiDpi : Bool := false
  clientRandomPrefix : Option String := none
  name : Option String := none
  dnsUpstreams : List String := []
  deriving DecidableEq

/-- `split_once('/').unwrap_or((text, ""))`. -/
def splitMask (text : String) : String × String :=
  let front := text.toList.takeWhile (· ≠ '/')
  (.ofList front, .ofList (text.toList.drop (front.length + 1)))

/-- The check of a client random prefix with an optional mask. -/
def checkClientRandom (crates : Crates) (text : String) : Except DeepLinkError Unit := do
  let (prefixPart, maskPart) := splitMask text
  checkHex crates "client_random_prefix" prefixPart
  checkHex crates "client_random_prefix mask" maskPart

def onField (crates : Crates) (fields : Fields) (tag : TlvTag) (value : Bytes) :
    Except DeepLinkError Fields :=
  match tag with
  | .version =>
    match decodeVarint value with
    | .error error => .error (.io error)
    | .ok (v, _) =>
      if v > currentVersion then .error (.unsupportedVersion v currentVersion)
      else .ok fields
  | .hostname => do
      let text ← decodeString value
      return { fields with hostname := some text }
  | .address => do
      let text ← decodeString value
      return { fields with addresses := fields.addresses ++ [text] }
  | .customSni => do
      let text ← decodeString value
      return { fields with customSni := some text }
  | .hasIpv6 => do
      let hasIpv6 ← decodeBool value
      return { fields with hasIpv6 }
  | .username => do
      let text ← decodeString value
      return { fields with username := some text }
  | .password => do
      let text ← decodeString value
      return { fields with password := some text }
  | .skipVerification => do
      let skipVerification ← decodeBool value
      return { fields with skipVerification }
  | .certificate => .ok { fields with certificate := some value }
  | .upstreamProtocol => do
      let upstreamProtocol ← decodeProtocol value
      return { fields with upstreamProtocol }
  | .antiDpi => do
      let antiDpi ← decodeBool value
      return { fields with antiDpi }
  | .clientRandomPrefix => do
      let text ← decodeString value
      checkClientRandom crates text
      return { fields with clientRandomPrefix := some text }
  | .name => do
      let text ← decodeString value
      return { fields with name := some text }
  | .dnsUpstreams => do
      let dnsUpstreams ← decodeStringArray value
      return { fields with dnsUpstreams }

/-- An entry whose tag is not known is skipped. -/
def onEntry (crates : Crates) (fields : Fields) (tag : Option TlvTag) (value : Bytes) :
    Except DeepLinkError Fields :=
  match tag with
  | some tag => onField crates fields tag value
  | none => .ok fields

lemma length_of_nextField {field : Option TlvTag × Bytes}
    (next : nextField data = some (.ok (field, rest))) : rest.length < data.length := by
  revert next
  fun_cases nextField data with
  | case1 | case2 | case3 | case4 => exact nofun
  | case5 _ _ _ readTag _ _ readLength =>
    have first := length_of_decodeVarint readTag
    have second := length_of_decodeVarint readLength
    rintro ⟨⟩
    rw [List.length_drop]
    omega

/-- The loop of `decode_tlv_payload` over the entries. -/
def decodeFields (crates : Crates) (fields : Fields) (data : Bytes) : Except DeepLinkError Fields :=
  match _next : nextField data with
  | none => .ok fields
  | some (.error error) => .error error
  | some (.ok ((tag, value), rest)) =>
    match onEntry crates fields tag value with
    | .error error => .error error
    | .ok fields => decodeFields crates fields rest
termination_by data.length
decreasing_by exact length_of_nextField _next

/-- The check for an address. -/
def requireAddress (addresses : List String) : Except DeepLinkError Unit :=
  if addresses = [] then .error (.missingRequiredField "addresses") else .ok ()

/-- The checks behind the loop. -/
def finish (fields : Fields) : Except DeepLinkError DeepLinkConfig := do
  let hostname ← okOr fields.hostname (.missingRequiredField "hostname")
  requireAddress fields.addresses
  let username ← okOr fields.username (.missingRequiredField "username")
  let password ← okOr fields.password (.missingRequiredField "password")
  let cfg : DeepLinkConfig := {
    hostname
    addresses := fields.addresses
    username
    password
    clientRandomPrefix := fields.clientRandomPrefix
    customSni := fields.customSni
    hasIpv6 := fields.hasIpv6
    skipVerification := fields.skipVerification
    certificate := fields.certificate
    upstreamProtocol := fields.upstreamProtocol
    antiDpi := fields.antiDpi
    name := fields.name
    dnsUpstreams := fields.dnsUpstreams }
  cfg.validate
  return cfg

def decodeTlvPayload (crates : Crates) (payload : Bytes) : Except DeepLinkError DeepLinkConfig := do
  let fields ← decodeFields crates {} payload
  finish fields

/-- `str::strip_prefix`. -/
def stripPrefix (text front : String) : Option String :=
  if front.toList.isPrefixOf text.toList then
    some (.ofList (text.toList.drop front.toList.length))
  else none

def decode (crates : Crates) (uri : String) : Except DeepLinkError DeepLinkConfig :=
  if stripPrefix uri "tt://" = none then .error (.invalidScheme (.ofList (uri.toList.take 20)))
  else do
    let encoded ← okOr ((stripPrefix uri "tt://?").or (stripPrefix uri "tt://"))
      (.invalidScheme uri)
    match crates.base64Decode encoded with
    | .error msg => .error (.invalidBase64 msg)
    | .ok payload => decodeTlvPayload crates payload

end TrustTunnel.DeepLink
