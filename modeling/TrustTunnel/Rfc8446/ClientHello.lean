import TrustTunnel.Wire.Bytes

/-!
# Client hello messages of RFC 8446

How a client hello is written in one record, with the server names of RFC 6066. The lengths
are those of the parts; a part that has to fit its length carries the proof.
-/

namespace TrustTunnel.Rfc8446

open Wire

/-- A vector: its length in a number of bytes, and its content. -/
def vector (width : Nat) (content : Bytes) : Bytes := beBytes width content.length ++ content

lemma length_vector (width : Nat) (content : Bytes) :
    (vector width content).length = width + content.length := by
  rw [vector, List.length_append, length_beBytes]

structure ServerName where
  nameType : UInt8
  name : Bytes

namespace ServerName

def render (self : ServerName) : Bytes := self.nameType :: vector 2 self.name

/-- The name is a host name. -/
def isHostName (self : ServerName) : Bool := self.nameType == 0

end ServerName

/-- An extension: the server names, or one of another type. -/
inductive Extension where
  | serverName (names : List ServerName)
  | other (type : Nat) (known : 0 < type ∧ type < 65536) (data : Bytes)

namespace Extension

def type : Extension → Nat
  | serverName _ => 0
  | other type _ _ => type

def data : Extension → Bytes
  | serverName names => vector 2 (names.flatMap ServerName.render)
  | other _ _ data => data

def render (self : Extension) : Bytes := beBytes 2 self.type ++ vector 2 self.data

def names : Extension → List ServerName
  | serverName names => names
  | other _ _ _ => []

end Extension

structure ClientHello where
  legacyVersion : Bytes
  random : Bytes
  legacySessionId : Bytes
  cipherSuites : Bytes
  legacyCompressionMethods : Bytes
  /-- A client hello may end without extensions. -/
  extensions : Option (List Extension)
  version_length : legacyVersion.length = 2
  random_length : random.length = 32
  sessionId_length : legacySessionId.length < 256
  compressionMethods_length : legacyCompressionMethods.length < 256

namespace ClientHello

variable (self : ClientHello)

def renderExtensions : Bytes :=
  match self.extensions with
  | none => []
  | some extensions => vector 2 (extensions.flatMap Extension.render)

def body : Bytes :=
  self.legacyVersion ++ self.random ++ vector 1 self.legacySessionId ++
    vector 2 self.cipherSuites ++ vector 1 self.legacyCompressionMethods ++ self.renderExtensions

/-- The handshake message. -/
def message : Bytes := 1 :: vector 3 self.body

/-- The host names in the order in which they are written. -/
def hostNames : List Bytes :=
  (((self.extensions.getD []).flatMap Extension.names).filter ServerName.isHostName).map
    ServerName.name

end ClientHello

/-- A client hello in one record of TLS 1.0 or a later version. -/
structure HelloRecord where
  legacyRecordVersion : Nat
  hello : ClientHello
  version_known : 769 ≤ legacyRecordVersion ∧ legacyRecordVersion < 65536
  fits : hello.message.length < 65536

def HelloRecord.render (self : HelloRecord) : Bytes :=
  22 :: (beBytes 2 self.legacyRecordVersion ++ vector 2 self.hello.message)

end TrustTunnel.Rfc8446
